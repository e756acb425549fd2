import GotechDesk.Clipboard.FileList

set_option autoImplicit false

namespace GotechDesk.Clipboard

open Segments LittleEndian

-- What try_open leaves behind of its checks.
structure Listed (file : LocalFile) : Prop where
  valid : validateFileName file.descriptorName = .ok ()
  short : (Utf16.units file.descriptorName).length ≤ maxFileNameCodeUnits

theorem descriptor_name_listed (relativeRoot path : OsPath) (name : Name) (valid : validatedDescriptorName relativeRoot path = .ok name) :
    validateFileName name = .ok () ∧ (Utf16.units name).length ≤ maxFileNameCodeUnits := by
  unfold validatedDescriptorName at valid
  split at valid
  · cases valid
  · dsimp only at valid
    split at valid
    · cases valid
    · split at valid
      · cases valid
      · rename_i checked
        split at valid
        · cases valid
        · rename_i short
          obtain rfl := Except.ok.inj valid
          exact ⟨checked, by omega⟩

theorem try_open_listed (metadata : OsPath → Except String Metadata) (relativeRoot path : OsPath) (file : LocalFile)
    (opened : LocalFile.tryOpen metadata relativeRoot path = .ok file) : Listed file := by
  unfold LocalFile.tryOpen at opened
  split at opened
  · cases opened
  · rename_i name valid
    split at opened
    · cases opened
    · obtain rfl := Except.ok.inj opened
      obtain ⟨checked, short⟩ := descriptor_name_listed relativeRoot path name valid
      exact ⟨checked, short⟩

theorem valid_no_null (name : Name) (valid : validateFileName name = .ok ()) : '\x00' ∉ name := by
  intro null
  unfold validateFileName at valid
  split at valid
  · cases valid
  · have listed : name.contains '\x00' = true := List.contains_iff_mem.mpr null
    rw [FileTransfer.validateFileNameNoTraversal, if_pos listed] at valid
    cases valid

theorem put_two_zero (unit : Nat) (small : unit < 0x10000) (same : put 2 unit = [0, 0]) : unit = 0 := by
  have value := get_put_small 2 unit small
  rw [same] at value
  exact value.symm

theorem find_null (all : List Nat) (rest : List (List UInt8)) (small : ∀ unit ∈ all, unit < 0x10000) (text : ∀ unit ∈ all, unit ≠ 0) :
    ((all.map (put 2)) ++ [0, 0] :: rest).findIdx? (fun unit => unit = [0, 0]) = some all.length := by
  induction all with
  | nil => simp [List.findIdx?_cons]
  | cons unit others ih =>
      have here : ¬put 2 unit = [0, 0] := fun same => text unit (by simp) (put_two_zero unit (small unit (by simp)) same)
      have later := ih (fun other member => small other (by simp [member])) (fun other member => text other (by simp [member]))
      rw [List.map_cons, List.cons_append, List.findIdx?_cons, if_neg (by simpa using here), later]
      rfl

-- The field holds the name up to its null, whatever the padding is.
theorem name_block_put (name : Name) (padding : List UInt8) (text : '\x00' ∉ name) :
    nameBlock (Utf16.bytes name ++ (put 2 0 ++ padding)) = some (Utf16.bytes name) := by
  have cut : Utf16.pairs (Utf16.bytes name ++ (put 2 0 ++ padding)) = (Utf16.units name).map (put 2) ++ [0, 0] :: Utf16.pairs padding :=
    Utf16.pairs_units (Utf16.units name) (put 2 0 ++ padding)
  have found := find_null (Utf16.units name) (Utf16.pairs padding) (Utf16.units_bound name) (Utf16.units_nonzero name text)
  rw [nameBlock, cut, found, Option.map_some]
  congr 1
  apply List.take_left'
  rw [Utf16.bytes_length]
  omega

section
variable (wide : WideStrings)

-- What the crate documents of its two conversions.
structure WideStrings.Lawful : Prop where
  encodes : ∀ text, wide.encode text = Utf16.bytes text
  decodes : ∀ text, wide.decode (Utf16.bytes text) = some text

def LocalFile.nameField (file : LocalFile) : List UInt8 :=
  Utf16.bytes file.descriptorName ++ (put 2 0 ++ List.replicate (fileNameFieldSize - ((Utf16.bytes file.descriptorName).length + 2)) 0)

theorem name_field_length (file : LocalFile) (listed : Listed file) : file.nameField.length = fileNameFieldSize := by
  have short := listed.short
  have size := Utf16.bytes_length file.descriptorName
  simp only [maxFileNameCodeUnits, fileNameCodeUnits] at short
  simp only [LocalFile.nameField, List.length_append, put_length, List.length_replicate, fileNameFieldSize, fileNameCodeUnits]
  omega

theorem put_name_listed (lawful : wide.Lawful) (file : LocalFile) (listed : Listed file) :
    file.putDescriptorName wide = .ok file.nameField := by
  have short := listed.short
  have size := Utf16.bytes_length file.descriptorName
  simp only [maxFileNameCodeUnits, fileNameCodeUnits] at short
  rw [LocalFile.putDescriptorName, listed.valid]
  dsimp only
  rw [lawful.encodes, if_neg (by simp only [fileNameFieldSize, fileNameCodeUnits]; omega), List.append_assoc]
  rfl

theorem as_bin_listed (lawful : wide.Lawful) (file : LocalFile) (listed : Listed file) :
    ∃ record, file.asBin wide = .ok record ∧ record.length = fileDescriptorSize ∧ record =
      put 4 LocalFile.flags ++ (List.replicate 32 0 ++ (put 4 file.fileAttributes ++ (List.replicate 12 0 ++
        (put 4 file.perm.toNat ++ (put 8 file.win32Time ++ (put 4 (file.size.toNat / 2 ^ 32) ++
          (put 4 (file.size.toNat % 2 ^ 32) ++ file.nameField))))))) := by
  refine ⟨_, ?_, ?_, rfl⟩
  · rw [LocalFile.asBin, put_name_listed wide lawful file listed]
  · simp only [List.length_append, put_length, List.length_replicate, name_field_length file listed, fileNameFieldSize,
      fileNameCodeUnits, fileDescriptorSize]

def roundedTime (time : Int) : Int := time - time % 100

-- The entry a peer reads for a file: what survives the format.
def described (connId : Int32) (file : LocalFile) : FileDescription where
  connId := connId
  name := file.descriptorName
  kind := if file.isDir then .directory else .file
  atime := roundedTime file.lastWriteTime
  lastModified := roundedTime file.lastWriteTime
  lastMetadataChanged := roundedTime file.lastWriteTime
  creationTime := roundedTime file.lastWriteTime
  size := file.size.toNat
  perm := file.perm.toNat % 2 ^ 16

theorem drop_zeros (n : Nat) (rest : List UInt8) : (List.replicate n (0 : UInt8) ++ rest).drop n = rest :=
  List.drop_left' List.length_replicate

section
variable (file : LocalFile)

theorem attributes_small : file.fileAttributes < 256 ^ 4 := by
  unfold LocalFile.fileAttributes
  cases file.readOnly <;> cases file.hidden <;> cases file.system <;> cases file.isDir <;> cases file.archive <;> cases file.normal <;>
    decide

theorem attributes_directory : file.fileAttributes &&& 0x10 ≠ 0 ↔ file.isDir = true := by
  unfold LocalFile.fileAttributes
  cases file.readOnly <;> cases file.hidden <;> cases file.system <;> cases file.isDir <;> cases file.archive <;> cases file.normal <;>
    decide

theorem time_small : file.win32Time < 256 ^ 8 := by
  have cut := Nat.mod_lt file.lastWriteTime.toNat (show 0 < 2 ^ 64 by decide)
  simp only [LocalFile.win32Time, ldapEpochDelta]
  omega

theorem time_parsed (after : 0 ≤ file.lastWriteTime) (before : file.lastWriteTime < 2 ^ 64) :
    parsedTime LocalFile.flags file.win32Time = roundedTime file.lastWriteTime := by
  obtain ⟨nanos, same⟩ := Int.eq_ofNat_of_zero_le after
  have small : nanos < 2 ^ 64 := by omega
  have set : LocalFile.flags &&& flagsFdLastWrite ≠ 0 ∧ file.win32Time ≥ ldapEpochDelta :=
    ⟨by decide, by simp only [LocalFile.win32Time]; omega⟩
  rw [parsedTime, if_pos set, LocalFile.win32Time, same, Int.toNat_natCast, Nat.mod_eq_of_lt small, roundedTime]
  omega

end

theorem plain_name (name : Name) (plain : '\\' ∉ name) : name.map (fun c => if c = '\\' then '/' else c) = name := by
  conv => rhs; rw [← List.map_id name]
  apply List.map_congr_left
  intro c member
  exact if_neg (fun same : c = '\\' => plain (same ▸ member))

theorem parse_listed (lawful : wide.Lawful) (connId : Int32) (file : LocalFile) (rest : List UInt8) (listed : Listed file)
    (plain : '\\' ∉ file.descriptorName) (after : 0 ≤ file.lastWriteTime) (before : file.lastWriteTime < 2 ^ 64)
    (record : List UInt8) (written : file.asBin wide = .ok record) :
    parseFileDescriptor wide (record ++ rest) connId = .ok (described connId file) := by
  obtain ⟨layout, encoded, _, rfl⟩ := as_bin_listed wide lawful file listed
  obtain rfl : _ = record := Except.ok.inj (encoded.symm.trans written)
  have block : (file.nameField ++ rest).take fileNameFieldSize = file.nameField := List.take_left' (name_field_length file listed)
  have named : parsedName wide file.nameField = .ok file.descriptorName := by
    rw [parsedName, LocalFile.nameField, name_block_put _ _ (valid_no_null _ listed.valid)]
    dsimp only
    rw [lawful.decodes]
  have permSmall : file.perm.toNat < 256 ^ 4 := file.perm.toNat_lt
  have sizeSmall : file.size.toNat < 2 ^ 64 := file.size.toNat_lt
  have flags := get_put_small 4 LocalFile.flags (by decide)
  have attributes := get_put_small 4 file.fileAttributes (attributes_small file)
  have perm := get_put_small 4 file.perm.toNat permSmall
  have time := get_put_small 8 file.win32Time (time_small file)
  have high := get_put_small 4 (file.size.toNat / 2 ^ 32) (by omega)
  have low := get_put_small 4 (file.size.toNat % 2 ^ 32) (by omega)
  have whole : file.size.toNat / 2 ^ 32 * 2 ^ 32 + file.size.toNat % 2 ^ 32 = file.size.toNat := Nat.div_add_mod' _ _
  unfold parseFileDescriptor
  simp only [List.append_assoc, take_put, drop_put, drop_zeros, flags, attributes, perm, time, high, low, block, named,
    plain_name _ plain, listed.valid, time_parsed file after before, attributes_directory, whole]
  rw [if_neg (by decide)]
  rfl

-- A file that was opened, with a time the format can hold and no backslash in its name.
structure Sendable (file : LocalFile) : Prop where
  opened : ∃ metadata relativeRoot path, LocalFile.tryOpen metadata relativeRoot path = .ok file
  after : 0 ≤ file.lastWriteTime
  before : file.lastWriteTime < 2 ^ 64
  plain : '\\' ∉ file.descriptorName

theorem sendable_listed (file : LocalFile) (sendable : Sendable file) : Listed file := by
  obtain ⟨metadata, relativeRoot, path, opened⟩ := sendable.opened
  exact try_open_listed metadata relativeRoot path file opened

theorem sendable_record (lawful : wide.Lawful) (file : LocalFile) (sendable : Sendable file) :
    ∃ record, file.asBin wide = .ok record ∧ record.length = fileDescriptorSize := by
  obtain ⟨record, written, length, _⟩ := as_bin_listed wide lawful file (sendable_listed file sendable)
  exact ⟨record, written, length⟩

theorem records_parsed (lawful : wide.Lawful) (connId : Int32) (files : List LocalFile) (sendable : ∀ file ∈ files, Sendable file) :
    ∃ records, recordsOf wide files = .ok records ∧ records.length = fileDescriptorSize * files.length ∧
      parseEach wide connId files.length records = .ok (files.map (described connId)) := by
  induction files with
  | nil => exact ⟨[], rfl, rfl, rfl⟩
  | cons file rest ih =>
      obtain ⟨records, written, length, parsed⟩ := ih (fun other member => sendable other (by simp [member]))
      have here := sendable file (by simp)
      obtain ⟨record, own, size⟩ := sendable_record wide lawful file here
      have first := parse_listed wide lawful connId file records (sendable_listed file here) here.plain here.after here.before record own
      refine ⟨record ++ records, ?_, ?_, ?_⟩
      · rw [recordsOf, own]
        dsimp only
        rw [written]
      · rw [List.length_append, size, length, List.length_cons, Nat.mul_succ, Nat.add_comm]
      · rw [List.length_cons, parseEach, first]
        dsimp only
        rw [List.drop_left' size, parsed]
        rfl

theorem pdu_listed (lawful : wide.Lawful) (connId : Int32) (files : List LocalFile) (sendable : ∀ file ∈ files, Sendable file) :
    ∃ records, buildFileListPdu wide files = .ok (put 4 files.length ++ records) ∧
      records.length = fileDescriptorSize * files.length ∧ parseEach wide connId files.length records = .ok (files.map (described connId)) := by
  obtain ⟨records, written, length, parsed⟩ := records_parsed wide lawful connId files sendable
  refine ⟨records, ?_, length, parsed⟩
  rw [buildFileListPdu, written]

-- What the list says of a file comes back, for any list whose length the count holds.
theorem file_list_round_trip (lawful : wide.Lawful) (connId : Int32) (files : List LocalFile) (sendable : ∀ file ∈ files, Sendable file)
    (fits : files.length < 2 ^ 32) :
    (∀ file ∈ files, ∃ record, file.asBin wide = .ok record ∧ record.length = fileDescriptorSize) ∧
      ∃ pdu, buildFileListPdu wide files = .ok pdu ∧ parseFileDescriptors wide pdu connId = .ok (files.map (described connId)) := by
  refine ⟨fun file member => sendable_record wide lawful file (sendable file member), ?_⟩
  obtain ⟨records, written, length, parsed⟩ := pdu_listed wide lawful connId files sendable
  refine ⟨_, written, ?_⟩
  have count := get_put_small 4 files.length fits
  unfold parseFileDescriptors
  rw [if_neg (by rw [List.length_append, put_length]; omega), take_put, drop_put]
  dsimp only
  rw [count]
  by_cases empty : records = [] ∧ files.length = 0
  · rw [if_pos empty, List.eq_nil_of_length_eq_zero empty.2]
    rfl
  · rw [if_neg empty, if_neg (by simp [length]), parsed]

-- A longer list is sent with the count cut to 32 bits, and the peer refuses it.
theorem long_list_refused (lawful : wide.Lawful) (connId : Int32) (files : List LocalFile) (sendable : ∀ file ∈ files, Sendable file)
    (long : 2 ^ 32 ≤ files.length) :
    ∃ pdu, buildFileListPdu wide files = .ok pdu ∧
      parseFileDescriptors wide pdu connId = .error (.invalidRequest "file descriptor request with invalid length") := by
  obtain ⟨records, written, length, _⟩ := pdu_listed wide lawful connId files sendable
  refine ⟨_, written, ?_⟩
  have count := get_put 4 files.length
  have cut : files.length % 256 ^ 4 < 256 ^ 4 := Nat.mod_lt _ (by decide)
  simp only [fileDescriptorSize] at length
  unfold parseFileDescriptors
  rw [if_neg (by rw [List.length_append, put_length]; omega), take_put, drop_put]
  dsimp only
  rw [count, if_neg, if_pos]
  · simp only [length, fileDescriptorSize]
    omega
  · rintro ⟨empty, _⟩
    rw [empty, List.length_nil] at length
    omega

end

def utf16Strings : WideStrings where
  encode := Utf16.bytes
  decode := Utf16.decodeBytes

theorem utf16_lawful : utf16Strings.Lawful := ⟨fun _ => rfl, Utf16.decode_bytes⟩

-- The file "r/😀" under the root "r".
def sharedFile : LocalFile where
  path := [0x72, 0x2F, 0xF0, 0x9F, 0x98, 0x80]
  descriptorName := ['😀']
  size := 2 ^ 40 + 5
  lastWriteTime := 1700000000123456789
  isDir := false
  perm := 0o100644
  readOnly := false
  hidden := false
  system := false
  archive := false
  normal := true

theorem shared_file_sendable : Sendable sharedFile := by
  refine ⟨⟨fun _ => .ok ⟨2 ^ 40 + 5, some 1700000000123456789, 0o100644⟩, [0x72], sharedFile.path, ?_⟩, by decide, by decide, by decide⟩
  rfl

theorem file_list_round_trip_shared : ∃ pdu, buildFileListPdu utf16Strings [sharedFile] = .ok pdu ∧
    parseFileDescriptors utf16Strings pdu 7 = .ok [described 7 sharedFile] :=
  (file_list_round_trip utf16Strings utf16_lawful 7 [sharedFile] (by simpa using shared_file_sendable) (by simp)).2

theorem file_list_count_cut : ∃ files : List LocalFile, (∀ file ∈ files, Sendable file) ∧
    ∃ pdu, buildFileListPdu utf16Strings files = .ok pdu ∧
      parseFileDescriptors utf16Strings pdu 7 = .error (.invalidRequest "file descriptor request with invalid length") := by
  have all : ∀ file ∈ List.replicate (2 ^ 32) sharedFile, Sendable file := by
    intro file member
    rw [List.eq_of_mem_replicate member]
    exact shared_file_sendable
  have long : 2 ^ 32 ≤ (List.replicate (2 ^ 32) sharedFile).length := Nat.le_of_eq List.length_replicate.symm
  exact ⟨_, all, long_list_refused utf16Strings utf16_lawful 7 _ all long⟩

end GotechDesk.Clipboard
