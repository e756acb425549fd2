import GotechDesk.Clipboard.ParseDescriptors

set_option autoImplicit false

namespace GotechDesk.Clipboard

open Checked FileTransfer LittleEndian Segments

theorem advance_within (count : Nat) (bytes : List UInt8) (within : count ≤ bytes.length) : advance count bytes = some (bytes.drop count) :=
  if_pos within

theorem getLe_within (width : Nat) (bytes : List UInt8) (within : width ≤ bytes.length) :
    getLe width bytes = some (get (bytes.take width), bytes.drop width) := by
  rw [getLe, advance_within width bytes within]
  rfl

def rawRecord (bytes : List UInt8) : RawRecord where
  flags := get (bytes.take 4)
  attributes := get ((bytes.drop 36).take 4)
  perm := get ((bytes.drop 52).take 4) % 2 ^ 16
  lastWriteTime := get ((bytes.drop 56).take 8)
  fileSizeHigh := get ((bytes.drop 64).take 4)
  fileSizeLow := get ((bytes.drop 68).take 4)
  block := (bytes.drop 72).take fileNameFieldSize

-- A record of 592 bytes is read to its end and no further.
theorem read_record (bytes : List UInt8) (whole : fileDescriptorSize ≤ bytes.length) :
    readRecord bytes = some (rawRecord bytes, bytes.drop fileDescriptorSize) := by
  unfold fileDescriptorSize at whole
  unfold readRecord
  simp only [getLe_within, advance_within, List.length_drop, List.drop_drop, Option.bind_some, Option.map_some, fileNameFieldSize,
    fileNameCodeUnits, show 4 ≤ bytes.length by omega, show 32 ≤ bytes.length - 4 by omega, show 4 ≤ bytes.length - (4 + 32) by omega,
    show 12 ≤ bytes.length - (4 + 32 + 4) by omega, show 4 ≤ bytes.length - (4 + 32 + 4 + 12) by omega,
    show 8 ≤ bytes.length - (4 + 32 + 4 + 12 + 4) by omega, show 4 ≤ bytes.length - (4 + 32 + 4 + 12 + 4 + 8) by omega,
    show 4 ≤ bytes.length - (4 + 32 + 4 + 12 + 4 + 8 + 4) by omega, show 260 * 2 ≤ bytes.length - (4 + 32 + 4 + 12 + 4 + 8 + 4 + 4) by omega]
  rfl

theorem checked_size (high low : Nat) (upper : high < 2 ^ 32) (lower : low < 2 ^ 32) : checkedSize high low = some (high * 2 ^ 32 + low) := by
  have shifted : high * 2 ^ 32 % 2 ^ 64 = high * 2 ^ 32 := Nat.mod_eq_of_lt (by omega)
  rw [checkedSize, unsignedShl, if_pos (by decide), shifted, Option.bind_some]
  exact unsigned_fits 64 _ (by omega)

-- The last write time is converted, and its hundreds of nanoseconds do not fit 64 bits.
def TimeOverflows (flags lastWriteTime : Nat) : Prop :=
  flags &&& flagsFdLastWrite ≠ 0 ∧ ldapEpochDelta ≤ lastWriteTime ∧ 2 ^ 64 ≤ (lastWriteTime - ldapEpochDelta) * 100

instance (flags lastWriteTime : Nat) : Decidable (TimeOverflows flags lastWriteTime) := by
  unfold TimeOverflows
  infer_instance

theorem checked_time (flags lastWriteTime : Nat) :
    checkedTime flags lastWriteTime = if TimeOverflows flags lastWriteTime then none else some (parsedTime flags lastWriteTime) := by
  unfold checkedTime parsedTime
  by_cases valid : flags &&& flagsFdLastWrite ≠ 0 ∧ lastWriteTime ≥ ldapEpochDelta
  · rw [if_pos valid, if_pos valid, unsignedSub, if_pos valid.2, Option.bind_some]
    by_cases fits : (lastWriteTime - ldapEpochDelta) * 100 < 2 ^ 64
    · rw [unsigned_fits 64 _ fits, if_neg (fun past => absurd fits (Nat.not_lt.mpr past.2.2)), Nat.mod_eq_of_lt fits]
      rfl
    · rw [unsigned, if_neg fits, if_pos ⟨valid.1, valid.2, Nat.not_lt.mp fits⟩]
      rfl
  · rw [if_neg valid, if_neg valid, if_neg (fun past => valid ⟨past.1, past.2.1⟩)]

section
variable (wide : WideStrings)

-- The record gets as far as its time, and the time does not fit.
def Overflows (bytes : List UInt8) : Prop :=
  (∃ name, parsedName wide (rawRecord bytes).block = .ok name) ∧ (rawRecord bytes).flags &&& flagsFdAttributes ≠ 0 ∧
    TimeOverflows (rawRecord bytes).flags (rawRecord bytes).lastWriteTime

theorem raw_sizes (bytes : List UInt8) : (rawRecord bytes).fileSizeHigh < 2 ^ 32 ∧ (rawRecord bytes).fileSizeLow < 2 ^ 32 :=
  ⟨get_take_small 4 _, get_take_small 4 _⟩

section
variable (bytes : List UInt8) (connId : Int32)

theorem parse_unnamed (error : CliprdrError) (unnamed : parsedName wide (rawRecord bytes).block = .error error) :
    parseFileDescriptor wide bytes connId = .error error := by
  unfold parseFileDescriptor
  simp only [List.drop_drop]
  have block : parsedName wide ((bytes.drop 72).take fileNameFieldSize) = .error error := unnamed
  rw [block]

theorem parse_named (wstr : Name) (named : parsedName wide (rawRecord bytes).block = .ok wstr) : parseFileDescriptor wide bytes connId =
      if (rawRecord bytes).flags &&& flagsFdAttributes = 0 then .error (.invalidRequest "file description must have valid attributes")
      else (rawRecord bytes).finish connId wstr ((rawRecord bytes).fileSizeHigh * 2 ^ 32 + (rawRecord bytes).fileSizeLow)
        (parsedTime (rawRecord bytes).flags (rawRecord bytes).lastWriteTime) := by
  unfold parseFileDescriptor
  simp only [List.drop_drop]
  have block : parsedName wide ((bytes.drop 72).take fileNameFieldSize) = .ok wstr := named
  rw [block]
  rfl

-- The parser as it runs and the parser with unbounded numbers agree until a time overflows.
theorem describe_record : (¬Overflows wide bytes → (rawRecord bytes).describe wide connId = some (parseFileDescriptor wide bytes connId)) ∧
    (Overflows wide bytes → (rawRecord bytes).describe wide connId = none) := by
  unfold RawRecord.describe
  cases named : parsedName wide (rawRecord bytes).block with
  | error error =>
      rw [parse_unnamed wide bytes connId error named]
      refine ⟨fun _ => rfl, ?_⟩
      rintro ⟨⟨name, other⟩, _⟩
      cases named.symm.trans other
  | ok wstr =>
      dsimp only
      rw [parse_named wide bytes connId wstr named]
      by_cases attributes : (rawRecord bytes).flags &&& flagsFdAttributes = 0
      · rw [if_pos attributes, if_pos attributes]
        exact ⟨fun _ => rfl, fun past => absurd attributes past.2.1⟩
      · obtain ⟨high, low⟩ := raw_sizes bytes
        rw [if_neg attributes, if_neg attributes, checked_size _ _ high low, Option.bind_some, checked_time]
        constructor
        · intro fits
          rw [if_neg (fun time => fits ⟨⟨wstr, named⟩, attributes, time⟩)]
          rfl
        · intro past
          rw [if_pos past.2.2]
          rfl

theorem checked_descriptor (whole : fileDescriptorSize ≤ bytes.length) :
    (¬Overflows wide bytes → checkedDescriptor wide bytes connId = some (parseFileDescriptor wide bytes connId, bytes.drop fileDescriptorSize)) ∧
    (Overflows wide bytes → checkedDescriptor wide bytes connId = none) := by
  obtain ⟨agrees, stops⟩ := describe_record wide bytes connId
  unfold checkedDescriptor
  rw [read_record bytes whole, Option.bind_some]
  constructor
  · intro fits
    rw [agrees fits]
    rfl
  · intro past
    rw [stops past]
    rfl

end

-- No record that the parser reaches has a time that overflows.
def Timely (connId : Int32) (count : Nat) (bytes : List UInt8) : Prop :=
  ∀ i < count, (∀ j < i, ∃ desc, parseFileDescriptor wide (bytes.drop (fileDescriptorSize * j)) connId = .ok desc) →
    ¬Overflows wide (bytes.drop (fileDescriptorSize * i))

theorem timely_succ (connId : Int32) (count : Nat) (bytes : List UInt8) :
    Timely wide connId (count + 1) bytes ↔ ¬Overflows wide bytes ∧
      ((∃ desc, parseFileDescriptor wide bytes connId = .ok desc) → Timely wide connId count (bytes.drop fileDescriptorSize)) := by
  have later : ∀ i, (bytes.drop fileDescriptorSize).drop (fileDescriptorSize * i) = bytes.drop (fileDescriptorSize * (i + 1)) := by
    intro i
    rw [List.drop_drop, Nat.mul_succ, Nat.add_comm]
  constructor
  · intro timely
    refine ⟨timely 0 (Nat.succ_pos _) (fun j none => absurd none (Nat.not_lt_zero j)), ?_⟩
    intro first i inside earlier
    rw [later]
    refine timely (i + 1) (Nat.succ_lt_succ inside) (fun j before => ?_)
    cases j with
    | zero => exact first
    | succ j =>
        rw [← later]
        exact earlier j (Nat.lt_of_succ_lt_succ before)
  · rintro ⟨fits, rest⟩ i inside earlier
    cases i with
    | zero => exact fits
    | succ i =>
        rw [← later]
        refine rest (earlier 0 (Nat.succ_pos _)) i (Nat.lt_of_succ_lt_succ inside) (fun j before => ?_)
        rw [later]
        exact earlier (j + 1) (Nat.succ_lt_succ before)

theorem checked_each (connId : Int32) (count : Nat) (bytes : List UInt8) (whole : bytes.length = fileDescriptorSize * count) :
    (Timely wide connId count bytes → checkedEach wide connId count bytes = some (parseEach wide connId count bytes)) ∧
    (¬Timely wide connId count bytes → checkedEach wide connId count bytes = none) := by
  induction count generalizing bytes with
  | zero => exact ⟨fun _ => rfl, fun late => absurd (fun i none => absurd none (Nat.not_lt_zero i)) late⟩
  | succ count ih =>
      rw [Nat.mul_succ] at whole
      have left : (bytes.drop fileDescriptorSize).length = fileDescriptorSize * count := by
        rw [List.length_drop, whole, Nat.add_sub_cancel]
      obtain ⟨agrees, stops⟩ := checked_descriptor wide bytes connId (by omega)
      obtain ⟨restAgrees, restStops⟩ := ih (bytes.drop fileDescriptorSize) left
      rw [timely_succ]
      by_cases past : Overflows wide bytes
      · refine ⟨fun timely => absurd past timely.1, fun _ => ?_⟩
        rw [checkedEach, stops past]
        rfl
      · rw [checkedEach, agrees past, Option.bind_some, parseEach]
        cases parsed : parseFileDescriptor wide bytes connId with
        | error error => exact ⟨fun _ => rfl, fun late => absurd ⟨past, fun accepted => by cases accepted.choose_spec⟩ late⟩
        | ok desc =>
            constructor
            · intro timely
              rw [restAgrees (timely.2 ⟨desc, rfl⟩)]
              cases parseEach wide connId count (bytes.drop fileDescriptorSize) <;> rfl
            · intro late
              rw [restStops (fun timely => late ⟨past, fun _ => timely⟩)]
              rfl

-- The list is as long as its header says, and no record the parser reaches overflows.
def ListTimely (pdu : List UInt8) (connId : Int32) : Prop :=
  pdu.length = 4 + fileDescriptorSize * get (pdu.take 4) → Timely wide connId (get (pdu.take 4)) (pdu.drop 4)

theorem checked_descriptors (pdu : List UInt8) (connId : Int32) :
    (ListTimely wide pdu connId → checkedDescriptors wide pdu connId = some (parseFileDescriptors wide pdu connId)) ∧
    (¬ListTimely wide pdu connId → checkedDescriptors wide pdu connId = none) := by
  unfold checkedDescriptors parseFileDescriptors
  by_cases short : pdu.length < 4
  · rw [if_pos short, if_pos short]
    exact ⟨fun _ => rfl, fun late => absurd (fun whole => by omega) late⟩
  · rw [if_neg short, if_neg short, getLe_within 4 pdu (Nat.not_lt.mp short), Option.bind_some]
    have small : get (pdu.take 4) < 2 ^ 32 := get_take_small 4 pdu
    have data : (pdu.drop 4).length = pdu.length - 4 := List.length_drop
    by_cases empty : pdu.drop 4 = [] ∧ get (pdu.take 4) = 0
    · rw [if_pos empty, if_pos empty]
      refine ⟨fun _ => rfl, fun late => absurd (fun _ => ?_) late⟩
      rw [empty.2]
      exact fun i none => absurd none (Nat.not_lt_zero i)
    · rw [if_neg empty, if_neg empty, unsigned_fits 64 _ (by unfold fileDescriptorSize; omega), Option.bind_some]
      by_cases whole : (pdu.drop 4).length = fileDescriptorSize * get (pdu.take 4)
      · rw [if_neg (not_not.mpr whole), if_neg (not_not.mpr whole)]
        obtain ⟨agrees, stops⟩ := checked_each wide connId _ (pdu.drop 4) whole
        exact ⟨fun timely => agrees (timely (by omega)), fun late => stops (fun timely => late (fun _ => timely))⟩
      · rw [if_pos whole, if_pos whole]
        exact ⟨fun _ => rfl, fun late => absurd (fun same => absurd (by omega) whole) late⟩

-- A name that stays below whatever directory it is joined to.
structure SafeName (name : Name) : Prop where
  components : ∀ segment ∈ segments (· == '/') name, segment ≠ [] ∧ segment ≠ ['.'] ∧ segment ≠ ['.', '.']
  relative : name.head? ≠ some '/'
  driveless : isDrivePath name = false
  text : '\x00' ∉ name
  inside : ∀ base, pathKey (Style.unix.push base name) = pathKey base ++ (segments (· == '/') name).map Component.normal

theorem names_plain (pieces : List Name) (plain : ∀ piece ∈ pieces, PlainSegment piece) : names false pieces = pieces.map Component.normal := by
  rw [names_normal false pieces (fun piece member => (plain piece member).notUp), List.filter_eq_self.mpr]
  intro piece member
  simp [(plain piece member).some, (plain piece member).notDot]

theorem valid_safe (name : Name) (valid : validateFileName name = .ok ()) : SafeName name := by
  obtain ⟨plain, some⟩ := valid_unrooted name valid
  have pieces := fun segment member => valid_segment_plain name segment valid member
  refine ⟨fun segment member => ⟨(pieces segment member).some, (pieces segment member).notDot, (pieces segment member).notUp⟩, ?_, ?_,
    valid_no_null name valid, ?_⟩
  · intro rooted
    have unrooted := plain.unrooted
    rw [rooted] at unrooted
    cases unrooted
  · cases drive : isDrivePath name with
    | false => rfl
    | true =>
        unfold validateFileName at valid
        rw [drive, Bool.true_or, if_pos rfl] at valid
        cases valid
  · intro base
    rw [push_plain .unix base name plain rfl, List.append_assoc, pathKey, unix_key_push base name plain.unrooted, unix_sep,
      names_plain _ pieces]
    rfl

theorem finish_safe (record : RawRecord) (connId : Int32) (wstr : Name) (size : Nat) (time : Int) (desc : FileDescription)
    (done : record.finish connId wstr size time = .ok desc) : SafeName desc.name := by
  unfold RawRecord.finish at done
  dsimp only at done
  split at done
  · cases done
  · rename_i valid
    cases done
    exact valid_safe _ valid

theorem parsed_safe (bytes : List UInt8) (connId : Int32) (desc : FileDescription) (done : parseFileDescriptor wide bytes connId = .ok desc) :
    SafeName desc.name := by
  cases named : parsedName wide (rawRecord bytes).block with
  | error error =>
      rw [parse_unnamed wide bytes connId error named] at done
      cases done
  | ok wstr =>
      rw [parse_named wide bytes connId wstr named] at done
      split at done
      · cases done
      · exact finish_safe _ connId wstr _ _ desc done

theorem each_safe (connId : Int32) (count : Nat) (bytes : List UInt8) (descs : List FileDescription)
    (done : parseEach wide connId count bytes = .ok descs) : descs.length = count ∧ ∀ desc ∈ descs, SafeName desc.name := by
  induction count generalizing bytes descs with
  | zero =>
      cases done
      exact ⟨rfl, fun _ none => by cases none⟩
  | succ count ih =>
      unfold parseEach at done
      cases parsed : parseFileDescriptor wide bytes connId with
      | error error =>
          rw [parsed] at done
          cases done
      | ok desc =>
          rw [parsed] at done
          cases rest : parseEach wide connId count (bytes.drop fileDescriptorSize) with
          | error error =>
              rw [rest] at done
              cases done
          | ok others =>
              rw [rest] at done
              cases done
              obtain ⟨length, safe⟩ := ih _ others rest
              exact ⟨congrArg (· + 1) length, List.forall_mem_cons.mpr ⟨parsed_safe wide bytes connId desc parsed, safe⟩⟩

theorem descriptors_safe (pdu : List UInt8) (connId : Int32) (descs : List FileDescription)
    (done : parseFileDescriptors wide pdu connId = .ok descs) :
    pdu.length = 4 + fileDescriptorSize * descs.length ∧ ∀ desc ∈ descs, SafeName desc.name := by
  unfold parseFileDescriptors at done
  have data : (pdu.drop 4).length = pdu.length - 4 := List.length_drop
  split at done
  · cases done
  · rename_i long
    dsimp only at done
    split at done
    · rename_i empty
      cases done
      rw [empty.1, List.length_nil] at data
      exact ⟨by rw [List.length_nil]; omega, fun _ none => by cases none⟩
    · split at done
      · cases done
      · rename_i whole
        obtain ⟨length, safe⟩ := each_safe wide connId _ _ descs done
        have size := not_not.mp whole
        rw [← length] at size
        exact ⟨by omega, safe⟩

-- What the parser must do with any bytes: end without reading past them or overflowing, and
-- accept only a whole number of records with safe names.
def SafelyParsed (pdu : List UInt8) (connId : Int32) : Prop :=
  ∃ result, checkedDescriptors wide pdu connId = some result ∧
    ∀ descs, result = .ok descs → pdu.length = 4 + fileDescriptorSize * descs.length ∧ ∀ desc ∈ descs, SafeName desc.name

end

-- One file "a", last written 2^64 - 1 hundreds of nanoseconds after 1601.
def lateList : List UInt8 :=
  put 4 1 ++ (put 4 (flagsFdAttributes ||| flagsFdLastWrite) ++ (List.replicate 32 0 ++ (put 4 0x80 ++ (List.replicate 16 0 ++
    (List.replicate 8 0xFF ++ (List.replicate 8 0 ++ ([0x61, 0] ++ List.replicate 518 0)))))))

end GotechDesk.Clipboard
