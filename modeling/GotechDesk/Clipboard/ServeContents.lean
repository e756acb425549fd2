import GotechDesk.Clipboard.ServeFiles

set_option autoImplicit false

namespace GotechDesk.Clipboard

-- A file on the list between two requests: its remembered offset is where its reader stands.
structure Settled (disk : Disk) (file : ServedFile) : Prop where
  bounded : file.size.toNat < 2 ^ 63
  unchanged : file.isDir = false → ∃ content, disk file.path = some content ∧ content.length = file.size.toNat
  closed : file.handle = none → file.offset = 0
  placed : ∀ place, file.handle = some place → file.isDir = false ∧ file.offset.toNat = place

section
variable (checks : Bool) (disk : Disk) (faults : Faults)

theorem fresh_settled (listed : ListedFile disk) : Settled disk listed.fresh :=
  ⟨listed.bounded, listed.unchanged, fun _ => rfl, fun _ none => by cases none⟩

inductive Loaded (file : ServedFile) : Except CliprdrError Unit × ServedFile → Prop where
  | failed (error : CliprdrError) : Loaded file (.error error, file)
  | kept (already : file.isDir = false → file.handle ≠ none) : Loaded file (.ok (), file)
  | opened (regular : file.isDir = false) (closed : file.handle = none) : Loaded file (.ok (), { file with handle := some 0 })

theorem load_cases (opened filled : Option String) (file : ServedFile) : Loaded file (file.loadHandle disk opened filled) := by
  unfold ServedFile.loadHandle
  split
  · rename_i needed
    split
    · exact .failed _
    · exact .failed _
    · exact .opened needed.1 needed.2
  · rename_i needed
    exact .kept (fun regular closed => needed ⟨regular, closed⟩)

theorem load_settled (file : ServedFile) (settled : Settled disk file) (result : Except CliprdrError Unit × ServedFile)
    (loaded : Loaded file result) : Settled disk result.2 ∧ result.2.toLocalFile = file.toLocalFile := by
  cases loaded with
  | failed error => exact ⟨settled, rfl⟩
  | kept already => exact ⟨settled, rfl⟩
  | opened regular closed =>
      refine ⟨⟨settled.bounded, settled.unchanged, (fun none => by cases none), ?_⟩, rfl⟩
      intro place same
      cases same
      exact ⟨regular, by rw [settled.closed closed]; rfl⟩

theorem invalidate_settled (file : ServedFile) (err : String) (settled : Settled disk file) : Settled disk (file.invalidateHandle err).2 :=
  ⟨settled.bounded, settled.unchanged, fun _ => rfl, fun _ none => by cases none⟩

theorem advance_settled (file : ServedFile) (newOffset : UInt64) (regular : file.isDir = false) (settled : Settled disk file) :
    Settled disk (file.advance newOffset) ∧ (file.advance newOffset).toLocalFile = file.toLocalFile := by
  unfold ServedFile.advance
  split
  · exact ⟨⟨settled.bounded, settled.unchanged, fun _ => rfl, fun _ none => by cases none⟩, rfl⟩
  · refine ⟨⟨settled.bounded, settled.unchanged, (fun none => by cases none), ?_⟩, rfl⟩
    intro place same
    cases same
    exact ⟨regular, rfl⟩

theorem read_exact_ok (path : OsPath) (place count : Nat) (content data : List UInt8) (held : disk path = some content)
    (done : readExact disk path place count = .ok data) : data = (content.drop place).take count := by
  unfold readExact at done
  rw [held] at done
  dsimp only [Option.getD_some] at done
  split at done
  · exact (Except.ok.inj done).symm
  · cases done

-- Whether it has to seek or not, a read delivers the bytes from the offset it was asked for.
theorem read_from_ok (file : ServedFile) (place count : Nat) (offset : UInt64) (content data : List UInt8)
    (held : disk file.path = some content) (stands : file.offset.toNat = place) (done : file.readFrom disk faults place count offset = .ok data) :
    data = (content.drop offset.toNat).take count := by
  unfold ServedFile.readFrom at done
  split at done
  · split at done
    · cases done
    · cases done
    · exact read_exact_ok disk _ _ _ content data held done
  · rename_i same
    split at done
    · cases done
    · rw [← stands, ← not_not.mp same] at done
      exact read_exact_ok disk _ _ _ content data held done

theorem add_fits (a b : UInt64) (fits : a.toNat + b.toNat < 2 ^ 64) : addU64 checks a b = some (a + b) := by
  unfold addU64
  rw [if_neg (fun both => absurd fits (Nat.not_lt.mpr both.2))]

def Contents (file : LocalFile) (offset count : Nat) (data : List UInt8) : Prop :=
  ∃ content, disk file.path = some content ∧ content.length = file.size.toNat ∧ data = (content.drop offset).take count

theorem read_exact_at_spec (file : ServedFile) (count : Nat) (offset : UInt64) (settled : Settled disk file)
    (room : offset.toNat + count ≤ file.size.toNat) :
    ∃ result after, file.readExactAt checks disk faults count offset = some (result, after) ∧ Settled disk after ∧
      after.toLocalFile = file.toLocalFile ∧ ∀ data, result = .ok data → Contents disk file.toLocalFile offset.toNat count data := by
  have loaded := load_cases disk faults.opened faults.filled file
  obtain ⟨again, same⟩ := load_settled disk file settled _ loaded
  unfold ServedFile.readExactAt
  generalize file.loadHandle disk faults.opened faults.filled = result at again same
  obtain ⟨opened, ready⟩ := result
  cases opened with
  | error error => exact ⟨_, _, rfl, again, same, fun _ failed => by cases failed⟩
  | ok _ =>
      dsimp only
      cases handle : ready.handle with
      | none => exact ⟨_, _, rfl, again, same, fun _ failed => by cases failed⟩
      | some place =>
          dsimp only
          obtain ⟨regular, stands⟩ := again.placed place handle
          cases got : ready.readFrom disk faults place count offset with
          | error err => exact ⟨_, _, rfl, invalidate_settled disk ready err again, same, fun _ failed => by cases failed⟩
          | ok data =>
              have bounded := settled.bounded
              have small : (UInt64.ofNat count).toNat = count := UInt64.toNat_ofNat_of_lt' (by change count < 2 ^ 64; omega)
              have moved := advance_settled disk ready (offset + UInt64.ofNat count) regular again
              refine ⟨.ok data, ready.advance (offset + UInt64.ofNat count), ?_, moved.1, moved.2.trans same, ?_⟩
              · dsimp only
                rw [add_fits checks offset (UInt64.ofNat count) (by rw [small]; omega)]
                rfl
              · intro other done
                cases done
                obtain ⟨content, held, length⟩ := again.unchanged regular
                have exactly := read_from_ok disk faults ready place count offset content data held stands got
                rw [same] at held length
                exact ⟨content, held, length, exactly⟩

-- With no overflow the buffer is what is left of the file, or what was asked for.
theorem read_size_fits (file : ServedFile) (offset length : UInt64) (inside : ¬file.size < offset)
    (fits : offset.toNat + length.toNat < 2 ^ 64) :
    ∃ count, readSize checks file offset length = some count ∧ count.toNat = min (offset.toNat + length.toNat) file.size.toNat - offset.toNat := by
  have within : offset.toNat ≤ file.size.toNat := UInt64.le_iff_toNat_le.mp (UInt64.not_lt.mp inside)
  have sum : (offset + length).toNat = offset.toNat + length.toNat := by
    rw [UInt64.toNat_add, Nat.mod_eq_of_lt fits]
  unfold readSize
  rw [add_fits checks offset length fits]
  dsimp only [Option.bind_some]
  split
  · rename_i beyond
    have past : file.size.toNat < offset.toNat + length.toNat := sum ▸ UInt64.lt_iff_toNat_lt.mp beyond
    refine ⟨file.size - offset, ?_, ?_⟩
    · unfold subU64
      rw [if_neg (fun both => inside both.2)]
    · rw [UInt64.toNat_sub_of_le _ _ (UInt64.not_lt.mp inside)]
      omega
  · rename_i beyond
    have past : offset.toNat + length.toNat ≤ file.size.toNat := sum ▸ UInt64.le_iff_toNat_le.mp (UInt64.not_lt.mp beyond)
    exact ⟨length, rfl, by omega⟩

-- An overflowing sum panics where it is checked; where it wraps it passes for a short one and
-- the buffer for the whole length is more than a vector can hold.
theorem read_size_wraps (file : ServedFile) (offset length : UInt64) (bounded : file.size.toNat < 2 ^ 63) (inside : ¬file.size < offset)
    (wraps : ¬offset.toNat + length.toNat < 2 ^ 64) : (readSize checks file offset length).bind vecZeroed = none := by
  have within : offset.toNat ≤ file.size.toNat := UInt64.le_iff_toNat_le.mp (UInt64.not_lt.mp inside)
  have long : ¬length.toNat < 2 ^ 63 := by omega
  unfold readSize addU64
  cases checks with
  | true =>
      rw [if_pos ⟨rfl, Nat.not_lt.mp wraps⟩]
      rfl
  | false =>
      rw [if_neg (fun both => by cases both.1)]
      have limit := length.toNat_lt
      have sum : (offset + length).toNat = offset.toNat + length.toNat - 2 ^ 64 := by
        rw [UInt64.toNat_add]
        omega
      have short : ¬file.size < offset + length := by
        rw [UInt64.lt_iff_toNat_lt, sum]
        omega
      dsimp only [Option.bind_some]
      rw [if_neg short]
      dsimp only [Option.bind_some, vecZeroed]
      rw [if_neg long]

structure AllSettled (s : ClipFiles) : Prop where
  count : s.fileList.length < 2 ^ 63
  each : ∀ file ∈ s.fileList, Settled disk file

theorem hot_reload_settled (files : List ServedFile) (settled : ∀ file ∈ files, Settled disk file) :
    (hotReload disk faults files).2.length = files.length ∧ ∀ file ∈ (hotReload disk faults files).2, Settled disk file := by
  induction files with
  | nil => exact ⟨rfl, settled⟩
  | cons file rest ih =>
      obtain ⟨here, later⟩ := List.forall_mem_cons.mp settled
      obtain ⟨count, each⟩ := ih later
      unfold hotReload
      split
      · exact ⟨congrArg (· + 1) count, List.forall_mem_cons.mpr ⟨here, each⟩⟩
      · exact ⟨rfl, List.forall_mem_cons.mpr ⟨(load_settled disk file here _ (load_cases disk _ _ file)).1, later⟩⟩

theorem set_settled (s : ClipFiles) (i : Nat) (file : ServedFile) (all : AllSettled disk s) (settled : Settled disk file) :
    AllSettled disk { s with fileList := s.fileList.set i file } := by
  refine ⟨by rw [List.length_set]; exact all.count, ?_⟩
  intro other member
  rcases List.mem_or_eq_of_mem_set member with before | rfl
  · exact all.each other before
  · exact settled

-- The range of a request for an existing entry, from an offset inside it, ends below 2^64.
def Within (s : ClipFiles) : ContentsRequest → Prop
  | .size _ _ => True
  | .range _ fileIdx offset length => ∀ file, s.fileList[fileIdx.toNat]? = some file → ¬file.size < offset → offset.toNat + length.toNat < 2 ^ 64

-- What a response holds: the size of the entry, or its bytes from the offset to the end of the
-- range or of the file.
def Answers (s : ClipFiles) : ContentsRequest → ClipboardFile → Prop
  | .size streamId fileIdx, reply => ∃ file, s.fileList[fileIdx.toNat]? = some file ∧
      reply = .contentsResponse 1 streamId (LittleEndian.put 8 file.size.toNat)
  | .range streamId fileIdx offset length, reply => ∃ file data, s.fileList[fileIdx.toNat]? = some file ∧ offset.toNat ≤ file.size.toNat ∧
      Contents disk file.toLocalFile offset.toNat (min (offset.toNat + length.toNat) file.size.toNat - offset.toNat) data ∧
      reply = .contentsResponse 1 streamId data

def ContentsRequest.fileIdx : ContentsRequest → UInt64
  | .size _ fileIdx | .range _ fileIdx _ _ => fileIdx

section
variable (s : ClipFiles)

theorem read_range_spec (connId streamId : Int32) (fileIdx offset length : UInt64) (all : AllSettled disk s)
    (within : Within s (.range streamId fileIdx offset length)) :
    ∃ result after, s.readRange checks disk faults connId streamId fileIdx offset length = some (result, after) ∧ AllSettled disk after ∧
      ∀ answer, result = .ok answer → answer.1 = fileIdx ∧ Answers disk s (.range streamId fileIdx offset length) answer.2 := by
  unfold ClipFiles.readRange
  cases held : s.fileList[fileIdx.toNat]? with
  | none => exact ⟨_, _, rfl, all, fun _ failed => by cases failed⟩
  | some file =>
      dsimp only
      by_cases inside : file.size < offset
      · rw [if_pos inside]
        exact ⟨_, _, rfl, all, fun _ failed => by cases failed⟩
      · rw [if_neg inside]
        have settled := all.each file (List.mem_of_getElem? held)
        have from_ : offset.toNat ≤ file.size.toNat := UInt64.le_iff_toNat_le.mp (UInt64.not_lt.mp inside)
        obtain ⟨count, size, counted⟩ := read_size_fits checks file offset length inside (within file held inside)
        have bounded := settled.bounded
        have room : offset.toNat + count.toNat ≤ file.size.toNat := by omega
        have buffer : vecZeroed count = some (List.replicate count.toNat 0) := if_pos (by omega)
        rw [size, Option.bind_some, buffer, Option.bind_some, List.length_replicate]
        obtain ⟨result, after, read, kept, _, exactly⟩ := read_exact_at_spec checks disk faults file count.toNat offset settled room
        rw [read]
        refine ⟨_, _, rfl, set_settled disk s fileIdx.toNat after all kept, ?_⟩
        intro answer done
        cases result with
        | error error => cases done
        | ok data =>
            cases done
            exact ⟨rfl, file, data, held, from_, counted ▸ exactly data rfl, rfl⟩

theorem respond_spec (connId : Int32) (request : ContentsRequest) (all : AllSettled disk s) (within : Within s request) :
    ∃ result after, s.respond checks disk faults connId request = some (result, after) ∧ AllSettled disk after ∧
      ∀ answer, result = .ok answer → answer.1 = request.fileIdx ∧ Answers disk s request answer.2 := by
  cases request with
  | range streamId fileIdx offset length => exact read_range_spec checks disk faults s connId streamId fileIdx offset length all within
  | size streamId fileIdx =>
      simp only [ClipFiles.respond]
      cases held : s.fileList[fileIdx.toNat]? with
      | none => exact ⟨_, _, rfl, all, fun _ failed => by cases failed⟩
      | some file =>
          refine ⟨_, _, rfl, all, ?_⟩
          intro answer done
          cases done
          exact ⟨rfl, file, held, rfl⟩

theorem answered_index (request : ContentsRequest) (reply : ClipboardFile) (all : AllSettled disk s)
    (answers : Answers disk s request reply) : request.fileIdx.toNat + (1 : UInt64).toNat < 2 ^ 64 := by
  have found : ∃ file, s.fileList[request.fileIdx.toNat]? = some file := by
    cases request with
    | size streamId fileIdx => exact answers.imp (fun _ known => known.1)
    | range streamId fileIdx offset length =>
        obtain ⟨file, _, held, _⟩ := answers
        exact ⟨file, held⟩
  obtain ⟨file, held⟩ := found
  have bound := (List.getElem?_eq_some_iff.mp held).choose
  have limit := all.count
  have one : (1 : UInt64).toNat = 1 := rfl
  omega

theorem serve_spec (connId : Int32) (request : ContentsRequest) (all : AllSettled disk s) (within : Within s request) :
    ∃ result after, s.serveFileContents checks disk faults connId request = some (result, after) ∧ AllSettled disk after ∧
      ∀ reply, result = .ok reply → Answers disk s request reply := by
  obtain ⟨result, after, responded, kept, exactly⟩ := respond_spec checks disk faults s connId request all within
  unfold ClipFiles.serveFileContents
  rw [responded, Option.bind_some]
  cases result with
  | error error => exact ⟨_, _, rfl, kept, fun _ failed => by cases failed⟩
  | ok answer =>
      obtain ⟨index, answers⟩ := exactly answer rfl
      have next := add_fits checks answer.1 1 (index ▸ answered_index disk s request answer.2 all answers)
      dsimp only
      rw [next]
      have settled : ∀ file ∈ after.fileList.drop (answer.1 + 1).toNat, Settled disk file :=
        fun file member => kept.each file (List.mem_of_mem_drop member)
      obtain ⟨count, each⟩ := hot_reload_settled disk faults (after.fileList.drop (answer.1 + 1).toNat) settled
      refine ⟨_, _, rfl, ⟨?_, ?_⟩, ?_⟩
      · dsimp only
        rw [List.length_append, count, ← List.length_append, List.take_append_drop]
        exact kept.count
      · intro file member
        rcases List.mem_append.mp member with before | later
        · exact kept.each file (List.mem_of_mem_take before)
        · exact each file later
      · intro reply done
        cases reloaded : (hotReload disk faults (after.fileList.drop (answer.1 + 1).toNat)).1 with
        | error error =>
            rw [reloaded] at done
            cases done
        | ok _ =>
            rw [reloaded] at done
            cases done
            exact answers

-- A range that ends beyond 2^64 ends the request in a panic.
theorem serve_wraps (connId streamId : Int32) (fileIdx offset length : UInt64) (file : ServedFile) (all : AllSettled disk s)
    (held : s.fileList[fileIdx.toNat]? = some file) (inside : ¬file.size < offset) (wraps : ¬offset.toNat + length.toNat < 2 ^ 64) :
    s.serveFileContents checks disk faults connId (.range streamId fileIdx offset length) = none := by
  have panics := read_size_wraps checks file offset length (all.each file (List.mem_of_getElem? held)).bounded inside wraps
  have stops : s.readRange checks disk faults connId streamId fileIdx offset length = none := by
    unfold ClipFiles.readRange
    rw [held]
    dsimp only
    rw [if_neg inside, ← Option.bind_assoc, panics]
    rfl
  have responds : s.respond checks disk faults connId (.range streamId fileIdx offset length) = none := stops
  rw [ClipFiles.serveFileContents, responds]
  rfl

end

def NoWrap (s : ClipFiles) (request : FileContentsRequest) : Prop := ∀ fcr, readFileContents request = .ok fcr → Within s fcr

-- What the peer gets for any request: perhaps the files for the audit, then an error or what it
-- asked for, out of a buffer no larger than the file.
structure Served (s : ClipFiles) (connId : Int32) (request : FileContentsRequest) : Prop where
  returned : ∃ audit last after, s.readFileContents checks disk faults connId request = some (audit ++ [last], after) ∧
    (∀ entry ∈ audit, ∃ files, entry = .ok (.files files)) ∧
    ∀ reply, last = .ok reply → ∃ fcr, readFileContents request = .ok fcr ∧ Answers disk s fcr reply
  allocated : ∀ streamId fileIdx offset length file, readFileContents request = .ok (.range streamId fileIdx offset length) →
    s.fileList[fileIdx.toNat]? = some file → ¬file.size < offset →
      ∃ count, readSize checks file offset length = some count ∧ count.toNat ≤ file.size.toNat

theorem audit_files (s : ClipFiles) (fcr : ContentsRequest) (entry : Except CliprdrError ClipboardFile)
    (member : entry ∈ (s.getFilesForAudit disk fcr).toList.map Except.ok) : ∃ files, entry = .ok (.files files) := by
  obtain ⟨file, listed, rfl⟩ := List.mem_map.mp member
  have named := Option.mem_toList.mp listed
  cases fcr with
  | size streamId fileIdx => cases named
  | range streamId fileIdx offset length =>
      obtain ⟨_, rfl⟩ := Option.ite_some_none_eq_some.mp named
      exact ⟨_, rfl⟩

section
variable (s : ClipFiles) (connId : Int32) (request : FileContentsRequest)

theorem answer_spec (all : AllSettled disk s) (noWrap : NoWrap s request) :
    ∃ results after, s.readFileContents checks disk faults connId request = some (results, after) ∧ AllSettled disk after ∧
      ∃ audit last, results = audit ++ [last] ∧ (∀ entry ∈ audit, ∃ files, entry = .ok (.files files)) ∧
        ∀ reply, last = .ok reply → ∃ fcr, readFileContents request = .ok fcr ∧ Answers disk s fcr reply := by
  unfold ClipFiles.readFileContents
  cases decoded : readFileContents request with
  | error text => exact ⟨_, _, rfl, all, [], _, rfl, (fun _ none => by cases none), (fun _ failed => by cases failed)⟩
  | ok fcr =>
      obtain ⟨result, after, served, kept, exactly⟩ := serve_spec checks disk faults s connId fcr all (noWrap fcr decoded)
      dsimp only
      rw [served]
      exact ⟨_, _, rfl, kept, _, _, rfl, audit_files disk s fcr, fun reply done => ⟨fcr, rfl, exactly reply done⟩⟩

theorem answer_wraps (all : AllSettled disk s) (wraps : ¬NoWrap s request) : s.readFileContents checks disk faults connId request = none := by
  simp only [NoWrap, not_forall] at wraps
  obtain ⟨fcr, decoded, outside⟩ := wraps
  cases fcr with
  | size streamId fileIdx => exact absurd trivial outside
  | range streamId fileIdx offset length =>
      simp only [Within, not_forall] at outside
      obtain ⟨file, held, inside, beyond⟩ := outside
      unfold ClipFiles.readFileContents
      rw [decoded]
      dsimp only
      rw [serve_wraps checks disk faults s connId streamId fileIdx offset length file all held inside beyond]
      rfl

end

theorem step_settled (s next : ClipFiles) (event : ServeEvent disk) (all : AllSettled disk s) (taken : s.step checks disk event = some next) :
    AllSettled disk next := by
  cases event with
  | request connId request faults =>
      obtain rfl := Option.some.inj taken
      by_cases noWrap : NoWrap s request
      · obtain ⟨results, after, answered, kept, _⟩ := answer_spec checks disk faults s connId request all noWrap
        rw [answered]
        exact kept
      · rw [answer_wraps checks disk faults s connId request all noWrap]
        exact all
  | syncFiles files =>
      obtain ⟨count, rfl⟩ := Option.ite_some_none_eq_some.mp taken
      refine ⟨by rwa [List.length_map], fun file member => ?_⟩
      obtain ⟨listed, _, rfl⟩ := List.mem_map.mp member
      exact fresh_settled disk listed
  | clear =>
      cases taken
      exact ⟨by decide, fun _ none => by cases none⟩

theorem reachable_settled (s : ClipFiles) (reach : Machine.Reachable (ClipFiles.step checks disk) .start s) : AllSettled disk s :=
  Machine.reachable_invariant (ClipFiles.step checks disk) (AllSettled disk) .start s ⟨by decide, (fun _ none => by cases none)⟩
    (fun s event next all taken => step_settled checks disk s next event all taken) reach

theorem nonnegative_length (value : Int32) (positive : 0 ≤ value) : (asU64 value).toNat < 2 ^ 31 := by
  have small : value.toUInt32.toNat < 2 ^ 31 := by
    have signed : 0 ≤ value.toInt := Int32.le_iff_toInt_le.mp positive
    have bits : value.toInt = value.toBitVec.toInt := rfl
    have bound := value.toBitVec.isLt
    rw [bits, BitVec.toInt_eq_toNat_cond] at signed
    change value.toBitVec.toNat < 2 ^ 31
    split at signed <;> omega
  have kept := (length_kept value.toUInt32).mpr small
  have same : value.toUInt32.toInt32 = value := rfl
  rw [same] at kept
  rw [kept, UInt32.toNat_toUInt64]
  exact small

theorem nonnegative_no_wrap (s : ClipFiles) (request : FileContentsRequest) (all : AllSettled disk s) (positive : 0 ≤ request.cbRequested) :
    NoWrap s request := by
  intro fcr decoded
  cases fcr with
  | size streamId fileIdx => trivial
  | range streamId fileIdx offset length =>
      intro file held inside
      have short : length.toNat < 2 ^ 31 := by
        unfold readFileContents at decoded
        split at decoded
        · cases decoded
        · split at decoded
          · cases decoded
            exact nonnegative_length request.cbRequested positive
          · cases decoded
      have bounded := (all.each file (List.mem_of_getElem? held)).bounded
      have within := UInt64.le_iff_toNat_le.mp (UInt64.not_lt.mp inside)
      omega

end

def noteDisk : Disk := fun path => if path = [0x2F, 0x61] then some [10, 20, 30] else none

def noteFile : LocalFile :=
  { path := [0x2F, 0x61], descriptorName := ['a'], size := 3, lastWriteTime := 0, isDir := false, perm := 0o644, readOnly := false, hidden := false,
    system := false, archive := false, normal := true }

def note : ListedFile noteDisk := ⟨noteFile, by decide, fun _ => ⟨[10, 20, 30], rfl, rfl⟩⟩

def noteRequest (position length : Int32) : FileContentsRequest :=
  { streamId := 7, listIndex := 0, dwFlags := 2, nPositionLow := position, nPositionHigh := 0, cbRequested := length, haveClipDataId := false,
    clipDataId := 0 }

-- Two bytes of the note from its second one, after an earlier read left the reader at its first.
def noteRun : List (ServeEvent noteDisk) := [ServeEvent.syncFiles [note], ServeEvent.request 1 (noteRequest 0 1) {}]

end GotechDesk.Clipboard
