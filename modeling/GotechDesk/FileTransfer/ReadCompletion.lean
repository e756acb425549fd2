import GotechDesk.FileTransfer.ReadJobs

set_option autoImplicit false

namespace GotechDesk.FileTransfer

theorem asUsize_succ (fileNum : Int32) (length : Nat) (short : length < 2 ^ 31) (inside : asUsize fileNum < length) :
    asUsize (fileNum + 1) = asUsize fileNum + 1 := by
  have low := Int32.le_toInt fileNum
  have high := Int32.toInt_lt fileNum
  have sum : (fileNum + 1).toInt = (fileNum.toInt + 1).bmod (2 ^ 32) := Int32.toInt_add fileNum 1
  unfold asUsize at inside ⊢
  rw [sum, Int.bmod_def]
  omega

-- All that a call can do to a job of the list: the entry stays current, or the next one becomes
-- current and the history says why.
structure Progress (before after : Tracked) : Prop where
  files : after.job.files = before.job.files
  type : after.job.type = before.job.type
  detection : after.job.enableOverwriteDetection = before.job.enableOverwriteDetection
  id : after.job.id = before.job.id
  first : after.first = before.first
  log : ∀ event, event ∈ before.log → event ∈ after.log
  fileNum : after.job.fileNum = before.job.fileNum ∨
    (after.job.fileNum = before.job.fileNum + 1 ∧ Settled after.log (asUsize before.job.fileNum))

theorem Settled.mono (log more : List Event) (entry : Nat) (kept : ∀ event, event ∈ log → event ∈ more)
    (settled : Settled log entry) : Settled more entry := by
  cases settled with
  | ended fileNum id same sent => exact .ended fileNum id same (kept _ sent)
  | failed fileNum id next text same sent => exact .failed fileNum id next text same (kept _ sent)
  | skipped fileNum id same told => exact .skipped fileNum id same (kept _ told)

-- Every entry the job has passed since its start is settled.
structure Caught (tracked : Tracked) : Prop where
  short : tracked.job.files.length < 2 ^ 31
  passed : ∀ entry, asUsize tracked.first ≤ entry → entry < tracked.job.files.length → entry < asUsize tracked.job.fileNum →
    Settled tracked.log entry

theorem caught_progress (before after : Tracked) (moved : Progress before after) (caught : Caught before) : Caught after := by
  refine ⟨by rw [moved.files]; exact caught.short, ?_⟩
  intro entry started listed passed
  rw [moved.files] at listed
  rw [moved.first] at started
  by_cases earlier : entry < asUsize before.job.fileNum
  · exact (caught.passed entry started listed earlier).mono before.log after.log entry moved.log
  · obtain same | ⟨next, settled⟩ := moved.fileNum
    · rw [same] at passed
      exact absurd passed earlier
    · have inside : asUsize before.job.fileNum < before.job.files.length := by omega
      rw [next, asUsize_succ before.job.fileNum before.job.files.length caught.short inside] at passed
      have current : entry = asUsize before.job.fileNum := by omega
      rw [current]
      exact settled

inductive Opened (style : Style) (disk : Disk) (job : TransferJob) : TransferJob → Prop where
  | already (entry : FileEntry) (stream : DataStream) (listed : job.entry = some entry) (isOpen : job.dataStream = some stream) :
      Opened style disk job job
  | fresh (entry : FileEntry) (listed : job.entry = some entry) (closed : job.dataStream = none)
      (opens : disk.opens (join style job.base entry.name) = none) : Opened style disk job job.reopened

-- Everything that the start of a tick can do to a job.
inductive InitCase (style : Style) (disk : Disk) (job : TransferJob) : TransferJob × Except String (List FileResponse) → Prop where
  | done (passed : job.entry = none) : InitCase style disk job ({ job with dataStream := none }, .ok [])
  | unopened (entry : FileEntry) (text : String) (listed : job.entry = some entry) (closed : job.dataStream = none)
      (refused : disk.opens (join style job.base entry.name) = some text) : InitCase style disk job (job.nextFile, .error text)
  | quiet (opened : TransferJob) (isOpen : Opened style disk job opened) (unasked : opened.needsDigest = false) :
      InitCase style disk job (opened, .ok [])
  | undigested (opened : TransferJob) (text : String) (isOpen : Opened style disk job opened) (asked : opened.needsDigest = true)
      (refused : opened.getCurrentDigest style disk = .error text) : InitCase style disk job (opened, .error text)
  | waiting (opened : TransferJob) (found : Nat × Nat) (isOpen : Opened style disk job opened) :
      InitCase style disk job ({ opened with fileIsWaiting := true }, .ok [opened.digestMessage found])

section
variable (style : Style) (disk : Disk)

theorem init_opened (job opened : TransferJob) (isOpen : Opened style disk job opened)
    (answer : job.openDataStream style disk = (opened, .ok false)) : InitCase style disk job (job.initDataStream style disk) := by
  unfold TransferJob.initDataStream
  rw [answer]
  dsimp only
  by_cases asked : opened.needsDigest = true
  · rw [if_pos asked]
    cases found : opened.getCurrentDigest style disk with
    | error text => exact .undigested opened text isOpen asked found
    | ok digest => exact .waiting opened digest isOpen
  · rw [if_neg asked]
    exact .quiet opened isOpen (by simpa using asked)

theorem initDataStream_cases (job : TransferJob) : InitCase style disk job (job.initDataStream style disk) := by
  cases listed : job.entry with
  | none =>
      have answer : job.openDataStream style disk = ({ job with dataStream := none }, .ok true) := by
        simp [TransferJob.openDataStream, listed]
      rw [TransferJob.initDataStream, answer]
      exact .done listed
  | some entry =>
      cases stream : job.dataStream with
      | some stream' =>
          have answer : job.openDataStream style disk = (job, .ok false) := by simp [TransferJob.openDataStream, listed, stream]
          exact init_opened style disk job job (.already entry stream' listed stream) answer
      | none =>
          cases opens : disk.opens (join style job.base entry.name) with
          | none =>
              have answer : job.openDataStream style disk = (job.reopened, .ok false) := by
                simp [TransferJob.openDataStream, listed, stream, opens]
              exact init_opened style disk job job.reopened (.fresh entry listed stream opens) answer
          | some text =>
              have answer : job.openDataStream style disk = (job.nextFile, .error text) := by
                simp [TransferJob.openDataStream, listed, stream, opens]
              rw [TransferJob.initDataStream, answer]
              exact .unopened entry text listed stream opens

theorem opened_progress (tracked : Tracked) (opened : TransferJob) (more : List Event)
    (isOpen : Opened style disk tracked.job opened) : Progress tracked { tracked with job := opened, log := tracked.log ++ more } := by
  cases isOpen with
  | already entry stream listed isOpen | fresh entry listed closed opens =>
      exact ⟨rfl, rfl, rfl, rfl, rfl, fun event member => List.mem_append_left more member, .inl rfl⟩

theorem initJob_progress (tracked : Tracked) : Progress tracked (tracked.initJob style disk) := by
  unfold Tracked.initJob
  by_cases last : tracked.job.isLastJob = true
  · rw [if_pos last]
    exact ⟨rfl, rfl, rfl, rfl, rfl, fun event member => member, .inl rfl⟩
  · rw [if_neg last]
    have kept : ∀ more event, event ∈ tracked.log → event ∈ tracked.log ++ more := fun more event member => List.mem_append_left more member
    have shape := initDataStream_cases style disk tracked.job
    generalize tracked.job.initDataStream style disk = outcome at shape ⊢
    cases shape with
    | done passed => exact ⟨rfl, rfl, rfl, rfl, rfl, kept _, .inl rfl⟩
    | unopened entry text listed closed refused =>
        refine ⟨rfl, rfl, rfl, rfl, rfl, kept _, .inr ⟨rfl, ?_⟩⟩
        exact .failed tracked.job.fileNum tracked.job.id (tracked.job.fileNum + 1) text rfl (List.mem_append_right _ (by simp [TransferJob.nextFile]))
    | quiet opened isOpen unasked => exact opened_progress style disk tracked opened _ isOpen
    | undigested opened text isOpen asked refused => exact opened_progress style disk tracked opened _ isOpen
    | waiting opened found isOpen =>
        have moved := opened_progress style disk tracked opened
          [.sent tracked.job.fileNum (opened.digestMessage found)] isOpen
        exact { moved with }

end

def TransferJob.guarded (job : TransferJob) : Bool := job.type = .generic && job.enableOverwriteDetection

-- Everything that a read can do to a job.
inductive ReadCase (job : TransferJob) : TransferJob × Except String (Option FileTransferBlock) → Prop where
  | unconfirmed (isGuarded : job.guarded = true) (waits : job.fileConfirmed = false) : ReadCase job (job, .ok none)
  | passed (beyond : job.entry = none) : ReadCase job ({ job with dataStream := none }, .ok none)
  | closed (text : String) : ReadCase job (job, .error text)
  | failed (text : String) : ReadCase job (job.nextFile, .error text)
  | ended : ReadCase job (job.nextFile, .ok (some { id := job.id, fileNum := job.fileNum, data := [], compressed := false }))
  | sent (stream : DataStream) (size packed : Nat) (block : FileTransferBlock) :
      ReadCase job (job.advanceRead stream size packed, .ok (some block))

theorem read_cases (style : Style) (codec : Codec) (disk : Disk) (job : TransferJob) : ReadCase job (job.read style codec disk) := by
  unfold TransferJob.read
  by_cases unconfirmed : (job.type = .generic && job.enableOverwriteDetection && !job.fileConfirmed) = true
  · rw [if_pos unconfirmed]
    rw [Bool.and_eq_true] at unconfirmed
    exact .unconfirmed unconfirmed.1 (by simpa using unconfirmed.2)
  · rw [if_neg unconfirmed]
    cases listed : job.entry with
    | none => exact .passed listed
    | some entry =>
        cases job.dataStream with
        | none => exact .closed "data stream is None"
        | some stream =>
            dsimp only
            cases fill (disk.reads (join style job.base entry.name)) stream bufSize 0 [] with
            | error text => exact .failed text
            | ok buf =>
                cases buf with
                | nil => exact .ended
                | cons byte rest => exact .sent stream _ _ _

theorem readJob_progress (style : Style) (codec : Codec) (disk : Disk) (tracked : Tracked) :
    Progress tracked (tracked.readJob style codec disk).1 := by
  unfold Tracked.readJob
  have kept : ∀ more event, event ∈ tracked.log → event ∈ tracked.log ++ more := fun more event member => List.mem_append_left more member
  have shape := read_cases style codec disk tracked.job
  generalize tracked.job.read style codec disk = outcome at shape ⊢
  cases shape with
  | unconfirmed isGuarded waits | passed beyond =>
      dsimp only
      split
      · exact ⟨rfl, rfl, rfl, rfl, rfl, kept _, .inl rfl⟩
      · exact ⟨rfl, rfl, rfl, rfl, rfl, fun event member => member, .inl rfl⟩
  | closed text => exact ⟨rfl, rfl, rfl, rfl, rfl, kept _, .inl rfl⟩
  | failed text =>
      refine ⟨rfl, rfl, rfl, rfl, rfl, kept _, .inr ⟨rfl, ?_⟩⟩
      exact .failed tracked.job.fileNum tracked.job.id (tracked.job.fileNum + 1) text rfl (List.mem_append_right _ (by simp [TransferJob.nextFile]))
  | ended =>
      refine ⟨rfl, rfl, rfl, rfl, rfl, kept _, .inr ⟨rfl, ?_⟩⟩
      exact .ended tracked.job.fileNum tracked.job.id rfl (List.mem_append_right _ (by simp))
  | sent stream size packed block => exact ⟨rfl, rfl, rfl, rfl, rfl, kept _, .inl rfl⟩

theorem setStreamOffset_frame (style : Style) (fs : FileSystem) (job : TransferJob) (fileNum offset : Nat) :
    (job.setStreamOffset style fs fileNum offset).1 = job ∨
      ∃ writable, (job.setStreamOffset style fs fileNum offset).1 = job.seekTo writable offset := by
  unfold TransferJob.setStreamOffset
  cases job.files[fileNum]?.filter (fun entry => (job.resolveEntryPath style fs entry.name).isSome) with
  | none => exact .inl rfl
  | some entry =>
      dsimp only
      split
      · unfold TransferJob.seekDownload
        obtain ⟨opened, refused⟩ := fs.openWrite style (job.target entry.name .download)
        cases refused with
        | some text => exact .inl rfl
        | none =>
            dsimp only
            split
            · exact .inl rfl
            · exact .inr ⟨true, rfl⟩
      · split
        · exact .inr ⟨false, rfl⟩
        · exact .inl rfl

theorem confirm_progress (style : Style) (fs : FileSystem) (r : FileTransferSendConfirmRequest) (tracked : Tracked) :
    Progress tracked (tracked.confirm style fs r) := by
  have kept : ∀ event, event ∈ tracked.log → event ∈ tracked.log ++ [.told tracked.job.fileNum r] :=
    fun event member => List.mem_append_left _ member
  unfold Tracked.confirm TransferJob.confirm
  by_cases other : tracked.job.fileNum ≠ r.fileNum
  · rw [if_pos other]
    exact ⟨rfl, rfl, rfl, rfl, rfl, kept, .inl rfl⟩
  · rw [if_neg other]
    have same : tracked.job.fileNum = r.fileNum := not_not.mp other
    cases asked : r.union with
    | none => exact ⟨rfl, rfl, rfl, rfl, rfl, kept, .inl rfl⟩
    | some union =>
        cases union with
        | skip skipped =>
            cases skipped with
            | false => exact ⟨rfl, rfl, rfl, rfl, rfl, kept, .inl rfl⟩
            | true =>
                refine ⟨rfl, rfl, rfl, rfl, rfl, kept, .inr ⟨rfl, ?_⟩⟩
                apply Settled.skipped tracked.job.fileNum r.id rfl
                apply List.mem_append_right
                rw [same, ← asked]
                exact List.mem_singleton.mpr rfl
        | offsetBlk offset =>
            dsimp only
            by_cases ahead : 0 < offset
            · rw [if_pos ahead]
              obtain unmoved | ⟨writable, sought⟩ :=
                setStreamOffset_frame style fs (tracked.job.setFileConfirmed true) (asUsize r.fileNum) offset
              · rw [unmoved]
                exact ⟨rfl, rfl, rfl, rfl, rfl, kept, .inl rfl⟩
              · rw [sought]
                exact ⟨rfl, rfl, rfl, rfl, rfl, kept, .inl rfl⟩
            · rw [if_neg ahead]
              exact ⟨rfl, rfl, rfl, rfl, rfl, kept, .inl rfl⟩

-- What the disk has to answer at the start of a tick for the job that the tick reads: the entry opens
-- unless it is the last one of the list, and the digest that is due can be taken.
structure Answers (style : Style) (disk : Disk) (job : TransferJob) (entry : FileEntry) : Prop where
  opens : job.dataStream = none → disk.opens (join style job.base entry.name) = none ∨ asUsize job.fileNum + 1 = job.files.length
  digests : ∀ stream, (job.dataStream = some stream ∧ job.fileConfirmed = false ∧ job.fileIsWaiting = false) ∨
    (job.dataStream = none ∧ disk.opens (join style job.base entry.name) = none ∧ stream = { writable := false, pos := 0 }) →
    ∃ found, disk.metadata (join style job.base entry.name) stream = .ok found

theorem entry_none_iff (job : TransferJob) : job.entry = none ↔ job.files.length ≤ asUsize job.fileNum := List.getElem?_eq_none_iff

theorem digest_answered (style : Style) (disk : Disk) (job opened : TransferJob) (text : String)
    (answers : ∀ entry, job.entry = some entry → Answers style disk job entry) (isOpen : Opened style disk job opened)
    (asked : opened.needsDigest = true) (refused : opened.getCurrentDigest style disk = .error text) : False := by
  cases isOpen with
  | already entry stream listed isOpen =>
      simp only [TransferJob.needsDigest, Bool.and_eq_true, Bool.not_eq_true'] at asked
      obtain ⟨found, read⟩ := (answers entry listed).digests stream (.inl ⟨isOpen, asked.1.2, asked.2⟩)
      simp [TransferJob.getCurrentDigest, isOpen, listed, read] at refused
  | fresh entry listed closed opens =>
      obtain ⟨found, read⟩ := (answers entry listed).digests { writable := false, pos := 0 } (.inr ⟨closed, opens, rfl⟩)
      change disk.metadata (join style job.base (job.entry.elim [] FileEntry.name)) { writable := false, pos := 0 } = .error text at refused
      rw [listed] at refused
      change disk.metadata (join style job.base entry.name) { writable := false, pos := 0 } = .error text at refused
      rw [read] at refused
      cases refused

-- After the start of a tick the job is through, or its peer is asked or has said yes.
theorem init_holds (style : Style) (disk : Disk) (job : TransferJob) (isGuarded : job.guarded = true) (short : job.files.length < 2 ^ 31)
    (answers : ∀ entry, job.entry = some entry → Answers style disk job entry) :
    (job.initDataStream style disk).1.entry = none ∨ (job.initDataStream style disk).1.fileConfirmed = true ∨
      (job.initDataStream style disk).1.fileIsWaiting = true := by
  have shape := initDataStream_cases style disk job
  generalize job.initDataStream style disk = outcome at shape ⊢
  cases shape with
  | done passed => exact .inl passed
  | unopened entry text listed closed refused =>
      obtain opens | last := (answers entry listed).opens closed
      · rw [opens] at refused
        cases refused
      · have inside : asUsize job.fileNum < job.files.length := by omega
        have next := asUsize_succ job.fileNum job.files.length short inside
        left
        rw [entry_none_iff]
        change job.files.length ≤ asUsize (job.fileNum + 1)
        omega
  | quiet opened isOpen unasked =>
      right
      have same : opened.guarded = true := by cases isOpen <;> exact isGuarded
      simp only [TransferJob.guarded, Bool.and_eq_true] at same
      simp only [TransferJob.needsDigest, same, Bool.true_and, Bool.and_eq_false_iff, Bool.not_eq_false'] at unasked
      exact unasked
  | undigested opened text isOpen asked refused =>
      exact (digest_answered style disk job opened text answers isOpen asked refused).elim
  | waiting opened found isOpen => exact .inr (.inr rfl)

section
variable (style : Style) (codec : Codec) (disk : Disk) (tracked : Tracked)

theorem finished_passed (isGuarded : tracked.job.guarded = true)
    (held : tracked.job.entry = none ∨ tracked.job.fileConfirmed = true ∨ tracked.job.fileIsWaiting = true)
    (finished : (tracked.readJob style codec disk).2 = true) :
    tracked.job.files.length ≤ asUsize tracked.job.fileNum ∧ (tracked.readJob style codec disk).1.job.fileNum = tracked.job.fileNum := by
  unfold Tracked.readJob at finished ⊢
  have shape := read_cases style codec disk tracked.job
  generalize tracked.job.read style codec disk = outcome at shape finished ⊢
  cases shape with
  | unconfirmed _ waits =>
      dsimp only at finished ⊢
      by_cases completed : tracked.job.jobCompleted = true
      · rw [if_pos completed]
        obtain passed | confirmed | waiting := held
        · exact ⟨(entry_none_iff tracked.job).mp passed, rfl⟩
        · rw [waits] at confirmed
          cases confirmed
        · simp only [TransferJob.guarded, Bool.and_eq_true] at isGuarded
          simp [TransferJob.jobCompleted, isGuarded.2, waiting] at completed
      · rw [if_neg completed] at finished
        cases finished
  | passed beyond =>
      refine ⟨(entry_none_iff tracked.job).mp beyond, ?_⟩
      dsimp only
      split <;> rfl
  | closed text => cases finished
  | failed text => cases finished
  | ended => cases finished
  | sent stream size packed block => cases finished

theorem finished_reported (finished : (tracked.readJob style codec disk).2 = true) :
    .sent (tracked.readJob style codec disk).1.job.fileNum (tracked.readJob style codec disk).1.job.lastResponse ∈
      (tracked.readJob style codec disk).1.log := by
  unfold Tracked.readJob at finished ⊢
  generalize tracked.job.read style codec disk = outcome at finished ⊢
  obtain ⟨job, answer⟩ := outcome
  cases answer with
  | error text => cases finished
  | ok block =>
      cases block with
      | some block => cases finished
      | none =>
          dsimp only at finished ⊢
          by_cases completed : job.jobCompleted = true
          · rw [if_pos completed]
            exact List.mem_append_right _ (List.mem_singleton.mpr rfl)
          · rw [if_neg completed] at finished
            cases finished

end

theorem resume_progress (tracked : Tracked) : Progress tracked tracked.resume := by
  unfold Tracked.resume TransferJob.setFinishedSizeOnResume
  split <;> exact ⟨rfl, rfl, rfl, rfl, rfl, fun event member => member, .inl rfl⟩

theorem initJob_isLastJob (style : Style) (disk : Disk) (tracked : Tracked) :
    (tracked.initJob style disk).job.isLastJob = tracked.job.isLastJob := by
  unfold Tracked.initJob
  by_cases last : tracked.job.isLastJob = true
  · rw [if_pos last]
  · rw [if_neg last]
    have shape := initDataStream_cases style disk tracked.job
    generalize tracked.job.initDataStream style disk = outcome at shape ⊢
    cases shape with
    | done passed => rfl
    | unopened entry text listed closed refused => rfl
    | quiet opened isOpen unasked => cases isOpen <;> rfl
    | undigested opened text isOpen asked refused => cases isOpen <;> rfl
    | waiting opened found isOpen => cases isOpen <;> rfl

theorem initJob_active (style : Style) (disk : Disk) (tracked : Tracked) (active : tracked.job.isLastJob = false) :
    (tracked.initJob style disk).job = (tracked.job.initDataStream style disk).1 := by
  unfold Tracked.initJob
  rw [active]
  obtain ⟨job, answer⟩ := tracked.job.initDataStream style disk
  cases answer <;> rfl

-- The list at the job that a tick reads: those before it are all left from an earlier session.
inductive Turn (jobs : List Tracked) : Prop where
  | idle (last : ∀ tracked ∈ jobs, tracked.job.isLastJob = true) : Turn jobs
  | at (before : List Tracked) (tracked : Tracked) (after : List Tracked) (split : jobs = before ++ tracked :: after)
      (last : ∀ other ∈ before, other.job.isLastJob = true) (active : tracked.job.isLastJob = false) : Turn jobs

theorem turn_of (jobs : List Tracked) : Turn jobs := by
  induction jobs with
  | nil => exact .idle (by simp)
  | cons tracked rest ih =>
      by_cases isLast : tracked.job.isLastJob = true
      · cases ih with
        | idle last => exact .idle (by simpa [isLast] using last)
        | «at» before other after split last active =>
            exact .at (tracked :: before) other after (by rw [split]; rfl) (by simpa [isLast] using last) active
      · exact .at [] tracked rest rfl (by simp) (by simpa using isLast)

section
variable (style : Style)

theorem initJobs_last (disks : Nat → Disk) (jobs : List Tracked) (last : ∀ tracked ∈ jobs, tracked.job.isLastJob = true) :
    initJobs style disks jobs = jobs := by
  apply List.ext_getElem
  · simp [initJobs]
  · intro place inside bound
    have isLast := last jobs[place] (List.getElem_mem bound)
    simp [initJobs, Tracked.initJob, isLast]

theorem readFirst_last (codec : Codec) (disk : Disk) (jobs : List Tracked)
    (last : ∀ tracked ∈ jobs, tracked.job.isLastJob = true) : readFirst style codec disk jobs = (jobs, none) := by
  induction jobs with
  | nil => rfl
  | cons tracked rest ih =>
      have isLast := last tracked (by simp)
      have others := ih (fun other member => last other (by simp [member]))
      simp [readFirst, isLast, others]

theorem readFirst_at (codec : Codec) (disk : Disk) (before : List Tracked) (tracked : Tracked) (after : List Tracked)
    (last : ∀ other ∈ before, other.job.isLastJob = true) (active : tracked.job.isLastJob = false) :
    readFirst style codec disk (before ++ tracked :: after) =
      (before ++ (tracked.readJob style codec disk).1 :: after,
        if (tracked.readJob style codec disk).2 then some tracked.job.id else none) := by
  induction before with
  | nil => simp [readFirst, active]
  | cons other rest ih =>
      have isLast := last other (by simp)
      have others := ih (fun job member => last job (by simp [member]))
      simp [readFirst, isLast, others]

theorem initJobs_at (disks : Nat → Disk) (before : List Tracked) (tracked : Tracked) (after : List Tracked)
    (last : ∀ other ∈ before, other.job.isLastJob = true) :
    initJobs style disks (before ++ tracked :: after) =
      before ++ tracked.initJob style (disks before.length) :: initJobs style (fun place => disks (place + 1 + before.length)) after := by
  have kept := initJobs_last style disks before last
  unfold initJobs at kept ⊢
  rw [List.mapIdx_append, kept, List.mapIdx_cons]
  simp

theorem initJobs_caught (disks : Nat → Disk) (jobs : List Tracked) (caught : ∀ tracked ∈ jobs, Caught tracked) :
    ∀ tracked ∈ initJobs style disks jobs, Caught tracked := by
  intro tracked member
  obtain ⟨place, inside, same⟩ := List.mem_mapIdx.mp member
  rw [← same]
  exact caught_progress jobs[place] _ (initJob_progress style (disks place) jobs[place]) (caught jobs[place] (List.getElem_mem inside))

end

theorem removeJob_at (id : Int32) (before : List Tracked) (tracked : Tracked) (after : List Tracked) (same : tracked.job.id = id)
    (others : ∀ other ∈ before, other.job.id ≠ id) :
    removeJob id (before ++ tracked :: after) = (some tracked, before ++ after) := by
  have found : hasId id tracked = true := by simp [hasId, same]
  have skipped : ∀ other ∈ before, ¬ hasId id other = true := by simpa [hasId] using others
  unfold removeJob
  rw [List.find?_append, List.eraseP_append_right _ skipped]
  have none : before.find? (hasId id) = none := List.find?_eq_none.mpr skipped
  simp [none, found]

-- When a step is one that the claim holds for.
def Orderly (style : Style) (state : ReadJobs) : ReadLabel → Prop
  | .start _ _ _ _ _ _ listed => listed.length < 2 ^ 31
  | .tick disks _ =>
      ∀ before tracked after, state.jobs = before ++ tracked :: after → (∀ other ∈ before, other.job.isLastJob = true) →
        tracked.job.isLastJob = false →
        (∀ other ∈ before, other.job.id ≠ tracked.job.id) ∧
        (tracked.job.type = .generic → tracked.job.enableOverwriteDetection = true →
          ∀ entry, tracked.job.entry = some entry → Answers style (disks before.length) tracked.job entry)
  | _ => True

structure Completed (tracked : Tracked) : Prop where
  reached : tracked.job.files.length ≤ asUsize tracked.job.fileNum
  settled : Settled.all tracked
  reported : .sent tracked.job.fileNum tracked.job.lastResponse ∈ tracked.log

structure Good (state : ReadJobs) : Prop where
  caught : ∀ tracked ∈ state.jobs, Caught tracked
  completed : ∀ tracked ∈ state.finished, tracked.job.type = .generic → tracked.job.enableOverwriteDetection = true → Completed tracked

theorem completed_of (tracked : Tracked) (caught : Caught tracked) (reached : tracked.job.files.length ≤ asUsize tracked.job.fileNum)
    (reported : .sent tracked.job.fileNum tracked.job.lastResponse ∈ tracked.log) : Completed tracked := by
  refine ⟨reached, ?_, reported⟩
  intro entry started listed
  exact caught.passed entry started listed (by omega)

theorem modifyJob_mem (id : Int32) (change : Tracked → Tracked) (jobs : List Tracked) (tracked : Tracked)
    (member : tracked ∈ modifyJob id change jobs) : tracked ∈ jobs ∨ ∃ old ∈ jobs, tracked = change old := by
  induction jobs with
  | nil => cases member
  | cons first rest ih =>
      unfold modifyJob at member
      by_cases found : hasId id first = true
      · rw [if_pos found, List.mem_cons] at member
        obtain same | member := member
        · exact .inr ⟨first, by simp, same⟩
        · exact .inl (by simp [member])
      · rw [if_neg found, List.mem_cons] at member
        obtain same | member := member
        · exact .inl (by simp [same])
        · obtain kept | ⟨old, listed, same⟩ := ih member
          · exact .inl (by simp [kept])
          · exact .inr ⟨old, by simp [listed], same⟩

theorem modifyJob_caught (id : Int32) (change : Tracked → Tracked) (moves : ∀ tracked, Progress tracked (change tracked))
    (jobs : List Tracked) (caught : ∀ tracked ∈ jobs, Caught tracked) : ∀ tracked ∈ modifyJob id change jobs, Caught tracked := by
  intro tracked member
  obtain kept | ⟨old, listed, same⟩ := modifyJob_mem id change jobs tracked member
  · exact caught tracked kept
  · rw [same]
    exact caught_progress old (change old) (moves old) (caught old listed)

section
variable (style : Style) (codec : Codec)

theorem read_completed (disk later : Disk) (tracked : Tracked) (caught : Caught tracked)
    (active : tracked.job.isLastJob = false) (isGuarded : tracked.job.guarded = true)
    (answers : ∀ entry, tracked.job.entry = some entry → Answers style disk tracked.job entry)
    (finished : ((tracked.initJob style disk).readJob style codec later).2 = true) :
    Completed ((tracked.initJob style disk).readJob style codec later).1 := by
  have started := initJob_progress style disk tracked
  have moved := readJob_progress style codec later (tracked.initJob style disk)
  have startedGuarded : (tracked.initJob style disk).job.guarded = true := by
    unfold TransferJob.guarded at isGuarded ⊢
    rw [started.type, started.detection]
    exact isGuarded
  have held := init_holds style disk tracked.job isGuarded caught.short answers
  rw [← initJob_active style disk tracked active] at held
  obtain ⟨passed, same⟩ := finished_passed style codec later (tracked.initJob style disk) startedGuarded held finished
  apply completed_of
  · exact caught_progress _ _ moved (caught_progress _ _ started caught)
  · rw [moved.files, same]
    exact passed
  · exact finished_reported style codec later (tracked.initJob style disk) finished

theorem tick_good (disks : Nat → Disk) (disk : Disk) (state : ReadJobs) (good : Good state)
    (orderly : Orderly style state (.tick disks disk)) : Good (handleReadJobs style codec disks disk state) := by
  unfold handleReadJobs
  cases turn_of state.jobs with
  | idle last =>
      rw [initJobs_last style disks state.jobs last, readFirst_last style codec disk state.jobs last]
      exact good
  | «at» before tracked after split last active =>
      obtain ⟨distinct, answers⟩ := orderly before tracked after split last active
      have caught : ∀ other ∈ before ++ tracked :: after, Caught other := by rw [← split]; exact good.caught
      have startedActive : (tracked.initJob style (disks before.length)).job.isLastJob = false := by
        rw [initJob_isLastJob]
        exact active
      have started := initJob_progress style (disks before.length) tracked
      have moved := readJob_progress style codec disk (tracked.initJob style (disks before.length))
      have readCaught := caught_progress _ _ moved (caught_progress _ _ started (caught tracked (by simp)))
      have restCaught := initJobs_caught style (fun place => disks (place + 1 + before.length)) after
        (fun other member => caught other (by simp [member]))
      rw [split, initJobs_at style disks before tracked after last, readFirst_at style codec disk before _ _ last startedActive]
      by_cases finished : ((tracked.initJob style (disks before.length)).readJob style codec disk).2 = true
      · rw [if_pos finished]
        dsimp only
        rw [removeJob_at _ before _ _ moved.id (by rw [started.id]; exact distinct)]
        constructor
        · intro other member
          obtain kept | kept := List.mem_append.mp member
          · exact caught other (by simp [kept])
          · exact restCaught other kept
        · intro other member isGeneric detects
          obtain old | new := List.mem_append.mp member
          · exact good.completed other old isGeneric detects
          · have same := List.mem_singleton.mp new
            rw [same, moved.type, started.type] at isGeneric
            rw [same, moved.detection, started.detection] at detects
            rw [same]
            apply read_completed style codec (disks before.length) disk tracked (caught tracked (by simp)) active _ (answers isGeneric detects) finished
            simp [TransferJob.guarded, isGeneric, detects]
      · rw [if_neg finished]
        constructor
        · intro other member
          simp only [List.mem_append, List.mem_cons] at member
          obtain kept | same | kept := member
          · exact caught other (by simp [kept])
          · rw [same]
            exact readCaught
          · exact restCaught other kept
        · exact good.completed

theorem step_good (state next : ReadJobs) (label : ReadLabel) (good : Good state)
    (orderly : Orderly style state label) (taken : readStep style codec state label = some next) : Good next := by
  cases label with
  | start id type base fileNum detection isLastJob listed =>
      cases taken
      refine ⟨?_, good.completed⟩
      intro tracked member
      obtain old | new := List.mem_append.mp member
      · exact good.caught tracked old
      · have same := List.mem_singleton.mp new
        rw [same]
        refine ⟨orderly, ?_⟩
        intro entry started listed passed
        exact absurd passed (by simpa [newRead, newJob] using started)
  | confirm fs r =>
      cases taken
      exact ⟨modifyJob_caught r.id _ (confirm_progress style fs r) state.jobs good.caught, good.completed⟩
  | resume id =>
      cases taken
      exact ⟨modifyJob_caught id _ resume_progress state.jobs good.caught, good.completed⟩
  | cancel id =>
      cases taken
      exact ⟨fun tracked member => good.caught tracked (List.mem_of_mem_eraseP member), good.completed⟩
  | tick disks disk =>
      cases taken
      exact tick_good style codec disks disk state good orderly

end

theorem read_job_completion (style : Style) (codec : Codec) (past : List (ReadJobs × ReadLabel)) (state : ReadJobs)
    (traced : Machine.Traced (readStep style codec) noReadJobs past state)
    (orderly : ∀ before label, (before, label) ∈ past → Orderly style before label) (tracked : Tracked)
    (finished : tracked ∈ state.finished) (generic : tracked.job.type = .generic)
    (detects : tracked.job.enableOverwriteDetection = true) :
    tracked.job.files.length ≤ asUsize tracked.job.fileNum ∧ Settled.all tracked ∧
      .sent tracked.job.fileNum tracked.job.lastResponse ∈ tracked.log := by
  have good : (∀ before label, (before, label) ∈ past → Orderly style before label) → Good state := by
    apply Machine.traced_invariant (readStep style codec)
      (fun past state => (∀ before label, (before, label) ∈ past → Orderly style before label) → Good state) noReadJobs state past
    · intro _
      exact ⟨by simp [noReadJobs], by simp [noReadJobs]⟩
    · intro past state label after ih taken orderly
      apply step_good style codec state after label
      · exact ih (fun before label member => orderly before label (List.mem_append_left _ member))
      · exact orderly state label (by simp)
      · exact taken
    · exact traced
  have completed := (good orderly).completed tracked finished generic detects
  exact ⟨completed.reached, completed.settled, completed.reported⟩

def plainCodec : Codec := { compress := id, decompress := id }

def twoFiles : List FileEntry := [{ name := ['a'], size := 1, modifiedTime := 7 }, { name := ['b'], size := 1, modifiedTime := 7 }]

def diskWithout (missing : Name) : Disk :=
  { opens := fun path => if path = missing then some "No such file or directory (os error 2)" else none,
    metadata := fun _ _ => .ok (7, 1),
    reads := fun _ _ stream _ => .ok (if stream.pos = 0 then [65] else []) }

def startTwo : ReadLabel := .start 1 .generic ['/', 's'] 0 true false twoFiles

def tickWithout (missing : Name) : ReadLabel := .tick (fun _ => diskWithout missing) (diskWithout missing)

def emptySystem : FileSystem := { node := fun _ => none, fails := fun _ _ => none, lands := none, handle := none, touched := [] }

def skipFirst : ReadLabel := .confirm emptySystem { id := 1, fileNum := 0, union := some (.skip true) }

def afterLabels (labels : List ReadLabel) : ReadJobs := (Machine.run (readStep .unix plainCodec) noReadJobs labels).getD noReadJobs

def started : ReadJobs := afterLabels [startTwo]

def asked : ReadJobs := afterLabels [startTwo, tickWithout ['/', 's', '/', 'b']]

def skippedOne : ReadJobs := afterLabels [startTwo, tickWithout ['/', 's', '/', 'b'], skipFirst]

def bothSettled : ReadJobs := afterLabels [startTwo, tickWithout ['/', 's', '/', 'b'], skipFirst, tickWithout ['/', 's', '/', 'b']]

theorem orderly_alone (state : ReadJobs) (job : Tracked) (missing : Name) (only : state.jobs = [job])
    (opens : ∀ entry, job.job.entry = some entry →
      (diskWithout missing).opens (join .unix job.job.base entry.name) = none ∨ asUsize job.job.fileNum + 1 = job.job.files.length) :
    Orderly .unix state (tickWithout missing) := by
  intro before tracked after split last active
  rw [only] at split
  cases before with
  | nil =>
      have same : tracked = job := (List.cons.inj split).1.symm
      refine ⟨by simp, ?_⟩
      intro _ _ entry listed
      rw [same] at listed ⊢
      exact ⟨fun _ => opens entry listed, fun _ _ => ⟨(7, 1), rfl⟩⟩
  | cons other rest => simp at split

-- The first file is refused by the peer, the second cannot be opened and is the last one.
theorem read_job_completion_last_missing : ∃ tracked ∈ bothSettled.finished,
    tracked.job.files.length ≤ asUsize tracked.job.fileNum ∧ Settled.all tracked ∧
      .sent tracked.job.fileNum tracked.job.lastResponse ∈ tracked.log := by
  have traced : Machine.Traced (readStep .unix plainCodec) noReadJobs
      [(noReadJobs, startTwo), (started, tickWithout ['/', 's', '/', 'b']), (asked, skipFirst), (skippedOne, tickWithout ['/', 's', '/', 'b'])]
      bothSettled := by
    apply Machine.Traced.next [_, _, _] skippedOne bothSettled _ _ rfl
    apply Machine.Traced.next [_, _] asked skippedOne _ _ rfl
    apply Machine.Traced.next [_] started asked _ _ rfl
    exact Machine.Traced.next [] noReadJobs started _ .start rfl
  have orderly : ∀ before label, (before, label) ∈ [(noReadJobs, startTwo), (started, tickWithout ['/', 's', '/', 'b']), (asked, skipFirst),
      (skippedOne, tickWithout ['/', 's', '/', 'b'])] → Orderly .unix before label := by
    intro before label member
    simp only [List.mem_cons, Prod.mk.injEq, List.not_mem_nil, or_false] at member
    obtain ⟨rfl, rfl⟩ | ⟨rfl, rfl⟩ | ⟨rfl, rfl⟩ | ⟨rfl, rfl⟩ := member
    · change twoFiles.length < 2 ^ 31
      decide
    · apply orderly_alone started (started.jobs.head (by decide)) _ (by decide)
      intro entry listed
      left
      have named : entry = { name := ['a'], size := 1, modifiedTime := 7 } := by
        apply Option.some.inj
        rw [← listed]
        decide
      rw [named]
      decide
    · trivial
    · apply orderly_alone skippedOne (skippedOne.jobs.head (by decide)) _ (by decide)
      intro entry listed
      right
      decide
  have finished : ∃ tracked ∈ bothSettled.finished, tracked.job.type = .generic ∧ tracked.job.enableOverwriteDetection = true := by
    decide
  obtain ⟨tracked, member, generic, detects⟩ := finished
  exact ⟨tracked, member, read_job_completion .unix plainCodec _ bothSettled traced orderly tracked member generic detects⟩

theorem open_error_ends_job : ∃ past state, Machine.Traced (readStep .unix plainCodec) noReadJobs past state ∧
    ∃ tracked ∈ state.finished, tracked.job.type = .generic ∧ tracked.job.enableOverwriteDetection = true ∧
      asUsize tracked.job.fileNum < tracked.job.files.length ∧
      tracked.log = [.sent 0 (.error 1 "No such file or directory (os error 2)" 1), .sent 1 (.done 1 1)] := by
  refine ⟨[(noReadJobs, startTwo), (started, tickWithout ['/', 's', '/', 'a'])], afterLabels [startTwo, tickWithout ['/', 's', '/', 'a']], ?_, ?_⟩
  · apply Machine.Traced.next [_] started _ _ _ rfl
    exact Machine.Traced.next [] noReadJobs started _ .start rfl
  · decide

end GotechDesk.FileTransfer
