import GotechDesk.Controller.RemoveJobs

set_option autoImplicit false

namespace GotechDesk.Controller

open FileTransfer (Name Style FileEntry JobType asUsize)

theorem asUsize_short (fileNum : Int32) (inside : asUsize fileNum < 2 ^ 63) : asUsize fileNum < 2 ^ 31 := by
  have low := Int32.le_toInt fileNum
  have high := Int32.toInt_lt fileNum
  unfold asUsize at inside ⊢
  omega

theorem asUsize_next (index : Nat) (short : index < 2 ^ 31) (inside : asUsize (Int32.ofNat index + 1) < 2 ^ 63) :
    asUsize (Int32.ofNat index + 1) = index + 1 := by
  have value : (Int32.ofNat index).toInt = index := Int32.toInt_ofNat_of_lt short
  have sum : (Int32.ofNat index + 1).toInt = ((Int32.ofNat index).toInt + 1).bmod (2 ^ 32) := Int32.toInt_add (Int32.ofNat index) 1
  unfold asUsize at inside ⊢
  rw [sum, value, Int.bmod_def] at inside ⊢
  omega

-- A removal of the loop's own that waits for its turn: the last one sent for its job, which is
-- still the local job of the id if there is one.
def Chained (loop : Loop) (id : Int32) (queued : Queued) : Prop :=
  ∃ path index serial, queued = { command := .removeFile id path (Int32.ofNat index) false, owner := some serial } ∧ index < 2 ^ 31 ∧
    (∀ removal ∈ loop.removals, removal.id = id → removal.job.serial = serial → removal.index ≤ index) ∧
    ∀ job, loop.removeJobs id = some job → job.isRemote = false → job.serial = serial

structure Kept (loop : Loop) : Prop where
  guarded : Guarded loop
  listed : ∀ id job, loop.removeJobs id = some job → job.isRemote = false → job.files = job.listed
  numbered : ∀ id job, loop.removeJobs id = some job → job.serial < loop.made
  recorded : ∀ removal ∈ loop.removals, removal.job.serial < loop.made
  single : ∀ id, (loop.queue.filter (fun queued => queued.removes id)).length ≤ 1
  chained : ∀ id, ∀ queued ∈ loop.queue, queued.removes id = true → Chained loop id queued

theorem start_kept : Kept startLoop :=
  { guarded := ⟨nofun, .nil, nofun⟩
    listed := nofun
    numbered := nofun
    recorded := nofun
    single := fun _ => Nat.zero_le 1
    chained := nofun }

section
variable (loop : Loop)

theorem waits_not (id : Int32) (free : loop.waits id = false) (queued : Queued) (member : queued ∈ loop.queue) : queued.removes id = false := by
  simpa using List.any_eq_false.mp free queued member

theorem transfers_kept (writes reads : List Transfer) (kept : Kept loop) : Kept { loop with writeJobs := writes, readJobs := reads } :=
  { kept with guarded := ⟨kept.guarded.own, kept.guarded.once, kept.guarded.after⟩ }

-- The jobs of the table may go, or change without becoming another local job.
theorem table_kept (table : Int32 → Option RemoveJob) (kept : Kept loop)
    (from_loop : ∀ id job, table id = some job → ∃ before, loop.removeJobs id = some before ∧ job.serial = before.serial ∧
      (job.isRemote = false → before.isRemote = false ∧ job.files = job.listed)) : Kept { loop with removeJobs := table } := by
  refine ⟨⟨kept.guarded.own, kept.guarded.once, kept.guarded.after⟩, fun id job found here => ?_, fun id job found => ?_, kept.recorded,
    kept.single, fun id queued member removes => ?_⟩
  · obtain ⟨before, _, _, same⟩ := from_loop id job found
    exact (same here).2
  · obtain ⟨before, was, serial, _⟩ := from_loop id job found
    exact serial ▸ kept.numbered id before was
  · obtain ⟨path, index, serial, isQueued, short, latest, its⟩ := kept.chained id queued member removes
    refine ⟨path, index, serial, isQueued, short, latest, fun job found here => ?_⟩
    obtain ⟨before, was, same, stays⟩ := from_loop id job found
    exact same.trans (its before was (stays here).1)

theorem withJob_kept (id : Int32) (changed : Option RemoveJob) (kept : Kept loop)
    (keeps : ∀ job, changed = some job → ∃ before, loop.removeJobs id = some before ∧ job.serial = before.serial ∧
      (job.isRemote = false → before.isRemote = false ∧ job.files = job.listed)) : Kept (loop.withJob id changed) := by
  apply table_kept loop _ kept
  intro other job found
  by_cases same : other = id
  · subst same
    rw [Function.update_self] at found
    exact keeps job found
  · rw [Function.update_of_ne same] at found
    exact ⟨job, found, rfl, fun here => ⟨here, kept.listed other job found here⟩⟩

theorem dropJob_kept (id : Int32) (kept : Kept loop) : Kept (loop.withJob id none) := withJob_kept loop id none kept nofun

theorem cancel_kept (id : Int32) (kept : Kept loop) : Kept (loop.cancelTransferJob id) :=
  transfers_kept _ _ _ (dropJob_kept loop id kept)

theorem insertJob_kept (id : Int32) (files : Entries) (path sep : Name) (isRemote : Bool) (kept : Kept loop)
    (free : isRemote = false → loop.waits id = false) : Kept (loop.insertJob id files path sep isRemote) := by
  have table : ∀ other job, (loop.insertJob id files path sep isRemote).removeJobs other = some job →
      (other = id ∧ job = .new files path sep isRemote loop.made) ∨ (other ≠ id ∧ loop.removeJobs other = some job) := by
    intro other job found
    change Function.update loop.removeJobs id _ other = some job at found
    by_cases same : other = id
    · subst same
      rw [Function.update_self] at found
      exact .inl ⟨rfl, (Option.some.inj found).symm⟩
    · rw [Function.update_of_ne same] at found
      exact .inr ⟨same, found⟩
  refine ⟨⟨kept.guarded.own, kept.guarded.once, kept.guarded.after⟩, fun other job found here => ?_, fun other job found => ?_,
    fun removal member => Nat.lt_succ_of_lt (kept.recorded removal member), kept.single, fun other queued member removes => ?_⟩
  · obtain ⟨_, rfl⟩ | ⟨_, was⟩ := table other job found
    · rfl
    · exact kept.listed other job was here
  · obtain ⟨_, rfl⟩ | ⟨_, was⟩ := table other job found
    · exact Nat.lt_succ_self loop.made
    · exact Nat.lt_succ_of_lt (kept.numbered other job was)
  · obtain ⟨pathOf, index, serial, isQueued, short, latest, its⟩ := kept.chained other queued member removes
    refine ⟨pathOf, index, serial, isQueued, short, latest, fun job found here => ?_⟩
    obtain ⟨rfl, rfl⟩ | ⟨_, was⟩ := table other job found
    · -- The new job is local, and then no removal waits under its id.
      exact absurd removes (by simp [waits_not loop other (free here) queued member])
    · exact its job was here

-- A command that is no removal of the loop's own joins the queue.
theorem send_kept (queued : Queued) (kept : Kept loop) (plain : ∀ id, queued.removes id = false) : Kept (loop.send queued) := by
  refine ⟨⟨kept.guarded.own, kept.guarded.once, kept.guarded.after⟩, kept.listed, kept.numbered, kept.recorded, fun id => ?_,
    fun id other member removes => ?_⟩
  · have same : (loop.send queued).queue.filter (fun queued => queued.removes id) = loop.queue.filter (fun queued => queued.removes id) := by
      simp [Loop.send, plain id]
    rw [same]
    exact kept.single id
  · obtain waiting | added := List.mem_append.mp member
    · exact kept.chained id other waiting removes
    · obtain rfl := List.mem_singleton.mp added
      exact absurd removes (by simp [plain id])

theorem rest_kept (queued : Queued) (rest : List Queued) (isQueue : loop.queue = queued :: rest) (kept : Kept loop) :
    Kept { loop with queue := rest } := by
  refine ⟨⟨kept.guarded.own, kept.guarded.once, kept.guarded.after⟩, kept.listed, kept.numbered, kept.recorded, fun id => ?_,
    fun id other member removes => ?_⟩
  · have single := kept.single id
    rw [isQueue] at single
    have fewer := ((List.sublist_cons_self queued rest).filter (fun queued => queued.removes id)).length_le
    exact Nat.le_trans fewer single
  · exact kept.chained id other (isQueue ▸ List.mem_cons_of_mem queued member) removes

-- Behind a waiting removal no other one of its id waits.
theorem rest_free (queued : Queued) (rest : List Queued) (id : Int32) (isQueue : loop.queue = queued :: rest) (kept : Kept loop)
    (removes : queued.removes id = true) : { loop with queue := rest }.waits id = false := by
  have single := kept.single id
  rw [isQueue, List.filter_cons, if_pos removes, List.length_cons] at single
  have empty : rest.filter (fun queued => queued.removes id) = [] := List.length_eq_zero_iff.mp (by omega)
  apply List.any_eq_false.mpr
  intro other member
  exact List.filter_eq_nil_iff.mp empty other member

end

-- What the cause of the next removal of a job has to be.
def Follows (loop : Loop) (id fileNum : Int32) (cause : Cause) : Prop :=
  loop.waits id = false ∧ loop.ahead id fileNum = true ∧
    ∀ job, loop.removeJobs id = some job → ∃ owner, cause = .removed id fileNum owner ∧ (owner = none ∨ owner = some job.serial)

section
variable (loop : Loop) (id fileNum : Int32)

theorem ahead_index (job : RemoveJob) (found : loop.removeJobs id = some job) (ahead : loop.ahead id fileNum = true)
    (removal : Removal) (member : removal ∈ loop.removals) (same : removal.id = id) (serial : removal.job.serial = job.serial) :
    removal.index < asUsize (fileNum + 1) := by
  unfold Loop.ahead at ahead
  rw [found, Option.all_some] at ahead
  have earlier := List.all_eq_true.mp ahead removal member
  simpa [same, serial] using earlier

-- The next removal of a local job joins the queue and the record.
theorem advance_kept (cause : Cause) (job : RemoveJob) (entry : FileEntry) (kept : Kept loop)
    (found : loop.removeJobs id = some job) (here : job.isRemote = false) (isEntry : job.files.val[asUsize (fileNum + 1)]? = some entry)
    (follows : Follows loop id fileNum cause) :
    Kept ((loop.send { command := .removeFile id (job.pathOf entry) (Int32.ofNat (asUsize (fileNum + 1))) job.isRemote, owner := some job.serial }).record
      { id := id, job := job, index := asUsize (fileNum + 1), path := job.pathOf entry, cause := cause }) := by
  obtain ⟨free, ahead, caused⟩ := follows
  obtain ⟨owner, isCause, owned⟩ := caused job found
  have inside : asUsize (fileNum + 1) < job.files.val.length := (List.getElem?_eq_some_iff.mp isEntry).1
  have short := asUsize_short (fileNum + 1) (Nat.lt_trans inside job.files.property)
  have earlier := ahead_index loop id fileNum job found ahead
  unfold Loop.record
  rw [if_neg (by simp [here])]
  refine ⟨⟨fun removal member => ?_, ?_, fun removal member => ?_⟩, kept.listed, kept.numbered, fun removal member => ?_, fun other => ?_,
    fun other queued member removes => ?_⟩
  · obtain before | added := List.mem_append.mp member
    · exact kept.guarded.own removal before
    · obtain rfl := List.mem_singleton.mp added
      exact ⟨entry, by rw [← kept.listed id job found here]; exact isEntry, rfl⟩
  · apply List.pairwise_append.mpr
    refine ⟨kept.guarded.once, List.pairwise_singleton _ _, fun removal member added isAdded same serial => ?_⟩
    obtain rfl := List.mem_singleton.mp isAdded
    exact earlier removal member same serial
  · obtain before | added := List.mem_append.mp member
    · exact kept.guarded.after removal before
    · obtain rfl := List.mem_singleton.mp added
      exact ⟨fileNum, owner, isCause, owned, rfl⟩
  · obtain before | added := List.mem_append.mp member
    · exact kept.recorded removal before
    · obtain rfl := List.mem_singleton.mp added
      exact kept.numbered id job found
  · change ((loop.queue ++ [_]).filter (fun queued : Queued => queued.removes other)).length ≤ 1
    rw [List.filter_append, List.length_append]
    by_cases same : id = other
    · subst same
      have none' : loop.queue.filter (fun queued => queued.removes id) = [] :=
        List.filter_eq_nil_iff.mpr (fun queued member => by simp [waits_not loop id free queued member])
      rw [none']
      simpa using List.length_filter_le (fun queued : Queued => queued.removes id) [_]
    · have plain : (Queued.mk (.removeFile id (job.pathOf entry) (Int32.ofNat (asUsize (fileNum + 1))) job.isRemote) (some job.serial)).removes other =
          false := by
        simp [Queued.removes, here, same]
      rw [List.filter_cons, if_neg (by simp [plain])]
      simpa using kept.single other
  · obtain waiting | added := List.mem_append.mp member
    · obtain ⟨path, index, serial, isQueued, indexShort, latest, its⟩ := kept.chained other queued waiting removes
      have apart : id ≠ other := by
        rintro rfl
        exact absurd removes (by simp [waits_not loop id free queued waiting])
      refine ⟨path, index, serial, isQueued, indexShort, fun removal member' isId isSerial => ?_, its⟩
      obtain before | last := List.mem_append.mp member'
      · exact latest removal before isId isSerial
      · obtain rfl := List.mem_singleton.mp last
        exact absurd isId apart
    · obtain rfl := List.mem_singleton.mp added
      have same : id = other := by simpa [Queued.removes, here] using removes
      subst same
      refine ⟨job.pathOf entry, asUsize (fileNum + 1), job.serial, by rw [here], short, fun removal member' isId isSerial => ?_, fun other isJob _ => ?_⟩
      · obtain before | last := List.mem_append.mp member'
        · exact Nat.le_of_lt (earlier removal before isId isSerial)
        · obtain rfl := List.mem_singleton.mp last
          exact Nat.le_refl _
      · exact congrArg RemoveJob.serial (Option.some.inj (isJob.symm.trans found))

theorem status_kept (cause : Cause) (kept : Kept loop)
    (follows : loop.advances id fileNum = true → Follows loop id fileNum cause) : Kept (loop.handleJobStatus id fileNum cause) := by
  unfold Loop.handleJobStatus
  cases found : loop.removeJobs id with
  | none => exact kept
  | some job =>
      dsimp only
      by_cases noConfirm : job.noConfirm = true
      · rw [if_pos noConfirm]
        cases isEntry : job.files.val[asUsize (fileNum + 1)]? with
        | none => exact dropJob_kept loop id kept
        | some entry =>
            dsimp only
            by_cases remote : job.isRemote = true
            · -- The peer is asked to remove its next file.
              unfold Loop.record
              rw [if_pos remote]
              exact send_kept loop _ kept (fun other => by simp [Queued.removes, remote])
            · have here : job.isRemote = false := by simpa using remote
              have inside : asUsize (fileNum + 1) < job.files.val.length := (List.getElem?_eq_some_iff.mp isEntry).1
              have advances : loop.advances id fileNum = true := by
                simp [Loop.advances, found, here, noConfirm, inside]
              exact advance_kept loop id fileNum cause job entry kept found here isEntry (follows advances)
      · rw [if_neg noConfirm]
        exact kept

-- Where no local job would go on, any cause will do.
theorem idle_kept (cause : Cause) (kept : Kept loop) (idle : loop.advances id fileNum = false) : Kept (loop.handleJobStatus id fileNum cause) := by
  apply status_kept loop id fileNum cause kept
  intro advances
  rw [idle] at advances
  cases advances

end

theorem ended_kept (loop : Loop) (transfer : Option Transfer) (id fileNum : Int32) (kept : Kept loop)
    (quiet : loop.quietEnd transfer id fileNum = true) : Kept (loop.ended transfer id fileNum) := by
  unfold Loop.quietEnd at quiet
  unfold Loop.ended
  cases type : transfer.map Transfer.type with
  | none => exact idle_kept loop id fileNum .peer kept (by simpa [type] using quiet)
  | some kind =>
      cases kind with
      | generic => exact idle_kept loop id fileNum .peer kept (by simpa [type] using quiet)
      | printer => exact kept

theorem cancelled_idle (loop : Loop) (id fileNum : Int32) : (loop.cancelTransferJob id).advances id fileNum = false := by
  have gone : (loop.cancelTransferJob id).removeJobs id = none := by
    simp [Loop.cancelTransferJob, Loop.withJob]
  unfold Loop.advances
  rw [gone]
  rfl

theorem response_kept (session : Session) (loop : Loop) (response : FileResponse) (rejects : Bool) (kept : Kept loop)
    (quiet : loop.quiet (.peer response rejects) = true) : Kept (loop.handleFileResponse session rejects response) := by
  cases response with
  | dir id entries =>
      unfold Loop.handleFileResponse
      dsimp only [Loop.quiet] at quiet ⊢
      by_cases writes : (getJob id loop.writeJobs).isSome = true
      · rw [if_pos writes]
        cases rejects with
        | false => exact kept
        | true => exact idle_kept _ id (-1) .peer (cancel_kept loop id kept) (cancelled_idle loop id (-1))
      · rw [if_neg writes]
        have remote : (loop.removeJobs id).all RemoveJob.isRemote = true := by simpa [writes] using quiet
        apply withJob_kept loop id _ kept
        intro job changed
        obtain ⟨before, was, rfl⟩ := Option.map_eq_some_iff.mp changed
        rw [was, Option.all_some] at remote
        exact ⟨before, was, rfl, fun here => absurd here (by simp [remote])⟩
  | done id fileNum => exact ended_kept _ (getJob id loop.writeJobs) id fileNum (transfers_kept loop _ _ kept) quiet
  | error id fileNum =>
      dsimp only [Loop.quiet] at quiet
      unfold Loop.handleFileResponse
      cases found : getJob id loop.writeJobs with
      | none =>
          rw [found, Option.none_or] at quiet
          dsimp only
          rw [found]
          exact ended_kept _ _ id fileNum (transfers_kept loop _ _ kept) quiet
      | some job =>
          rw [found, Option.some_or] at quiet
          dsimp only
          rw [found]
          exact ended_kept _ _ id fileNum (transfers_kept loop _ _ kept) quiet
  | other => exact kept

theorem advances_job (loop : Loop) (id fileNum : Int32) (advances : loop.advances id fileNum = true) :
    ∃ job, loop.removeJobs id = some job ∧ job.isRemote = false ∧ asUsize (fileNum + 1) < 2 ^ 63 := by
  unfold Loop.advances at advances
  cases found : loop.removeJobs id with
  | none => simp [found] at advances
  | some job =>
      simp only [found, Option.any_some, Bool.and_eq_true, Bool.not_eq_true', decide_eq_true_eq] at advances
      exact ⟨job, rfl, advances.1.1, Nat.lt_trans advances.2 job.files.property⟩

-- The result of a removal: the loop's own goes on from the one that waited, and one that the user
-- interface asked for starts or continues a job with nothing under way.
theorem removed_kept (loop : Loop) (rest : List Queued) (id fileNum : Int32) (path : Name) (owner : Option Nat) (kept : Kept loop)
    (isQueue : loop.queue = { command := .removeFile id path fileNum false, owner := owner } :: rest)
    (quiet : owner.isSome = true ∨ loop.advances id fileNum = false ∨ loop.waits id = false ∧ loop.ahead id fileNum = true) :
    Kept ({ loop with queue := rest }.handleJobStatus id fileNum (.removed id fileNum owner)) := by
  apply status_kept _ id fileNum _ (rest_kept loop _ rest isQueue kept)
  intro advances
  cases owner with
  | some serial =>
      have removes : (Queued.mk (.removeFile id path fileNum false) (some serial)).removes id = true := by simp [Queued.removes]
      obtain ⟨_, index, _, isQueued, short, latest, its⟩ := kept.chained id _ (isQueue ▸ List.mem_cons_self) removes
      obtain ⟨⟨-, -, rfl, -⟩, rfl⟩ := isQueued
      obtain ⟨job, found, here, inside⟩ := advances_job loop id _ advances
      have next := asUsize_next index short inside
      refine ⟨rest_free loop _ rest id isQueue kept removes, ?_, fun other isJob => ⟨some _, rfl, ?_⟩⟩
      · unfold Loop.ahead
        rw [next, found, Option.all_some]
        apply List.all_eq_true.mpr
        intro removal member
        by_cases same : removal.id = id ∧ removal.job.serial = job.serial
        · have bound := latest removal member same.1 (same.2.trans (its job found here))
          simp [same, Nat.lt_succ_of_le bound]
        · obtain other | other := not_and_or.mp same
          · simp [other]
          · simp [other]
      · obtain rfl := Option.some.inj (found.symm.trans isJob)
        exact .inr (congrArg some (its job found here).symm)
  | none =>
      obtain owned | idle | ⟨free, ahead⟩ := quiet
      · cases owned
      · exact absurd advances (by simp [show { loop with queue := rest }.advances id fileNum = false from idle])
      · refine ⟨?_, ahead, fun job _ => ⟨none, rfl, .inl rfl⟩⟩
        rw [Loop.waits, isQueue, List.any_cons, Bool.or_eq_false_iff] at free
        exact free.2

theorem command_kept (session : Session) (loop : Loop) (queued : Queued) (rest : List Queued) (outcome : Outcome) (kept : Kept loop)
    (isQueue : loop.queue = queued :: rest) (quiet : loop.quietCommand queued outcome = true) :
    Kept ({ loop with queue := rest }.handleMsgFromUi session queued outcome) := by
  have behind : Kept { loop with queue := rest } := rest_kept loop queued rest isQueue kept
  have idles : ∀ id, loop.advances id (-1) = false → Kept ({ loop with queue := rest }.handleJobStatus id (-1) .other) :=
    fun id idle => idle_kept _ id (-1) .other behind idle
  obtain ⟨command, owner⟩ := queued
  cases command with
  | sendFiles id type isRemote | addJob id type isRemote =>
      cases isRemote with
      | true => exact transfers_kept _ _ _ behind
      | false =>
          by_cases fails : outcome.fails = true
          · dsimp only [Loop.handleMsgFromUi]
            rw [if_neg (by decide), if_pos fails]
            exact idles id (by simpa [Loop.quietCommand, fails] using quiet)
          · dsimp only [Loop.handleMsgFromUi]
            rw [if_neg (by decide), if_neg fails]
            exact transfers_kept _ _ _ behind
  | setNoConfirm id =>
      apply withJob_kept _ id _ behind
      intro job changed
      obtain ⟨before, was, rfl⟩ := Option.map_eq_some_iff.mp changed
      exact ⟨before, was, rfl, fun here => ⟨here, kept.listed id before was here⟩⟩
  | confirmDeleteFiles id fileNum => exact behind
  | removeDirAll id path isRemote =>
      cases isRemote with
      | true => exact insertJob_kept _ id noEntries path _ true behind nofun
      | false =>
          obtain ⟨listing, fails⟩ := outcome
          cases listing with
          | none => exact idles id (by simpa [Loop.quietCommand] using quiet)
          | some entries =>
              apply insertJob_kept _ id entries path _ false behind
              intro _
              have free : loop.waits id = false := by simpa [Loop.quietCommand] using quiet
              rw [Loop.waits, isQueue, List.any_cons, Bool.or_eq_false_iff] at free
              exact free.2
  | cancelJob id => exact cancel_kept _ id behind
  | removeDir id path => exact behind
  | removeFile id path fileNum isRemote =>
      cases isRemote with
      | true => exact behind
      | false =>
          apply removed_kept loop rest id fileNum path owner kept isQueue
          simpa [Loop.quietCommand, or_assoc] using quiet
  | createDir id path isRemote | renameFile id path _ isRemote =>
      cases isRemote with
      | true => exact behind
      | false => exact idles id (by simpa [Loop.quietCommand] using quiet)
  | other => exact behind

theorem step_kept (session : Session) (loop : Loop) (label : Label) (next : Loop) (kept : Kept loop) (quiet : loop.quiet label = true)
    (taken : loop.step session label = some next) : Kept next := by
  cases label with
  | ui command =>
      obtain rfl := Option.some.inj taken
      apply send_kept loop _ kept
      intro id
      unfold Queued.removes
      split
      · rename_i owned
        cases owned
      · rfl
  | process outcome =>
      cases isQueue : loop.queue with
      | nil => simp [Loop.step, isQueue] at taken
      | cons queued rest =>
          simp only [Loop.step, isQueue, Option.some.injEq] at taken
          subst taken
          exact command_kept session loop queued rest outcome kept isQueue (by simpa [Loop.quiet, isQueue] using quiet)
  | peer response rejects =>
      obtain rfl := Option.some.inj taken
      exact response_kept session loop response rejects kept quiet
  | readDone id =>
      obtain rfl := Option.some.inj taken
      exact transfers_kept loop _ _ kept

-- A local delete job follows its own listing as long as neither the peer nor another command
-- speaks for its id while it could be moved.
theorem removals_guarded (session : Session) (past : List (Loop × Label)) (loop : Loop)
    (traced : Machine.Traced (Loop.step session) startLoop past loop) (quiet : ∀ entry ∈ past, entry.1.quiet entry.2 = true) :
    (∀ entry ∈ past, Guarded entry.1) ∧ Guarded loop := by
  obtain ⟨before, here⟩ := Machine.traced_kept (Loop.step session) Kept (fun loop label => loop.quiet label = true) startLoop loop past start_kept
    (step_kept session) traced quiet
  exact ⟨fun entry member => (before entry member).guarded, here.guarded⟩

def fileNamed (name : Name) : FileEntry := { name := name, size := 0, modifiedTime := 0 }

def unixSession : Session := { here := .unix, peer := .unix }

def listed : Outcome := { listing := some ⟨[fileNamed ['a'], fileNamed ['b'], fileNamed ['c']], by decide⟩, fails := false }

def answered : Outcome := { listing := none, fails := false }

-- The first removal is the user's, the job goes on by itself, and the peer speaks of other jobs.
def deletion : List Label :=
  [.ui (.removeDirAll 1 ['/', 'd'] false), .ui (.setNoConfirm 1), .process listed, .process answered,
   .ui (.removeFile 1 ['/', 'd', '/', 'a'] 0 false), .peer (.dir 2 ⟨[fileNamed ['v']], by decide⟩) false, .process answered,
   .peer (.done 2 0) false, .process answered, .peer (.error 1 7) false, .process answered]

theorem removals_guarded_deletion :
    (∀ entry ∈ Machine.trace (Loop.step unixSession) startLoop deletion, Guarded entry.1) ∧
      Guarded ((Machine.run (Loop.step unixSession) startLoop deletion).get (by decide +kernel)) := by
  apply removals_guarded unixSession _ _ (Machine.traced_run _ _ _ (by decide))
  decide

-- The peer sends a listing under the id while the first removal waits.
def redirected : List Label :=
  [.ui (.removeDirAll 1 ['/', 'd'] false), .ui (.setNoConfirm 1), .process listed, .process answered,
   .ui (.removeFile 1 ['/', 'd', '/', 'a'] 0 false), .peer (.dir 1 ⟨[fileNamed ['a'], fileNamed ['.', '.', '/', 'v']], by decide⟩) false,
   .process answered]

-- A done message of the peer, with no removal before it.
def started : List Label :=
  [.ui (.removeDirAll 1 ['/', 'd'] false), .ui (.setNoConfirm 1), .process listed, .process answered, .peer (.done 1 (-1)) false]

theorem peer_redirects_removals :
    (∃ loop, Machine.Reachable (Loop.step unixSession) startLoop loop ∧ ¬ Guarded loop ∧
      ∃ removal ∈ loop.removals, removal.job.isRemote = false ∧ removal.path = ['/', 'd', '/', '.', '.', '/', 'v']) ∧
    ∃ loop, Machine.Reachable (Loop.step unixSession) startLoop loop ∧ ¬ Guarded loop ∧
      ∃ removal ∈ loop.removals, removal.job.isRemote = false ∧ removal.cause = .peer := by
  constructor
  · have redirects : ∃ removal ∈ ((Machine.run (Loop.step unixSession) startLoop redirected).get (by decide)).removals,
        removal.job.isRemote = false ∧ removal.path = ['/', 'd', '/', '.', '.', '/', 'v'] := by decide
    refine ⟨_, Machine.reachable_run _ _ redirected (by decide), fun guarded => ?_, redirects⟩
    have own : ∀ removal ∈ ((Machine.run (Loop.step unixSession) startLoop redirected).get (by decide)).removals,
        removal.job.listed.val[removal.index]?.map removal.job.pathOf ≠ some removal.path := by decide
    obtain ⟨removal, member, _⟩ := redirects
    obtain ⟨entry, isEntry, path⟩ := guarded.own removal member
    exact own removal member (by rw [isEntry, path, Option.map_some])
  · have starts : ∃ removal ∈ ((Machine.run (Loop.step unixSession) startLoop started).get (by decide)).removals,
        removal.job.isRemote = false ∧ removal.cause = .peer := by decide
    refine ⟨_, Machine.reachable_run _ _ started (by decide), fun guarded => ?_, starts⟩
    obtain ⟨removal, member, _, isPeer⟩ := starts
    obtain ⟨_, _, isRemoved, _⟩ := guarded.after removal member
    rw [isPeer] at isRemoved
    cases isRemoved

end GotechDesk.Controller
