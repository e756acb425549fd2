import GotechDesk.FileTransfer.DelegatedMirror

set_option autoImplicit false

namespace GotechDesk.FileTransfer

section
variable {Wire : Type}

structure Fresh (state : Delegated Wire) : Prop where
  received : ∀ receipt ∈ state.received, receipt.stems = receipt.latest
  forgotten : ∀ forgotten ∈ state.forgotten, forgotten.stems = forgotten.latest

-- The jobs that a tick gets to.
def tickReads (setup : Setup Wire) (disks : Nat → Disk) : Nat → List CmJob → List CmJob
  | _, [] => []
  | place, entry :: rest =>
      if entry.job.isLastJob then tickReads setup disks (place + 1) rest
      else
        match (initReadJobForCm setup.style (disks place) entry.job : TransferJob × Except String (List (Data Wire))).2 with
        | .error _ => entry :: tickReads setup disks (place + 1) rest
        | .ok _ => [entry]

def FS.reads : FS → List Int32
  | .readFile _ id _ _ => [id]
  | _ => []

-- No Send is given while a result of its id is on its way, and the manager starts and reads
-- only jobs of the latest Send of their id.
def Uncrossed (setup : Setup Wire) (state : Delegated Wire) : DelegatedLabel → Prop
  | .message (.send id _ _) => ∀ result ∈ state.fromCm, result.data.id ≠ id
  | .message _ => True
  | .take _ _ => ∀ request ∈ state.toCm.head?.toList, ∀ id ∈ request.fs.reads, request.serial = state.latest id
  | .tick disks _ => ∀ entry ∈ tickReads setup disks 0 state.readJobs, entry.serial = state.latest entry.job.id
  | .deliver => True

instance (setup : Setup Wire) (state : Delegated Wire) (label : DelegatedLabel) : Decidable (Uncrossed setup state label) :=
  match label with
  | .message (.send id _ _) => inferInstanceAs (Decidable (∀ result ∈ state.fromCm, result.data.id ≠ id))
  | .message (.confirm _) => inferInstanceAs (Decidable True)
  | .message (.cancel _) => inferInstanceAs (Decidable True)
  | .take _ _ =>
      -- By the list, and not by all the ids there are.
      have each : DecidablePred (fun request : Request => ∀ id ∈ request.fs.reads, request.serial = state.latest id) :=
        fun request => List.decidableBAll (fun id => request.serial = state.latest id) request.fs.reads
      List.decidableBAll _ state.toCm.head?.toList
  | .tick disks _ =>
      inferInstanceAs (Decidable (∀ entry ∈ tickReads setup disks 0 state.readJobs, entry.serial = state.latest entry.job.id))
  | .deliver => inferInstanceAs (Decidable True)

structure Current (state : Delegated Wire) : Prop where
  fresh : Fresh state
  onTheirWay : ∀ result ∈ state.fromCm, result.serial = state.latest result.data.id

section
variable (style : Style)

theorem init_same (disk : Disk) (job : TransferJob) : KeptJob job (job.initDataStream style disk).1 := by
  have openedSame : ∀ opened, Opened style disk job opened → KeptJob job opened := by
    intro opened isOpen
    cases isOpen with
    | already entry stream listed isOpen => exact ⟨rfl, rfl⟩
    | fresh entry listed closed opens => exact ⟨rfl, rfl⟩
  have shape := initDataStream_cases style disk job
  generalize job.initDataStream style disk = outcome at shape ⊢
  cases shape with
  | done passed => exact ⟨rfl, rfl⟩
  | unopened entry text listed closed refused => exact ⟨rfl, rfl⟩
  | quiet opened isOpen unasked => exact openedSame opened isOpen
  | undigested opened text isOpen asked refused => exact openedSame opened isOpen
  | waiting opened found isOpen => exact ⟨(openedSame opened isOpen).id, (openedSame opened isOpen).isLastJob⟩

theorem read_same (codec : Codec) (disk : Disk) (job : TransferJob) : KeptJob job (job.read style codec disk).1 := by
  have shape := read_cases style codec disk job
  generalize job.read style codec disk = outcome at shape ⊢
  cases shape <;> exact ⟨rfl, rfl⟩

theorem read_block_id (codec : Codec) (disk : Disk) (job after : TransferJob) (block : FileTransferBlock)
    (isRead : job.read style codec disk = (after, .ok (some block))) : block.id = job.id := by
  unfold TransferJob.read at isRead
  split at isRead
  · cases isRead
  · split at isRead
    · cases isRead
    · split at isRead
      · cases isRead
      · split at isRead
        · cases isRead
        · cases isRead
          rfl
        · cases isRead
          rfl

theorem init_ids (disk : Disk) (job opened : TransferJob) (sent : List (Data Wire))
    (began : initReadJobForCm style disk job = (opened, .ok sent)) : opened.id = job.id ∧ ∀ data ∈ sent, data.id = job.id := by
  have echoed := init_echo Wire style disk job
  have same := init_same style disk job
  generalize job.initDataStream style disk = outcome at echoed same
  rw [began] at echoed
  cases echoed with
  | quiet => exact ⟨same.id, nofun⟩
  | asks found => exact ⟨same.id, by simpa [Data.id] using same.id⟩

theorem init_error_id (disk : Disk) (job opened : TransferJob) (text : String)
    (began : (initReadJobForCm style disk job : TransferJob × Except String (List (Data Wire))) = (opened, .error text)) :
    opened.id = job.id := by
  have echoed := init_echo Wire style disk job
  have same := init_same style disk job
  generalize job.initDataStream style disk = outcome at echoed same
  rw [began] at echoed
  cases echoed with
  | failed => exact same.id

end

section
variable (setup : Setup Wire)

theorem turn_ids (disk : Disk) (job : TransferJob) : ∀ data ∈ (readForCm setup disk job : ReadTurn Wire).sent, data.id = job.id := by
  have same := read_same setup.style setup.codec disk job
  have block := read_block_id setup.style setup.codec disk job
  unfold readForCm
  generalize job.read setup.style setup.codec disk = outcome at same block
  obtain ⟨after, text | none | found⟩ := outcome
  · simpa [Data.id] using same.id
  · dsimp only
    split
    · have last : (after.lastData : Data Wire).id = after.id := by
        unfold TransferJob.lastData
        cases after.jobError <;> rfl
      simpa [last] using same.id
    · intro data member
      cases member
  · simpa [Data.id] using block after found rfl

-- Every result of a tick comes from a job that the tick got to.
theorem tick_results (disks : Nat → Disk) (disk : Disk) (place : Nat) (jobs : List CmJob) :
    ∀ result ∈ (tickJobs setup disks disk place jobs).results,
      ∃ entry ∈ tickReads setup disks place jobs, result.serial = entry.serial ∧ result.data.id = entry.job.id := by
  induction jobs generalizing place with
  | nil =>
      intro result member
      cases member
  | cons entry rest ih =>
      rw [tickJobs, tickReads]
      by_cases last : entry.job.isLastJob = true
      · rw [if_pos last, if_pos last]
        exact ih (place + 1)
      · rw [if_neg last, if_neg last]
        rcases began : (initReadJobForCm setup.style (disks place) entry.job : TransferJob × Except String (List (Data Wire))) with
          ⟨opened, text | sent⟩
        · intro result member
          obtain here | later := List.mem_cons.mp member
          · exact ⟨entry, List.mem_cons_self, by rw [here], by rw [here]; exact init_error_id setup.style (disks place) entry.job opened text began⟩
          · obtain ⟨other, among, same⟩ := ih (place + 1) result later
            exact ⟨other, List.mem_cons_of_mem _ among, same⟩
        · intro result member
          obtain ⟨same, ids⟩ := init_ids setup.style (disks place) entry.job opened sent began
          obtain ⟨data, among, rfl⟩ := List.mem_map.mp member
          refine ⟨entry, List.mem_cons_self, rfl, ?_⟩
          obtain first | second := List.mem_append.mp among
          · exact ids data first
          · exact (turn_ids setup disk opened data second).trans same

theorem handle_results (listed : Except String (List FileEntry)) (fs : FileSystem) (serial : Nat) (jobs : List CmJob) (message : FS) :
    ∀ result ∈ (handleFs setup listed fs serial jobs message).2, result.serial = serial ∧ result.data.id ∈ message.reads := by
  intro result member
  cases message with
  | readFile path id fileNum overwriteDetection =>
      obtain rfl := List.mem_singleton.mp member
      refine ⟨rfl, ?_⟩
      have own : ((startReadJob setup path fileNum id overwriteDetection listed).2 : Data Wire).id = id := by
        unfold startReadJob
        split
        · rfl
        · split
          · rfl
          · split <;> rfl
      exact List.mem_singleton.mpr own
  | cancelRead id => cases member
  | sendConfirmForRead id fileNum skip offsetBlk => cases member
  | sendConfirm r => cases member

theorem deliver_current (state next : Delegated Wire) (current : Current state) (taken : state.deliver setup = some next) : Current next := by
  unfold Delegated.deliver at taken
  split at taken
  · cases taken
  · next result rest queued =>
    cases taken
    have here : result.serial = state.latest result.data.id := current.onTheirWay result (by rw [queued]; exact List.mem_cons_self)
    refine ⟨⟨?_, ?_⟩, fun other member => current.onTheirWay other (by rw [queued]; exact List.mem_cons_of_mem _ member)⟩
    · intro receipt member
      obtain earlier | later := List.mem_append.mp member
      · exact current.fresh.received receipt earlier
      · obtain ⟨response, _, rfl⟩ := List.mem_map.mp later
        exact here
    · intro forgotten member
      obtain earlier | later := List.mem_append.mp member
      · exact current.fresh.forgotten forgotten earlier
      · split at later
        · obtain rfl := List.mem_singleton.mp later
          exact here
        · cases later

theorem step_current (state : Delegated Wire) (label : DelegatedLabel) (next : Delegated Wire) (current : Current state)
    (uncrossed : Uncrossed setup state label) (taken : state.step setup label = some next) : Current next := by
  cases label with
  | message asked =>
      cases taken
      cases asked with
      | send id path fileNum =>
          refine ⟨⟨current.fresh.received, current.fresh.forgotten⟩, fun result member => ?_⟩
          have other : result.data.id ≠ id := uncrossed result member
          exact (current.onTheirWay result member).trans (if_neg other).symm
      | confirm r =>
          change Current (state.confirm r)
          unfold Delegated.confirm
          split
          · exact ⟨⟨current.fresh.received, current.fresh.forgotten⟩, current.onTheirWay⟩
          · exact ⟨⟨current.fresh.received, current.fresh.forgotten⟩, current.onTheirWay⟩
      | cancel id => exact ⟨⟨current.fresh.received, current.fresh.forgotten⟩, current.onTheirWay⟩
  | take listed fs =>
      change state.take setup listed fs = some next at taken
      unfold Delegated.take at taken
      split at taken
      · cases taken
      · next request rest queued =>
        cases taken
        refine ⟨⟨current.fresh.received, current.fresh.forgotten⟩, ?_⟩
        intro result member
        obtain earlier | later := List.mem_append.mp member
        · exact current.onTheirWay result earlier
        · obtain ⟨same, reads⟩ := handle_results setup listed fs request.serial state.readJobs request.fs result later
          exact same.trans (uncrossed request (by rw [queued]; exact List.mem_cons_self) result.data.id reads)
  | tick disks disk =>
      cases taken
      refine ⟨⟨current.fresh.received, current.fresh.forgotten⟩, ?_⟩
      intro result member
      obtain earlier | later := List.mem_append.mp member
      · exact current.onTheirWay result earlier
      · obtain ⟨entry, among, same, own⟩ := tick_results setup disks disk 0 state.readJobs result later
        have latest : entry.serial = state.latest entry.job.id := uncrossed entry among
        change result.serial = state.latest result.data.id
        rw [same, own, latest]
  | deliver => exact deliver_current setup state next current taken

end

-- Without such crossings the peer hears of each id from its latest job only, and no other job's
-- end makes the connection forget it.
theorem delegated_reads_fresh (setup : Setup Wire) (past : List (Delegated Wire × DelegatedLabel)) (state : Delegated Wire)
    (traced : Machine.Traced (Delegated.step setup) (noDelegated Wire) past state) (uncrossed : ∀ entry ∈ past, Uncrossed setup entry.1 entry.2) :
    (∀ entry ∈ past, Fresh entry.1) ∧ Fresh state := by
  have start : Current (noDelegated Wire) := ⟨⟨nofun, nofun⟩, nofun⟩
  obtain ⟨before, here⟩ := Machine.traced_kept (Delegated.step setup) Current (Uncrossed setup) (noDelegated Wire) state past start
    (step_current setup) traced uncrossed
  exact ⟨fun entry member => (before entry member).fresh, here.fresh⟩

end

def sendPath (path : Name) : DelegatedLabel := .message (.send 1 path 0)

def askedAgain : List DelegatedLabel :=
  [sendPath ['/', 's'], takeListed twoFiles, .deliver, wholeTick, .deliver, .message (.cancel 1), sendPath ['/', 't'], takeListed [], takeListed [],
   wholeTick, .deliver, .deliver]

theorem delegated_reads_fresh_again :
    (∀ entry ∈ Machine.trace (Delegated.step detecting) (noDelegated FileDirectory) askedAgain, Fresh entry.1) ∧
      Fresh ((Machine.run (Delegated.step detecting) (noDelegated FileDirectory) askedAgain).get (by decide +kernel)) := by
  apply delegated_reads_fresh detecting _ _ (Machine.traced_run _ _ _ (by decide))
  decide +kernel

-- The Done of the first job is still on its way when its id is sent again.
def askedTooSoon : List DelegatedLabel :=
  [sendPath ['/', 's'], takeListed [], .deliver, wholeTick, .message (.cancel 1), sendPath ['/', 't'], .deliver]

theorem stale_done_forgets : ∃ state, Machine.Reachable (Delegated.step detecting) (noDelegated FileDirectory) state ∧
    ¬ (∀ receipt ∈ state.received, receipt.stems = receipt.latest) ∧ ¬ (∀ forgotten ∈ state.forgotten, forgotten.stems = forgotten.latest) := by
  exact ⟨_, Machine.reachable_run _ _ askedTooSoon (by decide), by decide, by decide⟩

end GotechDesk.FileTransfer
