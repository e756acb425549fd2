import GotechDesk.FileTransfer.WriteSafety

set_option autoImplicit false

namespace GotechDesk.FileTransfer

open Machine

section
variable (style : Style) (origin : TransferJob) (before : FileSystem) (state after : WriteState)

-- A step that leaves the nodes alone keeps the invariant when the download that stays open is accounted for.
theorem writeInv_nodes (inv : WriteInv style origin before state) (nodes : after.fs.node = state.fs.node)
    (delivered : ∀ pair, pair ∈ state.delivered → pair ∈ after.delivered)
    (job : ∀ job, after.job = some job → SameJob origin job)
    (download : ∀ job reception, after.job = some job → after.reception = some reception → OpenDownload style origin job after.fs reception) :
    WriteInv style origin before after := by
  refine ⟨job, ?_, ?_, download⟩
  · intro index entry listed
    exact undamaged_kept style origin before state after index entry (inv.finals index entry listed) (by rw [nodes]) delivered
  · intro index entry role listed sibling
    rw [nodes]
    exact inv.unlinked index entry role listed sibling

theorem left_inv (job : TransferJob) (left : Left style origin before state job after.fs) (delivered : after.delivered = leave job state)
    (same : ∀ job, after.job = some job → SameJob origin job)
    (download : ∀ job reception, after.job = some job → after.reception = some reception → OpenDownload style origin job after.fs reception) :
    WriteInv style origin before after := by
  refine ⟨same, ?_, left.unlinked, download⟩
  intro index entry listed
  unfold Undamaged
  rw [delivered]
  exact left.finals index entry listed

end

theorem openDownload_under (style : Style) (origin job : TransferJob) (fs : FileSystem) (reception : Reception) (answers : SystemAnswers)
    (isOpen : OpenDownload style origin job fs reception) : OpenDownload style origin job (fs.under answers) reception :=
  ⟨isOpen.current, isOpen.stream⟩

-- The open of a download for writing: the nodes stay, and the handle is on the download when it is made.
inductive Seeking (style : Style) (fs : FileSystem) (job : TransferJob) (fileNum offset : Nat) : TransferJob × FileSystem → Prop where
  | refused (after : FileSystem) (nodes : after.node = fs.node) (handle : after.handle = fs.handle) :
      Seeking style fs job fileNum offset (job, after)
  | reader (after : FileSystem) (nodes : after.node = fs.node) : Seeking style fs job fileNum offset (job.seekTo false offset, after)
  | writer (after : FileSystem) (entry : FileEntry) (listed : job.files[fileNum]? = some entry) (nodes : after.node = fs.node)
      (handle : after.handle = some (job.placeOf style .download entry)) :
      Seeking style fs job fileNum offset (job.seekTo true offset, after)

section
variable (style : Style) (fs : FileSystem) (job : TransferJob) (fileNum offset : Nat)

theorem seekDownload_seeking (entry : FileEntry)
    (listed : job.files[fileNum]? = some entry) (unlinked : ¬ isLink fs.node (job.placeOf style .download entry)) :
    Seeking style fs job fileNum offset (job.seekDownload style fs (job.target entry.name .download) offset) := by
  have handing := openWrite_cases style fs (job.target entry.name .download) unlinked
  unfold TransferJob.seekDownload
  generalize fs.openWrite style (job.target entry.name .download) = outcome at handing ⊢
  cases handing with
  | refused after text nodes handle env => exact .refused after nodes handle
  | done after nodes handle env =>
      dsimp only
      split
      · exact .refused _ nodes rfl
      · exact .writer after entry listed nodes handle

theorem setStreamOffset_seeking (unlinked : ∀ entry, job.files[fileNum]? = some entry → ¬ isLink fs.node (job.placeOf style .download entry)) :
    Seeking style fs job fileNum offset (job.setStreamOffset style fs fileNum offset) := by
  unfold TransferJob.setStreamOffset
  cases found : job.files[fileNum]?.filter (fun entry => (job.resolveEntryPath style fs entry.name).isSome) with
  | none => exact .refused fs rfl rfl
  | some entry =>
      have listed := (Option.filter_eq_some_iff.mp found).1
      dsimp only
      split
      · exact seekDownload_seeking style fs job fileNum offset entry listed (unlinked entry listed)
      · split
        · exact .reader fs rfl
        · exact .refused fs rfl rfl

end

section
variable (style : Style) (json : DigestFormat) (origin : TransferJob) (before : FileSystem)

-- A download that is taken up again is where its digest and its offset say it is.
theorem resumed_open (fs after : FileSystem) (job : TransferJob) (offset : Nat) (reception : Reception) (entry : FileEntry) (moved : TransferJob)
    (same : SameJob origin job) (listed : job.files[asUsize job.fileNum]? = some entry)
    (unlinked : ¬ isLink fs.node (job.placeOf style .download entry))
    (nodes : after.node = fs.node) (handle : after.handle = some (job.placeOf style .download entry))
    (fileNum : moved.fileNum = job.fileNum) (stream : moved.dataStream = some { writable := true, pos := offset })
    (taken : resumed style json fs job offset = some reception) : OpenDownload style origin moved after reception := by
  have place := sameJob_place style origin job same .download entry
  have current : job.entry = some entry := listed
  unfold resumed at taken
  rw [current] at taken
  dsimp only at taken
  split at taken
  · rename_i content node
    have found : fs.node (job.placeOf style .download entry) = some (.file content) := node
    rw [place] at found handle
    cases taken
    refine ⟨by rw [fileNum], offset, entry, stream, ?_, handle, ?_⟩
    · rw [← same.files]
      exact listed
    · intro sound
      rw [Bool.and_eq_true, decide_eq_true_eq] at sound
      exact ⟨by rw [nodes]; exact found, sound.1⟩
  · cases taken

theorem confirm_inv (state : WriteState) (job : TransferJob) (inv : WriteInv style origin before state) (ours : state.job = some job)
    (answers : SystemAnswers) (r : FileTransferSendConfirmRequest) :
    WriteInv style origin before
      { state with job := some (job.confirm style (state.fs.under answers) r).1, fs := (job.confirm style (state.fs.under answers) r).2,
                   reception := confirmReception style json (state.fs.under answers) job (job.confirm style (state.fs.under answers) r).1 state r } := by
  have same := inv.job job ours
  have kept : ∀ moved : TransferJob, moved.files = job.files → moved.base = job.base → moved.type = job.type → SameJob origin moved :=
    fun moved files base type => ⟨files.trans same.files, base.trans same.base, type.trans same.type⟩
  have stays : ∀ moved : TransferJob, moved.fileNum = job.fileNum → moved.dataStream = job.dataStream → ∀ fs : FileSystem,
      fs.node = state.fs.node → fs.handle = state.fs.handle → ∀ reception, state.reception = some reception →
      OpenDownload style origin moved fs reception := by
    intro moved fileNum stream fs nodes handle reception received
    have isOpen := inv.download job reception ours received
    refine ⟨by rw [fileNum]; exact isOpen.current, ?_⟩
    rw [stream, handle, nodes]
    exact isOpen.stream
  have unchanged : ∀ moved : TransferJob, moved.files = job.files → moved.base = job.base → moved.type = job.type →
      moved.fileNum = job.fileNum → moved.dataStream = job.dataStream → ∀ fs : FileSystem, fs.node = state.fs.node →
      fs.handle = state.fs.handle → WriteInv style origin before { state with job := some moved, fs := fs } := by
    intro moved files base type fileNum stream fs nodes handle
    refine writeInv_nodes style origin before state _ inv nodes (fun _ member => member) ?_ ?_
    · intro other found
      cases found
      exact kept moved files base type
    · intro other reception found received
      cases found
      exact stays moved fileNum stream fs nodes handle reception received
  have closed : ∀ moved : TransferJob, moved.files = job.files → moved.base = job.base → moved.type = job.type → ∀ fs : FileSystem,
      fs.node = state.fs.node → WriteInv style origin before { state with job := some moved, fs := fs, reception := none } := by
    intro moved files base type fs nodes
    refine writeInv_nodes style origin before state _ inv nodes (fun _ member => member) ?_ ?_
    · intro other found
      cases found
      exact kept moved files base type
    · intro other reception _ impossible
      cases impossible
  by_cases num : job.fileNum = r.fileNum
  · cases union : r.union with
    | none =>
        have result : job.confirm style (state.fs.under answers) r = (job, state.fs.under answers) := by simp [TransferJob.confirm, union]
        have reception : ∀ after, confirmReception style json (state.fs.under answers) job after state r = state.reception := by
          simp [confirmReception, num, union]
        rw [result, reception]
        exact unchanged job rfl rfl rfl rfl rfl _ rfl rfl
    | some choice =>
        cases choice with
        | skip skipped =>
            cases skipped with
            | true =>
                have result : job.confirm style (state.fs.under answers) r = (job.setFileSkipped, state.fs.under answers) := by
                  simp [TransferJob.confirm, num, union]
                have reception : ∀ after, confirmReception style json (state.fs.under answers) job after state r = none := by
                  simp [confirmReception, num, union]
                rw [result, reception]
                exact closed job.setFileSkipped rfl rfl rfl _ rfl
            | false =>
                have result : job.confirm style (state.fs.under answers) r = (job.setFileConfirmed true, state.fs.under answers) := by
                  simp [TransferJob.confirm, num, union]
                have reception : ∀ after, confirmReception style json (state.fs.under answers) job after state r = state.reception := by
                  simp [confirmReception, num, union]
                rw [result, reception]
                exact unchanged (job.setFileConfirmed true) rfl rfl rfl rfl rfl _ rfl rfl
        | offsetBlk offset =>
            have reception : ∀ after, confirmReception style json (state.fs.under answers) job after state r =
                if after.transferred = job.transferred then state.reception
                else if after.dataStream.any DataStream.writable then resumed style json (state.fs.under answers) job offset else none := by
              simp [confirmReception, num, union]
            rw [reception]
            by_cases positive : 0 < offset
            · have result : job.confirm style (state.fs.under answers) r =
                  (job.setFileConfirmed true).setStreamOffset style (state.fs.under answers) (asUsize r.fileNum) offset := by
                simp [TransferJob.confirm, num, union, positive]
              have seeking := setStreamOffset_seeking style (state.fs.under answers) (job.setFileConfirmed true) (asUsize r.fileNum) offset (by
                intro entry listed linked
                have place : (job.setFileConfirmed true).placeOf style .download entry = job.placeOf style .download entry := rfl
                rw [place, sameJob_place style origin job same .download entry] at linked
                have ofOrigin : origin.files[asUsize r.fileNum]? = some entry := by rw [← same.files]; exact listed
                exact inv.unlinked _ entry .download ofOrigin (by simp) linked)
              rw [result]
              have moved : ¬ job.transferred + offset = job.transferred := by omega
              generalize (job.setFileConfirmed true).setStreamOffset style (state.fs.under answers) (asUsize r.fileNum) offset = outcome at seeking ⊢
              cases seeking with
              | refused after nodes handle =>
                  rw [if_pos (show (job.setFileConfirmed true).transferred = job.transferred from rfl)]
                  exact unchanged (job.setFileConfirmed true) rfl rfl rfl rfl rfl after nodes handle
              | reader after nodes =>
                  rw [if_neg (show ¬ ((job.setFileConfirmed true).seekTo false offset).transferred = job.transferred from moved),
                    if_neg (by simp [TransferJob.seekTo])]
                  exact closed ((job.setFileConfirmed true).seekTo false offset) rfl rfl rfl after nodes
              | writer after entry listed nodes handle =>
                  rw [if_neg (show ¬ ((job.setFileConfirmed true).seekTo true offset).transferred = job.transferred from moved),
                    if_pos (by simp [TransferJob.seekTo])]
                  refine writeInv_nodes style origin before state _ inv nodes (fun _ member => member) ?_ ?_
                  · intro other found
                    cases found
                    exact kept _ rfl rfl rfl
                  · intro other reception found taken
                    cases found
                    have listedHere : job.files[asUsize job.fileNum]? = some entry := by rw [num]; exact listed
                    have ofOrigin : origin.files[asUsize job.fileNum]? = some entry := by rw [← same.files]; exact listedHere
                    exact resumed_open style json origin (state.fs.under answers) after job offset reception entry _ same listedHere
                      (by rw [sameJob_place style origin job same]; exact inv.unlinked _ entry .download ofOrigin (by simp))
                      nodes handle rfl rfl taken
            · have result : job.confirm style (state.fs.under answers) r = (job.setFileConfirmed true, state.fs.under answers) := by
                simp [TransferJob.confirm, num, union, positive]
              rw [result]
              rw [if_pos (show (job.setFileConfirmed true).transferred = job.transferred from rfl)]
              exact unchanged (job.setFileConfirmed true) rfl rfl rfl rfl rfl _ rfl rfl
  · have result : job.confirm style (state.fs.under answers) r = (job, state.fs.under answers) := by simp [TransferJob.confirm, num]
    have reception : ∀ after, confirmReception style json (state.fs.under answers) job after state r = state.reception := by
      simp [confirmReception, num]
    rw [result, reception]
    exact unchanged job rfl rfl rfl rfl rfl _ rfl rfl

end

section
variable (style : Style) (codec : Codec) (json : DigestFormat) (origin : TransferJob) (before : FileSystem) (apart : Apart style origin)

include apart

-- Data that lands in a download touches no final path.
theorem received_final (fs : FileSystem) (index other : Nat) (entry otherEntry : FileEntry) (result : WriteResult) (reception : Reception)
    (listed : origin.files[index]? = some entry) (otherListed : origin.files[other]? = some otherEntry)
    (received : Received style origin fs entry result reception) :
    result.fs.node (origin.placeOf style .entry otherEntry) = fs.node (origin.placeOf style .entry otherEntry) :=
  received.elsewhere _ (apart.siblings other index otherEntry entry .download otherListed listed (by simp))

section
variable (state : WriteState) (job : TransferJob)

theorem received_left (fs : FileSystem) (index : Nat) (entry : FileEntry) (result : WriteResult)
    (reception : Reception) (listed : origin.files[index]? = some entry) (left : Left style origin before state job fs)
    (received : Received style origin fs entry result reception) : Left style origin before state job result.fs := by
  constructor
  · intro other otherEntry otherListed
    rw [received_final style origin apart fs index other entry otherEntry result reception listed otherListed received]
    exact left.finals other otherEntry otherListed
  · intro other otherEntry role otherListed sibling linked
    exact left.unlinked other otherEntry role otherListed sibling (received.links _ linked)

-- A block that makes the job go over to its entry.
theorem switching_inv (inv : WriteInv style origin before state) (ours : state.job = some job)
    (generic : origin.type = .generic) (leaves : Leaves style state.fs job state) (answers : SystemAnswers) (block : FileTransferBlock)
    (entry : FileEntry) (listed : origin.files[asUsize block.fileNum]? = some entry) :
    WriteInv style origin before
      (let switched := job.switchEntry style json (state.fs.under answers) block.fileNum entry.name
       let result := switched.andThen (fun job fs => job.writeData codec fs block)
       { job := some result.job, fs := result.fs,
         reception := if switched.error.isNone then
             some ((newReception (asUsize block.fileNum)).take codec (state.fs.under answers) block result.error.isSome) else none,
         delivered := leave job state }) := by
  have switched := switchEntry_switched style origin before apart json state job inv ours generic leaves answers block.fileNum entry listed
  generalize job.switchEntry style json (state.fs.under answers) block.fileNum entry.name = outcome at switched ⊢
  dsimp only
  cases failed : outcome.error with
  | some text =>
      have stopped : outcome.andThen (fun job fs => job.writeData codec fs block) = outcome := by simp [WriteResult.andThen, failed]
      rw [stopped, if_neg (by simp)]
      refine left_inv style origin before state _ job switched.left rfl ?_ ?_
      · intro other found
        cases found
        exact switched.sameJob
      · intro other reception _ impossible
        cases impossible
  | none =>
      have went : outcome.andThen (fun job fs => job.writeData codec fs block) = outcome.job.writeData codec outcome.fs block := by
        simp [WriteResult.andThen, failed]
      rw [went, if_pos (by simp)]
      have received := writeData_received style codec origin outcome.job outcome.fs (state.fs.under answers) block
        (newReception (asUsize block.fileNum)) entry switched.sameJob switched.env (switched.opened failed) listed
      refine left_inv style origin before state _ job
        (received_left style origin before apart state job outcome.fs (asUsize block.fileNum) entry _ _ listed switched.left received) rfl ?_ ?_
      · intro other found
        cases found
        exact received.job
      · intro other reception found taken
        cases found
        cases taken
        exact received.download

-- A block for the entry that is open.
theorem staying_inv (inv : WriteInv style origin before state) (ours : state.job = some job)
    (answers : SystemAnswers) (block : FileTransferBlock) (stays : job.switches block = false)
    (known : job.dataStream.any DataStream.writable = true → state.reception.isSome = true) :
    WriteInv style origin before
      (let result := job.writeData codec (state.fs.under answers) block
       { job := some result.job, fs := result.fs,
         reception := state.reception.map (Reception.take codec (state.fs.under answers) block result.error.isSome),
         delivered := state.delivered }) := by
  have same := inv.job job ours
  cases received : state.reception with
  | some reception =>
      have isOpen := openDownload_under style origin job state.fs reception answers (inv.download job reception ours received)
      obtain ⟨_, entry, _, listed, _⟩ := isOpen.stream
      have taken := writeData_received style codec origin job (state.fs.under answers) (state.fs.under answers) block reception entry same
        (sameEnv_refl _) isOpen listed
      refine ⟨?_, ?_, ?_, ?_⟩
      · intro other found
        cases found
        exact taken.job
      · intro index other otherListed
        refine undamaged_kept style origin before state _ index other (inv.finals index other otherListed) ?_ (fun _ member => member)
        exact received_final style origin apart (state.fs.under answers) reception.entry index entry other _ _ listed otherListed taken
      · intro index other role otherListed sibling linked
        exact inv.unlinked index other role otherListed sibling (taken.links _ linked)
      · intro other after found kept
        cases found
        cases kept
        exact taken.download
  | none =>
      have reading : ∃ stream, job.dataStream = some stream ∧ stream.writable = false := by
        cases stream : job.dataStream with
        | none => simp [TransferJob.switches, stream] at stays
        | some stream' =>
            refine ⟨stream', rfl, ?_⟩
            by_contra writable
            have isSome := known (by rw [stream]; simpa using writable)
            rw [received] at isSome
            cases isSome
      obtain ⟨stream, isOpen, readOnly⟩ := reading
      have nodes : (job.writeData codec (state.fs.under answers) block).fs.node = state.fs.node := by
        unfold TransferJob.writeData
        rw [isOpen]
        dsimp only
        rw [readOnly]
        cases (state.fs.under answers).handleFails .write <;> rfl
      have kept : SameJob origin (job.writeData codec (state.fs.under answers) block).job := by
        unfold TransferJob.writeData
        rw [isOpen]
        cases (state.fs.under answers).handleFails .write <;> exact ⟨same.files, same.base, same.type⟩
      refine writeInv_nodes style origin before state _ inv nodes (fun _ member => member) ?_ ?_
      · intro other found
        cases found
        exact kept
      · intro other reception _ impossible
        cases impossible

theorem writeBlock_inv (inv : WriteInv style origin before state) (ours : state.job = some job)
    (generic : origin.type = .generic) (answers : SystemAnswers) (block : FileTransferBlock)
    (careful : Careful style state (.write answers block)) :
    WriteInv style origin before (writeBlock style codec json (state.fs.under answers) job state block) := by
  have same := inv.job job ours
  have refused : ∀ text, WriteInv style origin before
      { state with job := some (WriteResult.mk job (state.fs.under answers) (some text)).job,
                   fs := (WriteResult.mk job (state.fs.under answers) (some text)).fs } := by
    intro text
    refine writeInv_nodes style origin before state _ inv rfl (fun _ member => member) ?_ ?_
    · intro other found
      cases found
      exact same
    · intro other reception found received
      cases found
      exact openDownload_under style origin job state.fs reception answers (inv.download job reception ours received)
  unfold writeBlock
  cases listed : job.files[asUsize block.fileNum]? with
  | none =>
      have result : ∃ text, job.write style codec json (state.fs.under answers) block = ⟨job, state.fs.under answers, some text⟩ := by
        unfold TransferJob.write
        by_cases wrong : block.id ≠ job.id
        · exact ⟨_, if_pos wrong⟩
        · rw [if_neg wrong, listed]
          exact ⟨_, rfl⟩
      obtain ⟨text, result⟩ := result
      rw [result]
      exact refused text
  | some entry =>
      dsimp only
      by_cases wrong : block.id ≠ job.id
      · have result : job.write style codec json (state.fs.under answers) block = ⟨job, state.fs.under answers, some "Wrong id"⟩ := by
          unfold TransferJob.write
          exact if_pos wrong
        rw [if_pos wrong, result]
        exact refused "Wrong id"
      · have right : block.id = job.id := Decidable.not_not.mp wrong
        have caution := careful job entry ours right listed
        have ofOrigin : origin.files[asUsize block.fileNum]? = some entry := by rw [← same.files]; exact listed
        rw [if_neg wrong]
        by_cases switches : job.switches block = true
        · have result : job.write style codec json (state.fs.under answers) block =
              (job.switchEntry style json (state.fs.under answers) block.fileNum entry.name).andThen
                (fun job fs => job.writeData codec fs block) := by
            unfold TransferJob.write
            rw [if_neg wrong, listed]
            exact if_pos (by simpa [TransferJob.switches] using switches)
          rw [if_pos switches, result]
          exact switching_inv style codec json origin before apart state job inv ours generic (caution.1 switches) answers block entry ofOrigin
        · have result : job.write style codec json (state.fs.under answers) block = job.writeData codec (state.fs.under answers) block := by
            unfold TransferJob.write
            rw [if_neg wrong, listed]
            exact if_neg (by simpa [TransferJob.switches] using switches)
          have stays : job.switches block = false := by simpa using switches
          rw [if_neg switches, result]
          exact staying_inv style codec origin before apart state job inv ours answers block stays (caution.2 stays)

theorem removal_undamaged (inv : WriteInv style origin before state) (ours : state.job = some job) (answers : SystemAnswers) :
    WriteInv style origin before
      { state with job := none, fs := job.removeDownloadFile style (state.fs.under answers), reception := none } := by
  have same := inv.job job ours
  have cleared : (∀ (index : Nat) (entry : FileEntry), origin.files[index]? = some entry →
        (job.removeDownloadFile style (state.fs.under answers)).node (origin.placeOf style .entry entry) =
          state.fs.node (origin.placeOf style .entry entry)) ∧
      (∀ key, isLink (job.removeDownloadFile style (state.fs.under answers)).node key → isLink state.fs.node key) := by
    unfold TransferJob.removeDownloadFile
    split
    · rename_i current _ resolved
      have listed : origin.files[asUsize job.fileNum]? = some current := by
        rw [← sameJob_entry origin job same]
        exact (Option.filter_eq_some_iff.mp resolved).1
      have first := removal_tidy (state.fs.under answers) _ _ (removeFile_cases style (state.fs.under answers) (job.target current.name .download))
      generalize ((state.fs.under answers).removeFile style (job.target current.name .download)).1 = middle at first ⊢
      have second := removal_tidy middle _ _ (removeFile_cases style middle (job.target current.name .digest))
      refine ⟨?_, fun key linked => first.2.1 key (second.2.1 key linked)⟩
      intro index entry listedHere
      have place := fun role => sameJob_place style origin job same role current
      have notDigest := apart.siblings index _ entry current .digest listedHere listed (by simp)
      have notDownload := apart.siblings index _ entry current .download listedHere listed (by simp)
      rw [← place] at notDigest notDownload
      exact (second.1 _ notDigest).trans (first.1 _ notDownload)
    · exact ⟨fun _ _ _ => rfl, fun _ linked => linked⟩
  refine ⟨?_, ?_, ?_, ?_⟩
  · intro other impossible
    cases impossible
  · intro index entry listed
    exact undamaged_kept style origin before state _ index entry (inv.finals index entry listed) (cleared.1 index entry listed) (fun _ member => member)
  · intro index entry role listed sibling linked
    exact inv.unlinked index entry role listed sibling (cleared.2 _ linked)
  · intro other reception impossible
    cases impossible

end

theorem writeStep_inv (state after : WriteState) (label : WriteLabel) (inv : WriteInv style origin before state) (generic : origin.type = .generic)
    (careful : Careful style state label) (taken : writeStep style codec json state label = some after) : WriteInv style origin before after := by
  unfold writeStep at taken
  cases ours : state.job with
  | none => simp [ours] at taken
  | some job =>
      rw [ours] at taken
      cases label with
      | write answers block =>
          cases taken
          exact writeBlock_inv style codec json origin before apart state job inv ours generic answers block careful
      | confirm answers r =>
          cases taken
          exact confirm_inv style json origin before state job inv ours answers r
      | setDigest size modified =>
          cases taken
          refine writeInv_nodes style origin before state _ inv rfl (fun _ member => member) ?_ ?_
          · intro other found
            cases found
            have same := inv.job job ours
            exact ⟨same.files, same.base, same.type⟩
          · intro other reception found received
            cases found
            have isOpen := inv.download job reception ours received
            exact ⟨isOpen.current, isOpen.stream⟩
      | modifyTime answers =>
          cases taken
          refine left_inv style origin before state _ job
            (modifyTime_left style origin before apart state job inv ours (careful job ours) answers) rfl ?_ ?_
          · intro other impossible
            cases impossible
          · intro other reception impossible
            cases impossible
      | removeDownloadFile answers =>
          cases taken
          exact removal_undamaged style origin before apart state job inv ours answers
      | drop =>
          cases taken
          refine writeInv_nodes style origin before state _ inv rfl (fun _ member => member) ?_ ?_
          · intro other impossible
            cases impossible
          · intro other reception impossible
            cases impossible

end

def quiet : SystemAnswers := { fails := fun _ _ => none, lands := none }

def xEntry : FileEntry := { name := ['x'], size := 1, modifiedTime := 7 }

def lastBlock : FileTransferBlock := { firstBlock with data := [] }

theorem oneFile_listed (index : Nat) (entry : FileEntry) (listed : oneFile.files[index]? = some entry) : index = 0 ∧ entry = xEntry := by
  cases index with
  | zero => exact ⟨rfl, (Option.some.inj listed).symm⟩
  | succ index => simp [oneFile] at listed

theorem oneFile_apart : Apart .unix oneFile := by
  constructor
  · intro i j first second one two different
    exact absurd ((oneFile_listed i first one).1.trans (oneFile_listed j second two).1.symm) different
  · intro i j first second role one two sibling
    rw [(oneFile_listed i first one).2, (oneFile_listed j second two).2]
    cases role with
    | entry => exact absurd rfl sibling
    | download => decide
    | digest => decide
  · intro i entry listed
    rw [(oneFile_listed i entry listed).2]
    decide

def stateAfter (fs : FileSystem) (labels : List WriteLabel) : WriteState :=
  (Machine.run (writeStep .unix codecOff plainFormat) (startWrite oneFile fs) labels).getD (startWrite oneFile fs)

def wholeFile : List (WriteState × WriteLabel) :=
  [(stateAfter emptyTree [], .write quiet firstBlock), (stateAfter emptyTree [.write quiet firstBlock], .write quiet lastBlock),
   (stateAfter emptyTree [.write quiet firstBlock, .write quiet lastBlock], .modifyTime quiet)]

theorem wholeFile_careful : ∀ step ∈ wholeFile, Careful .unix step.1 step.2 := by
  have opened : (stateAfter emptyTree [.write quiet firstBlock]).job.map (fun job => job.switches lastBlock) = some false ∧
      (stateAfter emptyTree [.write quiet firstBlock]).reception.isSome = true := by decide
  have ended : (stateAfter emptyTree [.write quiet firstBlock, .write quiet lastBlock]).reception =
        some { entry := 0, received := [65], ended := true, sound := true } ∧
      (stateAfter emptyTree [.write quiet firstBlock, .write quiet lastBlock]).job.map (fun job => asUsize job.fileNum) = some 0 := by
    decide
  intro step member
  simp only [wholeFile, List.mem_cons, List.not_mem_nil, or_false] at member
  obtain rfl | rfl | rfl := member
  · intro job entry ours _ _
    have same : oneFile = job := Option.some.inj ours
    rw [← same]
    refine ⟨?_, ?_⟩
    · intro _ current listed
      rw [(oneFile_listed 0 current listed).2]
      exact .inl (by decide)
    · intro stays
      exact absurd stays (by decide)
  · intro job entry ours _ _
    rw [ours] at opened
    refine ⟨?_, fun _ _ => opened.2⟩
    intro switches
    rw [Option.map_some, switches] at opened
    exact absurd opened.1 (by simp)
  · intro job ours current _
    rw [ours] at ended
    exact .inr ⟨_, ended.1, (Option.some.inj ended.2).symm, rfl⟩

theorem wholeFile_traced : Traced (writeStep .unix codecOff plainFormat) (startWrite oneFile emptyTree) wholeFile
    (stateAfter emptyTree [.write quiet firstBlock, .write quiet lastBlock, .modifyTime quiet]) := by
  have first : Traced (writeStep .unix codecOff plainFormat) (startWrite oneFile emptyTree)
      [(stateAfter emptyTree [], .write quiet firstBlock)] (stateAfter emptyTree [.write quiet firstBlock]) := .next [] _ _ _ .start rfl
  have second : Traced (writeStep .unix codecOff plainFormat) (startWrite oneFile emptyTree)
      [(stateAfter emptyTree [], .write quiet firstBlock), (stateAfter emptyTree [.write quiet firstBlock], .write quiet lastBlock)]
      (stateAfter emptyTree [.write quiet firstBlock, .write quiet lastBlock]) := .next [_] _ _ _ first rfl
  exact .next [_, _] _ _ _ second rfl

-- A file, and beside it a download that an earlier transfer has left unfinished.
def staleTree : FileSystem :=
  (emptyTree.put (oneFile.placeOf .unix .entry xEntry) (some (.file [1, 2, 3]))).put (oneFile.placeOf .unix .download xEntry) (some (.file [9]))

end GotechDesk.FileTransfer
