import GotechDesk.FileTransfer.WriteFrames

set_option autoImplicit false

namespace GotechDesk.FileTransfer

-- The job of the state is the one that was started, as far as its paths go.
structure SameJob (origin job : TransferJob) : Prop where
  files : job.files = origin.files
  base : job.base = origin.base
  type : job.type = origin.type

theorem sameJob_place (style : Style) (origin job : TransferJob) (same : SameJob origin job) (role : Role) (entry : FileEntry) :
    job.placeOf style role entry = origin.placeOf style role entry := by
  unfold TransferJob.placeOf TransferJob.target
  rw [same.base]

theorem sameJob_entry (origin job : TransferJob) (same : SameJob origin job) : job.entry = origin.files[asUsize job.fileNum]? := by
  unfold TransferJob.entry
  rw [same.files]

-- The open download and what its history says of it.
structure OpenDownload (style : Style) (origin job : TransferJob) (fs : FileSystem) (reception : Reception) : Prop where
  current : reception.entry = asUsize job.fileNum
  stream : ∃ pos entry, job.dataStream = some { writable := true, pos := pos } ∧ origin.files[reception.entry]? = some entry ∧
    fs.handle = some (origin.placeOf style .download entry) ∧
    (reception.sound = true → fs.node (origin.placeOf style .download entry) = some (.file reception.received) ∧ pos = reception.received.length)

structure WriteInv (style : Style) (origin : TransferJob) (before : FileSystem) (state : WriteState) : Prop where
  job : ∀ job, state.job = some job → SameJob origin job
  finals : ∀ index entry, origin.files[index]? = some entry → Undamaged style origin before state index entry
  unlinked : ∀ (index : Nat) (entry : FileEntry) (role : Role), origin.files[index]? = some entry → role ≠ .entry →
    ¬ isLink state.fs.node (origin.placeOf style role entry)
  download : ∀ job reception, state.job = some job → state.reception = some reception → OpenDownload style origin job state.fs reception

-- The final paths after a step that put nothing in place of them.
theorem undamaged_kept (style : Style) (origin : TransferJob) (before : FileSystem) (state after : WriteState) (index : Nat) (entry : FileEntry)
    (undamaged : Undamaged style origin before state index entry)
    (nodes : after.fs.node (origin.placeOf style .entry entry) = state.fs.node (origin.placeOf style .entry entry))
    (delivered : ∀ pair, pair ∈ state.delivered → pair ∈ after.delivered) : Undamaged style origin before after index entry := by
  obtain same | ⟨content, member, found⟩ := undamaged
  · exact .inl (nodes.trans same)
  · exact .inr ⟨content, delivered _ member, nodes.trans found⟩

theorem leave_keeps (job : TransferJob) (state : WriteState) : ∀ pair, pair ∈ state.delivered → pair ∈ leave job state := by
  intro pair member
  unfold leave
  cases state.reception with
  | none => exact member
  | some reception =>
      dsimp only
      split
      · exact List.mem_append_left _ member
      · exact member

-- What modify_time leaves when the job may leave its entry.
structure Left (style : Style) (origin : TransferJob) (before : FileSystem) (state : WriteState) (job : TransferJob) (after : FileSystem) : Prop where
  finals : ∀ index entry, origin.files[index]? = some entry →
    after.node (origin.placeOf style .entry entry) = before.node (origin.placeOf style .entry entry) ∨
      ∃ content, (index, content) ∈ leave job state ∧ after.node (origin.placeOf style .entry entry) = some (.file content)
  unlinked : ∀ (index : Nat) (entry : FileEntry) (role : Role), origin.files[index]? = some entry → role ≠ .entry →
    ¬ isLink after.node (origin.placeOf style role entry)

section
variable (style : Style) (origin : TransferJob) (before : FileSystem) (apart : Apart style origin)

include apart

theorem modifyTime_left (state : WriteState) (job : TransferJob) (inv : WriteInv style origin before state) (ours : state.job = some job)
    (leaves : Leaves style state.fs job state) (answers : SystemAnswers) :
    Left style origin before state job (job.modifyTime style (state.fs.under answers)) := by
  have same := inv.job job ours
  have earlier : ∀ index entry, origin.files[index]? = some entry → ∀ node,
      node = state.fs.node (origin.placeOf style .entry entry) → node = before.node (origin.placeOf style .entry entry) ∨
        ∃ content, (index, content) ∈ leave job state ∧ node = some (.file content) := by
    intro index entry listed node here
    obtain kept | ⟨content, member, found⟩ := inv.finals index entry listed
    · exact .inl (here.trans kept)
    · exact .inr ⟨content, leave_keeps job state _ member, here.trans found⟩
  cases current : job.entry with
  | none =>
      have nothing : job.modifyTime style (state.fs.under answers) = state.fs.under answers := by
        have resolved : job.resolved style (state.fs.under answers) = none := by simp [TransferJob.resolved, current]
        unfold TransferJob.modifyTime
        rw [resolved]
        cases job.type <;> rfl
      rw [nothing]
      exact ⟨fun index entry listed => earlier index entry listed _ rfl, fun index entry role listed sibling => inv.unlinked index entry role listed sibling⟩
  | some entry =>
      have listed : origin.files[asUsize job.fileNum]? = some entry := by rw [← sameJob_entry origin job same, current]
      have place := fun role other => sameJob_place style origin job same role other
      have download : ∀ node, (state.fs.under answers).node (job.placeOf style .download entry) = some node → ∃ content, node = .file content := by
        intro node here
        obtain absent | ⟨reception, received, _, complete⟩ := leaves entry current
        · have present : state.fs.node (job.placeOf style .download entry) = some node := here
          rw [absent] at present
          cases present
        · have isOpen := inv.download job reception ours received
          obtain ⟨pos, other, _, otherListed, _, sound⟩ := isOpen.stream
          rw [isOpen.current, listed] at otherListed
          cases otherListed
          rw [Reception.complete, Bool.and_eq_true] at complete
          have found := (sound complete.2).1
          have present : state.fs.node (origin.placeOf style .download entry) = some node := by
            rw [← place]
            exact here
          rw [found] at present
          exact ⟨reception.received, (Option.some.inj present).symm⟩
      have tidy := modifyTime_tidy style (state.fs.under answers) job entry current
        (by rw [place, place]; exact apart.siblings _ _ entry entry .digest listed listed (by simp))
        (by rw [place, place]; exact apart.siblings _ _ entry entry .download listed listed (by simp)) download
      rw [place, place, place] at tidy
      constructor
      · intro index other otherListed
        by_cases atCurrent : index = asUsize job.fileNum
        · rw [atCurrent] at otherListed ⊢
          have sameEntry : other = entry := Option.some.inj (otherListed.symm.trans listed)
          rw [sameEntry]
          obtain kept | ⟨content, source, final⟩ := tidy.final
          · rw [kept]
            exact earlier _ entry listed _ rfl
          · obtain absent | ⟨reception, received, sameIndex, complete⟩ := leaves entry current
            · rw [place] at absent
              have present : state.fs.node (origin.placeOf style .download entry) = some (.file content) := source
              rw [absent] at present
              cases present
            · obtain ⟨pos, last, _, lastListed, _, sound⟩ := (inv.download job reception ours received).stream
              rw [sameIndex, listed] at lastListed
              cases lastListed
              have isSound : reception.sound = true := by
                rw [Reception.complete, Bool.and_eq_true] at complete
                exact complete.2
              have present : state.fs.node (origin.placeOf style .download entry) = some (.file content) := source
              rw [(sound isSound).1] at present
              cases present
              refine .inr ⟨reception.received, ?_, final⟩
              unfold leave
              rw [received]
              dsimp only
              rw [if_pos (by simp [complete, sameIndex]), ← sameIndex]
              simp
        · have elsewhere := tidy.elsewhere (origin.placeOf style .entry other)
            (fun equal => apart.finals index _ other entry otherListed listed atCurrent (by rw [equal]))
            (apart.siblings index _ other entry .download otherListed listed (by simp))
            (apart.siblings index _ other entry .digest otherListed listed (by simp))
          exact earlier index other otherListed _ elsewhere
      · intro index other role otherListed sibling linked
        exact inv.unlinked index other role otherListed sibling (tidy.links _ linked)

theorem begun_left (state : WriteState) (job : TransferJob) (kept after : FileSystem) (index : Nat) (entry : FileEntry)
    (listed : origin.files[index]? = some entry) (left : Left style origin before state job kept)
    (begun : Begun kept after (origin.placeOf style .entry entry) (origin.placeOf style .download entry) (origin.placeOf style .digest entry)) :
    Left style origin before state job after := by
  constructor
  · intro other otherEntry otherListed
    have elsewhere := begun.elsewhere (origin.placeOf style .entry otherEntry)
      (apart.siblings other index otherEntry entry .download otherListed listed (by simp))
      (apart.siblings other index otherEntry entry .digest otherListed listed (by simp))
    obtain same | ⟨_, _, onTheWay, below⟩ := elsewhere
    · rw [same]
      exact left.finals other otherEntry otherListed
    · exfalso
      by_cases sameIndex : other = index
      · rw [sameIndex] at otherListed
        have sameEntry : otherEntry = entry := Option.some.inj (otherListed.symm.trans listed)
        rw [sameEntry] at onTheWay below
        have shorter := onTheWay.length_le
        rw [List.length_dropLast] at shorter
        have long := List.length_pos_iff.mpr below
        omega
      · exact apart.finals other index otherEntry entry otherListed listed sameIndex (onTheWay.trans (List.dropLast_prefix _))
  · intro other otherEntry role otherListed sibling linked
    exact left.unlinked other otherEntry role otherListed sibling (begun.links _ linked)

-- What has become of a job that was to go over to another entry.
structure Switched (state : WriteState) (job : TransferJob) (answers : SystemAnswers) (index : Nat) (result : WriteResult) : Prop where
  sameJob : SameJob origin result.job
  left : Left style origin before state job result.fs
  env : SameEnv (state.fs.under answers) result.fs
  opened : result.error = none → OpenDownload style origin result.job result.fs (newReception index)

omit apart in
theorem modifyTime_env (job : TransferJob) (fs : FileSystem) : SameEnv fs (job.modifyTime style fs) := by
  unfold TransferJob.modifyTime
  split
  · rename_i entry _ _
    have removal := removal_tidy fs _ _ (removeFile_cases style fs (job.target entry.name .digest))
    refine sameEnv_trans _ _ _ removal.2.2.2 ?_
    unfold FileSystem.rename FileSystem.attempt
    dsimp only
    split
    · exact ⟨rfl, rfl⟩
    · rename_i after _ done
      unfold FileSystem.renameTo at done
      split at done
      · cases done
      · split at done
        · cases done
          exact ⟨rfl, rfl⟩
        · cases done
      · split at done
        · cases done
        · split at done
          · cases done
            exact ⟨rfl, rfl⟩
          · cases done
            exact ⟨rfl, rfl⟩
    · exact ⟨rfl, rfl⟩
  · exact sameEnv_refl fs

theorem switchEntry_switched (json : DigestFormat) (state : WriteState) (job : TransferJob) (inv : WriteInv style origin before state)
    (ours : state.job = some job) (generic : origin.type = .generic) (leaves : Leaves style state.fs job state) (answers : SystemAnswers)
    (fileNum : Int32) (entry : FileEntry) (listed : origin.files[asUsize fileNum]? = some entry) :
    Switched style origin before state job answers (asUsize fileNum)
      (job.switchEntry style json (state.fs.under answers) fileNum entry.name) := by
  have same := inv.job job ours
  have left := modifyTime_left style origin before apart state job inv ours leaves answers
  have env := modifyTime_env style job (state.fs.under answers)
  unfold TransferJob.switchEntry
  dsimp only
  generalize job.modifyTime style (state.fs.under answers) = kept at left env ⊢
  cases synced : job.dataStream.bind (fun _ => kept.handleFails .sync) with
  | some text => exact ⟨same, left, env, fun impossible => by cases impossible⟩
  | none =>
      have sameMoved : SameJob origin (job.withFileNum fileNum) := ⟨same.files, same.base, same.type⟩
      have place := fun role => sameJob_place style origin (job.withFileNum fileNum) sameMoved role entry
      have opening := createEntry_opening style json kept (job.withFileNum fileNum) entry (sameMoved.type.trans generic)
        (by intro role sibling; rw [place]; exact left.unlinked _ entry role listed sibling)
        (by rw [place, place]; exact apart.pair _ entry listed)
      unfold TransferJob.openEntry
      generalize (job.withFileNum fileNum).createEntry style json kept entry.name = outcome at opening ⊢
      obtain ⟨after, refused⟩ := outcome
      obtain ⟨begun, created⟩ := opening
      rw [place, place, place] at begun
      have leftAfter := begun_left style origin before apart state job kept after (asUsize fileNum) entry listed left begun
      cases refused with
      | some text => exact ⟨sameMoved, leftAfter, sameEnv_trans _ _ _ env begun.env, fun impossible => by cases impossible⟩
      | none =>
          refine ⟨⟨same.files, same.base, same.type⟩, leftAfter, sameEnv_trans _ _ _ env begun.env, fun _ => ?_⟩
          obtain ⟨node, handle⟩ := created rfl
          rw [place] at node handle
          exact ⟨rfl, 0, entry, rfl, listed, handle, fun _ => ⟨node, rfl⟩⟩

end

-- The data of a block goes to the open download.
structure Received (style : Style) (origin : TransferJob) (fs : FileSystem) (entry : FileEntry) (result : WriteResult) (reception : Reception) : Prop where
  job : SameJob origin result.job
  elsewhere : ∀ key, key ≠ origin.placeOf style .download entry → result.fs.node key = fs.node key
  links : ∀ key, isLink result.fs.node key → isLink fs.node key
  download : OpenDownload style origin result.job result.fs reception

theorem writeHandle_open (fs : FileSystem) (pos : Nat) (data : Bytes) (key : Key) (handle : fs.handle = some key) :
    (∀ other, other ≠ key → (fs.writeHandle pos data).node other = fs.node other) ∧
    (∀ other, isLink (fs.writeHandle pos data).node other → isLink fs.node other) ∧
    (fs.writeHandle pos data).handle = some key ∧
    (∀ content, fs.node key = some (.file content) → (fs.writeHandle pos data).node key = some (.file (splice content pos data))) := by
  unfold FileSystem.writeHandle
  rw [handle]
  dsimp only
  cases node : fs.node key with
  | none => exact ⟨fun _ _ => rfl, fun _ linked => linked, handle, fun _ impossible => by cases impossible⟩
  | some found =>
      cases found with
      | dir => exact ⟨fun _ _ => rfl, fun _ linked => linked, handle, fun _ impossible => by cases impossible⟩
      | link target => exact ⟨fun _ _ => rfl, fun _ linked => linked, handle, fun _ impossible => by cases impossible⟩
      | file content =>
          refine ⟨fun other different => Function.update_of_ne different _ _, ?_, handle, ?_⟩
          · intro other linked
            exact update_isLink fs.node key other _ (by simp) linked
          · intro same file
            cases file
            exact Function.update_self key _ fs.node

theorem writeData_received (style : Style) (codec : Codec) (origin job : TransferJob) (fs first : FileSystem) (block : FileTransferBlock)
    (reception : Reception) (entry : FileEntry) (same : SameJob origin job) (env : SameEnv first fs)
    (isOpen : OpenDownload style origin job fs reception) (listed : origin.files[reception.entry]? = some entry) :
    Received style origin fs entry (job.writeData codec fs block)
      (reception.take codec first block (job.writeData codec fs block).error.isSome) := by
  obtain ⟨pos, other, stream, otherListed, handle, sound⟩ := isOpen.stream
  have sameEntry : other = entry := Option.some.inj (otherListed.symm.trans listed)
  rw [sameEntry] at handle sound
  have landed : first.landed (block.payload codec) = fs.landed (block.payload codec) := by
    unfold FileSystem.landed
    rw [env.lands]
  obtain ⟨elsewhere, links, keptHandle, content⟩ :=
    writeHandle_open fs pos (fs.landed (block.payload codec)) (origin.placeOf style .download entry) handle
  have received : reception.sound = true → first.landed (block.payload codec) = block.payload codec →
      (fs.writeHandle pos (fs.landed (block.payload codec))).node (origin.placeOf style .download entry) =
        some (.file (reception.received ++ block.payload codec)) ∧
      pos + (fs.landed (block.payload codec)).length = (reception.received ++ block.payload codec).length := by
    intro isSound whole
    obtain ⟨file, atEnd⟩ := sound isSound
    rw [content reception.received file, ← landed, whole, atEnd, splice_end, List.length_append]
    exact ⟨rfl, rfl⟩
  unfold TransferJob.writeData
  rw [stream]
  dsimp only
  rw [if_pos rfl]
  cases fs.handleFails .write with
  | some text =>
      refine ⟨⟨same.files, same.base, same.type⟩, elsewhere, links, isOpen.current, _, entry, rfl, listed, keptHandle, ?_⟩
      intro impossible
      simp [Reception.take] at impossible
  | none =>
      refine ⟨⟨same.files, same.base, same.type⟩, elsewhere, links, isOpen.current, _, entry, rfl, listed, keptHandle, ?_⟩
      intro taken
      simp only [Reception.take, Option.isSome_none, Bool.not_false, Bool.and_true, Bool.and_eq_true, decide_eq_true_eq] at taken
      exact received taken.1 taken.2

end GotechDesk.FileTransfer
