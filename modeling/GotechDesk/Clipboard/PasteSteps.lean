import GotechDesk.Clipboard.PasteTask

set_option autoImplicit false

namespace GotechDesk.Clipboard

open FileTransfer

-- A download is open, it is the one of the current entry, and all up to the offset is in it.
structure Writing (progress : PasteTaskProgress) : Prop where
  handle : progress.fileHandle = some progress.offset
  index : progress.downloadFileIndex = progress.listIndex
  listed : 0 ≤ progress.listIndex

theorem file_at_listed (files : List FileDescription) (i : Int) (file : FileDescription) (found : fileAt files i = some file) : 0 ≤ i := by
  unfold fileAt at found
  by_cases below : i < 0
  · rw [if_pos below] at found
    cases found
  · omega

-- What an ended task cannot come back from.
structure SameEnd (before after : PasteTaskHandle) : Prop where
  files : after.files = before.files
  listIndex : after.progress.listIndex = before.progress.listIndex
  error : after.progress.error = before.progress.error
  isCanceled : after.progress.isCanceled = before.progress.isCanceled

theorem same_end_finished (before after : PasteTaskHandle) (same : SameEnd before after) : after.isFinished = before.isFinished := by
  unfold PasteTaskHandle.isFinished
  rw [same.files, same.listIndex, same.error, same.isCanceled]

theorem error_finished (task : PasteTaskHandle) (failed : task.progress.error.isSome = true) : task.isFinished = true := by
  simp [PasteTaskHandle.isFinished, failed]

theorem canceled_finished (task : PasteTaskHandle) (canceled : task.progress.isCanceled = true) : task.isFinished = true := by
  simp [PasteTaskHandle.isFinished, canceled]

theorem past_end_finished (task : PasteTaskHandle) (beyond : asI32 task.files.length ≤ task.progress.listIndex) : task.isFinished = true := by
  unfold PasteTaskHandle.isFinished
  rw [decide_eq_true beyond, Bool.or_true]

section
variable (paste : Paste)

theorem past_finished (count : Int) (beyond : asI32 paste.task.files.length ≤ count) :
    (paste.withProgress (paste.task.progress.past count)).task.isFinished = true := past_end_finished _ beyond

theorem on_done_end : SameEnd paste.task paste.onDone.1.task := by
  unfold Paste.onDone
  extract_lets progress closed
  split
  · exact ⟨rfl, rfl, rfl, rfl⟩
  · split
    · exact ⟨rfl, rfl, rfl, rfl⟩
    · split
      · exact ⟨rfl, rfl, rfl, rfl⟩
      · split
        · exact ⟨rfl, rfl, rfl, rfl⟩
        · split <;> exact ⟨rfl, rfl, rfl, rfl⟩

theorem on_done_handle (index : paste.task.progress.downloadFileIndex ≠ invalidFileIndex) : paste.onDone.1.task.progress.fileHandle = none := by
  unfold Paste.onDone
  extract_lets progress closed
  by_cases shut : (progress.fileHandle.isNone || decide (progress.downloadFileIndex = invalidFileIndex)) = true
  · rw [if_pos shut]
    rw [Bool.or_eq_true, decide_eq_true_eq] at shut
    obtain shut | shut := shut
    · exact Option.isNone_iff_eq_none.mp shut
    · exact absurd shut index
  · rw [if_neg shut]
    split
    · rfl
    · split
      · rfl
      · split
        · rfl
        · split <;> rfl

theorem on_cancelled_end : SameEnd paste.task paste.onCancelled.task := ⟨rfl, rfl, rfl, rfl⟩

theorem on_error_finished (error : CliprdrError) : (paste.onError error).task.isFinished = true := error_finished _ rfl

theorem on_finished_finished (finished : paste.task.isFinished = true) : paste.onFinished.task.isFinished = true := by
  unfold Paste.onFinished
  split
  · exact (same_end_finished _ _ (on_cancelled_end paste)).trans finished
  · have ended := (same_end_finished _ _ (on_done_end paste)).trans finished
    split
    · exact on_error_finished _ _
    · rename_i done found
      rw [found] at ended
      split
      · exact error_finished _ rfl
      · exact ended

-- A download that is open when its entry is reached has been opened for that entry.
theorem open_download_writing (file : FileDescription) (path : Name) (closed : paste.task.progress.fileHandle = none)
    (start : paste.task.progress.offset = 0) (listed : 0 ≤ paste.task.progress.listIndex) (fine : (paste.openDownload file path).2 = none) :
    (paste.openDownload file path).1.task.progress.fileHandle = none ∨ Writing (paste.openDownload file path).1.task.progress := by
  unfold Paste.openDownload at fine ⊢
  split
  · rename_i found
    rw [found] at fine
    cases fine
  · split
    · exact .inl closed
    · exact .inr ⟨congrArg some start.symm, rfl, listed⟩

theorem open_new_writer_writing (closed : paste.task.progress.fileHandle = none) (start : paste.task.progress.offset = 0)
    (fine : paste.openNewWriter.2 = none) :
    paste.openNewWriter.1.task.progress.fileHandle = none ∨ Writing paste.openNewWriter.1.task.progress := by
  unfold Paste.openNewWriter at fine ⊢
  split
  · exact .inl closed
  · split
    · exact .inl closed
    · split
      · exact .inl closed
      · rename_i file listed _ _ joined _ download named
        rw [listed] at fine
        dsimp only at fine
        rw [joined] at fine
        dsimp only at fine
        rw [named] at fine
        dsimp only at fine
        by_cases parented : hasParent download = true
        · rw [if_pos parented] at fine ⊢
          exact open_download_writing paste file download closed start (file_at_listed _ _ _ listed) fine
        · rw [if_neg parented]
          exact .inl closed

end

theorem next_entries_writing (count : Nat) (paste : Paste) (i : Int) (closed : paste.task.progress.fileHandle = none)
    (fine : (paste.nextEntries count i).2 = none) :
    (paste.nextEntries count i).1.task.progress.fileHandle = none ∨ Writing (paste.nextEntries count i).1.task.progress := by
  induction count generalizing paste i with
  | zero => exact .inl closed
  | succ count ih =>
      unfold Paste.nextEntries at fine ⊢
      split
      · exact .inl closed
      · rename_i file found
        rw [found] at fine
        dsimp only at fine
        by_cases content : file.kind = .file ∧ file.size ≠ 0
        · rw [if_pos content] at fine ⊢
          exact open_new_writer_writing _ closed rfl fine
        · rw [if_neg content] at fine ⊢
          split
          · exact .inl closed
          · rename_i after made
            rw [made] at fine
            exact ih { paste with fs := after } (i + 1) closed fine

-- After the entries the task is over, or the next download is open.
theorem settled_writing (result : Paste × Option CliprdrError) (fine : (Paste.settled result).2 = none)
    (opened : result.2 = none → result.1.task.progress.fileHandle = none ∨ Writing result.1.task.progress)
    (going : (Paste.settled result).1.task.isFinished = false) : Writing (Paste.settled result).1.task.progress := by
  unfold Paste.settled at fine going ⊢
  by_cases failed : result.2.isSome = true
  · rw [if_pos failed] at fine
    rw [fine] at failed
    cases failed
  · rw [if_neg failed] at going ⊢
    unfold Paste.settle at going ⊢
    obtain shut | writing := opened (by simpa using failed)
    · rw [if_pos (by simp [shut]), past_finished result.1 _ (Int.le_refl _)] at going
      cases going
    · rw [if_neg (by simp [writing.handle])]
      exact writing

theorem on_error_of_going (result : Paste × Option CliprdrError) (going : (Paste.onErrorOf result).task.isFinished = false) :
    result.2 = none ∧ Paste.onErrorOf result = result.1 := by
  obtain ⟨paste, error⟩ := result
  cases error with
  | none => exact ⟨rfl, rfl⟩
  | some error =>
      rw [show Paste.onErrorOf (paste, some error) = paste.onError error from rfl, on_error_finished] at going
      cases going

theorem entries_writing (paste : Paste) (closed : paste.task.progress.fileHandle = none) (fine : (Paste.settled paste.entriesAfter).2 = none)
    (going : (Paste.settled paste.entriesAfter).1.task.isFinished = false) : Writing (Paste.settled paste.entriesAfter).1.task.progress := by
  refine settled_writing paste.entriesAfter fine ?_ going
  unfold Paste.entriesAfter
  exact next_entries_writing _ paste _ closed

-- A block of some size has been written at the offset, or the task is about to begin.
structure Counted (paste : Paste) (size : Nat) : Prop where
  start : paste.task.progress.listIndex = -1 → paste.task.progress.fileHandle = none
  handle : paste.task.progress.listIndex ≠ -1 → paste.task.progress.fileHandle = some (paste.task.progress.offset + size)
  index : paste.task.progress.listIndex ≠ -1 → paste.task.progress.downloadFileIndex = paste.task.progress.listIndex
  listed : paste.task.progress.listIndex ≠ -1 → 0 ≤ paste.task.progress.listIndex

theorem update_next_writing (paste : Paste) (size : Nat) (counted : Counted paste size)
    (going : (Paste.onErrorOf (paste.updateNext size)).task.isFinished = false) :
    Writing (Paste.onErrorOf (paste.updateNext size)).task.progress := by
  obtain ⟨fine, same⟩ := on_error_of_going _ going
  rw [same] at going ⊢
  unfold Paste.updateNext at fine going ⊢
  by_cases finished : paste.task.isFinished = true
  · rw [if_pos finished] at going
    rw [finished] at going
    cases going
  · rw [if_neg finished] at fine going ⊢
    extract_lets progress later at fine going ⊢
    by_cases start : later.task.progress.listIndex = -1
    · rw [if_pos start] at fine going ⊢
      exact entries_writing later (counted.start start) fine going
    · rw [if_neg start] at fine going ⊢
      by_cases last : later.task.progress.offset + size ≥ later.task.progress.downloadFileSize
      · rw [if_pos last] at fine going ⊢
        have indexed : later.task.progress.downloadFileIndex ≠ invalidFileIndex := by
          rw [show later.task.progress.downloadFileIndex = later.task.progress.listIndex from counted.index start]
          exact start
        have shut := on_done_handle later indexed
        split
        · rename_i done error found
          rw [found] at fine
          cases fine
        · rename_i done found
          rw [found] at fine going shut
          exact entries_writing done shut fine going
      · rw [if_neg last] at fine going ⊢
        refine settled_writing _ fine (fun _ => .inr ⟨?_, ?_, ?_⟩) going
        · exact counted.handle start
        · exact counted.index start
        · exact counted.listed start

theorem start_counted (fs : FileSystem) (targetDir : Name) (files : List FileDescription) :
    Counted { task := newTask targetDir files, fs := fs } 0 :=
  ⟨fun _ => rfl, fun running => absurd rfl running, fun running => absurd rfl running, fun running => absurd rfl running⟩

theorem write_all_reached (fs : FileSystem) (pos : Nat) (data : Bytes) (fine : (writeAll fs pos data).2.2 = none) :
    (writeAll fs pos data).2.1 = pos + data.length := by
  unfold writeAll at fine ⊢
  by_cases empty : data = []
  · rw [if_pos empty, empty]
    rfl
  · rw [if_neg empty] at fine ⊢
    split
    · rename_i err refused
      rw [refused] at fine
      cases fine
    · rfl

theorem handle_response_writing (paste : Paste) (data : Bytes) (writing : Writing paste.task.progress)
    (going : (Paste.onErrorOf (paste.handleFileContentsResponse data)).task.isFinished = false) :
    Writing (Paste.onErrorOf (paste.handleFileContentsResponse data)).task.progress := by
  have fine := (on_error_of_going _ going).1
  unfold Paste.handleFileContentsResponse at fine going ⊢
  rw [writing.handle] at fine going ⊢
  dsimp only at fine going ⊢
  have reaches := write_all_reached paste.fs paste.task.progress.offset data
  split
  · rename_i after reached err wrote
    rw [wrote] at fine
    cases fine
  · rename_i after reached wrote
    rw [wrote] at going reaches
    refine update_next_writing _ data.length ⟨?_, ?_, ?_, ?_⟩ going
    · intro start
      have listed := writing.listed
      rw [show paste.task.progress.listIndex = -1 from start] at listed
      cases listed
    · exact fun _ => congrArg some (reaches rfl)
    · exact fun _ => writing.index
    · exact fun _ => writing.listed

structure Asks (task : PasteTaskHandle) (call : ContentsCall) : Prop where
  streamId : call.streamId = task.progress.listIndex
  offset : call.offset = task.progress.offset
  cbRequested : ∀ file, fileAt task.files task.progress.listIndex = some file →
    call.connId = file.connId ∧ call.cbRequested = min contentsBlockSize (file.size - task.progress.offset)

theorem go_on_going (paste : Paste) (going : paste.goOn.1.task.isFinished = false) :
    paste.goOn.1 = paste ∧ ∃ call, paste.goOn.2 = some call ∧ Asks paste.task call := by
  unfold Paste.goOn at going ⊢
  by_cases finished : paste.task.isFinished = true
  · rw [if_pos finished, on_finished_finished paste finished] at going
    cases going
  · rw [if_neg finished] at going ⊢
    unfold PasteTaskHandle.sendFileContentsRequest at going ⊢
    rw [if_neg finished] at going ⊢
    cases found : fileAt paste.task.files paste.task.progress.listIndex with
    | none =>
        rw [found] at going
        rw [on_error_finished] at going
        cases going
    | some file =>
        refine ⟨rfl, _, rfl, ⟨rfl, rfl, ?_⟩⟩
        intro other same
        obtain rfl := Option.some.inj (found.symm.trans same)
        exact ⟨rfl, rfl⟩

end GotechDesk.Clipboard
