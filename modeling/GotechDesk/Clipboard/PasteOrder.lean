import GotechDesk.Machine
import GotechDesk.Clipboard.PasteSteps

set_option autoImplicit false

namespace GotechDesk.Clipboard.PasteOrder

open FileTransfer

-- A request with the number of the task that sent it, which the request does not carry.
structure Requested where
  task : Nat
  call : ContentsCall
deriving DecidableEq

-- A write of the worker: the task and its entry the download file belongs to, the place in it,
-- and the request the data is the answer to.
structure Block where
  task : Nat
  entry : Int
  position : Nat
  answers : Requested
deriving DecidableEq

-- `asked` are the requests the peer has not answered, `arrived` the answers the worker has not taken.
structure Session where
  paste : Option PasteTaskHandle
  fs : FileSystem
  retryCount : Nat
  started : Nat
  asked : List Requested
  arrived : List (Requested × FileContentsResponse)
  written : List Block

-- `disk` is whatever else happens to the files meanwhile.
inductive Label where
  | start (targetDir : Name) (files : List FileDescription)
  | cancel
  | answer (index : Nat) (msgFlags : Int32) (data : Bytes)
  | receive
  | timeout (late : Bool)
  | disk (fs : FileSystem)

def requestOf (task : Nat) (call : Option ContentsCall) : List Requested := call.toList.map (fun call => { task := task, call := call })

def responseTo (request : Requested) (msgFlags : Int32) (data : Bytes) : FileContentsResponse :=
  { connId := request.call.connId, msgFlags := msgFlags, streamId := request.call.streamId, requestedData := data }

def blockOf (state : Session) (task : PasteTaskHandle) (answer : Requested × FileContentsResponse) : List Block :=
  match task.verdict answer.2, task.progress.fileHandle with
  | .accepted, some pos => [{ task := state.started, entry := task.progress.downloadFileIndex, position := pos, answers := answer.1 }]
  | _, _ => []

def Session.start (state : Session) (targetDir : Name) (files : List FileDescription) : Session :=
  if state.paste.any (fun task => !task.isFinished) then state
  else
    let begun := Paste.start state.fs targetDir files
    { state with
      paste := some begun.1.task, fs := begun.1.fs, started := state.started + 1,
      asked := state.asked ++ requestOf (state.started + 1) begun.2 }

def Session.withPaste (state : Session) (paste : Paste) : Session := { state with paste := some paste.task, fs := paste.fs }

def Session.cancel (state : Session) : Session :=
  state.paste.elim state (fun task => state.withPaste (Paste.cancel { task := task, fs := state.fs }))

def Session.timeout (state : Session) (late : Bool) : Session :=
  match state.paste with
  | none => state
  | some task =>
      let checked := Paste.checkReceiveTimeout { task := task, fs := state.fs } state.retryCount late
      { state.withPaste checked.1 with retryCount := checked.2 }

def Session.receive (state : Session) (answer : Requested × FileContentsResponse) : Session :=
  match state.paste with
  | none => state
  | some task =>
      let received := Paste.receive { task := task, fs := state.fs } state.retryCount answer.2
      { state.withPaste received.1 with
        retryCount := received.2.1, asked := state.asked ++ requestOf state.started received.2.2,
        written := state.written ++ blockOf state task answer }

def step (state : Session) : Label → Option Session
  | .start targetDir files => some (state.start targetDir files)
  | .cancel => some state.cancel
  | .answer index msgFlags data =>
      (state.asked[index]?).map (fun request =>
        { state with asked := state.asked.eraseIdx index, arrived := state.arrived ++ [(request, responseTo request msgFlags data)] })
  | .receive =>
      match state.arrived with
      | [] => none
      | answer :: rest => some ({ state with arrived := rest }.receive answer)
  | .timeout late => if state.arrived = [] then some (state.timeout late) else none
  | .disk fs => some { state with fs := fs }

def idle (fs : FileSystem) : Session :=
  { paste := none, fs := fs, retryCount := 0, started := 0, asked := [], arrived := [], written := [] }

-- Every block is the answer to a request of the same task for that entry and place.
def Unmixed (state : Session) : Prop :=
  ∀ block ∈ state.written,
    block.answers.task = block.task ∧ block.answers.call.streamId = block.entry ∧ block.answers.call.offset = block.position

-- An answer that the worker does not ignore is one to the task that is running.
def Own (state : Session) : Label → Prop
  | .receive => ∀ answer ∈ state.arrived.head?, ∀ task ∈ state.paste, task.verdict answer.2 ≠ .ignored → answer.1.task = state.started
  | _ => True

def Session.pending (state : Session) : List Requested := state.asked ++ state.arrived.map Prod.fst

-- The requests of the task that is running, on their way out or back.
def Session.current (state : Session) : List Requested := state.pending.filter (fun request => request.task = state.started)

-- What a running task is waiting for: one answer, to the request for the block it writes next.
structure Waiting (current : List Requested) (task : PasteTaskHandle) : Prop where
  single : current.length ≤ 1
  asks : ∀ request ∈ current, Asks task request.call
  writing : Writing task.progress

structure Inv (state : Session) : Prop where
  numbered : ∀ request ∈ state.pending, request.task ≤ state.started
  echoed : ∀ answer ∈ state.arrived, ∃ msgFlags data, answer.2 = responseTo answer.1 msgFlags data
  waiting : ∀ task, state.paste = some task → task.isFinished = false → Waiting state.current task
  unmixed : Unmixed state

theorem inv_idle (fs : FileSystem) : Inv (idle fs) where
  numbered := fun _ member => absurd member (by simp [idle, Session.pending])
  echoed := fun _ member => absurd member (by simp [idle])
  waiting := fun _ some => absurd some (by simp [idle])
  unmixed := fun _ member => absurd member (by simp [idle])

theorem request_of_task (task : Nat) (call : Option ContentsCall) : ∀ request ∈ requestOf task call, request.task = task := by
  intro request member
  obtain ⟨call, _, rfl⟩ := List.mem_map.mp member
  rfl

-- A task that goes on waits for the request it has just sent, once nothing else of it is on its way.
theorem go_on_waiting (paste : Paste) (number : Nat) (writing : paste.task.isFinished = false → Writing paste.task.progress)
    (going : paste.goOn.1.task.isFinished = false) :
    Waiting (requestOf number paste.goOn.2) paste.goOn.1.task := by
  obtain ⟨same, call, sent, asks⟩ := go_on_going paste going
  rw [same] at going
  rw [same, sent]
  refine ⟨Nat.le_refl 1, ?_, writing going⟩
  intro request member
  rw [List.mem_singleton.mp member]
  exact asks

theorem start_paste_waiting (fs : FileSystem) (targetDir : Name) (files : List FileDescription) (number : Nat)
    (going : (Paste.start fs targetDir files).1.task.isFinished = false) :
    Waiting (requestOf number (Paste.start fs targetDir files).2) (Paste.start fs targetDir files).1.task := by
  unfold Paste.start at going ⊢
  extract_lets fresh tried at going ⊢
  refine go_on_waiting (Paste.onErrorOf tried) number ?_ going
  intro unfinished
  have fine := (on_error_of_going tried unfinished).1
  cases checked : validatePaths fs targetDir files with
  | some error =>
      have failed : tried = (fresh, some error) := by simp only [tried, checked]
      rw [failed] at fine
      cases fine
  | none =>
      have begun : tried = fresh.updateNext 0 := by simp only [tried, checked]
      rw [begun] at unfinished ⊢
      exact update_next_writing fresh 0 (start_counted fs targetDir files) unfinished

theorem received_waiting (paste : Paste) (retryCount number : Nat) (response : FileContentsResponse)
    (running : paste.task.isFinished = false → Writing paste.task.progress) (taken : paste.task.verdict response ≠ .ignored)
    (going : (paste.receive retryCount response).1.task.isFinished = false) :
    Waiting (requestOf number (paste.receive retryCount response).2.2) (paste.receive retryCount response).1.task := by
  unfold Paste.receive at going ⊢
  cases verdict : paste.task.verdict response with
  | ignored => exact absurd verdict taken
  | failed =>
      rw [verdict] at going
      refine go_on_waiting _ number ?_ going
      intro unfinished
      unfold Paste.onFailedAnswer at unfinished ⊢
      split
      · rename_i tooMany
        rw [if_pos tooMany, error_finished _ rfl] at unfinished
        cases unfinished
      · rename_i fewer
        rw [if_neg fewer] at unfinished
        exact running unfinished
  | accepted =>
      rw [verdict] at going
      refine go_on_waiting _ number ?_ going
      intro unfinished
      have begun : paste.task.isFinished = false := by
        cases finished : paste.task.isFinished with
        | false => rfl
        | true => simp [PasteTaskHandle.verdict, finished] at verdict
      exact handle_response_writing paste response.requestedData (running begun) unfinished

theorem waiting_fewer (before after : List Requested) (task : PasteTaskHandle) (waiting : Waiting before task)
    (fewer : after.Subperm before) : Waiting after task :=
  ⟨Nat.le_trans fewer.length_le waiting.single, fun request member => waiting.asks request (fewer.subset member), waiting.writing⟩

-- No request of a task is on its way before the task has begun.
theorem current_of_next (state : Session) (inv : Inv state) :
    state.pending.filter (fun request => request.task = state.started + 1) = [] := by
  rw [List.filter_eq_nil_iff]
  intro request member
  have earlier := inv.numbered request member
  simp only [decide_eq_true_eq]
  omega

theorem filter_requests (number : Nat) (call : Option ContentsCall) :
    (requestOf number call).filter (fun request => request.task = number) = requestOf number call := by
  rw [List.filter_eq_self]
  intro request member
  rw [request_of_task number call request member]
  exact decide_eq_true rfl

-- Nothing else of the task being on its way, its request is all that is.
theorem sent_waiting (state next : Session) (number : Nat) (call : Option ContentsCall) (task : PasteTaskHandle)
    (asked : next.asked = state.asked ++ requestOf number call) (arrived : next.arrived = state.arrived) (started : next.started = number)
    (alone : state.pending.filter (fun request => request.task = number) = []) (waiting : Waiting (requestOf number call) task) :
    Waiting next.current task := by
  rw [Session.pending, List.filter_append, List.append_eq_nil_iff] at alone
  rw [Session.current, Session.pending, asked, arrived, started, List.filter_append, List.filter_append, alone.1, alone.2,
    filter_requests, List.nil_append, List.append_nil]
  exact waiting

section
variable (state : Session)

theorem inv_start (targetDir : Name) (files : List FileDescription) (inv : Inv state) : Inv (state.start targetDir files) := by
  unfold Session.start
  by_cases busy : state.paste.any (fun task => !task.isFinished) = true
  · rw [if_pos busy]
    exact inv
  · rw [if_neg busy]
    refine ⟨?_, inv.echoed, ?_, inv.unmixed⟩
    · intro request member
      simp only [Session.pending, List.mem_append] at member
      obtain (member | member) | member := member
      · exact Nat.le_succ_of_le (inv.numbered request (List.mem_append_left _ member))
      · exact Nat.le_of_eq (request_of_task _ _ request member)
      · exact Nat.le_succ_of_le (inv.numbered request (List.mem_append_right _ member))
    · intro task running going
      obtain rfl := Option.some.inj running
      refine sent_waiting state _ (state.started + 1) _ _ rfl rfl rfl (current_of_next state inv) ?_
      exact start_paste_waiting state.fs targetDir files (state.started + 1) going

theorem inv_answer (index : Nat) (msgFlags : Int32) (data : Bytes) (request : Requested)
    (asked : state.asked[index]? = some request) (inv : Inv state) :
    Inv { state with asked := state.asked.eraseIdx index, arrived := state.arrived ++ [(request, responseTo request msgFlags data)] } := by
  obtain ⟨inside, here⟩ := List.getElem?_eq_some_iff.mp asked
  have moved : (state.asked.eraseIdx index ++ (state.arrived ++ [(request, responseTo request msgFlags data)]).map Prod.fst).Perm state.pending := by
    rw [List.map_append, ← List.append_assoc]
    refine (List.perm_append_singleton request _).trans ?_
    rw [← List.cons_append]
    refine List.Perm.append_right _ ?_
    rw [← here]
    exact List.getElem_cons_eraseIdx_perm inside
  refine ⟨fun other member => inv.numbered other (moved.mem_iff.mp member), ?_, ?_, inv.unmixed⟩
  · intro answer member
    rw [List.mem_append, List.mem_singleton] at member
    obtain member | rfl := member
    · exact inv.echoed answer member
    · exact ⟨msgFlags, data, rfl⟩
  · intro task running going
    exact waiting_fewer _ _ task (inv.waiting task running going) (moved.filter _).subperm

-- A task that has been brought to its end waits for nothing.
theorem inv_ended (paste : Paste) (retryCount : Nat) (ended : paste.task.isFinished = true) (inv : Inv state) :
    Inv { state.withPaste paste with retryCount := retryCount } := by
  refine { inv with waiting := ?_ }
  intro task running going
  obtain rfl := Option.some.inj running
  rw [ended] at going
  cases going

theorem inv_cancel (inv : Inv state) : Inv state.cancel := by
  unfold Session.cancel
  cases running : state.paste with
  | none => exact inv
  | some task => exact inv_ended state _ state.retryCount (canceled_finished _ rfl) inv

theorem inv_timeout (late : Bool) (inv : Inv state) : Inv (state.timeout late) := by
  unfold Session.timeout
  cases running : state.paste with
  | none => exact inv
  | some task =>
      dsimp only
      unfold Paste.checkReceiveTimeout
      by_cases idles : (task.isFinished || !late) = true
      · rw [if_pos idles]
        refine { inv with waiting := ?_ }
        intro other same going
        obtain rfl := Option.some.inj same
        exact inv.waiting task running going
      · rw [if_neg idles]
        exact inv_ended state _ 0 (on_finished_finished _ (error_finished _ rfl)) inv

section
variable (answer : Requested × FileContentsResponse) (rest : List (Requested × FileContentsResponse))

-- The answer is out of the way of the task: either it was none of its own, or no other is left.
theorem taken_current (arrived : state.arrived = answer :: rest) :
    state.current.Perm ((if answer.1.task = state.started then [answer.1] else []) ++ { state with arrived := rest }.current) := by
  have moved : state.pending.Perm (answer.1 :: { state with arrived := rest }.pending) := by
    rw [Session.pending, arrived]
    exact List.perm_middle
  refine (moved.filter _).trans ?_
  rw [List.filter_cons]
  by_cases own : answer.1.task = state.started
  · rw [if_pos own, if_pos (decide_eq_true own)]
    rfl
  · rw [if_neg own, if_neg (by simpa using own)]
    rfl

theorem receive_pending (arrived : state.arrived = answer :: rest) : ∀ request ∈ { state with arrived := rest }.pending, request ∈ state.pending := by
  intro request member
  rw [Session.pending, arrived]
  simp only [Session.pending, List.mem_append, List.map_cons, List.mem_cons] at member ⊢
  obtain member | member := member
  · exact .inl member
  · exact .inr (.inr member)

end

theorem block_unmixed (task : PasteTaskHandle) (answer : Requested × FileContentsResponse) (waiting : Waiting state.current task)
    (own : answer.1 ∈ state.current) : ∀ block ∈ blockOf state task answer,
      block.answers.task = block.task ∧ block.answers.call.streamId = block.entry ∧ block.answers.call.offset = block.position := by
  intro block member
  unfold blockOf at member
  rw [waiting.writing.handle] at member
  have asks := waiting.asks answer.1 own
  have sent : answer.1.task = state.started := by simpa using (List.mem_filter.mp own).2
  cases verdict : task.verdict answer.2 with
  | ignored => simp [verdict] at member
  | failed => simp [verdict] at member
  | accepted =>
      rw [verdict] at member
      rw [List.mem_singleton.mp member]
      exact ⟨sent, asks.streamId.trans waiting.writing.index.symm, asks.offset⟩

end

theorem verdict_going (task : PasteTaskHandle) (response : FileContentsResponse) (taken : task.verdict response ≠ .ignored) :
    task.isFinished = false := by
  cases finished : task.isFinished with
  | false => rfl
  | true => exact absurd (by simp [PasteTaskHandle.verdict, finished]) taken

section
variable (state : Session)

theorem inv_taken (answer : Requested × FileContentsResponse) (rest : List (Requested × FileContentsResponse))
    (arrived : state.arrived = answer :: rest) (inv : Inv state) : Inv { state with arrived := rest } := by
  refine ⟨fun request member => inv.numbered request (receive_pending state answer rest arrived request member), ?_, ?_, inv.unmixed⟩
  · exact fun other member => inv.echoed other (by rw [arrived]; exact List.mem_cons_of_mem answer member)
  · intro task running going
    refine waiting_fewer _ _ task (inv.waiting task running going) ?_
    exact (List.sublist_append_right _ _).subperm.trans (taken_current state answer rest arrived).symm.subperm

theorem received_numbered (number : Nat) (call : Option ContentsCall) (inv : Inv state) (here : number = state.started) :
    ∀ request ∈ { state with asked := state.asked ++ requestOf number call }.pending, request.task ≤ state.started := by
  intro request member
  simp only [Session.pending, List.mem_append] at member
  obtain (member | member) | member := member
  · exact inv.numbered request (List.mem_append_left _ member)
  · exact Nat.le_of_eq ((request_of_task _ _ request member).trans here)
  · exact inv.numbered request (List.mem_append_right _ member)

theorem receive_none (answer : Requested × FileContentsResponse) (none : state.paste = none) : state.receive answer = state := by
  unfold Session.receive
  rw [none]

theorem receive_some (answer : Requested × FileContentsResponse) (task : PasteTaskHandle) (running : state.paste = some task) : state.receive answer =
      { state.withPaste (Paste.receive { task := task, fs := state.fs } state.retryCount answer.2).1 with
        retryCount := (Paste.receive { task := task, fs := state.fs } state.retryCount answer.2).2.1,
        asked := state.asked ++ requestOf state.started (Paste.receive { task := task, fs := state.fs } state.retryCount answer.2).2.2,
        written := state.written ++ blockOf state task answer } := by
  unfold Session.receive
  rw [running]

section
variable (task : PasteTaskHandle) (answer : Requested × FileContentsResponse)

theorem inv_ignored (running : state.paste = some task)
    (ignored : task.verdict answer.2 = .ignored) (inv : Inv state) : Inv (state.receive answer) := by
  have still : state.receive answer = state := by
    have nothing : blockOf state task answer = [] := by simp [blockOf, ignored]
    rw [receive_some state answer task running, nothing]
    simp [Paste.receive, ignored, requestOf, Session.withPaste, ← running]
  rw [still]
  exact inv

theorem inv_answered (running : state.paste = some task)
    (taken : task.verdict answer.2 ≠ .ignored) (writing : Writing task.progress) (alone : state.current = [])
    (unmixed : ∀ block ∈ blockOf state task answer,
      block.answers.task = block.task ∧ block.answers.call.streamId = block.entry ∧ block.answers.call.offset = block.position)
    (inv : Inv state) : Inv (state.receive answer) := by
  rw [receive_some state answer task running]
  refine ⟨received_numbered state state.started _ inv rfl, inv.echoed, ?_, ?_⟩
  · intro other same unfinished
    obtain rfl := Option.some.inj same
    refine sent_waiting state _ state.started _ _ rfl rfl rfl alone ?_
    exact received_waiting _ state.retryCount state.started answer.2 (fun _ => writing) taken unfinished
  · intro block member
    rw [List.mem_append] at member
    obtain member | member := member
    · exact inv.unmixed block member
    · exact unmixed block member

end

theorem inv_receive (answer : Requested × FileContentsResponse) (rest : List (Requested × FileContentsResponse))
    (arrived : state.arrived = answer :: rest) (own : Own state .receive) (inv : Inv state) :
    Inv ({ state with arrived := rest }.receive answer) := by
  have left := inv_taken state answer rest arrived inv
  obtain none | ⟨task, paste⟩ := Option.eq_none_or_eq_some state.paste
  · rw [receive_none { state with arrived := rest } answer none]
    exact left
  · by_cases ignored : task.verdict answer.2 = .ignored
    · exact inv_ignored _ task answer paste ignored left
    · have waiting := inv.waiting task paste (verdict_going task answer.2 ignored)
      have mine : answer.1.task = state.started := own answer (by simp [arrived]) task (by simp [paste]) ignored
      have moved := taken_current state answer rest arrived
      rw [if_pos mine] at moved
      refine inv_answered _ task answer paste ignored waiting.writing ?_ ?_ left
      · have short := moved.length_eq
        have single := waiting.single
        rw [List.length_append, List.length_singleton] at short
        exact List.eq_nil_of_length_eq_zero (by omega)
      · exact block_unmixed state task answer waiting (moved.mem_iff.mpr (by simp))

end

theorem inv_step (state next : Session) (label : Label) (own : Own state label) (inv : Inv state) (taken : step state label = some next) : Inv next := by
  cases label with
  | start targetDir files =>
      obtain rfl := Option.some.inj taken
      exact inv_start state targetDir files inv
  | cancel =>
      obtain rfl := Option.some.inj taken
      exact inv_cancel state inv
  | answer index msgFlags data =>
      obtain ⟨request, asked, rfl⟩ := Option.map_eq_some_iff.mp taken
      exact inv_answer state index msgFlags data request asked inv
  | receive =>
      unfold step at taken
      cases arrived : state.arrived with
      | nil =>
          rw [arrived] at taken
          cases taken
      | cons answer rest =>
          rw [arrived] at taken
          obtain rfl := Option.some.inj taken
          exact inv_receive state answer rest arrived own inv
  | timeout late =>
      dsimp only [step] at taken
      by_cases empty : state.arrived = []
      · rw [if_pos empty] at taken
        obtain rfl := Option.some.inj taken
        exact inv_timeout state late inv
      · rw [if_neg empty] at taken
        cases taken
  | disk fs =>
      obtain rfl := Option.some.inj taken
      exact { inv with }

theorem blocks_unmixed (fs : FileSystem) (past : List (Session × Label)) (state : Session) (traced : Machine.Traced step (idle fs) past state)
    (own : ∀ entry ∈ past, Own entry.1 entry.2) : (∀ entry ∈ past, Unmixed entry.1) ∧ Unmixed state := by
  have invariant : (∀ entry ∈ past, Own entry.1 entry.2) → (∀ entry ∈ past, Unmixed entry.1) ∧ Inv state := by
    refine Machine.traced_invariant step
      (fun past state => (∀ entry ∈ past, Own entry.1 entry.2) → (∀ entry ∈ past, Unmixed entry.1) ∧ Inv state)
      (idle fs) state past (fun _ => ⟨by simp, inv_idle fs⟩) ?_ traced
    intro past state label after kept taken own
    rw [List.forall_mem_append, List.forall_mem_singleton] at own
    obtain ⟨before, inv⟩ := kept own.1
    refine ⟨?_, inv_step state after label own.2 inv taken⟩
    rw [List.forall_mem_append, List.forall_mem_singleton]
    exact ⟨before, inv.unmixed⟩
  obtain ⟨before, inv⟩ := invariant own
  exact ⟨before, inv.unmixed⟩

instance (state : Session) (label : Label) : Decidable (Own state label) := by
  cases label <;> unfold Own <;> infer_instance

-- An empty folder on an otherwise empty disk, and a file of four bytes.
def folder : FileSystem where
  node := fun key => if key = [.rootDir] ∨ key = [.rootDir, .normal ['t']] then some .dir else none
  fails := fun _ _ => none
  lands := none
  handle := none
  touched := []

example : (step (idle folder) .cancel).isSome = true := by decide +kernel

def fourBytes (name : Name) : FileDescription :=
  { connId := 1, name := name, kind := .file, atime := 0, lastModified := 0, lastMetadataChanged := 0, creationTime := 0, size := 4, perm := 0 }

def pasteOnce : List Label := [.start "/t".toList [fourBytes ['a']], .answer 0 1 [1, 2, 3, 4], .receive]

theorem paste_once_runs : (Machine.run step (idle folder) pasteOnce).isSome = true := by decide +kernel

theorem blocks_unmixed_once :
    ((Machine.run step (idle folder) pasteOnce).get paste_once_runs).written.length = 1 ∧
    (∀ entry ∈ Machine.trace step (idle folder) pasteOnce, Unmixed entry.1) ∧
      Unmixed ((Machine.run step (idle folder) pasteOnce).get paste_once_runs) :=
  ⟨by decide +kernel, blocks_unmixed folder (Machine.trace step (idle folder) pasteOnce) _
    (Machine.traced_run step (idle folder) pasteOnce paste_once_runs) (by decide +kernel)⟩

-- The first paste is cancelled, and its answer comes when the second one is running.
def pasteTwice : List Label :=
  [.start "/t".toList [fourBytes ['a']], .cancel, .start "/t".toList [fourBytes ['b']], .answer 0 1 [1, 2, 3, 4], .receive]

theorem paste_twice_runs : (Machine.run step (idle folder) pasteTwice).isSome = true := by decide +kernel

theorem late_answer_mixed : ∃ state, Machine.Reachable step (idle folder) state ∧ ¬ Unmixed state := by
  refine ⟨(Machine.run step (idle folder) pasteTwice).get paste_twice_runs, Machine.reachable_run step _ _ _, ?_⟩
  have wrote : ((Machine.run step (idle folder) pasteTwice).get paste_twice_runs).written =
      [{ task := 2, entry := 0, position := 0,
         answers := { task := 1, call := { connId := 1, streamId := 0, offset := 0, cbRequested := 4 } } }] := by decide +kernel
  intro unmixed
  have same := (unmixed _ (by rw [wrote]; exact List.mem_singleton_self _)).1
  cases same

end GotechDesk.Clipboard.PasteOrder
