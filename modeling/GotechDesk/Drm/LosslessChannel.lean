import GotechDesk.Drm.ChannelDelivery

set_option autoImplicit false

namespace GotechDesk.Drm.Channel

def Phase.weight {φ : Type} : Phase φ → Nat
  | .idle => 2
  | .ready => 1
  | .heading _ _ _ _ | .body _ _ _ _ | .failed _ => 0

section
variable {μ φ : Type} (json : μ → List UInt8) (parse : List UInt8 → Option μ)

-- What is still to be done: bytes to send and to read, calls to make and to finish.
def State.weight (state : State μ φ) : Nat :=
  2 * (state.sender.unsent json).length + state.sender.queue.length + state.socket.length + 3 * state.reader.expected.length +
    state.reader.phase.weight

def Healthy (state : State μ φ) : Prop := state.sender.failed = false ∧ ∀ error, state.reader.phase ≠ .failed error

theorem finish_body_weight (reader : Reader μ φ) (call : Call) (len : Nat) (fd : Option φ) (some : reader.expected ≠ []) :
    3 * (finishBody parse reader call len fd).expected.length + (finishBody parse reader call len fd).phase.weight ≤ 3 * reader.expected.length := by
  have positive := List.length_pos_iff.mpr some
  unfold finishBody
  split
  · simp only [Reader.received?, List.length_tail, Phase.weight]
    omega
  · split
    · simp only [Reader.received?, List.length_tail, Phase.weight]
      omega
    · exact Nat.le_refl _

theorem finish_head_weight (reader : Reader μ φ) (call : Call) (len : Nat) (got : Option φ) (some : reader.expected ≠ []) :
    3 * (finishHead parse reader call len got).expected.length + (finishHead parse reader call len got).phase.weight ≤ 3 * reader.expected.length := by
  unfold finishHead
  split
  · split
    · exact Nat.le_refl _
    · dsimp only
      by_cases empty : len = 0
      · rw [if_pos empty]
        exact finish_body_weight parse _ call 0 got some
      · rw [if_neg empty]
        exact Nat.le_refl _
  · split
    · exact Nat.le_refl _
    · dsimp only
      by_cases empty : len = 0
      · rw [if_pos empty]
        exact finish_body_weight parse _ call 0 none some
      · rw [if_neg empty]
        exact Nat.le_refl _

theorem read_into_weight (reader : Reader μ φ) (cells : List (Cell φ)) (room : 0 < reader.phase.space) (some : reader.expected ≠ []) :
    3 * (readInto parse reader cells).expected.length + (readInto parse reader cells).phase.weight ≤ 3 * reader.expected.length := by
  unfold readInto
  cases place : reader.phase with
  | idle | ready | failed =>
      rw [place] at room
      exact absurd room (Nat.lt_irrefl 0)
  | heading call bytes off got =>
      dsimp only
      split
      · exact Nat.le_refl _
      · exact finish_head_weight parse _ call _ _ some
  | body call len off fd =>
      dsimp only
      cases call.kind with
      | msg | raw =>
          split
          · exact Nat.le_refl _
          · exact finish_body_weight parse _ call len fd some

variable (readsBack : ∀ data, parse (json data) = some data)
include readsBack

-- A reader in step that waits for bytes gets one when there is one.
theorem read_productive (plan : List (Frame μ φ)) (caps : ∀ frame ∈ plan, frame.Within json) (state : State μ φ) (remaining : List (Frame μ φ))
    (delivering : Delivering json plan state.reader (state.socket ++ state.sender.unsent json) remaining) (healthy : state.sender.failed = false)
    (room : 0 < state.reader.phase.space) (awaited : remaining ≠ []) (there : state.socket ≠ []) :
    ∃ label next, step json parse state label = some next ∧ Healthy next ∧ next.weight json < state.weight json := by
  have one : 1 ≤ state.socket.length := List.length_pos_iff.mpr there
  have guard : 0 < 1 ∧ 1 ≤ state.reader.phase.space ∧ 1 ≤ state.socket.length ∧ (state.socket.take 1).tail.all (fun cell => cell.fd.isNone) := by
    refine ⟨Nat.one_pos, room, one, ?_⟩
    cases state.socket <;> rfl
  have read : readerStep parse state.socket state.reader (.read 1) =
      some (state.socket.drop 1, readInto parse state.reader (state.socket.take 1)) := by
    rw [readerStep]
    · exact if_pos guard
  have expected : state.reader.expected ≠ [] := by
    rw [delivering.expected]
    exact fun none => awaited (List.map_eq_nil_iff.mp none)
  refine ⟨.read 1, { state with socket := state.socket.drop 1, reader := readInto parse state.reader (state.socket.take 1) }, ?_, ⟨healthy, ?_⟩, ?_⟩
  · rw [step, read]
    rfl
  · obtain ⟨rest, _, _, aligned⟩ := read_into_delivers json parse readsBack plan caps state.reader state.socket _ 1 Nat.one_pos one room remaining delivering
    intro error failed
    rw [failed] at aligned
    cases aligned
  · have lighter := read_into_weight parse state.reader (state.socket.take 1) room expected
    simp only [State.weight, List.length_drop]
    omega

omit readsBack in
theorem send_productive (plan : List (Frame μ φ)) (caps : ∀ frame ∈ plan, frame.Within json) (state : State μ φ) (healthy : Healthy state)
    (queue : state.sender.queue <:+ plan) (buf : ∀ writing, state.sender.writing = some writing → writing.buf ≠ [])
    (unsent : state.sender.unsent json ≠ []) :
    ∃ label next, step json parse state label = some next ∧ Healthy next ∧ next.weight json < state.weight json := by
  have lift : ∀ label sender after, (label = .send ∨ ∃ n, label = .sendmsg n) → senderStep json state.sender state.socket label = some (sender, after) →
      sender.failed = false → sender.queue.length + state.socket.length < state.sender.queue.length + after.length →
      ∃ label next, step json parse state label = some next ∧ Healthy next ∧ next.weight json < state.weight json := by
    intro label sender after sends stepped fine lighter
    refine ⟨label, { state with sender := sender, socket := after }, ?_, ⟨fine, healthy.2⟩, ?_⟩
    · rcases sends with rfl | ⟨n, rfl⟩
      · rw [step, stepped]
        rfl
      · rw [step, stepped]
        rfl
    · have stream := congrArg List.length (sender_step_stream json state.sender sender state.socket after label stepped)
      rw [List.length_append, List.length_append] at stream
      simp only [State.weight]
      omega
  cases writing : state.sender.writing with
  | some current =>
      have room : 1 ≤ current.buf.length := List.length_pos_iff.mpr (buf current writing)
      have stepped : senderStep json state.sender state.socket (.sendmsg 1) =
          some ({ state.sender with writing := current.advance 1 }, state.socket ++ carried current.passFd (current.buf.take 1)) := by
        simp only [senderStep, healthy.1, writing, Bool.false_eq_true, if_false]
        exact if_pos ⟨Nat.one_pos, room⟩
      have more : (state.socket ++ carried current.passFd (current.buf.take 1)).length = state.socket.length + 1 := by
        rw [List.length_append, carried_length, List.length_take, Nat.min_eq_left room]
      refine lift (.sendmsg 1) _ _ (.inr ⟨1, rfl⟩) stepped healthy.1 ?_
      rw [more]
      exact Nat.lt_succ_self _
  | none =>
      cases queued : state.sender.queue with
      | nil =>
          rw [Sender.unsent, writing, queued] at unsent
          exact (unsent rfl).elim
      | cons frame rest =>
          have within := caps frame (queue.subset (by rw [queued]; exact List.mem_cons_self))
          have small : ¬ 2 ^ 32 ≤ (frame.payload json).length := by
            rw [Frame.Within] at within
            unfold maxDrmJsonBytes maxDrmRawBytes at within
            split at within <;> omega
          have stepped : senderStep json state.sender state.socket .send = some (drmSendFrame json state.sender frame rest, state.socket) := by
            simp only [senderStep, healthy.1, writing, queued, Bool.false_eq_true, if_false]
          rw [drmSendFrame, if_neg small] at stepped
          refine lift .send _ _ (.inl rfl) stepped healthy.1 ?_
          rw [queued, List.length_cons]
          dsimp only
          omega

section
variable (plan : List (Frame μ φ))

-- As long as something is missing and neither side has given up, something can be done.
theorem productive (caps : ∀ frame ∈ plan, frame.Within json) (state : State μ φ) (lossless : Lossless json plan state)
    (healthy : Healthy state) (missing : state.reader.received ≠ plan) :
    ∃ label next, step json parse state label = some next ∧ Healthy next ∧ next.weight json < state.weight json := by
  rcases lossless.delivers with ⟨remaining, delivering⟩ | ⟨_, error, failed, _⟩
  case inr => exact (healthy.2 error failed).elim
  have awaited : remaining ≠ [] := by
    rintro rfl
    exact missing ((List.append_nil _).symm.trans delivering.whole)
  have waiting : ∀ (frame : Frame μ φ) (rest : List (Frame μ φ)) (off : Nat), off < 4 + (frame.payload json).length →
      state.socket ++ state.sender.unsent json = left json frame rest off → 0 < state.reader.phase.space →
      ∃ label next, step json parse state label = some next ∧ Healthy next ∧ next.weight json < state.weight json := by
    intro frame rest off short on room
    by_cases there : state.socket = []
    · apply send_productive json parse plan caps state healthy lossless.queue lossless.buf
      intro nothing
      rw [there, nothing] at on
      have lengths := congrArg List.length on
      simp only [left, List.length_append, List.length_drop, frame_cells_length, List.length_nil] at lengths
      omega
    · exact read_productive json parse readsBack plan caps state remaining delivering healthy.1 room awaited there
  have aligned := delivering.aligned
  cases place : state.reader.phase with
  | failed error => exact (healthy.2 error place).elim
  | ready =>
      refine ⟨.readable, { state with reader := { state.reader with phase := .heading .recvMsgTimeout2 [0, 0, 0, 0] 0 none, consumed := false } },
        ?_, ⟨healthy.1, fun _ same => by cases same⟩, ?_⟩
      · simp only [step, readerStep, place]
        rfl
      · simp only [State.weight, Phase.weight, place]
        omega
  | idle =>
      cases remaining with
      | nil => exact (awaited rfl).elim
      | cons frame rest =>
          have head : state.reader.expected.head? = some frame.kind := by
            rw [delivering.expected]
            rfl
          have called : ∀ (call : Call) (reader : Reader μ φ), frame.kind = call.kind →
              startCall { state.reader with called := state.reader.taken } call = reader → (∀ error, reader.phase ≠ .failed error) →
              reader.phase.weight < 2 → reader.expected = state.reader.expected →
              ∃ label next, step json parse state label = some next ∧ Healthy next ∧ next.weight json < state.weight json := by
            intro call reader kind starts fine lighter same
            refine ⟨.call call, { state with reader := reader }, ?_, ⟨healthy.1, fine⟩, ?_⟩
            · have taken : readerStep parse state.socket state.reader (.call call) = some (state.socket, reader) := by
                rw [← starts, readerStep.eq_def, place]
                exact if_pos (head.trans (congrArg some kind))
              rw [step, taken]
              rfl
            · have before : state.reader.phase.weight = 2 := by
                rw [place]
                rfl
              unfold State.weight
              dsimp only
              rw [same, before]
              omega
          cases kind : frame.kind with
          | msg => exact called .recvMsg _ kind rfl (fun _ same => by cases same) Nat.zero_lt_two rfl
          | raw => exact called .nextRawInto _ kind rfl (fun _ same => by cases same) Nat.zero_lt_two rfl
  | heading call bytes off got =>
      rw [place] at aligned
      cases aligned with
      | heading frame rest _ _ _ _ kind width short sofar carries on =>
          refine waiting frame rest off (by omega) on ?_
          rw [place]
          exact Nat.sub_pos_of_lt short
  | body call len off fd =>
      rw [place] at aligned
      cases aligned with
      | body frame rest _ _ _ _ kind length short room raw sofar carries on =>
          refine waiting frame rest (4 + off) (by omega) on ?_
          rw [place]
          exact Nat.sub_pos_of_lt short

theorem completes (caps : ∀ frame ∈ plan, frame.Within json) (state : State μ φ) (lossless : Lossless json plan state)
    (healthy : Healthy state) : ∃ labels final, Machine.run (step json parse) state labels = some final ∧ final.reader.received = plan := by
  induction weight : state.weight json using Nat.strong_induction_on generalizing state with
  | _ weight ih =>
      by_cases missing : state.reader.received = plan
      · exact ⟨[], state, rfl, missing⟩
      · obtain ⟨label, next, stepped, fine, lighter⟩ := productive json parse readsBack plan caps state lossless healthy missing
        have kept := step_lossless json parse readsBack plan caps state next label lossless stepped
        obtain ⟨labels, final, ran, done⟩ := ih (next.weight json) (weight ▸ lighter) next kept fine rfl
        exact ⟨label :: labels, final, by rw [Machine.run, stepped, Option.bind_some, ran], done⟩

theorem opened_lossless (state : State μ φ) (caps : ∀ frame ∈ plan, frame.Within json)
    (reach : Machine.Reachable (step json parse) (opened plan [] (plan.map Frame.kind)) state) : Lossless json plan state := by
  apply Machine.reachable_invariant (step json parse) (Lossless json plan) _ state ?_ ?_ reach
  · exact ⟨⟨Nat.zero_le _, Nat.zero_le _, trivial⟩, .inl ⟨plan, rfl, rfl, .idle plan rfl⟩, List.suffix_refl _, nofun⟩
  · exact fun state label next lossless stepped => step_lossless json parse readsBack plan caps state next label lossless stepped

end

omit readsBack in
theorem peer_sane (queue : List (Frame μ φ)) (socket : List (Cell φ)) (expected : List Kind) (state : State μ φ)
    (reach : Machine.Reachable (step json parse) (opened queue socket expected) state) : Sane state.reader := by
  apply Machine.reachable_invariant (step json parse) (fun state => Sane state.reader) _ state ?_ ?_ reach
  · exact ⟨Nat.zero_le _, Nat.zero_le _, trivial⟩
  intro state label next sane stepped
  cases label with
  | wouldBlock => exact Option.some.inj stepped ▸ sane
  | send | sendmsg | sendFails =>
      obtain ⟨_, _, rfl⟩ := Option.map_eq_some_iff.mp stepped
      exact sane
  | call | readable | read | timeout | readFails =>
      obtain ⟨⟨after, reader⟩, read, rfl⟩ := Option.map_eq_some_iff.mp stepped
      exact reader_step_sane parse _ after _ reader _ sane read

-- A `None` of `recv_msg_timeout2`: the wait before the call, or one in which nothing came.
omit readsBack in
theorem timeout_untouched (state next : State μ φ) (sane : Sane state.reader) (stepped : step json parse state .timeout = some next)
    (idle : next.reader.phase = .idle) : next.socket = state.socket ∧ next.reader.taken = next.reader.called := by
  obtain ⟨⟨after, reader⟩, read, rfl⟩ := Option.map_eq_some_iff.mp stepped
  have phase := sane.phase
  rw [readerStep.eq_def] at read
  cases place : state.reader.phase with
  | idle | failed =>
      rw [place] at read
      cases read
  | ready =>
      rw [place] at read phase
      cases read
      exact ⟨rfl, phase⟩
  | heading call bytes off got =>
      rw [place] at read phase
      obtain ⟨given, out, is⟩ := Option.map_eq_some_iff.mp read
      cases is
      obtain ⟨same, late⟩ := timed_out_phase state.reader reader call out
      rcases late with ⟨_, rfl, unread⟩ | failed | failed
      · have consumed := phase.2.2.1 rfl
        rw [unread] at consumed
        have none_read := of_decide_eq_false consumed.symm
        have first : off = 0 := by omega
        refine ⟨rfl, ?_⟩
        rw [same]
        exact phase.2.2.2.trans (by rw [first, Nat.add_zero])
      · cases idle.symm.trans failed
      · cases idle.symm.trans failed
  | body call len off fd =>
      rw [place] at read phase
      obtain ⟨given, out, is⟩ := Option.map_eq_some_iff.mp read
      cases is
      obtain ⟨same, late⟩ := timed_out_phase state.reader reader call out
      rcases late with ⟨_, rfl, unread⟩ | failed | failed
      · have consumed := phase.2.2.1 rfl
        rw [unread] at consumed
        cases consumed
      · cases idle.symm.trans failed
      · cases idle.symm.trans failed

omit readsBack in
theorem finish_head_refused (reader : Reader μ φ) (call : Call) (len : Nat) (got : Option φ) (beyond : call.cap < len) :
    finishHead parse reader call len got = { reader with phase := .failed .exceedsCap } := by
  cases call with
  | recvMsg => exact if_pos beyond
  | recvMsgTimeout2 => exact if_pos beyond
  | nextRawInto => exact if_pos beyond

omit readsBack in
theorem oversized_refused (state next : State μ φ) (call : Call) (bytes : List UInt8) (off n : Nat) (got : Option φ)
    (heading : state.reader.phase = .heading call bytes off got) (stepped : step json parse state (.read n) = some next) (full : 4 ≤ off + n)
    (beyond : call.cap < fromBeBytes (fill bytes off ((state.socket.take n).map Cell.byte))) :
    next.reader.phase = .failed .exceedsCap ∧ next.reader.readBuf = state.reader.readBuf ∧ next.reader.out = state.reader.out := by
  obtain ⟨⟨after, reader⟩, read, rfl⟩ := Option.map_eq_some_iff.mp stepped
  simp only [readerStep] at read
  obtain ⟨⟨_, _, few, _⟩, is⟩ := Option.ite_none_right_eq_some.mp read
  cases is
  have length : ((state.socket.take n).map Cell.byte).length = n := by rw [List.length_map, List.length_take, Nat.min_eq_left few]
  unfold readInto
  rw [heading]
  dsimp only
  rw [if_neg (by omega), finish_head_refused parse _ call _ _ beyond]
  exact ⟨rfl, rfl, rfl⟩

theorem drm_framing_lossless :
    (∀ plan : List (Frame μ φ), (∀ frame ∈ plan, frame.Within json) →
      ∀ state, Machine.Reachable (step json parse) (opened plan [] (plan.map Frame.kind)) state →
        state.reader.received <+: plan ∧
        (∀ error, state.reader.phase = .failed error → error = .closed ∨ error = .stalled ∨ error = .bodyTimeout) ∧
        (state.sender.queue = [] → state.sender.writing = none → state.socket = [] → state.reader.phase = .idle → state.reader.received = plan) ∧
        (Healthy state → ∃ labels final, Machine.run (step json parse) state labels = some final ∧ final.reader.received = plan)) ∧
    (∀ (queue : List (Frame μ φ)) (socket : List (Cell φ)) (expected : List Kind),
      ∀ state, Machine.Reachable (step json parse) (opened queue socket expected) state →
        state.reader.readBuf.length ≤ maxDrmJsonBytes ∧ state.reader.out.length ≤ maxDrmRawBytes ∧
        (∀ next, step json parse state .timeout = some next → next.reader.phase = .idle →
          next.socket = state.socket ∧ next.reader.taken = next.reader.called) ∧
        (∀ next call bytes off n got, state.reader.phase = .heading call bytes off got → step json parse state (.read n) = some next → 4 ≤ off + n →
          call.cap < fromBeBytes (fill bytes off ((state.socket.take n).map Cell.byte)) →
          next.reader.phase = .failed .exceedsCap ∧ next.reader.readBuf = state.reader.readBuf ∧ next.reader.out = state.reader.out)) := by
  refine ⟨?_, ?_⟩
  · intro plan caps state reach
    have lossless := opened_lossless json parse readsBack plan state caps reach
    refine ⟨?_, ?_, ?_, fun healthy => completes json parse readsBack plan caps state lossless healthy⟩
    · rcases lossless.delivers with ⟨remaining, delivering⟩ | ⟨sofar, _⟩
      · exact ⟨remaining, delivering.whole⟩
      · exact sofar
    · intro error failed
      rcases lossless.delivers with ⟨remaining, delivering⟩ | ⟨_, other, same, why⟩
      · have aligned := delivering.aligned
        rw [failed] at aligned
        cases aligned
      · cases failed.symm.trans same
        exact why
    · intro queue writing socket idle
      rcases lossless.delivers with ⟨remaining, delivering⟩ | ⟨_, other, same, _⟩
      · have aligned := delivering.aligned
        rw [idle, socket, Sender.unsent, queue, writing] at aligned
        cases aligned with
        | idle _ on =>
            cases remaining with
            | nil => rw [← delivering.whole, List.append_nil]
            | cons frame rest =>
                have lengths := congrArg List.length on
                simp only [List.flatMap_cons, List.length_append, frame_cells_length, Option.elim_none, List.flatMap_nil, List.length_nil] at lengths
                omega
      · cases idle.symm.trans same
  · intro queue socket expected state reach
    have sane := peer_sane json parse queue socket expected state reach
    exact ⟨sane.readBuf, sane.out, fun next stepped idle => timeout_untouched json parse state next sane stepped idle,
      fun next call bytes off n got heading stepped full beyond =>
        oversized_refused json parse state next call bytes off n got heading stepped full beyond⟩

end

-- A message with a descriptor and a body, on a channel whose payloads are their own JSON.
def cursorPlan : List (Frame (List UInt8) Nat) := [.msg [7, 8] (some 5), .raw [9]]

theorem cursor_plan_delivered : ∃ labels final, Machine.run (step id some) (opened cursorPlan [] [.msg, .raw]) labels = some final ∧
    final.reader.received = cursorPlan := by
  have caps : ∀ frame ∈ cursorPlan, frame.Within id := by
    intro frame member
    rcases List.mem_pair.mp member with rfl | rfl
    · exact (by decide : 2 ≤ maxDrmJsonBytes)
    · exact (by decide : 1 ≤ maxDrmRawBytes)
  exact ((drm_framing_lossless id some (fun _ => rfl)).1 cursorPlan caps _ (Machine.reachable_refl _ _)).2.2.2 ⟨rfl, nofun⟩

end GotechDesk.Drm.Channel
