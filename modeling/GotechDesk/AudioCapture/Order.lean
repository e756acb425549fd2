import GotechDesk.AudioCapture.Account

set_option autoImplicit false

namespace GotechDesk.AudioCapture

variable {α : Type}

structure Unplayed (state next : State α) : Prop where
  popped : next.popped = state.popped
  encoder : next.encoder = state.encoder

-- Everything one step can do to the packets under way, to the lost ones and to the
-- encoder: a submit starts a journey or ends it at once, a packet under way is
-- dropped, or the oldest queued packet is played.
inductive Turn (shape : Shape α) (state next : State α) : Prop where
  | quiet (submitted : next.submitted = state.submitted) (sequence : next.sequence = state.sequence)
      (lost : next.lost = state.lost) (passed : next.passed = state.passed) (unplayed : Unplayed state next)
  | accepted (packet : Packet α) (numbered : packet.number = state.submitted.length) (stamped : packet.sequence = state.sequence)
      (submitted : next.submitted = state.submitted ++ [packet.samples])
      (sequence : next.sequence = shape.wrap (state.sequence + 1)) (lost : next.lost = state.lost)
      (passed : next.passed = state.passed ++ [packet]) (unplayed : Unplayed state next)
  | refused (input : List α) (submitted : next.submitted = state.submitted ++ [input])
      (sequence : next.sequence = shape.wrap (state.sequence + 1)) (lost : next.lost = state.lost ++ [state.submitted.length])
      (passed : next.passed = state.passed) (unplayed : Unplayed state next)
  | dropped (front : List (Packet α)) (packet : Packet α) (back : List (Packet α))
      (submitted : next.submitted = state.submitted) (sequence : next.sequence = state.sequence)
      (before : state.passed = front ++ packet :: back) (passed : next.passed = front ++ back)
      (lost : next.lost = state.lost ++ [packet.number]) (unplayed : Unplayed state next)
  | played (packet : Packet α) (submitted : next.submitted = state.submitted) (sequence : next.sequence = state.sequence)
      (lost : next.lost = state.lost) (passed : next.passed = state.passed)
      (popped : next.popped = state.popped ++ [{ packet := packet, before := state.encoder, played := (smoothPacket shape state.encoder packet.sequence packet.samples).2 }])
      (encoder : next.encoder = (smoothPacket shape state.encoder packet.sequence packet.samples).1)

section
variable (shape : Shape α) (state next : State α)

theorem submit_turn (input : List α) (idle : state.submitting = .idle) : Turn shape state (submit shape state input) := by
  have before : state.passed = state.popped.map Popped.packet ++ state.handoff.buffers.ready := by
    simp only [State.passed, idle, Submitting.flying, List.append_nil]
  unfold submit
  dsimp only
  split
  · refine .refused input rfl rfl rfl ?_ ⟨rfl, rfl⟩
    simp only [State.passed, idle]
  · split
    · refine .refused input rfl rfl rfl ?_ ⟨rfl, rfl⟩
      simp only [State.passed, idle, Submitting.flying]
    · refine .accepted { number := state.submitted.length, sequence := state.sequence, samples := input } rfl rfl rfl rfl rfl ?_
        ⟨rfl, rfl⟩
      rw [before]
      rfl

theorem take_buffer_turn (packet : Packet α) (locked : state.submitting = .locked packet) :
    Turn shape state (takeBuffer state packet) := by
  unfold takeBuffer
  split
  · refine .quiet rfl rfl rfl ?_ ⟨rfl, rfl⟩
    simp only [State.passed, locked, Submitting.flying]
  · split
    · rename_i oldest rest queued
      refine .dropped (state.popped.map Popped.packet) oldest (rest ++ [packet]) rfl rfl ?_ ?_ rfl ⟨rfl, rfl⟩
      · simp only [State.passed, locked, queued, Submitting.flying, List.append_assoc, List.cons_append]
      · simp only [State.passed, Submitting.flying, List.append_assoc]
    · rename_i empty
      refine .dropped (state.popped.map Popped.packet) packet [] rfl rfl ?_ ?_ rfl ⟨rfl, rfl⟩
      · simp only [State.passed, locked, empty, Submitting.flying, List.append_nil]
      · simp only [State.passed, empty, Submitting.flying, List.append_nil]

theorem sender_turn (stepped : senderStep state = some next) : Turn shape state next := by
  unfold senderStep at stepped
  cases doing : state.submitting with
  | idle => simp [doing] at stepped
  | locked packet =>
      simp only [doing, Option.some.injEq] at stepped
      exact stepped ▸ take_buffer_turn shape state packet doing
  | contended | evicted | starved | taken | pushed | leaving =>
      simp only [doing, Option.some.injEq] at stepped
      subst stepped
      refine .quiet rfl rfl rfl ?_ ⟨rfl, rfl⟩
      simp only [State.passed, doing, Submitting.flying, List.append_assoc, List.append_nil]

theorem take_stats_turn (force elapsed : Bool) (counter : Counter) (loss : CapturePcmLoss) :
    Turn shape state (takeStats state force elapsed loss counter) := by
  cases counter with
  | contention | other | oversized | recycle => exact .quiet rfl rfl rfl rfl ⟨rfl, rfl⟩
  | maxQueued =>
      simp only [takeStats, report]
      split
      · exact .quiet rfl rfl rfl rfl ⟨rfl, rfl⟩
      split
      · exact .quiet rfl rfl rfl rfl ⟨rfl, rfl⟩
      · exact .quiet rfl rfl rfl rfl ⟨rfl, rfl⟩

theorem pop_turn : Turn shape state (popPacket shape state) := by
  unfold popPacket
  dsimp only
  split
  · exact .quiet rfl rfl rfl rfl ⟨rfl, rfl⟩
  · rename_i packet rest queued
    refine .played packet rfl rfl rfl ?_ rfl rfl
    simp only [State.passed, queued, List.map_append, List.map_singleton, List.append_assoc, List.cons_append, List.nil_append]

theorem receiver_turn (elapsed : Bool) (stepped : receiverStep shape state elapsed = some next) : Turn shape state next := by
  unfold receiverStep at stepped
  cases doing : state.receiving with
  | idle => simp [doing] at stepped
  | stats force counter loss =>
      simp only [doing, Option.some.injEq] at stepped
      exact stepped ▸ take_stats_turn shape state force elapsed counter loss
  | popLocked =>
      simp only [doing, Option.some.injEq] at stepped
      exact stepped ▸ pop_turn shape state
  | recycleLocked =>
      simp only [doing, Option.some.injEq] at stepped
      subst stepped
      unfold recycle
      dsimp only
      split
      · exact .quiet rfl rfl rfl rfl ⟨rfl, rfl⟩
      · exact .quiet rfl rfl rfl rfl ⟨rfl, rfl⟩
  | emptyLocked =>
      simp only [doing, Option.some.injEq] at stepped
      exact stepped ▸ .quiet rfl rfl rfl rfl ⟨rfl, rfl⟩
  | popping | recycling =>
      simp only [doing, Option.ite_none_left_eq_some, Option.some.injEq] at stepped
      exact stepped.2 ▸ .quiet rfl rfl rfl rfl ⟨rfl, rfl⟩

theorem step_turn (label : Label α) (stepped : step shape state label = some next) : Turn shape state next := by
  cases label with
  | submit input =>
      cases doing : state.submitting with
      | idle =>
          simp only [step, doing, Option.some.injEq] at stepped
          exact stepped ▸ submit_turn shape state input doing
      | _ => simp [step, doing] at stepped
  | sender => exact sender_turn shape state next stepped
  | nextPacket | finish | isEmpty | recycle =>
      simp only [step] at stepped
      split at stepped
      · exact Option.some.inj stepped ▸ .quiet rfl rfl rfl rfl ⟨rfl, rfl⟩
      · simp at stepped
  | receiver elapsed => exact receiver_turn shape state next elapsed stepped

end

def State.numbers (state : State α) : List Nat := state.passed.map Packet.number

-- Each submit is either under way or lost, exactly once, and the packets under way
-- are as they were submitted.
structure Numbered (shape : Shape α) (state : State α) : Prop where
  each : List.Perm (state.numbers ++ state.lost) (List.range state.submitted.length)
  ordered : List.Pairwise (· < ·) state.numbers
  exact : ∀ packet ∈ state.passed, state.submitted[packet.number]? = some packet.samples
  stamped : ∀ packet ∈ state.passed, packet.sequence = shape.wrap packet.number
  sequence : state.sequence = shape.wrap state.submitted.length

section
variable (shape : Shape α) (state next : State α)

theorem wrap_succ (value : Nat) : shape.wrap (shape.wrap value + 1) = shape.wrap (value + 1) := by
  simp only [Shape.wrap, Nat.mod_add_mod]

theorem numbered_below (numbered : Numbered shape state) (number : Nat) (among : number ∈ state.numbers ++ state.lost) :
    number < state.submitted.length := List.mem_range.mp (numbered.each.mem_iff.mp among)

theorem submitted_before (numbered : Numbered shape state) (input : List α) (packet : Packet α) (among : packet ∈ state.passed) :
    (state.submitted ++ [input])[packet.number]? = some packet.samples := by
  have below : packet.number < state.submitted.length := by
    apply numbered_below shape state numbered
    exact List.mem_append_left _ (List.mem_map_of_mem among)
  rw [List.getElem?_append_left below]
  exact numbered.exact packet among

theorem sequence_submitted (numbered : Numbered shape state) (input : List α) :
    shape.wrap (state.sequence + 1) = shape.wrap (state.submitted ++ [input]).length := by
  rw [numbered.sequence, wrap_succ, List.length_append, List.length_singleton]

theorem turn_numbered (numbered : Numbered shape state) (turn : Turn shape state next) : Numbered shape next := by
  cases turn with
  | quiet submitted sequence lost passed | played _ submitted sequence lost passed =>
      refine ⟨?_, ?_, ?_, ?_, ?_⟩
      · simpa only [State.numbers, passed, lost, submitted] using numbered.each
      · simpa only [State.numbers, passed] using numbered.ordered
      · simpa only [passed, submitted] using numbered.exact
      · simpa only [passed] using numbered.stamped
      · rw [sequence, submitted]
        exact numbered.sequence
  | refused input submitted sequence lost passed =>
      refine ⟨?_, ?_, ?_, ?_, ?_⟩
      · have more := numbered.each.append_right [state.submitted.length]
        simpa only [State.numbers, passed, lost, submitted, List.length_append, List.length_singleton, List.range_succ,
          List.append_assoc] using more
      · simpa only [State.numbers, passed] using numbered.ordered
      · rw [passed, submitted]
        exact submitted_before shape state numbered input
      · simpa only [passed] using numbered.stamped
      · rw [sequence, submitted]
        exact sequence_submitted shape state numbered input
  | accepted packet isNumber isSequence submitted sequence lost passed =>
      refine ⟨?_, ?_, ?_, ?_, ?_⟩
      · have more : List.Perm (state.numbers ++ [packet.number] ++ state.lost) (List.range state.submitted.length ++ [packet.number]) := by
          rw [List.append_assoc]
          refine (List.perm_append_comm.append_left state.numbers).trans ?_
          rw [← List.append_assoc]
          exact numbered.each.append_right [packet.number]
        simpa only [State.numbers, passed, lost, submitted, List.map_append, List.map_singleton, List.length_append,
          List.length_singleton, List.range_succ, isNumber] using more
      · rw [State.numbers, passed, List.map_append, List.map_singleton, List.pairwise_append]
        refine ⟨numbered.ordered, List.pairwise_singleton _ _, ?_⟩
        intro earlier among later latest
        rw [List.mem_singleton.mp latest, isNumber]
        exact numbered_below shape state numbered earlier (List.mem_append_left _ among)
      · intro other among
        rw [passed] at among
        rw [submitted]
        rcases List.mem_append.mp among with earlier | latest
        · exact submitted_before shape state numbered packet.samples other earlier
        · rw [List.mem_singleton.mp latest, isNumber, List.getElem?_concat_length]
      · intro other among
        rw [passed] at among
        rcases List.mem_append.mp among with earlier | latest
        · exact numbered.stamped other earlier
        · rw [List.mem_singleton.mp latest, isSequence, isNumber]
          exact numbered.sequence
      · rw [sequence, submitted]
        exact sequence_submitted shape state numbered packet.samples
  | dropped front packet back submitted sequence before passed lost =>
      have fewer : next.passed.Sublist state.passed := by
        rw [before, passed]
        exact (List.sublist_cons_self packet back).append_left front
      refine ⟨?_, ?_, ?_, ?_, ?_⟩
      · have moved : List.Perm (next.numbers ++ next.lost) (state.numbers ++ state.lost) := by
          simp only [State.numbers, before, passed, lost, List.map_append, List.map_cons, List.append_assoc]
          refine List.Perm.append_left _ ?_
          rw [← List.append_assoc]
          exact List.perm_append_singleton packet.number _
        rw [submitted]
        exact moved.trans numbered.each
      · exact numbered.ordered.sublist (fewer.map _)
      · rw [submitted]
        exact fun other among => numbered.exact other (fewer.subset among)
      · exact fun other among => numbered.stamped other (fewer.subset among)
      · rw [sequence, submitted]
        exact numbered.sequence

end

end GotechDesk.AudioCapture
