import GotechDesk.AudioCapture.Order

set_option autoImplicit false

namespace GotechDesk.AudioCapture

variable {α : Type}

def resume (popped : List (Popped α)) : Nat := popped.getLast?.elim 0 (fun entry => entry.packet.number + 1)

-- The encoder compares every packet with the one after the last it played.
structure Smoothed (shape : Shape α) (state : State α) : Prop where
  expected : state.encoder.expectedSequence = shape.wrap (resume state.popped)
  played : ∀ front entry back, state.popped = front ++ entry :: back →
    entry.before.expectedSequence = shape.wrap (resume front) ∧
      entry.played = (smoothPacket shape entry.before entry.packet.sequence entry.packet.samples).2

section
variable (shape : Shape α) (state next : State α)

theorem unplayed_smoothed (smoothed : Smoothed shape state) (unplayed : Unplayed state next) : Smoothed shape next := by
  refine ⟨?_, ?_⟩
  · rw [unplayed.encoder, unplayed.popped]
    exact smoothed.expected
  · rw [unplayed.popped]
    exact smoothed.played

theorem turn_smoothed (smoothed : Smoothed shape state) (numbered : Numbered shape next) (turn : Turn shape state next) :
    Smoothed shape next := by
  cases turn with
  | quiet _ _ _ _ unplayed => exact unplayed_smoothed shape state next smoothed unplayed
  | accepted _ _ _ _ _ _ _ unplayed => exact unplayed_smoothed shape state next smoothed unplayed
  | refused _ _ _ _ _ unplayed => exact unplayed_smoothed shape state next smoothed unplayed
  | dropped _ _ _ _ _ _ _ _ unplayed => exact unplayed_smoothed shape state next smoothed unplayed
  | played packet _ _ _ _ popped encoder =>
      have among : packet ∈ next.passed := by
        simp only [State.passed, popped, List.map_append, List.map_singleton, List.mem_append, List.mem_singleton, true_or, or_true]
      refine ⟨?_, ?_⟩
      · have advanced : (smoothPacket shape state.encoder packet.sequence packet.samples).1.expectedSequence =
            shape.wrap (packet.sequence + 1) := rfl
        rw [encoder, advanced, numbered.stamped packet among, wrap_succ, popped, resume, List.getLast?_concat]
        rfl
      · intro front entry back split
        rw [popped] at split
        rcases List.eq_nil_or_concat back with rfl | ⟨earlier, latest, rfl⟩
        · obtain ⟨rfl, same⟩ := List.append_inj' split rfl
          obtain rfl := List.singleton_inj.mp same
          exact ⟨smoothed.expected, rfl⟩
        · rw [List.concat_eq_append, ← List.cons_append, ← List.append_assoc] at split
          obtain ⟨before, _⟩ := List.append_inj' split rfl
          exact smoothed.played front entry earlier before

end

-- What holds at every moment: `holds`, `flying` and `uncounted` are the buffer and the
-- submits a party has in its hands in the middle of a call, nothing between calls.
structure Kept (shape : Shape α) (capacity : Nat) (state : State α) : Prop where
  pooled : Pooled capacity state
  numbered : Numbered shape state
  smoothed : Smoothed shape state

theorem start_kept (shape : Shape α) (sampleRate : Nat) (channels : Channels) (room capacity maxSamples : Nat)
    (handoff : CapturePcmHandoff α) (made : newPcmHandoff room capacity maxSamples = some handoff) (roomy : capacity ≤ room) :
    Kept shape capacity (start shape sampleRate channels handoff) := by
  unfold newPcmHandoff at made
  split at made
  · simp at made
  · obtain rfl := Option.some.inj made
    refine ⟨⟨roomy, ?_, rfl, rfl, rfl, rfl, ?_⟩, ⟨?_, ?_, ?_, ?_, ?_⟩, ⟨?_, ?_⟩⟩
    · simp only [State.encoderHolds, start, Receiving.holds, Submitting.holds, List.length_replicate, List.length_nil, Nat.add_zero]
    · intro stats among
      cases among
    · exact List.Perm.refl []
    · exact List.Pairwise.nil
    · intro packet among
      cases among
    · intro packet among
      cases among
    · exact (Nat.zero_mod _).symm
    · exact (Nat.zero_mod _).symm
    · intro front entry back split
      simp [start] at split

theorem step_kept (shape : Shape α) (capacity : Nat) (state : State α) (label : Label α) (next : State α)
    (kept : Kept shape capacity state) (stepped : step shape state label = some next) : Kept shape capacity next := by
  have turn := step_turn shape state next label stepped
  have numbered := turn_numbered shape state next kept.numbered turn
  exact ⟨step_pooled shape state next capacity label kept.pooled stepped, numbered,
    turn_smoothed shape state next kept.smoothed numbered turn⟩

theorem reachable_kept (shape : Shape α) (sampleRate : Nat) (channels : Channels) (room capacity maxSamples : Nat)
    (handoff : CapturePcmHandoff α) (state : State α) (made : newPcmHandoff room capacity maxSamples = some handoff)
    (roomy : capacity ≤ room) (reach : Machine.Reachable (step shape) (start shape sampleRate channels handoff) state) :
    Kept shape capacity state := by
  apply Machine.reachable_invariant (step shape) (Kept shape capacity) (start shape sampleRate channels handoff) state
  · exact start_kept shape sampleRate channels room capacity maxSamples handoff made roomy
  · exact step_kept shape capacity
  · exact reach

section
variable (shape : Shape α) (state : State α)

theorem submits_settled (capacity : Nat) (kept : Kept shape capacity state) :
    state.submitted.length = state.popped.length + state.handoff.buffers.ready.length + state.reported + state.unreported +
      (state.submitting.flying.length + state.submitting.uncounted) := by
  have each := kept.numbered.each.length_eq
  have losses := kept.pooled.losses
  simp only [State.numbers, State.passed, List.length_append, List.length_map, List.length_range] at each
  omega

theorem popped_ordered (numbered : Numbered shape state) :
    List.Pairwise (fun earlier later : Popped α => earlier.packet.number < later.packet.number) state.popped := by
  have ordered := numbered.ordered
  simp only [State.numbers, State.passed, List.map_append, List.append_assoc, List.map_map] at ordered
  exact List.pairwise_map.mp (List.pairwise_append.mp ordered).1

theorem popped_passed (entry : Popped α) (among : entry ∈ state.popped) : entry.packet ∈ state.passed := by
  apply List.mem_append_left
  apply List.mem_append_left
  exact List.mem_map_of_mem among

theorem resume_earlier (front : List (Popped α)) (bound : Nat)
    (ordered : List.Pairwise (fun earlier later : Popped α => earlier.packet.number < later.packet.number) front) :
    resume front ≤ bound ↔ ∀ earlier ∈ front, earlier.packet.number < bound := by
  rcases List.eq_nil_or_concat front with rfl | ⟨before, latest, rfl⟩
  · simp [resume]
  · rw [List.concat_eq_append] at ordered ⊢
    have same : resume (before ++ [latest]) = latest.packet.number + 1 := by rw [resume, List.getLast?_concat]; rfl
    rw [same]
    constructor
    · intro above earlier among
      rcases List.mem_append.mp among with old | new
      · have less := (List.pairwise_append.mp ordered).2.2 earlier old latest (List.mem_singleton_self latest)
        omega
      · rw [List.mem_singleton.mp new]
        omega
    · intro all
      exact all latest (List.mem_append_right _ (List.mem_singleton_self latest))

-- Between two packets played one after the other nothing is under way any more.
theorem gap_lost (numbered : Numbered shape state) (front : List (Popped α)) (entry : Popped α) (back : List (Popped α))
    (split : state.popped = front ++ entry :: back) (number : Nat) (after : ∀ earlier ∈ front, earlier.packet.number < number)
    (before : number < entry.packet.number) : number ∈ state.lost := by
  have among : entry.packet.number ∈ state.numbers := by
    apply List.mem_map_of_mem
    apply popped_passed
    simp [split]
  have below := numbered_below shape state numbered entry.packet.number (List.mem_append_left _ among)
  have somewhere : number ∈ state.numbers ++ state.lost :=
    numbered.each.mem_iff.mpr (List.mem_range.mpr (Nat.lt_trans before below))
  rcases List.mem_append.mp somewhere with here | gone
  · have ordered := numbered.ordered
    simp only [State.numbers, State.passed, split, List.map_append, List.map_cons, List.append_assoc, List.cons_append] at ordered here
    obtain ⟨_, rest, _⟩ := List.pairwise_append.mp ordered
    have later := (List.pairwise_cons.mp rest).1
    rcases List.mem_append.mp here with early | late
    · obtain ⟨packet, isEarly, same⟩ := List.mem_map.mp early
      obtain ⟨earlier, isFront, rfl⟩ := List.mem_map.mp isEarly
      have less := after earlier isFront
      omega
    · rcases List.mem_cons.mp late with same | further
      · omega
      · have less := later number further
        omega
  · exact gone

theorem fades_lost (numbered : Numbered shape state) (smoothed : Smoothed shape state)
    (unwrapped : state.submitted.length < 2 ^ shape.bits) (front : List (Popped α)) (entry : Popped α) (back : List (Popped α))
    (split : state.popped = front ++ entry :: back) :
    entry.packet.sequence ≠ entry.before.expectedSequence ↔
      ∃ number ∈ state.lost, (∀ earlier ∈ front, earlier.packet.number < number) ∧ number < entry.packet.number := by
  have ordered := popped_ordered shape state numbered
  rw [split] at ordered
  obtain ⟨inFront, _, across⟩ := List.pairwise_append.mp ordered
  have passed : entry.packet ∈ state.passed := by
    apply popped_passed
    simp [split]
  have below := numbered_below shape state numbered entry.packet.number (List.mem_append_left _ (List.mem_map_of_mem passed))
  have reached : resume front ≤ entry.packet.number :=
    (resume_earlier front entry.packet.number inFront).mpr (fun earlier among => across earlier among entry List.mem_cons_self)
  rw [numbered.stamped entry.packet passed, (smoothed.played front entry back split).1, Shape.wrap, Shape.wrap,
    Nat.mod_eq_of_lt (by omega), Nat.mod_eq_of_lt (by omega)]
  constructor
  · intro apart
    have gap := (resume_earlier front (resume front) inFront).mp (Nat.le_refl _)
    have before : resume front < entry.packet.number := by omega
    exact ⟨resume front, gap_lost shape state numbered front entry back split (resume front) gap before, gap, before⟩
  · rintro ⟨number, _, after, before⟩ same
    have from_resume := (resume_earlier front number inFront).mpr after
    omega

end

theorem handoff_accounts (shape : Shape α) (sampleRate : Nat) (channels : Channels) (room capacity maxSamples : Nat)
    (handoff : CapturePcmHandoff α) (state : State α) (made : newPcmHandoff room capacity maxSamples = some handoff)
    (roomy : capacity ≤ room) (reach : Machine.Reachable (step shape) (start shape sampleRate channels handoff) state) :
    (state.handoff.buffers.available.length + state.handoff.buffers.ready.length + state.encoderHolds +
        state.submitting.holds = capacity) ∧
      (state.handoff.recycleFailures = 0 ∧ state.receiving.failures = 0 ∧ state.pending.loss.recycleFailures = 0 ∧
        ∀ stats ∈ state.reports, stats.loss.recycleFailures = 0) ∧
      (state.submitted.length = state.popped.length + state.handoff.buffers.ready.length + state.reported + state.unreported +
        (state.submitting.flying.length + state.submitting.uncounted)) ∧
      (state.submitting = .idle → state.submitting.holds = 0 ∧ state.submitting.flying.length + state.submitting.uncounted = 0) ∧
      (state.receiving = .idle → state.encoderHolds = state.held.length) ∧
      List.Perm ((state.popped.map Popped.packet ++ state.handoff.buffers.ready ++ state.submitting.flying).map Packet.number ++
        state.lost) (List.range state.submitted.length) ∧
      List.Pairwise (fun earlier later : Popped α => earlier.packet.number < later.packet.number) state.popped ∧
      (∀ entry ∈ state.popped, state.submitted[entry.packet.number]? = some entry.packet.samples) ∧
      (state.submitted.length < 2 ^ shape.bits → ∀ front entry back, state.popped = front ++ entry :: back →
        (entry.packet.sequence ≠ entry.before.expectedSequence ↔
          ∃ number ∈ state.lost, (∀ earlier ∈ front, earlier.packet.number < number) ∧ number < entry.packet.number) ∧
        entry.played = if entry.packet.sequence ≠ entry.before.expectedSequence then faded shape entry.before entry.packet.samples
          else entry.packet.samples) := by
  have kept := reachable_kept shape sampleRate channels room capacity maxSamples handoff state made roomy reach
  refine ⟨kept.pooled.pool, ⟨kept.pooled.noFailure, kept.pooled.noneSwapped, kept.pooled.nonePending, kept.pooled.noneReported⟩,
    submits_settled shape state capacity kept, ?_, ?_, kept.numbered.each, popped_ordered shape state kept.numbered, ?_, ?_⟩
  · intro idle
    rw [idle]
    exact ⟨rfl, rfl⟩
  · intro idle
    rw [State.encoderHolds, idle]
    rfl
  · exact fun entry among => kept.numbered.exact entry.packet (popped_passed state entry among)
  · intro unwrapped front entry back split
    refine ⟨fades_lost shape state kept.numbered kept.smoothed unwrapped front entry back split, ?_⟩
    exact (kept.smoothed.played front entry back split).2

def smallShape : Shape Int := { bits := 4, silence := 0, blend := fun index fadeFrames last sample => last * (fadeFrames - index) + sample * index }

-- One buffer: the second packet evicts the first, the third meets the encoder's lock,
-- the fourth is too long, the fifth finds the only buffer with the encoder.
def lossyRun : List (Label Int) :=
  ([.submit [1], .sender, .sender, .sender, .sender, .submit [2], .sender, .sender, .sender, .sender, .sender, .nextPacket] : List (Label Int)) ++
    List.replicate 6 (Label.receiver true) ++
    ([.submit [3], .sender, .receiver true, .submit [4, 5], .submit [6], .sender, .sender, .sender, .recycle 0,
      .receiver true, .receiver true, .submit [7], .sender, .sender, .sender, .sender, .nextPacket] : List (Label Int)) ++
    List.replicate 7 (Label.receiver true)

def smallHandoff : CapturePcmHandoff Int :=
  { buffers := { available := [[]], ready := [] }, maxSamples := 1, room := 1 }

def lossyEnd : Option (State Int) := Machine.run (step smallShape) (start smallShape 400 .mono smallHandoff) lossyRun

theorem lossy_ends : lossyEnd.isSome = true := by decide

theorem handoff_accounts_lossy :
    (lossyEnd.get lossy_ends).reported = 4 ∧
      (lossyEnd.get lossy_ends).submitted.length = (lossyEnd.get lossy_ends).popped.length +
        (lossyEnd.get lossy_ends).handoff.buffers.ready.length + (lossyEnd.get lossy_ends).reported + (lossyEnd.get lossy_ends).unreported +
        ((lossyEnd.get lossy_ends).submitting.flying.length + (lossyEnd.get lossy_ends).submitting.uncounted) := by
  have accounts := handoff_accounts smallShape 400 .mono 1 1 1 smallHandoff (lossyEnd.get lossy_ends) (by decide) (by decide)
    (Machine.reachable_run (step smallShape) (start smallShape 400 .mono smallHandoff) lossyRun lossy_ends)
  exact ⟨by decide, accounts.2.2.1⟩

end GotechDesk.AudioCapture
