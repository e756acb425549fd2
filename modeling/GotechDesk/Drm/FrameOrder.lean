import GotechDesk.Drm.FrameCredit

set_option autoImplicit false

namespace GotechDesk.Drm.FrameLoop

section
variable {φ κ : Type}

theorem outer_kept (state : State φ κ) (phase : Phase φ κ) (kept : Kept state) (on : state.phase ≠ .closed) (hand : state.phase.inHand = none)
    (latest : state.phase.latest state.heldFrame = state.heldFrame) (next : phase.inHand = none)
    (held : phase.latest state.heldFrame = state.heldFrame) (outer : phase.inner = false) : Kept { state with phase := phase } := by
  refine phase_kept state phase kept on (next.trans hand.symm) (held.trans latest.symm) ?_ ?_
  · intro inner
    rw [outer] at inner
    cases inner
  · rintro frame rfl
    cases outer

-- The three ways of waiting take the first message off the channel alike.
theorem first_kept (state : State φ κ) (kept : Kept state) (on : state.phase ≠ .closed) (hand : state.phase.inHand = none)
    (latest : state.phase.latest state.heldFrame = state.heldFrame) :
    Kept { (pull state).2 with phase := .checking (pull state).1 } := by
  have newest := kept.newest on
  rw [State.newest, hand, latest] at newest
  have all := all_forwarded state kept on (by rw [hand]; rfl)
  exact pull_kept state (pull state).2.heldFrame state.heldFrame (.checking (pull state).1) kept.sound newest all rfl (pull_held state) (fun same => by cases same) (fun _ same => by cases same)

theorem step_kept (honest : Bool) (state next : State φ κ) (label : Label φ κ) (kept : Kept state)
    (stepped : step honest state label = some next) : Kept next := by
  have sound := kept.sound
  unfold step at stepped
  split at stepped
  case h_1 msg _ =>
    obtain ⟨_, rfl⟩ := Option.ite_some_none_eq_some.mp stepped
    refine { kept with sound := ⟨?_, sound.credit, sound.drained, sound.ordered, sound.shapes⟩ }
    rw [← List.append_assoc, sound.channel]
  case h_2 =>
    cases stepped
    exact { kept with sound := ⟨sound.channel, sound.credit, sound.drained, sound.ordered, sound.shapes⟩ }
  case h_3 =>
    obtain ⟨_, rfl⟩ := Option.ite_some_none_eq_some.mp stepped
    exact { kept with sound := ⟨sound.channel, sound.credit, Nat.le_succ_of_le sound.drained, sound.ordered, sound.shapes⟩ }
  case h_4 n reads here =>
    obtain ⟨⟨_, _, there⟩, rfl⟩ := Option.ite_some_none_eq_some.mp stepped
    have on : (drain state n).phase ≠ .closed := by
      change state.phase ≠ _
      rw [here]
      simp
    have hand : (drain state n).phase.inHand = none := by
      change state.phase.inHand = _
      rw [here]
      rfl
    have latest : (drain state n).phase.latest (drain state n).heldFrame = (drain state n).heldFrame := by
      change state.phase.latest _ = _
      rw [here]
      rfl
    split
    · exact outer_kept (drain state n) .judging (drain_kept state n kept there) on hand latest rfl rfl rfl
    · exact outer_kept (drain state n) (.acking reads) (drain_kept state n kept there) on hand latest rfl rfl rfl
  case h_5 reads here =>
    cases stepped
    exact outer_kept state .judging kept (by rw [here]; simp) (by rw [here]; rfl) (by rw [here]; rfl) rfl rfl rfl
  case h_6 here =>
    cases stepped
    exact outer_kept state .judging kept (by rw [here]; simp) (by rw [here]; rfl) (by rw [here]; rfl) rfl rfl rfl
  case h_7 stalled here =>
    have on : state.phase ≠ .closed := by
      rw [here]
      simp
    split at stepped
    · cases stepped
      exact closed_kept state kept
    · cases stepped
      have chosen : ∀ phase : Phase φ κ, phase.inHand = none → phase.latest state.heldFrame = state.heldFrame → phase.inner = false →
          Kept { state with framesGated := decide (state.credit ≤ 0), phase := phase } := by
        intro phase next held outer
        have moved := outer_kept state phase kept on (by rw [here]; rfl) (by rw [here]; rfl) next held outer
        exact { moved with sound := ⟨sound.channel, sound.credit, sound.drained, sound.ordered, sound.shapes⟩ }
      unfold judged
      split
      · exact chosen .trying rfl rfl rfl
      · split
        · exact chosen .starved rfl rfl rfl
        · exact chosen .waiting rfl rfl rfl
  case h_8 here =>
    cases stepped
    exact first_kept state kept (by rw [here]; simp) (by rw [here]; rfl) (by rw [here]; rfl)
  case h_9 here =>
    cases stepped
    exact outer_kept state (.checking none) kept (by rw [here]; simp) (by rw [here]; rfl) (by rw [here]; rfl) rfl rfl rfl
  case h_10 here =>
    cases stepped
    exact outer_kept state (.checking none) kept (by rw [here]; simp) (by rw [here]; rfl) (by rw [here]; rfl) rfl rfl rfl
  case h_11 here =>
    obtain ⟨_, is⟩ := Option.ite_none_left_eq_some.mp stepped
    cases is
    exact first_kept state kept (by rw [here]; simp) (by rw [here]; rfl) (by rw [here]; rfl)
  case h_12 here =>
    obtain ⟨_, is⟩ := Option.ite_none_left_eq_some.mp stepped
    cases is
    exact first_kept state kept (by rw [here]; simp) (by rw [here]; rfl) (by rw [here]; rfl)
  case h_13 here =>
    obtain ⟨_, rfl⟩ := Option.ite_some_none_eq_some.mp stepped
    exact closed_kept state kept
  case h_14 here =>
    obtain ⟨_, rfl⟩ := Option.ite_some_none_eq_some.mp stepped
    exact closed_kept state kept
  case h_15 peerOk changed first here =>
    cases stepped
    split
    · split
      · exact phase_kept state (.announcing first) kept (by rw [here]; simp) (by rw [here]; rfl) (by rw [here]; rfl) (fun same => by cases same) (fun _ same => by cases same)
      · exact enter_kept state first kept (.inl here)
    · exact closed_kept state kept
  case h_16 first here =>
    cases stepped
    exact enter_kept state first kept (.inr here)
  case h_17 latest frame here =>
    cases stepped
    have on : state.phase ≠ .closed := by
      rw [here]
      simp
    have newest := kept.newest on
    rw [State.newest, here] at newest
    exact again_kept state (some frame) sound newest (all_forwarded state kept on (by rw [here]; rfl)) (kept.taken (by rw [here]; rfl))
  case h_18 latest cursor here =>
    cases stepped
    exact phase_kept state (.sendingCursor latest cursor) kept (by rw [here]; simp) (by rw [here]; rfl) (by rw [here]; rfl)
      (fun _ => kept.taken (by rw [here]; rfl)) (fun _ same => by cases same)
  case h_19 latest here =>
    cases stepped
    have on : state.phase ≠ .closed := by
      rw [here]
      simp
    have newest := kept.newest on
    rw [State.newest, here] at newest
    exact again_kept state latest sound newest (all_forwarded state kept on (by rw [here]; rfl)) (kept.taken (by rw [here]; rfl))
  case h_20 latest here =>
    cases stepped
    exact phase_kept state (.settling latest maxAckReads) kept (by rw [here]; simp) (by rw [here]; rfl) (by rw [here]; rfl)
      (fun _ => kept.taken (by rw [here]; rfl)) (fun _ same => by cases same)
  case h_21 latest cursor here =>
    cases stepped
    have on : state.phase ≠ .closed := by
      rw [here]
      simp
    have newest := kept.newest on
    have forwarded := kept.forwarded on
    rw [State.newest, here] at newest
    rw [here] at forwarded
    exact again_kept { state with cursors := state.cursors ++ [cursor] } latest
      { sound with shapes := ⟨[], (List.append_nil _).trans forwarded⟩ } newest forwarded
      (kept.taken (by rw [here]; rfl))
  case h_22 n latest reads here =>
    obtain ⟨⟨_, _, there⟩, rfl⟩ := Option.ite_some_none_eq_some.mp stepped
    have less := drain_kept state n kept there
    split
    · exact decide_frame_kept (drain state n) latest less (reads + 1) here
    · exact phase_kept (drain state n) (.settling latest reads) less (by rw [drain, here]; simp) (by rw [drain, here]; rfl)
        (by rw [drain, here]; rfl) (fun _ => less.taken (by rw [drain, here]; rfl)) (fun _ same => by cases same)
  case h_23 latest reads here =>
    cases stepped
    exact decide_frame_kept state latest kept (reads + 1) here
  case h_24 latest here =>
    cases stepped
    exact decide_frame_kept state latest kept 0 here
  case h_25 frame here =>
    cases stepped
    have on : state.phase ≠ .closed := by
      rw [here]
      simp
    have newest := kept.newest on
    have forwarded := kept.forwarded on
    have positive := kept.affordable frame here
    have credit := sound.credit
    have free := kept.taken (by rw [here]; rfl)
    rw [State.newest, here] at newest
    rw [here] at forwarded
    refine ⟨{ sound with credit := ⟨by dsimp only; omega, by dsimp only; omega⟩, ordered := ordered_sent _ _ frame sound.ordered newest },
      fun _ => ?_, fun _ => forwarded, (fun same => by cases same), (fun _ same => by cases same)⟩
    rw [State.newest]
    change Newest _ _ (none.or state.heldFrame)
    rw [free]
    exact newest_sent state.sent state.frames frame
  case h_26 =>
    cases stepped
    exact closed_kept state kept
  case h_27 => cases stepped

-- One ack for each frame at most: then no ack is lost in the cap of the credit.
structure Balanced (state : State φ κ) : Prop where
  credit : state.credit + state.sent.length = drmFrameCredit + state.drained
  acked : state.acked ≤ state.sent.length

section
variable (state : State φ κ)

theorem pull_balanced (held : Option φ) (phase : Phase φ κ) (balanced : Balanced state) :
    Balanced { (pull state).2 with heldFrame := held, phase := phase } := by
  rw [pull_received]
  exact ⟨balanced.credit, balanced.acked⟩

theorem drain_balanced (n : Nat) (balanced : Balanced state) (drained : state.drained ≤ state.acked)
    (there : n ≤ state.acked - state.drained) : Balanced (drain state n) := by
  have credit := balanced.credit
  have acked := balanced.acked
  refine ⟨?_, acked⟩
  change min _ _ + (state.sent.length : Int) = _ + ((state.drained + n : Nat) : Int)
  rw [Int.min_eq_left (by omega)]
  omega

theorem decide_frame_balanced (latest : Option φ) (balanced : Balanced state) : Balanced (decideFrame state latest) := by
  unfold decideFrame
  split
  · exact ⟨balanced.credit, balanced.acked⟩
  · exact ⟨balanced.credit, balanced.acked⟩

theorem enter_balanced (first : Option (DrmProducerMsg φ κ)) (balanced : Balanced state) : Balanced (enter state first) := by
  cases first with
  | none => exact pull_balanced state none _ balanced
  | some msg => exact ⟨balanced.credit, balanced.acked⟩

end

theorem step_balanced (state next : State φ κ) (label : Label φ κ) (kept : Kept state) (balanced : Balanced state)
    (stepped : step true state label = some next) : Balanced next := by
  have same : Balanced state → ∀ (held : Option φ) (phase : Phase φ κ), Balanced { state with heldFrame := held, phase := phase } :=
    fun balanced _ _ => ⟨balanced.credit, balanced.acked⟩
  unfold step at stepped
  split at stepped
  case h_1 =>
    obtain ⟨_, rfl⟩ := Option.ite_some_none_eq_some.mp stepped
    exact ⟨balanced.credit, balanced.acked⟩
  case h_2 =>
    cases stepped
    exact ⟨balanced.credit, balanced.acked⟩
  case h_3 =>
    obtain ⟨fewer, rfl⟩ := Option.ite_some_none_eq_some.mp stepped
    exact ⟨balanced.credit, fewer rfl⟩
  case h_4 n reads _ =>
    obtain ⟨⟨_, _, there⟩, rfl⟩ := Option.ite_some_none_eq_some.mp stepped
    have drained := drain_balanced state n balanced kept.sound.drained there
    exact ⟨drained.credit, drained.acked⟩
  case h_7 =>
    split at stepped
    · cases stepped
      exact same balanced state.heldFrame .closed
    · cases stepped
      exact ⟨balanced.credit, balanced.acked⟩
  case h_8 =>
    cases stepped
    exact pull_balanced state (pull state).2.heldFrame _ balanced
  case h_11 | h_12 =>
    obtain ⟨_, is⟩ := Option.ite_none_left_eq_some.mp stepped
    cases is
    exact pull_balanced state (pull state).2.heldFrame _ balanced
  case h_13 | h_14 =>
    obtain ⟨_, rfl⟩ := Option.ite_some_none_eq_some.mp stepped
    exact same balanced state.heldFrame .closed
  case h_15 first _ =>
    cases stepped
    split
    · split
      · exact ⟨balanced.credit, balanced.acked⟩
      · exact enter_balanced state _ balanced
    · exact ⟨balanced.credit, balanced.acked⟩
  case h_16 first _ =>
    cases stepped
    exact enter_balanced state _ balanced
  case h_17 | h_19 =>
    cases stepped
    exact pull_balanced state (pull state).2.heldFrame _ balanced
  case h_21 cursor _ =>
    cases stepped
    exact pull_balanced { state with cursors := state.cursors ++ [_] } (pull _).2.heldFrame _ ⟨balanced.credit, balanced.acked⟩
  case h_22 n latest reads _ =>
    obtain ⟨⟨_, _, there⟩, rfl⟩ := Option.ite_some_none_eq_some.mp stepped
    have drained := drain_balanced state n balanced kept.sound.drained there
    split
    · exact decide_frame_balanced (drain state n) latest drained
    · exact ⟨drained.credit, drained.acked⟩
  case h_23 | h_24 =>
    cases stepped
    exact decide_frame_balanced state _ balanced
  case h_25 frame _ =>
    cases stepped
    have credit := balanced.credit
    have acked := balanced.acked
    refine ⟨?_, ?_⟩
    · rw [List.length_append, List.length_singleton]
      dsimp only
      omega
    · rw [List.length_append, List.length_singleton]
      exact Nat.le_succ_of_le acked
  case h_27 => cases stepped
  all_goals
    cases stepped
    exact ⟨balanced.credit, balanced.acked⟩

theorem start_kept : Kept (start : State φ κ) :=
  ⟨⟨rfl, ⟨(by decide : (0 : Int) ≤ drmFrameCredit), Int.le_refl _⟩, Nat.le_refl _, ⟨List.Pairwise.nil, nofun⟩, List.prefix_refl _⟩, fun _ => rfl, fun _ => rfl, fun _ => rfl, nofun⟩

theorem reachable_kept (honest : Bool) (state : State φ κ) (reach : Machine.Reachable (step honest) start state) : Kept state :=
  Machine.reachable_invariant (step honest) Kept start state start_kept
    (fun state label next kept stepped => step_kept honest state next label kept stepped) reach

theorem reachable_balanced (state : State φ κ) (reach : Machine.Reachable (step true) start state) : Kept state ∧ Balanced state :=
  Machine.reachable_invariant (step true) (fun state => Kept state ∧ Balanced state) start state ⟨start_kept, rfl, Nat.le_refl _⟩
    (fun state label next both stepped =>
      ⟨step_kept true state next label both.1 stepped, step_balanced state next label both.1 both.2 stepped⟩) reach

theorem drm_frame_credit :
    (∀ state : State φ κ, Machine.Reachable (step true) start state →
      state.drained ≤ state.acked ∧ state.acked ≤ state.sent.length ∧
      state.credit + (state.sent.length - state.acked) + (state.acked - state.drained) = drmFrameCredit ∧
      0 ≤ state.credit ∧ (state.sent.length : Int) - state.acked ≤ drmFrameCredit) ∧
    (∀ (honest : Bool) (state : State φ κ), Machine.Reachable (step honest) start state →
      state.credit ≤ drmFrameCredit ∧ state.received <+: state.captured ∧
      state.sent.Pairwise (fun earlier later => earlier.2 < later.2) ∧
      (∀ entry ∈ state.sent, 0 < entry.2 ∧ state.frames[entry.2 - 1]? = some entry.1) ∧
      (∀ frame next, state.phase = .sendingFrame frame → step honest state .sent = some next →
        state.frames.getLast? = some frame ∧ next.sent = state.sent ++ [(frame, state.frames.length)]) ∧
      state.cursors <+: state.captured.filterMap DrmProducerMsg.cursor? ∧
      (∀ reads, state.phase = .acking reads → state.cursors = state.received.filterMap DrmProducerMsg.cursor?)) := by
  refine ⟨?_, ?_⟩
  · intro state reach
    obtain ⟨kept, balanced⟩ := reachable_balanced state reach
    have credit := balanced.credit
    have acked := balanced.acked
    have drained := kept.sound.drained
    have within := kept.sound.credit
    exact ⟨drained, acked, by omega, within.1, by omega⟩
  · intro honest state reach
    have kept := reachable_kept honest state reach
    have sound := kept.sound
    have received : state.received <+: state.captured := ⟨state.channel, sound.channel⟩
    refine ⟨sound.credit.2, received, sound.ordered.rising, sound.ordered.known, ?_, ?_, ?_⟩
    · intro frame next sending stepped
      have newest := kept.newest (by rw [sending]; simp)
      rw [State.newest, sending] at newest
      refine ⟨newest.1, ?_⟩
      rw [step.eq_def, sending] at stepped
      cases stepped
      rfl
    · exact sound.shapes.trans (received.filterMap _)
    · intro reads here
      exact all_forwarded state kept (by rw [here]; simp) (by rw [here]; rfl)

end

-- One frame, sent and acked: the credit is back.
def oneFrame : List (Label Nat Nat) :=
  [.capture (.frame 7), .wouldBlock, .judge false, .recv, .authorize true false, .next, .next, .wouldBlock, .sent, .ack, .read 1]

example : (Machine.run (step true) start oneFrame).map (fun state => (state.sent, state.credit)) = some ([(7, 1)], 2) := by decide

end GotechDesk.Drm.FrameLoop
