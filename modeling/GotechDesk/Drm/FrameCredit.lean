import GotechDesk.Drm.FrameLoop

set_option autoImplicit false

namespace GotechDesk.Drm.FrameLoop

section
variable {φ κ : Type}

def Phase.inHand : Phase φ κ → Option (DrmProducerMsg φ κ)
  | .checking first | .announcing first => first
  | .forwarding _ msg => msg
  | .sendingCursor _ cursor => some (.cursor cursor)
  | _ => none

def Phase.latest (held : Option φ) : Phase φ κ → Option φ
  | .forwarding latest _ | .sendingCursor latest _ | .settling latest _ => latest
  | .sendingFrame frame => some frame
  | _ => held

-- Past the point where `held_frame` is taken.
def Phase.inner : Phase φ κ → Bool
  | .forwarding _ _ | .sendingCursor _ _ | .settling _ _ | .sendingFrame _ => true
  | _ => false

def State.newest (state : State φ κ) : Option φ :=
  (state.phase.inHand.bind DrmProducerMsg.frame?).or (state.phase.latest state.heldFrame)

def State.frames (state : State φ κ) : List φ := state.received.filterMap DrmProducerMsg.frame?

def State.shapes (state : State φ κ) : List κ := state.received.filterMap DrmProducerMsg.cursor?

def lastSent (sent : List (φ × Nat)) : Nat := sent.getLast?.elim 0 Prod.snd

-- Every frame sent was the newest received when it was sent, and each time a later one.
structure Ordered (sent : List (φ × Nat)) (frames : List φ) : Prop where
  rising : sent.Pairwise (fun earlier later => earlier.2 < later.2)
  known : ∀ entry ∈ sent, 0 < entry.2 ∧ frames[entry.2 - 1]? = some entry.1

-- The newest frame received is at hand, or it has been sent.
def Newest (sent : List (φ × Nat)) (frames : List φ) : Option φ → Prop
  | some frame => frames.getLast? = some frame ∧ lastSent sent < frames.length
  | none => lastSent sent = frames.length

section
variable (sent : List (φ × Nat))

theorem ordered_last (frames : List φ) (ordered : Ordered sent frames) : ∀ entry ∈ sent, entry.2 ≤ lastSent sent := by
  intro entry member
  rcases List.eq_nil_or_concat sent with rfl | ⟨front, last, rfl⟩
  · cases member
  · have rising := ordered.rising
    rw [List.concat_eq_append] at member rising ⊢
    rw [lastSent, List.getLast?_append]
    rcases List.mem_append.mp member with before | here
    · exact Nat.le_of_lt ((List.pairwise_append.mp rising).2.2 entry before last List.mem_cons_self)
    · obtain rfl := List.mem_singleton.mp here
      exact Nat.le_refl _

theorem ordered_received (frames more : List φ) (ordered : Ordered sent frames) : Ordered sent (frames ++ more) := by
  refine ⟨ordered.rising, ?_⟩
  intro entry member
  obtain ⟨positive, there⟩ := ordered.known entry member
  exact ⟨positive, (List.getElem?_append_left (List.getElem?_eq_some_iff.mp there).1).trans there⟩

theorem newest_received (frames : List φ) (latest fresh : Option φ) (newest : Newest sent frames latest) :
    Newest sent (frames ++ fresh.toList) (fresh.or latest) := by
  cases fresh with
  | none => simpa using newest
  | some frame =>
      refine ⟨by simp, ?_⟩
      have before : lastSent sent ≤ frames.length := by
        cases latest with
        | none => exact Nat.le_of_eq newest
        | some other => exact Nat.le_of_lt newest.2
      simpa using Nat.lt_succ_of_le before

theorem ordered_sent (frames : List φ) (frame : φ) (ordered : Ordered sent frames)
    (newest : Newest sent frames (some frame)) : Ordered (sent ++ [(frame, frames.length)]) frames := by
  obtain ⟨last, later⟩ := newest
  refine ⟨?_, ?_⟩
  · refine List.pairwise_append.mpr ⟨ordered.rising, List.pairwise_singleton _ _, ?_⟩
    intro entry member other only
    obtain rfl := List.mem_singleton.mp only
    exact Nat.lt_of_le_of_lt (ordered_last sent frames ordered entry member) later
  · intro entry member
    rcases List.mem_append.mp member with before | here
    · exact ordered.known entry before
    · obtain rfl := List.mem_singleton.mp here
      exact ⟨Nat.lt_of_le_of_lt (Nat.zero_le _) later, by rw [← last, List.getLast?_eq_getElem?]⟩

theorem newest_sent (frames : List φ) (frame : φ) : Newest (sent ++ [(frame, frames.length)]) frames none := by
  change lastSent _ = _
  rw [lastSent, List.getLast?_append]
  rfl

end

structure Sound (state : State φ κ) : Prop where
  channel : state.received ++ state.channel = state.captured
  credit : 0 ≤ state.credit ∧ state.credit ≤ drmFrameCredit
  drained : state.drained ≤ state.acked
  ordered : Ordered state.sent state.frames
  shapes : state.cursors <+: state.shapes

structure Kept (state : State φ κ) : Prop where
  sound : Sound state
  newest : state.phase ≠ .closed → Newest state.sent state.frames state.newest
  forwarded : state.phase ≠ .closed → state.cursors ++ (state.phase.inHand.bind DrmProducerMsg.cursor?).toList = state.shapes
  taken : state.phase.inner = true → state.heldFrame = none
  affordable : ∀ frame, state.phase = .sendingFrame frame → 0 < state.credit

section
variable (state : State φ κ)

theorem pull_received : (pull state).2 = { state with channel := (pull state).2.channel, received := state.received ++ (pull state).1.toList } := by
  unfold pull
  split
  · simp
  · rfl

theorem pull_channel (kept : state.received ++ state.channel = state.captured) :
    state.received ++ (pull state).1.toList ++ (pull state).2.channel = state.captured := by
  rw [← kept]
  unfold pull
  split
  · simp
  · rename_i msg rest there
    simp [there]

theorem closed_kept (kept : Kept state) : Kept { state with phase := .closed } :=
  ⟨⟨kept.sound.channel, kept.sound.credit, kept.sound.drained, kept.sound.ordered, kept.sound.shapes⟩, fun on => (on rfl).elim,
    fun on => (on rfl).elim, nofun, nofun⟩

-- A change of phase that neither receives nor handles anything.
theorem phase_kept (phase : Phase φ κ) (kept : Kept state) (on : state.phase ≠ .closed)
    (hand : phase.inHand = state.phase.inHand) (latest : phase.latest state.heldFrame = state.phase.latest state.heldFrame)
    (taken : phase.inner = true → state.heldFrame = none) (affordable : ∀ frame, phase = .sendingFrame frame → 0 < state.credit) :
    Kept { state with phase := phase } := by
  have sound := kept.sound
  refine ⟨{ sound with }, fun _ => ?_, fun _ => ?_, taken, affordable⟩
  · have newest := kept.newest on
    rw [State.newest, ← hand, ← latest] at newest
    exact newest
  · have forwarded := kept.forwarded on
    rw [← hand] at forwarded
    exact forwarded

-- The next message comes out of the channel and nothing else is in hand.
theorem pull_kept (held latest : Option φ) (phase : Phase φ κ) (sound : Sound state)
    (newest : Newest state.sent state.frames latest) (all : state.cursors = state.shapes) (hand : phase.inHand = (pull state).1)
    (same : phase.latest held = latest) (taken : phase.inner = true → held = none) (affordable : ∀ frame, phase ≠ .sendingFrame frame) :
    Kept { (pull state).2 with heldFrame := held, phase := phase } := by
  have channel := pull_channel state sound.channel
  have frames : (state.received ++ (pull state).1.toList).filterMap DrmProducerMsg.frame? =
      state.frames ++ ((pull state).1.bind DrmProducerMsg.frame?).toList := by
    rw [List.filterMap_append, State.frames]
    cases (pull state).1 with
    | none => rfl
    | some msg => cases msg <;> rfl
  have shapes : (state.received ++ (pull state).1.toList).filterMap DrmProducerMsg.cursor? =
      state.shapes ++ ((pull state).1.bind DrmProducerMsg.cursor?).toList := by
    rw [List.filterMap_append, State.shapes]
    cases (pull state).1 with
    | none => rfl
    | some msg => cases msg <;> rfl
  have ordered := ordered_received state.sent state.frames ((pull state).1.bind DrmProducerMsg.frame?).toList sound.ordered
  have later := newest_received state.sent state.frames latest ((pull state).1.bind DrmProducerMsg.frame?) newest
  rw [pull_received]
  refine ⟨⟨channel, sound.credit, sound.drained, ?_, ?_⟩, fun _ => ?_, fun _ => ?_, taken, fun frame sending => (affordable frame sending).elim⟩
  · rw [State.frames, frames]
    exact ordered
  · rw [State.shapes, shapes]
    exact ⟨_, by rw [all]⟩
  · rw [State.frames, frames, State.newest, hand, same]
    exact later
  · rw [State.shapes, shapes, hand, all]

theorem pull_held : (pull state).2.heldFrame = state.heldFrame := by rw [pull_received]

-- With nothing in hand, all cursors received have been sent.
theorem all_forwarded (kept : Kept state) (on : state.phase ≠ .closed) (empty : state.phase.inHand.bind DrmProducerMsg.cursor? = none) :
    state.cursors = state.shapes := by
  have forwarded := kept.forwarded on
  rwa [empty, Option.toList_none, List.append_nil] at forwarded

theorem again_kept (latest : Option φ) (sound : Sound state) (newest : Newest state.sent state.frames latest)
    (all : state.cursors = state.shapes) (taken : state.heldFrame = none) : Kept (again state latest) :=
  pull_kept state (pull state).2.heldFrame latest (.forwarding latest (pull state).1) sound newest all rfl rfl
    (fun _ => (pull_held state).trans taken) nofun

theorem enter_kept (first : Option (DrmProducerMsg φ κ)) (kept : Kept state)
    (here : state.phase = .checking first ∨ state.phase = .announcing first) : Kept (enter state first) := by
  have on : state.phase ≠ .closed := by
    rcases here with is | is <;> rw [is] <;> nofun
  have hand : state.phase.inHand = first := by
    rcases here with is | is <;> rw [is] <;> rfl
  have outer : state.phase.latest state.heldFrame = state.heldFrame := by
    rcases here with is | is <;> rw [is] <;> rfl
  have newest := kept.newest on
  rw [State.newest, hand, outer] at newest
  cases first with
  | none =>
      have all := all_forwarded state kept on (by rw [hand]; rfl)
      exact pull_kept state none state.heldFrame (.forwarding state.heldFrame (pull state).1) kept.sound newest all rfl rfl (fun _ => rfl) nofun
  | some msg =>
      have forwarded := kept.forwarded on
      rw [hand] at forwarded
      have sound := kept.sound
      exact ⟨{ sound with }, fun _ => newest, fun _ => forwarded, fun _ => rfl, nofun⟩

theorem drain_kept (n : Nat) (kept : Kept state) (there : n ≤ state.acked - state.drained) : Kept (drain state n) := by
  have sound := kept.sound
  have credit := sound.credit
  have drained := sound.drained
  have bound : (0 : Int) < drmFrameCredit := by decide
  refine ⟨{ sound with credit := ⟨?_, ?_⟩, drained := ?_ }, kept.newest, kept.forwarded, kept.taken, ?_⟩
  · change 0 ≤ min _ _
    omega
  · exact Int.min_le_right _ _
  · change state.drained + n ≤ state.acked
    omega
  · intro frame sending
    have positive := kept.affordable frame sending
    change 0 < min _ _
    omega

theorem decide_frame_kept (latest : Option φ) (kept : Kept state) (reads : Nat) (here : state.phase = .settling latest reads) :
    Kept (decideFrame state latest) := by
  have on : state.phase ≠ .closed := by
    rw [here]
    nofun
  have newest := kept.newest on
  have forwarded := kept.forwarded on
  have free := kept.taken (by rw [here]; rfl)
  have sound := kept.sound
  rw [State.newest, here] at newest
  rw [here] at forwarded
  unfold decideFrame
  split
  · exact ⟨{ sound with }, fun _ => newest, fun _ => forwarded, nofun, nofun⟩
  · rename_i positive
    refine phase_kept state _ kept on ?_ ?_ (fun _ => free) (fun _ _ => by omega)
    · rw [here]
      cases latest <;> rfl
    · rw [here]
      cases latest with
      | none => exact free
      | some frame => rfl

end

end

end GotechDesk.Drm.FrameLoop
