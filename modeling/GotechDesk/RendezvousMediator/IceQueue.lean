import GotechDesk.RendezvousMediator.IceRoute

set_option autoImplicit false

namespace GotechDesk.RendezvousMediator.IceRoute

section
variable (hash : String → UInt64)

theorem queue_cases (state : State) (candidate : String) : (queue hash state candidate).2 = state ∨
    hash candidate ∉ state.recent ∧ (state.closed = false ∧ state.channel.length < state.capacity) ∧
      (queue hash state candidate).2 = place state candidate (hash candidate) := by
  by_cases known : hash candidate ∈ state.recent
  · rw [queue_repeated hash state candidate known]
    exact .inl rfl
  · by_cases free : state.closed = false ∧ state.channel.length < state.capacity
    · rw [queue_placed hash state candidate known free]
      exact .inr ⟨known, free, rfl⟩
    · rw [queue_refused hash state candidate known free]
      exact .inl rfl

theorem take_taken (state next : State) (taken : step hash state .take = some next) :
    ∃ candidate rest, state.channel = candidate :: rest ∧ next = { state with channel := rest, taken := state.taken ++ [candidate] } := by
  cases here : state.channel with
  | nil => simp [step, here] at taken
  | cons candidate rest =>
      rw [step, here] at taken
      cases taken
      exact ⟨candidate, rest, rfl, rfl⟩

theorem queue_sound (state : State) (candidate : String) (sound : Sound hash state) : Sound hash (queue hash state candidate).2 := by
  obtain same | ⟨known, free, placed⟩ := queue_cases hash state candidate
  · rw [same]
    exact sound
  · rw [placed]
    exact place_sound hash state candidate sound known free

theorem queue_accepted (state : State) (candidate one : String) (member : one ∈ (queue hash state candidate).2.accepted) :
    one ∈ state.accepted ∨ one = candidate := by
  obtain same | ⟨-, -, placed⟩ := queue_cases hash state candidate
  · exact .inl (same ▸ member)
  · rw [placed] at member
    exact (List.mem_append.mp member).imp_right List.mem_singleton.mp

section
variable (state next : State) (label : Label)

theorem step_sound (sound : Sound hash state) (taken : step hash state label = some next) : Sound hash next := by
  cases label with
  | queue candidate =>
      cases taken
      exact queue_sound hash state candidate sound
  | take =>
      obtain ⟨candidate, rest, here, rfl⟩ := take_taken hash state next taken
      have order := sound.order
      have room := sound.room
      rw [here] at order room
      refine ⟨sound.recent, sound.distinct, sound.digests, by simpa using order, ?_, Nat.le_of_succ_le room⟩
      rcases sound.whole with none | ⟨-, empty⟩
      · exact .inl none
      · rw [here] at empty
        cases empty
  | close =>
      cases taken
      exact { sound with whole := sound.whole.imp_right (fun gone => ⟨rfl, gone.2⟩) }
  | drop =>
      cases taken
      refine ⟨sound.recent, sound.distinct, sound.digests, ?_, .inr ⟨rfl, rfl⟩, Nat.zero_le _⟩
      rcases sound.whole with none | ⟨-, empty⟩
      · simpa [none] using sound.order
      · simpa [empty] using sound.order

theorem step_accepted (taken : step hash state label = some next) (one : String) (member : one ∈ next.accepted) :
    one ∈ state.accepted ∨ label = .queue one := by
  cases label with
  | queue candidate =>
      cases taken
      exact (queue_accepted hash state candidate one member).imp_right (fun same => by rw [same])
  | take =>
      obtain ⟨_, _, _, rfl⟩ := take_taken hash state next taken
      exact .inl member
  | close | drop =>
      cases taken
      exact .inl member

-- A window only loses what it holds, except for what a call puts into it.
theorem step_lastAccepted (taken : step hash state label = some next) (one : String)
    (member : one ∈ lastAccepted next) : one ∈ lastAccepted state ∨ label = .queue one := by
  cases label with
  | queue candidate =>
      cases taken
      obtain same | ⟨-, -, placed⟩ := queue_cases hash state candidate
      · exact .inl (same ▸ member)
      · have window : lastAccepted (place state candidate (hash candidate)) = slide iceDedupWindow (lastAccepted state) candidate :=
          rtake_concat iceDedupWindow (by decide) state.accepted candidate
        rw [placed, window] at member
        exact (mem_slide iceDedupWindow _ candidate one member).imp_right (fun same => by rw [same])
  | take =>
      obtain ⟨_, _, _, rfl⟩ := take_taken hash state next taken
      exact .inl member
  | close | drop =>
      cases taken
      exact .inl member

theorem step_closed (taken : step hash state label = some next) (closed : state.closed = true) : next.closed = true := by
  cases label with
  | queue candidate =>
      cases taken
      obtain same | ⟨-, free, -⟩ := queue_cases hash state candidate
      · rw [same]
        exact closed
      · rw [closed] at free
        cases free.1
  | take =>
      obtain ⟨_, _, _, rfl⟩ := take_taken hash state next taken
      exact closed
  | close | drop =>
      cases taken
      rfl

end

-- Nothing but a call with it makes a refused candidate one of the accepted.
theorem run_absent (labels : List Label) (candidate : String) (state final : State) (ran : Machine.run (step hash) state labels = some final)
    (others : .queue candidate ∉ labels) (absent : candidate ∉ lastAccepted state) : candidate ∉ lastAccepted final := by
  apply Machine.run_kept (step hash) (fun state => candidate ∉ lastAccepted state) (fun label => label ≠ .queue candidate) ?_ labels state final
    (fun label member same => others (same ▸ member)) absent ran
  intro state label next absent other taken member
  exact (step_lastAccepted hash state next label taken candidate member).elim absent other

theorem run_closed (labels : List Label) (state final : State) (ran : Machine.run (step hash) state labels = some final) (closed : state.closed = true) :
    final.closed = true :=
  Machine.run_invariant (step hash) (fun state => state.closed = true) (fun state label next closed taken => step_closed hash state next label taken closed) labels
    state final closed ran

theorem new_sound (capacity : Nat) : Sound hash (new capacity) := by
  have nothing : lastAccepted (new capacity) = [] := List.rtake_nil iceDedupWindow
  refine ⟨?_, ?_, List.nodup_nil, rfl, .inl rfl, Nat.zero_le _⟩
  · rw [nothing]
    rfl
  · rw [nothing]
    exact List.nodup_nil

theorem run_sound (capacity : Nat) (labels : List Label) (state : State) (ran : Machine.run (step hash) (new capacity) labels = some state) :
    Sound hash state :=
  Machine.run_invariant (step hash) (Sound hash) (fun state label next sound taken => step_sound hash state next label sound taken) labels (new capacity) state
    (new_sound hash capacity) ran

theorem run_offered (offered : Set String) (capacity : Nat) (labels : List Label) (state : State)
    (ran : Machine.run (step hash) (new capacity) labels = some state) (inside : ∀ candidate, .queue candidate ∈ labels → candidate ∈ offered) :
    ∀ one ∈ state.accepted, one ∈ offered := by
  apply Machine.run_kept (step hash) (fun state => ∀ one ∈ state.accepted, one ∈ offered) (fun label => ∀ candidate, label = .queue candidate → candidate ∈ offered)
    ?_ labels (new capacity) state (fun label member candidate same => inside candidate (same ▸ member)) nofun ran
  intro state label next before fits taken one member
  exact (step_accepted hash state next label taken one member).elim (before one) (fits one)

def lengthDigest (candidate : String) : UInt64 := UInt64.ofNat candidate.length

end

end GotechDesk.RendezvousMediator.IceRoute
