import GotechDesk.Drm.SingleFlight

set_option autoImplicit false

namespace GotechDesk.Drm.DisplayCache

variable {δ : Type}

-- How far a call or a worker is from clearing PENDING, while a request is pending and
-- nobody is ahead of it.
def Refresh.left : Refresh δ → Nat
  | .clearing => 1
  | .spawning | .checking => 2
  | .bumping => 3
  | .writing _ => 4
  | .enumerating => 5
  | .announced | .retaking => 6
  | .rechecking => 7
  | .releasing => 8
  | .done => 0

-- The one whose step a pending request waits for: who holds RUNNING, else the first that
-- is not done.
structure Awaits (rank index : Nat) (state : State δ) : Prop where
  pending : state.pending = true
  place : ∃ refresh : Refresh δ, state.refreshes[index]? = some refresh ∧ refresh ≠ .done ∧ refresh.left = rank ∧
    (refresh.holds = true ∨ state.running = false ∧ ∀ earlier, earlier < index → state.refreshes[earlier]? = some .done)

section
variable (state next : State δ)

theorem free_left (refresh : Refresh δ) (free : ¬ refresh.holds = true) (on : refresh ≠ .done) : 6 ≤ refresh.left ∧ refresh.left < 8 := by
  cases refresh with
  | announced | rechecking | retaking => exact ⟨by simp [Refresh.left], by simp [Refresh.left]⟩
  | done => exact (on rfl).elim
  | spawning | clearing | enumerating | writing | bumping | checking | releasing => exact (free rfl).elim

theorem awaits_exists (flight : Flight state) (pending : state.pending = true) :
    ∃ rank index, Awaits rank index state ∧ (state.running = false → rank < 8) := by
  cases flag : state.running with
  | true =>
      obtain ⟨index, refresh, found, holds⟩ := holder_exists state flight.kept.flow flag
      refine ⟨refresh.left, index, ⟨pending, refresh, found, ?_, rfl, .inl holds⟩, nofun⟩
      rintro rfl
      cases holds
  | false =>
      classical
      have some := flight.seen pending
      obtain ⟨refresh, found, on⟩ := Nat.find_spec some
      have free : ¬ refresh.holds = true := by
        intro holds
        rw [holder_runs state flight.kept.flow _ refresh found holds] at flag
        cases flag
      refine ⟨refresh.left, Nat.find some, ⟨pending, refresh, found, on, rfl, .inr ⟨flag, ?_⟩⟩, fun _ => (free_left refresh free on).2⟩
      intro earlier before
      have inside : earlier < state.refreshes.length := Nat.lt_trans before (List.getElem?_eq_some_iff.mp found).1
      have there := List.getElem?_eq_getElem inside
      by_contra unfinished
      refine Nat.find_min some before ⟨_, there, fun done => unfinished ?_⟩
      rw [there, done]

theorem holder_awaited (rank index mover : Nat) (old : Refresh δ) (flow : Flow state) (awaits : Awaits rank index state)
    (found : state.refreshes[mover]? = some old) (holds : old.holds = true) : mover = index ∧ old.left = rank := by
  obtain ⟨refresh, place, on, left, who⟩ := awaits.place
  have same : mover = index := by
    rcases who with holding | ⟨free, earlier⟩
    · exact one_holder state flow mover index old refresh found place holds holding
    · rw [holder_runs state flow mover old found holds] at free
      cases free
  subst same
  cases found.symm.trans place
  exact ⟨rfl, left⟩

theorem free_awaited (rank index : Nat) (flow : Flow state) (awaits : Awaits rank index state) (free : state.running = false) : 6 ≤ rank := by
  obtain ⟨refresh, place, on, left, who⟩ := awaits.place
  rw [← left]
  refine (free_left refresh (fun holds => ?_) on).1
  rw [holder_runs state flow index refresh place holds] at free
  cases free

theorem awaits_kept (rank index : Nat) (awaits : Awaits rank index state) (pending : next.pending = true) (running : next.running = state.running)
    (here : ∀ refresh : Refresh δ, state.refreshes[index]? = some refresh → next.refreshes[index]? = some refresh)
    (done : ∀ place : Nat, state.refreshes[place]? = some .done → next.refreshes[place]? = some .done) : Awaits rank index next := by
  obtain ⟨refresh, place, on, left, who⟩ := awaits.place
  refine ⟨pending, refresh, here refresh place, on, left, ?_⟩
  rcases who with holds | ⟨free, earlier⟩
  · exact .inl holds
  · exact .inr ⟨by rw [running, free], fun place before => done place (earlier place before)⟩

-- Another's turn that leaves RUNNING alone: nobody done is moved.
theorem awaits_other (rank index mover : Nat) (old new : Refresh δ) (awaits : Awaits rank index state)
    (found : state.refreshes[mover]? = some old) (on : old ≠ .done) (apart : mover ≠ index) : Awaits rank index (setRefresh state mover new) := by
  refine awaits_kept state _ rank index awaits awaits.pending rfl ?_ ?_
  · intro refresh place
    exact (List.getElem?_set_ne apart).trans place
  · intro place finished
    refine (List.getElem?_set_ne ?_).trans finished
    rintro rfl
    cases found.symm.trans finished
    exact on rfl

-- Short of a clearing, a turn leaves the awaited one where it is or comes closer.
theorem awaits_turn (rank index mover : Nat) (old : Refresh δ) (flight : Flight state) (after : Flight next) (awaits : Awaits rank index state)
    (found : state.refreshes[mover]? = some old) (turn : Turn state mover old next) (uncleared : old ≠ .clearing) :
    (mover ≠ index ∧ Awaits rank index next) ∨ ∃ lower other, lower < rank ∧ Awaits lower other next := by
  have inside := (List.getElem?_eq_some_iff.mp found).1
  have pending := awaits.pending
  have flow := flight.kept.flow
  have here : ∀ new : Refresh δ, (state.refreshes.set mover new)[mover]? = some new := fun new => List.getElem?_set_self inside
  have holding : old.holds = true → ∀ new : Refresh δ, next.refreshes = state.refreshes.set mover new → next.pending = true → new ≠ .done →
      new.holds = true → new.left < old.left → ∃ lower other, lower < rank ∧ Awaits lower other next := by
    intro holds new refreshes wanted on holding less
    have awaited := (holder_awaited state rank index mover old flow awaits found holds).2
    exact ⟨new.left, mover, awaited ▸ less, wanted, new, by rw [refreshes, here], on, rfl, .inl holding⟩
  have taking : state.running = false → ∀ new : Refresh δ, next.refreshes = state.refreshes.set mover new → next.pending = true → new ≠ .done →
      new.holds = true → new.left < 6 → ∃ lower other, lower < rank ∧ Awaits lower other next := by
    intro free new refreshes wanted on holding less
    have far := free_awaited state rank index flow awaits free
    exact ⟨new.left, mover, by omega, wanted, new, by rw [refreshes, here], on, rfl, .inl holding⟩
  have yielding : state.running = true → old ≠ .done → ¬ old.holds = true → mover ≠ index := by
    rintro running on free rfl
    obtain ⟨refresh, place, _, _, who⟩ := awaits.place
    cases found.symm.trans place
    rcases who with holds | ⟨stopped, _⟩
    · exact free holds
    · rw [running] at stopped
      cases stopped
  cases turn with
  | cleared => exact (uncleared rfl).elim
  | spawned => exact .inr (holding rfl .clearing rfl pending nofun rfl (by simp [Refresh.left]))
  | enumerated list => exact .inr (holding rfl (.writing list) rfl pending nofun rfl (by simp [Refresh.left]))
  | same fresh => exact .inr (holding rfl .checking rfl pending nofun rfl (by simp [Refresh.left]))
  | changed fresh => exact .inr (holding rfl .bumping rfl pending nofun rfl (by simp [Refresh.left]))
  | bumped => exact .inr (holding rfl .checking rfl pending nofun rfl (by simp [Refresh.left]))
  | again => exact .inr (holding rfl .clearing rfl pending nofun rfl (by simp [Refresh.left]))
  | taken free => exact .inr (taking free .spawning rfl pending nofun rfl (by simp [Refresh.left]))
  | retaken free => exact .inr (taking free .clearing rfl pending nofun rfl (by simp [Refresh.left]))
  | idle unset =>
      rw [pending] at unset
      cases unset
  | finished unset =>
      rw [pending] at unset
      cases unset
  | released =>
      obtain ⟨lower, other, awaiting, near⟩ := awaits_exists _ after pending
      have awaited := (holder_awaited state rank index mover .releasing flow awaits found rfl).2
      refine .inr ⟨lower, other, ?_, awaiting⟩
      rw [← awaited]
      exact near rfl
  | refused running | overtaken running =>
      have apart := yielding running nofun Bool.false_ne_true
      exact .inl ⟨apart, awaits_other state rank index mover _ .done awaits found nofun apart⟩
  | late =>
      by_cases own : mover = index
      · subst own
        obtain ⟨refresh, place, _, left, who⟩ := awaits.place
        cases found.symm.trans place
        rcases who with holds | ⟨free, earlier⟩
        · cases holds
        · refine .inr ⟨6, mover, ?_, pending, .retaking, here .retaking, nofun, rfl, .inr ⟨free, fun place before => ?_⟩⟩
          · rw [← left]
            simp [Refresh.left]
          · exact (List.getElem?_set_ne (Nat.ne_of_gt before)).trans (earlier place before)
      · exact .inl ⟨own, awaits_other state rank index mover _ .retaking awaits found nofun own⟩

end

end GotechDesk.Drm.DisplayCache
