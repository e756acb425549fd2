import GotechDesk.Drm.RefreshTurns
import GotechDesk.Fairness

set_option autoImplicit false

namespace GotechDesk.Drm.DisplayCache

variable {δ : Type}

-- Between the start of its enumeration and its write of the cache.
def Refresh.enumerates : Refresh δ → Bool
  | .enumerating | .writing _ => true
  | _ => false

-- The worker thread runs; before that the call has only asked for it.
def Refresh.works : Refresh δ → Bool
  | .announced | .spawning | .done => false
  | _ => true

-- What no step breaks: RUNNING and the generation follow the refreshes, and a pending
-- request has a call or a worker left to see it.
structure Flight (state : State δ) : Prop where
  kept : Kept state
  seen : state.pending = true → ∃ (index : Nat) (refresh : Refresh δ), state.refreshes[index]? = some refresh ∧ refresh ≠ .done

section
variable (state next : State δ)

theorem holder_exists (flow : Flow state) (running : state.running = true) :
    ∃ (index : Nat) (refresh : Refresh δ), state.refreshes[index]? = some refresh ∧ refresh.holds = true := by
  have flag := flow.flag
  rw [running] at flag
  obtain ⟨refresh, member, holds⟩ := List.countP_pos_iff.mp (show 0 < state.refreshes.countP Refresh.holds by rw [flag]; decide)
  obtain ⟨index, found⟩ := List.mem_iff_getElem?.mp member
  exact ⟨index, refresh, found, holds⟩

theorem holder_runs (flow : Flow state) (index : Nat) (refresh : Refresh δ) (found : state.refreshes[index]? = some refresh)
    (holds : refresh.holds = true) : state.running = true := by
  have positive : 0 < state.refreshes.countP Refresh.holds := List.countP_pos_iff.mpr ⟨refresh, List.mem_of_getElem? found, holds⟩
  rw [flow.flag] at positive
  cases flag : state.running with
  | true => rfl
  | false =>
      rw [flag] at positive
      exact absurd positive (Nat.lt_irrefl 0)

-- There is one RUNNING to hold.
theorem one_holder (flow : Flow state) (index other : Nat) (refresh another : Refresh δ) (found : state.refreshes[index]? = some refresh)
    (there : state.refreshes[other]? = some another) (holds : refresh.holds = true) (holding : another.holds = true) : index = other := by
  by_contra apart
  have counted := set_counted state Refresh.holds index refresh .done found
  have still : (state.refreshes.set index .done)[other]? = some another := by rw [List.getElem?_set_ne apart, there]
  have more : 0 < (state.refreshes.set index .done).countP Refresh.holds := List.countP_pos_iff.mpr ⟨another, List.mem_of_getElem? still, holding⟩
  have flag := flow.flag
  have few := Bool.toNat_le state.running
  rw [if_pos holds, if_neg (show ¬ (Refresh.done : Refresh δ).holds = true from Bool.false_ne_true)] at counted
  omega

theorem turn_seen (index : Nat) (old : Refresh δ) (flow : Flow state) (found : state.refreshes[index]? = some old)
    (turn : Turn state index old next) (pending : next.pending = true) :
    ∃ (index : Nat) (refresh : Refresh δ), next.refreshes[index]? = some refresh ∧ refresh ≠ .done := by
  have inside : index < state.refreshes.length := (List.getElem?_eq_some_iff.mp found).1
  have here : ∀ new : Refresh δ, (state.refreshes.set index new)[index]? = some new := fun new => List.getElem?_set_self inside
  -- A refresh that gives up before its own turn leaves RUNNING to another.
  have left : state.running = true → old.holds = false →
      ∃ (other : Nat) (refresh : Refresh δ), (state.refreshes.set index .done)[other]? = some refresh ∧ refresh ≠ .done := by
    intro running free
    obtain ⟨other, refresh, there, holds⟩ := holder_exists state flow running
    have apart : index ≠ other := by
      rintro rfl
      cases found.symm.trans there
      rw [free] at holds
      cases holds
    refine ⟨other, refresh, by rw [List.getElem?_set_ne apart, there], ?_⟩
    rintro rfl
    cases holds
  cases turn with
  | refused running => exact left running rfl
  | overtaken running => exact left running rfl
  | cleared => cases pending
  | finished unset =>
      have set : state.pending = true := pending
      rw [unset] at set
      cases set
  | taken | spawned | enumerated | same | changed | bumped | again | idle | released | late | retaken => exact ⟨index, _, here _, nofun⟩

theorem spawned_step_flight [DecidableEq δ] (crtcId : δ → Nat) (label : Label δ) (flight : Flight state)
    (stepped : spawnedStep crtcId state label = some next) : Flight next := by
  have taken := (Option.ite_none_left_eq_some.mp stepped).2
  refine ⟨step_kept state next crtcId label flight.kept taken, fun pending => ?_⟩
  cases spawned_step_moves crtcId state next label stepped with
  | turn index answer old found turn => exact turn_seen state next index old flight.kept.flow found turn pending
  | schedule is =>
      rw [is]
      exact ⟨state.refreshes.length, .announced, List.getElem?_concat_length, nofun⟩
  | aside label others schedules aside =>
      rw [aside.refreshes]
      rw [aside.pending] at pending
      exact flight.seen pending

end

theorem start_flight (topology : List δ) : Flight (start topology) := ⟨start_kept topology, fun pending => by cases pending⟩

-- An endless history of the host in which every spawn succeeds; `none` stands for a
-- moment in which nothing of this happens.
structure SpawnedRun [DecidableEq δ] (crtcId : δ → Nat) where
  states : Nat → State δ
  labels : Nat → Option (Label δ)
  starts : ∃ topology, states 0 = start topology
  rests : ∀ time, labels time = none → states (time + 1) = states time
  steps : ∀ time label, labels time = some label → spawnedStep crtcId (states time) label = some (states (time + 1))

def active (index : Nat) (state : State δ) : Prop :=
  ∃ refresh : Refresh δ, state.refreshes[index]? = some refresh ∧ refresh ≠ .done

section
variable [DecidableEq δ] {crtcId : δ → Nat} (run : SpawnedRun crtcId)

def SpawnedRun.takes (index time : Nat) : Prop := ∃ answer, run.labels time = some (.refresh index answer)

-- No call and no worker is left standing for ever, an enumeration included.
def SpawnedRun.Fair : Prop := Fairness.Fair run.states active run.takes

def SpawnedRun.cacheChanges : Nat → Nat
  | 0 => 0
  | time + 1 => SpawnedRun.cacheChanges time + (if (run.states (time + 1)).cache = (run.states time).cache then 0 else 1)

theorem run_flight (time : Nat) : Flight (run.states time) := by
  induction time with
  | zero =>
      obtain ⟨topology, is⟩ := run.starts
      rw [is]
      exact start_flight topology
  | succ time ih =>
      cases given : run.labels time with
      | none => rwa [run.rests time given]
      | some label => exact spawned_step_flight _ _ crtcId label ih (run.steps time label given)

end

end GotechDesk.Drm.DisplayCache
