import GotechDesk.Drm.DisplayLists

set_option autoImplicit false

namespace GotechDesk.Drm.DisplayCache

variable {δ : Type}

-- What one turn of a refresh can be, when the spawn of a worker does not fail.
inductive Turn (state : State δ) (index : Nat) : Refresh δ → State δ → Prop where
  | refused : state.running = true → Turn state index .announced (setRefresh state index .done)
  | taken : state.running = false → Turn state index .announced (setRefresh { state with running := true } index .spawning)
  | spawned : Turn state index .spawning (setRefresh state index .clearing)
  | cleared : Turn state index .clearing (setRefresh { state with pending := false } index .enumerating)
  | enumerated (list : List δ) : Turn state index .enumerating (setRefresh state index (.writing list))
  | same (fresh : List δ) : state.cache = fresh → Turn state index (.writing fresh) (setRefresh state index .checking)
  | changed (fresh : List δ) : state.cache ≠ fresh →
      Turn state index (.writing fresh) (setRefresh { state with cache := fresh, written := state.written + 1 } index .bumping)
  | bumped : Turn state index .bumping (setRefresh { state with generation := state.generation + 1 } index .checking)
  | again : state.pending = true → Turn state index .checking (setRefresh state index .clearing)
  | idle : state.pending = false → Turn state index .checking (setRefresh state index .releasing)
  | released : Turn state index .releasing (setRefresh { state with running := false } index .rechecking)
  | late : state.pending = true → Turn state index .rechecking (setRefresh state index .retaking)
  | finished : state.pending = false → Turn state index .rechecking (setRefresh state index .done)
  | overtaken : state.running = true → Turn state index .retaking (setRefresh state index .done)
  | retaken : state.running = false → Turn state index .retaking (setRefresh { state with running := true } index .clearing)

-- Whatever happens beside the refreshes.
structure Aside (state next : State δ) : Prop where
  cache : next.cache = state.cache
  generation : next.generation = state.generation
  written : next.written = state.written
  pending : next.pending = state.pending
  running : next.running = state.running
  refreshes : next.refreshes = state.refreshes

def Refresh.isSpawning : Refresh δ → Bool
  | .spawning => true
  | _ => false

def spawnFails (state : State δ) : Label δ → Bool
  | .refresh index .fail => (state.refreshes[index]?).elim false Refresh.isSpawning
  | _ => false

def spawnedStep [DecidableEq δ] (crtcId : δ → Nat) (state : State δ) (label : Label δ) : Option (State δ) :=
  if spawnFails state label then none else step crtcId state label

-- How a step changes the refreshes, with the fields it is about read off.
inductive Moves (state next : State δ) : Label δ → Prop where
  | turn (index : Nat) (answer : Answer δ) (old : Refresh δ) : state.refreshes[index]? = some old → Turn state index old next →
      Moves state next (.refresh index answer)
  | schedule : next = scheduleDrmCacheRefresh state → Moves state next .schedule
  | aside (label : Label δ) : (∀ index answer, label ≠ .refresh index answer) → label ≠ .schedule → Aside state next →
      Moves state next label

section
variable [DecidableEq δ] (crtcId : δ → Nat) (state next : State δ)

theorem refresh_step_turn (index : Nat) (old : Refresh δ) (answer : Answer δ) (found : state.refreshes[index]? = some old)
    (spawns : spawnFails state (.refresh index answer) = false) (stepped : refreshStep state index old answer = some next) :
    Turn state index old next := by
  unfold refreshStep at stepped
  split at stepped
  case h_1 =>
    obtain rfl := Option.some.inj stepped
    cases flag : state.running with
    | true => exact .refused flag
    | false => exact .taken flag
  case h_2 => exact Option.some.inj stepped ▸ .spawned
  case h_3 =>
    rw [spawnFails, found] at spawns
    cases spawns
  case h_4 => exact Option.some.inj stepped ▸ .cleared
  case h_5 list => exact Option.some.inj stepped ▸ .enumerated list
  case h_6 => exact Option.some.inj stepped ▸ .enumerated []
  case h_7 fresh =>
    obtain rfl := Option.some.inj stepped
    split
    · exact .same fresh ‹_›
    · exact .changed fresh ‹_›
  case h_8 => exact Option.some.inj stepped ▸ .bumped
  case h_9 =>
    obtain rfl := Option.some.inj stepped
    cases flag : state.pending with
    | true => exact .again flag
    | false => exact .idle flag
  case h_10 => exact Option.some.inj stepped ▸ .released
  case h_11 =>
    obtain rfl := Option.some.inj stepped
    cases flag : state.pending with
    | true => exact .late flag
    | false => exact .finished flag
  case h_12 =>
    obtain rfl := Option.some.inj stepped
    cases flag : state.running with
    | true => exact .overtaken flag
    | false => exact .retaken flag
  case h_13 => cases stepped

omit [DecidableEq δ] in
theorem conn_aside (conn : Conn δ) : Aside state { state with conn := conn } := ⟨rfl, rfl, rfl, rfl, rfl, rfl⟩

theorem step_aside (label : Label δ) (refreshes : ∀ index answer, label ≠ .refresh index answer) (schedules : label ≠ .schedule)
    (stepped : step crtcId state label = some next) : Aside state next := by
  unfold step at stepped
  split at stepped
  case h_1 =>
    obtain rfl := Option.some.inj stepped
    exact ⟨rfl, rfl, rfl, rfl, rfl, rfl⟩
  case h_2 => exact (schedules rfl).elim
  case h_3 index answer => exact (refreshes index answer rfl).elim
  case h_9 | h_10 | h_11 | h_12 =>
    split at stepped
    · exact Option.some.inj stepped ▸ conn_aside state _
    · cases stepped
  case h_14 => cases stepped
  all_goals exact Option.some.inj stepped ▸ conn_aside state _

theorem spawned_step_moves (label : Label δ) (stepped : spawnedStep crtcId state label = some next) : Moves state next label := by
  rw [spawnedStep] at stepped
  obtain ⟨spawns, taken⟩ := Option.ite_none_left_eq_some.mp stepped
  rw [Bool.not_eq_true] at spawns
  by_cases refreshes : ∃ index answer, label = .refresh index answer
  · obtain ⟨index, answer, rfl⟩ := refreshes
    obtain ⟨old, found, turned⟩ := Option.bind_eq_some_iff.mp taken
    exact .turn index answer old found (refresh_step_turn state next index old answer found spawns turned)
  · by_cases schedules : label = .schedule
    · subst schedules
      exact .schedule (Option.some.inj taken).symm
    · have others : ∀ index answer, label ≠ .refresh index answer := fun index answer same => refreshes ⟨index, answer, same⟩
      exact .aside label others schedules (step_aside crtcId state next label others schedules taken)

end

end GotechDesk.Drm.DisplayCache
