import GotechDesk.Drm.RefreshProgress

set_option autoImplicit false

namespace GotechDesk.Drm.DisplayCache

variable {δ : Type}

-- A cache write is told from a comparison that finds no change by the cache alone.
theorem turn_written [DecidableEq δ] (state next : State δ) (index : Nat) (old : Refresh δ) (turn : Turn state index old next) :
    next.written = state.written + (if next.cache = state.cache then 0 else 1) := by
  cases turn with
  | changed fresh differs =>
      change state.written + 1 = state.written + (if fresh = state.cache then 0 else 1)
      rw [if_neg (fun same => differs same.symm)]
  | refused | taken | spawned | cleared | enumerated | same | bumped | again | idle | released | late | finished | overtaken | retaken =>
      exact (if_pos rfl) ▸ rfl

theorem turn_refreshes (state next : State δ) (index : Nat) (old : Refresh δ) (turn : Turn state index old next) :
    ∃ new, next.refreshes = state.refreshes.set index new := by
  cases turn <;> exact ⟨_, rfl⟩

section
variable [DecidableEq δ] {crtcId : δ → Nat} (run : SpawnedRun crtcId) (time : Nat)

-- What a moment of a run brings: nothing to the refreshes, a request, or one turn.
inductive SpawnedRun.Brings : Prop where
  | rests : Aside (run.states time) (run.states (time + 1)) → (∀ index, ¬ run.takes index time) → SpawnedRun.Brings
  | schedule : run.states (time + 1) = scheduleDrmCacheRefresh (run.states time) → (∀ index, ¬ run.takes index time) → SpawnedRun.Brings
  | turn (mover : Nat) (old : Refresh δ) : run.takes mover time → (∀ index, run.takes index time → index = mover) →
      (run.states time).refreshes[mover]? = some old → Turn (run.states time) mover old (run.states (time + 1)) → SpawnedRun.Brings

theorem run_brings : run.Brings time := by
  cases given : run.labels time with
  | none =>
      refine .rests ?_ ?_
      · rw [run.rests time given]
        exact ⟨rfl, rfl, rfl, rfl, rfl, rfl⟩
      · rintro index ⟨answer, takes⟩
        cases given.symm.trans takes
  | some label =>
      cases spawned_step_moves crtcId _ _ label (run.steps time label given) with
      | turn index answer old found turn =>
          refine .turn index old ⟨answer, given⟩ ?_ found turn
          rintro other ⟨another, takes⟩
          cases given.symm.trans takes
          rfl
      | schedule is =>
          refine .schedule is ?_
          rintro index ⟨answer, takes⟩
          cases given.symm.trans takes
      | aside _ others schedules aside =>
          refine .rests aside ?_
          rintro index ⟨answer, takes⟩
          cases given.symm.trans takes
          exact others index answer rfl

theorem taken_turn (index : Nat) (takes : run.takes index time) :
    ∃ old, (run.states time).refreshes[index]? = some old ∧ Turn (run.states time) index old (run.states (time + 1)) := by
  cases run_brings run time with
  | rests _ nobody => exact (nobody index takes).elim
  | schedule _ nobody => exact (nobody index takes).elim
  | turn mover old _ sole found turn =>
      obtain rfl := sole index takes
      exact ⟨old, found, turn⟩

theorem place_kept (index : Nat) (refresh : Refresh δ) (place : (run.states time).refreshes[index]? = some refresh)
    (others : ¬ run.takes index time) : (run.states (time + 1)).refreshes[index]? = some refresh := by
  cases run_brings run time with
  | rests aside _ => rw [aside.refreshes, place]
  | schedule is _ =>
      rw [is]
      exact (List.getElem?_append_left (List.getElem?_eq_some_iff.mp place).1).trans place
  | turn mover old takes _ found turn =>
      obtain ⟨new, refreshes⟩ := turn_refreshes _ _ mover old turn
      have apart : mover ≠ index := by
        rintro rfl
        exact others takes
      rw [refreshes, List.getElem?_set_ne apart, place]

theorem written_counted : run.cacheChanges time = (run.states time).written := by
  induction time with
  | zero =>
      obtain ⟨topology, is⟩ := run.starts
      rw [is]
      rfl
  | succ time ih =>
      rw [SpawnedRun.cacheChanges, ih]
      cases run_brings run time with
      | rests aside _ => rw [aside.cache, aside.written, if_pos rfl, Nat.add_zero]
      | schedule is _ =>
          rw [is]
          exact (if_pos rfl) ▸ rfl
      | turn mover old _ _ _ turn => exact (turn_written _ _ mover old turn).symm

-- A pending request: the enumeration that answers it begins when PENDING is cleared.
def SpawnedRun.begins (index : Nat) : Prop := run.takes index time ∧ (run.states time).refreshes[index]? = some .clearing

theorem awaits_progress : Fairness.Progress run.states active run.takes Awaits (fun time => ∃ index, run.begins time index) := by
  refine ⟨?_, ?_, ?_⟩
  · intro rank index state awaits
    obtain ⟨refresh, place, on, _⟩ := awaits.place
    exact ⟨refresh, place, on⟩
  · intro rank index time awaits takes
    obtain ⟨old, found, turn⟩ := taken_turn run time index takes
    by_cases clearing : old = .clearing
    · subst clearing
      exact .inl ⟨index, takes, found⟩
    · refine .inr ((awaits_turn _ _ rank index index old (run_flight run time) (run_flight run (time + 1)) awaits found turn clearing).resolve_left ?_)
      exact fun apart => apart.1 rfl
  · intro rank index time awaits others
    cases run_brings run time with
    | rests aside _ =>
        refine .inl (awaits_kept _ _ rank index awaits (by rw [aside.pending, awaits.pending]) aside.running ?_ ?_)
        · exact fun refresh place => by rw [aside.refreshes, place]
        · exact fun place done => by rw [aside.refreshes, done]
    | schedule is _ =>
        rw [is]
        refine .inl (awaits_kept _ _ rank index awaits rfl rfl ?_ ?_)
        · exact fun refresh place => (List.getElem?_append_left (List.getElem?_eq_some_iff.mp place).1).trans place
        · exact fun place done => (List.getElem?_append_left (List.getElem?_eq_some_iff.mp done).1).trans done
    | turn mover old moved sole found turn =>
        by_cases clearing : old = .clearing
        · subst clearing
          exact .inr (.inl ⟨mover, moved, found⟩)
        · rcases awaits_turn _ _ rank index mover old (run_flight run time) (run_flight run (time + 1)) awaits found turn clearing with ⟨_, kept⟩ | closer
          · exact .inl kept
          · exact .inr (.inr closer)

-- Nobody but the refresh itself moves it from one stage to the next.
def Staged (index : Nat) (stage : Nat → Refresh δ → Prop) (rank party : Nat) (state : State δ) : Prop :=
  party = index ∧ ∃ refresh : Refresh δ, state.refreshes[index]? = some refresh ∧ stage rank refresh

theorem staged_progress (index : Nat) (stage : Nat → Refresh δ → Prop) (goal : Nat → Prop) (on : ∀ rank, ¬ stage rank .done)
    (moved : ∀ rank time old, stage rank old → run.takes index time → (run.states time).refreshes[index]? = some old →
      Turn (run.states time) index old (run.states (time + 1)) →
      goal time ∨ ∃ new lower, lower < rank ∧ stage lower new ∧ (run.states (time + 1)).refreshes[index]? = some new) :
    Fairness.Progress run.states active run.takes (Staged index stage) goal := by
  refine ⟨?_, ?_, ?_⟩
  · rintro rank party state ⟨rfl, refresh, place, staged⟩
    refine ⟨refresh, place, ?_⟩
    rintro rfl
    exact on rank staged
  · rintro rank party time ⟨rfl, refresh, place, staged⟩ takes
    obtain ⟨old, found, turn⟩ := taken_turn run time party takes
    cases found.symm.trans place
    rcases moved rank time refresh staged takes found turn with reached | ⟨new, lower, less, next, there⟩
    · exact .inl reached
    · exact .inr ⟨lower, party, less, rfl, new, there, next⟩
  · rintro rank party time ⟨rfl, refresh, place, staged⟩ others
    exact .inl ⟨rfl, refresh, place_kept run time party refresh place others, staged⟩

-- The stages from the start of an enumeration to the comparison of its result.
inductive Enumerating : Nat → Refresh δ → Prop where
  | enumerating : Enumerating 2 .enumerating
  | writing (fresh : List δ) : Enumerating 1 (.writing fresh)

-- The enumeration begun at one time is compared with the cache at the other, which holds
-- its result from then on.
structure SpawnedRun.Compares (index begun compared : Nat) : Prop where
  begins : run.begins begun index
  after : begun < compared
  meanwhile : ∀ between, begun < between → between ≤ compared →
    ∃ refresh : Refresh δ, (run.states between).refreshes[index]? = some refresh ∧ refresh.enumerates = true
  takes : run.takes index compared
  result : ∃ fresh, (run.states compared).refreshes[index]? = some (.writing fresh) ∧ (run.states (compared + 1)).cache = fresh

theorem begun_enumerates (index : Nat) (begins : run.begins time index) :
    (run.states (time + 1)).refreshes[index]? = some .enumerating := by
  obtain ⟨takes, place⟩ := begins
  obtain ⟨old, found, turn⟩ := taken_turn run time index takes
  cases found.symm.trans place
  generalize run.states (time + 1) = next at turn
  cases turn
  exact List.getElem?_set_self (List.getElem?_eq_some_iff.mp found).1

theorem written_compared (index : Nat) (fresh : List δ) (takes : run.takes index time)
    (place : (run.states time).refreshes[index]? = some (.writing fresh)) : (run.states (time + 1)).cache = fresh := by
  obtain ⟨old, found, turn⟩ := taken_turn run time index takes
  cases found.symm.trans place
  generalize run.states (time + 1) = next at turn
  cases turn with
  | same _ same => exact same
  | changed => rfl

theorem begun_compares (fair : run.Fair) (index : Nat) (begins : run.begins time index) : ∃ compared, run.Compares index time compared := by
  have progress := staged_progress run index Enumerating
    (fun later => run.takes index later ∧ ∃ fresh, (run.states later).refreshes[index]? = some (.writing fresh)) nofun ?_
  · obtain ⟨compared, after, ⟨takes, fresh, place⟩, meanwhile⟩ := Fairness.leads_to fair progress 2 index (time + 1)
      ⟨rfl, .enumerating, begun_enumerates run time index begins, .enumerating⟩
    refine ⟨compared, begins, after, ?_, takes, fresh, place, written_compared run compared index fresh takes place⟩
    intro between since upTo
    obtain ⟨_, _, _, refresh, there, stage⟩ := meanwhile between since upTo
    refine ⟨refresh, there, ?_⟩
    cases stage <;> rfl
  · intro rank later old stage takes found turn
    have here : ∀ new : Refresh δ, ((run.states later).refreshes.set index new)[index]? = some new :=
      fun new => List.getElem?_set_self (List.getElem?_eq_some_iff.mp found).1
    cases stage with
    | writing fresh => exact .inl ⟨takes, fresh, found⟩
    | enumerating =>
        generalize run.states (later + 1) = next at turn
        cases turn with
        | enumerated list => exact .inr ⟨.writing list, 1, by decide, .writing list, here _⟩

theorem request_begins (fair : run.Fair) (requested : run.labels time = some .schedule) : ∃ index begun, time < begun ∧ run.begins begun index := by
  have pending : (run.states (time + 1)).pending = true := by
    have taken := (Option.ite_none_left_eq_some.mp (run.steps time .schedule requested)).2
    rw [← Option.some.inj taken]
    rfl
  obtain ⟨rank, index, awaits, _⟩ := awaits_exists _ (run_flight run (time + 1)) pending
  obtain ⟨begun, after, ⟨first, begins⟩, _⟩ := Fairness.leads_to fair (awaits_progress run) rank index (time + 1) awaits
  exact ⟨first, begun, after, begins⟩

theorem change_bumping (changed : (run.states (time + 1)).cache ≠ (run.states time).cache) :
    ∃ index : Nat, (run.states (time + 1)).refreshes[index]? = some .bumping ∧ (run.states (time + 1)).generation = (run.states time).generation := by
  cases run_brings run time with
  | rests aside _ => exact (changed aside.cache).elim
  | schedule is _ =>
      rw [is] at changed
      exact (changed rfl).elim
  | turn mover old _ _ found turn =>
      generalize run.states (time + 1) = next at turn changed ⊢
      cases turn with
      | changed fresh _ => exact ⟨mover, List.getElem?_set_self (List.getElem?_eq_some_iff.mp found).1, rfl⟩
      | refused | taken | spawned | cleared | enumerated | same | bumped | again | idle | released | late | finished | overtaken | retaken =>
          exact (changed rfl).elim

-- While one worker has written the cache and not yet bumped, the others touch neither.
theorem bumping_still (index : Nat) (bumping : (run.states time).refreshes[index]? = some .bumping) (others : ¬ run.takes index time) :
    (run.states (time + 1)).cache = (run.states time).cache ∧ (run.states (time + 1)).generation = (run.states time).generation := by
  cases run_brings run time with
  | rests aside _ => exact ⟨aside.cache, aside.generation⟩
  | schedule is _ =>
      rw [is]
      exact ⟨rfl, rfl⟩
  | turn mover old takes _ found turn =>
      have free : ¬ old.holds = true := by
        intro holds
        obtain rfl := one_holder _ (run_flight run time).kept.flow mover index old .bumping found bumping holds rfl
        exact others takes
      generalize run.states (time + 1) = next at turn
      cases turn with
      | changed | bumped => exact (free rfl).elim
      | refused | taken | spawned | cleared | enumerated | same | again | idle | released | late | finished | overtaken | retaken => exact ⟨rfl, rfl⟩

theorem bumping_bumps (index : Nat) (bumping : (run.states time).refreshes[index]? = some .bumping) (takes : run.takes index time) :
    (run.states (time + 1)).generation = (run.states time).generation + 1 ∧ (run.states (time + 1)).refreshes[index]? = some .checking := by
  obtain ⟨old, found, turn⟩ := taken_turn run time index takes
  cases found.symm.trans bumping
  generalize run.states (time + 1) = next at turn
  cases turn
  exact ⟨rfl, List.getElem?_set_self (List.getElem?_eq_some_iff.mp found).1⟩

inductive Bumping : Nat → Refresh δ → Prop where
  | bumping : Bumping 1 .bumping

-- The bump that belongs to the cache change at `time`, before any other change or bump.
structure SpawnedRun.Bumps (bumped : Nat) : Prop where
  after : time < bumped
  meanwhile : ∀ between, time < between → between ≤ bumped →
    (run.states between).cache = (run.states (time + 1)).cache ∧ (run.states between).generation = (run.states time).generation
  bumps : (run.states (bumped + 1)).generation = (run.states time).generation + 1

theorem change_bumped (fair : run.Fair) (changed : (run.states (time + 1)).cache ≠ (run.states time).cache) : ∃ bumped, run.Bumps time bumped := by
  obtain ⟨index, written, same⟩ := change_bumping run time changed
  have progress := staged_progress run index Bumping
    (fun later => run.takes index later ∧ (run.states later).refreshes[index]? = some .bumping) nofun ?_
  · obtain ⟨bumped, after, ⟨takes, place⟩, meanwhile⟩ := Fairness.leads_to fair progress 1 index (time + 1) ⟨rfl, .bumping, written, .bumping⟩
    have waits : ∀ between, time < between → between ≤ bumped → (run.states between).refreshes[index]? = some .bumping := by
      intro between since upTo
      obtain ⟨_, _, _, refresh, there, stage⟩ := meanwhile between since upTo
      cases stage
      exact there
    have still : ∀ between, time < between → between ≤ bumped →
        (run.states between).cache = (run.states (time + 1)).cache ∧ (run.states between).generation = (run.states time).generation := by
      intro between since
      induction between, since using Nat.le_induction with
      | base => exact fun _ => ⟨rfl, same⟩
      | succ between since ih =>
          intro upTo
          obtain ⟨cache, generation⟩ := ih (Nat.le_of_lt upTo)
          have here := waits between since (Nat.le_of_lt upTo)
          have idle : ¬ run.takes index between := by
            intro early
            have moved := (bumping_bumps run between index here early).2
            cases moved.symm.trans (waits (between + 1) (by omega) upTo)
          obtain ⟨sameCache, sameGeneration⟩ := bumping_still run between index here idle
          exact ⟨sameCache.trans cache, sameGeneration.trans generation⟩
    refine ⟨bumped, after, still, ?_⟩
    rw [(bumping_bumps run bumped index place takes).1, (still bumped after (Nat.le_refl _)).2]
  · intro rank later old stage takes found turn
    cases stage
    exact .inl ⟨takes, found⟩

theorem enumerates_holds (refresh : Refresh δ) (enumerates : refresh.enumerates = true) : refresh.holds = true := by
  cases refresh with
  | enumerating | writing => rfl
  | announced | spawning | clearing | bumping | checking | releasing | rechecking | retaking | done => cases enumerates

theorem few_bumping (state : State δ) (flow : Flow state) : state.refreshes.countP Refresh.isBumping ≤ 1 := by
  have fewer : state.refreshes.countP Refresh.isBumping ≤ state.refreshes.countP Refresh.holds := by
    apply List.countP_mono_left
    intro refresh _ bumping
    cases refresh with
    | bumping => rfl
    | announced | spawning | clearing | enumerating | writing | checking | releasing | rechecking | retaking | done => cases bumping
  have few := Bool.toNat_le state.running
  have flag := flow.flag
  omega

theorem all_done_free (state : State δ) (flight : Flight state) (done : ∀ refresh ∈ state.refreshes, refresh = .done) :
    state.pending = false ∧ state.running = false := by
  constructor
  · refine Bool.eq_false_iff.mpr (fun pending => ?_)
    obtain ⟨index, refresh, found, on⟩ := flight.seen pending
    exact on (done refresh (List.mem_of_getElem? found))
  · refine Bool.eq_false_iff.mpr (fun running => ?_)
    obtain ⟨index, refresh, found, holds⟩ := holder_exists state flight.kept.flow running
    obtain rfl := done refresh (List.mem_of_getElem? found)
    cases holds

theorem cache_refresh_single_flight :
    (∀ (time index other : Nat) (refresh another : Refresh δ), (run.states time).refreshes[index]? = some refresh →
      (run.states time).refreshes[other]? = some another → refresh.enumerates = true → another.enumerates = true → index = other) ∧
    (∀ time, (∀ refresh ∈ (run.states time).refreshes, refresh = .done) → (run.states time).pending = false ∧ (run.states time).running = false) ∧
    (∀ time, (run.states time).generation + (run.states time).refreshes.countP Refresh.isBumping = run.cacheChanges time ∧
      (run.states time).refreshes.countP Refresh.isBumping ≤ 1) ∧
    (run.Fair → (∀ time, run.labels time = some .schedule → ∃ index begun compared, time < begun ∧ run.Compares index begun compared) ∧
      ∀ time, (run.states (time + 1)).cache ≠ (run.states time).cache → ∃ bumped, run.Bumps time bumped) := by
  refine ⟨?_, ?_, ?_, fun fair => ⟨?_, ?_⟩⟩
  · intro time index other refresh another found there enumerates enumerating
    exact one_holder _ (run_flight run time).kept.flow index other refresh another found there (enumerates_holds refresh enumerates)
      (enumerates_holds another enumerating)
  · exact fun time done => all_done_free _ (run_flight run time) done
  · intro time
    have flow := (run_flight run time).kept.flow
    exact ⟨flow.counted.trans (written_counted run time).symm, few_bumping _ flow⟩
  · intro time requested
    obtain ⟨index, begun, after, begins⟩ := request_begins run time fair requested
    obtain ⟨compared, compares⟩ := begun_compares run begun fair index begins
    exact ⟨index, begun, compared, after, compares⟩
  · exact fun time changed => change_bumped run time fair changed

end

section
variable [DecidableEq δ] (crtcId : δ → Nat) (topology : List δ) (labels : List (Label δ))

theorem taken_runs (runs : (Machine.run (spawnedStep crtcId) (start topology) labels).isSome = true) (time : Nat) :
    (Machine.run (spawnedStep crtcId) (start topology) (labels.take time)).isSome = true := by
  rw [← List.take_append_drop time labels, Machine.run_append] at runs
  exact Option.isSome_of_isSome_bind runs

def finiteState (time : Nat) : State δ :=
  (Machine.run (spawnedStep crtcId) (start topology) (labels.take time)).getD (start topology)

-- A finite history after which nothing happens.
def finiteRun (runs : (Machine.run (spawnedStep crtcId) (start topology) labels).isSome = true) : SpawnedRun crtcId where
  states := finiteState crtcId topology labels
  labels := fun time => labels[time]?
  starts := ⟨topology, by simp [finiteState, Machine.run]⟩
  rests := by
    intro time ended
    have past : labels.length ≤ time := List.getElem?_eq_none_iff.mp ended
    rw [finiteState, finiteState, List.take_of_length_le past, List.take_of_length_le (Nat.le_succ_of_le past)]
  steps := by
    intro time label given
    have further : labels.take (time + 1) = labels.take time ++ [label] := by
      rw [List.take_add_one, given]
      rfl
    have reached := taken_runs crtcId topology labels runs (time + 1)
    obtain ⟨state, ran⟩ := Option.isSome_iff_exists.mp (taken_runs crtcId topology labels runs time)
    rw [further, Machine.run_append, ran, Option.bind_some] at reached
    rw [finiteState, finiteState, further, Machine.run_append, ran, Option.bind_some, Option.getD_some]
    cases taken : spawnedStep crtcId state label with
    | none => simp [Machine.run, taken] at reached
    | some next => simp [Machine.run, taken]

theorem finite_fair (runs : (Machine.run (spawnedStep crtcId) (start topology) labels).isSome = true)
    (done : ∀ refresh ∈ (finiteState crtcId topology labels labels.length).refreshes, refresh = .done) :
    (finiteRun crtcId topology labels runs).Fair := by
  intro index time standing
  have last := standing (max time labels.length) (Nat.le_max_left _ _)
  obtain ⟨refresh, place, on⟩ := last
  have same : finiteState crtcId topology labels (max time labels.length) = finiteState crtcId topology labels labels.length := by
    rw [finiteState, finiteState, List.take_of_length_le (Nat.le_max_right _ _), List.take_length]
  change (finiteState crtcId topology labels (max time labels.length)).refreshes[index]? = some refresh at place
  rw [same] at place
  exact (on (done refresh (List.mem_of_getElem? place))).elim

end

theorem one_request_runs : (Machine.run (spawnedStep id) (start [1]) (refreshed 0 [1] true)).isSome = true := by decide

theorem one_request_compared : ∃ run : SpawnedRun (id : Nat → Nat), run.labels 0 = some .schedule ∧
    ∃ index begun compared, 0 < begun ∧ run.Compares index begun compared := by
  have fair := finite_fair id [1] (refreshed 0 [1] true) one_request_runs (by decide)
  exact ⟨_, rfl, ((cache_refresh_single_flight (finiteRun id [1] (refreshed 0 [1] true) one_request_runs)).2.2.2 fair).1 0 rfl⟩

theorem announced_runs : (Machine.run (spawnedStep id) (start [1]) [Label.schedule]).isSome = true := by decide

-- A call that has set PENDING and not yet swapped RUNNING: no worker is active.
theorem pending_without_worker : ¬ ∀ (run : SpawnedRun (id : Nat → Nat)) (time : Nat),
    (∀ refresh ∈ (run.states time).refreshes, refresh.works = false) → (run.states time).pending = false ∧ (run.states time).running = false := by
  intro quiet
  have still := (quiet (finiteRun id [1] [Label.schedule] announced_runs) 1 (by decide)).1
  revert still
  decide

end GotechDesk.Drm.DisplayCache
