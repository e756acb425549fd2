import GotechDesk.Drm.Probe

set_option autoImplicit false

namespace GotechDesk.Drm

def Pass.holds : Pass → Bool
  | .taken _ | .spawning _ _ | .ready _ _ | .querying _ _ _ | .releasing => true
  | .asking _ | .warmChecking _ | .warmReady _ | .warmQuerying _ _ | .loginReady _ | .loginQuerying _ _ | .done => false

def Pass.isQuerying : Pass → Bool
  | .querying _ _ _ => true
  | _ => false

-- A generation is sampled before the query begins, and a query begins before now.
def Pass.Sampled (generation : Nat) : Pass → Prop
  | .spawning _ sampled | .ready _ sampled | .loginReady sampled => sampled ≤ generation
  | .querying _ sampled begun | .loginQuerying sampled begun => sampled ≤ begun ∧ begun ≤ generation
  | .warmQuerying _ begun => begun ≤ generation
  | .asking _ | .taken _ | .releasing | .warmChecking _ | .warmReady _ | .done => True

-- The answer two of the paths publish without looking at the generation again, with the
-- number of verdicts there were when its query began.
def unchecked {δ : Type} (failures : Nat) : Pass → Choice δ → Option Nat
  | .querying .availability _ begun, .answer result | .querying .availabilityCached _ begun, .answer result =>
      if result.isSome || failures + 1 ≥ drmProbeMaxFailures then some begun else none
  | .warmQuerying _ begun, .answer (some (_ :: _)) => some begun
  | _, _ => none

theorem sampled_later (pass : Pass) (generation later : Nat) (order : generation ≤ later) (sampled : pass.Sampled generation) :
    pass.Sampled later := by
  cases pass with
  | spawning | ready | loginReady | warmQuerying => exact Nat.le_trans sampled order
  | querying | loginQuerying => exact ⟨sampled.1, Nat.le_trans sampled.2 order⟩
  | asking | taken | releasing | warmChecking | warmReady | done => trivial

variable {δ : Type}

structure Quiet (state next : State δ) : Prop where
  generation : next.generation = state.generation
  verdicts : next.verdicts = state.verdicts

structure Publishes (state next : State δ) (begun : Nat) : Prop where
  generation : next.generation = state.generation + 1
  verdicts : ∃ published, next.verdicts = state.verdicts ++ [{ published := published, begun := begun }]

-- What an answer leaves alone.
structure Frame (state next : State δ) : Prop where
  passes : next.passes = state.passes
  inFlight : next.inFlight = state.inFlight

section
variable (state : State δ)

section
variable (result : Option (List δ))

theorem probe_frame (now begun : Nat) : Frame state (probeAndPublish state result now begun) := by
  unfold probeAndPublish publishProbeState
  split
  · exact ⟨rfl, rfl⟩
  · exact ⟨rfl, rfl⟩
  · split
    · exact ⟨rfl, rfl⟩
    · exact ⟨rfl, rfl⟩

theorem probe_publishes (now begun : Nat) (settled : (result.isSome || decide (state.probeFailures + 1 ≥ drmProbeMaxFailures)) = true) :
    Publishes state (probeAndPublish state result now begun) begun := by
  unfold probeAndPublish
  split
  · exact ⟨rfl, _, rfl⟩
  · exact ⟨rfl, _, rfl⟩
  · have enough : state.probeFailures + 1 ≥ drmProbeMaxFailures := by simpa using settled
    rw [if_pos enough]
    exact ⟨rfl, _, rfl⟩

theorem probe_quiet (now begun : Nat) (unsettled : ¬ (result.isSome || decide (state.probeFailures + 1 ≥ drmProbeMaxFailures)) = true) :
    Quiet state (probeAndPublish state result now begun) := by
  unfold probeAndPublish
  split
  · simp at unsettled
  · simp at unsettled
  · have few : ¬ state.probeFailures + 1 ≥ drmProbeMaxFailures := by simpa using unsettled
    rw [if_neg few]
    exact ⟨rfl, rfl⟩

section
variable (now sampled begun : Nat)

theorem refresh_unavailable_frame : Frame state (refreshUnavailable state result now sampled begun) := by
  unfold refreshUnavailable publishProbeState
  split
  · exact ⟨rfl, rfl⟩
  · split
    · exact ⟨rfl, rfl⟩
    · exact ⟨rfl, rfl⟩

theorem refresh_unavailable_writes : Quiet state (refreshUnavailable state result now sampled begun) ∨
      state.generation = sampled ∧ Publishes state (refreshUnavailable state result now sampled begun) begun := by
  unfold refreshUnavailable
  split
  · exact .inl ⟨rfl, rfl⟩
  · rename_i same
    right
    refine ⟨Decidable.not_not.mp same, ?_⟩
    split
    · exact ⟨rfl, _, rfl⟩
    · exact ⟨rfl, _, rfl⟩

theorem refresh_available_frame : Frame state (refreshAvailable state result now sampled begun) := by
  unfold refreshAvailable publishProbeState
  dsimp only
  split
  · exact ⟨rfl, rfl⟩
  · split
    · exact ⟨rfl, rfl⟩
    · exact ⟨rfl, rfl⟩
    · exact ⟨rfl, rfl⟩
    · exact ⟨rfl, rfl⟩

theorem refresh_available_writes : Quiet state (refreshAvailable state result now sampled begun) ∨
      state.generation = sampled ∧ Publishes state (refreshAvailable state result now sampled begun) begun := by
  unfold refreshAvailable
  dsimp only
  split
  · exact .inl ⟨rfl, rfl⟩
  · rename_i same
    split
    · exact .inr ⟨Decidable.not_not.mp same, rfl, _, rfl⟩
    · exact .inr ⟨Decidable.not_not.mp same, rfl, _, rfl⟩
    · exact .inl ⟨rfl, rfl⟩
    · exact .inr ⟨Decidable.not_not.mp same, rfl, _, rfl⟩

theorem refresh_login_frame : Frame state (refreshForLogin state result now sampled begun) := by
  unfold refreshForLogin publishProbeState
  split
  · split
    · exact ⟨rfl, rfl⟩
    · split
      · exact ⟨rfl, rfl⟩
      · exact ⟨rfl, rfl⟩
  · exact ⟨rfl, rfl⟩

theorem refresh_login_writes : Quiet state (refreshForLogin state result now sampled begun) ∨
      state.generation = sampled ∧ Publishes state (refreshForLogin state result now sampled begun) begun := by
  unfold refreshForLogin
  split
  · split
    · exact .inl ⟨rfl, rfl⟩
    · rename_i same
      split
      · exact .inr ⟨Decidable.not_not.mp same, rfl, _, rfl⟩
      · exact .inl ⟨rfl, rfl⟩
  · exact .inl ⟨rfl, rfl⟩

end

end

theorem answered_frame (path : Path) (result : Option (List δ)) (now sampled begun : Nat) :
    Frame state (answered state path result now sampled begun) := by
  cases path with
  | availability | availabilityCached => exact probe_frame state result now begun
  | refreshUnavailable => exact refresh_unavailable_frame state result now sampled begun
  | refreshAvailable => exact refresh_available_frame state result now sampled begun

end

structure Sound (state : State δ) : Prop where
  flag : state.passes.countP Pass.holds = state.inFlight.toNat
  counted : state.generation = state.verdicts.length
  sampled : ∀ pass ∈ state.passes, pass.Sampled state.generation

-- Every verdict rests on a query that began after all the verdicts before it.
def Fresh (state : State δ) : Prop := ∀ (index : Nat) (verdict : Verdict δ), state.verdicts[index]? = some verdict → verdict.begun = index

-- An answer that will be published unchecked finds the generation its query began at.
def Timely (state : State δ) : Label δ → Prop
  | .turn index _ choice => ∀ pass begun, state.passes[index]? = some pass →
      unchecked state.probeFailures pass choice = some begun → state.generation = begun
  | _ => True

section
variable (state next : State δ)

theorem quiet_fresh (quiet : Quiet state next) : Fresh next ↔ Fresh state := by
  unfold Fresh
  rw [quiet.verdicts]

theorem publishes_fresh (begun : Nat) (publishes : Publishes state next begun) :
    Fresh next ↔ Fresh state ∧ begun = state.verdicts.length := by
  obtain ⟨published, verdicts⟩ := publishes.verdicts
  constructor
  · intro fresh
    refine ⟨?_, ?_⟩
    · intro index verdict found
      obtain ⟨inside, _⟩ := List.getElem?_eq_some_iff.mp found
      apply fresh index verdict
      rw [verdicts, List.getElem?_append_left inside]
      exact found
    · apply fresh state.verdicts.length { published := published, begun := begun }
      rw [verdicts, List.getElem?_concat_length]
  · rintro ⟨fresh, same⟩ index verdict found
    rw [verdicts] at found
    by_cases earlier : index < state.verdicts.length
    · rw [List.getElem?_append_left earlier] at found
      exact fresh index verdict found
    · obtain ⟨inside, _⟩ := List.getElem?_eq_some_iff.mp found
      rw [List.length_append, List.length_singleton] at inside
      obtain rfl : index = state.verdicts.length := by omega
      rw [List.getElem?_concat_length] at found
      rw [← Option.some.inj found]
      exact same

theorem quiet_counted (sound : Sound state) (quiet : Quiet state next) : next.generation = next.verdicts.length := by
  rw [quiet.generation, quiet.verdicts]
  exact sound.counted

theorem publishes_counted (sound : Sound state) (begun : Nat) (publishes : Publishes state next begun) :
    next.generation = next.verdicts.length := by
  obtain ⟨published, verdicts⟩ := publishes.verdicts
  rw [publishes.generation, verdicts, List.length_append, List.length_singleton, sound.counted]

end

-- What one step does to the verdicts: nothing, or one more, which rests on nothing
-- older than the last one unless it is published unchecked.
structure Settles (state next : State δ) (unheeded : Option Nat) : Prop where
  checked : unheeded = none → Quiet state next ∨ Publishes state next state.verdicts.length
  unchecked : ∀ begun, unheeded = some begun → Publishes state next begun

section
variable (state next : State δ)

theorem settles_quiet (quiet : Quiet state next) : Settles state next none :=
  ⟨fun _ => .inl quiet, fun _ impossible => by cases impossible⟩

theorem settles_fresh (unheeded : Option Nat) (settles : Settles state next unheeded) :
    Fresh next ↔ Fresh state ∧ ∀ begun, unheeded = some begun → begun = state.verdicts.length := by
  cases unheeded with
  | none =>
      have nothing : ∀ begun, none = some begun → begun = state.verdicts.length := fun _ impossible => by cases impossible
      rcases settles.checked rfl with quiet | publishes
      · rw [quiet_fresh state next quiet]
        exact ⟨fun fresh => ⟨fresh, nothing⟩, And.left⟩
      · rw [publishes_fresh state next state.verdicts.length publishes]
        exact ⟨fun fresh => ⟨fresh.1, nothing⟩, fun fresh => ⟨fresh.1, rfl⟩⟩
  | some begun =>
      rw [publishes_fresh state next begun (settles.unchecked begun rfl)]
      constructor
      · rintro ⟨fresh, same⟩
        refine ⟨fresh, ?_⟩
        intro other found
        obtain rfl := Option.some.inj found
        exact same
      · rintro ⟨fresh, same⟩
        exact ⟨fresh, same begun rfl⟩

theorem settles_counted (unheeded : Option Nat) (sound : Sound state) (settles : Settles state next unheeded) :
    next.generation = next.verdicts.length ∧ state.generation ≤ next.generation := by
  have quiets : Quiet state next → next.generation = next.verdicts.length ∧ state.generation ≤ next.generation :=
    fun quiet => ⟨quiet_counted state next sound quiet, Nat.le_of_eq quiet.generation.symm⟩
  have writes : ∀ begun, Publishes state next begun → next.generation = next.verdicts.length ∧ state.generation ≤ next.generation :=
    fun begun publishes => ⟨publishes_counted state next sound begun publishes, by rw [publishes.generation]; omega⟩
  cases unheeded with
  | none => exact (settles.checked rfl).elim quiets (writes _)
  | some begun => exact writes begun (settles.unchecked begun rfl)

-- The generation a checking path sampled is at most the one its query began at, so if it
-- has not moved, nothing was published since the query began.
theorem checked_settles (sampled begun : Nat) (sound : Sound state) (order : sampled ≤ begun ∧ begun ≤ state.generation)
    (writes : Quiet state next ∨ state.generation = sampled ∧ Publishes state next begun) : Settles state next none := by
  refine ⟨fun _ => ?_, fun _ impossible => by cases impossible⟩
  rcases writes with quiet | ⟨same, publishes⟩
  · exact .inl quiet
  · have unmoved : begun = state.verdicts.length := by
      have counted := sound.counted
      omega
    exact .inr (unmoved ▸ publishes)

theorem probe_settles (result : Option (List δ)) (now begun : Nat) :
    Settles state (probeAndPublish state result now begun)
      (if result.isSome || decide (state.probeFailures + 1 ≥ drmProbeMaxFailures) then some begun else none) := by
  by_cases settled : (result.isSome || decide (state.probeFailures + 1 ≥ drmProbeMaxFailures)) = true
  · rw [if_pos settled]
    refine ⟨fun impossible => (by cases impossible), ?_⟩
    intro other found
    obtain rfl := Option.some.inj found
    exact probe_publishes state result now begun settled
  · rw [if_neg settled]
    exact settles_quiet state _ (probe_quiet state result now begun settled)

theorem answered_settles (path : Path) (result : Option (List δ)) (now sampled begun : Nat) (sound : Sound state)
    (order : sampled ≤ begun ∧ begun ≤ state.generation) :
    Settles state (answered state path result now sampled begun)
      (unchecked state.probeFailures (.querying path sampled begun) (.answer result)) := by
  cases path with
  | availability | availabilityCached => exact probe_settles state result now begun
  | refreshUnavailable =>
      exact checked_settles state _ sampled begun sound order (refresh_unavailable_writes state result now sampled begun)
  | refreshAvailable =>
      exact checked_settles state _ sampled begun sound order (refresh_available_writes state result now sampled begun)

theorem settles_set (unheeded : Option Nat) (index : Nat) (pass : Pass) (settles : Settles state next unheeded) :
    Settles state (setPass next index pass) unheeded := by
  refine ⟨?_, ?_⟩
  · intro checked
    rcases settles.checked checked with quiet | publishes
    · exact .inl ⟨quiet.generation, quiet.verdicts⟩
    · exact .inr ⟨publishes.generation, publishes.verdicts⟩
  · intro begun found
    have publishes := settles.unchecked begun found
    exact ⟨publishes.generation, publishes.verdicts⟩

-- A pass that neither takes nor gives back the flag goes from `old` to `new`.
theorem set_sound (middle : State δ) (unheeded : Option Nat) (index : Nat) (old new : Pass) (sound : Sound state)
    (frame : Frame state middle) (settles : Settles state middle unheeded) (found : state.passes[index]? = some old)
    (held : new.holds = old.holds) (sampled : new.Sampled middle.generation) : Sound (setPass middle index new) := by
  obtain ⟨inside, isOld⟩ := List.getElem?_eq_some_iff.mp found
  obtain ⟨counted, grown⟩ := settles_counted state middle unheeded sound settles
  refine ⟨?_, counted, ?_⟩
  · have same : (state.passes.set index new).countP Pass.holds = state.passes.countP Pass.holds := by
      rw [List.countP_set inside, isOld, held]
      have one : (if old.holds then 1 else 0) ≤ state.passes.countP Pass.holds := by
        by_cases holds : old.holds = true
        · rw [if_pos holds]
          exact List.countP_pos_iff.mpr ⟨old, List.mem_of_getElem? found, holds⟩
        · rw [if_neg holds]
          exact Nat.zero_le _
      omega
    have flag := sound.flag
    simp only [setPass, frame.passes, frame.inFlight, same]
    exact flag
  · intro pass among
    simp only [setPass, frame.passes] at among
    rcases List.mem_or_eq_of_mem_set among with earlier | latest
    · exact sampled_later pass state.generation _ grown (sound.sampled pass earlier)
    · rw [latest]
      exact sampled

theorem frame_refl : Frame state state := ⟨rfl, rfl⟩

theorem quiet_refl : Quiet state state := ⟨rfl, rfl⟩

theorem settles_refl : Settles state state none := settles_quiet state state (quiet_refl state)

theorem taken_next_sampled (path : Path) (now : Nat) :
    (takenNext state path now).holds = true ∧ (takenNext state path now).Sampled state.generation := by
  unfold takenNext
  split
  · exact ⟨rfl, Nat.zero_le _⟩
  · exact ⟨rfl, Nat.zero_le _⟩
  · split
    · exact ⟨rfl, Nat.le_refl _⟩
    · exact ⟨rfl, trivial⟩
  · exact ⟨rfl, trivial⟩
  · exact ⟨rfl, Nat.le_refl _⟩
  · exact ⟨rfl, trivial⟩

theorem warm_next_sampled (left generation : Nat) (x11 : Bool) :
    (warmNext state left x11).holds = false ∧ (warmNext state left x11).Sampled generation := by
  unfold warmNext
  split
  · exact ⟨rfl, trivial⟩
  · split
    · exact ⟨rfl, trivial⟩
    · split
      · exact ⟨rfl, trivial⟩
      · exact ⟨rfl, trivial⟩

theorem taking_sound (index : Nat) (path : Path) (sound : Sound state) (found : state.passes[index]? = some (.asking path))
    (free : ¬ state.inFlight = true) : Sound (setPass { state with inFlight := true } index (.taken path)) := by
  obtain ⟨inside, isOld⟩ := List.getElem?_eq_some_iff.mp found
  refine ⟨?_, sound.counted, ?_⟩
  · have flag := sound.flag
    rw [Bool.not_eq_true] at free
    rw [free] at flag
    simp only [setPass]
    rw [List.countP_set inside, isOld, flag]
    rfl
  · intro pass among
    rcases List.mem_or_eq_of_mem_set among with earlier | latest
    · exact sound.sampled pass earlier
    · rw [latest]
      trivial

theorem releasing_sound (index : Nat) (sound : Sound state) (found : state.passes[index]? = some .releasing) :
    Sound (setPass { state with inFlight := false } index .done) := by
  obtain ⟨inside, isOld⟩ := List.getElem?_eq_some_iff.mp found
  refine ⟨?_, sound.counted, ?_⟩
  · have flag := sound.flag
    have few := Bool.toNat_le state.inFlight
    simp only [setPass]
    rw [List.countP_set inside, isOld, flag]
    simp only [Pass.holds, if_true, Bool.false_eq_true, if_false, Bool.toNat_false]
    omega
  · intro pass among
    rcases List.mem_or_eq_of_mem_set among with earlier | latest
    · exact sound.sampled pass earlier
    · rw [latest]
      trivial

theorem turn_sound (index now : Nat) (pass : Pass) (choice : Choice δ) (sound : Sound state)
    (found : state.passes[index]? = some pass) (taken : turn state index now pass choice = some next) :
    Sound next ∧ Settles state next (unchecked state.probeFailures pass choice) := by
  have sampled := sound.sampled pass (List.mem_of_getElem? found)
  have moves : ∀ new : Pass, new.holds = pass.holds → new.Sampled state.generation →
      Sound (setPass state index new) ∧ Settles state (setPass state index new) none := fun new held bounded =>
    ⟨set_sound state state none index pass new sound (frame_refl state) (settles_refl state) found held bounded,
      settles_set state state none index new (settles_refl state)⟩
  unfold turn at taken
  split at taken
  case h_1 path =>
    obtain rfl := Option.some.inj taken
    split
    · exact moves .done rfl trivial
    · rename_i free
      exact ⟨taking_sound state index path sound found free, settles_set state _ none index _ ⟨fun _ => .inl ⟨rfl, rfl⟩, nofun⟩⟩
  case h_2 path =>
    obtain rfl := Option.some.inj taken
    exact moves _ (taken_next_sampled state path now).1 (taken_next_sampled state path now).2
  case h_3 path sample =>
    obtain rfl := Option.some.inj taken
    exact moves (.ready path sample) rfl sampled
  case h_4 =>
    obtain rfl := Option.some.inj taken
    exact moves .releasing rfl trivial
  case h_5 path sample =>
    obtain rfl := Option.some.inj taken
    rw [← sound.counted]
    exact moves (.querying path sample state.generation) rfl ⟨sampled, Nat.le_refl _⟩
  case h_6 path sample begun result =>
    obtain rfl := Option.some.inj taken
    have settles := answered_settles state path result now sample begun sound sampled
    exact ⟨set_sound state _ _ index _ .releasing sound (answered_frame state path result now sample begun) settles found rfl trivial,
      settles_set state _ _ index .releasing settles⟩
  case h_7 =>
    obtain rfl := Option.some.inj taken
    exact ⟨releasing_sound state index sound found, settles_set state _ none index _ ⟨fun _ => .inl ⟨rfl, rfl⟩, nofun⟩⟩
  case h_8 left =>
    obtain rfl := Option.some.inj taken
    exact moves _ (warm_next_sampled state left state.generation false).1 (warm_next_sampled state left state.generation false).2
  case h_9 left =>
    obtain rfl := Option.some.inj taken
    exact moves _ (warm_next_sampled state left state.generation true).1 (warm_next_sampled state left state.generation true).2
  case h_10 left =>
    obtain rfl := Option.some.inj taken
    rw [← sound.counted]
    exact moves (.warmQuerying left state.generation) rfl (Nat.le_refl _)
  case h_11 left begun display rest =>
    obtain rfl := Option.some.inj taken
    have settles : Settles state (publishProbeState state (.available now (display :: rest)) begun) (some begun) :=
      ⟨nofun, fun other same => Option.some.inj same ▸ ⟨rfl, _, rfl⟩⟩
    exact ⟨set_sound state _ _ index _ .done sound ⟨rfl, rfl⟩ settles found rfl trivial, settles_set state _ _ index .done settles⟩
  case h_12 left begun result nothing =>
    obtain rfl := Option.some.inj taken
    have heeded : unchecked state.probeFailures (.warmQuerying left begun) (.answer result) = none := by
      rcases result with _ | list
      · rfl
      · cases list with
        | nil => rfl
        | cons display rest => exact (nothing display rest rfl).elim
    rw [heeded]
    exact moves (.warmChecking left) rfl trivial
  case h_13 sample =>
    obtain rfl := Option.some.inj taken
    rw [← sound.counted]
    exact moves (.loginQuerying sample state.generation) rfl ⟨sampled, Nat.le_refl _⟩
  case h_14 =>
    obtain rfl := Option.some.inj taken
    exact moves .done rfl trivial
  case h_15 sample begun result =>
    obtain rfl := Option.some.inj taken
    have settles := checked_settles state _ sample begun sound sampled (refresh_login_writes state result now sample begun)
    exact ⟨set_sound state _ _ index _ .done sound (refresh_login_frame state result now sample begun) settles found rfl trivial,
      settles_set state _ _ index .done settles⟩
  case h_16 =>
    obtain rfl := Option.some.inj taken
    exact moves .done rfl trivial
  case h_17 => cases taken

theorem call_sound (pass : Pass) (sound : Sound state) (held : pass.holds = false) (sampled : pass.Sampled state.generation) :
    Sound (call state pass) ∧ Settles state (call state pass) none := by
  refine ⟨⟨?_, sound.counted, ?_⟩, ⟨fun _ => .inl ⟨rfl, rfl⟩, nofun⟩⟩
  · simp only [call, List.countP_append, List.countP_singleton, held, Bool.false_eq_true, if_false, Nat.add_zero]
    exact sound.flag
  · intro other among
    rcases List.mem_append.mp among with earlier | latest
    · exact sound.sampled other earlier
    · rw [List.mem_singleton.mp latest]
      exact sampled

theorem assess_sampled (now generation : Nat) (probing : Path) :
    (assess state.drmState now probing).holds = false ∧ (assess state.drmState now probing).Sampled generation := by
  unfold assess
  split
  · split
    · exact ⟨rfl, trivial⟩
    · exact ⟨rfl, trivial⟩
  · split
    · exact ⟨rfl, trivial⟩
    · exact ⟨rfl, trivial⟩
  · exact ⟨rfl, trivial⟩

theorem hotplug_sound (list : List δ) (now : Nat) (sound : Sound state) :
    Sound (swapAvailableDisplays state list now) ∧ Settles state (swapAvailableDisplays state list now) none := by
  have settles : Settles state (swapAvailableDisplays state list now) none := by
    unfold swapAvailableDisplays
    split
    · exact ⟨fun _ => .inr ⟨rfl, _, rfl⟩, nofun⟩
    · exact settles_refl state
  have frame : Frame state (swapAvailableDisplays state list now) := by
    unfold swapAvailableDisplays
    split
    · exact ⟨rfl, rfl⟩
    · exact frame_refl state
  obtain ⟨counted, grown⟩ := settles_counted state _ none sound settles
  refine ⟨⟨?_, counted, ?_⟩, settles⟩
  · rw [frame.passes, frame.inFlight]
    exact sound.flag
  · intro pass among
    rw [frame.passes] at among
    exact sampled_later pass state.generation _ grown (sound.sampled pass among)

theorem step_sound (label : Label δ) (sound : Sound state) (stepped : step state label = some next) :
    Sound next ∧ (Fresh next ↔ Fresh state ∧ Timely state label) := by
  have heeded : Settles state next none → (Fresh next ↔ Fresh state ∧ True) := fun settles => by
    rw [settles_fresh state next none settles]
    exact ⟨fun fresh => ⟨fresh.1, trivial⟩, fun fresh => ⟨fresh.1, nofun⟩⟩
  cases label with
  | availability now =>
      obtain rfl := Option.some.inj stepped
      obtain ⟨held, sampled⟩ := assess_sampled state now state.generation .availability
      obtain ⟨kept, settles⟩ := call_sound state _ sound held sampled
      exact ⟨kept, heeded settles⟩
  | availabilityCached now =>
      obtain rfl := Option.some.inj stepped
      obtain ⟨held, sampled⟩ := assess_sampled state now state.generation .availabilityCached
      obtain ⟨kept, settles⟩ := call_sound state _ sound held sampled
      exact ⟨kept, heeded settles⟩
  | warmAvailability =>
      obtain rfl := Option.some.inj stepped
      obtain ⟨kept, settles⟩ := call_sound state (.warmChecking warmAttempts) sound rfl trivial
      exact ⟨kept, heeded settles⟩
  | refreshDisplaysForLogin =>
      obtain rfl := Option.some.inj stepped
      by_cases available : state.drmState.isAvailable = true
      · rw [if_pos available] at heeded ⊢
        obtain ⟨kept, settles⟩ := call_sound state (.loginReady state.generation) sound rfl (Nat.le_refl _)
        exact ⟨kept, heeded settles⟩
      · rw [if_neg available] at heeded ⊢
        obtain ⟨kept, settles⟩ := call_sound state .done sound rfl trivial
        exact ⟨kept, heeded settles⟩
  | hotplug list now =>
      obtain rfl := Option.some.inj stepped
      obtain ⟨kept, settles⟩ := hotplug_sound state list now sound
      exact ⟨kept, heeded settles⟩
  | turn index now choice =>
      obtain ⟨pass, found, taken⟩ := Option.bind_eq_some_iff.mp stepped
      obtain ⟨kept, settles⟩ := turn_sound state next index now pass choice sound found taken
      refine ⟨kept, ?_⟩
      rw [settles_fresh state next _ settles]
      constructor
      · rintro ⟨fresh, rests⟩
        refine ⟨fresh, ?_⟩
        intro other begun isPass unheeded
        obtain rfl := Option.some.inj (found.symm.trans isPass)
        rw [sound.counted]
        exact (rests begun unheeded).symm
      · rintro ⟨fresh, timely⟩
        refine ⟨fresh, ?_⟩
        intro begun unheeded
        rw [← sound.counted]
        exact (timely pass begun found unheeded).symm

end

theorem start_sound : Sound (start : State δ) := ⟨rfl, rfl, nofun⟩

theorem traced_sound (past : List (State δ × Label δ)) (state : State δ) (traced : Machine.Traced step start past state) :
    Sound state ∧ (Fresh state ↔ ∀ turn ∈ past, Timely turn.1 turn.2) := by
  apply Machine.traced_invariant step (fun past state => Sound state ∧ (Fresh state ↔ ∀ turn ∈ past, Timely turn.1 turn.2)) start state
  · exact ⟨start_sound, fun _ => nofun, fun _ => nofun⟩
  · intro past state label after kept stepped
    obtain ⟨sound, fresh⟩ := step_sound state after label kept.1 stepped
    refine ⟨sound, ?_⟩
    rw [fresh, kept.2]
    simp only [List.forall_mem_append, List.forall_mem_singleton]
  · exact traced

-- The flag is set exactly while one pass is between taking it and giving it back, so no
-- two of those passes query at a time.
theorem querying_alone (state : State δ) (sound : Sound state) :
    state.passes.countP Pass.isQuerying ≤ 1 ∧ (state.inFlight = true ↔ ∃ pass ∈ state.passes, pass.holds = true) := by
  have flag := sound.flag
  have few := Bool.toNat_le state.inFlight
  have among : state.passes.countP Pass.isQuerying ≤ state.passes.countP Pass.holds := by
    apply List.countP_mono_left
    intro pass _ querying
    cases pass with
    | querying => rfl
    | _ => cases querying
  refine ⟨by omega, ?_⟩
  rw [← List.countP_pos_iff, flag]
  cases state.inFlight with
  | false => simp
  | true => simp

theorem verdicts_fresh (past : List (State δ × Label δ)) (state : State δ) (traced : Machine.Traced step start past state) :
    ((∀ (index : Nat) (verdict : Verdict δ), state.verdicts[index]? = some verdict → verdict.begun = index) ↔
        ∀ turn ∈ past, Timely turn.1 turn.2) ∧
      state.passes.countP Pass.isQuerying ≤ 1 ∧
      (state.inFlight = true ↔ ∃ pass ∈ state.passes, pass.holds = true) := by
  obtain ⟨sound, fresh⟩ := traced_sound past state traced
  exact ⟨fresh, querying_alone state sound⟩

-- A caller probes an unknown state; before its answer comes the startup warmup publishes
-- display 1 and a hotplug displays 1 and 2; then the caller publishes its older list.
def overtakenRun : List (Label Nat) :=
  [.availability 0, .turn 0 0 .proceed, .turn 0 0 .proceed, .turn 0 0 .proceed, .warmAvailability, .turn 1 1 .proceed,
    .turn 1 1 .proceed, .turn 1 2 (.answer (some [1])), .hotplug [1, 2] 3, .turn 0 4 (.answer (some [1])), .turn 0 5 .proceed]

theorem overtaken_runs : (Machine.run step start overtakenRun).isSome = true := by decide

theorem hotplug_list_lost : ∃ past state, Machine.Traced step (start : State Nat) past state ∧
    state.drmState = .available 4 [1] ∧
    state.verdicts = [⟨.available 2 [1], 0⟩, ⟨.available 3 [1, 2], 1⟩, ⟨.available 4 [1], 0⟩] ∧
    ¬ ∀ (index : Nat) (verdict : Verdict Nat), state.verdicts[index]? = some verdict → verdict.begun = index := by
  refine ⟨_, _, Machine.traced_run step start overtakenRun overtaken_runs, by decide, by decide, ?_⟩
  intro fresh
  have impossible := fresh 2 ⟨.available 4 [1], 0⟩ (by decide)
  cases impossible

-- Without the hotplug and the warmup the same probe is fine, and a login refresh after it.
def untroubledRun : List (Label Nat) :=
  [.availability 0, .turn 0 0 .proceed, .turn 0 0 .proceed, .turn 0 0 .proceed, .turn 0 4 (.answer (some [1])), .turn 0 5 .proceed,
    .refreshDisplaysForLogin, .turn 1 6 .proceed, .turn 1 7 (.answer (some [1, 2]))]

theorem untroubled_runs : (Machine.run step start untroubledRun).isSome = true := by decide

theorem verdicts_fresh_untroubled :
    let state := (Machine.run step start untroubledRun).get untroubled_runs
    state.verdicts.length = 2 ∧
      ((∀ (index : Nat) (verdict : Verdict Nat), state.verdicts[index]? = some verdict → verdict.begun = index) ↔
        ∀ turn ∈ Machine.trace step start untroubledRun, Timely turn.1 turn.2) := by
  refine ⟨by decide, ?_⟩
  exact (verdicts_fresh _ _ (Machine.traced_run step start untroubledRun untroubled_runs)).1

end GotechDesk.Drm
