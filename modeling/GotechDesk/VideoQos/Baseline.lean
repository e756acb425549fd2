import GotechDesk.VideoQos.UserDelay

set_option autoImplicit false

namespace GotechDesk.VideoQos

def fed (delays : List Nat) : RttCalculator := delays.foldl RttCalculator.update {}

theorem fed_append (past : List Nat) (delay : Nat) : fed (past ++ [delay]) = (fed past).update delay := by simp [fed]

-- The last samples a window holds.
def lastSamples (delays : List Nat) : List Nat := delays.drop (delays.length - RttCalculator.windowSamples)

def Least (least : Nat) (delays : List Nat) : Prop := least ∈ delays ∧ ∀ delay ∈ delays, least ≤ delay

-- What the calculator knows after these delays.
structure Learned (delays : List Nat) (r : RttCalculator) (baseline : Nat) : Prop where
  held : r.baseline = some baseline
  window : r.samples = lastSamples delays
  below : ∀ sample ∈ r.samples, baseline ≤ sample
  above : ∃ least, Least least delays ∧ least ≤ baseline
  early : delays.length ≤ RttCalculator.windowSamples → baseline ∈ delays

theorem clamp_rise (rise : Nat) (some : 0 < rise) : 0 < clamp (rise / 2) 1 RttCalculator.maxIncreaseMs ∧ clamp (rise / 2) 1 RttCalculator.maxIncreaseMs ≤ rise ∧
    clamp (rise / 2) 1 RttCalculator.maxIncreaseMs ≤ 50 := by
  unfold clamp RttCalculator.maxIncreaseMs
  split
  · omega
  · split <;> omega

-- Relearning keeps the samples and raises the baseline by at most 50, to at most the window's minimum,
-- and not while the floor is rising.
theorem relearn_cases (r : RttCalculator) (baseline : Nat) :
    r.relearn baseline = r ∨ ∃ olderMin recentMin raised, (r.samples.take 10).min? = some olderMin ∧ (r.samples.drop 10).min? = some recentMin ∧
      recentMin ≤ olderMin + 10 ∧ r.relearn baseline = { r with baseline := some raised } ∧ baseline < raised ∧ raised ≤ baseline + 50 ∧
      ∀ sample ∈ r.samples, raised ≤ sample := by
  cases older : (r.samples.take 10).min? with
  | none =>
      left
      simp only [RttCalculator.relearn, RttCalculator.windowSamples, older]
  | some olderMin =>
      cases recent : (r.samples.drop 10).min? with
      | none =>
          left
          simp only [RttCalculator.relearn, RttCalculator.windowSamples, older, recent]
      | some recentMin =>
          by_cases rising : min (olderMin + 10) (2 ^ 32 - 1) < recentMin
          · left
            simp only [RttCalculator.relearn, RttCalculator.windowSamples, older, recent, if_pos rising]
          · by_cases rise : 0 < min olderMin recentMin - baseline
            · right
              obtain ⟨up, within, small⟩ := clamp_rise _ rise
              refine ⟨olderMin, recentMin, baseline + clamp ((min olderMin recentMin - baseline) / 2) 1 RttCalculator.maxIncreaseMs, rfl, rfl, by omega, ?_, by omega, by omega, ?_⟩
              · simp only [RttCalculator.relearn, RttCalculator.windowSamples, older, recent, if_neg rising, if_pos rise]
              · intro sample member
                rw [← List.take_append_drop 10 r.samples] at member
                obtain early | late := List.mem_append.mp member
                · have least := (List.min?_eq_some_iff.mp older).2 sample early
                  omega
                · have least := (List.min?_eq_some_iff.mp recent).2 sample late
                  omega
            · left
              simp only [RttCalculator.relearn, RttCalculator.windowSamples, older, recent, if_neg rising, if_neg rise]

section
variable (delays : List Nat)

theorem last_samples_append (delay : Nat) : lastSamples (delays ++ [delay]) =
      (if RttCalculator.windowSamples ≤ (lastSamples delays).length then (lastSamples delays).tail else lastSamples delays) ++ [delay] := by
  unfold lastSamples RttCalculator.windowSamples
  rw [List.length_drop, List.length_append, List.length_singleton]
  by_cases full : 20 ≤ delays.length
  · rw [if_pos (by omega), List.tail_drop, List.drop_append_of_le_length (by omega)]
    congr 2
    omega
  · rw [if_neg (by omega)]
    have short : delays.length - 20 = 0 := by omega
    have next : delays.length + 1 - 20 = 0 := by omega
    rw [short, next, List.drop_zero, List.drop_zero]

theorem last_samples_length : (lastSamples delays).length = min delays.length RttCalculator.windowSamples := by
  unfold lastSamples RttCalculator.windowSamples
  rw [List.length_drop]
  omega

theorem last_samples_step (delay sample : Nat) (member : sample ∈ lastSamples (delays ++ [delay])) : sample ∈ lastSamples delays ∨ sample = delay := by
  rw [last_samples_append, List.mem_append, List.mem_singleton] at member
  refine member.imp_left (fun early => ?_)
  split at early
  · exact List.mem_of_mem_tail early
  · exact early

theorem mem_last_samples (delay : Nat) : delay ∈ lastSamples (delays ++ [delay]) := by
  rw [last_samples_append]
  exact List.mem_append_right _ (List.mem_singleton_self delay)

end

-- The floor is rising when the newer half of a full window stays more than 10 above the older half.
def Rising (samples : List Nat) : Prop :=
  ∃ olderMin recentMin, (samples.take 10).min? = some olderMin ∧ (samples.drop 10).min? = some recentMin ∧ olderMin + 10 < recentMin

theorem relearn_laws (r : RttCalculator) (baseline : Nat) (held : r.baseline = some baseline) (below : ∀ sample ∈ r.samples, baseline ≤ sample) :
    ∃ next, r.relearn baseline = { r with baseline := some next } ∧ baseline ≤ next ∧ next ≤ baseline + 50 ∧ (∀ sample ∈ r.samples, next ≤ sample) ∧
      (Rising r.samples → next = baseline) := by
  obtain same | ⟨olderMin, recentMin, raised, older, recent, settled, relearned, up, small, under⟩ := relearn_cases r baseline
  · refine ⟨baseline, ?_, Nat.le_refl _, Nat.le_add_right _ _, below, fun _ => rfl⟩
    rw [same, ← held]
  · refine ⟨raised, relearned, Nat.le_of_lt up, small, under, ?_⟩
    rintro ⟨olderMin', recentMin', older', recent', rising⟩
    rw [older] at older'
    rw [recent] at recent'
    cases older'
    cases recent'
    omega

-- One update: the window takes the delay, the baseline drops to it at once and is relearned once the window is full.
theorem update_cases (r : RttCalculator) (baseline delay : Nat) (delays : List Nat) (window : r.samples = lastSamples delays)
    (least : min (r.baseline.getD delay) delay = baseline) :
    r.update delay = { baseline := some baseline, samples := lastSamples (delays ++ [delay]) } ∧ delays.length + 1 < 20 ∨
    r.update delay = RttCalculator.relearn { baseline := some baseline, samples := lastSamples (delays ++ [delay]) } baseline ∧ 20 ≤ delays.length + 1 := by
  have pushed : (if RttCalculator.windowSamples ≤ r.samples.length then r.samples.tail else r.samples) ++ [delay] = lastSamples (delays ++ [delay]) := by
    rw [window, last_samples_append]
  have size : (lastSamples (delays ++ [delay])).length = min (delays.length + 1) 20 := by
    rw [last_samples_length, List.length_append, List.length_singleton]
    rfl
  by_cases short : delays.length + 1 < 20
  · left
    refine ⟨?_, short⟩
    simp only [RttCalculator.update, pushed, least]
    rw [if_pos (by rw [size]; unfold RttCalculator.windowSamples; omega)]
  · right
    refine ⟨?_, Nat.le_of_not_lt short⟩
    simp only [RttCalculator.update, pushed, least]
    rw [if_neg (by rw [size]; unfold RttCalculator.windowSamples; omega)]

theorem least_step (delays : List Nat) (least delay : Nat) (known : Least least delays) : Least (min least delay) (delays ++ [delay]) := by
  refine ⟨?_, fun sample member => ?_⟩
  · obtain lower | lower := Nat.le_total least delay
    · rw [Nat.min_eq_left lower]
      exact List.mem_append_left _ known.1
    · rw [Nat.min_eq_right lower]
      exact List.mem_append_right _ (List.mem_singleton_self delay)
  · obtain early | last := List.mem_append.mp member
    · exact Nat.le_trans (Nat.min_le_left _ _) (known.2 sample early)
    · rw [List.mem_singleton.mp last]
      exact Nat.min_le_right _ _

theorem first_update (delay : Nat) : RttCalculator.update {} delay = { baseline := some delay, samples := [delay] } := by
  simp [RttCalculator.update, RttCalculator.windowSamples]

theorem learned_first (delay : Nat) : Learned [delay] (RttCalculator.update {} delay) delay where
  held := by rw [first_update]
  window := by
    rw [first_update]
    rfl
  below := by
    intro sample member
    rw [first_update] at member
    exact Nat.le_of_eq (List.mem_singleton.mp member).symm
  above := ⟨delay, ⟨List.mem_singleton_self delay, fun sample member => Nat.le_of_eq (List.mem_singleton.mp member).symm⟩, Nat.le_refl _⟩
  early := fun _ => List.mem_singleton_self delay

-- While at most twenty delays have been seen the window holds them all, so nothing is left to rise to.
theorem early_least (delays : List Nat) (early : delays.length ≤ 20) : lastSamples delays = delays := by
  have all : delays.length - 20 = 0 := by omega
  unfold lastSamples RttCalculator.windowSamples
  rw [all, List.drop_zero]

theorem learned_step (delays : List Nat) (r : RttCalculator) (old delay : Nat) (learned : Learned delays r old) :
    ∃ baseline, Learned (delays ++ [delay]) (r.update delay) baseline ∧ (delay < old → baseline = delay) ∧ baseline ≤ old + 50 ∧
      (Rising (lastSamples (delays ++ [delay])) → baseline ≤ old) := by
  obtain ⟨held, window, below, ⟨least, known, under⟩, early⟩ := learned
  have dropped : min (r.baseline.getD delay) delay = min old delay := by rw [held, Option.getD_some]
  have fresh : ∀ sample ∈ lastSamples (delays ++ [delay]), min old delay ≤ sample := by
    intro sample member
    obtain kept | last := last_samples_step delays delay sample member
    · exact Nat.le_trans (Nat.min_le_left _ _) (below sample (window ▸ kept))
    · rw [last]
      exact Nat.min_le_right _ _
  have above : ∃ least, Least least (delays ++ [delay]) ∧ least ≤ min old delay :=
    ⟨min least delay, least_step delays least delay known, by omega⟩
  have seen : delays.length + 1 ≤ 20 → min old delay ∈ delays ++ [delay] := by
    intro short
    obtain lower | lower := Nat.le_total old delay
    · rw [Nat.min_eq_left lower]
      exact List.mem_append_left _ (early (by unfold RttCalculator.windowSamples; omega))
    · rw [Nat.min_eq_right lower]
      exact List.mem_append_right _ (List.mem_singleton_self delay)
  obtain ⟨updated, short⟩ | ⟨updated, full⟩ := update_cases r (min old delay) delay delays window dropped
  · refine ⟨min old delay, ⟨?_, ?_, ?_, above, fun _ => seen (by omega)⟩, by omega, by omega, fun _ => Nat.min_le_left _ _⟩
    · rw [updated]
    · rw [updated]
    · rw [updated]
      exact fresh
  · obtain ⟨next, relearned, up, small, under', rising⟩ := relearn_laws { baseline := some (min old delay), samples := lastSamples (delays ++ [delay]) } (min old delay) rfl fresh
    rw [relearned] at updated
    have last : next ≤ delay := under' delay (mem_last_samples delays delay)
    obtain ⟨lowest, known', under⟩ := above
    refine ⟨next, ⟨?_, ?_, ?_, ⟨lowest, known', Nat.le_trans under up⟩, fun short => ?_⟩, by omega, by omega, fun floor => ?_⟩
    · rw [updated]
    · rw [updated]
    · rw [updated]
      exact under'
    · rw [List.length_append, List.length_singleton] at short
      have whole := early_least (delays ++ [delay]) (by rw [List.length_append, List.length_singleton]; exact short)
      have same : next = min old delay := Nat.le_antisymm (under' _ (by rw [whole]; exact seen short)) up
      rw [same]
      exact seen short
    · rw [rising floor]
      exact Nat.min_le_left _ _

theorem learned_run (past : List Nat) (delay : Nat) : ∃ baseline, Learned (past ++ [delay]) (fed (past ++ [delay])) baseline := by
  induction past using List.reverseRecOn generalizing delay with
  | nil => exact ⟨delay, learned_first delay⟩
  | append_singleton past last ih =>
      obtain ⟨old, learned⟩ := ih last
      obtain ⟨baseline, next, _⟩ := learned_step (past ++ [last]) (fed (past ++ [last])) old delay learned
      rw [fed_append]
      exact ⟨baseline, next⟩

theorem learned_of_held (past : List Nat) (old : Nat) (held : (fed past).baseline = some old) : Learned past (fed past) old := by
  induction past using List.reverseRecOn with
  | nil => cases held
  | append_singleton past delay _ =>
      obtain ⟨baseline, learned⟩ := learned_run past delay
      rw [learned.held] at held
      cases held
      exact learned

theorem baseline_learning (past : List Nat) (delay : Nat) :
    let after := fed (past ++ [delay])
    ∃ baseline, after.baseline = some baseline ∧ after.samples = lastSamples (past ++ [delay]) ∧
      (∀ sample ∈ after.samples, baseline ≤ sample) ∧ delay ∈ after.samples ∧
      (∀ least, Least least (past ++ [delay]) → least ≤ baseline ∧ (past.length + 1 ≤ RttCalculator.windowSamples → baseline = least)) ∧
      ∀ old, (fed past).baseline = some old →
        (delay < old → baseline = delay) ∧ baseline ≤ old + RttCalculator.maxIncreaseMs ∧ (Rising after.samples → baseline ≤ old) := by
  obtain ⟨baseline, learned⟩ := learned_run past delay
  obtain ⟨held, window, below, ⟨lowest, known, under⟩, early⟩ := learned
  refine ⟨baseline, held, window, below, ?_, fun least minimal => ⟨?_, fun short => ?_⟩, fun old before => ?_⟩
  · rw [window]
    exact mem_last_samples past delay
  · exact Nat.le_trans (minimal.2 lowest known.1) under
  · rw [← List.length_singleton (a := delay), ← List.length_append] at short
    have whole := early_least (past ++ [delay]) short
    refine Nat.le_antisymm (below least ?_) (minimal.2 baseline (early short))
    rw [window, whole]
    exact minimal.1
  · obtain ⟨next, after, dropped, small, rising⟩ := learned_step past (fed past) old delay (learned_of_held past old before)
    rw [← fed_append] at after
    rw [after.held] at held
    cases held
    refine ⟨dropped, small, fun floor => rising ?_⟩
    rw [window] at floor
    exact floor

-- An old minimum leaves the window and the baseline follows the stable path, half of the rise at a time.
set_option maxRecDepth 4096 in
example : (fed (10 :: List.replicate 19 40)).baseline = some 10 ∧ (fed (10 :: List.replicate 20 40)).baseline = some 25 := by decide

end GotechDesk.VideoQos
