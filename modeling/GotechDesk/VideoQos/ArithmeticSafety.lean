import GotechDesk.VideoQos.Overflow

set_option autoImplicit false

namespace GotechDesk.VideoQos

open GotechDesk.Checked

-- What the counters of a viewer stay within, and the range of its stored targets.
structure Bounded (d : UserDelay) : Prop where
  history : d.delayHistory.length ≤ historyDelayLen
  quick : d.quickIncreaseFpsCount ≤ 2
  increase : d.increaseFpsCount ≤ 2
  consecutive : d.consecutiveBadSamples ≤ 3
  bad : d.fpsBadSamples ≤ 3
  good : d.goodSamples ≤ 3
  replies : ∀ replies, d.repliesAfterBitrateReduction = some replies → replies ≤ 2
  startup : d.startupGoodSamples ≤ u8Max
  target : ∀ fps, d.fps = some fps → minFps ≤ fps ∧ fps ≤ maxFps
  reference : ∀ fps, d.stallReferenceFps = some fps → minFps ≤ fps

theorem bounded_fresh : Bounded {} := by
  constructor <;> first | exact Nat.zero_le _ | (intro fps held; cases held)

theorem add_delay_spec (d : UserDelay) (delay : Nat) (bounded : d.delayHistory.length ≤ historyDelayLen) :
    (d.addDelay delay).delayHistory.length ≤ historyDelayLen ∧ (d.addDelay delay).delayHistory.sum = d.delayHistory.getLast?.getD 0 + delay := by
  unfold historyDelayLen at bounded
  unfold UserDelay.addDelay historyDelayLen
  cases held : d.delayHistory with
  | nil => simp
  | cons first rest =>
      cases rest with
      | nil => simp
      | cons second rest =>
          rw [held, List.length_cons, List.length_cons] at bounded
          obtain rfl : rest = [] := List.eq_nil_of_length_eq_zero (by omega)
          simp

theorem clamp_checked (value low high : Nat) (ordered : low ≤ high) : checkedClamp value low high = some (clamp value low high) := if_pos ordered

theorem cap_checked (customFps autoAdjustFps : Option Nat) : checkedFpsCap customFps autoAdjustFps = some (fpsCap customFps autoAdjustFps) := by
  unfold checkedFpsCap
  rw [clamp_checked _ _ _ (by decide)]
  rfl

theorem cap_range (user : UserData) : minFps ≤ user.fpsCap ∧ user.fpsCap ≤ maxFps :=
  ⟨fps_cap_pos user, clamp_le _ minFps maxFps (by decide)⟩

theorem relearn_checked (r : RttCalculator) (baseline : Nat) (small : ∀ sample ∈ r.samples, sample < 2 ^ 32) :
    r.checkedRelearn baseline = some (r.relearn baseline) := by
  cases older : (r.samples.take 10).min? with
  | none => simp only [RttCalculator.checkedRelearn, RttCalculator.relearn, RttCalculator.windowSamples, older]
  | some olderMin =>
      cases recent : (r.samples.drop 10).min? with
      | none => simp only [RttCalculator.checkedRelearn, RttCalculator.relearn, RttCalculator.windowSamples, older, recent]
      | some recentMin =>
          simp only [RttCalculator.checkedRelearn, RttCalculator.relearn, RttCalculator.windowSamples, older, recent]
          split
          · rfl
          · split
            · rename_i rise
              obtain ⟨_, within, _⟩ := clamp_rise _ rise
              have seen := small olderMin (List.mem_of_mem_take (List.min?_eq_some_iff.mp older).1)
              rw [clamp_checked _ _ _ (by decide), Option.bind_eq_bind, Option.bind_some, unsigned_fits 32 _ (by omega)]
              rfl
            · rfl

theorem sum_checked (delays : List Nat) (start : Nat) (small : start < 2 ^ 32) :
    delays.foldlM (fun sum delay => unsigned 32 (sum + delay)) start = if start + delays.sum < 2 ^ 32 then some (start + delays.sum) else none := by
  induction delays generalizing start with
  | nil =>
      rw [List.sum_nil, Nat.add_zero, if_pos small]
      rfl
  | cons delay rest ih =>
      rw [List.foldlM_cons, List.sum_cons, ← Nat.add_assoc]
      by_cases fits : start + delay < 2 ^ 32
      · rw [unsigned_fits 32 _ fits]
        exact ih (start + delay) fits
      · rw [unsigned, if_neg fits, if_neg (by omega)]
        rfl

section
variable (d : UserDelay)

-- The average panics exactly when the stored delays do not fit their type together.
theorem avg_checked : d.checkedAvgDelay = if d.delayHistory.sum < 2 ^ 32 then some d.avgDelay else none := by
  unfold UserDelay.checkedAvgDelay UserDelay.avgDelay
  by_cases empty : d.delayHistory = []
  · rw [if_pos empty, if_pos empty, empty]
    rfl
  · rw [if_neg empty, if_neg empty, sum_checked _ 0 (by decide), Nat.zero_add]
    by_cases fits : d.delayHistory.sum < 2 ^ 32
    · rw [if_pos fits, if_pos fits, Nat.mod_eq_of_lt fits]
      rfl
    · rw [if_neg fits, if_neg fits]
      rfl

theorem avg_fits (fits : d.delayHistory.sum < 2 ^ 32) : d.checkedAvgDelay = some d.avgDelay := by rw [avg_checked, if_pos fits]

theorem recover_bounded (current fps : Nat) (bounded : Bounded d) : Bounded (d.recover current fps).1 := by
  unfold UserDelay.recover
  split <;> exact { bounded with }

theorem recover_safe (current fps : Nat) (bounded : Bounded d) (small : current ≤ maxFps) :
    d.checkedRecover current fps = some (d.recover current fps) ∧ Bounded (d.recover current fps).1 := by
  refine ⟨?_, recover_bounded d current fps bounded⟩
  have most : maxFps = 120 := rfl
  unfold UserDelay.checkedRecover UserDelay.recover
  rw [unsigned_fits 32 _ (by omega), Option.bind_eq_bind, Option.bind_some, unsigned_fits 32 (current + max (current / 5) 2) (by omega)]
  generalize d.fpsBeforeCongestion.filter (fun level => decide (current < level)) = level
  have good := bounded.good
  obtain none | one | two | three : d.goodSamples = 0 ∨ d.goodSamples = 1 ∨ d.goodSamples = 2 ∨ d.goodSamples = 3 := by omega
  · rw [none]
    rfl
  · rw [one]
    rfl
  · rw [two]
    cases level <;> rfl
  · rw [three]
    cases level <;> rfl

theorem count_bad_safe (bounded : Bounded d) : d.checkedCountBad = some d.countBad ∧ Bounded d.countBad := by
  have consecutive := bounded.consecutive
  have bad := bounded.bad
  unfold UserDelay.checkedCountBad UserDelay.countBad
  rw [unsigned_fits 64 _ (by omega), unsigned_fits 8 _ (by omega)]
  cases held : d.repliesAfterBitrateReduction with
  | none =>
      refine ⟨rfl, { bounded with consecutive := Nat.min_le_right _ _, bad := Nat.min_le_right _ _, replies := ?_ }⟩
      intro replies same
      cases same
  | some replies =>
      have replied := bounded.replies replies held
      refine ⟨?_, { bounded with consecutive := Nat.min_le_right _ _, bad := Nat.min_le_right _ _, replies := ?_ }⟩
      · rw [Option.bind_eq_bind, Option.bind_some, Option.bind_eq_bind, Option.bind_some]
        dsimp only
        rw [unsigned_fits 8 _ (by omega)]
        rfl
      · intro later same
        rw [← Option.some.inj same]
        exact Nat.min_le_right _ _

theorem guard_restore_safe (current : Nat) (failedRestore : Bool) (bounded : Bounded d) :
    d.checkedGuardRestore current failedRestore = some (d.guardRestore current failedRestore) ∧ Bounded (d.guardRestore current failedRestore) := by
  unfold UserDelay.checkedGuardRestore UserDelay.guardRestore
  split
  · rw [unsignedSub, if_pos (Nat.div_le_self current 4)]
    exact ⟨rfl, { bounded with }⟩
  · exact ⟨rfl, bounded⟩

theorem step_down_bounded (current fps excess : Nat) (failedRestore bitrateFirst braked : Bool) (bounded : Bounded d) :
    Bounded (d.stepDown current fps excess failedRestore bitrateFirst braked).1 := by
  unfold UserDelay.stepDown
  split
  · exact bounded
  · split
    · exact bounded
    · exact { bounded with good := Nat.zero_le _, bad := Nat.zero_le _, startup := Nat.le_refl _ }

theorem limit_safe (current fps delay : Nat) (bitrateFirst braked : Bool) (bounded : Bounded d) (small : current ≤ maxFps) :
    d.checkedLimitFpsChange current fps delay bitrateFirst braked = some (d.limitFpsChange current fps delay bitrateFirst braked) ∧
      Bounded (d.limitFpsChange current fps delay bitrateFirst braked).1 := by
  have good := bounded.good
  unfold UserDelay.checkedLimitFpsChange UserDelay.limitFpsChange
  dsimp only
  split
  · rw [unsigned_fits 64 _ (by omega), Option.bind_eq_bind, Option.bind_some]
    apply recover_safe _ current fps _ small
    refine { bounded with consecutive := Nat.zero_le _, bad := Nat.zero_le _, good := Nat.min_le_right _ _, replies := ?_ }
    intro replies same
    cases same
  · obtain ⟨counted, countedBounded⟩ := count_bad_safe _ (show Bounded { d with samplesSinceRestore := d.samplesSinceRestore.map (fun samples => min (samples + 1) u8Max) } from { bounded with })
    rw [counted, Option.bind_eq_bind, Option.bind_some]
    unfold UserDelay.checkedLimitBad UserDelay.limitBad
    dsimp only
    obtain ⟨guarded, guardedBounded⟩ := guard_restore_safe _ current (decide (600 ≤ d.excess delay) && (UserDelay.countBad { d with samplesSinceRestore := d.samplesSinceRestore.map (fun samples => min (samples + 1) u8Max) }).recentlyRestored) countedBounded
    rw [guarded]
    exact ⟨rfl, step_down_bounded _ _ _ _ _ _ _ guardedBounded⟩

theorem accelerate_safe (current fps cap delay : Nat) (braked : Bool) (bounded : Bounded d) :
    d.checkedAccelerateStartup current fps cap delay braked = some (d.accelerateStartup current fps cap delay braked) ∧
      Bounded (d.accelerateStartup current fps cap delay braked).1 := by
  have startup := bounded.startup
  have last : u8Max = 255 := rfl
  unfold UserDelay.checkedAccelerateStartup UserDelay.accelerateStartup
  split
  · exact ⟨rfl, bounded⟩
  · split
    · exact ⟨rfl, { bounded with startup := Nat.le_refl _ }⟩
    · rw [unsigned_fits 8 _ (by omega), Option.bind_eq_bind, Option.bind_some]
      split
      · exact ⟨rfl, { bounded with startup := by dsimp only; omega }⟩
      · refine ⟨rfl, { bounded with startup := ?_ }⟩
        dsimp only
        split <;> omega

end

section
variable (quotient : Nat → Nat → Nat)

-- Below the threshold a band raises the target by at most five, so the boost after it has room.
theorem band_safe (d : UserDelay) (band : Band) (oldAvg avg fps : Nat) (bounded : Bounded d) (small : fps ≤ maxFps) (narrow : band.minFps ≤ maxFps) :
    d.checkedBandFps quotient band oldAvg avg fps = some (d.bandFps quotient band oldAvg avg fps) ∧ Bounded (d.bandFps quotient band oldAvg avg fps).1 ∧
      (avg < delayThreshold150ms → (d.bandFps quotient band oldAvg avg fps).2 ≤ maxFps + 5) := by
  have most : maxFps = 120 := rfl
  have threshold : delayThreshold150ms = 150 := rfl
  have quick := bounded.quick
  unfold UserDelay.checkedBandFps UserDelay.bandFps
  rw [unsigned_fits 32 (delayThreshold150ms * band.minFps) (by rw [threshold]; omega), Option.bind_eq_bind, Option.bind_some]
  dsimp only
  split
  · rw [unsigned_fits 64 _ (by omega), Option.bind_some]
    split
    · rw [unsigned_fits 32 _ (by omega)]
      exact ⟨rfl, { bounded with quick := Nat.zero_le _ }, fun _ => by dsimp only; omega⟩
    · rw [unsigned_fits 32 _ (by split <;> omega)]
      exact ⟨rfl, { bounded with quick := by dsimp only; omega }, fun _ => by dsimp only; split <;> omega⟩
  · split
    · rw [unsigned_fits 32 _ (by split <;> (try split) <;> omega)]
      exact ⟨rfl, bounded, fun _ => by dsimp only; split <;> (try split) <;> omega⟩
    · split
      · exact ⟨rfl, bounded, fun _ => by dsimp only; omega⟩
      · rename_i far
        split
        · exact ⟨rfl, bounded, fun near => absurd near far⟩
        · split
          · exact ⟨rfl, bounded, fun near => absurd near far⟩
          · split <;> exact ⟨rfl, bounded, fun near => absurd near far⟩

theorem boost_safe (d : UserDelay) (avg fps : Nat) (bounded : Bounded d) (small : avg < delayThreshold150ms → fps ≤ maxFps + 5) :
    d.checkedBoost avg fps = some (d.boost avg fps) ∧ Bounded (d.boost avg fps).1 := by
  have most : maxFps = 120 := rfl
  have increase := bounded.increase
  have quick := bounded.quick
  have calm : (if 50 < avg then 0 else d.quickIncreaseFpsCount) ≤ 2 := by split <;> omega
  unfold UserDelay.checkedBoost UserDelay.boost
  by_cases near : avg < delayThreshold150ms
  · rw [if_pos near, if_pos near, unsigned_fits 64 _ (by omega), Option.bind_eq_bind, Option.bind_some]
    dsimp only
    have room := small near
    split
    · rw [unsigned_fits 32 _ (by omega)]
      exact ⟨rfl, { bounded with increase := Nat.zero_le _, quick := calm }⟩
    · exact ⟨rfl, { bounded with increase := by dsimp only; omega, quick := calm }⟩
  · rw [if_neg near, if_neg near, Option.bind_eq_bind, Option.bind_some]
    dsimp only
    rw [if_neg (by decide)]
    exact ⟨rfl, { bounded with increase := Nat.zero_le _, quick := calm }⟩

theorem relearn_samples (r : RttCalculator) (baseline : Nat) : (r.relearn baseline).samples = r.samples := by
  obtain same | ⟨_, _, _, _, _, _, relearned, _⟩ := relearn_cases r baseline
  · rw [same]
  · rw [relearned]

def SmallSamples (r : RttCalculator) : Prop := ∀ sample ∈ r.samples, sample < 2 ^ 32

theorem update_safe (r : RttCalculator) (delay : Nat) (small : SmallSamples r) (fits : delay < 2 ^ 32) :
    r.checkedUpdate delay = some (r.update delay) ∧ SmallSamples (r.update delay) := by
  have pushed : ∀ sample ∈ (if RttCalculator.windowSamples ≤ r.samples.length then r.samples.tail else r.samples) ++ [delay], sample < 2 ^ 32 := by
    intro sample member
    obtain early | last := List.mem_append.mp member
    · split at early
      · exact small sample (List.mem_of_mem_tail early)
      · exact small sample early
    · rw [List.mem_singleton.mp last]
      exact fits
  unfold RttCalculator.checkedUpdate RttCalculator.update
  dsimp only
  generalize (if RttCalculator.windowSamples ≤ r.samples.length then r.samples.tail else r.samples) ++ [delay] = samples at pushed ⊢
  split
  · exact ⟨rfl, pushed⟩
  · rw [relearn_checked _ _ pushed]
    refine ⟨rfl, ?_⟩
    unfold SmallSamples
    rw [relearn_samples]
    exact pushed

section
variable (d : UserDelay)

theorem receive_bounded (delay : Nat) (bounded : Bounded d) : Bounded (d.receive delay) := by
  have none : ∀ fps, (d.receive delay).stallReferenceFps = some fps → minFps ≤ fps := by
    intro fps held
    cases held
  exact { bounded with history := (add_delay_spec d delay bounded.history).1, reference := none }

theorem receive_safe (delay : Nat) (small : SmallSamples d.rttCalculator) (fits : delay < 2 ^ 32) :
    d.checkedReceive delay = some (d.receive delay) ∧ SmallSamples (d.receive delay).rttCalculator := by
  obtain ⟨updated, after⟩ := update_safe d.rttCalculator delay small fits
  constructor
  · unfold UserDelay.checkedReceive UserDelay.receive
    rw [updated]
    split <;> rfl
  · unfold UserDelay.receive UserDelay.addDelay
    split
    · exact small
    · exact after

theorem current_small (cap : Nat) (bounded : Bounded d) : d.currentFps cap ≤ maxFps := by
  have most : maxFps = 120 := rfl
  have init : initFps = 15 := rfl
  unfold UserDelay.currentFps
  cases held : d.fps with
  | none =>
      rw [Option.getD_none]
      omega
  | some fps => exact (bounded.target fps held).2

theorem current_positive (cap : Nat) (bounded : Bounded d) (positive : minFps ≤ cap) : minFps ≤ d.currentFps cap := by
  have least : minFps = 1 := rfl
  have init : initFps = 15 := rfl
  unfold UserDelay.currentFps
  cases held : d.fps with
  | none =>
      rw [Option.getD_none]
      omega
  | some fps => exact (bounded.target fps held).1

section
variable (band : Band) (bitrateFirst : Bool) (oldAvg cap current : Nat)

theorem wanted_bounded (bounded : Bounded d) (small : current ≤ maxFps)
    (narrow : band.minFps ≤ maxFps) : Bounded (d.wanted quotient band bitrateFirst oldAvg cap current).1 := by
  obtain ⟨_, banded, room⟩ := band_safe quotient d band oldAvg (max d.avgDelay 10) current bounded small narrow
  exact (boost_safe _ (max d.avgDelay 10) _ banded room).2

theorem wanted_safe (bounded : Bounded d) (small : current ≤ maxFps) (narrow : band.minFps ≤ maxFps) (fits : d.delayHistory.sum < 2 ^ 32) :
    d.checkedWanted quotient band bitrateFirst oldAvg cap current = some (d.wanted quotient band bitrateFirst oldAvg cap current) := by
  obtain ⟨banded, bandBounded, room⟩ := band_safe quotient d band oldAvg (max d.avgDelay 10) current bounded small narrow
  unfold UserDelay.checkedWanted UserDelay.wanted
  dsimp only
  rw [avg_fits d fits, Option.bind_eq_bind, Option.bind_some, banded, Option.bind_eq_bind, Option.bind_some, (boost_safe _ (max d.avgDelay 10) _ bandBounded room).1]
  rfl

end

theorem settle_safe (current fps cap delay : Nat) (bitrateFirst braked : Bool) (bounded : Bounded d) (small : current ≤ maxFps)
    (positive : minFps ≤ cap) (capped : cap ≤ maxFps) :
    d.checkedSettle current fps cap delay bitrateFirst braked = some (d.settle current fps cap delay bitrateFirst braked) ∧
      Bounded (d.settle current fps cap delay bitrateFirst braked) := by
  obtain ⟨limited, limitBounded⟩ := limit_safe d current fps delay bitrateFirst braked bounded small
  obtain ⟨accelerated, startBounded⟩ := accelerate_safe _ current (d.limitFpsChange current fps delay bitrateFirst braked).2 cap delay braked limitBounded
  unfold UserDelay.checkedSettle UserDelay.settle
  rw [limited, Option.bind_eq_bind, Option.bind_some, accelerated, Option.bind_eq_bind, Option.bind_some, clamp_checked _ _ _ positive]
  refine ⟨rfl, { startBounded with target := ?_ }⟩
  intro stored held
  rw [← Option.some.inj held]
  exact ⟨le_clamp _ minFps cap positive, Nat.le_trans (clamp_le _ minFps cap positive) capped⟩

theorem limit_history (current fps delay : Nat) (bitrateFirst braked : Bool) :
    (d.limitFpsChange current fps delay bitrateFirst braked).1.delayHistory = d.delayHistory := by
  have guarded : ∀ (e : UserDelay) (failed : Bool), (e.guardRestore current failed).delayHistory = e.delayHistory := by
    intro e failed
    unfold UserDelay.guardRestore
    split <;> rfl
  have stepped : ∀ (e : UserDelay) (excess : Nat) (failed : Bool),
      (e.stepDown current fps excess failed bitrateFirst braked).1.delayHistory = e.delayHistory := by
    intro e excess failed
    unfold UserDelay.stepDown
    split
    · rfl
    · split <;> rfl
  unfold UserDelay.limitFpsChange
  dsimp only
  split
  · unfold UserDelay.recover
    split <;> rfl
  · unfold UserDelay.limitBad
    rw [stepped, guarded]
    rfl

theorem accelerate_history (current fps cap delay : Nat) (braked : Bool) :
    (d.accelerateStartup current fps cap delay braked).1.delayHistory = d.delayHistory := by
  unfold UserDelay.accelerateStartup
  split
  · rfl
  · split
    · rfl
    · split <;> rfl

section
variable (band : Band) (bitrateFirst : Bool)

theorem wanted_history (oldAvg cap current : Nat) : (d.wanted quotient band bitrateFirst oldAvg cap current).1.delayHistory = d.delayHistory := by
  have banded : ∀ avg, (d.bandFps quotient band oldAvg avg current).1.delayHistory = d.delayHistory := by
    intro avg
    unfold UserDelay.bandFps
    repeat' split
    all_goals rfl
  have boosted : ∀ (e : UserDelay) (avg fps : Nat), (e.boost avg fps).1.delayHistory = e.delayHistory := by
    intro e avg fps
    unfold UserDelay.boost
    dsimp only
    generalize (if avg < delayThreshold150ms then e.increaseFpsCount + 1 else 0) = count
    split <;> rfl
  unfold UserDelay.wanted
  rw [boosted, banded]

theorem network_delay_history (cap delay : Nat) :
    (d.networkDelay quotient band bitrateFirst cap delay).1.delayHistory = (d.addDelay (max delay 10)).delayHistory := by
  unfold UserDelay.networkDelay UserDelay.settle
  rw [accelerate_history, limit_history, wanted_history]
  rfl

theorem network_delay_bounded (cap delay : Nat) (bounded : Bounded d)
    (positive : minFps ≤ cap) (capped : cap ≤ maxFps) (narrow : band.minFps ≤ maxFps) : Bounded (d.networkDelay quotient band bitrateFirst cap delay).1 := by
  have small := current_small d cap bounded
  have wanted := wanted_bounded quotient (d.receive (max delay 10)) band bitrateFirst (UserDelay.avgDelay { d with stallTicks := 0, stallReferenceFps := none })
    cap (d.currentFps cap) (receive_bounded d (max delay 10) bounded) small narrow
  exact (settle_safe _ (d.currentFps cap) _ cap (max delay 10) bitrateFirst d.stallReferenceFps.isSome wanted small positive capped).2

theorem network_delay_safe (cap delay : Nat) (bounded : Bounded d) (small : SmallSamples d.rttCalculator)
    (positive : minFps ≤ cap) (capped : cap ≤ maxFps) (narrow : band.minFps ≤ maxFps) (stored : d.delayHistory.sum < 2 ^ 32)
    (pair : d.delayHistory.getLast?.getD 0 + max delay 10 < 2 ^ 32) :
    d.checkedNetworkDelay quotient band bitrateFirst cap delay = some (d.networkDelay quotient band bitrateFirst cap delay) ∧
      SmallSamples (d.networkDelay quotient band bitrateFirst cap delay).1.rttCalculator := by
  obtain ⟨received, receivedSmall⟩ := receive_safe d (max delay 10) small (by omega)
  have receivedBounded := receive_bounded d (max delay 10) bounded
  have current := current_small d cap bounded
  have sum : (d.receive (max delay 10)).delayHistory.sum < 2 ^ 32 := by
    rw [← (add_delay_spec d (max delay 10) bounded.history).2] at pair
    exact pair
  have rtt : ∀ oldAvg, ((d.receive (max delay 10)).wanted quotient band bitrateFirst oldAvg cap (d.currentFps cap)).1.rttCalculator = (d.receive (max delay 10)).rttCalculator :=
    fun oldAvg => congrArg Counters.rttCalculator (wanted_counters quotient (d.receive (max delay 10)) band bitrateFirst oldAvg cap (d.currentFps cap))
  constructor
  · unfold UserDelay.checkedNetworkDelay UserDelay.networkDelay
    rw [avg_fits { d with stallTicks := 0, stallReferenceFps := none } stored, Option.bind_eq_bind, Option.bind_some, received, Option.bind_eq_bind,
      Option.bind_some, wanted_safe quotient _ band bitrateFirst _ cap _ receivedBounded current narrow sum, Option.bind_eq_bind, Option.bind_some,
      (settle_safe _ (d.currentFps cap) _ cap (max delay 10) bitrateFirst d.stallReferenceFps.isSome
        (wanted_bounded quotient _ band bitrateFirst _ cap _ receivedBounded current narrow) current positive capped).1]
    rfl
  · unfold UserDelay.networkDelay
    rw [settle_rtt, rtt]
    exact receivedSmall

end

end

end

theorem response_elapsed_bounded (d : UserDelay) (cap elapsed : Nat) (bounded : Bounded d) (positive : minFps ≤ cap) (capped : cap ≤ maxFps) :
    Bounded (d.responseElapsed cap elapsed) := by
  have current := current_positive d cap bounded positive
  have least : minFps = 1 := rfl
  have five : minAutoFps = 5 := rfl
  have reference : minFps ≤ d.stallReferenceFps.getD (d.currentFps cap) := by
    cases held : d.stallReferenceFps with
    | none => exact current
    | some fps => exact bounded.reference fps held
  have stored : minFps ≤ d.fps.getD (d.stallReferenceFps.getD (d.currentFps cap)) := by
    cases held : d.fps with
    | none => exact reference
    | some fps => exact (bounded.target fps held).1
  unfold UserDelay.responseElapsed
  by_cases early : elapsed ≤ 2000
  · rw [if_pos early]
    exact bounded
  · rw [if_neg early]
    have ordered : min minAutoFps cap ≤ cap := Nat.min_le_right _ _
    have target : ∀ fps, some (min (clamp (d.stallReferenceFps.getD (d.currentFps cap) / 2 ^ min (elapsed / 1000 % 2 ^ 32 - 1) 5) (min minAutoFps cap) cap)
        (d.fps.getD (d.stallReferenceFps.getD (d.currentFps cap)))) = some fps → minFps ≤ fps ∧ fps ≤ maxFps := by
      intro fps held
      have low := le_clamp (d.stallReferenceFps.getD (d.currentFps cap) / 2 ^ min (elapsed / 1000 % 2 ^ 32 - 1) 5) (min minAutoFps cap) cap ordered
      have high := clamp_le (d.stallReferenceFps.getD (d.currentFps cap) / 2 ^ min (elapsed / 1000 % 2 ^ 32 - 1) 5) (min minAutoFps cap) cap ordered
      have same := Option.some.inj held
      omega
    have history := (add_delay_spec d (elapsed % 2 ^ 32) bounded.history).1
    split
    · exact { bounded with history := history, target := target }
    · refine { bounded with history := history, target := target, bad := Nat.zero_le _, good := Nat.zero_le _, startup := Nat.le_refl _, reference := ?_ }
      intro fps held
      rw [← Option.some.inj held]
      exact reference

-- The shift is at most by five, and the floor is never above the cap.
theorem response_elapsed_safe (d : UserDelay) (cap elapsed : Nat) : d.checkedResponseElapsed cap elapsed = some (d.responseElapsed cap elapsed) := by
  have shift : min (elapsed / 1000 % 2 ^ 32 - 1) 5 ≤ 5 := Nat.min_le_right _ _
  have power : 1 * 2 ^ min (elapsed / 1000 % 2 ^ 32 - 1) 5 < 2 ^ 32 := by
    rw [Nat.one_mul]
    exact Nat.pow_lt_pow_right (by decide) (Nat.lt_of_le_of_lt shift (by decide))
  unfold UserDelay.checkedResponseElapsed UserDelay.responseElapsed
  split
  · rfl
  · dsimp only
    rw [unsignedShl, if_pos (Nat.lt_of_le_of_lt shift (by decide)), Nat.mod_eq_of_lt power, Nat.one_mul, Option.bind_eq_bind, Option.bind_some,
      clamp_checked _ _ _ (Nat.min_le_right _ _)]
    rfl

end GotechDesk.VideoQos
