import GotechDesk.VideoQos.Confirmation

set_option autoImplicit false

namespace GotechDesk.VideoQos

-- A bad reply soon after a restore that takes the restored level back.
def UserDelay.guardFires (d : UserDelay) (excess : Nat) : Bool :=
  d.countReply.any (fun samples => decide (samples ≤ restoreGuardSamples)) && (decide (600 ≤ excess) || decide (2 ≤ d.consecutiveBadSamples))

-- The return level a bad reply leaves before it cuts.
def UserDelay.guardedLevel (d : UserDelay) (current excess : Nat) : Option Nat :=
  if d.guardFires excess then some (current - current / 4) else d.fpsBeforeCongestion

-- A bad reply that takes the level back while the target is below a level still to be returned to.
def UserDelay.overwrites (cap : Nat) (d : UserDelay) : Sample → Bool
  | .reply _ _ delay => decide (delayThreshold150ms ≤ d.replyExcess delay) && d.guardFires (d.replyExcess delay) &&
      d.fpsBeforeCongestion.any (fun level => decide (d.currentFps cap < level))
  | _ => false

-- A congestion episode: the target it began at, and the good replies since its last reduction.
structure Episode where
  level : Nat
  good : Nat
deriving DecidableEq, Repr

section
variable (quotient : Nat → Nat → Nat) (cap : Nat)

def UserDelay.reduces (d : UserDelay) : Sample → Bool
  | .reply band bitrateFirst delay => d.lowers quotient cap band bitrateFirst delay
  | .tick elapsed => decide (2000 < elapsed)
  | .adjusted _ => false

def UserDelay.recovers (d : UserDelay) : Sample → Bool
  | .reply _ _ delay => decide (d.replyExcess delay < delayThreshold150ms)
  | _ => false

-- An episode begins with a reduction when no return level is pending, and lasts while one is.
def episodeSince (episode : Option Episode) (entry : UserDelay × Sample) : Option Episode :=
  if entry.1.fpsBeforeCongestion = none then
    if entry.1.reduces quotient cap entry.2 then some ⟨entry.1.currentFps cap, 0⟩ else none
  else if entry.1.reduces quotient cap entry.2 then episode.map (fun held => { held with good := 0 })
  else if entry.1.recovers entry.2 then episode.map (fun held => { held with good := held.good + 1 })
  else episode

def episodeOf (past : List (UserDelay × Sample)) : Option Episode := past.foldl (episodeSince quotient cap) none

theorem episode_snoc (past : List (UserDelay × Sample)) (entry : UserDelay × Sample) :
    episodeOf quotient cap (past ++ [entry]) = episodeSince quotient cap (episodeOf quotient cap past) entry := by
  rw [episodeOf, List.foldl_append]
  rfl

end

-- What recovering does to the level: nothing at the first good reply, and from the second on
-- it is reached.
theorem recover_level (d : UserDelay) (current fps : Nat) (bounded : d.goodSamples ≤ 3) :
    let result := d.recover current fps
    result.1.goodSamples = d.goodSamples ∧
      (result.1.fpsBeforeCongestion = none ∨ result.1.fpsBeforeCongestion = d.fpsBeforeCongestion) ∧
      (d.goodSamples ≤ 1 → result.1.fpsBeforeCongestion = d.fpsBeforeCongestion) ∧
      (d.returns current = true → result.1.fpsBeforeCongestion = none) ∧
      ∀ level, 2 ≤ d.goodSamples → d.fpsBeforeCongestion = some level → current < level → level ≤ result.2 := by
  rw [UserDelay.returns, ← Option.isSome_filter, UserDelay.recover]
  have filtered : ∀ level, d.fpsBeforeCongestion = some level → current < level →
      d.fpsBeforeCongestion.filter (fun level => decide (current < level)) = some level := by
    intro level held above
    rw [held, Option.filter_some, if_pos (decide_eq_true above)]
  cases held : d.fpsBeforeCongestion.filter (fun level => decide (current < level)) with
  | none =>
      have nothing : ∀ level, 2 ≤ d.goodSamples → d.fpsBeforeCongestion = some level → current < level → level ≤ 0 := by
        intro level _ known above
        rw [filtered level known above] at held
        cases held
      split
      · simp_all
      · simp_all
      · refine ⟨rfl, .inl rfl, fun first => by omega, fun _ => rfl, fun level two known above => ?_⟩
        exact Nat.le_trans (nothing level two known above) (Nat.zero_le _)
      · refine ⟨rfl, .inr rfl, fun _ => rfl, fun returns => ?_, fun level two known above => ?_⟩
        · simp at returns
        · exact Nat.le_trans (nothing level two known above) (Nat.zero_le _)
  | some returned =>
      have same : ∀ level, d.fpsBeforeCongestion = some level → current < level → level = returned := by
        intro level known above
        rw [filtered level known above] at held
        exact Option.some.inj held
      split
      · rename_i level two _
        refine ⟨rfl, .inl rfl, fun first => by omega, fun _ => rfl, fun other _ known above => ?_⟩
        rw [same other known above]
        cases ‹some returned = some level›
        exact Nat.le_max_right _ _
      · rename_i level three _
        refine ⟨rfl, .inl rfl, fun first => by omega, fun _ => rfl, fun other _ known above => ?_⟩
        rw [same other known above]
        cases ‹some returned = some level›
        exact Nat.le_max_right _ _
      · rename_i none
        cases none
      · rename_i second third _
        have early : ¬ 2 ≤ d.goodSamples := by
          intro two
          rcases (by omega : d.goodSamples = 2 ∨ d.goodSamples = 3) with good | good
          · exact second returned good rfl
          · exact third returned good rfl
        refine ⟨rfl, .inr rfl, fun _ => rfl, fun returns => ?_, fun level two _ _ => absurd two early⟩
        rw [decide_eq_false early] at returns
        cases returns

theorem limit_good_level (d : UserDelay) (current fps delay : Nat) (bitrateFirst braked : Bool) (good : d.excess delay < delayThreshold150ms) :
    let result := d.limitFpsChange current fps delay bitrateFirst braked
    result.1.goodSamples = min (d.goodSamples + 1) 3 ∧
      (result.1.fpsBeforeCongestion = none ∨ result.1.fpsBeforeCongestion = d.fpsBeforeCongestion) ∧
      (d.goodSamples = 0 → result.1.fpsBeforeCongestion = d.fpsBeforeCongestion) ∧
      (1 ≤ d.goodSamples → d.fpsBeforeCongestion.any (fun level => decide (current < level)) = true → result.1.fpsBeforeCongestion = none) ∧
      ∀ level, 1 ≤ d.goodSamples → d.fpsBeforeCongestion = some level → current < level → level ≤ result.2 := by
  rw [UserDelay.limitFpsChange, if_pos good]
  obtain ⟨count, level, first, returned, reached⟩ := recover_level
    { d with samplesSinceRestore := d.countReply, consecutiveBadSamples := 0, fpsBadSamples := 0, repliesAfterBitrateReduction := none,
             goodSamples := min (d.goodSamples + 1) 3 } current fps (Nat.min_le_right _ _)
  refine ⟨count, level, fun none => first ?_, fun some above => returned ?_, fun held some => reached held ?_⟩
  · dsimp only
    omega
  · unfold UserDelay.returns
    dsimp only
    rw [above, decide_eq_true (by omega)]
    rfl
  · dsimp only
    omega

theorem guard_restore_level (d : UserDelay) (current excess : Nat) (counted : UserDelay) (restore : counted.samplesSinceRestore = d.countReply)
    (consecutive : counted.consecutiveBadSamples = min (d.consecutiveBadSamples + 1) 3) (level : counted.fpsBeforeCongestion = d.fpsBeforeCongestion) :
    let guarded := counted.guardRestore current (decide (600 ≤ excess) && counted.recentlyRestored)
    guarded.fpsBeforeCongestion = d.guardedLevel current excess ∧ guarded.goodSamples = counted.goodSamples ∧
      guarded.samplesSinceRestore = if d.guardFires excess then none else d.countReply := by
  have fires : (counted.recentlyRestored && ((decide (600 ≤ excess) && counted.recentlyRestored) || decide (3 ≤ counted.consecutiveBadSamples))) =
      d.guardFires excess := by
    have thrice : decide (3 ≤ min (d.consecutiveBadSamples + 1) 3) = decide (2 ≤ d.consecutiveBadSamples) := decide_eq_decide.mpr (by omega)
    rw [UserDelay.recentlyRestored, restore, consecutive, UserDelay.guardFires, thrice]
    cases d.countReply.any (fun samples => decide (samples ≤ restoreGuardSamples)) with
    | false => rfl
    | true => rw [Bool.and_true]
  rw [UserDelay.guardRestore, fires, UserDelay.guardedLevel]
  split
  · exact ⟨rfl, rfl, rfl⟩
  · exact ⟨level, rfl, restore⟩

theorem limit_bad_level (d : UserDelay) (current fps delay : Nat) (bitrateFirst braked : Bool) (bad : ¬ d.excess delay < delayThreshold150ms) :
    let result := d.limitFpsChange current fps delay bitrateFirst braked
    result.1.samplesSinceRestore = (if d.guardFires (d.excess delay) then none else d.countReply) ∧
      ((result.2 = current ∧ result.1.fpsBeforeCongestion = d.guardedLevel current (d.excess delay) ∧ result.1.goodSamples = d.goodSamples) ∨
        (fps < current ∧ result.2 ≤ max fps (current - 1) ∧
          result.1.fpsBeforeCongestion = some ((d.guardedLevel current (d.excess delay)).getD current) ∧ result.1.goodSamples = 0)) := by
  rw [UserDelay.limitFpsChange, if_neg bad, UserDelay.limitBad]
  generalize counts : ({ d with samplesSinceRestore := d.samplesSinceRestore.map (fun samples => min (samples + 1) u8Max) } : UserDelay).countBad = counted
  have fields : counted.samplesSinceRestore = d.countReply ∧ counted.consecutiveBadSamples = min (d.consecutiveBadSamples + 1) 3 ∧
      counted.fpsBeforeCongestion = d.fpsBeforeCongestion ∧ counted.goodSamples = d.goodSamples := by
    rw [← counts]
    exact ⟨rfl, rfl, rfl, rfl⟩
  obtain ⟨restore, consecutive, level, good⟩ := fields
  obtain ⟨guardLevel, guardGood, guardRestore⟩ := guard_restore_level d current (d.excess delay) counted restore consecutive level
  generalize counted.guardRestore current (decide (600 ≤ d.excess delay) && counted.recentlyRestored) = guarded at guardLevel guardGood guardRestore ⊢
  generalize (decide (600 ≤ d.excess delay) && counted.recentlyRestored) = failed
  rw [good] at guardGood
  rw [UserDelay.stepDown]
  by_cases stays : (decide (current ≤ fps) || braked) = true
  · rw [if_pos stays]
    exact ⟨guardRestore, .inl ⟨rfl, guardLevel, guardGood⟩⟩
  · rw [if_neg stays]
    split
    · exact ⟨guardRestore, .inl ⟨rfl, guardLevel, guardGood⟩⟩
    · simp only [Bool.or_eq_true, decide_eq_true_eq, not_or, Bool.not_eq_true] at stays
      refine ⟨guardRestore, .inr ⟨by omega, ?_, ?_, rfl⟩⟩
      · dsimp only
        omega
      · unfold UserDelay.onReduction
        rw [guardLevel]

-- How one reply moves the target, the level and the count of good replies.
inductive Levelled (cap : Nat) (d after : UserDelay) (excess : Nat) : Prop where
  | good : excess < delayThreshold150ms → after.goodSamples = min (d.goodSamples + 1) 3 →
      (after.fpsBeforeCongestion = none ∨ after.fpsBeforeCongestion = d.fpsBeforeCongestion ∧ after.samplesSinceRestore = d.countReply) →
      (d.goodSamples = 0 → after.fpsBeforeCongestion = d.fpsBeforeCongestion) →
      (1 ≤ d.goodSamples → ∀ level, d.fpsBeforeCongestion = some level → min cap level ≤ after.currentFps cap) →
      d.currentFps cap ≤ after.currentFps cap → Levelled cap d after excess
  | waited : ¬ excess < delayThreshold150ms → after.currentFps cap = d.currentFps cap →
      after.samplesSinceRestore = (if d.guardFires excess then none else d.countReply) →
      after.fpsBeforeCongestion = d.guardedLevel (d.currentFps cap) excess → after.goodSamples = d.goodSamples → Levelled cap d after excess
  | cut : ¬ excess < delayThreshold150ms → after.currentFps cap < d.currentFps cap →
      after.samplesSinceRestore = (if d.guardFires excess then none else d.countReply) →
      after.fpsBeforeCongestion = some ((d.guardedLevel (d.currentFps cap) excess).getD (d.currentFps cap)) → after.goodSamples = 0 →
      Levelled cap d after excess

theorem settle_good_level (d : UserDelay) (current fps cap delay : Nat) (bitrateFirst braked : Bool) (positive : 1 ≤ current) (fits : current ≤ cap)
    (floored : min minAutoFps cap ≤ fps) (good : d.excess delay < delayThreshold150ms) :
    let after := d.settle current fps cap delay bitrateFirst braked
    after.goodSamples = min (d.goodSamples + 1) 3 ∧
      (after.fpsBeforeCongestion = none ∨ after.fpsBeforeCongestion = d.fpsBeforeCongestion ∧ after.samplesSinceRestore = d.countReply) ∧
      (d.goodSamples = 0 → after.fpsBeforeCongestion = d.fpsBeforeCongestion) ∧
      (1 ≤ d.goodSamples → ∀ level, d.fpsBeforeCongestion = some level → min cap level ≤ after.currentFps cap) ∧ current ≤ after.currentFps cap := by
  obtain ⟨count, level, first, returned, reached⟩ := limit_good_level d current fps delay bitrateFirst braked good
  have restored := (limit_good d current fps delay bitrateFirst braked good).restored
  have same := settle_counters d current fps cap delay bitrateFirst braked
  have goodSamples := congrArg Counters.goodSamples same
  have before := congrArg Counters.fpsBeforeCongestion same
  have restore := congrArg Counters.samplesSinceRestore same
  have never := (settle_moved d current fps cap delay bitrateFirst braked positive floored).goodNeverLowers good
  have stored : (d.settle current fps cap delay bitrateFirst braked).currentFps cap = clamp
      ((d.limitFpsChange current fps delay bitrateFirst braked).1.accelerateStartup current
        (d.limitFpsChange current fps delay bitrateFirst braked).2 cap delay braked).2 minFps cap := rfl
  have reaches := (accelerate_spec (d.limitFpsChange current fps delay bitrateFirst braked).1 current
    (d.limitFpsChange current fps delay bitrateFirst braked).2 cap delay braked).2
  have above := min_le_clamp ((d.limitFpsChange current fps delay bitrateFirst braked).1.accelerateStartup current
    (d.limitFpsChange current fps delay bitrateFirst braked).2 cap delay braked).2 minFps cap
  rw [← stored] at above
  refine ⟨goodSamples.trans count, ?_, fun none => before.trans (first none), fun some held known => ?_, by omega⟩
  · by_cases returns : (decide (1 ≤ d.goodSamples) && d.fpsBeforeCongestion.any (fun level => decide (current < level))) = true
    · obtain ⟨some, any⟩ := Bool.and_eq_true_iff.mp returns
      exact .inl (before.trans (returned (of_decide_eq_true some) any))
    · rw [if_neg returns] at restored
      refine level.imp before.trans (fun kept => ⟨before.trans kept, restore.trans restored⟩)
  · by_cases higher : current < held
    · have up := reached held some known higher
      omega
    · omega

theorem settle_bad_level (d : UserDelay) (current fps cap delay : Nat) (bitrateFirst braked : Bool) (positive : 1 ≤ current) (fits : current ≤ cap)
    (floored : min minAutoFps cap ≤ fps) (bad : ¬ d.excess delay < delayThreshold150ms) :
    let after := d.settle current fps cap delay bitrateFirst braked
    after.samplesSinceRestore = (if d.guardFires (d.excess delay) then none else d.countReply) ∧
      ((after.currentFps cap = current ∧ after.fpsBeforeCongestion = d.guardedLevel current (d.excess delay) ∧ after.goodSamples = d.goodSamples) ∨
        (after.currentFps cap < current ∧ after.fpsBeforeCongestion = some ((d.guardedLevel current (d.excess delay)).getD current) ∧
          after.goodSamples = 0)) := by
  obtain ⟨restored, moved⟩ := limit_bad_level d current fps delay bitrateFirst braked bad
  have same := settle_counters d current fps cap delay bitrateFirst braked
  have good := congrArg Counters.goodSamples same
  have before := congrArg Counters.fpsBeforeCongestion same
  have restore := congrArg Counters.samplesSinceRestore same
  have target := settle_bad_target d current fps cap delay bitrateFirst braked bad
  refine ⟨restore.trans restored, ?_⟩
  obtain ⟨held, level, count⟩ | ⟨below, lower, level, count⟩ := moved
  · refine .inl ⟨?_, before.trans level, good.trans count⟩
    rw [target, held, clamp_inside current minFps cap positive fits]
  · refine .inr ⟨?_, before.trans level, good.trans count⟩
    rw [target]
    exact clamp_cuts current fps cap _ positive fits floored below lower

theorem level_counters (d other : UserDelay) (current excess : Nat) (same : other.counters = d.counters) :
    other.guardFires excess = d.guardFires excess ∧ other.guardedLevel current excess = d.guardedLevel current excess ∧ other.countReply = d.countReply ∧
      other.goodSamples = d.goodSamples ∧ other.fpsBeforeCongestion = d.fpsBeforeCongestion := by
  have good : other.goodSamples = d.goodSamples := congrArg Counters.goodSamples same
  have level : other.fpsBeforeCongestion = d.fpsBeforeCongestion := congrArg Counters.fpsBeforeCongestion same
  have restore : other.samplesSinceRestore = d.samplesSinceRestore := congrArg Counters.samplesSinceRestore same
  have consecutive : other.consecutiveBadSamples = d.consecutiveBadSamples := congrArg Counters.consecutiveBadSamples same
  have counted : other.countReply = d.countReply := by rw [UserDelay.countReply, restore, UserDelay.countReply]
  have fires : other.guardFires excess = d.guardFires excess := by rw [UserDelay.guardFires, counted, consecutive, UserDelay.guardFires]
  exact ⟨fires, by rw [UserDelay.guardedLevel, fires, level, UserDelay.guardedLevel], counted, good, level⟩

section
variable (quotient : Nat → Nat → Nat)

theorem reply_level (d : UserDelay) (band : Band) (bitrateFirst : Bool) (cap delay : Nat) (within : Within cap d) (some : 1 ≤ cap) :
    Levelled cap d (d.networkDelay quotient band bitrateFirst cap delay).1 (d.replyExcess delay) := by
  rw [UserDelay.networkDelay]
  obtain ⟨floored, received, excess⟩ := reply_wants quotient d band bitrateFirst
    (UserDelay.avgDelay { d with stallTicks := 0, stallReferenceFps := none }) cap delay
  generalize (d.receive (max delay 10)).wanted quotient band bitrateFirst
    (UserDelay.avgDelay { d with stallTicks := 0, stallReferenceFps := none }) cap (d.currentFps cap) = wanted at floored received excess ⊢
  have positive := sane_current d cap within.sane some
  have fits := within_current cap d within
  obtain ⟨fires, guarded, counted, goods, level⟩ := level_counters (d.receive (max delay 10)) wanted.1 (d.currentFps cap) (d.replyExcess delay) received
  by_cases good : d.replyExcess delay < delayThreshold150ms
  · obtain ⟨count, kept, first, reached, never⟩ := settle_good_level wanted.1 (d.currentFps cap) wanted.2 cap (max delay 10) bitrateFirst
      d.stallReferenceFps.isSome positive fits floored (by rw [excess]; exact good)
    rw [goods] at count first reached
    rw [level] at kept first reached
    rw [counted] at kept
    exact .good good count kept first reached never
  · obtain ⟨restored, moved⟩ := settle_bad_level wanted.1 (d.currentFps cap) wanted.2 cap (max delay 10) bitrateFirst
      d.stallReferenceFps.isSome positive fits floored (by rw [excess]; exact good)
    rw [excess, fires, counted] at restored
    rw [excess, guarded, goods] at moved
    obtain ⟨same, kept, count⟩ | ⟨lower, kept, count⟩ := moved
    · exact .waited good same restored kept count
    · exact .cut good lower restored kept count

theorem tick_level (d : UserDelay) (cap elapsed : Nat) (late : 2000 < elapsed) :
    (d.responseElapsed cap elapsed).samplesSinceRestore = d.samplesSinceRestore ∧ (d.responseElapsed cap elapsed).stallReferenceFps.isSome = true ∧
      (d.responseElapsed cap elapsed).goodSamples = (if d.stallReferenceFps.isSome = true then d.goodSamples else 0) ∧
      (d.responseElapsed cap elapsed).fpsBeforeCongestion =
        (if d.stallReferenceFps.isSome = true then d.fpsBeforeCongestion else some (d.fpsBeforeCongestion.getD (d.currentFps cap))) := by
  rw [UserDelay.responseElapsed, if_neg (Nat.not_le.mpr late)]
  cases stall : d.stallReferenceFps with
  | none => exact ⟨rfl, rfl, rfl, rfl⟩
  | some reference => exact ⟨rfl, rfl, rfl, rfl⟩

-- A bad reply within the guard can still take the level back.
def UserDelay.armed (d : UserDelay) : Bool := d.samplesSinceRestore.any (fun samples => decide (samples < restoreGuardSamples))

theorem counted_armed (d after : UserDelay) (counted : after.samplesSinceRestore = d.countReply) (armed : after.armed = true) : d.armed = true := by
  unfold UserDelay.armed at armed ⊢
  rw [counted, UserDelay.countReply, Option.any_map] at armed
  cases held : d.samplesSinceRestore with
  | none =>
      rw [held] at armed
      cases armed
  | some samples =>
      rw [held] at armed
      simp only [Option.any_some, decide_eq_true_eq] at armed ⊢
      have guard : restoreGuardSamples = 5 := rfl
      have most : u8Max = 255 := rfl
      omega

theorem fires_armed (d : UserDelay) (excess : Nat) (fires : d.guardFires excess = true) : d.armed = true := by
  have recent := (Bool.and_eq_true_iff.mp fires).1
  unfold UserDelay.armed
  rw [UserDelay.countReply, Option.any_map] at recent
  cases held : d.samplesSinceRestore with
  | none =>
      rw [held] at recent
      cases recent
  | some samples =>
      rw [held] at recent
      simp only [Option.any_some, decide_eq_true_eq] at recent ⊢
      have guard : restoreGuardSamples = 5 := rfl
      have most : u8Max = 255 := rfl
      omega

-- What an episode that began at `level` holds after so many good replies since its last reduction.
structure Returning (cap : Nat) (d : UserDelay) (level good : Nat) : Prop where
  count : d.goodSamples = min good 3
  pending : good ≤ 1 → d.fpsBeforeCongestion ≠ none
  kept : ∀ held, d.fpsBeforeCongestion = some held → level - level / 4 ≤ held ∧ (d.armed = true → level ≤ held)
  reached : 2 ≤ good → min cap (level - level / 4) ≤ d.currentFps cap

-- The level a bad reply leaves: taken back from a target no lower than the level that was pending.
theorem guarded_kept (cap : Nat) (d : UserDelay) (level good excess held : Nat) (returning : Returning cap d level good)
    (still : d.guardFires excess = true → ∀ before, d.fpsBeforeCongestion = some before → before ≤ d.currentFps cap)
    (there : d.fpsBeforeCongestion ≠ none) (left : d.guardedLevel (d.currentFps cap) excess = some held) :
    level - level / 4 ≤ held ∧ (d.guardFires excess = false → d.armed = true → level ≤ held) := by
  obtain ⟨before, pending⟩ := Option.ne_none_iff_exists'.mp there
  obtain ⟨quarter, whole⟩ := returning.kept before pending
  rw [UserDelay.guardedLevel] at left
  cases fires : d.guardFires excess with
  | true =>
      rw [fires, if_pos rfl] at left
      have same := Option.some.inj left
      have above := whole (fires_armed d excess fires)
      have higher := still fires before pending
      exact ⟨by omega, fun off => by cases off⟩
  | false =>
      rw [fires, if_neg (by decide), pending] at left
      obtain rfl := Option.some.inj left
      exact ⟨quarter, fun _ => whole⟩

theorem armed_kept (cap : Nat) (d after : UserDelay) (level good excess held : Nat) (returning : Returning cap d level good)
    (still : d.guardFires excess = true → ∀ before, d.fpsBeforeCongestion = some before → before ≤ d.currentFps cap)
    (there : d.fpsBeforeCongestion ≠ none) (restored : after.samplesSinceRestore = (if d.guardFires excess then none else d.countReply))
    (left : d.guardedLevel (d.currentFps cap) excess = some held) : level - level / 4 ≤ held ∧ (after.armed = true → level ≤ held) := by
  obtain ⟨quarter, whole⟩ := guarded_kept cap d level good excess held returning still there left
  refine ⟨quarter, fun armed => ?_⟩
  cases fires : d.guardFires excess with
  | true =>
      rw [fires, if_pos rfl] at restored
      unfold UserDelay.armed at armed
      rw [restored] at armed
      cases armed
  | false =>
      rw [fires, if_neg (by decide)] at restored
      exact whole fires (counted_armed d after restored armed)

structure Recovering (cap : Nat) (past : List (UserDelay × Sample)) (d : UserDelay) : Prop where
  within : Within cap d
  bounded : d.goodSamples ≤ 3
  stalled : d.stallReferenceFps.isSome = true → d.goodSamples = 0 ∧ d.fpsBeforeCongestion ≠ none
  episode : ∀ level good, episodeOf quotient cap past = some ⟨level, good⟩ → Returning cap d level good

theorem recovering_fresh (cap : Nat) : Recovering quotient cap [] {} :=
  { within := ⟨fresh_sane, fun _ stored => by cases stored⟩
    bounded := Nat.zero_le _
    stalled := fun stalled => by cases stalled
    episode := fun _ _ none => by cases none }

-- What an episode was before its count of good replies changed.
theorem counted_episode (episode : Option Episode) (change : Nat → Nat) (level good : Nat)
    (counted : episode.map (fun held => { held with good := change held.good }) = some ⟨level, good⟩) :
    ∃ before, episode = some ⟨level, before⟩ ∧ change before = good := by
  obtain ⟨⟨earlier, before⟩, since, same⟩ := Option.map_eq_some_iff.mp counted
  cases same
  exact ⟨before, since, rfl⟩

section
variable (cap : Nat) (past : List (UserDelay × Sample)) (d after : UserDelay) (band : Band) (bitrateFirst : Bool) (delay : Nat)

theorem recovering_good (held : Recovering quotient cap past d) (within : Within cap after) (answered : after.stallReferenceFps = none)
    (still : d.lowers quotient cap band bitrateFirst delay = false) (good : d.replyExcess delay < delayThreshold150ms)
    (count : after.goodSamples = min (d.goodSamples + 1) 3)
    (level : after.fpsBeforeCongestion = none ∨ after.fpsBeforeCongestion = d.fpsBeforeCongestion ∧ after.samplesSinceRestore = d.countReply)
    (first : d.goodSamples = 0 → after.fpsBeforeCongestion = d.fpsBeforeCongestion)
    (reached : 1 ≤ d.goodSamples → ∀ level, d.fpsBeforeCongestion = some level → min cap level ≤ after.currentFps cap)
    (never : d.currentFps cap ≤ after.currentFps cap) : Recovering quotient cap (past ++ [(d, .reply band bitrateFirst delay)]) after := by
  refine ⟨within, by omega, fun stalled => absurd stalled (by rw [answered]; decide), fun begun goods episode => ?_⟩
  rw [episode_snoc, episodeSince] at episode
  by_cases none : d.fpsBeforeCongestion = none
  · rw [if_pos none, UserDelay.reduces, still] at episode
    cases episode
  · rw [if_neg none, UserDelay.reduces, still, if_neg (by decide), UserDelay.recovers, if_pos (decide_eq_true good)] at episode
    obtain ⟨before, since, rfl⟩ := counted_episode _ (fun good => good + 1) begun goods episode
    obtain ⟨counted, pending, kept, far⟩ := held.episode begun before since
    refine ⟨by omega, fun early => ?_, fun back left => ?_, fun two => ?_⟩
    · rw [first (by omega)]
      exact none
    · obtain gone | ⟨stays, restored⟩ := level
      · rw [gone] at left
        cases left
      · rw [stays] at left
        exact (kept back left).imp_right (fun whole armed => whole (counted_armed d after restored armed))
    · by_cases third : 2 ≤ before
      · exact Nat.le_trans (far third) never
      · obtain ⟨back, known⟩ := Option.ne_none_iff_exists'.mp none
        have returned := reached (by omega) back known
        have quarter := (kept back known).1
        omega

theorem recovering_waited (held : Recovering quotient cap past d) (within : Within cap after) (answered : after.stallReferenceFps = none)
    (still : d.lowers quotient cap band bitrateFirst delay = false) (bad : ¬ d.replyExcess delay < delayThreshold150ms)
    (guarded : d.guardFires (d.replyExcess delay) = true → ∀ before, d.fpsBeforeCongestion = some before → before ≤ d.currentFps cap)
    (same : after.currentFps cap = d.currentFps cap)
    (restored : after.samplesSinceRestore = (if d.guardFires (d.replyExcess delay) then none else d.countReply))
    (level : after.fpsBeforeCongestion = d.guardedLevel (d.currentFps cap) (d.replyExcess delay)) (count : after.goodSamples = d.goodSamples) :
    Recovering quotient cap (past ++ [(d, .reply band bitrateFirst delay)]) after := by
  refine ⟨within, by rw [count]; exact held.bounded, fun stalled => absurd stalled (by rw [answered]; decide), fun begun goods episode => ?_⟩
  rw [episode_snoc, episodeSince] at episode
  by_cases none : d.fpsBeforeCongestion = none
  · rw [if_pos none, UserDelay.reduces, still] at episode
    cases episode
  · rw [if_neg none, UserDelay.reduces, still, if_neg (by decide), UserDelay.recovers, decide_eq_false bad, if_neg (by decide)] at episode
    have returning := held.episode begun goods episode
    refine ⟨count.trans returning.count, fun early gone => ?_, fun back left => ?_, fun two => ?_⟩
    · rw [level, UserDelay.guardedLevel] at gone
      split at gone
      · cases gone
      · exact none gone
    · rw [level] at left
      exact armed_kept cap d after begun goods _ back returning guarded none restored left
    · rw [same]
      exact returning.reached two

theorem recovering_cut (held : Recovering quotient cap past d) (within : Within cap after) (answered : after.stallReferenceFps = none)
    (lower : d.lowers quotient cap band bitrateFirst delay = true)
    (guarded : d.guardFires (d.replyExcess delay) = true → ∀ before, d.fpsBeforeCongestion = some before → before ≤ d.currentFps cap)
    (restored : after.samplesSinceRestore = (if d.guardFires (d.replyExcess delay) then none else d.countReply))
    (level : after.fpsBeforeCongestion = some ((d.guardedLevel (d.currentFps cap) (d.replyExcess delay)).getD (d.currentFps cap)))
    (count : after.goodSamples = 0) : Recovering quotient cap (past ++ [(d, .reply band bitrateFirst delay)]) after := by
  refine ⟨within, by omega, fun stalled => absurd stalled (by rw [answered]; decide), fun begun goods episode => ?_⟩
  rw [episode_snoc, episodeSince] at episode
  have there : after.fpsBeforeCongestion ≠ none := by
    rw [level]
    exact Option.some_ne_none _
  by_cases none : d.fpsBeforeCongestion = none
  · rw [if_pos none, UserDelay.reduces, lower, if_pos rfl] at episode
    obtain ⟨rfl, rfl⟩ := Episode.mk.inj (Option.some.inj episode)
    dsimp only
    refine ⟨count, fun _ => there, fun back left => ?_, fun two => by omega⟩
    rw [level] at left
    have same := Option.some.inj left
    rw [UserDelay.guardedLevel, none] at same
    cases fires : d.guardFires (d.replyExcess delay) with
    | true =>
        rw [fires, if_pos rfl] at same restored
        refine ⟨Nat.le_of_eq same, fun armed => ?_⟩
        unfold UserDelay.armed at armed
        rw [restored] at armed
        cases armed
    | false =>
        rw [fires, if_neg (by decide), Option.getD_none] at same
        exact ⟨by omega, fun _ => Nat.le_of_eq same⟩
  · rw [if_neg none, UserDelay.reduces, lower, if_pos rfl] at episode
    obtain ⟨before, since, rfl⟩ := counted_episode _ (fun _ => 0) begun goods episode
    have returning := held.episode begun before since
    refine ⟨count, fun _ => there, fun back left => ?_, fun two => by omega⟩
    obtain ⟨kept, known⟩ : ∃ kept, d.guardedLevel (d.currentFps cap) (d.replyExcess delay) = some kept := by
      rw [UserDelay.guardedLevel]
      split
      · exact ⟨_, rfl⟩
      · exact Option.ne_none_iff_exists'.mp none
    rw [level, known, Option.getD_some] at left
    obtain rfl := Option.some.inj left
    exact armed_kept cap d after begun before _ kept returning guarded none restored known

end

section
variable (cap : Nat) (past : List (UserDelay × Sample)) (d : UserDelay)

theorem recovering_tick (elapsed : Nat) (held : Recovering quotient cap past d)
    (positive : 1 ≤ cap) : Recovering quotient cap (past ++ [(d, .tick elapsed)]) (d.responseElapsed cap elapsed) := by
  by_cases late : 2000 < elapsed
  · obtain ⟨restored, braked, good, level⟩ := tick_level d cap elapsed late
    have zero : (d.responseElapsed cap elapsed).goodSamples = 0 := by
      rw [good]
      split
      · exact (held.stalled ‹_›).1
      · rfl
    have there : (d.responseElapsed cap elapsed).fpsBeforeCongestion ≠ none := by
      rw [level]
      split
      · exact (held.stalled ‹_›).2
      · exact Option.some_ne_none _
    refine ⟨⟨(response_elapsed_spec d cap elapsed held.within.sane positive).1, (tick_spec d cap elapsed late).2.2.2.2⟩, by omega, fun _ => ⟨zero, there⟩, ?_⟩
    intro begun goods episode
    rw [episode_snoc, episodeSince] at episode
    by_cases none : d.fpsBeforeCongestion = none
    · rw [if_pos none, UserDelay.reduces, decide_eq_true late, if_pos rfl] at episode
      obtain ⟨rfl, rfl⟩ := Episode.mk.inj (Option.some.inj episode)
      dsimp only
      have calm : ¬ d.stallReferenceFps.isSome = true := fun stalled => (held.stalled stalled).2 none
      refine ⟨zero, fun _ => there, fun back left => ?_, fun two => by omega⟩
      rw [level, if_neg calm, none] at left
      have same := Option.some.inj left
      rw [Option.getD_none] at same
      exact ⟨by omega, fun _ => Nat.le_of_eq same⟩
    · rw [if_neg none, UserDelay.reduces, decide_eq_true late, if_pos rfl] at episode
      obtain ⟨before, since, rfl⟩ := counted_episode _ (fun _ => 0) begun goods episode
      have returning := held.episode begun before since
      obtain ⟨known, pending⟩ := Option.ne_none_iff_exists'.mp none
      have kept : (d.responseElapsed cap elapsed).fpsBeforeCongestion = d.fpsBeforeCongestion := by
        rw [level, pending]
        split <;> rfl
      refine ⟨zero, fun _ => there, fun back left => ?_, fun two => by omega⟩
      rw [kept] at left
      refine (returning.kept back left).imp_right (fun whole armed => whole ?_)
      unfold UserDelay.armed at armed ⊢
      rw [restored] at armed
      exact armed
  · have early : d.responseElapsed cap elapsed = d := by rw [UserDelay.responseElapsed, if_pos (Nat.le_of_not_lt late)]
    rw [early]
    refine { held with episode := fun begun goods episode => ?_ }
    rw [episode_snoc, episodeSince] at episode
    by_cases none : d.fpsBeforeCongestion = none
    · rw [if_pos none, UserDelay.reduces, decide_eq_false late] at episode
      cases episode
    · rw [if_neg none, UserDelay.reduces, decide_eq_false late] at episode
      exact held.episode begun goods episode

theorem recovering_adjusted (lowered : Bool) (held : Recovering quotient cap past d) :
    Recovering quotient cap (past ++ [(d, .adjusted lowered)]) (d.answerReduction lowered) := by
  have same : ∀ begun goods, episodeOf quotient cap (past ++ [(d, .adjusted lowered)]) = some ⟨begun, goods⟩ → episodeOf quotient cap past = some ⟨begun, goods⟩ := by
    intro begun goods episode
    rw [episode_snoc, episodeSince] at episode
    split at episode
    · cases episode
    · exact episode
  unfold UserDelay.answerReduction
  split
  · refine ⟨⟨⟨held.within.sane.positive, held.within.sane.stalled⟩, held.within.fits⟩, held.bounded, held.stalled, fun begun goods episode => ?_⟩
    obtain ⟨count, pending, kept, reached⟩ := held.episode begun goods (same begun goods episode)
    exact ⟨count, pending, kept, reached⟩
  · exact { held with episode := fun begun goods episode => held.episode begun goods (same begun goods episode) }

end

theorem recovering_step (cap : Nat) (positive : 1 ≤ cap) (past : List (UserDelay × Sample)) (d after : UserDelay) (event : Sample)
    (held : Recovering quotient cap past d) (fits : d.overwrites cap event = false) (taken : d.sample quotient cap event = some after) :
    Recovering quotient cap (past ++ [(d, event)]) after := by
  cases event with
  | reply band bitrateFirst delay =>
      obtain rfl := Option.some.inj taken
      have within := reply_within quotient cap d band bitrateFirst delay positive
      have answered := reply_unbrakes quotient d band bitrateFirst cap delay
      have guarded : ¬ d.replyExcess delay < delayThreshold150ms → d.guardFires (d.replyExcess delay) = true →
          ∀ before, d.fpsBeforeCongestion = some before → before ≤ d.currentFps cap := by
        intro bad fires before pending
        rw [UserDelay.overwrites, decide_eq_true (Nat.not_lt.mp bad), fires, pending] at fits
        exact Nat.not_lt.mp (of_decide_eq_false fits)
      cases reply_level quotient d band bitrateFirst cap delay held.within positive with
      | good good count level first reached never =>
          exact recovering_good quotient cap past d _ band bitrateFirst delay held within answered (decide_eq_false (Nat.not_lt.mpr never)) good
            count level first reached never
      | waited bad same restored level count =>
          exact recovering_waited quotient cap past d _ band bitrateFirst delay held within answered
            (decide_eq_false (Nat.not_lt.mpr (Nat.le_of_eq same.symm))) bad (guarded bad) same restored level count
      | cut bad lower restored level count =>
          exact recovering_cut quotient cap past d _ band bitrateFirst delay held within answered (decide_eq_true lower) (guarded bad) restored
            level count
  | tick elapsed =>
      obtain rfl := Option.some.inj taken
      exact recovering_tick quotient cap past d elapsed held positive
  | adjusted lowered =>
      obtain rfl := Option.some.inj taken
      exact recovering_adjusted quotient cap past d lowered held

theorem recovery_level (customFps autoAdjustFps : Option Nat) (past : List (UserDelay × Sample)) (d : UserDelay)
    (traced : Machine.Traced (UserDelay.sample quotient (fpsCap customFps autoAdjustFps)) {} past d)
    (fits : ∀ entry ∈ past, entry.1.overwrites (fpsCap customFps autoAdjustFps) entry.2 = false) (level good : Nat)
    (episode : episodeOf quotient (fpsCap customFps autoAdjustFps) past = some ⟨level, good⟩) (two : 2 ≤ good) :
    min (fpsCap customFps autoAdjustFps) (level - level / 4) ≤ d.currentFps (fpsCap customFps autoAdjustFps) := by
  have positive := viewer_cap_pos customFps autoAdjustFps
  generalize fpsCap customFps autoAdjustFps = cap at *
  have held : (∀ entry ∈ past, entry.1.overwrites cap entry.2 = false) → Recovering quotient cap past d := by
    refine Machine.traced_invariant (UserDelay.sample quotient cap)
      (fun past d => (∀ entry ∈ past, entry.1.overwrites cap entry.2 = false) → Recovering quotient cap past d) {} d past
      (fun _ => recovering_fresh quotient cap) ?_ traced
    intro earlier state event after recovering taken fitting
    obtain ⟨before, last⟩ := List.forall_mem_append.mp fitting
    exact recovering_step quotient cap positive earlier state after event (recovering before) (last (state, event) List.mem_cons_self) taken
  exact ((held fits).episode level good episode).reached two

end

-- The quotient of the source with exact division.
def ceilQuotient (fps avgDelay : Nat) : Nat := (fps * delayThreshold150ms + avgDelay - 1) / avgDelay

-- A probe that passed two seconds brakes the target, and two good replies bring it back.
def restoredSamples : List Sample := [.reply ⟨10, 20⟩ false 10, .reply ⟨10, 20⟩ false 10, .tick 2001, .reply ⟨10, 20⟩ false 10, .reply ⟨10, 20⟩ false 10]

-- The next probe stalls as well, and its late reply comes with the target at the floor.
def lateReplySamples : List Sample :=
  restoredSamples ++ [.tick 4001, .reply ⟨10, 20⟩ false 4500, .reply ⟨10, 20⟩ false 10, .reply ⟨10, 20⟩ false 10]

theorem restored_runs : (Machine.run (UserDelay.sample ceilQuotient (fpsCap none none)) {} restoredSamples).isSome = true := by
  simp [Machine.run, restoredSamples, UserDelay.sample]

theorem late_reply_runs : (Machine.run (UserDelay.sample ceilQuotient (fpsCap none none)) {} lateReplySamples).isSome = true := by
  simp [Machine.run, lateReplySamples, restoredSamples, UserDelay.sample]

theorem recovery_level_restored : min (fpsCap none none) (30 - 30 / 4) ≤
    ((Machine.run (UserDelay.sample ceilQuotient (fpsCap none none)) {} restoredSamples).get restored_runs).currentFps (fpsCap none none) :=
  recovery_level ceilQuotient none none _ _ (Machine.traced_run _ _ _ restored_runs) (by decide +kernel) 30 2 (by decide +kernel) (by decide)

theorem late_reply_forgets_level : ∃ past d level, Machine.Traced (UserDelay.sample ceilQuotient (fpsCap none none)) {} past d ∧
    episodeOf ceilQuotient (fpsCap none none) past = some ⟨level, 2⟩ ∧ d.currentFps (fpsCap none none) < min (fpsCap none none) (level - level / 4) :=
  ⟨_, _, 30, Machine.traced_run _ _ _ late_reply_runs, by decide +kernel, by decide +kernel⟩

end GotechDesk.VideoQos
