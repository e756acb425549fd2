import GotechDesk.VideoQos.Evidence

set_option autoImplicit false

namespace GotechDesk.VideoQos

-- What happens to one viewer's delay state: a reply with what the controller judges it by, a look
-- at an outstanding probe, and the controller having adjusted the bitrate.
inductive Sample where
  | reply (band : Band) (bitrateFirst : Bool) (delay : Nat)
  | tick (elapsed : Nat)
  | adjusted (lowered : Bool)
deriving DecidableEq, Repr

-- The delay the limiter judges a reply by.
def UserDelay.replyExcess (d : UserDelay) (delay : Nat) : Nat := (d.receive (max delay 10)).excess (max delay 10)

-- A good reply that takes the target back to the level held before congestion.
def UserDelay.restores (d : UserDelay) (cap delay : Nat) : Bool :=
  decide (d.replyExcess delay < delayThreshold150ms) && decide (1 ≤ d.goodSamples) &&
    d.fpsBeforeCongestion.any (fun level => decide (d.currentFps cap < level))

-- An adjustment that lowers the bitrate is charged to the viewers that call for it and wait for none.
def UserDelay.charged (d : UserDelay) (lowered : Bool) : Bool :=
  lowered && d.needsBitrateReduction && d.repliesAfterBitrateReduction.isNone

section
variable (quotient : Nat → Nat → Nat) (cap : Nat)

def UserDelay.sample (d : UserDelay) : Sample → Option UserDelay
  | .reply band bitrateFirst delay => some (d.networkDelay quotient band bitrateFirst cap delay).1
  | .tick elapsed => some (d.responseElapsed cap elapsed)
  | .adjusted lowered => some (d.answerReduction lowered)

def UserDelay.lowers (d : UserDelay) (band : Band) (bitrateFirst : Bool) (delay : Nat) : Bool :=
  decide ((d.networkDelay quotient band bitrateFirst cap delay).1.currentFps cap < d.currentFps cap)

def badSince (count : Nat) (entry : UserDelay × Sample) : Nat :=
  match entry.2 with
  | .reply band bitrateFirst delay =>
      if decide (entry.1.replyExcess delay < delayThreshold150ms) || entry.1.lowers quotient cap band bitrateFirst delay then 0 else count + 1
  | .tick elapsed => if 2000 < elapsed then 0 else count
  | .adjusted _ => count

def repliesSince (count : Option Nat) (entry : UserDelay × Sample) : Option Nat :=
  match entry.2 with
  | .reply _ _ delay => if entry.1.restores cap delay then some 0 else count.map (fun replies => replies + 1)
  | _ => count

def badSinceCharge (count : Option Nat) (entry : UserDelay × Sample) : Option Nat :=
  match entry.2 with
  | .reply _ _ delay => if entry.1.replyExcess delay < delayThreshold150ms then count else count.map (fun replies => replies + 1)
  | .tick _ => count
  | .adjusted lowered => if entry.1.charged lowered then some 0 else count

-- The bad replies since the last good one, the last cut and the last brake.
def badReplies (past : List (UserDelay × Sample)) : Nat := past.foldl (badSince quotient cap) 0

-- The replies since the last fast restore, when there was one.
def repliesSinceRestore (past : List (UserDelay × Sample)) : Option Nat := past.foldl (repliesSince cap) none

-- The bad replies since the last charged reduction of the bitrate, when there was one.
def badRepliesSinceCharge (past : List (UserDelay × Sample)) : Option Nat := past.foldl badSinceCharge none

-- What a cut by this reply rests on.
inductive Confirmed (past : List (UserDelay × Sample)) (d : UserDelay) (bitrateFirst : Bool) (delay : Nat) : Prop where
  | severe : 1000 ≤ d.replyExcess delay → Confirmed past d bitrateFirst delay
  | failedRestore (replies : Nat) : 600 ≤ d.replyExcess delay → repliesSinceRestore cap past = some replies →
      replies + 1 ≤ restoreGuardSamples → Confirmed past d bitrateFirst delay
  | ordinary : delayThreshold150ms ≤ d.replyExcess delay → 3 ≤ badReplies quotient cap past + 1 →
      (bitrateFirst = true → ∀ replies, badRepliesSinceCharge past = some replies → 2 ≤ replies + 1) → Confirmed past d bitrateFirst delay

end

-- The counters the limiter reads, which nothing before or after it in a reply touches.
structure Counters where
  consecutiveBadSamples : Nat
  fpsBadSamples : Nat
  goodSamples : Nat
  repliesAfterBitrateReduction : Option Nat
  fpsBeforeCongestion : Option Nat
  samplesSinceRestore : Option Nat
  rttCalculator : RttCalculator
  stallReferenceFps : Option Nat
deriving DecidableEq, Repr

def UserDelay.counters (d : UserDelay) : Counters :=
  ⟨d.consecutiveBadSamples, d.fpsBadSamples, d.goodSamples, d.repliesAfterBitrateReduction, d.fpsBeforeCongestion, d.samplesSinceRestore,
    d.rttCalculator, d.stallReferenceFps⟩

theorem accelerate_counters (d : UserDelay) (current fps cap delay : Nat) (braked : Bool) :
    (d.accelerateStartup current fps cap delay braked).1.counters = d.counters := by
  rw [UserDelay.accelerateStartup]
  split
  · rfl
  · split
    · rfl
    · split <;> rfl

theorem band_counters (quotient : Nat → Nat → Nat) (d : UserDelay) (band : Band) (oldAvg avg fps : Nat) :
    (d.bandFps quotient band oldAvg avg fps).1.counters = d.counters := by
  simp only [UserDelay.bandFps]
  split
  · split <;> rfl
  · repeat' split
    all_goals rfl

theorem boost_counters (d : UserDelay) (avg fps : Nat) : (d.boost avg fps).1.counters = d.counters := by
  simp only [UserDelay.boost]
  generalize (if avg < delayThreshold150ms then d.increaseFpsCount + 1 else 0) = count
  split <;> rfl

theorem wanted_counters (quotient : Nat → Nat → Nat) (d : UserDelay) (band : Band) (bitrateFirst : Bool) (oldAvg cap current : Nat) :
    (d.wanted quotient band bitrateFirst oldAvg cap current).1.counters = d.counters := by
  rw [UserDelay.wanted]
  rw [boost_counters, band_counters]

-- Two good replies in a row, and a level above the target to go back to.
def UserDelay.returns (d : UserDelay) (current : Nat) : Bool :=
  decide (2 ≤ d.goodSamples) && d.fpsBeforeCongestion.any (fun level => decide (current < level))

theorem recover_counters (d : UserDelay) (current fps : Nat) (bounded : d.goodSamples ≤ 3) :
    (d.recover current fps).1.consecutiveBadSamples = d.consecutiveBadSamples ∧ (d.recover current fps).1.fpsBadSamples = d.fpsBadSamples ∧
      (d.recover current fps).1.repliesAfterBitrateReduction = d.repliesAfterBitrateReduction ∧
      (d.recover current fps).1.samplesSinceRestore = if d.returns current then some 0 else d.samplesSinceRestore := by
  rw [UserDelay.returns, ← Option.isSome_filter, UserDelay.recover]
  cases level : d.fpsBeforeCongestion.filter (fun level => decide (current < level)) with
  | none =>
      split
      · simp_all
      · simp_all
      · simp
      · simp
  | some held =>
      split
      · simp_all
      · simp_all
      · simp_all
      · rename_i good other third _
        have early : ¬ 2 ≤ d.goodSamples := by
          intro two
          rcases (by omega : d.goodSamples = 2 ∨ d.goodSamples = 3) with second | last
          · exact other held second rfl
          · exact third held last rfl
        simp [early]

def UserDelay.countReply (d : UserDelay) : Option Nat := d.samplesSinceRestore.map (fun samples => min (samples + 1) u8Max)

-- A good reply forgets every sign of congestion.
structure AfterGood (current : Nat) (d after : UserDelay) : Prop where
  consecutive : after.consecutiveBadSamples = 0
  fpsBad : after.fpsBadSamples = 0
  replies : after.repliesAfterBitrateReduction = none
  restored : after.samplesSinceRestore =
    if decide (1 ≤ d.goodSamples) && d.fpsBeforeCongestion.any (fun level => decide (current < level)) then some 0 else d.countReply

-- What lets a bad reply cut.
inductive Grounds (d : UserDelay) (bitrateFirst : Bool) (excess : Nat) : Prop where
  | severe : 1000 ≤ excess → Grounds d bitrateFirst excess
  | failedRestore : 600 ≤ excess → d.countReply.any (fun samples => decide (samples ≤ restoreGuardSamples)) = true →
      Grounds d bitrateFirst excess
  | ordinary : 3 ≤ d.fpsBadSamples + 1 → (bitrateFirst = true → ∃ replies, d.repliesAfterBitrateReduction = some replies ∧ 1 ≤ replies) →
      Grounds d bitrateFirst excess

structure AfterBad (d after : UserDelay) : Prop where
  consecutive : after.consecutiveBadSamples = min (d.consecutiveBadSamples + 1) 3
  replies : after.repliesAfterBitrateReduction = d.repliesAfterBitrateReduction.map (fun replies => min (replies + 1) 2)
  restored : after.samplesSinceRestore = none ∨ after.samplesSinceRestore = d.countReply

theorem guard_restore_spec (d : UserDelay) (current : Nat) (failedRestore : Bool) :
    (d.guardRestore current failedRestore).consecutiveBadSamples = d.consecutiveBadSamples ∧
      (d.guardRestore current failedRestore).fpsBadSamples = d.fpsBadSamples ∧
      (d.guardRestore current failedRestore).repliesAfterBitrateReduction = d.repliesAfterBitrateReduction ∧
      ((d.guardRestore current failedRestore).samplesSinceRestore = none ∨
        (d.guardRestore current failedRestore).samplesSinceRestore = d.samplesSinceRestore) := by
  rw [UserDelay.guardRestore]
  split
  · exact ⟨rfl, rfl, rfl, .inl rfl⟩
  · exact ⟨rfl, rfl, rfl, .inr rfl⟩

-- The counters a step down leaves alone, and the one it starts over when it cuts.
theorem step_down_counters (d : UserDelay) (current fps excess : Nat) (failedRestore bitrateFirst braked : Bool) :
    let result := d.stepDown current fps excess failedRestore bitrateFirst braked
    result.1.consecutiveBadSamples = d.consecutiveBadSamples ∧ result.1.repliesAfterBitrateReduction = d.repliesAfterBitrateReduction ∧
      result.1.samplesSinceRestore = d.samplesSinceRestore ∧
      ((result.2 = current ∧ result.1.fpsBadSamples = d.fpsBadSamples) ∨
        (fps < current ∧ result.2 ≤ max fps (current - 1) ∧ result.1.fpsBadSamples = 0 ∧
          (1000 ≤ excess ∨ failedRestore = true ∨
            (3 ≤ d.fpsBadSamples ∧ (bitrateFirst = true → 2 ≤ d.repliesAfterBitrateReduction.getD 0))))) := by
  rw [UserDelay.stepDown]
  by_cases stays : (decide (current ≤ fps) || braked) = true
  · rw [if_pos stays]
    exact ⟨rfl, rfl, rfl, .inl ⟨rfl, rfl⟩⟩
  · rw [if_neg stays]
    by_cases waits : (!failedRestore && decide (excess < 1000) &&
        (decide (d.fpsBadSamples < 3) || (bitrateFirst && decide (d.repliesAfterBitrateReduction.getD 0 < 2)))) = true
    · rw [if_pos waits]
      exact ⟨rfl, rfl, rfl, .inl ⟨rfl, rfl⟩⟩
    · rw [if_neg waits]
      simp only [Bool.or_eq_true, decide_eq_true_eq, not_or, Bool.not_eq_true] at stays
      refine ⟨rfl, rfl, rfl, .inr ⟨by omega, ?_, rfl, ?_⟩⟩
      · dsimp only
        omega
      · by_cases severe : 1000 ≤ excess
        · exact .inl severe
        · cases failedRestore with
          | true => exact .inr (.inl rfl)
          | false =>
              have mild : decide (excess < 1000) = true := decide_eq_true (Nat.lt_of_not_le severe)
              simp only [Bool.not_false, mild, Bool.true_and, Bool.or_eq_true, Bool.and_eq_true, decide_eq_true_eq, not_or, not_and,
                Nat.not_lt] at waits
              exact .inr (.inr waits)

theorem limit_good (d : UserDelay) (current fps delay : Nat) (bitrateFirst braked : Bool) (good : d.excess delay < delayThreshold150ms) :
    AfterGood current d (d.limitFpsChange current fps delay bitrateFirst braked).1 := by
  rw [UserDelay.limitFpsChange, if_pos good]
  obtain ⟨consecutive, fpsBad, replies, restored⟩ := recover_counters
    { d with samplesSinceRestore := d.countReply, consecutiveBadSamples := 0, fpsBadSamples := 0, repliesAfterBitrateReduction := none,
             goodSamples := min (d.goodSamples + 1) 3 } current fps (Nat.min_le_right _ _)
  refine ⟨consecutive, fpsBad, replies, restored.trans ?_⟩
  have twice : (2 ≤ min (d.goodSamples + 1) 3) ↔ 1 ≤ d.goodSamples := by omega
  simp only [UserDelay.returns, twice]

theorem limit_bad (d : UserDelay) (current fps delay : Nat) (bitrateFirst braked : Bool) (bad : ¬ d.excess delay < delayThreshold150ms) :
    let result := d.limitFpsChange current fps delay bitrateFirst braked
    AfterBad d result.1 ∧ ((result.2 = current ∧ result.1.fpsBadSamples = min (d.fpsBadSamples + 1) 3) ∨
      (fps < current ∧ result.2 ≤ max fps (current - 1) ∧ result.1.fpsBadSamples = 0 ∧ Grounds d bitrateFirst (d.excess delay))) := by
  rw [UserDelay.limitFpsChange, if_neg bad, UserDelay.limitBad]
  generalize counts : ({ d with samplesSinceRestore := d.samplesSinceRestore.map (fun samples => min (samples + 1) u8Max) } : UserDelay).countBad = counted
  have fields : counted.consecutiveBadSamples = min (d.consecutiveBadSamples + 1) 3 ∧ counted.fpsBadSamples = min (d.fpsBadSamples + 1) 3 ∧
      counted.repliesAfterBitrateReduction = d.repliesAfterBitrateReduction.map (fun replies => min (replies + 1) 2) ∧
      counted.samplesSinceRestore = d.countReply := by
    rw [← counts]
    exact ⟨rfl, rfl, rfl, rfl⟩
  generalize restoreFailed : (decide (600 ≤ d.excess delay) && counted.recentlyRestored) = failed
  obtain ⟨guardConsecutive, guardBad, guardReplies, guardRestored⟩ := guard_restore_spec counted current failed
  obtain ⟨consecutive, replies, restored, moved⟩ := step_down_counters (counted.guardRestore current failed) current fps (d.excess delay)
    failed bitrateFirst braked
  obtain ⟨countedConsecutive, countedBad, countedReplies, countedRestored⟩ := fields
  refine ⟨⟨?_, ?_, ?_⟩, ?_⟩
  · rw [consecutive, guardConsecutive, countedConsecutive]
  · rw [replies, guardReplies, countedReplies]
  · rw [restored, ← countedRestored]
    exact guardRestored
  · rcases moved with ⟨same, kept⟩ | ⟨below, lower, reset, grounds⟩
    · exact .inl ⟨same, by rw [kept, guardBad, countedBad]⟩
    · refine .inr ⟨below, lower, reset, ?_⟩
      rcases grounds with severe | failedRestore | ⟨thrice, waited⟩
      · exact .severe severe
      · rw [← restoreFailed, Bool.and_eq_true, decide_eq_true_eq, UserDelay.recentlyRestored, countedRestored] at failedRestore
        exact .failedRestore failedRestore.1 failedRestore.2
      · rw [guardBad, countedBad] at thrice
        refine .ordinary (by omega) ?_
        intro first
        have twice := waited first
        rw [guardReplies, countedReplies] at twice
        cases held : d.repliesAfterBitrateReduction with
        | none => simp [held] at twice
        | some count =>
            simp only [held, Option.map_some, Option.getD_some] at twice
            exact ⟨count, rfl, by omega⟩

-- The limiter reads nothing of a delay state but its counters.
theorem good_counters (current : Nat) (d other after : UserDelay) (same : other.counters = d.counters) (good : AfterGood current other after) :
    AfterGood current d after := by
  have goodSamples : other.goodSamples = d.goodSamples := congrArg Counters.goodSamples same
  have level : other.fpsBeforeCongestion = d.fpsBeforeCongestion := congrArg Counters.fpsBeforeCongestion same
  have restore : other.samplesSinceRestore = d.samplesSinceRestore := congrArg Counters.samplesSinceRestore same
  obtain ⟨consecutive, fpsBad, replies, restored⟩ := good
  rw [goodSamples, level, UserDelay.countReply, restore] at restored
  exact ⟨consecutive, fpsBad, replies, restored⟩

theorem bad_counters (d other after : UserDelay) (same : other.counters = d.counters) (bad : AfterBad other after) : AfterBad d after := by
  have consecutive : other.consecutiveBadSamples = d.consecutiveBadSamples := congrArg Counters.consecutiveBadSamples same
  have replies : other.repliesAfterBitrateReduction = d.repliesAfterBitrateReduction := congrArg Counters.repliesAfterBitrateReduction same
  have restore : other.samplesSinceRestore = d.samplesSinceRestore := congrArg Counters.samplesSinceRestore same
  refine ⟨?_, ?_, ?_⟩
  · rw [← consecutive]
    exact bad.consecutive
  · rw [← replies]
    exact bad.replies
  · rw [UserDelay.countReply, ← restore]
    exact bad.restored

theorem grounds_counters (d other : UserDelay) (bitrateFirst : Bool) (excess : Nat) (same : other.counters = d.counters)
    (grounds : Grounds other bitrateFirst excess) : Grounds d bitrateFirst excess := by
  have fpsBad : other.fpsBadSamples = d.fpsBadSamples := congrArg Counters.fpsBadSamples same
  have replies : other.repliesAfterBitrateReduction = d.repliesAfterBitrateReduction := congrArg Counters.repliesAfterBitrateReduction same
  have restore : other.samplesSinceRestore = d.samplesSinceRestore := congrArg Counters.samplesSinceRestore same
  cases grounds with
  | severe long => exact .severe long
  | failedRestore long recent =>
      rw [UserDelay.countReply, restore] at recent
      exact .failedRestore long recent
  | ordinary thrice waited =>
      rw [fpsBad] at thrice
      rw [replies] at waited
      exact .ordinary thrice waited

theorem clamp_inside (value low high : Nat) (above : low ≤ value) (below : value ≤ high) : clamp value low high = value := by
  rw [clamp, if_neg (Nat.not_lt.mpr above), if_neg (Nat.not_lt.mpr below)]

-- The target stays between one frame and the limit of the viewer.
structure Within (cap : Nat) (d : UserDelay) : Prop where
  sane : Sane d
  fits : ∀ fps, d.fps = some fps → fps ≤ cap

theorem within_current (cap : Nat) (d : UserDelay) (within : Within cap d) : d.currentFps cap ≤ cap := by
  rw [UserDelay.currentFps]
  cases stored : d.fps with
  | none => exact Nat.min_le_right _ _
  | some fps => exact within.fits fps stored

section
variable (quotient : Nat → Nat → Nat)

theorem settle_counters (d : UserDelay) (current fps cap delay : Nat) (bitrateFirst braked : Bool) :
    (d.settle current fps cap delay bitrateFirst braked).counters = (d.limitFpsChange current fps delay bitrateFirst braked).1.counters :=
  accelerate_counters (d.limitFpsChange current fps delay bitrateFirst braked).1 current _ cap delay braked

-- How one reply moves the target and the counters: a cut starts the bad replies over, and
-- nothing but a cut lowers the target.
inductive Replied (cap : Nat) (d after : UserDelay) (bitrateFirst : Bool) (delay : Nat) : Prop where
  | good : d.replyExcess delay < delayThreshold150ms → AfterGood (d.currentFps cap) d after → d.currentFps cap ≤ after.currentFps cap →
      Replied cap d after bitrateFirst delay
  | waited : ¬ d.replyExcess delay < delayThreshold150ms → AfterBad d after → d.currentFps cap = after.currentFps cap →
      after.fpsBadSamples = min (d.fpsBadSamples + 1) 3 → Replied cap d after bitrateFirst delay
  | cut : ¬ d.replyExcess delay < delayThreshold150ms → AfterBad d after → after.currentFps cap < d.currentFps cap →
      after.fpsBadSamples = 0 → Grounds d bitrateFirst (d.replyExcess delay) → Replied cap d after bitrateFirst delay

section
variable (d : UserDelay) (current fps cap delay : Nat) (bitrateFirst braked : Bool)

theorem settle_good (positive : 1 ≤ current) (fits : current ≤ cap)
    (floored : min minAutoFps cap ≤ fps) (good : d.excess delay < delayThreshold150ms) :
    AfterGood current d (d.settle current fps cap delay bitrateFirst braked) ∧
      current ≤ (d.settle current fps cap delay bitrateFirst braked).currentFps cap := by
  constructor
  · obtain ⟨consecutive, fpsBad, replies, restored⟩ := limit_good d current fps delay bitrateFirst braked good
    have same := settle_counters d current fps cap delay bitrateFirst braked
    exact ⟨(congrArg Counters.consecutiveBadSamples same).trans consecutive, (congrArg Counters.fpsBadSamples same).trans fpsBad,
      (congrArg Counters.repliesAfterBitrateReduction same).trans replies, (congrArg Counters.samplesSinceRestore same).trans restored⟩
  · have moved := settle_moved d current fps cap delay bitrateFirst braked positive floored
    have kept := moved.goodNeverLowers good
    omega

-- A bad reply ends the startup probing, so the target is what the limiter gave.
theorem settle_bad_target (bad : ¬ d.excess delay < delayThreshold150ms) :
    (d.settle current fps cap delay bitrateFirst braked).currentFps cap = clamp (d.limitFpsChange current fps delay bitrateFirst braked).2 minFps cap := by
  have queue : 50 ≤ (d.limitFpsChange current fps delay bitrateFirst braked).1.excess delay := by
    rw [UserDelay.excess, limit_rtt, ← UserDelay.excess]
    have threshold : delayThreshold150ms = 150 := rfl
    omega
  have still := (accelerate_spec (d.limitFpsChange current fps delay bitrateFirst braked).1 current
    (d.limitFpsChange current fps delay bitrateFirst braked).2 cap delay braked).1 queue
  have stored : (d.settle current fps cap delay bitrateFirst braked).currentFps cap = clamp
    ((d.limitFpsChange current fps delay bitrateFirst braked).1.accelerateStartup current
      (d.limitFpsChange current fps delay bitrateFirst braked).2 cap delay braked).2 minFps cap := rfl
  rw [stored, still]

end

-- The target stays when the limiter keeps it, and a limiter below it is a real cut.
theorem clamp_cuts (current fps cap limited : Nat) (positive : 1 ≤ current) (fits : current ≤ cap) (floored : min minAutoFps cap ≤ fps)
    (below : fps < current) (lower : limited ≤ max fps (current - 1)) : clamp limited minFps cap < current := by
  have bound := clamp_le_max limited minFps cap
  have one : minFps = 1 := rfl
  have five : minAutoFps = 5 := rfl
  omega

theorem settle_bad (d : UserDelay) (current fps cap delay : Nat) (bitrateFirst braked : Bool) (positive : 1 ≤ current) (fits : current ≤ cap)
    (floored : min minAutoFps cap ≤ fps) (bad : ¬ d.excess delay < delayThreshold150ms) :
    let after := d.settle current fps cap delay bitrateFirst braked
    AfterBad d after ∧ ((after.currentFps cap = current ∧ after.fpsBadSamples = min (d.fpsBadSamples + 1) 3) ∨
      (after.currentFps cap < current ∧ after.fpsBadSamples = 0 ∧ Grounds d bitrateFirst (d.excess delay))) := by
  obtain ⟨⟨consecutive, replies, restored⟩, moved⟩ := limit_bad d current fps delay bitrateFirst braked bad
  have same := settle_counters d current fps cap delay bitrateFirst braked
  have fpsBad := congrArg Counters.fpsBadSamples same
  have restore : (d.settle current fps cap delay bitrateFirst braked).samplesSinceRestore =
      (d.limitFpsChange current fps delay bitrateFirst braked).1.samplesSinceRestore := congrArg Counters.samplesSinceRestore same
  have target := settle_bad_target d current fps cap delay bitrateFirst braked bad
  refine ⟨⟨?_, ?_, ?_⟩, ?_⟩
  · exact (congrArg Counters.consecutiveBadSamples same).trans consecutive
  · exact (congrArg Counters.repliesAfterBitrateReduction same).trans replies
  · rw [restore]
    exact restored
  · rcases moved with ⟨held, kept⟩ | ⟨below, lower, reset, grounds⟩
    · refine .inl ⟨?_, fpsBad.trans kept⟩
      rw [target, held, clamp_inside current minFps cap positive fits]
    · refine .inr ⟨?_, fpsBad.trans reset, grounds⟩
      rw [target]
      exact clamp_cuts current fps cap _ positive fits floored below lower

-- What the limiter gets of a reply: the counters as the reply left them, and a wish at the floor or above.
theorem reply_wants (d : UserDelay) (band : Band) (bitrateFirst : Bool) (avgDelay cap delay : Nat) :
    let wanted := (d.receive (max delay 10)).wanted quotient band bitrateFirst avgDelay cap (d.currentFps cap)
    min minAutoFps cap ≤ wanted.2 ∧ wanted.1.counters = (d.receive (max delay 10)).counters ∧ wanted.1.excess (max delay 10) = d.replyExcess delay := by
  have received := wanted_counters quotient (d.receive (max delay 10)) band bitrateFirst avgDelay cap (d.currentFps cap)
  refine ⟨wanted_floor quotient _ band bitrateFirst _ cap _, received, ?_⟩
  have rtt : ((d.receive (max delay 10)).wanted quotient band bitrateFirst avgDelay cap (d.currentFps cap)).1.rttCalculator =
      (d.receive (max delay 10)).rttCalculator := congrArg Counters.rttCalculator received
  rw [UserDelay.replyExcess, UserDelay.excess, UserDelay.excess, rtt]

theorem reply_spec (d : UserDelay) (band : Band) (bitrateFirst : Bool) (cap delay : Nat) (within : Within cap d) (some : 1 ≤ cap) :
    Replied cap d (d.networkDelay quotient band bitrateFirst cap delay).1 bitrateFirst delay := by
  rw [UserDelay.networkDelay]
  obtain ⟨floored, received, excess⟩ := reply_wants quotient d band bitrateFirst
    (UserDelay.avgDelay { d with stallTicks := 0, stallReferenceFps := none }) cap delay
  generalize (d.receive (max delay 10)).wanted quotient band bitrateFirst
    (UserDelay.avgDelay { d with stallTicks := 0, stallReferenceFps := none }) cap (d.currentFps cap) = wanted at floored received excess ⊢
  have positive := sane_current d cap within.sane some
  have fits := within_current cap d within
  by_cases good : d.replyExcess delay < delayThreshold150ms
  · obtain ⟨forgets, kept⟩ := settle_good wanted.1 (d.currentFps cap) wanted.2 cap (max delay 10) bitrateFirst d.stallReferenceFps.isSome
      positive fits floored (by rw [excess]; exact good)
    have plain := good_counters _ (d.receive (max delay 10)) _ _ received forgets
    exact .good good { plain with } kept
  · obtain ⟨counts, moved⟩ := settle_bad wanted.1 (d.currentFps cap) wanted.2 cap (max delay 10) bitrateFirst d.stallReferenceFps.isSome
      positive fits floored (by rw [excess]; exact good)
    have plain := bad_counters (d.receive (max delay 10)) _ _ received counts
    have counts : AfterBad d _ := ⟨plain.consecutive, plain.replies, plain.restored⟩
    have fpsBad : wanted.1.fpsBadSamples = d.fpsBadSamples := congrArg Counters.fpsBadSamples received
    rcases moved with ⟨held, kept⟩ | ⟨lower, reset, grounds⟩
    · exact .waited good counts held.symm (by rw [kept, fpsBad])
    · rw [excess] at grounds
      refine .cut good counts lower reset ?_
      cases grounds_counters (d.receive (max delay 10)) _ _ _ received grounds with
      | severe long => exact .severe long
      | failedRestore long recent => exact .failedRestore long recent
      | ordinary thrice waited => exact .ordinary thrice waited

-- A tick past two seconds brakes: it starts the bad replies over when the stall is new, and
-- finds them started over when it is not.
theorem tick_spec (d : UserDelay) (cap elapsed : Nat) (late : 2000 < elapsed) :
    (d.responseElapsed cap elapsed).consecutiveBadSamples = d.consecutiveBadSamples ∧
      (d.responseElapsed cap elapsed).repliesAfterBitrateReduction = d.repliesAfterBitrateReduction ∧
      (d.responseElapsed cap elapsed).samplesSinceRestore = d.samplesSinceRestore ∧
      (d.responseElapsed cap elapsed).fpsBadSamples = (if d.stallReferenceFps.isSome = true then d.fpsBadSamples else 0) ∧
      ∀ fps, (d.responseElapsed cap elapsed).fps = some fps → fps ≤ cap := by
  rw [UserDelay.responseElapsed, if_neg (Nat.not_le.mpr late)]
  refine ⟨?_, ?_, ?_, ?_, ?_⟩
  · split <;> rfl
  · split <;> rfl
  · split <;> rfl
  · split <;> rfl
  · intro fps stored
    rw [← Option.some.inj stored]
    exact Nat.le_trans (Nat.min_le_left _ _) (clamp_le _ _ cap (Nat.min_le_right _ _))

-- What the counters of a viewer say of what has happened to it.
structure Evidenced (cap : Nat) (past : List (UserDelay × Sample)) (d : UserDelay) : Prop where
  within : Within cap d
  braked : d.stallReferenceFps.isSome = true → d.fpsBadSamples = 0
  bad : d.fpsBadSamples = min (badReplies quotient cap past) 3
  fewer : d.fpsBadSamples ≤ d.consecutiveBadSamples
  restore : ∀ samples, d.samplesSinceRestore = some samples →
    ∃ replies, repliesSinceRestore cap past = some replies ∧ samples = min replies u8Max
  charge : ∀ replies, badRepliesSinceCharge past = some replies →
    d.repliesAfterBitrateReduction = some (min replies 2) ∨ d.consecutiveBadSamples ≤ replies

theorem evidenced_fresh (cap : Nat) : Evidenced quotient cap [] {} :=
  { within := ⟨fresh_sane, fun _ stored => by cases stored⟩
    braked := fun _ => rfl
    bad := rfl
    fewer := Nat.le_refl _
    restore := fun _ held => by cases held
    charge := fun _ held => by cases held }

section
variable (cap : Nat) (past : List (UserDelay × Sample)) (entry : UserDelay × Sample)

theorem bad_replies_snoc : badReplies quotient cap (past ++ [entry]) = badSince quotient cap (badReplies quotient cap past) entry := by
  rw [badReplies, List.foldl_append]
  rfl

theorem since_restore_snoc : repliesSinceRestore cap (past ++ [entry]) = repliesSince cap (repliesSinceRestore cap past) entry := by
  rw [repliesSinceRestore, List.foldl_append]
  rfl

end

theorem since_charge_snoc (past : List (UserDelay × Sample)) (entry : UserDelay × Sample) :
    badRepliesSinceCharge (past ++ [entry]) = badSinceCharge (badRepliesSinceCharge past) entry := by
  rw [badRepliesSinceCharge, List.foldl_append]
  rfl

theorem recover_stall (d : UserDelay) (current fps : Nat) : (d.recover current fps).1.stallReferenceFps = d.stallReferenceFps := by
  rw [UserDelay.recover]
  split <;> rfl

theorem limit_stall (d : UserDelay) (current fps delay : Nat) (bitrateFirst braked : Bool) :
    (d.limitFpsChange current fps delay bitrateFirst braked).1.stallReferenceFps = d.stallReferenceFps := by
  have guarded : ∀ (e : UserDelay) (failed : Bool), (e.guardRestore current failed).stallReferenceFps = e.stallReferenceFps := by
    intro e failed
    rw [UserDelay.guardRestore]
    split <;> rfl
  have stepped : ∀ (e : UserDelay) (excess : Nat) (failed : Bool),
      (e.stepDown current fps excess failed bitrateFirst braked).1.stallReferenceFps = e.stallReferenceFps := by
    intro e excess failed
    rw [UserDelay.stepDown]
    split
    · rfl
    · split <;> rfl
  rw [UserDelay.limitFpsChange]
  split
  · rw [recover_stall]
  · rw [UserDelay.limitBad, stepped, guarded]
    rfl

theorem reply_unbrakes (d : UserDelay) (band : Band) (bitrateFirst : Bool) (cap delay : Nat) :
    (d.networkDelay quotient band bitrateFirst cap delay).1.stallReferenceFps = none := by
  rw [UserDelay.networkDelay]
  generalize wants : (d.receive (max delay 10)).wanted quotient band bitrateFirst
    (UserDelay.avgDelay { d with stallTicks := 0, stallReferenceFps := none }) cap (d.currentFps cap) = wanted
  have received : wanted.1.counters = (d.receive (max delay 10)).counters := by
    rw [← wants]
    exact wanted_counters quotient _ band bitrateFirst _ cap _
  have settled := settle_counters wanted.1 (d.currentFps cap) wanted.2 cap (max delay 10) bitrateFirst d.stallReferenceFps.isSome
  refine (congrArg Counters.stallReferenceFps settled).trans ?_
  rw [UserDelay.counters, limit_stall]
  exact congrArg Counters.stallReferenceFps received

theorem reply_within (cap : Nat) (d : UserDelay) (band : Band) (bitrateFirst : Bool) (delay : Nat) (positive : 1 ≤ cap) :
    Within cap (d.networkDelay quotient band bitrateFirst cap delay).1 := by
  refine ⟨network_delay_sane quotient d band bitrateFirst cap delay positive, ?_⟩
  intro fps stored
  rw [← Option.some.inj stored]
  exact clamp_le _ _ cap positive

-- A reply that is not a restore leaves the count of a restore one further.
theorem restore_counted (cap : Nat) (past : List (UserDelay × Sample)) (d after : UserDelay)
    (restore : ∀ samples, d.samplesSinceRestore = some samples →
      ∃ replies, repliesSinceRestore cap past = some replies ∧ samples = min replies u8Max)
    (counted : after.samplesSinceRestore = none ∨ after.samplesSinceRestore = d.countReply) (samples : Nat)
    (held : after.samplesSinceRestore = some samples) :
    ∃ replies, (repliesSinceRestore cap past).map (fun replies => replies + 1) = some replies ∧ samples = min replies u8Max := by
  rcases counted with gone | counted
  · rw [gone] at held
    cases held
  · rw [counted, UserDelay.countReply] at held
    obtain ⟨before, known, rfl⟩ := Option.map_eq_some_iff.mp held
    obtain ⟨replies, since, rfl⟩ := restore before known
    refine ⟨replies + 1, by rw [since, Option.map_some], ?_⟩
    omega

theorem bad_not_restores (d : UserDelay) (cap delay : Nat) (bad : ¬ d.replyExcess delay < delayThreshold150ms) : d.restores cap delay = false := by
  rw [UserDelay.restores, decide_eq_false bad]
  rfl

-- The reduction waited for and the bad replies in a row both move with a bad reply.
theorem charge_counted (past : List (UserDelay × Sample)) (d after : UserDelay) (counts : AfterBad d after)
    (charge : ∀ replies, badRepliesSinceCharge past = some replies →
      d.repliesAfterBitrateReduction = some (min replies 2) ∨ d.consecutiveBadSamples ≤ replies) (replies : Nat)
    (held : (badRepliesSinceCharge past).map (fun replies => replies + 1) = some replies) :
    after.repliesAfterBitrateReduction = some (min replies 2) ∨ after.consecutiveBadSamples ≤ replies := by
  obtain ⟨before, known, rfl⟩ := Option.map_eq_some_iff.mp held
  rcases charge before known with waiting | row
  · left
    rw [counts.replies, waiting, Option.map_some, Option.some.injEq]
    omega
  · right
    rw [counts.consecutive]
    omega

section
variable (cap : Nat) (past : List (UserDelay × Sample))

section
variable (d after : UserDelay) (band : Band) (bitrateFirst : Bool) (delay : Nat)

theorem evidenced_bad (held : Evidenced quotient cap past d) (bad : ¬ d.replyExcess delay < delayThreshold150ms) (counts : AfterBad d after)
    (within : Within cap after) (answered : after.stallReferenceFps = none)
    (moved : (d.lowers quotient cap band bitrateFirst delay = false ∧ after.fpsBadSamples = min (d.fpsBadSamples + 1) 3) ∨
      (d.lowers quotient cap band bitrateFirst delay = true ∧ after.fpsBadSamples = 0)) :
    Evidenced quotient cap (past ++ [(d, .reply band bitrateFirst delay)]) after := by
  have before := held.bad
  have fewer := held.fewer
  have consecutive := counts.consecutive
  refine ⟨within, ?_, ?_, ?_, ?_, ?_⟩
  · rw [answered]
    exact fun stalled => by cases stalled
  · rw [bad_replies_snoc, badSince]
    dsimp only
    rw [decide_eq_false bad, Bool.false_or]
    rcases moved with ⟨kept, one⟩ | ⟨lowered, reset⟩
    · rw [kept, if_neg (by decide), one]
      omega
    · rw [lowered, if_pos rfl, reset]
      rfl
  · rcases moved with ⟨_, one⟩ | ⟨_, reset⟩
    · omega
    · omega
  · rw [since_restore_snoc, repliesSince]
    dsimp only
    rw [bad_not_restores d cap delay bad, if_neg (by decide)]
    exact restore_counted cap past d after held.restore counts.restored
  · rw [since_charge_snoc, badSinceCharge]
    dsimp only
    rw [if_neg bad]
    exact charge_counted past d after counts held.charge

theorem evidenced_good (held : Evidenced quotient cap past d) (good : d.replyExcess delay < delayThreshold150ms) (forgets : AfterGood (d.currentFps cap) d after)
    (within : Within cap after) (answered : after.stallReferenceFps = none) :
    Evidenced quotient cap (past ++ [(d, .reply band bitrateFirst delay)]) after := by
  obtain ⟨consecutive, fpsBad, replies, restored⟩ := forgets
  refine ⟨within, ?_, ?_, ?_, ?_, ?_⟩
  · rw [answered]
    exact fun stalled => by cases stalled
  · rw [bad_replies_snoc, badSince]
    dsimp only
    rw [decide_eq_true good, Bool.true_or, if_pos rfl, fpsBad]
    rfl
  · omega
  · rw [since_restore_snoc, repliesSince]
    dsimp only
    by_cases returns : (decide (1 ≤ d.goodSamples) && d.fpsBeforeCongestion.any (fun level => decide (d.currentFps cap < level))) = true
    · rw [if_pos returns] at restored
      have restores : d.restores cap delay = true := by
        rw [UserDelay.restores, decide_eq_true good, Bool.true_and]
        exact returns
      rw [restores, if_pos rfl, restored]
      intro samples known
      rw [← Option.some.inj known]
      exact ⟨0, rfl, rfl⟩
    · rw [if_neg returns] at restored
      have restores : ¬ d.restores cap delay = true := by
        rw [UserDelay.restores, decide_eq_true good, Bool.true_and]
        exact returns
      rw [if_neg restores]
      exact restore_counted cap past d after held.restore (.inr restored)
  · intro count _
    right
    omega

end

theorem evidenced_tick (d : UserDelay) (elapsed : Nat) (held : Evidenced quotient cap past d)
    (positive : 1 ≤ cap) : Evidenced quotient cap (past ++ [(d, .tick elapsed)]) (d.responseElapsed cap elapsed) := by
  have restored : repliesSinceRestore cap (past ++ [(d, .tick elapsed)]) = repliesSinceRestore cap past := since_restore_snoc cap past _
  have charged : badRepliesSinceCharge (past ++ [(d, .tick elapsed)]) = badRepliesSinceCharge past := since_charge_snoc past _
  have bad : badReplies quotient cap (past ++ [(d, .tick elapsed)]) = if 2000 < elapsed then 0 else badReplies quotient cap past :=
    bad_replies_snoc quotient cap past _
  by_cases late : 2000 < elapsed
  · obtain ⟨consecutive, replies, restore, fpsBad, fits⟩ := tick_spec d cap elapsed late
    have reset : (d.responseElapsed cap elapsed).fpsBadSamples = 0 := by
      rw [fpsBad]
      split
      · rename_i stalled
        exact held.braked stalled
      · rfl
    rw [if_pos late] at bad
    refine ⟨⟨(response_elapsed_spec d cap elapsed held.within.sane positive).1, fits⟩, fun _ => reset, ?_, ?_, ?_, ?_⟩
    · rw [bad, reset]
      rfl
    · rw [reset]
      exact Nat.zero_le _
    · rw [restored, restore]
      exact held.restore
    · rw [charged, replies, consecutive]
      exact held.charge
  · rw [if_neg late] at bad
    rw [UserDelay.responseElapsed, if_pos (Nat.le_of_not_lt late)]
    refine ⟨held.within, held.braked, ?_, held.fewer, ?_, ?_⟩
    · rw [bad]
      exact held.bad
    · rw [restored]
      exact held.restore
    · rw [charged]
      exact held.charge

theorem evidenced_adjusted (d : UserDelay) (lowered : Bool) (held : Evidenced quotient cap past d) :
    Evidenced quotient cap (past ++ [(d, .adjusted lowered)]) (d.answerReduction lowered) := by
  have restored : repliesSinceRestore cap (past ++ [(d, .adjusted lowered)]) = repliesSinceRestore cap past := since_restore_snoc cap past _
  have bad : badReplies quotient cap (past ++ [(d, .adjusted lowered)]) = badReplies quotient cap past := bad_replies_snoc quotient cap past _
  have charged : badRepliesSinceCharge (past ++ [(d, .adjusted lowered)]) = if d.charged lowered then some 0 else badRepliesSinceCharge past :=
    since_charge_snoc past _
  rw [UserDelay.charged] at charged
  by_cases answers : (d.needsBitrateReduction && d.repliesAfterBitrateReduction.isNone) = true
  · rw [UserDelay.answerReduction, if_pos answers]
    refine ⟨⟨⟨held.within.sane.positive, held.within.sane.stalled⟩, held.within.fits⟩, held.braked, ?_, held.fewer, ?_, ?_⟩
    · rw [bad]
      exact held.bad
    · rw [restored]
      exact held.restore
    · rw [charged, Bool.and_assoc, answers, Bool.and_true]
      cases lowered with
      | true =>
          intro replies none
          rw [← Option.some.inj none]
          exact .inl rfl
      | false =>
          -- A reduction charged earlier is older than the good reply that ended its count.
          intro replies known
          right
          rcases held.charge replies known with waiting | row
          · rw [Bool.and_eq_true, waiting] at answers
            cases answers.2
          · exact row
  · rw [UserDelay.answerReduction, if_neg answers]
    refine ⟨held.within, held.braked, ?_, held.fewer, ?_, ?_⟩
    · rw [bad]
      exact held.bad
    · rw [restored]
      exact held.restore
    · rw [charged, Bool.and_assoc, Bool.eq_false_iff.mpr answers, Bool.and_false]
      exact held.charge

end

theorem evidenced_step (cap : Nat) (positive : 1 ≤ cap) (past : List (UserDelay × Sample)) (d after : UserDelay) (event : Sample)
    (held : Evidenced quotient cap past d) (taken : d.sample quotient cap event = some after) :
    Evidenced quotient cap (past ++ [(d, event)]) after := by
  cases event with
  | reply band bitrateFirst delay =>
      obtain rfl := Option.some.inj taken
      have within := reply_within quotient cap d band bitrateFirst delay positive
      have answered := reply_unbrakes quotient d band bitrateFirst cap delay
      cases reply_spec quotient d band bitrateFirst cap delay held.within positive with
      | good good forgets kept => exact evidenced_good quotient cap past d _ band bitrateFirst delay held good forgets within answered
      | waited bad counts same one =>
          refine evidenced_bad quotient cap past d _ band bitrateFirst delay held bad counts within answered (.inl ⟨?_, one⟩)
          exact decide_eq_false (by omega)
      | cut bad counts lower reset grounds =>
          exact evidenced_bad quotient cap past d _ band bitrateFirst delay held bad counts within answered (.inr ⟨decide_eq_true lower, reset⟩)
  | tick elapsed =>
      obtain rfl := Option.some.inj taken
      exact evidenced_tick quotient cap past d elapsed held positive
  | adjusted lowered =>
      obtain rfl := Option.some.inj taken
      exact evidenced_adjusted quotient cap past d lowered held

theorem viewer_cap_pos (customFps autoAdjustFps : Option Nat) : 1 ≤ fpsCap customFps autoAdjustFps := le_clamp _ minFps maxFps (by decide)

theorem grounds_confirmed (cap : Nat) (past : List (UserDelay × Sample)) (d : UserDelay) (bitrateFirst : Bool) (delay : Nat)
    (held : Evidenced quotient cap past d) (bad : ¬ d.replyExcess delay < delayThreshold150ms)
    (grounds : Grounds d bitrateFirst (d.replyExcess delay)) : Confirmed quotient cap past d bitrateFirst delay := by
  cases grounds with
  | severe long => exact .severe long
  | failedRestore long recent =>
      rw [UserDelay.countReply, Option.any_map, Option.any_eq_true] at recent
      obtain ⟨samples, known, few⟩ := recent
      obtain ⟨replies, since, counted⟩ := held.restore samples known
      refine .failedRestore replies long since ?_
      have guard : restoreGuardSamples = 5 := rfl
      have most : u8Max = 255 := rfl
      simp only [decide_eq_true_eq] at few
      omega
  | ordinary thrice waited =>
      have three := held.bad
      have fewer := held.fewer
      refine .ordinary (Nat.not_lt.mp bad) (by omega) ?_
      intro first replies since
      rcases held.charge replies since with waiting | row
      · obtain ⟨count, counting, one⟩ := waited first
        have same : min replies 2 = count := Option.some.inj (waiting.symm.trans counting)
        omega
      · omega

end

-- Two bad replies call for a lower bitrate, which is granted, and the second one after it cuts.
def confirmedSamples : List Sample :=
  [.reply ⟨8, 16⟩ true 10, .reply ⟨8, 16⟩ true 650, .reply ⟨8, 16⟩ true 500, .adjusted true, .reply ⟨8, 16⟩ true 500]

theorem confirmed_runs : (Machine.run (UserDelay.sample devideFps (fpsCap none none)) {} confirmedSamples).isSome = true := by
  simp [Machine.run, confirmedSamples, UserDelay.sample]

end GotechDesk.VideoQos
