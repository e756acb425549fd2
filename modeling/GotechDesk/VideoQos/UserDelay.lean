import Mathlib

set_option autoImplicit false

namespace GotechDesk.VideoQos

def fpsDefault : Nat := 30
def minFps : Nat := 1
def maxFps : Nat := 120
def initFps : Nat := 15
def minAutoFps : Nat := 5

def historyDelayLen : Nat := 2
def delayThreshold150ms : Nat := 150
def restoreGuardSamples : Nat := 5

def u8Max : Nat := 255

def clamp (value low high : Nat) : Nat := if value < low then low else if high < value then high else value

structure RttCalculator where
  baseline : Option Nat := none
  samples : List Nat := []
deriving DecidableEq, Repr

def RttCalculator.windowSamples : Nat := 20
def RttCalculator.maxIncreaseMs : Nat := 50

def RttCalculator.getRtt (r : RttCalculator) : Option Nat := r.baseline

-- The second half of `update`, once the window is full: what the old minima allow the
-- baseline to rise to.
def RttCalculator.relearn (r : RttCalculator) (baseline : Nat) : RttCalculator :=
  let half := windowSamples / 2
  match (r.samples.take half).min?, (r.samples.drop half).min? with
  | some olderMin, some recentMin =>
      if min (olderMin + 10) (2 ^ 32 - 1) < recentMin then r
      else
        let rise := min olderMin recentMin - baseline
        if 0 < rise then { r with baseline := some (baseline + clamp (rise / 2) 1 maxIncreaseMs) } else r
  | _, _ => r

def RttCalculator.update (r : RttCalculator) (delay : Nat) : RttCalculator :=
  let samples := (if windowSamples ≤ r.samples.length then r.samples.tail else r.samples) ++ [delay]
  let baseline := min (r.baseline.getD delay) delay
  let next : RttCalculator := { baseline := some baseline, samples }
  if samples.length < windowSamples then next else next.relearn baseline

structure UserDelay where
  stallTicks : Nat := 0
  delayHistory : List Nat := []
  fps : Option Nat := none
  rttCalculator : RttCalculator := {}
  quickIncreaseFpsCount : Nat := 0
  increaseFpsCount : Nat := 0
  consecutiveBadSamples : Nat := 0
  fpsBadSamples : Nat := 0
  goodSamples : Nat := 0
  repliesAfterBitrateReduction : Option Nat := none
  fpsBeforeCongestion : Option Nat := none
  samplesSinceRestore : Option Nat := none
  stallReferenceFps : Option Nat := none
  startupGoodSamples : Nat := 0
deriving DecidableEq, Repr

def UserDelay.addDelay (d : UserDelay) (delay : Nat) : UserDelay :=
  let history := if historyDelayLen ≤ d.delayHistory.length then d.delayHistory.tail else d.delayHistory
  { d with delayHistory := history ++ [delay] }

-- How far a delay is above the baseline this connection has shown.
def UserDelay.excess (d : UserDelay) (delay : Nat) : Nat := delay - d.rttCalculator.getRtt.getD 0

def UserDelay.avgDelay (d : UserDelay) : Nat :=
  if d.delayHistory = [] then delayThreshold150ms
  else d.excess (d.delayHistory.sum % 2 ^ 32 / d.delayHistory.length)

def UserDelay.onReduction (d : UserDelay) (currentFps : Nat) : UserDelay :=
  { d with startupGoodSamples := u8Max, goodSamples := 0, fpsBadSamples := 0,
           fpsBeforeCongestion := some (d.fpsBeforeCongestion.getD currentFps) }

def UserDelay.recover (d : UserDelay) (currentFps fps : Nat) : UserDelay × Nat :=
  let gradual := currentFps + max (currentFps / 10) 1
  match d.goodSamples, d.fpsBeforeCongestion.filter (fun level => decide (currentFps < level)) with
  | 2, some level | 3, some level => ({ d with fpsBeforeCongestion := none, samplesSinceRestore := some 0 }, max fps level)
  | 3, none => ({ d with fpsBeforeCongestion := none }, max fps (currentFps + max (currentFps / 5) 2))
  | _, _ => (d, gradual)

def UserDelay.recentlyRestored (d : UserDelay) : Bool := d.samplesSinceRestore.any (fun samples => decide (samples ≤ restoreGuardSamples))

-- The counters a bad reply moves.
def UserDelay.countBad (d : UserDelay) : UserDelay :=
  { d with consecutiveBadSamples := min (d.consecutiveBadSamples + 1) 3, fpsBadSamples := min (d.fpsBadSamples + 1) 3,
           repliesAfterBitrateReduction := d.repliesAfterBitrateReduction.map (fun replies => min (replies + 1) 2) }

-- A level that congests right after being restored is not the level to return to.
def UserDelay.guardRestore (d : UserDelay) (currentFps : Nat) (failedRestore : Bool) : UserDelay :=
  if d.recentlyRestored && (failedRestore || decide (3 ≤ d.consecutiveBadSamples)) then
    { d with fpsBeforeCongestion := some (currentFps - currentFps / 4), samplesSinceRestore := none }
  else d

def UserDelay.stepDown (d : UserDelay) (currentFps fps excess : Nat) (failedRestore bitrateFirst braked : Bool) : UserDelay × Nat :=
  if currentFps ≤ fps || braked then (d, currentFps)
  else if !failedRestore && decide (excess < 1000) &&
      (decide (d.fpsBadSamples < 3) || (bitrateFirst && decide (d.repliesAfterBitrateReduction.getD 0 < 2))) then (d, currentFps)
  else
    let divisor := if decide (1000 ≤ excess) || failedRestore then 2 else 5
    (d.onReduction currentFps, max fps (currentFps - max (currentFps / divisor) 1))

def UserDelay.limitBad (d : UserDelay) (currentFps fps excess : Nat) (bitrateFirst braked : Bool) : UserDelay × Nat :=
  let failedRestore := decide (600 ≤ excess) && d.recentlyRestored
  (d.guardRestore currentFps failedRestore).stepDown currentFps fps excess failedRestore bitrateFirst braked

def UserDelay.limitFpsChange (d : UserDelay) (currentFps fps delay : Nat) (bitrateFirst braked : Bool) : UserDelay × Nat :=
  let excess := d.excess delay
  let d := { d with samplesSinceRestore := d.samplesSinceRestore.map (fun samples => min (samples + 1) u8Max) }
  if excess < delayThreshold150ms then
    UserDelay.recover { d with consecutiveBadSamples := 0, fpsBadSamples := 0, repliesAfterBitrateReduction := none,
                               goodSamples := min (d.goodSamples + 1) 3 } currentFps fps
  else d.countBad.limitBad currentFps fps excess bitrateFirst braked

def UserDelay.accelerateStartup (d : UserDelay) (currentFps fps cap delay : Nat) (braked : Bool) : UserDelay × Nat :=
  if d.startupGoodSamples = u8Max then (d, fps)
  else if braked || decide (50 ≤ d.excess delay) || decide (cap ≤ currentFps) then ({ d with startupGoodSamples := u8Max }, fps)
  else if d.startupGoodSamples + 1 < 2 then ({ d with startupGoodSamples := d.startupGoodSamples + 1 }, fps)
  else
    let accelerated := min (max fps (min (currentFps * 2) (2 ^ 32 - 1))) cap
    ({ d with startupGoodSamples := if cap ≤ accelerated then u8Max else 0 }, accelerated)

def UserDelay.needsBitrateReduction (d : UserDelay) : Bool := decide (2 ≤ d.consecutiveBadSamples) || decide (2 ≤ d.stallTicks)

def UserDelay.ratioReduction (d : UserDelay) : Option Float32 :=
  if d.needsBitrateReduction then
    let excess := d.avgDelay
    let confirmed := decide (3 ≤ d.consecutiveBadSamples)
    some (if excess < 200 then 0.95
      else if excess < 300 then 0.9
      else if excess < 500 then (if confirmed then 0.7 else 0.85)
      else if confirmed then 0.5
      else 0.8)
  else none

inductive Quality where
  | best
  | balanced
  | low
  | custom (ratio : Float32)

structure UserData where
  autoAdjustFps : Option Nat := none
  customFps : Option Nat := none
  quality : Option (Int × Quality) := none
  delay : UserDelay := {}
  record : Bool := false
  joinedAt : Option Nat := none

def fpsCap (customFps autoAdjustFps : Option Nat) : Nat :=
  let fps := customFps.getD fpsDefault
  let fps :=
    match autoAdjustFps with
    | some adjusted => if fps = 0 || adjusted < fps then adjusted else fps
    | none => fps
  clamp fps minFps maxFps

def UserData.fpsCap (user : UserData) : Nat := VideoQos.fpsCap user.customFps user.autoAdjustFps

-- The quotient `devide_fps` as the source computes it.
def devideFps (fps avgDelay : Nat) : Nat :=
  (Float32.ceil (Float32.ofNat fps / (Float32.ofNat avgDelay / Float32.ofNat delayThreshold150ms))).toUInt32.toNat

-- The frame rates a bad network is held to, which the wanted quality picks.
structure Band where
  minFps : Nat
  normalFps : Nat
deriving DecidableEq, Repr

section
variable (quotient : Nat → Nat → Nat)

-- The four bands of the average delay.
def UserDelay.bandFps (d : UserDelay) (band : Band) (oldAvg avg fps : Nat) : UserDelay × Nat :=
  let step := if fps < band.normalFps then 1 else 0
  if avg < 50 then
    if 3 ≤ d.quickIncreaseFpsCount + 1 then ({ d with quickIncreaseFpsCount := 0 }, max band.minFps (fps + 5))
    else ({ d with quickIncreaseFpsCount := d.quickIncreaseFpsCount + 1 }, max band.minFps (fps + step))
  else if avg < 100 then (d, max band.minFps (fps + if avg < oldAvg then step else 0))
  else if avg < delayThreshold150ms then (d, max band.minFps fps)
  else if avg < 200 then (d, max band.minFps (quotient fps avg))
  else if avg < 300 then (d, min band.minFps (quotient fps avg))
  else if avg < 600 then (d, delayThreshold150ms * band.minFps / avg)
  else (d, min (delayThreshold150ms * band.minFps / avg) (quotient fps avg))

-- The periodic boost after three stable samples, and the end of the quick increase.
def UserDelay.boost (d : UserDelay) (avg fps : Nat) : UserDelay × Nat :=
  let count := if avg < delayThreshold150ms then d.increaseFpsCount + 1 else 0
  let quick := if 50 < avg then 0 else d.quickIncreaseFpsCount
  if 3 ≤ count then ({ d with increaseFpsCount := 0, quickIncreaseFpsCount := quick }, fps + 1)
  else ({ d with increaseFpsCount := count, quickIncreaseFpsCount := quick }, fps)

-- The reply closes the outstanding probe; a braked one does not teach the baseline.
def UserDelay.receive (d : UserDelay) (delay : Nat) : UserDelay :=
  let rtt := if d.stallReferenceFps.isSome then d.rttCalculator else d.rttCalculator.update delay
  UserDelay.addDelay { d with stallTicks := 0, stallReferenceFps := none, rttCalculator := rtt } delay

-- What the limiter is handed.
def UserDelay.wanted (d : UserDelay) (band : Band) (bitrateFirst : Bool) (oldAvg cap current : Nat) : UserDelay × Nat :=
  let avg := max d.avgDelay 10
  let banded := d.bandFps quotient band oldAvg avg current
  let boosted := banded.1.boost avg banded.2
  let floored := if bitrateFirst then max boosted.2 band.minFps else boosted.2
  (boosted.1, max floored (min minAutoFps cap))

def UserDelay.currentFps (d : UserDelay) (cap : Nat) : Nat := d.fps.getD (min initFps cap)

-- From what the bands ask for to the stored target.
def UserDelay.settle (d : UserDelay) (current fps cap delay : Nat) (bitrateFirst braked : Bool) : UserDelay :=
  let limited := d.limitFpsChange current fps delay bitrateFirst braked
  let accelerated := limited.1.accelerateStartup current limited.2 cap delay braked
  { accelerated.1 with fps := some (clamp accelerated.2 minFps cap) }

-- `user_network_delay` for the viewer itself: its new state, and whether it calls for a lower bitrate.
def UserDelay.networkDelay (d : UserDelay) (band : Band) (bitrateFirst : Bool) (cap delay : Nat) : UserDelay × Bool :=
  let delay := max delay 10
  let current := d.currentFps cap
  let wanted := (d.receive delay).wanted quotient band bitrateFirst
    (UserDelay.avgDelay { d with stallTicks := 0, stallReferenceFps := none }) cap current
  let next := wanted.1.settle current wanted.2 cap delay bitrateFirst d.stallReferenceFps.isSome
  (next, bitrateFirst && next.needsBitrateReduction && next.repliesAfterBitrateReduction.isNone)

-- `user_delay_response_elapsed` for the viewer itself. `elapsed` is an u128 cut to 32 bits twice.
def UserDelay.responseElapsed (d : UserDelay) (cap elapsed : Nat) : UserDelay :=
  if elapsed ≤ 2000 then d
  else
    let reference := d.stallReferenceFps.getD (d.currentFps cap)
    let ticked := UserDelay.addDelay { d with stallTicks := min (d.stallTicks + 1) u8Max } (elapsed % 2 ^ 32)
    let braked :=
      if d.stallReferenceFps.isSome then ticked
      else UserDelay.onReduction { ticked with stallReferenceFps := some reference } reference
    let divisor := 2 ^ min (elapsed / 1000 % 2 ^ 32 - 1) 5
    { braked with fps := some (min (clamp (reference / divisor) (min minAutoFps cap) cap) (d.fps.getD reference)) }

end

end GotechDesk.VideoQos
