import GotechDesk.Checked
import GotechDesk.VideoQos.Baseline
import GotechDesk.VideoQos.Confirmation

set_option autoImplicit false

namespace GotechDesk.VideoQos

open GotechDesk.Checked

-- The controller's integer arithmetic with its panics: a sum past its type, a difference below
-- zero, a shift by the whole width and a clamp with its bounds out of order are `none`.

def checkedClamp (value low high : Nat) : Option Nat := if low ≤ high then some (clamp value low high) else none

def checkedFpsCap (customFps autoAdjustFps : Option Nat) : Option Nat :=
  let fps := customFps.getD fpsDefault
  let fps :=
    match autoAdjustFps with
    | some adjusted => if fps = 0 || adjusted < fps then adjusted else fps
    | none => fps
  checkedClamp fps minFps maxFps

def RttCalculator.checkedRelearn (r : RttCalculator) (baseline : Nat) : Option RttCalculator :=
  let half := windowSamples / 2
  match (r.samples.take half).min?, (r.samples.drop half).min? with
  | some olderMin, some recentMin =>
      if min (olderMin + 10) (2 ^ 32 - 1) < recentMin then some r
      else
        let rise := min olderMin recentMin - baseline
        if 0 < rise then do
          let step ← checkedClamp (rise / 2) 1 maxIncreaseMs
          let raised ← unsigned 32 (baseline + step)
          some { r with baseline := some raised }
        else some r
  | _, _ => some r

def RttCalculator.checkedUpdate (r : RttCalculator) (delay : Nat) : Option RttCalculator :=
  let samples := (if windowSamples ≤ r.samples.length then r.samples.tail else r.samples) ++ [delay]
  let baseline := min (r.baseline.getD delay) delay
  let next : RttCalculator := { baseline := some baseline, samples }
  if samples.length < windowSamples then some next else next.checkedRelearn baseline

def UserDelay.checkedAvgDelay (d : UserDelay) : Option Nat :=
  if d.delayHistory = [] then some delayThreshold150ms
  else do
    let sum ← d.delayHistory.foldlM (fun sum delay => unsigned 32 (sum + delay)) 0
    some (d.excess (sum / d.delayHistory.length))

def UserDelay.checkedRecover (d : UserDelay) (currentFps fps : Nat) : Option (UserDelay × Nat) := do
  let gradual ← unsigned 32 (currentFps + max (currentFps / 10) 1)
  match d.goodSamples, d.fpsBeforeCongestion.filter (fun level => decide (currentFps < level)) with
  | 2, some level | 3, some level => some ({ d with fpsBeforeCongestion := none, samplesSinceRestore := some 0 }, max fps level)
  | 3, none => do
      let raised ← unsigned 32 (currentFps + max (currentFps / 5) 2)
      some ({ d with fpsBeforeCongestion := none }, max fps raised)
  | _, _ => some (d, gradual)

def UserDelay.checkedCountBad (d : UserDelay) : Option UserDelay := do
  let consecutive ← unsigned 64 (d.consecutiveBadSamples + 1)
  let bad ← unsigned 8 (d.fpsBadSamples + 1)
  let replies ←
    match d.repliesAfterBitrateReduction with
    | some replies => (unsigned 8 (replies + 1)).map (fun replies => some (min replies 2))
    | none => some none
  some { d with consecutiveBadSamples := min consecutive 3, fpsBadSamples := min bad 3, repliesAfterBitrateReduction := replies }

def UserDelay.checkedGuardRestore (d : UserDelay) (currentFps : Nat) (failedRestore : Bool) : Option UserDelay :=
  if d.recentlyRestored && (failedRestore || decide (3 ≤ d.consecutiveBadSamples)) then do
    let level ← unsignedSub currentFps (currentFps / 4)
    some { d with fpsBeforeCongestion := some level, samplesSinceRestore := none }
  else some d

def UserDelay.checkedLimitBad (d : UserDelay) (currentFps fps excess : Nat) (bitrateFirst braked : Bool) : Option (UserDelay × Nat) := do
  let failedRestore := decide (600 ≤ excess) && d.recentlyRestored
  let guarded ← d.checkedGuardRestore currentFps failedRestore
  some (guarded.stepDown currentFps fps excess failedRestore bitrateFirst braked)

def UserDelay.checkedLimitFpsChange (d : UserDelay) (currentFps fps delay : Nat) (bitrateFirst braked : Bool) : Option (UserDelay × Nat) := do
  let excess := d.excess delay
  let d := { d with samplesSinceRestore := d.samplesSinceRestore.map (fun samples => min (samples + 1) u8Max) }
  if excess < delayThreshold150ms then
    let good ← unsigned 64 (d.goodSamples + 1)
    UserDelay.checkedRecover { d with consecutiveBadSamples := 0, fpsBadSamples := 0, repliesAfterBitrateReduction := none,
                                      goodSamples := min good 3 } currentFps fps
  else
    let counted ← d.checkedCountBad
    counted.checkedLimitBad currentFps fps excess bitrateFirst braked

def UserDelay.checkedAccelerateStartup (d : UserDelay) (currentFps fps cap delay : Nat) (braked : Bool) : Option (UserDelay × Nat) :=
  if d.startupGoodSamples = u8Max then some (d, fps)
  else if braked || decide (50 ≤ d.excess delay) || decide (cap ≤ currentFps) then some ({ d with startupGoodSamples := u8Max }, fps)
  else do
    let samples ← unsigned 8 (d.startupGoodSamples + 1)
    if samples < 2 then some ({ d with startupGoodSamples := samples }, fps)
    else
      let accelerated := min (max fps (min (currentFps * 2) (2 ^ 32 - 1))) cap
      some ({ d with startupGoodSamples := if cap ≤ accelerated then u8Max else 0 }, accelerated)

section
variable (quotient : Nat → Nat → Nat)

def UserDelay.checkedBandFps (d : UserDelay) (band : Band) (oldAvg avg fps : Nat) : Option (UserDelay × Nat) := do
  let dividend ← unsigned 32 (delayThreshold150ms * band.minFps)
  let step := if fps < band.normalFps then 1 else 0
  if avg < 50 then
    let count ← unsigned 64 (d.quickIncreaseFpsCount + 1)
    if 3 ≤ count then
      let raised ← unsigned 32 (fps + 5)
      some ({ d with quickIncreaseFpsCount := 0 }, max band.minFps raised)
    else
      let raised ← unsigned 32 (fps + step)
      some ({ d with quickIncreaseFpsCount := count }, max band.minFps raised)
  else if avg < 100 then
    let raised ← unsigned 32 (fps + if avg < oldAvg then step else 0)
    some (d, max band.minFps raised)
  else if avg < delayThreshold150ms then some (d, max band.minFps fps)
  else if avg < 200 then some (d, max band.minFps (quotient fps avg))
  else if avg < 300 then some (d, min band.minFps (quotient fps avg))
  else if avg < 600 then some (d, dividend / avg)
  else some (d, min (dividend / avg) (quotient fps avg))

def UserDelay.checkedBoost (d : UserDelay) (avg fps : Nat) : Option (UserDelay × Nat) := do
  let count ← if avg < delayThreshold150ms then unsigned 64 (d.increaseFpsCount + 1) else some 0
  let quick := if 50 < avg then 0 else d.quickIncreaseFpsCount
  if 3 ≤ count then
    let raised ← unsigned 32 (fps + 1)
    some ({ d with increaseFpsCount := 0, quickIncreaseFpsCount := quick }, raised)
  else some ({ d with increaseFpsCount := count, quickIncreaseFpsCount := quick }, fps)

def UserDelay.checkedReceive (d : UserDelay) (delay : Nat) : Option UserDelay := do
  let rtt ← if d.stallReferenceFps.isSome then some d.rttCalculator else d.rttCalculator.checkedUpdate delay
  some (UserDelay.addDelay { d with stallTicks := 0, stallReferenceFps := none, rttCalculator := rtt } delay)

def UserDelay.checkedWanted (d : UserDelay) (band : Band) (bitrateFirst : Bool) (oldAvg cap current : Nat) : Option (UserDelay × Nat) := do
  let fresh ← d.checkedAvgDelay
  let avg := max fresh 10
  let banded ← d.checkedBandFps quotient band oldAvg avg current
  let boosted ← banded.1.checkedBoost avg banded.2
  let floored := if bitrateFirst then max boosted.2 band.minFps else boosted.2
  some (boosted.1, max floored (min minAutoFps cap))

def UserDelay.checkedSettle (d : UserDelay) (current fps cap delay : Nat) (bitrateFirst braked : Bool) : Option UserDelay := do
  let limited ← d.checkedLimitFpsChange current fps delay bitrateFirst braked
  let accelerated ← limited.1.checkedAccelerateStartup current limited.2 cap delay braked
  let stored ← checkedClamp accelerated.2 minFps cap
  some { accelerated.1 with fps := some stored }

def UserDelay.checkedNetworkDelay (d : UserDelay) (band : Band) (bitrateFirst : Bool) (cap delay : Nat) : Option (UserDelay × Bool) := do
  let delay := max delay 10
  let current := d.currentFps cap
  let oldAvg ← UserDelay.checkedAvgDelay { d with stallTicks := 0, stallReferenceFps := none }
  let received ← d.checkedReceive delay
  let wanted ← received.checkedWanted quotient band bitrateFirst oldAvg cap current
  let next ← wanted.1.checkedSettle current wanted.2 cap delay bitrateFirst d.stallReferenceFps.isSome
  some (next, bitrateFirst && next.needsBitrateReduction && next.repliesAfterBitrateReduction.isNone)

end

def UserDelay.checkedResponseElapsed (d : UserDelay) (cap elapsed : Nat) : Option UserDelay :=
  if elapsed ≤ 2000 then some d
  else do
    let reference := d.stallReferenceFps.getD (d.currentFps cap)
    let ticked := UserDelay.addDelay { d with stallTicks := min (d.stallTicks + 1) u8Max } (elapsed % 2 ^ 32)
    let braked :=
      if d.stallReferenceFps.isSome then ticked
      else UserDelay.onReduction { ticked with stallReferenceFps := some reference } reference
    let divisor ← unsignedShl 32 1 (min (elapsed / 1000 % 2 ^ 32 - 1) 5)
    let clamped ← checkedClamp (reference / divisor) (min minAutoFps cap) cap
    some { braked with fps := some (min clamped (d.fps.getD reference)) }

def VideoQoS.checkedHighestFps (s : VideoQoS) : Option Nat := do
  let caps ← s.users.mapM (fun entry => checkedFpsCap entry.2.customFps entry.2.autoAdjustFps)
  checkedClamp (caps.min?.getD fpsDefault) minFps maxFps

def VideoQoS.checkedAdjustFps (s : VideoQoS) (now : Nat) : Option VideoQoS := do
  let highest ← s.checkedHighestFps
  let fps := (s.users.map (fun entry => entry.2.delay.fps.getD initFps)).min?.getD initFps
  let fps := if s.users.any (fun entry => entry.2.joinedAt.any (fun joined => decide (asSecs now joined < 1))) then min fps initFps else fps
  let stored ← checkedClamp fps minFps highest
  some { s with fps := stored }

-- Adjusting the ratio averages every viewer's delays, once for the maximum and again for its own reduction.
def VideoQoS.checkedAdjustRatio (s : VideoQoS) (dynamicScreen : Bool) (now : Nat) : Option VideoQoS :=
  if !s.inVbrState then some s
  else if s.users.all (fun entry => entry.2.delay.checkedAvgDelay.isSome) then some (s.adjustRatio dynamicScreen now)
  else none

def VideoQoS.checkedAnswerReply (s : VideoQoS) (first reduce : Bool) (now : Nat) : Option VideoQoS := do
  let s ← s.checkedAdjustFps now
  let s ← if first && s.firstReplyAdjustsRatio && s.cooled now then s.checkedAdjustRatio false now else some s
  if reduce && s.cooled now then s.checkedAdjustRatio false now else some s

section
variable (quotient : Nat → Nat → Nat)

def VideoQoS.checkedUserNetworkDelay (s : VideoQoS) (id : Int) (delay : Nat) (now : Nat) : Option VideoQoS := do
  let band := bandOf s.latestQuality.ratio
  let bitrateFirst := s.canReduceBitrate
  match Table.get s.users id with
  | none => s.checkedAnswerReply false false now
  | some user => do
      let cap ← checkedFpsCap user.customFps user.autoAdjustFps
      let reply ← user.delay.checkedNetworkDelay quotient band bitrateFirst cap delay
      let users := Table.modify s.users id (fun user => { user with delay := reply.1 })
      VideoQoS.checkedAnswerReply { s with users } user.delay.fps.isNone reply.2 now

def VideoQoS.checkedUserDelayResponseElapsed (s : VideoQoS) (id : Int) (elapsed : Nat) (now : Nat) : Option VideoQoS := do
  match Table.get s.users id with
  | none => some s
  | some user =>
      if elapsed ≤ 2000 then some s
      else do
        let cap ← checkedFpsCap user.customFps user.autoAdjustFps
        let _ ← user.delay.checkedResponseElapsed cap elapsed
        let users := Table.modify s.users id (fun user => { user with delay := user.delay.responseElapsed user.fpsCap elapsed })
        VideoQoS.checkedAdjustFps { s with users } now

def VideoQoS.checkedOnConnectionClose (s : VideoQoS) (linux : Bool) (id : Int) (now : Nat) : Option VideoQoS :=
  let users := Table.remove s.users id
  if users.isEmpty then some (.default linux now) else VideoQoS.checkedAdjustFps { s with users } now

def VideoQoS.checkedUpdateDisplayData (s : VideoQoS) (name : String) (sendCounter : Nat) (now : Nat) : Option VideoQoS := do
  let displays := Table.modify s.displays name (fun display => { display with sendCounter := display.sendCounter + sendCounter })
  let s ← VideoQoS.checkedAdjustFps { s with displays } now
  if s.inVbrState then
    if s.cooled now then
      s.checkedAdjustRatio (s.displays.any (fun entry => decide (adjustRatioInterval * dynamicScreenThreshold ≤ entry.2.sendCounter))) now
    else some s
  else some { s with ratio := s.latestQuality.ratio }

-- The calls that compute; the others only store what they are given.
def VideoQoS.checkedStep (linux : Bool) (s : VideoQoS) : Event → Option VideoQoS
  | .connectionClose id now => s.checkedOnConnectionClose linux id now
  | .networkDelay id delay now => s.checkedUserNetworkDelay quotient id delay now
  | .delayResponseElapsed id elapsed now => s.checkedUserDelayResponseElapsed id elapsed now
  | .updateDisplayData name counter now => s.checkedUpdateDisplayData name counter now
  | event => s.step quotient linux event

end

end GotechDesk.VideoQos
