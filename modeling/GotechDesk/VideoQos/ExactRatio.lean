import GotechDesk.VideoQos.Controller

set_option autoImplicit false

-- The controller's bitrate side with its f32 values read as exact rationals. What only the
-- stream's frame rate depends on (the published rate, the start-up clocks, recording) is left out.
namespace GotechDesk.VideoQos.Exact

def brBest : ℚ := 3 / 2
def brBalanced : ℚ := 67 / 100
def brSpeed : ℚ := 1 / 2
def brMax : ℚ := 40
def brMin : ℚ := 1 / 5
def brMinHighResolution : ℚ := 1 / 10
def maxBrMultiple : ℚ := 1

inductive Quality where
  | best
  | balanced
  | low
  | custom (ratio : ℚ)
deriving DecidableEq

def Quality.ratio : Quality → ℚ
  | .best => brBest
  | .balanced => brBalanced
  | .low => brSpeed
  | .custom ratio => ratio

def clamp (value low high : ℚ) : ℚ := if value < low then low else if high < value then high else value

def ratioReduction (d : UserDelay) : Option ℚ :=
  if d.needsBitrateReduction then
    let excess := d.avgDelay
    let confirmed := decide (3 ≤ d.consecutiveBadSamples)
    some (if excess < 200 then 19 / 20
      else if excess < 300 then 9 / 10
      else if excess < 500 then (if confirmed then 7 / 10 else 17 / 20)
      else if confirmed then 1 / 2
      else 4 / 5)
  else none

structure UserData where
  autoAdjustFps : Option Nat := none
  customFps : Option Nat := none
  quality : Option (Int × Quality) := none
  delay : UserDelay := {}

def UserData.fpsCap (user : UserData) : Nat := VideoQos.fpsCap user.customFps user.autoAdjustFps

structure VideoQoS where
  ratio : ℚ
  users : List (Int × UserData)
  displays : List (String × DisplayData)
  bitrateStore : Nat
  adjustRatioInstant : Nat
  abrConfig : Bool
  firstReplyAdjustsRatio : Bool

def VideoQoS.default (linux : Bool) (now : Nat) : VideoQoS :=
  { ratio := brBalanced, users := [], displays := [], bitrateStore := 0, adjustRatioInstant := now, abrConfig := true,
    firstReplyAdjustsRatio := !linux }

def VideoQoS.inVbrState (s : VideoQoS) : Bool := s.abrConfig && s.displays.all (fun entry => entry.2.supportChangingQuality)

-- `max_by` over the users in the order the map is iterated: the last of the latest.
def latestOf (best : Option (Int × Quality)) (quality : Int × Quality) : Option (Int × Quality) :=
  match best with
  | none => some quality
  | some held => if held.1 ≤ quality.1 then some quality else some held

def VideoQoS.latestQuality (s : VideoQoS) : Quality :=
  match (s.users.filterMap (fun entry => entry.2.quality)).foldl latestOf none with
  | some quality => quality.2
  | none => .balanced

-- A floor that the ratio of one megabit lowers.
def lowered (floor : ℚ) : Option ℚ → ℚ
  | some ratio1mbps => if ratio1mbps < floor then ratio1mbps else floor
  | none => floor

def VideoQoS.minRatio (s : VideoQoS) : ℚ :=
  let ratio1mbps := if 0 < s.bitrateStore then some (max (s.ratio * 1000 / s.bitrateStore) brMinHighResolution) else none
  match s.latestQuality with
  | .best => max (lowered (brBest / (5 / 2)) ratio1mbps) brMin
  | .balanced => max (lowered (min (brBalanced / 2) (2 / 5)) ratio1mbps) brMinHighResolution
  | .low | .custom _ => brMinHighResolution

def VideoQoS.canReduceBitrate (s : VideoQoS) : Bool :=
  s.inVbrState && !s.displays.isEmpty && decide (s.minRatio * (51 / 50) < s.ratio)

def VideoQoS.resetSendCounters (s : VideoQoS) : VideoQoS :=
  { s with displays := Table.mapValues s.displays (fun _ display => { display with sendCounter := 0 }) }

-- The next ratio before it is clamped.
def VideoQoS.nextRatio (s : VideoQoS) (dynamicScreen : Bool) (reduction : Option ℚ) (maxDelay : Nat) : ℚ :=
  let v :=
    match reduction with
    | some factor => s.ratio * factor
    | none =>
        if dynamicScreen then s.ratio * (if maxDelay < 50 then 23 / 20 else if maxDelay < 100 then 11 / 10 else 21 / 20)
        else s.ratio
  if 0 < s.bitrateStore then
    let ratioAdd150kbps := ((s.bitrateStore + 150) % 2 ^ 32 : Nat) * s.ratio / s.bitrateStore
    if ratioAdd150kbps < v && s.ratio < ratioAdd150kbps && brSpeed ≤ s.ratio then ratioAdd150kbps else v
  else v

def UserData.answerReduction (user : UserData) (lowered : Bool) : UserData := { user with delay := user.delay.answerReduction lowered }

def VideoQoS.adjustRatio (s : VideoQoS) (dynamicScreen : Bool) (now : Nat) : VideoQoS :=
  if !s.inVbrState then s
  else
    match (s.users.map (fun entry => entry.2.delay.avgDelay)).max? with
    | none => s
    | some maxDelay =>
        let reduction := (s.users.filterMap (fun entry => ratioReduction entry.2.delay)).min?
        if reduction.isNone && delayThreshold150ms ≤ maxDelay then s.resetSendCounters
        else
          let high := s.latestQuality.ratio * maxBrMultiple
          let ratio := clamp (s.nextRatio dynamicScreen reduction maxDelay) s.minRatio high
          let users :=
            if reduction.isSome then Table.mapValues s.users (fun _ user => user.answerReduction (decide (ratio < s.ratio)))
            else s.users
          { VideoQoS.resetSendCounters { s with users, ratio } with adjustRatioInstant := now }

def VideoQoS.cooled (s : VideoQoS) (now : Nat) : Bool := decide (adjustRatioInterval ≤ asSecs now s.adjustRatioInstant)

def VideoQoS.onConnectionOpen (s : VideoQoS) (id : Int) (enableAbr : String) : VideoQoS :=
  { s with users := Table.insert s.users id {}, abrConfig := enableAbr != "N" }

def VideoQoS.onConnectionClose (s : VideoQoS) (linux : Bool) (id : Int) (now : Nat) : VideoQoS :=
  let users := Table.remove s.users id
  if users.isEmpty then .default linux now else { s with users }

def VideoQoS.userCustomFps (s : VideoQoS) (id : Int) (fps : Nat) : VideoQoS :=
  if fps < minFps || maxFps < fps then s
  else { s with users := Table.modify s.users id (fun user => { user with customFps := some fps }) }

def VideoQoS.userAutoAdjustFps (s : VideoQoS) (id : Int) (fps : Nat) : VideoQoS :=
  if fps < minFps || maxFps < fps then s
  else { s with users := Table.modify s.users id (fun user => { user with autoAdjustFps := some fps }) }

def convertQuality (q : Int) : Quality :=
  if q = 3 then .balanced
  else if q = 2 then .low
  else if q = 4 then .best
  else .custom (clamp ((q / 256 % 4096 * 2 : Int) / 100) brMin brMax)

def VideoQoS.userImageQuality (s : VideoQoS) (id : Int) (imageQuality : Int) (time : Int) : VideoQoS :=
  match Table.get s.users id with
  | none => s
  | some _ =>
      let quality := some (time, convertQuality imageQuality)
      let next := { s with users := Table.modify s.users id (fun user => { user with quality }) }
      { next with ratio := next.latestQuality.ratio }

def bandOf (targetRatio : ℚ) : Band :=
  if brBest ≤ targetRatio then ⟨8, 16⟩ else if brBalanced ≤ targetRatio then ⟨10, 20⟩ else ⟨12, 24⟩

def VideoQoS.answerReply (s : VideoQoS) (first reduce : Bool) (now : Nat) : VideoQoS :=
  let s := if first && s.firstReplyAdjustsRatio && s.cooled now then s.adjustRatio false now else s
  if reduce && s.cooled now then s.adjustRatio false now else s

section
variable (quotient : Nat → Nat → Nat)

def VideoQoS.userNetworkDelay (s : VideoQoS) (id : Int) (delay : Nat) (now : Nat) : VideoQoS :=
  let band := bandOf s.latestQuality.ratio
  let bitrateFirst := s.canReduceBitrate
  match Table.get s.users id with
  | none => s
  | some user =>
      let reply := user.delay.networkDelay quotient band bitrateFirst user.fpsCap delay
      let users := Table.modify s.users id (fun user => { user with delay := reply.1 })
      VideoQoS.answerReply { s with users } user.delay.fps.isNone reply.2 now

def VideoQoS.userDelayResponseElapsed (s : VideoQoS) (id : Int) (elapsed : Nat) : VideoQoS :=
  { s with users := Table.modify s.users id (fun user => { user with delay := user.delay.responseElapsed user.fpsCap elapsed }) }

def VideoQoS.newDisplay (s : VideoQoS) (name : String) : VideoQoS := { s with displays := Table.insert s.displays name {} }

def VideoQoS.removeDisplay (s : VideoQoS) (name : String) : VideoQoS := { s with displays := Table.remove s.displays name }

def VideoQoS.updateDisplayData (s : VideoQoS) (name : String) (sendCounter : Nat) (now : Nat) : VideoQoS :=
  let displays := Table.modify s.displays name (fun display => { display with sendCounter := display.sendCounter + sendCounter })
  let s := { s with displays }
  if s.inVbrState then
    if s.cooled now then
      s.adjustRatio (s.displays.any (fun entry => decide (adjustRatioInterval * dynamicScreenThreshold ≤ entry.2.sendCounter))) now
    else s
  else { s with ratio := s.latestQuality.ratio }

def VideoQoS.setSupportChangingQuality (s : VideoQoS) (name : String) (support : Bool) : VideoQoS :=
  { s with displays := Table.modify s.displays name (fun display => { display with supportChangingQuality := support }) }

def VideoQoS.takeRatio (s : VideoQoS) : VideoQoS :=
  if s.ratio < brMinHighResolution || brMax < s.ratio then { s with ratio := brBalanced } else s

def VideoQoS.step (linux : Bool) (s : VideoQoS) : Event → Option VideoQoS
  | .connectionOpen id enableAbr _ => some (s.onConnectionOpen id enableAbr)
  | .connectionClose id now => some (s.onConnectionClose linux id now)
  | .customFps id fps => some (s.userCustomFps id fps)
  | .autoAdjustFps id fps => some (s.userAutoAdjustFps id fps)
  | .imageQuality id quality time => some (s.userImageQuality id quality time)
  | .record _ _ => some s
  | .networkDelay id delay now => some (s.userNetworkDelay quotient id delay now)
  | .delayResponseElapsed id elapsed _ => some (s.userDelayResponseElapsed id elapsed)
  | .newDisplay name => some (s.newDisplay name)
  | .removeDisplay name => some (s.removeDisplay name)
  | .updateDisplayData name counter now => some (s.updateDisplayData name counter now)
  | .setSupportChangingQuality name support => some (s.setSupportChangingQuality name support)
  | .storeBitrate bitrate => some { s with bitrateStore := bitrate }
  | .ratio => some s.takeRatio
  | .rehash order =>
      if order.Perm (s.users.map Prod.fst) then
        some { s with users := Table.reorder s.users order }
      else none

end

end GotechDesk.VideoQos.Exact
