import GotechDesk.Machine
import GotechDesk.Table
import GotechDesk.VideoQos.UserDelay

set_option autoImplicit false

namespace GotechDesk.VideoQos

def brBest : Float32 := 1.5
def brBalanced : Float32 := 0.67
def brSpeed : Float32 := 0.5
def brMax : Float32 := 40.0
def brMin : Float32 := 0.2
def brMinHighResolution : Float32 := 0.1
def maxBrMultiple : Float32 := 1.0

def adjustRatioInterval : Nat := 3
def dynamicScreenThreshold : Nat := 2

def Quality.ratio : Quality → Float32
  | .best => brBest
  | .balanced => brBalanced
  | .low => brSpeed
  | .custom ratio => ratio

-- f32::max and f32::min prefer the operand that is a number.
def f32Max (a b : Float32) : Float32 := if a.isNaN then b else if b.isNaN then a else if a < b then b else a
def f32Min (a b : Float32) : Float32 := if a.isNaN then b else if b.isNaN then a else if b < a then b else a
def f32Clamp (value low high : Float32) : Float32 := if value < low then low else if high < value then high else value

structure DisplayData where
  sendCounter : Nat := 0
  supportChangingQuality : Bool := false
deriving DecidableEq, Repr

-- Instants are nanoseconds; every call that reads the clock is given what it read.
structure VideoQoS where
  fps : Nat
  ratio : Float32
  users : List (Int × UserData)
  displays : List (String × DisplayData)
  bitrateStore : Nat
  adjustRatioInstant : Nat
  abrConfig : Bool
  firstReplyAdjustsRatio : Bool

def VideoQoS.default (linux : Bool) (now : Nat) : VideoQoS :=
  { fps := fpsDefault, ratio := brBalanced, users := [], displays := [], bitrateStore := 0, adjustRatioInstant := now,
    abrConfig := true, firstReplyAdjustsRatio := !linux }

def asSecs (now instant : Nat) : Nat := (now - instant) / 1000000000

def VideoQoS.inVbrState (s : VideoQoS) : Bool := s.abrConfig && s.displays.all (fun entry => entry.2.supportChangingQuality)

-- `max_by` over the users in the order the map is iterated: the last of the latest.
def latestOf (best : Option (Int × Quality)) (quality : Int × Quality) : Option (Int × Quality) :=
  match best with
  | none => some quality
  | some held => if held.1 ≤ quality.1 then some quality else some held

def VideoQoS.latestQuality (s : VideoQoS) : Quality :=
  match (s.users.filterMap (fun entry => entry.2.quality)).foldl latestOf none with
  | some quality => quality.2
  | none => .balanced

def VideoQoS.highestFps (s : VideoQoS) : Nat :=
  clamp ((s.users.map (fun entry => entry.2.fpsCap)).min?.getD fpsDefault) minFps maxFps

def VideoQoS.adjustFps (s : VideoQoS) (now : Nat) : VideoQoS :=
  let fps := (s.users.map (fun entry => entry.2.delay.fps.getD initFps)).min?.getD initFps
  let fps := if s.users.any (fun entry => entry.2.joinedAt.any (fun joined => decide (asSecs now joined < 1))) then min fps initFps else fps
  { s with fps := clamp fps minFps s.highestFps }

def VideoQoS.minRatio (s : VideoQoS) : Float32 :=
  let ratio1mbps := if 0 < s.bitrateStore then some (f32Max (s.ratio * 1000.0 / Float32.ofNat s.bitrateStore) brMinHighResolution) else none
  let lowered := fun min : Float32 =>
    match ratio1mbps with
    | some ratio => if ratio < min then ratio else min
    | none => min
  match s.latestQuality with
  | .best => f32Max (lowered (brBest / 2.5)) brMin
  | .balanced => f32Max (lowered (f32Min (brBalanced / 2.0) 0.4)) brMinHighResolution
  | .low | .custom _ => brMinHighResolution

def VideoQoS.canReduceBitrate (s : VideoQoS) : Bool :=
  s.inVbrState && !s.displays.isEmpty && decide (s.minRatio * 1.02 < s.ratio)

def VideoQoS.resetSendCounters (s : VideoQoS) : VideoQoS :=
  { s with displays := Table.mapValues s.displays (fun _ display => { display with sendCounter := 0 }) }

-- The next ratio before it is clamped.
def VideoQoS.nextRatio (s : VideoQoS) (dynamicScreen : Bool) (reduction : Option Float32) (maxDelay : Nat) : Float32 :=
  let v :=
    match reduction with
    | some factor => s.ratio * factor
    | none =>
        if dynamicScreen then s.ratio * (if maxDelay < 50 then 1.15 else if maxDelay < 100 then 1.1 else 1.05)
        else s.ratio
  if 0 < s.bitrateStore then
    let ratioAdd150kbps := Float32.ofNat ((s.bitrateStore + 150) % 2 ^ 32) * s.ratio / Float32.ofNat s.bitrateStore
    if ratioAdd150kbps < v && s.ratio < ratioAdd150kbps && brSpeed ≤ s.ratio then ratioAdd150kbps else v
  else v

def UserDelay.answerReduction (d : UserDelay) (lowered : Bool) : UserDelay :=
  if d.needsBitrateReduction && d.repliesAfterBitrateReduction.isNone then
    { d with repliesAfterBitrateReduction := some (if lowered then 0 else 2) }
  else d

def UserData.answerReduction (user : UserData) (lowered : Bool) : UserData :=
  { user with delay := user.delay.answerReduction lowered }

def VideoQoS.adjustRatio (s : VideoQoS) (dynamicScreen : Bool) (now : Nat) : VideoQoS :=
  if !s.inVbrState then s
  else
    match (s.users.map (fun entry => entry.2.delay.avgDelay)).max? with
    | none => s
    | some maxDelay =>
        let reductions := s.users.filterMap (fun entry => entry.2.delay.ratioReduction)
        let reduction := reductions.head?.map (fun first => reductions.tail.foldl f32Min first)
        if reduction.isNone && delayThreshold150ms ≤ maxDelay then s.resetSendCounters
        else
          let high := s.latestQuality.ratio * maxBrMultiple
          let ratio := f32Clamp (s.nextRatio dynamicScreen reduction maxDelay) s.minRatio high
          let users :=
            if reduction.isSome then Table.mapValues s.users (fun _ user => user.answerReduction (decide (ratio < s.ratio)))
            else s.users
          { VideoQoS.resetSendCounters { s with users, ratio } with adjustRatioInstant := now }

def VideoQoS.cooled (s : VideoQoS) (now : Nat) : Bool := decide (adjustRatioInterval ≤ asSecs now s.adjustRatioInstant)

def VideoQoS.onConnectionOpen (s : VideoQoS) (id : Int) (enableAbr : String) (now : Nat) : VideoQoS :=
  { s with users := Table.insert s.users id { joinedAt := some now }, abrConfig := enableAbr != "N" }

def VideoQoS.onConnectionClose (s : VideoQoS) (linux : Bool) (id : Int) (now : Nat) : VideoQoS :=
  let users := Table.remove s.users id
  if users.isEmpty then .default linux now else VideoQoS.adjustFps { s with users } now

def VideoQoS.userCustomFps (s : VideoQoS) (id : Int) (fps : Nat) : VideoQoS :=
  if fps < minFps || maxFps < fps then s
  else { s with users := Table.modify s.users id (fun user => { user with customFps := some fps }) }

def VideoQoS.userAutoAdjustFps (s : VideoQoS) (id : Int) (fps : Nat) : VideoQoS :=
  if fps < minFps || maxFps < fps then s
  else { s with users := Table.modify s.users id (fun user => { user with autoAdjustFps := some fps }) }

def convertQuality (q : Int) : Quality :=
  if q = 3 then .balanced
  else if q = 2 then .low
  else if q = 4 then .best
  else .custom (f32Clamp (Float32.ofNat ((q / 256 % 4096).toNat * 2) / 100.0) brMin brMax)

def VideoQoS.userImageQuality (s : VideoQoS) (id : Int) (imageQuality : Int) (time : Int) : VideoQoS :=
  match Table.get s.users id with
  | none => s
  | some _ =>
      let quality := some (time, convertQuality imageQuality)
      let next := { s with users := Table.modify s.users id (fun user => { user with quality }) }
      { next with ratio := next.latestQuality.ratio }

def VideoQoS.userRecord (s : VideoQoS) (id : Int) (v : Bool) : VideoQoS :=
  { s with users := Table.modify s.users id (fun user => { user with record := v }) }

def bandOf (targetRatio : Float32) : Band :=
  if brBest ≤ targetRatio then ⟨8, 16⟩ else if brBalanced ≤ targetRatio then ⟨10, 20⟩ else ⟨12, 24⟩

-- A first reply and a call for a lower bitrate each trigger the ratio when it has cooled down.
def VideoQoS.answerReply (s : VideoQoS) (first reduce : Bool) (now : Nat) : VideoQoS :=
  let s := s.adjustFps now
  let s := if first && s.firstReplyAdjustsRatio && s.cooled now then s.adjustRatio false now else s
  if reduce && s.cooled now then s.adjustRatio false now else s

section
variable (quotient : Nat → Nat → Nat)

def VideoQoS.userNetworkDelay (s : VideoQoS) (id : Int) (delay : Nat) (now : Nat) : VideoQoS :=
  let band := bandOf s.latestQuality.ratio
  let bitrateFirst := s.canReduceBitrate
  match Table.get s.users id with
  | none => s.answerReply false false now
  | some user =>
      let reply := user.delay.networkDelay quotient band bitrateFirst user.fpsCap delay
      let users := Table.modify s.users id (fun user => { user with delay := reply.1 })
      VideoQoS.answerReply { s with users } user.delay.fps.isNone reply.2 now

def VideoQoS.userDelayResponseElapsed (s : VideoQoS) (id : Int) (elapsed : Nat) (now : Nat) : VideoQoS :=
  match Table.get s.users id with
  | none => s
  | some _ =>
      if elapsed ≤ 2000 then s
      else
        let users := Table.modify s.users id (fun user => { user with delay := user.delay.responseElapsed user.fpsCap elapsed })
        VideoQoS.adjustFps { s with users } now

def VideoQoS.newDisplay (s : VideoQoS) (name : String) : VideoQoS := { s with displays := Table.insert s.displays name {} }

def VideoQoS.removeDisplay (s : VideoQoS) (name : String) : VideoQoS := { s with displays := Table.remove s.displays name }

def VideoQoS.updateDisplayData (s : VideoQoS) (name : String) (sendCounter : Nat) (now : Nat) : VideoQoS :=
  let displays := Table.modify s.displays name (fun display => { display with sendCounter := display.sendCounter + sendCounter })
  let s := VideoQoS.adjustFps { s with displays } now
  if s.inVbrState then
    if s.cooled now then
      s.adjustRatio (s.displays.any (fun entry => decide (adjustRatioInterval * dynamicScreenThreshold ≤ entry.2.sendCounter))) now
    else s
  else { s with ratio := s.latestQuality.ratio }

def VideoQoS.setSupportChangingQuality (s : VideoQoS) (name : String) (support : Bool) : VideoQoS :=
  { s with displays := Table.modify s.displays name (fun display => { display with supportChangingQuality := support }) }

def VideoQoS.takeRatio (s : VideoQoS) : VideoQoS :=
  if s.ratio < brMinHighResolution || brMax < s.ratio then { s with ratio := brBalanced } else s

-- One call on the shared controller, with what it read of the clock and the settings.
-- `rehash` is the map's freedom to be iterated in another order by the next call.
inductive Event where
  | connectionOpen (id : Int) (enableAbr : String) (now : Nat)
  | connectionClose (id : Int) (now : Nat)
  | customFps (id : Int) (fps : Nat)
  | autoAdjustFps (id : Int) (fps : Nat)
  | imageQuality (id : Int) (imageQuality : Int) (time : Int)
  | record (id : Int) (v : Bool)
  | networkDelay (id : Int) (delay : Nat) (now : Nat)
  | delayResponseElapsed (id : Int) (elapsed : Nat) (now : Nat)
  | newDisplay (name : String)
  | removeDisplay (name : String)
  | updateDisplayData (name : String) (sendCounter : Nat) (now : Nat)
  | setSupportChangingQuality (name : String) (support : Bool)
  | storeBitrate (bitrate : Nat)
  | ratio
  | rehash (order : List Int)
deriving DecidableEq, Repr

def VideoQoS.step (linux : Bool) (s : VideoQoS) : Event → Option VideoQoS
  | .connectionOpen id enableAbr now => some (s.onConnectionOpen id enableAbr now)
  | .connectionClose id now => some (s.onConnectionClose linux id now)
  | .customFps id fps => some (s.userCustomFps id fps)
  | .autoAdjustFps id fps => some (s.userAutoAdjustFps id fps)
  | .imageQuality id quality time => some (s.userImageQuality id quality time)
  | .record id v => some (s.userRecord id v)
  | .networkDelay id delay now => some (s.userNetworkDelay quotient id delay now)
  | .delayResponseElapsed id elapsed now => some (s.userDelayResponseElapsed id elapsed now)
  | .newDisplay name => some (s.newDisplay name)
  | .removeDisplay name => some (s.removeDisplay name)
  | .updateDisplayData name counter now => some (s.updateDisplayData name counter now)
  | .setSupportChangingQuality name support => some (s.setSupportChangingQuality name support)
  | .storeBitrate bitrate => some { s with bitrateStore := bitrate }
  | .ratio => some s.takeRatio
  | .rehash order =>
      if order.Perm (s.users.map Prod.fst) then
        some { s with users := Table.reorder s.users order }
      else none

end

end GotechDesk.VideoQos
