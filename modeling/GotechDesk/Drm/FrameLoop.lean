import GotechDesk.Machine

set_option autoImplicit false

namespace GotechDesk.Drm.FrameLoop

def drmFrameCredit : Int := 2

def maxAckReads : Nat := 64

-- What the capture worker hands over: `Frame` and `FrameCpu` are one case here.
inductive DrmProducerMsg (φ κ : Type) where
  | frame (frame : φ)
  | cursor (cursor : κ)
  | displays
deriving DecidableEq

-- Where the task of one connection is. `acking` and `settling` are the two
-- `drain_frame_acks`, with the reads they have left.
inductive Phase (φ κ : Type) where
  | acking (reads : Nat)
  | judging
  | trying
  | starved
  | waiting
  | checking (first : Option (DrmProducerMsg φ κ))
  | announcing (first : Option (DrmProducerMsg φ κ))
  | forwarding (latest : Option φ) (msg : Option (DrmProducerMsg φ κ))
  | sendingCursor (latest : Option φ) (cursor : κ)
  | settling (latest : Option φ) (reads : Nat)
  | sendingFrame (frame : φ)
  | closed
deriving DecidableEq

-- `captured` and `received` log what went into and came out of the channel. `sent` has each
-- frame sent with the number of frames received by then, `acked` counts the ack bytes the
-- consumer has written and `drained` those read.
structure State (φ κ : Type) where
  captured : List (DrmProducerMsg φ κ)
  channel : List (DrmProducerMsg φ κ)
  received : List (DrmProducerMsg φ κ)
  worker : Bool
  framesGated : Bool
  credit : Int
  heldFrame : Option φ
  sent : List (φ × Nat)
  cursors : List κ
  acked : Nat
  drained : Nat
  phase : Phase φ κ
deriving DecidableEq

inductive Label (φ κ : Type) where
  | capture (msg : DrmProducerMsg φ κ)
  | workerEnds
  | ack
  | read (n : Nat)
  | wouldBlock
  | judge (stalled : Bool)
  | recv
  | ended
  | readable
  | timeout
  | authorize (peerOk changed : Bool)
  | sent
  | next
  | fails
deriving DecidableEq

section
variable {φ κ : Type}

def DrmProducerMsg.frame? : DrmProducerMsg φ κ → Option φ
  | .frame shot => some shot
  | _ => none

def DrmProducerMsg.cursor? : DrmProducerMsg φ κ → Option κ
  | .cursor shape => some shape
  | _ => none

def start : State φ κ :=
  { captured := [], channel := [], received := [], worker := true, framesGated := false, credit := drmFrameCredit, heldFrame := none, sent := [],
    cursors := [], acked := 0, drained := 0, phase := .acking maxAckReads }

-- The next message of the channel, when there is one.
def pull (state : State φ κ) : Option (DrmProducerMsg φ κ) × State φ κ :=
  match state.channel with
  | [] => (none, state)
  | msg :: rest => (some msg, { state with channel := rest, received := state.received ++ [msg] })

-- The part of an iteration between the generation check and the inner loop.
def enter (state : State φ κ) (first : Option (DrmProducerMsg φ κ)) : State φ κ :=
  match first with
  | some msg => { state with heldFrame := none, phase := .forwarding state.heldFrame (some msg) }
  | none => { (pull state).2 with heldFrame := none, phase := .forwarding state.heldFrame (pull state).1 }

def again (state : State φ κ) (latest : Option φ) : State φ κ := { (pull state).2 with phase := .forwarding latest (pull state).1 }

def drain (state : State φ κ) (n : Nat) : State φ κ :=
  { state with credit := min (state.credit + n) drmFrameCredit, drained := state.drained + n }

-- Once the acks are drained: hold the frame, send it, or go round.
def decideFrame (state : State φ κ) (latest : Option φ) : State φ κ :=
  if state.credit ≤ 0 then { state with heldFrame := latest, phase := .acking maxAckReads }
  else { state with phase := latest.elim (.acking maxAckReads) .sendingFrame }

def judged (state : State φ κ) : State φ κ :=
  { state with
    framesGated := decide (state.credit ≤ 0)
    phase := if state.heldFrame.isSome ∧ 0 < state.credit then .trying else if state.credit ≤ 0 then .starved else .waiting }

-- `honest` says that the consumer writes one ack byte for each frame it has received.
def step (honest : Bool) (state : State φ κ) (label : Label φ κ) : Option (State φ κ) :=
  match label, state.phase with
  | .capture msg, _ =>
      if state.worker ∧ state.channel.length < 2 then
        some { state with captured := state.captured ++ [msg], channel := state.channel ++ [msg] }
      else none
  | .workerEnds, _ => some { state with worker := false }
  | .ack, _ => if honest → state.acked < state.sent.length then some { state with acked := state.acked + 1 } else none
  | .read n, .acking (reads + 1) =>
      if 0 < n ∧ n ≤ 64 ∧ n ≤ state.acked - state.drained then
        some { drain state n with phase := if drmFrameCredit ≤ (drain state n).credit then .judging else .acking reads }
      else none
  | .wouldBlock, .acking (_ + 1) => some { state with phase := .judging }
  | .next, .acking 0 => some { state with phase := .judging }
  | .judge stalled, .judging => some (if stalled ∧ state.credit ≤ 0 then { state with phase := .closed } else judged state)
  | .next, .trying => some { (pull state).2 with phase := .checking (pull state).1 }
  | .readable, .starved => some { state with phase := .checking none }
  | .timeout, .starved => some { state with phase := .checking none }
  | .recv, .starved =>
      if state.channel = [] then none else some { (pull state).2 with phase := .checking (pull state).1 }
  | .recv, .waiting =>
      if state.channel = [] then none else some { (pull state).2 with phase := .checking (pull state).1 }
  | .ended, .starved => if state.worker = false ∧ state.channel = [] then some { state with phase := .closed } else none
  | .ended, .waiting => if state.worker = false ∧ state.channel = [] then some { state with phase := .closed } else none
  | .authorize peerOk changed, .checking first =>
      some (if peerOk then (if changed then { state with phase := .announcing first } else enter state first) else { state with phase := .closed })
  | .sent, .announcing first => some (enter state first)
  | .next, .forwarding _ (some (.frame frame)) => some (again state (some frame))
  | .next, .forwarding latest (some (.cursor cursor)) => some { state with phase := .sendingCursor latest cursor }
  | .next, .forwarding latest (some .displays) => some (again state latest)
  | .next, .forwarding latest none => some { state with phase := .settling latest maxAckReads }
  | .sent, .sendingCursor latest cursor => some (again { state with cursors := state.cursors ++ [cursor] } latest)
  | .read n, .settling latest (reads + 1) =>
      if 0 < n ∧ n ≤ 64 ∧ n ≤ state.acked - state.drained then
        some (if drmFrameCredit ≤ (drain state n).credit then decideFrame (drain state n) latest
          else { drain state n with phase := .settling latest reads })
      else none
  | .wouldBlock, .settling latest (_ + 1) => some (decideFrame state latest)
  | .next, .settling latest 0 => some (decideFrame state latest)
  -- The ack of a frame can be written only once its last byte is sent, and no await stands
  -- between that and the credit.
  | .sent, .sendingFrame frame =>
      some { state with
        credit := state.credit - 1
        sent := state.sent ++ [(frame, (state.received.filterMap DrmProducerMsg.frame?).length)]
        phase := .acking maxAckReads }
  | .fails, _ => some { state with phase := .closed }
  | _, _ => none

end

end GotechDesk.Drm.FrameLoop
