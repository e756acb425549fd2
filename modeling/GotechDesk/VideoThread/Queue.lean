import GotechDesk.Machine

set_option autoImplicit false

namespace GotechDesk.VideoThread

-- A frame of the display, by its place in the order of arrival.
structure VideoFrame where
  serial : Nat
  key : Bool
deriving DecidableEq, Repr

inductive MediaData where
  | videoFrame (vf : VideoFrame)
  | videoQueue
deriving DecidableEq, Repr

-- Where the video thread is: waiting for the channel, about to pop the queue, with a frame it
-- popped and has still to look at the flag, with a key frame and the flag still to clear, or
-- about to hand a frame to the decoder.
inductive Thread where
  | receiving
  | popping
  | popped (vf : VideoFrame)
  | clearing (vf : VideoFrame)
  | decoding (vf : VideoFrame)
deriving DecidableEq, Repr

inductive Outcome where
  | decoded (vf : VideoFrame)
  | lost (vf : VideoFrame)
deriving DecidableEq, Repr

-- One display of the controller, with the frames that arrived and what became of them.
structure Display where
  capacity : Nat
  videoSender : List MediaData := []
  videoQueue : List VideoFrame := []
  discardQueue : Bool := false
  tokenOwed : Bool := false
  thread : Thread := .receiving
  arrived : List VideoFrame := []
  outcomes : List Outcome := []
deriving DecidableEq, Repr

inductive Event where
  | arrive (key : Bool)
  | sendToken
  | refresh
  | receive
  | pop
  | look
  | clear
  | decode
deriving DecidableEq, Repr

-- A frame that is no key frame goes to the queue: with room its token is still to be sent,
-- without room the oldest is evicted and only a refresh is asked for.
def Display.forcePush (d : Display) (vf : VideoFrame) : Display :=
  if d.videoQueue.length < d.capacity then { d with videoQueue := d.videoQueue ++ [vf], tokenOwed := true, arrived := d.arrived ++ [vf] }
  else { d with videoQueue := d.videoQueue.tail ++ [vf], arrived := d.arrived ++ [vf], outcomes := d.outcomes ++ d.videoQueue.head?.toList.map .lost }

def Display.handleVideoFrame (d : Display) (key : Bool) : Display :=
  let vf : VideoFrame := ⟨d.arrived.length, key⟩
  if key then { d with videoSender := d.videoSender ++ [.videoFrame vf], arrived := d.arrived ++ [vf] } else d.forcePush vf

def Display.receive (d : Display) : Option Display :=
  match d.videoSender with
  | [] => none
  | .videoFrame vf :: rest => some { d with videoSender := rest, thread := .clearing vf }
  | .videoQueue :: rest => some { d with videoSender := rest, thread := .popping }

def Display.pop (d : Display) : Display :=
  match d.videoQueue with
  | [] => { d with thread := .receiving }
  | vf :: rest => { d with videoQueue := rest, thread := .popped vf }

-- The io loop handles one message at a time, so nothing else of it happens while a token is owed.
def Display.step (d : Display) : Event → Option Display
  | .arrive key => if d.tokenOwed then none else some (d.handleVideoFrame key)
  | .sendToken => if d.tokenOwed then some { d with videoSender := d.videoSender ++ [.videoQueue], tokenOwed := false } else none
  | .refresh => if d.tokenOwed then none else some { d with discardQueue := true }
  | .receive => if d.thread = .receiving then d.receive else none
  | .pop => if d.thread = .popping then some d.pop else none
  | .look =>
      match d.thread with
      | .popped vf => some (if d.discardQueue then { d with thread := .receiving, outcomes := d.outcomes ++ [.lost vf] } else { d with thread := .decoding vf })
      | _ => none
  | .clear =>
      match d.thread with
      | .clearing vf => some { d with discardQueue := false, thread := .decoding vf }
      | _ => none
  | .decode =>
      match d.thread with
      | .decoding vf => some { d with thread := .receiving, outcomes := d.outcomes ++ [.decoded vf] }
      | _ => none

end GotechDesk.VideoThread
