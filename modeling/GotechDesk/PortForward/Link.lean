import GotechDesk.Machine
import GotechDesk.PortForward.ChannelSteps

set_option autoImplicit false

namespace GotechDesk.PortForward

-- One direction of one channel between two ends that both run this code: the
-- ordered frames and the window updates that are queued or on the wire, which of
-- them arrives first being open. Once `cut` nothing more gets through. `done` is the
-- history of the ordered frames that have arrived.
structure Wire where
  frames : List Frame
  updates : List Nat
  cut : Bool
  done : List Frame
deriving DecidableEq, Repr

def Wire.empty : Wire := ⟨[], [], false, []⟩

def Wire.emit (w : Wire) (frame : Option Frame) : Wire :=
  if w.cut then w
  else
    match frame with
    | none => w
    | some (.windowUpdateMsg _ add) => { w with updates := w.updates ++ [add] }
    | some ordered => { w with frames := w.frames ++ [ordered] }

def Wire.truncate (w : Wire) (frames updates : Nat) : Wire :=
  { w with frames := w.frames.take frames, updates := w.updates.take updates, cut := true }

-- The controlled side before on_open has seen the channel: no entry, no task.
def Channel.absent (id : ChannelId) : Channel :=
  { Channel.controlled id "" false channelWindow with phase := .unborn, listed := false }

-- `refusal` is the message on_open turned the channel's `open` away with.
structure Link where
  ctl : Channel
  srv : Channel
  up : Wire
  down : Wire
  refusal : Option String
deriving DecidableEq, Repr

def Link.start (id : ChannelId) (host : String) (port : Int) (prebuf : Bytes) : Link :=
  { ctl := Channel.controller id host port prebuf, srv := Channel.absent id, up := .empty, down := .empty,
    refusal := none }

-- `verdict` is what on_open decides for the channel's `open`: the target to connect
-- to, or the refusal it answers with.
inductive Verdict where
  | accept (addr : String) (isRdp : Bool)
  | refuse (message : String)
deriving DecidableEq, Repr

def Link.arrive (l : Link) (frame : Frame) (verdict : Verdict) : Link :=
  match frame with
  | .openMsg id _ _ window =>
      if l.srv.phase = .unborn ∧ l.refusal = none then
        match verdict with
        | .accept addr isRdp => { l with srv := Channel.controlled id addr isRdp window }
        | .refuse message => { l with refusal := some message, down := l.down.emit (some (.openedMsg id false message 0)) }
      else l
  | _ => { l with srv := l.srv.onFrame frame }

inductive LinkAct where
  | ctl (act : Act)
  | srv (act : Act)
  | deliverUp (verdict : Verdict)
  | deliverUpUpdate
  | deliverDown
  | deliverDownUpdate
  | ctlUnlist
  | srvUnlist
  | cutUp (frames updates : Nat)
  | cutDown (frames updates : Nat)
deriving DecidableEq, Repr

def Link.step (l : Link) : LinkAct → Option Link
  | .ctl act => (l.ctl.step act).map (fun result => { l with ctl := result.1, up := l.up.emit result.2 })
  | .srv act => (l.srv.step act).map (fun result => { l with srv := result.1, down := l.down.emit result.2 })
  | .deliverUp verdict =>
      match l.up.frames with
      | [] => none
      | frame :: rest =>
          some ({ l with up := { l.up with frames := rest, done := l.up.done ++ [frame] } }.arrive frame verdict)
  | .deliverUpUpdate =>
      match l.up.updates with
      | [] => none
      | add :: rest =>
          some { l with up := { l.up with updates := rest }, srv := l.srv.onFrame (.windowUpdateMsg l.ctl.id add) }
  | .deliverDown =>
      match l.down.frames with
      | [] => none
      | frame :: rest =>
          some { l with down := { l.down with frames := rest, done := l.down.done ++ [frame] }, ctl := l.ctl.onFrame frame }
  | .deliverDownUpdate =>
      match l.down.updates with
      | [] => none
      | add :: rest =>
          some { l with down := { l.down with updates := rest }, ctl := l.ctl.onFrame (.windowUpdateMsg l.ctl.id add) }
  | .ctlUnlist => some { l with ctl := l.ctl.unlist }
  | .srvUnlist => some { l with srv := l.srv.unlist }
  | .cutUp frames updates => some { l with up := l.up.truncate frames updates }
  | .cutDown frames updates => some { l with down := l.down.truncate frames updates }

inductive LinkStep (l : Link) : LinkAct → Link → Prop where
  | ctl (act : Act) (next : Channel) (frame : Option Frame) (step : ChannelStep l.ctl act next frame) :
      LinkStep l (.ctl act) { l with ctl := next, up := l.up.emit frame }
  | srv (act : Act) (next : Channel) (frame : Option Frame) (step : ChannelStep l.srv act next frame) :
      LinkStep l (.srv act) { l with srv := next, down := l.down.emit frame }
  | accepted (addr : String) (isRdp : Bool) (id : ChannelId) (host : String) (port : Int) (window : Nat)
      (rest : List Frame) (queued : l.up.frames = .openMsg id host port window :: rest) (unborn : l.srv.phase = .unborn)
      (pending : l.refusal = none) :
      LinkStep l (.deliverUp (.accept addr isRdp))
        { l with up := { l.up with frames := rest, done := l.up.done ++ [.openMsg id host port window] },
                 srv := Channel.controlled id addr isRdp window }
  | refused (message : String) (id : ChannelId) (host : String) (port : Int) (window : Nat) (rest : List Frame)
      (queued : l.up.frames = .openMsg id host port window :: rest) (unborn : l.srv.phase = .unborn)
      (pending : l.refusal = none) :
      LinkStep l (.deliverUp (.refuse message))
        { l with up := { l.up with frames := rest, done := l.up.done ++ [.openMsg id host port window] }, refusal := some message,
                 down := l.down.emit (some (.openedMsg id false message 0)) }
  | repeated (verdict : Verdict) (id : ChannelId) (host : String) (port : Int) (window : Nat) (rest : List Frame)
      (queued : l.up.frames = .openMsg id host port window :: rest)
      (known : ¬ (l.srv.phase = .unborn ∧ l.refusal = none)) :
      LinkStep l (.deliverUp verdict)
        { l with up := { l.up with frames := rest, done := l.up.done ++ [.openMsg id host port window] } }
  | upFrame (verdict : Verdict) (frame : Frame) (rest : List Frame) (queued : l.up.frames = frame :: rest)
      (other : ∀ id host port window, frame ≠ .openMsg id host port window) :
      LinkStep l (.deliverUp verdict)
        { l with up := { l.up with frames := rest, done := l.up.done ++ [frame] }, srv := l.srv.onFrame frame }
  | upUpdate (add : Nat) (rest : List Nat) (queued : l.up.updates = add :: rest) :
      LinkStep l .deliverUpUpdate
        { l with up := { l.up with updates := rest }, srv := l.srv.onFrame (.windowUpdateMsg l.ctl.id add) }
  | downFrame (frame : Frame) (rest : List Frame) (queued : l.down.frames = frame :: rest) :
      LinkStep l .deliverDown
        { l with down := { l.down with frames := rest, done := l.down.done ++ [frame] }, ctl := l.ctl.onFrame frame }
  | downUpdate (add : Nat) (rest : List Nat) (queued : l.down.updates = add :: rest) :
      LinkStep l .deliverDownUpdate
        { l with down := { l.down with updates := rest }, ctl := l.ctl.onFrame (.windowUpdateMsg l.ctl.id add) }
  | ctlUnlist : LinkStep l .ctlUnlist { l with ctl := l.ctl.unlist }
  | srvUnlist : LinkStep l .srvUnlist { l with srv := l.srv.unlist }
  | cutUp (frames updates : Nat) : LinkStep l (.cutUp frames updates) { l with up := l.up.truncate frames updates }
  | cutDown (frames updates : Nat) : LinkStep l (.cutDown frames updates) { l with down := l.down.truncate frames updates }

theorem link_deliver_up (l next : Link) (verdict : Verdict) (taken : l.step (.deliverUp verdict) = some next) :
    LinkStep l (.deliverUp verdict) next := by
  cases queued : l.up.frames with
  | nil => simp [Link.step, queued] at taken
  | cons frame rest =>
      simp only [Link.step, queued, Option.some.injEq] at taken
      subst taken
      cases frame with
      | openMsg id host port window =>
          by_cases fresh : l.srv.phase = .unborn ∧ l.refusal = none
          · cases verdict with
            | accept addr isRdp =>
                simp only [Link.arrive, if_pos fresh]
                exact .accepted addr isRdp id host port window rest queued fresh.1 fresh.2
            | refuse message =>
                simp only [Link.arrive, if_pos fresh]
                exact .refused message id host port window rest queued fresh.1 fresh.2
          · simp only [Link.arrive, if_neg fresh]
            exact .repeated verdict id host port window rest queued fresh
      | openedMsg => exact .upFrame verdict _ rest queued (by simp)
      | dataMsg => exact .upFrame verdict _ rest queued (by simp)
      | closeMsg => exact .upFrame verdict _ rest queued (by simp)
      | windowUpdateMsg => exact .upFrame verdict _ rest queued (by simp)

theorem link_step (l next : Link) (act : LinkAct) (taken : l.step act = some next) : LinkStep l act next := by
  cases act with
  | ctl act =>
      simp only [Link.step, Option.map_eq_some_iff] at taken
      obtain ⟨⟨after, frame⟩, stepped, rfl⟩ := taken
      exact .ctl act after frame (channel_step l.ctl after act frame stepped)
  | srv act =>
      simp only [Link.step, Option.map_eq_some_iff] at taken
      obtain ⟨⟨after, frame⟩, stepped, rfl⟩ := taken
      exact .srv act after frame (channel_step l.srv after act frame stepped)
  | deliverUp verdict => exact link_deliver_up l next verdict taken
  | deliverUpUpdate =>
      cases queued : l.up.updates with
      | nil => simp [Link.step, queued] at taken
      | cons add rest =>
          simp only [Link.step, queued, Option.some.injEq] at taken
          exact taken ▸ .upUpdate add rest queued
  | deliverDown =>
      cases queued : l.down.frames with
      | nil => simp [Link.step, queued] at taken
      | cons frame rest =>
          simp only [Link.step, queued, Option.some.injEq] at taken
          exact taken ▸ .downFrame frame rest queued
  | deliverDownUpdate =>
      cases queued : l.down.updates with
      | nil => simp [Link.step, queued] at taken
      | cons add rest =>
          simp only [Link.step, queued, Option.some.injEq] at taken
          exact taken ▸ .downUpdate add rest queued
  | ctlUnlist => exact Option.some.inj taken ▸ .ctlUnlist
  | srvUnlist => exact Option.some.inj taken ▸ .srvUnlist
  | cutUp frames updates => exact Option.some.inj taken ▸ .cutUp frames updates
  | cutDown frames updates => exact Option.some.inj taken ▸ .cutDown frames updates

end GotechDesk.PortForward
