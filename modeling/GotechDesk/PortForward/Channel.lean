import GotechDesk.PortForward.Relay

set_option autoImplicit false

namespace GotechDesk.PortForward

def usizeMax : Nat := 18446744073709551615

def pendingFits (charged addLen : Nat) : Bool :=
  decide (min (charged + charge addLen) usizeMax ≤ initialWindow)

def unreachableMessage (addr : String) (isRdp : Bool) : String :=
  "Failed to access remote " ++ (if isRdp then "RDP" else addr) ++ ". Please make sure it is reachable/open."

inductive Side where
  | controller
  | controlled
deriving DecidableEq, Repr

-- Where a channel's own task stands. `admitted` and `opening` are the controller's
-- (TunnelHandle::open and the task it spawns), `connecting`, `connected` and
-- `leaving` the controlled side's (run_controlled_channel), the rest run_channel's
-- coordinator and the end. `unborn` is no channel yet. `polled` records that the
-- biased select has found the command arm pending and is at its connect arm.
inductive Phase where
  | unborn
  | admitted (host : String) (port : Int)
  | opening (host : String) (port : Int)
  | connecting (addr : String) (isRdp : Bool) (polled : Bool)
  | connected
  | leaving
  | relaying
  | joining
  | closing
  | removing
  | done
deriving DecidableEq, Repr

-- `listed` is whether the demultiplexer's map still holds this channel's entry,
-- which owns the only sender of the inbound queue. `out` is the history of the
-- frames the task has handed to its sink.
structure Channel where
  id : ChannelId
  side : Side
  listed : Bool
  opened : Bool
  cancel : Bool
  phase : Phase
  pendingLen : Nat
  toTunnel : SocketToTunnel
  toSocket : TunnelToSocket
  out : List Frame
deriving DecidableEq, Repr

def Channel.controller (id : ChannelId) (host : String) (port : Int) (prebuf : Bytes) : Channel :=
  { id, side := .controller, listed := true, opened := false, cancel := false, phase := .admitted host port,
    pendingLen := 0, toTunnel := .new (SendCredit.new initialWindow) prebuf, toSocket := .new channelWindow, out := [] }

def Channel.controlled (id : ChannelId) (addr : String) (isRdp : Bool) (window : Nat) : Channel :=
  { id, side := .controlled, listed := true, opened := false, cancel := false, phase := .connecting addr isRdp false,
    pendingLen := 0, toTunnel := .new (SendCredit.new (effectiveWindow window)) [], toSocket := .new initialWindow,
    out := [] }

def Channel.relays (c : Channel) : Bool := c.phase == .relaying || c.phase == .joining

-- The receiver of the inbound queue lives in the task, then in the socket half.
def Channel.receiving (c : Channel) : Bool := c.phase != .done && !c.toSocket.hasEnded

def sentFrame (sent : Bool) (frame : Frame) : Option Frame := if sent then some frame else none

-- send_ordered: a frame the sink refuses leaves no trace.
def Channel.emit (c : Channel) (sent : Bool) (frame : Frame) : Channel × Option Frame :=
  ({ c with out := c.out ++ (sentFrame sent frame).toList }, sentFrame sent frame)

-- run_channel's decision to send `close`; its arms only differ in which half they
-- call first, and the test treats both alike.
def sendsClose (first second : RelayEnd) : Bool :=
  let peerClosed := first == .peerClosed || second == .peerClosed
  let tunnelGone := first == .tunnelGone || second == .tunnelGone
  let localReason := (first == .localEof || first == .violation) || (second == .localEof || second == .violation)
  !peerClosed && !tunnelGone && localReason

-- What run_channel's caller does next: the controller's task goes on to remove
-- its entry, the controlled side's is over.
def Channel.afterRelay (c : Channel) : Phase :=
  match c.side with
  | .controller => .removing
  | .controlled => .done

inductive Act where
  | toTunnel (act : ToTunnelAct)
  | toSocket (act : ToSocketAct)
  | cancelHalves (teardown : Bool)
  | join
  | sendClose (sent : Bool)
  | spawn
  | sendOpen (sent : Bool)
  | remove
  | command (sent : Bool)
  | connectPending
  | connectFail (sent : Bool)
  | connectOk
  | sendOpened (sent : Bool)
  | leave
deriving DecidableEq, Repr

def ToTunnel.isEnded : ToTunnel → Bool
  | .ended _ => true
  | _ => false

-- The coordinator of run_channel: `cancelHalves true` is its teardown arm.
def Channel.stepRelay (c : Channel) : Act → Option (Channel × Option Frame)
  | .cancelHalves teardown =>
      if c.phase = .relaying ∧ (teardown || c.toTunnel.point.isEnded || c.toSocket.hasEnded) then
        some ({ c with cancel := true, phase := .joining }, none)
      else none
  | .join =>
      match c.phase, c.toTunnel.point, c.toSocket.point with
      | .joining, .ended first, .ended second =>
          some ({ c with phase := if sendsClose first second then .closing else c.afterRelay }, none)
      | _, _, _ => none
  | .sendClose sent =>
      if c.phase = .closing then some ({ c with phase := c.afterRelay }.emit sent (.closeMsg c.id)) else none
  | _ => none

-- TunnelHandle::open after the entry is in the map, and the task it spawns.
def Channel.stepOpen (c : Channel) : Act → Option (Channel × Option Frame)
  | .spawn =>
      match c.phase with
      | .admitted host port => some ({ c with phase := .opening host port }, none)
      | _ => none
  | .sendOpen sent =>
      match c.phase with
      | .opening host port =>
          some ({ c with phase := if sent then .relaying else .removing }.emit sent
            (.openMsg c.id host port channelWindow))
      | _ => none
  | .remove => if c.phase = .removing then some ({ c with phase := .done, listed := false }, none) else none
  | _ => none

-- The command arm of run_controlled_channel's select.
def Channel.onCommand (c : Channel) (addr : String) (isRdp : Bool) (sent : Bool) : Channel × Option Frame :=
  match c.toSocket.inbound with
  | .data bytes :: rest =>
      if pendingFits c.pendingLen bytes.length then
        ({ c with pendingLen := c.pendingLen + charge bytes.length,
                  toSocket := { c.toSocket with inbound := rest, pending := c.toSocket.pending ++ [bytes] } }, none)
      else { c with phase := .leaving }.emit sent (.closeMsg c.id)
  | .close :: _ => ({ c with phase := .done }, none)
  | .violation :: _ => { c with phase := .leaving }.emit sent (.closeMsg c.id)
  | [] => if c.listed then ({ c with phase := .connecting addr isRdp true }, none) else ({ c with phase := .done }, none)

def Channel.stepConnect (c : Channel) : Act → Option (Channel × Option Frame)
  | .command sent =>
      match c.phase with
      | .connecting addr isRdp false => some (c.onCommand addr isRdp sent)
      | _ => none
  | .connectPending =>
      match c.phase with
      | .connecting addr isRdp true => some ({ c with phase := .connecting addr isRdp false }, none)
      | _ => none
  | .connectFail sent =>
      match c.phase with
      | .connecting addr isRdp true =>
          some ({ c with phase := .leaving }.emit sent (.openedMsg c.id false (unreachableMessage addr isRdp) 0))
      | _ => none
  | .connectOk =>
      match c.phase with
      | .connecting _ _ true =>
          some ({ c with phase := .connected, toSocket := c.toSocket.grant (channelWindow - initialWindow) }, none)
      | _ => none
  | .sendOpened sent =>
      if c.phase = .connected then
        some ({ c with phase := if sent then .relaying else .done }.emit sent (.openedMsg c.id true "" channelWindow))
      else none
  | .leave => if c.phase = .leaving then some ({ c with phase := .done }, none) else none
  | _ => none

def Channel.step (c : Channel) (act : Act) : Option (Channel × Option Frame) :=
  match act with
  | .toTunnel half =>
      if c.relays then
        (c.toTunnel.step c.id c.cancel half).map
          (fun result => ({ c with toTunnel := result.1, out := c.out ++ result.2.toList }, result.2))
      else none
  | .toSocket half =>
      if c.relays then
        (c.toSocket.step c.id c.listed c.cancel half).map
          (fun result => ({ c with toSocket := result.1, out := c.out ++ result.2.toList }, result.2))
      else none
  | .cancelHalves _ | .join | .sendClose _ => c.stepRelay act
  | .spawn | .sendOpen _ | .remove => c.stepOpen act
  | _ => c.stepConnect act

-- The map's entry for `id` is this channel's. Both inserts are guarded by
-- contains_key, so at most one channel of a map holds an id.
def Channel.holds (c : Channel) (id : ChannelId) : Bool := c.listed && c.id == id

def inboundBytes : Inbound → Bytes
  | .data bytes => bytes
  | _ => []

-- The entry's sender: a send to a receiver that is gone is lost.
def Channel.push (c : Channel) (command : Inbound) : Channel :=
  if c.receiving then
    { c with toSocket := { c.toSocket with inbound := c.toSocket.inbound ++ [command],
                                           got := c.toSocket.got ++ inboundBytes command } }
  else c

def Channel.unlist (c : Channel) : Channel := { c with listed := false }

-- The entry goes from the map first in the source; the send does not depend on it.
def Channel.onClose (c : Channel) : Channel := (c.push .close).unlist

def Channel.onOpened (c : Channel) (success : Bool) (window : Nat) : Channel :=
  if success then
    if c.opened then c
    else { c with opened := true, toTunnel := { c.toTunnel with credit := c.toTunnel.credit.raiseInitial window } }
  else c.onClose

def Channel.onData (c : Channel) (data : Bytes) : Channel :=
  let result := c.toSocket.window.accept data.length
  let charged := { c with toSocket := { c.toSocket with window := result.1 } }
  if result.2 then
    if c.receiving then charged.push (.data data) else charged.unlist
  else (charged.push .violation).unlist

def Channel.onWindowUpdate (c : Channel) (add : Nat) : Channel :=
  { c with toTunnel := { c.toTunnel with credit := c.toTunnel.credit.add add } }

-- One channel's share of TunnelHandle::on_frame and of PortForwardMux::handle: the
-- controller ignores `open`, and the controlled side `opened`.
def Channel.onFrame (c : Channel) (frame : Frame) : Channel :=
  if c.holds frame.channelId then
    match frame with
    | .openMsg _ _ _ _ => c
    | .openedMsg _ success _ window => if c.side = .controller then c.onOpened success window else c
    | .dataMsg _ data => c.onData data
    | .closeMsg _ => c.onClose
    | .windowUpdateMsg _ add => c.onWindowUpdate add
  else c

end GotechDesk.PortForward
