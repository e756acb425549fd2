import GotechDesk.PortForward.Window

set_option autoImplicit false

namespace GotechDesk.PortForward

abbrev Bytes := List UInt8
abbrev ChannelId := BitVec 32

-- PortForwardChannel's union. `window` and `add` are u32 on the wire; nothing
-- below depends on the word, since every use is capped first.
inductive Frame where
  | openMsg (id : ChannelId) (host : String) (port : Int) (window : Nat)
  | openedMsg (id : ChannelId) (success : Bool) (message : String) (window : Nat)
  | dataMsg (id : ChannelId) (data : Bytes)
  | closeMsg (id : ChannelId)
  | windowUpdateMsg (id : ChannelId) (add : Nat)
deriving DecidableEq, Repr

def Frame.channelId : Frame → ChannelId
  | .openMsg id _ _ _ => id
  | .openedMsg id _ _ _ => id
  | .dataMsg id _ => id
  | .closeMsg id => id
  | .windowUpdateMsg id _ => id

-- `window_update` alone is control; everything else rides the ordered queue.
def Frame.ordered : Frame → Bool
  | .windowUpdateMsg _ _ => false
  | _ => true

inductive Inbound where
  | data (bytes : Bytes)
  | close
  | violation
deriving DecidableEq, Repr

inductive RelayEnd where
  | localEof
  | peerClosed
  | violation
  | cancelled
  | tunnelGone
deriving DecidableEq, Repr

-- The await points of relay_socket_to_tunnel.
inductive ToTunnel where
  | taking
  | parked
  | reading (allow : Nat)
  | sending (data : Bytes)
  | ended (reason : RelayEnd)
deriving DecidableEq, Repr

-- `prebuf` is what the chained reader has not handed out yet. `head`, `read` and
-- `taken` are histories: the whole prebuf, every byte the local socket gave, and
-- every byte the half has turned into a frame.
structure SocketToTunnel where
  credit : SendCredit
  prebuf : Bytes
  point : ToTunnel
  head : Bytes
  read : Bytes
  taken : Bytes
deriving DecidableEq, Repr

def SocketToTunnel.new (credit : SendCredit) (prebuf : Bytes) : SocketToTunnel :=
  ⟨credit, prebuf, .taking, prebuf, [], []⟩

-- `read []` is end of file or an error; `send` says whether send_ordered got
-- through; `cancel` is the other arm of the two selects.
inductive ToTunnelAct where
  | take
  | notified
  | read (bytes : Bytes)
  | send (sent : Bool)
  | cancel
deriving DecidableEq, Repr

def SocketToTunnel.onRead (half : SocketToTunnel) (allow : Nat) (bytes : Bytes) : Option SocketToTunnel :=
  let got := if half.prebuf = [] then bytes else half.prebuf.take allow
  if got.length ≤ allow then
    let spent := if got = [] then 0 else charge got.length
    some
      { half with
        credit := if spent < allow then half.credit.add (allow - spent) else half.credit
        prebuf := half.prebuf.drop allow
        point := if got = [] then .ended .localEof else .sending got
        read := if half.prebuf = [] then half.read ++ bytes else half.read
        taken := half.taken ++ got }
  else none

def SocketToTunnel.step (id : ChannelId) (cancelled : Bool) (half : SocketToTunnel) :
    ToTunnelAct → Option (SocketToTunnel × Option Frame)
  | .take =>
      match half.point with
      | .taking =>
          match half.credit.take maxFrame with
          | some (credit, allow) => some ({ half with credit, point := .reading allow }, none)
          | none => some ({ half with point := .parked }, none)
      | _ => none
  | .notified =>
      match half.point with
      | .parked =>
          if half.credit.permit then
            some ({ half with credit := { half.credit with permit := false }, point := .taking }, none)
          else none
      | _ => none
  | .read bytes =>
      match half.point with
      | .reading allow => (half.onRead allow bytes).map (fun next => (next, none))
      | _ => none
  | .send sent =>
      match half.point with
      | .sending data =>
          if sent then some ({ half with point := .taking }, some (.dataMsg id data))
          else some ({ half with point := .ended .tunnelGone }, none)
      | _ => none
  | .cancel =>
      if cancelled then
        match half.point with
        | .taking => some ({ half with point := .ended .cancelled }, none)
        | .parked => some ({ half with point := .ended .cancelled }, none)
        | .reading allow => some ({ half with credit := half.credit.add allow, point := .ended .cancelled }, none)
        | _ => none
      else none

-- The await points of relay_tunnel_to_socket; `done` counts the bytes of the
-- chunk that write_all has got rid of so far.
inductive ToSocket where
  | waiting
  | writing (chunk : Bytes) (done : Nat)
  | updating (add : Nat)
  | ended (reason : RelayEnd)
deriving DecidableEq, Repr

-- `window` and `inbound` are shared with the demultiplexer. `granted`, `got` and
-- `written` are histories: the window granted so far, every byte accepted for
-- the channel, and every byte its socket took.
structure TunnelToSocket where
  window : RecvWindow
  inbound : List Inbound
  pending : List Bytes
  point : ToSocket
  granted : Nat
  got : Bytes
  written : Bytes
deriving DecidableEq, Repr

def TunnelToSocket.new (granted : Nat) : TunnelToSocket :=
  ⟨RecvWindow.new granted, [], [], .waiting, effectiveWindow granted, [], []⟩

def TunnelToSocket.grant (half : TunnelToSocket) (n : Nat) : TunnelToSocket :=
  { half with window := half.window.grant n, granted := half.granted + n }

def TunnelToSocket.hasEnded (half : TunnelToSocket) : Bool :=
  match half.point with
  | .ended _ => true
  | _ => false

-- Returning drops the receiver, and with it whatever is still queued.
def TunnelToSocket.finish (half : TunnelToSocket) (reason : RelayEnd) : TunnelToSocket :=
  { half with inbound := [], pending := [], point := .ended reason }

inductive ToSocketAct where
  | next
  | write (n : Nat)
  | writeFail
  | wrote
  | update (sent : Bool)
  | cancel
deriving DecidableEq, Repr

-- `recv` yields None only once the queue is empty and its one sender, held by
-- the map's entry, is gone.
def TunnelToSocket.next (listed : Bool) (half : TunnelToSocket) : Option TunnelToSocket :=
  match half.pending with
  | chunk :: rest => some { half with pending := rest, point := .writing chunk 0 }
  | [] =>
      match half.inbound with
      | .data chunk :: rest => some { half with inbound := rest, point := .writing chunk 0 }
      | .close :: _ => some (half.finish .peerClosed)
      | .violation :: _ => some (half.finish .violation)
      | [] => if listed then none else some (half.finish .tunnelGone)

def TunnelToSocket.wrote (half : TunnelToSocket) (chunk : Bytes) : TunnelToSocket :=
  let result := half.window.drained chunk.length
  { half with
    window := result.1
    point := match result.2 with
      | some add => .updating add
      | none => .waiting }

def TunnelToSocket.step (id : ChannelId) (listed cancelled : Bool) (half : TunnelToSocket) :
    ToSocketAct → Option (TunnelToSocket × Option Frame)
  | .next =>
      match half.point with
      | .waiting => (half.next listed).map (fun next => (next, none))
      | _ => none
  | .write n =>
      match half.point with
      | .writing chunk done =>
          if 0 < n ∧ done + n ≤ chunk.length then
            some ({ half with point := .writing chunk (done + n),
                              written := half.written ++ (chunk.drop done).take n }, none)
          else none
      | _ => none
  | .writeFail =>
      match half.point with
      | .writing _ _ => some (half.finish .localEof, none)
      | _ => none
  | .wrote =>
      match half.point with
      | .writing chunk done => if done = chunk.length then some (half.wrote chunk, none) else none
      | _ => none
  | .update sent =>
      match half.point with
      | .updating add =>
          if sent then some ({ half with point := .waiting }, some (.windowUpdateMsg id add))
          else some (half.finish .tunnelGone, none)
      | _ => none
  | .cancel =>
      if cancelled then
        match half.point with
        | .waiting => if half.pending = [] then some (half.finish .cancelled, none) else none
        | .writing _ _ => some (half.finish .cancelled, none)
        | _ => none
      else none

end GotechDesk.PortForward
