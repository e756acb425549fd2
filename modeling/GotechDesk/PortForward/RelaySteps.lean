import GotechDesk.PortForward.Relay

set_option autoImplicit false

namespace GotechDesk.PortForward

-- What one step of each half can do, guards included. Every fact about the two
-- relay loops below is a case analysis on these relations.
inductive ToTunnelStep (id : ChannelId) (cancelled : Bool) (half : SocketToTunnel) :
    ToTunnelAct → SocketToTunnel → Option Frame → Prop where
  | take (credit : SendCredit) (allow : Nat) (here : half.point = .taking)
      (taken : half.credit.take maxFrame = some (credit, allow)) :
      ToTunnelStep id cancelled half .take { half with credit, point := .reading allow } none
  | park (here : half.point = .taking) (short : half.credit.take maxFrame = none) :
      ToTunnelStep id cancelled half .take { half with point := .parked } none
  | notified (here : half.point = .parked) (permit : half.credit.permit = true) :
      ToTunnelStep id cancelled half .notified
        { half with credit := { half.credit with permit := false }, point := .taking } none
  | read (bytes : Bytes) (allow : Nat) (next : SocketToTunnel) (here : half.point = .reading allow)
      (taken : half.onRead allow bytes = some next) : ToTunnelStep id cancelled half (.read bytes) next none
  | sent (data : Bytes) (here : half.point = .sending data) :
      ToTunnelStep id cancelled half (.send true) { half with point := .taking } (some (.dataMsg id data))
  | lost (data : Bytes) (here : half.point = .sending data) :
      ToTunnelStep id cancelled half (.send false) { half with point := .ended .tunnelGone } none
  | cancelIdle (here : half.point = .taking ∨ half.point = .parked) (signal : cancelled = true) :
      ToTunnelStep id cancelled half .cancel { half with point := .ended .cancelled } none
  | cancelRead (allow : Nat) (here : half.point = .reading allow) (signal : cancelled = true) :
      ToTunnelStep id cancelled half .cancel
        { half with credit := half.credit.add allow, point := .ended .cancelled } none

theorem to_tunnel_step (id : ChannelId) (cancelled : Bool) (half next : SocketToTunnel) (act : ToTunnelAct)
    (frame : Option Frame) (taken : half.step id cancelled act = some (next, frame)) :
    ToTunnelStep id cancelled half act next frame := by
  cases act with
  | take =>
      cases here : half.point with
      | taking =>
          cases credited : half.credit.take maxFrame with
          | none =>
              simp only [SocketToTunnel.step, here, credited, Option.some.injEq, Prod.mk.injEq] at taken
              obtain ⟨rfl, rfl⟩ := taken
              exact .park here credited
          | some pair =>
              simp only [SocketToTunnel.step, here, credited, Option.some.injEq, Prod.mk.injEq] at taken
              obtain ⟨rfl, rfl⟩ := taken
              exact .take pair.1 pair.2 here credited
      | _ => simp [SocketToTunnel.step, here] at taken
  | notified =>
      cases here : half.point with
      | parked =>
          by_cases permit : half.credit.permit = true
          · simp only [SocketToTunnel.step, here, permit, if_true, Option.some.injEq, Prod.mk.injEq] at taken
            obtain ⟨rfl, rfl⟩ := taken
            exact .notified here permit
          · simp [SocketToTunnel.step, here, permit] at taken
      | _ => simp [SocketToTunnel.step, here] at taken
  | read bytes =>
      cases here : half.point with
      | reading allow =>
          simp only [SocketToTunnel.step, here, Option.map_eq_some_iff, Prod.mk.injEq] at taken
          obtain ⟨result, read, rfl, rfl⟩ := taken
          exact .read bytes allow result here read
      | _ => simp [SocketToTunnel.step, here] at taken
  | send sent =>
      cases here : half.point with
      | sending data =>
          cases sent with
          | true =>
              simp only [SocketToTunnel.step, here, if_true, Option.some.injEq, Prod.mk.injEq] at taken
              obtain ⟨rfl, rfl⟩ := taken
              exact .sent data here
          | false =>
              simp only [SocketToTunnel.step, here, Bool.false_eq_true, if_false, Option.some.injEq,
                Prod.mk.injEq] at taken
              obtain ⟨rfl, rfl⟩ := taken
              exact .lost data here
      | _ => simp [SocketToTunnel.step, here] at taken
  | cancel =>
      by_cases signal : cancelled = true
      · cases here : half.point with
        | taking =>
            simp only [SocketToTunnel.step, here, signal, if_true, Option.some.injEq, Prod.mk.injEq] at taken
            obtain ⟨rfl, rfl⟩ := taken
            exact .cancelIdle (.inl here) signal
        | parked =>
            simp only [SocketToTunnel.step, here, signal, if_true, Option.some.injEq, Prod.mk.injEq] at taken
            obtain ⟨rfl, rfl⟩ := taken
            exact .cancelIdle (.inr here) signal
        | reading allow =>
            simp only [SocketToTunnel.step, here, signal, if_true, Option.some.injEq, Prod.mk.injEq] at taken
            obtain ⟨rfl, rfl⟩ := taken
            exact .cancelRead allow here signal
        | _ => simp [SocketToTunnel.step, here, signal] at taken
      · simp [SocketToTunnel.step, signal] at taken

inductive ToSocketStep (id : ChannelId) (listed cancelled : Bool) (half : TunnelToSocket) :
    ToSocketAct → TunnelToSocket → Option Frame → Prop where
  | popPending (chunk : Bytes) (rest : List Bytes) (here : half.point = .waiting) (held : half.pending = chunk :: rest) :
      ToSocketStep id listed cancelled half .next { half with pending := rest, point := .writing chunk 0 } none
  | receive (chunk : Bytes) (rest : List Inbound) (here : half.point = .waiting) (empty : half.pending = [])
      (queued : half.inbound = .data chunk :: rest) :
      ToSocketStep id listed cancelled half .next { half with inbound := rest, point := .writing chunk 0 } none
  | closed (rest : List Inbound) (here : half.point = .waiting) (empty : half.pending = [])
      (queued : half.inbound = .close :: rest) :
      ToSocketStep id listed cancelled half .next (half.finish .peerClosed) none
  | violated (rest : List Inbound) (here : half.point = .waiting) (empty : half.pending = [])
      (queued : half.inbound = .violation :: rest) :
      ToSocketStep id listed cancelled half .next (half.finish .violation) none
  | orphaned (here : half.point = .waiting) (empty : half.pending = []) (queued : half.inbound = [])
      (dropped : listed = false) :
      ToSocketStep id listed cancelled half .next (half.finish .tunnelGone) none
  | write (n : Nat) (chunk : Bytes) (done : Nat) (here : half.point = .writing chunk done) (positive : 0 < n)
      (within : done + n ≤ chunk.length) :
      ToSocketStep id listed cancelled half (.write n)
        { half with point := .writing chunk (done + n), written := half.written ++ (chunk.drop done).take n } none
  | writeFail (chunk : Bytes) (done : Nat) (here : half.point = .writing chunk done) :
      ToSocketStep id listed cancelled half .writeFail (half.finish .localEof) none
  | wrote (chunk : Bytes) (here : half.point = .writing chunk chunk.length) :
      ToSocketStep id listed cancelled half .wrote (half.wrote chunk) none
  | updated (add : Nat) (here : half.point = .updating add) :
      ToSocketStep id listed cancelled half (.update true) { half with point := .waiting }
        (some (.windowUpdateMsg id add))
  | updateLost (add : Nat) (here : half.point = .updating add) :
      ToSocketStep id listed cancelled half (.update false) (half.finish .tunnelGone) none
  | cancel (here : half.point = .waiting ∧ half.pending = [] ∨ ∃ chunk done, half.point = .writing chunk done)
      (signal : cancelled = true) : ToSocketStep id listed cancelled half .cancel (half.finish .cancelled) none

section
variable (id : ChannelId) (listed cancelled : Bool) (half next : TunnelToSocket)

theorem to_socket_next (here : half.point = .waiting) (taken : half.next listed = some next) :
    ToSocketStep id listed cancelled half .next next none := by
  cases held : half.pending with
  | cons chunk rest =>
      simp only [TunnelToSocket.next, held, Option.some.injEq] at taken
      subst taken
      exact .popPending chunk rest here held
  | nil =>
      cases queued : half.inbound with
      | nil =>
          cases listed with
          | true => simp [TunnelToSocket.next, held, queued] at taken
          | false =>
              simp only [TunnelToSocket.next, held, queued, Bool.false_eq_true, if_false, Option.some.injEq] at taken
              subst taken
              exact .orphaned here held queued rfl
      | cons command rest =>
          cases command with
          | data chunk =>
              simp only [TunnelToSocket.next, held, queued, Option.some.injEq] at taken
              subst taken
              have step : ToSocketStep id listed cancelled half .next
                  { half with inbound := rest, point := .writing chunk 0 } none := .receive chunk rest here held queued
              simpa only [held] using step
          | close =>
              simp only [TunnelToSocket.next, held, queued, Option.some.injEq] at taken
              subst taken
              exact .closed rest here held queued
          | violation =>
              simp only [TunnelToSocket.next, held, queued, Option.some.injEq] at taken
              subst taken
              exact .violated rest here held queued

theorem to_socket_step (act : ToSocketAct) (frame : Option Frame) (taken : half.step id listed cancelled act = some (next, frame)) :
    ToSocketStep id listed cancelled half act next frame := by
  cases act with
  | next =>
      cases here : half.point with
      | waiting =>
          simp only [TunnelToSocket.step, here, Option.map_eq_some_iff, Prod.mk.injEq] at taken
          obtain ⟨result, popped, rfl, rfl⟩ := taken
          exact to_socket_next id listed cancelled half result here popped
      | _ => simp [TunnelToSocket.step, here] at taken
  | write n =>
      cases here : half.point with
      | writing chunk done =>
          by_cases within : 0 < n ∧ done + n ≤ chunk.length
          · simp only [TunnelToSocket.step, here, if_pos within, Option.some.injEq, Prod.mk.injEq] at taken
            obtain ⟨rfl, rfl⟩ := taken
            exact .write n chunk done here within.1 within.2
          · simp [TunnelToSocket.step, here, if_neg within] at taken
      | _ => simp [TunnelToSocket.step, here] at taken
  | writeFail =>
      cases here : half.point with
      | writing chunk done =>
          simp only [TunnelToSocket.step, here, Option.some.injEq, Prod.mk.injEq] at taken
          obtain ⟨rfl, rfl⟩ := taken
          exact .writeFail chunk done here
      | _ => simp [TunnelToSocket.step, here] at taken
  | wrote =>
      cases here : half.point with
      | writing chunk done =>
          by_cases all : done = chunk.length
          · simp only [TunnelToSocket.step, here, if_pos all, Option.some.injEq, Prod.mk.injEq] at taken
            obtain ⟨rfl, rfl⟩ := taken
            exact .wrote chunk (all ▸ here)
          · simp [TunnelToSocket.step, here, if_neg all] at taken
      | _ => simp [TunnelToSocket.step, here] at taken
  | update sent =>
      cases here : half.point with
      | updating add =>
          cases sent with
          | true =>
              simp only [TunnelToSocket.step, here, if_true, Option.some.injEq, Prod.mk.injEq] at taken
              obtain ⟨rfl, rfl⟩ := taken
              exact .updated add here
          | false =>
              simp only [TunnelToSocket.step, here, Bool.false_eq_true, if_false, Option.some.injEq,
                Prod.mk.injEq] at taken
              obtain ⟨rfl, rfl⟩ := taken
              exact .updateLost add here
      | _ => simp [TunnelToSocket.step, here] at taken
  | cancel =>
      by_cases signal : cancelled = true
      · cases here : half.point with
        | waiting =>
            by_cases empty : half.pending = []
            · simp only [TunnelToSocket.step, here, signal, empty, if_true, Option.some.injEq, Prod.mk.injEq] at taken
              obtain ⟨rfl, rfl⟩ := taken
              exact .cancel (.inl ⟨here, empty⟩) signal
            · simp [TunnelToSocket.step, here, signal, empty] at taken
        | writing chunk done =>
            simp only [TunnelToSocket.step, here, signal, if_true, Option.some.injEq, Prod.mk.injEq] at taken
            obtain ⟨rfl, rfl⟩ := taken
            exact .cancel (.inr ⟨chunk, done, here⟩) signal
        | _ => simp [TunnelToSocket.step, here, signal] at taken
      · simp [TunnelToSocket.step, signal] at taken

end

end GotechDesk.PortForward
