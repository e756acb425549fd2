import GotechDesk.PortForward.LinkFlow
import GotechDesk.PortForward.Teardown

set_option autoImplicit false

namespace GotechDesk.PortForward

-- What a controller's task keeps while the loop serves: it stops its halves for a
-- reason of their own, and what it leaves the map with is a close.
structure Steady (c : Channel) : Prop where
  quiet : c.cancel = true → c.phase = .joining ∨ c.phase = .closing ∨ c.phase = .removing ∨ c.phase = .done
  fresh : c.cancel = false → c.toTunnel.point ≠ .ended .cancelled ∧ c.toSocket.point ≠ .ended .cancelled
  cause : c.phase = .joining → ∃ reason, reason ≠ .cancelled ∧
    (c.toTunnel.point = .ended reason ∨ c.toSocket.point = .ended reason)
  sending : c.toTunnel.point ≠ .ended .tunnelGone ∧ c.toTunnel.point ≠ .ended .peerClosed
  hearing : c.listed = true → c.toSocket.point ≠ .ended .tunnelGone
  parting : c.phase = .removing → c.listed = true → Frame.closeMsg c.id ∈ c.out

theorem steady_controller (id : ChannelId) (host : String) (port : Int) (prebuf : Bytes) :
    Steady (Channel.controller id host port prebuf) := by
  constructor <;> simp [Channel.controller, SocketToTunnel.new, TunnelToSocket.new]

-- A half that reads has ended for no other reason than these.
theorem to_tunnel_steady (id : ChannelId) (cancelled : Bool) (half next : SocketToTunnel) (act : ToTunnelAct)
    (frame : Option Frame) (allowed : act ≠ .send false) (step : ToTunnelStep id cancelled half act next frame) :
    (∀ reason, half.point ≠ .ended reason) ∧ next.point ≠ .ended .tunnelGone ∧ next.point ≠ .ended .peerClosed ∧
      (cancelled = false → next.point ≠ .ended .cancelled) := by
  cases step with
  | read bytes allow next here taken =>
      simp only [SocketToTunnel.onRead] at taken
      obtain ⟨_, rfl⟩ := guarded_step _ _ _ taken
      refine ⟨by simp [here], ?_⟩
      by_cases empty : (if half.prebuf = [] then bytes else half.prebuf.take allow) = [] <;> simp [empty]
  | lost data here => exact absurd rfl allowed
  | cancelIdle here signal =>
      refine ⟨fun reason ended => ?_, by simp, by simp, fun off => absurd signal (by simp [off])⟩
      rcases here with here | here <;> simp [here] at ended
  | cancelRead allow here signal => exact ⟨by simp [here], by simp, by simp, fun off => absurd signal (by simp [off])⟩
  | take credit allow here taken => simp [here]
  | park here short => simp [here]
  | notified here permit => simp [here]
  | sent data here => simp [here]

theorem to_socket_steady (id : ChannelId) (listed cancelled : Bool) (half next : TunnelToSocket) (act : ToSocketAct)
    (frame : Option Frame) (allowed : act ≠ .update false) (step : ToSocketStep id listed cancelled half act next frame) :
    (∀ reason, half.point ≠ .ended reason) ∧ (listed = true → next.point ≠ .ended .tunnelGone) ∧
      (cancelled = false → next.point ≠ .ended .cancelled) := by
  cases step with
  | wrote chunk here =>
      refine ⟨by simp [here], ?_⟩
      cases update : (half.window.drained chunk.length).2 <;> simp [TunnelToSocket.wrote, update]
  | orphaned here empty queued dropped => simp [here, dropped, TunnelToSocket.finish]
  | updateLost add here => exact absurd rfl allowed
  | cancel here signal =>
      refine ⟨fun reason ended => ?_, by simp [TunnelToSocket.finish], fun off => absurd signal (by simp [off])⟩
      rcases here with ⟨here, _⟩ | ⟨chunk, done, here⟩ <;> simp [here] at ended
  | popPending chunk rest here held => simp [here]
  | receive chunk rest here empty queued => simp [here]
  | closed rest here empty queued => simp [here, TunnelToSocket.finish]
  | violated rest here empty queued => simp [here, TunnelToSocket.finish]
  | write n chunk done here positive within => simp [here]
  | writeFail chunk done here => simp [here, TunnelToSocket.finish]
  | updated add here => simp [here]

theorem local_end_closes (first second : RelayEnd) (silent : first ≠ .peerClosed ∧ second ≠ .peerClosed)
    (there : first ≠ .tunnelGone ∧ second ≠ .tunnelGone) (cause : first ≠ .cancelled ∨ second ≠ .cancelled) :
    sendsClose first second = true := by
  cases first <;> cases second <;> simp_all [sendsClose]

-- Two halves that ended for reasons of their own send a close, as long as the entry is
-- there: the peer's close would have taken it away.
theorem join_closes (c : Channel) (steady : Steady c) (stream : Stream c) (listed : c.listed = true) (first second : RelayEnd)
    (here : c.phase = .joining) (tunnelEnd : c.toTunnel.point = .ended first) (socketEnd : c.toSocket.point = .ended second) :
    sendsClose first second = true := by
  refine local_end_closes first second ⟨?_, ?_⟩ ⟨?_, ?_⟩ ?_
  · exact fun same => steady.sending.2 (same ▸ tunnelEnd)
  · exact fun same => listed_open c stream listed (.inr (same ▸ socketEnd))
  · exact fun same => steady.sending.1 (same ▸ tunnelEnd)
  · exact fun same => steady.hearing listed (same ▸ socketEnd)
  · obtain ⟨reason, real, ended⟩ := steady.cause here
    rw [tunnelEnd, socketEnd] at ended
    rcases ended with same | same
    · exact .inl fun off => real ((ToTunnel.ended.inj same).symm.trans off)
    · exact .inr fun off => real ((ToSocket.ended.inj same).symm.trans off)

theorem serving_allows (h : TunnelHandle) (serving : h.loop = .running) (calm : h.teardown = false) (act : Act)
    (allowed : h.allows act = true) :
    act ≠ .toTunnel (.send false) ∧ act ≠ .toSocket (.update false) ∧ act ≠ .sendOpen false ∧ act ≠ .sendClose false ∧
      act ≠ .cancelHalves true := by
  refine ⟨?_, ?_, ?_, ?_, ?_⟩ <;> rintro rfl <;> simp [TunnelHandle.allows, serving, calm] at allowed

theorem steady_step (h : TunnelHandle) (c next : Channel) (act : Act) (frame : Option Frame) (serving : h.loop = .running)
    (calm : h.teardown = false) (allowed : h.allows act = true) (steady : Steady c) (ending : Ending c) (stream : Stream c)
    (step : ChannelStep c act next frame) : Steady next := by
  obtain ⟨noSend, noUpdate, noOpen, noClose, noTeardown⟩ := serving_allows h serving calm act allowed
  have side := ending.side
  have sided := ending.account.sided
  cases step with
  | toTunnel act half frame relays step =>
      obtain ⟨running, gone, own, fresh⟩ := to_tunnel_steady _ _ _ _ _ _ (fun same => noSend (same ▸ rfl)) step
      refine ⟨steady.quiet, fun off => ⟨fresh off, (steady.fresh off).2⟩, ?_, ⟨gone, own⟩, steady.hearing, ?_⟩
      · intro joining
        obtain ⟨reason, real, ended | ended⟩ := steady.cause joining
        · exact absurd ended (running reason)
        · exact ⟨reason, real, .inr ended⟩
      · exact fun removing listed => List.mem_append_left _ (steady.parting removing listed)
  | toSocket act half frame relays step =>
      obtain ⟨running, gone, fresh⟩ := to_socket_steady _ _ _ _ _ _ _ (fun same => noUpdate (same ▸ rfl)) step
      refine ⟨steady.quiet, fun off => ⟨(steady.fresh off).1, fresh off⟩, ?_, steady.sending, gone, ?_⟩
      · intro joining
        obtain ⟨reason, real, ended | ended⟩ := steady.cause joining
        · exact ⟨reason, real, .inl ended⟩
        · exact absurd ended (running reason)
      · exact fun removing listed => List.mem_append_left _ (steady.parting removing listed)
  | cancelHalves teardown here cause =>
      have off : c.cancel = false := by
        cases on : c.cancel with
        | false => rfl
        | true => simpa [here] using steady.quiet on
      obtain ⟨noTunnel, noSocket⟩ := steady.fresh off
      refine ⟨fun _ => .inl rfl, (fun on => by cases on), fun _ => ?_, steady.sending, steady.hearing, by simp⟩
      rcases cause with torn | ended | ended
      · exact absurd (torn ▸ rfl) noTeardown
      · cases point : c.toTunnel.point <;> simp [ToTunnel.isEnded, point] at ended
        exact ⟨_, fun same => noTunnel (same ▸ point), .inl rfl⟩
      · cases point : c.toSocket.point <;> simp [TunnelToSocket.hasEnded, point] at ended
        exact ⟨_, fun same => noSocket (same ▸ point), .inr rfl⟩
  | join first second here tunnelEnd socketEnd =>
      have closes := fun listed => join_closes c steady stream listed first second here tunnelEnd socketEnd
      refine ⟨fun _ => ?_, steady.fresh, ?_, steady.sending, steady.hearing, ?_⟩
      · cases sends : sendsClose first second <;> simp [Channel.afterRelay, side]
      · cases sends : sendsClose first second <;> simp [Channel.afterRelay, side]
      · intro removing listed
        simp [closes listed] at removing
  | sendClose sent here =>
      obtain rfl : sent = true := by
        cases sent with
        | true => rfl
        | false => exact absurd rfl noClose
      refine ⟨fun _ => by simp [Channel.append, Channel.afterRelay, side], steady.fresh, ?_, steady.sending, steady.hearing, ?_⟩
      · simp [Channel.append, Channel.afterRelay, side]
      · exact fun _ _ => List.mem_append_right _ (by simp [sentFrame, Channel.append])
  | sendOpen sent host port here =>
      obtain rfl : sent = true := by
        cases sent with
        | true => rfl
        | false => exact absurd rfl noOpen
      refine ⟨fun on => ?_, steady.fresh, by simp [Channel.append], steady.sending, steady.hearing, by simp [Channel.append]⟩
      simpa [here] using steady.quiet on
  | spawn host port here =>
      refine ⟨fun on => ?_, steady.fresh, by simp, steady.sending, steady.hearing, by simp⟩
      simpa [here] using steady.quiet on
  | remove here => exact ⟨fun _ => by simp, steady.fresh, by simp, steady.sending, (fun listed => by cases listed), by simp⟩
  | commandData | commandOver | commandViolation | commandEnd | commandNone | connectPending | connectFail | connectOk | sendOpened
  | leave => simp_all [Phase.fits]

theorem steady_frame (c : Channel) (frame : Frame) (steady : Steady c) : Steady (c.onFrame frame) := by
  have shape := on_frame_shape c frame
  have keep := on_frame_keep c frame
  refine ⟨?_, ?_, ?_, ?_, ?_, ?_⟩
  · rw [shape.cancel, shape.phase]
    exact steady.quiet
  · rw [shape.cancel, keep.tunnelPoint, keep.socketPoint]
    exact steady.fresh
  · rw [shape.phase, keep.tunnelPoint, keep.socketPoint]
    exact steady.cause
  · rw [keep.tunnelPoint]
    exact steady.sending
  · rw [keep.socketPoint]
    exact fun listed => steady.hearing (keep.listed listed)
  · rw [shape.phase, shape.id, shape.out]
    exact fun removing listed => steady.parting removing (keep.listed listed)

end GotechDesk.PortForward
