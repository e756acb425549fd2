import GotechDesk.PortForward.Channel
import GotechDesk.PortForward.RelaySteps

set_option autoImplicit false

namespace GotechDesk.PortForward

def Channel.append (c : Channel) (frame : Option Frame) : Channel := { c with out := c.out ++ frame.toList }

-- Everything a channel's tasks can do in one step.
inductive ChannelStep (c : Channel) : Act → Channel → Option Frame → Prop where
  | toTunnel (act : ToTunnelAct) (half : SocketToTunnel) (frame : Option Frame) (relays : c.relays = true)
      (step : ToTunnelStep c.id c.cancel c.toTunnel act half frame) :
      ChannelStep c (.toTunnel act) ({ c with toTunnel := half }.append frame) frame
  | toSocket (act : ToSocketAct) (half : TunnelToSocket) (frame : Option Frame) (relays : c.relays = true)
      (step : ToSocketStep c.id c.listed c.cancel c.toSocket act half frame) :
      ChannelStep c (.toSocket act) ({ c with toSocket := half }.append frame) frame
  | cancelHalves (teardown : Bool) (here : c.phase = .relaying)
      (cause : teardown = true ∨ c.toTunnel.point.isEnded = true ∨ c.toSocket.hasEnded = true) :
      ChannelStep c (.cancelHalves teardown) { c with cancel := true, phase := .joining } none
  | join (first second : RelayEnd) (here : c.phase = .joining) (tunnelEnd : c.toTunnel.point = .ended first)
      (socketEnd : c.toSocket.point = .ended second) :
      ChannelStep c .join { c with phase := if sendsClose first second then .closing else c.afterRelay } none
  | sendClose (sent : Bool) (here : c.phase = .closing) :
      ChannelStep c (.sendClose sent) ({ c with phase := c.afterRelay }.append (sentFrame sent (.closeMsg c.id)))
        (sentFrame sent (.closeMsg c.id))
  | spawn (host : String) (port : Int) (here : c.phase = .admitted host port) :
      ChannelStep c .spawn { c with phase := .opening host port } none
  | sendOpen (sent : Bool) (host : String) (port : Int) (here : c.phase = .opening host port) :
      ChannelStep c (.sendOpen sent)
        ({ c with phase := if sent then .relaying else .removing }.append
          (sentFrame sent (.openMsg c.id host port channelWindow)))
        (sentFrame sent (.openMsg c.id host port channelWindow))
  | remove (here : c.phase = .removing) : ChannelStep c .remove { c with phase := .done, listed := false } none
  | commandData (sent : Bool) (addr : String) (isRdp : Bool) (bytes : Bytes) (rest : List Inbound)
      (here : c.phase = .connecting addr isRdp false) (queued : c.toSocket.inbound = .data bytes :: rest)
      (fits : pendingFits c.pendingLen bytes.length = true) :
      ChannelStep c (.command sent)
        { c with pendingLen := c.pendingLen + charge bytes.length,
                 toSocket := { c.toSocket with inbound := rest, pending := c.toSocket.pending ++ [bytes] } } none
  | commandOver (sent : Bool) (addr : String) (isRdp : Bool) (bytes : Bytes) (rest : List Inbound)
      (here : c.phase = .connecting addr isRdp false) (queued : c.toSocket.inbound = .data bytes :: rest)
      (beyond : pendingFits c.pendingLen bytes.length = false) :
      ChannelStep c (.command sent) ({ c with phase := .leaving }.append (sentFrame sent (.closeMsg c.id)))
        (sentFrame sent (.closeMsg c.id))
  | commandViolation (sent : Bool) (addr : String) (isRdp : Bool) (rest : List Inbound)
      (here : c.phase = .connecting addr isRdp false) (queued : c.toSocket.inbound = .violation :: rest) :
      ChannelStep c (.command sent) ({ c with phase := .leaving }.append (sentFrame sent (.closeMsg c.id)))
        (sentFrame sent (.closeMsg c.id))
  | commandEnd (sent : Bool) (addr : String) (isRdp : Bool) (here : c.phase = .connecting addr isRdp false)
      (ending : (∃ rest, c.toSocket.inbound = .close :: rest) ∨ c.toSocket.inbound = [] ∧ c.listed = false) :
      ChannelStep c (.command sent) { c with phase := .done } none
  | commandNone (sent : Bool) (addr : String) (isRdp : Bool) (here : c.phase = .connecting addr isRdp false)
      (queued : c.toSocket.inbound = []) (still : c.listed = true) :
      ChannelStep c (.command sent) { c with phase := .connecting addr isRdp true } none
  | connectPending (addr : String) (isRdp : Bool) (here : c.phase = .connecting addr isRdp true) :
      ChannelStep c .connectPending { c with phase := .connecting addr isRdp false } none
  | connectFail (sent : Bool) (addr : String) (isRdp : Bool) (here : c.phase = .connecting addr isRdp true) :
      ChannelStep c (.connectFail sent)
        ({ c with phase := .leaving }.append
          (sentFrame sent (.openedMsg c.id false (unreachableMessage addr isRdp) 0)))
        (sentFrame sent (.openedMsg c.id false (unreachableMessage addr isRdp) 0))
  | connectOk (addr : String) (isRdp : Bool) (here : c.phase = .connecting addr isRdp true) :
      ChannelStep c .connectOk
        { c with phase := .connected, toSocket := c.toSocket.grant (channelWindow - initialWindow) } none
  | sendOpened (sent : Bool) (here : c.phase = .connected) :
      ChannelStep c (.sendOpened sent)
        ({ c with phase := if sent then .relaying else .done }.append
          (sentFrame sent (.openedMsg c.id true "" channelWindow)))
        (sentFrame sent (.openedMsg c.id true "" channelWindow))
  | leave (here : c.phase = .leaving) : ChannelStep c .leave { c with phase := .done } none

theorem command_step (c next : Channel) (addr : String) (isRdp sent : Bool) (frame : Option Frame)
    (here : c.phase = .connecting addr isRdp false) (taken : c.onCommand addr isRdp sent = (next, frame)) :
    ChannelStep c (.command sent) next frame := by
  cases queued : c.toSocket.inbound with
  | nil =>
      cases listed : c.listed with
      | true =>
          simp only [Channel.onCommand, queued, listed, if_true, Prod.mk.injEq] at taken
          obtain ⟨rfl, rfl⟩ := taken
          simpa only [listed] using ChannelStep.commandNone sent addr isRdp here queued listed
      | false =>
          simp only [Channel.onCommand, queued, listed, Bool.false_eq_true, if_false, Prod.mk.injEq] at taken
          obtain ⟨rfl, rfl⟩ := taken
          simpa only [listed] using ChannelStep.commandEnd sent addr isRdp here (.inr ⟨queued, listed⟩)
  | cons command rest =>
      cases command with
      | data bytes =>
          by_cases fits : pendingFits c.pendingLen bytes.length = true
          · simp only [Channel.onCommand, queued, fits, if_true, Prod.mk.injEq] at taken
            obtain ⟨rfl, rfl⟩ := taken
            exact .commandData sent addr isRdp bytes rest here queued fits
          · simp only [Channel.onCommand, queued, fits, Bool.false_eq_true, if_false, Channel.emit, Prod.mk.injEq] at taken
            obtain ⟨rfl, rfl⟩ := taken
            exact .commandOver sent addr isRdp bytes rest here queued (by simpa using fits)
      | close =>
          simp only [Channel.onCommand, queued, Prod.mk.injEq] at taken
          obtain ⟨rfl, rfl⟩ := taken
          exact .commandEnd sent addr isRdp here (.inl ⟨rest, queued⟩)
      | violation =>
          simp only [Channel.onCommand, queued, Channel.emit, Prod.mk.injEq] at taken
          obtain ⟨rfl, rfl⟩ := taken
          exact .commandViolation sent addr isRdp rest here queued

theorem channel_step (c next : Channel) (act : Act) (frame : Option Frame) (taken : c.step act = some (next, frame)) :
    ChannelStep c act next frame := by
  cases act with
  | toTunnel act =>
      by_cases relays : c.relays = true
      · simp only [Channel.step, relays, if_true, Option.map_eq_some_iff, Prod.mk.injEq] at taken
        obtain ⟨⟨half, emitted⟩, stepped, rfl, rfl⟩ := taken
        exact .toTunnel act half emitted relays (to_tunnel_step _ _ _ _ _ _ stepped)
      · simp [Channel.step, relays] at taken
  | toSocket act =>
      by_cases relays : c.relays = true
      · simp only [Channel.step, relays, if_true, Option.map_eq_some_iff, Prod.mk.injEq] at taken
        obtain ⟨⟨half, emitted⟩, stepped, rfl, rfl⟩ := taken
        exact .toSocket act half emitted relays (to_socket_step _ _ _ _ _ _ _ stepped)
      · simp [Channel.step, relays] at taken
  | cancelHalves teardown =>
      by_cases cause : c.phase = .relaying ∧ (teardown || c.toTunnel.point.isEnded || c.toSocket.hasEnded)
      · simp only [Channel.step, Channel.stepRelay, if_pos cause, Option.some.injEq, Prod.mk.injEq] at taken
        obtain ⟨rfl, rfl⟩ := taken
        exact .cancelHalves teardown cause.1 (by simpa [or_assoc] using cause.2)
      · simp only [Channel.step, Channel.stepRelay, if_neg cause, reduceCtorEq] at taken
  | join =>
      simp only [Channel.step, Channel.stepRelay] at taken
      split at taken
      · rename_i first second here tunnelEnd socketEnd
        simp only [Option.some.injEq, Prod.mk.injEq] at taken
        obtain ⟨rfl, rfl⟩ := taken
        exact .join first second here tunnelEnd socketEnd
      · cases taken
  | sendClose sent =>
      by_cases here : c.phase = .closing
      · simp only [Channel.step, Channel.stepRelay, if_pos here, Channel.emit, Option.some.injEq, Prod.mk.injEq] at taken
        obtain ⟨rfl, rfl⟩ := taken
        exact .sendClose sent here
      · simp [Channel.step, Channel.stepRelay, if_neg here] at taken
  | spawn =>
      simp only [Channel.step, Channel.stepOpen] at taken
      split at taken
      · rename_i host port here
        simp only [Option.some.injEq, Prod.mk.injEq] at taken
        obtain ⟨rfl, rfl⟩ := taken
        exact .spawn host port here
      · cases taken
  | sendOpen sent =>
      simp only [Channel.step, Channel.stepOpen] at taken
      split at taken
      · rename_i host port here
        simp only [Channel.emit, Option.some.injEq, Prod.mk.injEq] at taken
        obtain ⟨rfl, rfl⟩ := taken
        exact .sendOpen sent host port here
      · cases taken
  | remove =>
      by_cases here : c.phase = .removing
      · simp only [Channel.step, Channel.stepOpen, if_pos here, Option.some.injEq, Prod.mk.injEq] at taken
        obtain ⟨rfl, rfl⟩ := taken
        exact .remove here
      · simp [Channel.step, Channel.stepOpen, if_neg here] at taken
  | command sent =>
      simp only [Channel.step, Channel.stepConnect] at taken
      split at taken
      · rename_i addr isRdp here
        exact command_step c next addr isRdp sent frame here (Option.some.inj taken)
      · cases taken
  | connectPending =>
      simp only [Channel.step, Channel.stepConnect] at taken
      split at taken
      · rename_i addr isRdp here
        simp only [Option.some.injEq, Prod.mk.injEq] at taken
        obtain ⟨rfl, rfl⟩ := taken
        exact .connectPending addr isRdp here
      · cases taken
  | connectFail sent =>
      simp only [Channel.step, Channel.stepConnect] at taken
      split at taken
      · rename_i addr isRdp here
        simp only [Channel.emit, Option.some.injEq, Prod.mk.injEq] at taken
        obtain ⟨rfl, rfl⟩ := taken
        exact .connectFail sent addr isRdp here
      · cases taken
  | connectOk =>
      simp only [Channel.step, Channel.stepConnect] at taken
      split at taken
      · rename_i addr isRdp here
        simp only [Option.some.injEq, Prod.mk.injEq] at taken
        obtain ⟨rfl, rfl⟩ := taken
        exact .connectOk addr isRdp here
      · cases taken
  | sendOpened sent =>
      by_cases here : c.phase = .connected
      · simp only [Channel.step, Channel.stepConnect, if_pos here, Channel.emit, Option.some.injEq, Prod.mk.injEq] at taken
        obtain ⟨rfl, rfl⟩ := taken
        exact .sendOpened sent here
      · simp [Channel.step, Channel.stepConnect, if_neg here] at taken
  | leave =>
      by_cases here : c.phase = .leaving
      · simp only [Channel.step, Channel.stepConnect, if_pos here, Option.some.injEq, Prod.mk.injEq] at taken
        obtain ⟨rfl, rfl⟩ := taken
        exact .leave here
      · simp [Channel.step, Channel.stepConnect, if_neg here] at taken

-- What no step changes, and where the frame it emits goes.
structure StepShape (c next : Channel) (frame : Option Frame) : Prop where
  id : next.id = c.id
  side : next.side = c.side
  out : next.out = c.out ++ frame.toList
  own : ∀ emitted, frame = some emitted → emitted.channelId = c.id

theorem to_tunnel_own (id : ChannelId) (cancelled : Bool) (half next : SocketToTunnel) (act : ToTunnelAct)
    (frame : Option Frame) (step : ToTunnelStep id cancelled half act next frame) (emitted : Frame)
    (some : frame = some emitted) : ∃ data, half.point = .sending data ∧ emitted = .dataMsg id data := by
  cases step with
  | sent data here => exact ⟨data, here, (Option.some.inj some).symm⟩
  | _ => cases some

theorem to_socket_own (id : ChannelId) (listed cancelled : Bool) (half next : TunnelToSocket) (act : ToSocketAct)
    (frame : Option Frame) (step : ToSocketStep id listed cancelled half act next frame) (emitted : Frame)
    (some : frame = some emitted) : ∃ add, half.point = .updating add ∧ emitted = .windowUpdateMsg id add := by
  cases step with
  | updated add here => exact ⟨add, here, (Option.some.inj some).symm⟩
  | _ => cases some

theorem sent_frame_eq (sent : Bool) (frame emitted : Frame) (some : sentFrame sent frame = some emitted) :
    emitted = frame := by
  cases sent with
  | true => exact (Option.some.inj some).symm
  | false => cases some

theorem channel_step_shape (c next : Channel) (act : Act) (frame : Option Frame) (step : ChannelStep c act next frame) :
    StepShape c next frame := by
  cases step with
  | toTunnel act half frame relays step =>
      refine ⟨rfl, rfl, rfl, fun emitted some => ?_⟩
      obtain ⟨data, _, rfl⟩ := to_tunnel_own _ _ _ _ _ _ step emitted some
      rfl
  | toSocket act half frame relays step =>
      refine ⟨rfl, rfl, rfl, fun emitted some => ?_⟩
      obtain ⟨add, _, rfl⟩ := to_socket_own _ _ _ _ _ _ _ step emitted some
      rfl
  | sendClose sent here => exact ⟨rfl, rfl, rfl, fun emitted some => sent_frame_eq _ _ _ some ▸ rfl⟩
  | sendOpen sent host port here => exact ⟨rfl, rfl, rfl, fun emitted some => sent_frame_eq _ _ _ some ▸ rfl⟩
  | commandOver sent addr isRdp bytes rest here queued beyond | commandViolation sent addr isRdp rest here queued =>
      exact ⟨rfl, rfl, rfl, fun emitted some => sent_frame_eq _ _ _ some ▸ rfl⟩
  | connectFail sent addr isRdp here => exact ⟨rfl, rfl, rfl, fun emitted some => sent_frame_eq _ _ _ some ▸ rfl⟩
  | sendOpened sent here => exact ⟨rfl, rfl, rfl, fun emitted some => sent_frame_eq _ _ _ some ▸ rfl⟩
  | _ => exact ⟨rfl, rfl, by simp, fun emitted some => nomatch some⟩

-- The demultiplexer only touches a channel's entry, its queue and its counters.
structure FrameShape (c next : Channel) : Prop where
  id : next.id = c.id
  side : next.side = c.side
  phase : next.phase = c.phase
  out : next.out = c.out
  cancel : next.cancel = c.cancel

theorem push_shape (c : Channel) (command : Inbound) : FrameShape c (c.push command) := by
  by_cases receiving : c.receiving = true <;> simp only [Channel.push, receiving, if_true, if_false, Bool.false_eq_true] <;>
    exact ⟨rfl, rfl, rfl, rfl, rfl⟩

theorem on_data_shape (c : Channel) (data : Bytes) : FrameShape c (c.onData data) := by
  have shape := push_shape { c with toSocket := { c.toSocket with window := (c.toSocket.window.accept data.length).1 } }
  simp only [Channel.onData]
  cases accepted : (c.toSocket.window.accept data.length).2 with
  | true =>
      cases receiving : c.receiving with
      | true =>
          simp only [if_true]
          exact ⟨(shape _).id, (shape _).side, (shape _).phase, (shape _).out, (shape _).cancel⟩
      | false =>
          simp only [if_true, Bool.false_eq_true, if_false]
          exact ⟨rfl, rfl, rfl, rfl, rfl⟩
  | false =>
      simp only [Bool.false_eq_true, if_false]
      exact ⟨(shape _).id, (shape _).side, (shape _).phase, (shape _).out, (shape _).cancel⟩

theorem on_frame_shape (c : Channel) (frame : Frame) : FrameShape c (c.onFrame frame) := by
  by_cases holds : c.holds frame.channelId = true
  · have closed := push_shape c .close
    simp only [Channel.onFrame, holds, if_true]
    cases frame with
    | openMsg => exact ⟨rfl, rfl, rfl, rfl, rfl⟩
    | openedMsg id success message window =>
        by_cases side : c.side = .controller
        · simp only [if_pos side, Channel.onOpened]
          cases success with
          | true =>
              cases opened : c.opened <;> simp only [if_true, Bool.false_eq_true, if_false] <;>
                exact ⟨rfl, rfl, rfl, rfl, rfl⟩
          | false => exact { closed with }
        · simp only [if_neg side]
          exact ⟨rfl, rfl, rfl, rfl, rfl⟩
    | dataMsg id data => exact on_data_shape c data
    | closeMsg id => exact { closed with }
    | windowUpdateMsg id add => exact ⟨rfl, rfl, rfl, rfl, rfl⟩
  · simp only [Channel.onFrame, holds, Bool.false_eq_true, if_false]
    exact ⟨rfl, rfl, rfl, rfl, rfl⟩

end GotechDesk.PortForward
