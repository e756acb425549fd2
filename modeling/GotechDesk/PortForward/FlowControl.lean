import GotechDesk.PortForward.LinkBalance

set_option autoImplicit false

namespace GotechDesk.PortForward

theorem balanced_start (id : ChannelId) (host : String) (port : Int) (prebuf : Bytes) :
    Balanced (Link.start id host port prebuf) := by
  have initial : min initialWindow maxSendCredit = initialWindow := by decide
  have small : effectiveWindow initialWindow = initialWindow := by decide
  have large : effectiveWindow channelWindow = channelWindow := by decide
  refine ⟨⟨0, ?_, fun _ => rfl⟩, ⟨0, ?_, fun _ => rfl⟩, ?_, ?_, fair_new _ _, fair_new _ _, calm_new _ _ rfl, calm_new _ _ rfl⟩
  · simp [Link.upTotal, Link.grantDue, Link.start, Channel.controller, Channel.absent, Channel.controlled, SocketToTunnel.new,
      SocketToTunnel.held, SendCredit.new, TunnelToSocket.new, TunnelToSocket.owed, RecvWindow.new, Wire.empty, inFlight,
      initial, small]
  · simp [Link.downTotal, absent_held, Link.start, Channel.controller, TunnelToSocket.new, TunnelToSocket.owed, RecvWindow.new,
      Wire.empty, inFlight, large]
  · simp [Link.start, Channel.absent, Channel.controlled, TunnelToSocket.new, small]
  · simp [Link.start, Channel.controller, Channel.absent, Channel.controlled]

structure LinkInv (l : Link) : Prop where
  wired : Wired l
  carried : Carried l
  balanced : Balanced l

theorem link_inv (id : ChannelId) (host : String) (port : Int) (prebuf : Bytes) (l : Link)
    (reach : Machine.Reachable Link.step (Link.start id host port prebuf) l) : LinkInv l := by
  refine Machine.reachable_invariant Link.step LinkInv _ l
    ⟨wired_start id host port prebuf, carried_start id host port prebuf, balanced_start id host port prebuf⟩ ?_ reach
  intro state act next inv taken
  have step := link_step state next act taken
  exact ⟨wired_step _ _ _ inv.wired step, carried_step _ _ _ inv.wired inv.carried step,
    balanced_step _ _ _ inv.wired inv.balanced step⟩

-- Everything a direction's window can be in: what the sender holds, what is on its
-- way, what the receiver buffers or has drained, and what is on its way back.
def Link.upSpread (l : Link) : Nat :=
  l.ctl.toTunnel.held + inFlight l.up.frames + l.srv.toSocket.buffered + l.srv.toSocket.window.drainedSinceUpdate +
    (l.srv.toSocket.owed + l.down.updates.sum) + l.grantDue

def Link.downSpread (l : Link) : Nat :=
  l.srv.toTunnel.held + inFlight l.down.frames + l.ctl.toSocket.buffered + l.ctl.toSocket.window.drainedSinceUpdate +
    (l.ctl.toSocket.owed + l.up.updates.sum)

theorem up_conserved (l : Link) (inv : LinkInv l) (live : Live l l.ctl l.srv) : l.upSpread = l.srv.toSocket.granted := by
  obtain ⟨lost, sum, none⟩ := inv.balanced.up
  have whole := inv.wired.srv.account.exact live.receiving
  have free := none live
  simp only [Link.upTotal] at sum
  simp only [TunnelToSocket.accounted] at whole
  simp only [Link.upSpread]
  omega

theorem down_conserved (l : Link) (inv : LinkInv l) (live : Live l l.srv l.ctl) : l.downSpread = l.ctl.toSocket.granted := by
  obtain ⟨lost, sum, none⟩ := inv.balanced.down
  have whole := inv.wired.ctl.account.exact live.receiving
  have free := none live
  simp only [Link.downTotal] at sum
  simp only [TunnelToSocket.accounted] at whole
  simp only [Link.downSpread]
  omega

theorem up_bounded (l : Link) (inv : LinkInv l) : l.upSpread ≤ l.srv.toSocket.granted := by
  obtain ⟨lost, sum, _⟩ := inv.balanced.up
  have bound := inv.wired.srv.account.bounded.bound
  simp only [Link.upTotal] at sum
  simp only [TunnelToSocket.accounted] at bound
  simp only [Link.upSpread]
  omega

theorem down_bounded (l : Link) (inv : LinkInv l) : l.downSpread ≤ l.ctl.toSocket.granted := by
  obtain ⟨lost, sum, _⟩ := inv.balanced.down
  have bound := inv.wired.ctl.account.bounded.bound
  simp only [Link.downTotal] at sum
  simp only [TunnelToSocket.accounted] at bound
  simp only [Link.downSpread]
  omega

-- Whatever the schedule, the sockets and the moment the connect completes: no window
-- is overrun on either side, none of the refusals is ever taken, and the credit of
-- each direction is conserved for as long as the channel is up.
theorem flow_control (id : ChannelId) (host : String) (port : Int) (prebuf : Bytes) (l : Link)
    (reach : Machine.Reachable Link.step (Link.start id host port prebuf) l) :
    (∀ channel data rest, l.up.frames = .dataMsg channel data :: rest →
        (l.srv.toSocket.window.accept data.length).2 = true) ∧
      (∀ channel data rest, l.down.frames = .dataMsg channel data :: rest →
        (l.ctl.toSocket.window.accept data.length).2 = true) ∧
      (∀ addr isRdp polled bytes rest, l.srv.phase = .connecting addr isRdp polled →
        l.srv.toSocket.inbound = .data bytes :: rest → pendingFits l.srv.pendingLen bytes.length = true) ∧
      Calm l.ctl ∧ Calm l.srv ∧
      l.upSpread ≤ l.srv.toSocket.granted ∧ (Live l l.ctl l.srv → l.upSpread = l.srv.toSocket.granted) ∧
      l.downSpread ≤ l.ctl.toSocket.granted ∧ (Live l l.srv l.ctl → l.downSpread = l.ctl.toSocket.granted) := by
  have inv := link_inv id host port prebuf l reach
  refine ⟨?_, ?_, ?_, inv.balanced.ctlCalm, inv.balanced.srvCalm, up_bounded l inv, up_conserved l inv, down_bounded l inv,
    down_conserved l inv⟩
  · intro channel data rest queued
    exact (accept_iff _ _).mpr (up_data_fits l inv.balanced channel data rest queued)
  · intro channel data rest queued
    exact (accept_iff _ _).mpr (down_data_fits l inv.balanced channel data rest queued)
  · intro addr isRdp polled bytes rest here queued
    exact connecting_fits l.srv inv.wired.srv.account addr isRdp polled bytes rest here queued

-- The head of the stream leaves before the connect completes; the rest of it is in
-- flight when `opened` is.
def earlyHead : List LinkAct :=
  [.ctl .spawn, .ctl (.sendOpen true), .deliverUp (.accept "localhost:80" false), .ctl (.toTunnel .take),
    .ctl (.toTunnel (.read [])), .ctl (.toTunnel (.send true)), .deliverUp (.accept "" false), .srv (.command true),
    .srv (.command true), .srv .connectOk, .srv (.sendOpened true), .ctl (.toTunnel .take), .ctl (.toTunnel (.read [2, 3])),
    .ctl (.toTunnel (.send true))]

theorem early_head_runs : (Machine.run Link.step (Link.start 1 "" 80 [7]) earlyHead).isSome = true := by decide

theorem flow_control_early_head :
    let l := (Machine.run Link.step (Link.start 1 "" 80 [7]) earlyHead).get early_head_runs
    l.up.frames = [.dataMsg 1 [2, 3]] ∧ l.srv.toSocket.undrained = [[7]] ∧
      (∀ channel data rest, l.up.frames = .dataMsg channel data :: rest →
        (l.srv.toSocket.window.accept data.length).2 = true) ∧
      (∀ channel data rest, l.down.frames = .dataMsg channel data :: rest →
        (l.ctl.toSocket.window.accept data.length).2 = true) ∧
      (∀ addr isRdp polled bytes rest, l.srv.phase = .connecting addr isRdp polled →
        l.srv.toSocket.inbound = .data bytes :: rest → pendingFits l.srv.pendingLen bytes.length = true) ∧
      Calm l.ctl ∧ Calm l.srv ∧
      l.upSpread ≤ l.srv.toSocket.granted ∧ (Live l l.ctl l.srv → l.upSpread = l.srv.toSocket.granted) ∧
      l.downSpread ≤ l.ctl.toSocket.granted ∧ (Live l l.srv l.ctl → l.downSpread = l.ctl.toSocket.granted) :=
  ⟨by decide, by decide, flow_control 1 "" 80 [7] _ (Machine.reachable_run _ _ _ early_head_runs)⟩

-- Nothing of a direction is on its way: no data, no window update coming back or
-- about to, and nothing accepted that the receiver has not drained.
structure Quiet (forth back : Wire) (receiver : Channel) : Prop where
  frames : ∀ channel data, Frame.dataMsg channel data ∉ forth.frames
  updates : back.updates = []
  settled : ∀ add, receiver.toSocket.point ≠ .updating add
  drained : receiver.toSocket.undrained = []

theorem in_flight_quiet (frames : List Frame) (none : ∀ channel data, Frame.dataMsg channel data ∉ frames) :
    inFlight frames = 0 := by
  induction frames with
  | nil => rfl
  | cons frame rest ih =>
      have tail := ih fun channel data member => none channel data (List.mem_cons_of_mem _ member)
      cases frame with
      | dataMsg channel data => exact absurd (List.mem_cons_self ..) (none channel data)
      | _ => simp [in_flight_cons, Frame.cost, tail]

theorem owed_quiet (half : TunnelToSocket) (settled : ∀ add, half.point ≠ .updating add) : half.owed = 0 := by
  cases here : half.point with
  | updating add => exact absurd here (settled add)
  | _ => simp [TunnelToSocket.owed, here]

-- An allowance is at most a frame, so a sender that holds more than half a window
-- has credit left whatever it is doing.
theorem credit_left (half : SocketToTunnel) (fair : Fair half) (window drained : Nat) (held : half.held + drained = window)
    (whole : window = channelWindow) (below : drained < updateThreshold) : minFrameCharge ≤ half.credit.credit := by
  have sizes : minFrameCharge + maxFrame + updateThreshold ≤ channelWindow := by decide
  cases here : half.point with
  | reading allow =>
      have most := (fair.reading allow here).2
      simp only [SocketToTunnel.held, here] at held
      omega
  | sending data =>
      have most := fair.sending data here
      simp only [SocketToTunnel.held, here] at held
      omega
  | _ =>
      simp only [SocketToTunnel.held, here] at held
      omega

theorem up_quiet (l : Link) (inv : LinkInv l) (opened : l.ctl.opened = true) (live : Live l l.ctl l.srv)
    (quiet : Quiet l.up l.down l.srv) : minFrameCharge ≤ l.ctl.toTunnel.credit.credit := by
  have sum := up_conserved l inv live
  have full := inv.balanced.widened (.inl opened)
  have empty : l.srv.toSocket.buffered = 0 := by rw [TunnelToSocket.buffered, quiet.drained, charge_sum_nil]
  simp only [Link.upSpread, in_flight_quiet _ quiet.frames, empty, owed_quiet _ quiet.settled, quiet.updates, List.sum_nil,
    Link.grantDue, opened, if_true, Nat.add_zero] at sum
  exact credit_left l.ctl.toTunnel inv.balanced.ctlFair _ _ sum full inv.wired.srv.account.bounded.below

theorem down_quiet (l : Link) (inv : LinkInv l) (live : Live l l.srv l.ctl) (quiet : Quiet l.down l.up l.ctl) :
    minFrameCharge ≤ l.srv.toTunnel.credit.credit := by
  have sum := down_conserved l inv live
  have full := controller_granted l.ctl inv.wired.ctl.account inv.wired.ctlSide
  have empty : l.ctl.toSocket.buffered = 0 := by rw [TunnelToSocket.buffered, quiet.drained, charge_sum_nil]
  simp only [Link.downSpread, in_flight_quiet _ quiet.frames, empty, owed_quiet _ quiet.settled, quiet.updates, List.sum_nil,
    Nat.add_zero] at sum
  exact credit_left l.srv.toTunnel inv.balanced.srvFair _ _ sum full inv.wired.ctl.account.bounded.below

-- While the channel is up, a direction that has come to rest has credit, and a
-- sender found parked there has the notification that wakes it.
theorem quiet_direction_has_credit (id : ChannelId) (host : String) (port : Int) (prebuf : Bytes) (l : Link)
    (reach : Machine.Reachable Link.step (Link.start id host port prebuf) l) (opened : l.ctl.opened = true) :
    (Live l l.ctl l.srv → Quiet l.up l.down l.srv → minFrameCharge ≤ l.ctl.toTunnel.credit.credit ∧
        (l.ctl.toTunnel.point = .parked → l.ctl.toTunnel.credit.permit = true)) ∧
      (Live l l.srv l.ctl → Quiet l.down l.up l.ctl → minFrameCharge ≤ l.srv.toTunnel.credit.credit ∧
        (l.srv.toTunnel.point = .parked → l.srv.toTunnel.credit.permit = true)) := by
  have inv := link_inv id host port prebuf l reach
  refine ⟨fun live quiet => ?_, fun live quiet => ?_⟩
  · have enough := up_quiet l inv opened live quiet
    exact ⟨enough, fun parked => inv.balanced.ctlFair.parked parked enough⟩
  · have enough := down_quiet l inv live quiet
    exact ⟨enough, fun parked => inv.balanced.srvFair.parked parked enough⟩

-- A channel that is up, seen from the direction that goes to the controller: what it
-- has carried so far, and the window updates on their way back.
def upIdle (credit : Nat) (window : RecvWindow) (point : ToSocket) (updates : List Nat) (carried : Bytes)
    (said acks done : List Frame) : Link :=
  { ctl := { id := 1, side := .controller, listed := true, opened := true, cancel := false, phase := .relaying, pendingLen := 0,
             toTunnel := ⟨⟨channelWindow, true⟩, [], .taking, [], [], []⟩,
             toSocket := ⟨window, [], [], point, channelWindow, carried, carried⟩, out := acks },
    srv := { id := 1, side := .controlled, listed := true, opened := false, cancel := false, phase := .relaying, pendingLen := 0,
             toTunnel := ⟨⟨credit, false⟩, [], .taking, [], carried, carried⟩,
             toSocket := ⟨⟨channelWindow, 0⟩, [], [], .waiting, channelWindow, [], []⟩, out := said },
    up := ⟨[], updates, false, [.openMsg 1 "" 80 channelWindow]⟩, down := ⟨[], [], false, done⟩, refusal := none }

-- The channel is up and both directions have come to rest.
def justOpened : Link :=
  upIdle channelWindow ⟨channelWindow, 0⟩ .waiting [] [] [.openedMsg 1 true "" channelWindow] [.openMsg 1 "" 80 channelWindow]
    [.openedMsg 1 true "" channelWindow]

def opening : List LinkAct :=
  [.ctl .spawn, .ctl (.sendOpen true), .deliverUp (.accept "localhost:80" false), .srv (.command true), .srv .connectOk,
    .srv (.sendOpened true), .deliverDown]

theorem opening_runs : Machine.run Link.step (Link.start 1 "" 80 []) opening = some justOpened := by decide +kernel

theorem just_opened_up : Live justOpened justOpened.ctl justOpened.srv ∧ Live justOpened justOpened.srv justOpened.ctl :=
  have intact : Intact justOpened := ⟨rfl, .inl rfl, rfl, rfl⟩
  ⟨⟨intact, (fun ended => nomatch ended), rfl⟩, ⟨intact, (fun ended => nomatch ended), rfl⟩⟩

theorem just_opened_quiet :
    Quiet justOpened.up justOpened.down justOpened.srv ∧ Quiet justOpened.down justOpened.up justOpened.ctl :=
  ⟨⟨(fun _ _ member => nomatch member), rfl, (fun _ updating => nomatch updating), rfl⟩,
    ⟨(fun _ _ member => nomatch member), rfl, (fun _ updating => nomatch updating), rfl⟩⟩

theorem quiet_direction_has_credit_once_open :
    minFrameCharge ≤ justOpened.ctl.toTunnel.credit.credit ∧ minFrameCharge ≤ justOpened.srv.toTunnel.credit.credit := by
  obtain ⟨up, down⟩ := quiet_direction_has_credit 1 "" 80 [] justOpened ⟨opening, opening_runs⟩ rfl
  exact ⟨(up just_opened_up.1 just_opened_quiet.1).1, (down just_opened_up.2 just_opened_quiet.2).1⟩

def transfer (data : Bytes) : List LinkAct :=
  [.srv (.toTunnel .take), .srv (.toTunnel (.read data)), .srv (.toTunnel (.send true)), .deliverDown, .ctl (.toSocket .next),
    .ctl (.toSocket (.write maxFrame)), .ctl (.toSocket .wrote)]

def sendUpdate : LinkAct := .ctl (.toSocket (.update true))

-- The close goes out by the other queue and arrives first; the two updates then find
-- no entry.
def closeOvertakes : List LinkAct :=
  [.ctl (.toTunnel .take), .ctl (.toTunnel (.read [])), .ctl (.cancelHalves false), .ctl (.toSocket .cancel), .ctl .join,
    .ctl (.sendClose true), .deliverUp (.accept "" false), .deliverUpUpdate, .deliverUpUpdate]

theorem transfer_runs (credit : Nat) (window after : RecvWindow) (update : Option Nat) (updates : List Nat) (carried : Bytes)
    (said acks done : List Frame) (data : Bytes) (full : data.length = maxFrame) (rich : maxFrame ≤ credit)
    (room : maxFrame ≤ window.remaining)
    (called : RecvWindow.drained ⟨window.remaining - maxFrame, window.drainedSinceUpdate⟩ maxFrame = (after, update)) :
    Machine.run Link.step (upIdle credit window .waiting updates carried said acks done) (transfer data) =
      some (upIdle (credit - maxFrame) after (update.elim .waiting .updating) updates (carried ++ data)
        (said ++ [Frame.dataMsg 1 data]) acks (done ++ [Frame.dataMsg 1 data])) := by
  have some : data ≠ [] := by
    intro empty
    rw [empty] at full
    exact absurd full (by decide)
  have least : minFrameCharge ≤ credit := Nat.le_trans (by decide) rich
  have cost : charge maxFrame = maxFrame := by decide
  have taken : min credit maxFrame = maxFrame := Nat.min_eq_right rich
  have pos : 0 < maxFrame := by decide
  have whole : data.take maxFrame = data := List.take_of_length_le (Nat.le_of_eq full)
  cases update <;>
    simp [Machine.run, transfer, Link.step, Channel.step, upIdle, Channel.relays, SocketToTunnel.step, SendCredit.take, least,
      taken, SocketToTunnel.onRead, full, some, cost, Wire.emit, Channel.onFrame, Channel.holds, Frame.channelId, Channel.onData,
      RecvWindow.accept, room, Channel.receiving, TunnelToSocket.hasEnded, Channel.push, inboundBytes, TunnelToSocket.step,
      TunnelToSocket.next, TunnelToSocket.wrote, pos, called, whole]

theorem update_runs (credit add : Nat) (window : RecvWindow) (updates : List Nat) (carried : Bytes) (said acks done : List Frame) :
    Link.step (upIdle credit window (.updating add) updates carried said acks done) sendUpdate =
      some (upIdle credit window .waiting (updates ++ [add]) carried said (acks ++ [Frame.windowUpdateMsg 1 add]) done) := by
  simp [sendUpdate, Link.step, Channel.step, upIdle, Channel.relays, TunnelToSocket.step, Wire.emit]

theorem close_runs (credit first second : Nat) (window : RecvWindow) (carried : Bytes) (said acks done : List Frame) :
    ∃ l, Machine.run Link.step (upIdle credit window .waiting [first, second] carried said acks done) closeOvertakes = some l ∧
      l.ctl.opened = true ∧ l.up.frames = [] ∧ l.up.updates = [] ∧ l.down.frames = [] ∧ l.down.updates = [] ∧
      l.ctl.toSocket.point = .ended .cancelled ∧ l.ctl.toSocket.undrained = [] ∧
      l.ctl.toSocket.written = l.srv.toTunnel.taken ∧ l.srv.toTunnel.credit.credit = credit := by
  have least : minFrameCharge ≤ channelWindow := by decide
  have taken : min channelWindow maxFrame = maxFrame := by decide
  have pos : 0 < maxFrame := by decide
  simp [Machine.run, closeOvertakes, Link.step, Channel.step, upIdle, Channel.relays, SocketToTunnel.step, SendCredit.take, least,
    taken, SocketToTunnel.onRead, pos, Wire.emit, Channel.onFrame, Channel.holds, Frame.channelId, TunnelToSocket.hasEnded,
    TunnelToSocket.step, TunnelToSocket.finish, TunnelToSocket.undrained, TunnelToSocket.current, Channel.stepRelay,
    ToTunnel.isEnded, sendsClose, Channel.emit, sentFrame, Link.arrive, Channel.onClose, Channel.unlist, Channel.push,
    Channel.receiving]

def block : Bytes := List.replicate maxFrame 0

def halfWindow : List LinkAct := transfer block ++ (transfer block ++ [sendUpdate])

theorem half_window_runs (credit : Nat) (updates : List Nat) (carried : Bytes) (said acks done : List Frame)
    (rich : maxFrame + maxFrame ≤ credit) :
    ∃ carried' said' acks' done',
      Machine.run Link.step (upIdle credit ⟨channelWindow, 0⟩ .waiting updates carried said acks done) halfWindow =
        some (upIdle (credit - maxFrame - maxFrame) ⟨channelWindow, 0⟩ .waiting (updates ++ [updateThreshold]) carried' said' acks'
          done') := by
  have full : block.length = maxFrame := List.length_replicate ..
  have one := transfer_runs credit ⟨channelWindow, 0⟩ ⟨channelWindow - maxFrame, maxFrame⟩ none updates carried said acks done block
    full (by omega) (by decide) (by decide)
  have two := transfer_runs (credit - maxFrame) ⟨channelWindow - maxFrame, maxFrame⟩ ⟨channelWindow, 0⟩ (some updateThreshold)
    updates (carried ++ block) (said ++ [Frame.dataMsg 1 block]) acks (done ++ [Frame.dataMsg 1 block]) block full (by omega) (by decide)
    (by decide)
  refine ⟨carried ++ block ++ block, said ++ [Frame.dataMsg 1 block] ++ [Frame.dataMsg 1 block], acks ++ [Frame.windowUpdateMsg 1 updateThreshold],
    done ++ [Frame.dataMsg 1 block] ++ [Frame.dataMsg 1 block], ?_⟩
  rw [halfWindow, Machine.run_append, one, Option.bind_some, Option.elim_none, Machine.run_append, two, Option.bind_some,
    Option.elim_some, Machine.run, update_runs, Option.bind_some, Machine.run]

def windowThenClose : List LinkAct := opening ++ (halfWindow ++ (halfWindow ++ closeOvertakes))

theorem window_then_close_quiet :
    ∃ l, Machine.run Link.step (Link.start 1 "" 80 []) windowThenClose = some l ∧ l.ctl.opened = true ∧
      l.up.frames = [] ∧ l.up.updates = [] ∧ l.down.frames = [] ∧ l.down.updates = [] ∧ l.ctl.toSocket.undrained = [] ∧
      (∀ add, l.ctl.toSocket.point ≠ .updating add) ∧
      l.ctl.toSocket.written = l.srv.toTunnel.taken ∧ ¬ minFrameCharge ≤ l.srv.toTunnel.credit.credit := by
  obtain ⟨carried, said, acks, done, first⟩ := half_window_runs channelWindow [] [] [.openedMsg 1 true "" channelWindow]
    [.openMsg 1 "" 80 channelWindow] [.openedMsg 1 true "" channelWindow] (by decide)
  obtain ⟨carried, said, acks, done, second⟩ := half_window_runs (channelWindow - maxFrame - maxFrame) [updateThreshold] carried
    said acks done (by decide)
  obtain ⟨l, ran, opened, upFrames, upUpdates, downFrames, downUpdates, point, undrained, written, credit⟩ :=
    close_runs (channelWindow - maxFrame - maxFrame - maxFrame - maxFrame) updateThreshold updateThreshold ⟨channelWindow, 0⟩
      carried said acks done
  refine ⟨l, ?_, opened, upFrames, upUpdates, downFrames, downUpdates, undrained, by simp [point], written, ?_⟩
  · rw [windowThenClose, Machine.run_append, opening_runs, Option.bind_some, justOpened, Machine.run_append, first, Option.bind_some,
      List.nil_append, Machine.run_append, second, Option.bind_some]
    exact ran
  · rw [credit]
    decide

end GotechDesk.PortForward
