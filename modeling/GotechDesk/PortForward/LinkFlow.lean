import GotechDesk.PortForward.LinkStream

set_option autoImplicit false

namespace GotechDesk.PortForward

-- The credit a sender still has or has taken and not yet put in a frame.
def SocketToTunnel.held (half : SocketToTunnel) : Nat :=
  half.credit.credit +
    match half.point with
    | .reading allow => allow
    | .sending data => charge data.length
    | _ => 0

-- A window update the receiver has accounted for and not yet sent.
def TunnelToSocket.owed (half : TunnelToSocket) : Nat :=
  match half.point with
  | .updating add => add
  | _ => 0

def Frame.cost : Frame → Nat
  | .dataMsg _ data => charge data.length
  | _ => 0

def inFlight (frames : List Frame) : Nat := (frames.map Frame.cost).sum

def updatesIn (frames : List Frame) : Nat := (frames.filterMap updateOf).sum

theorem in_flight_append (a b : List Frame) : inFlight (a ++ b) = inFlight a + inFlight b := by simp [inFlight]

theorem in_flight_ordered (frames : List Frame) : inFlight (frames.filter Frame.ordered) = inFlight frames := by
  induction frames with
  | nil => rfl
  | cons frame rest ih =>
      cases frame <;> simp_all [inFlight, List.filter_cons, Frame.ordered, Frame.cost]

theorem in_flight_take (frames : List Frame) (n : Nat) : inFlight (frames.take n) ≤ inFlight frames := by
  have split := congrArg inFlight (List.take_append_drop n frames)
  rw [in_flight_append] at split
  omega

theorem sum_take (updates : List Nat) (n : Nat) : (updates.take n).sum ≤ updates.sum := by
  have split := congrArg List.sum (List.take_append_drop n updates)
  rw [List.sum_append] at split
  omega

-- `gone` is what the wire swallowed because it was already cut.
theorem emit_flow (w : Wire) (frame : Option Frame) :
    ∃ gone lost, inFlight (w.emit frame).frames + gone = inFlight w.frames + inFlight frame.toList ∧
      (w.emit frame).updates.sum + lost = w.updates.sum + updatesIn frame.toList ∧
      (w.cut = false → gone = 0 ∧ lost = 0) := by
  cases cut : w.cut with
  | true =>
      rw [emit_cut w frame cut]
      exact ⟨inFlight frame.toList, updatesIn frame.toList, rfl, rfl, fun up => nomatch up⟩
  | false =>
      rw [emit_open w frame cut]
      exact ⟨0, 0, by simp [in_flight_append, in_flight_ordered], by simp [updatesIn], fun _ => ⟨rfl, rfl⟩⟩

theorem add_held (half : SocketToTunnel) (n : Nat) (room : half.held + n ≤ maxSendCredit) :
    (SocketToTunnel.held { half with credit := half.credit.add n }) = half.held + n := by
  have exact : half.credit.add n = ⟨half.credit.credit + n, true⟩ :=
    add_exact half.credit n (by simp only [SocketToTunnel.held] at room; omega)
  simp only [SocketToTunnel.held, exact]
  omega

theorem on_read_held (half next : SocketToTunnel) (allow : Nat) (bytes : Bytes) (room : half.held ≤ maxSendCredit)
    (here : half.point = .reading allow) (least : minFrameCharge ≤ allow) (taken : half.onRead allow bytes = some next) :
    next.held = half.held := by
  obtain ⟨got, chosen⟩ : ∃ got, (if half.prebuf = [] then bytes else half.prebuf.take allow) = got := ⟨_, rfl⟩
  simp only [SocketToTunnel.onRead, chosen] at taken
  obtain ⟨short, rfl⟩ := guarded_step _ _ _ taken
  have total : half.held = half.credit.credit + allow := by simp [SocketToTunnel.held, here]
  have refund : ∀ spent, spent ≤ allow →
      (if spent < allow then half.credit.add (allow - spent) else half.credit).credit + spent = half.credit.credit + allow := by
    intro spent fits
    by_cases less : spent < allow
    · rw [if_pos less, add_exact half.credit _ (by omega)]
      simp only []
      omega
    · rw [if_neg less]
      omega
  rw [total]
  by_cases eof : got = []
  · have all := refund 0 (Nat.zero_le _)
    simpa [SocketToTunnel.held, eof] using all
  · have all := refund (charge got.length) (charge_le_allowance _ _ short least)
    simpa only [SocketToTunnel.held, eof, if_false] using all

-- One step of the sender: what it held is still held, in the frame it sent, or gone
-- with a frame its sink refused.
theorem held_step (id : ChannelId) (cancelled : Bool) (half next : SocketToTunnel) (act : ToTunnelAct) (frame : Option Frame)
    (room : half.held ≤ maxSendCredit) (fair : ∀ allow, half.point = .reading allow → minFrameCharge ≤ allow)
    (step : ToTunnelStep id cancelled half act next frame) :
    ∃ gone, next.held + inFlight frame.toList + gone = half.held ∧ (next.point ≠ .ended .tunnelGone → gone = 0) := by
  cases step with
  | take credit allow here taken =>
      obtain ⟨sum, _, _, _⟩ := take_spec half.credit credit maxFrame allow (by decide) taken
      refine ⟨0, ?_, fun _ => rfl⟩
      simp only [SocketToTunnel.held, here, inFlight, Option.toList_none, List.map_nil, List.sum_nil]
      omega
  | park here short => exact ⟨0, by simp [SocketToTunnel.held, here, inFlight], fun _ => rfl⟩
  | notified here permit => exact ⟨0, by simp [SocketToTunnel.held, here, inFlight], fun _ => rfl⟩
  | read bytes allow next here taken =>
      have same := on_read_held half next allow bytes room here (fair allow here) taken
      exact ⟨0, by simp [same, inFlight], fun _ => rfl⟩
  | sent data here => exact ⟨0, by simp [SocketToTunnel.held, here, inFlight, Frame.cost], fun _ => rfl⟩
  | lost data here =>
      refine ⟨charge data.length, by simp [SocketToTunnel.held, here, inFlight], fun running => ?_⟩
      exact absurd rfl running
  | cancelIdle here signal => rcases here with here | here <;> exact ⟨0, by simp [SocketToTunnel.held, here, inFlight], fun _ => rfl⟩
  | cancelRead allow here signal =>
      have total : half.held = half.credit.credit + allow := by simp [SocketToTunnel.held, here]
      have exact := add_exact half.credit allow (by omega)
      refine ⟨0, ?_, fun _ => rfl⟩
      simp [SocketToTunnel.held, exact, here, inFlight]

-- One step of the receiver: the window moves by exactly the update it owes the peer
-- from then on; `gone` is an update it never got out.
theorem owed_step (id : ChannelId) (listed cancelled : Bool) (half next : TunnelToSocket) (act : ToSocketAct)
    (frame : Option Frame) (bounded : Bounded half) (step : ToSocketStep id listed cancelled half act next frame) :
    ∃ gone, next.owed + updatesIn frame.toList + half.window.remaining + gone = next.window.remaining + half.owed ∧
      (next.hasEnded = false → gone = 0) := by
  have finished : ∀ reason, ∃ gone, (half.finish reason).owed + updatesIn (none : Option Frame).toList +
      half.window.remaining + gone = (half.finish reason).window.remaining + half.owed ∧
      ((half.finish reason).hasEnded = false → gone = 0) := by
    intro reason
    refine ⟨half.owed, ?_, fun running => nomatch running⟩
    simp [TunnelToSocket.finish, TunnelToSocket.owed, updatesIn]
  cases step with
  | popPending chunk rest here held => exact ⟨0, by simp [TunnelToSocket.owed, here, updatesIn], fun _ => rfl⟩
  | receive chunk rest here empty queued => exact ⟨0, by simp [TunnelToSocket.owed, here, updatesIn], fun _ => rfl⟩
  | write n chunk done here positive within => exact ⟨0, by simp [TunnelToSocket.owed, here, updatesIn], fun _ => rfl⟩
  | wrote chunk here =>
      have split := writing_accounted half chunk _ here
      have bound := bounded.bound
      obtain ⟨_, _, moved⟩ := drained_spec half.window _ chunk.length _ half.granted (by omega) bounded.capped
        (Prod.eta (half.window.drained chunk.length)).symm
      refine ⟨0, ?_, fun _ => rfl⟩
      simp only [TunnelToSocket.wrote, TunnelToSocket.owed, here, updatesIn, Option.toList_none, List.filterMap_nil,
        List.sum_nil, moved]
      cases (half.window.drained chunk.length).2 <;> simp [Nat.add_comm]
  | updated add here =>
      refine ⟨0, ?_, fun _ => rfl⟩
      simp [TunnelToSocket.owed, here, updatesIn, updateOf, Nat.add_comm]
  | closed | violated | orphaned | writeFail | updateLost | cancel => exact finished _

-- What an allowance may be, and that a sender which could go on has been notified.
structure Fair (half : SocketToTunnel) : Prop where
  reading : ∀ allow, half.point = .reading allow → minFrameCharge ≤ allow ∧ allow ≤ maxFrame
  sending : ∀ data, half.point = .sending data → charge data.length ≤ maxFrame
  parked : half.point = .parked → minFrameCharge ≤ half.credit.credit → half.credit.permit = true

theorem fair_credit (half : SocketToTunnel) (credit : SendCredit) (fair : Fair half)
    (notified : credit = half.credit ∨ credit.permit = true) : Fair { half with credit } := by
  refine ⟨fair.reading, fair.sending, fun parked enough => ?_⟩
  rcases notified with rfl | permit
  · exact fair.parked parked enough
  · exact permit

theorem fair_step (id : ChannelId) (cancelled : Bool) (half next : SocketToTunnel) (act : ToTunnelAct) (frame : Option Frame)
    (fair : Fair half) (step : ToTunnelStep id cancelled half act next frame) : Fair next := by
  cases step with
  | take credit allow here taken =>
      obtain ⟨_, _, least, most⟩ := take_spec half.credit credit maxFrame allow (by decide) taken
      refine ⟨fun other same => ?_, (fun _ impossible => by cases impossible), fun impossible => by cases impossible⟩
      cases same
      exact ⟨least, most⟩
  | park here short =>
      refine ⟨(fun _ impossible => by cases impossible), (fun _ impossible => by cases impossible), fun _ enough => ?_⟩
      simp [SendCredit.take, show minFrameCharge ≤ half.credit.credit from enough] at short
  | read bytes allow next here taken =>
      obtain ⟨least, most⟩ := fair.reading allow here
      obtain ⟨got, chosen⟩ : ∃ got, (if half.prebuf = [] then bytes else half.prebuf.take allow) = got := ⟨_, rfl⟩
      simp only [SocketToTunnel.onRead, chosen] at taken
      obtain ⟨short, rfl⟩ := guarded_step _ _ _ taken
      by_cases eof : got = []
      · exact ⟨fun _ impossible => by simp [eof] at impossible, fun _ impossible => by simp [eof] at impossible,
          fun impossible => by simp [eof] at impossible⟩
      · refine ⟨fun _ impossible => by simp [eof] at impossible, fun data same => ?_, fun impossible => by simp [eof] at impossible⟩
        obtain rfl : got = data := by simpa [eof] using same
        exact Nat.le_trans (charge_le_allowance _ _ short least) most
  | notified | sent | lost | cancelIdle | cancelRead =>
      exact ⟨(fun _ impossible => by cases impossible), (fun _ impossible => by cases impossible), fun impossible => by cases impossible⟩

-- One step of a channel's tasks, as the flow control of both directions sees it.
structure StepFlow (c next : Channel) (frame : Option Frame) : Prop where
  held : ∃ gone, next.toTunnel.held + inFlight frame.toList + gone = c.toTunnel.held ∧
    (next.toTunnel.point ≠ .ended .tunnelGone → gone = 0)
  window : ∃ gone, next.toSocket.owed + updatesIn frame.toList + c.toSocket.window.remaining +
      (next.toSocket.granted - c.toSocket.granted) + gone = next.toSocket.window.remaining + c.toSocket.owed ∧
    (next.receiving = true → gone = 0)
  granted : c.toSocket.granted ≤ next.toSocket.granted
  opened : next.opened = c.opened
  listed : next.listed = true → c.listed = true
  receiving : next.receiving = true → c.receiving = true
  sending : next.toTunnel.point ≠ .ended .tunnelGone → c.toTunnel.point ≠ .ended .tunnelGone

theorem same_flow (c next : Channel) (frame : Option Frame) (tunnel : next.toTunnel = c.toTunnel)
    (socket : next.toSocket = c.toSocket) (opened : next.opened = c.opened) (listed : next.listed = true → c.listed = true)
    (alive : next.receiving = true → c.receiving = true) (free : ∀ emitted, frame = some emitted → emitted.cost = 0)
    (quiet : ∀ emitted, frame = some emitted → updateOf emitted = none) : StepFlow c next frame := by
  have weightless : inFlight frame.toList = 0 ∧ updatesIn frame.toList = 0 := by
    cases frame with
    | none => exact ⟨rfl, rfl⟩
    | some emitted => simp [inFlight, updatesIn, free emitted rfl, quiet emitted rfl]
  refine ⟨⟨0, ?_, fun _ => rfl⟩, ⟨0, ?_, fun _ => rfl⟩, ?_, opened, listed, alive, ?_⟩
  · simp [tunnel, weightless.1]
  · simp [socket, weightless.2, Nat.add_comm]
  · simp [socket]
  · rw [tunnel]
    exact fun running => running

theorem grant_flow (half : TunnelToSocket) (extra : Nat) (fits : half.window.remaining + extra ≤ u32Max) :
    (half.grant extra).window.remaining = half.window.remaining + extra ∧ (half.grant extra).granted = half.granted + extra ∧
      (half.grant extra).owed = half.owed :=
  ⟨saturating_add_exact _ _ fits, rfl, rfl⟩

theorem connect_flow (c : Channel) (account : Account c) (addr : String) (isRdp : Bool) (extra : Nat)
    (wider : initialWindow + extra = channelWindow) (here : c.phase = .connecting addr isRdp true) :
    StepFlow c { c with phase := .connected, toSocket := c.toSocket.grant extra } none := by
  obtain ⟨_, granted⟩ := connecting_granted c account addr isRdp true here
  have bound := account.bounded.bound
  have word : channelWindow ≤ u32Max := by decide
  obtain ⟨remaining, total, owed⟩ := grant_flow c.toSocket extra (by simp only [TunnelToSocket.accounted] at bound; omega)
  refine ⟨⟨0, by simp [inFlight], fun _ => rfl⟩, ⟨0, ?_, fun _ => rfl⟩, ?_, rfl, fun listed => listed, fun alive => ?_, ?_⟩
  · simp only [remaining, total, owed, updatesIn, Option.toList_none, List.filterMap_nil, List.sum_nil]
    omega
  · simp only [total]
    omega
  · exact (receiving_iff c).mpr ⟨by simp [here], ((receiving_iff _).mp alive).2⟩
  · exact fun running => running

theorem to_socket_running (id : ChannelId) (listed cancelled : Bool) (half next : TunnelToSocket) (act : ToSocketAct)
    (frame : Option Frame) (step : ToSocketStep id listed cancelled half act next frame) : half.hasEnded = false := by
  cases step with
  | cancel here signal =>
      rcases here with ⟨here, _⟩ | ⟨chunk, done, here⟩ <;> simp [TunnelToSocket.hasEnded, here]
  | _ => simp [TunnelToSocket.hasEnded, *]

theorem to_tunnel_running (id : ChannelId) (cancelled : Bool) (half next : SocketToTunnel) (act : ToTunnelAct)
    (frame : Option Frame) (step : ToTunnelStep id cancelled half act next frame) : half.point.isEnded = false := by
  cases step with
  | cancelIdle here signal => rcases here with here | here <;> simp [ToTunnel.isEnded, here]
  | _ => simp [ToTunnel.isEnded, *]

theorem alive_of_phase (c next : Channel) (socket : next.toSocket = c.toSocket) (running : c.phase ≠ .done)
    (alive : next.receiving = true) : c.receiving = true :=
  (receiving_iff c).mpr ⟨running, socket ▸ ((receiving_iff next).mp alive).2⟩

theorem channel_step_flow (c next : Channel) (act : Act) (frame : Option Frame) (account : Account c)
    (room : c.toTunnel.held ≤ maxSendCredit) (fair : Fair c.toTunnel) (step : ChannelStep c act next frame) :
    StepFlow c next frame := by
  have plain : ∀ after : Channel, after.toTunnel = c.toTunnel → after.toSocket = c.toSocket → after.opened = c.opened →
      (after.listed = true → c.listed = true) → c.phase ≠ .done → ∀ sent word, Frame.cost word = 0 → updateOf word = none →
      StepFlow c after (sentFrame sent word) := by
    intro after tunnel socket opened listed running sent word free quiet
    exact same_flow c after _ tunnel socket opened listed (alive_of_phase c after socket running)
      (fun emitted some => sent_frame_eq _ _ _ some ▸ free) (fun emitted some => sent_frame_eq _ _ _ some ▸ quiet)
  have silent : ∀ after : Channel, after.toTunnel = c.toTunnel → after.toSocket = c.toSocket → after.opened = c.opened →
      (after.listed = true → c.listed = true) → c.phase ≠ .done → StepFlow c after none := by
    intro after tunnel socket opened listed running
    exact same_flow c after none tunnel socket opened listed (alive_of_phase c after socket running)
      (fun _ impossible => by cases impossible) (fun _ impossible => by cases impossible)
  cases step with
  | toTunnel act half frame relays step =>
      obtain ⟨gone, sum, none⟩ := held_step _ _ _ _ _ _ room (fun allow here => (fair.reading allow here).1) step
      have quiet : updatesIn frame.toList = 0 := by
        cases frame with
        | none => rfl
        | some emitted =>
            obtain ⟨data, _, rfl⟩ := to_tunnel_own _ _ _ _ _ _ step emitted rfl
            rfl
      have running := to_tunnel_running _ _ _ _ _ _ step
      refine ⟨⟨gone, sum, none⟩, ⟨0, ?_, fun _ => rfl⟩, Nat.le_refl _, rfl, fun listed => listed, fun alive => alive, ?_⟩
      · simp [Channel.append, quiet, Nat.add_comm]
      · intro _ ended
        simp [ended, ToTunnel.isEnded] at running
  | toSocket act half frame relays step =>
      obtain ⟨gone, sum, none⟩ := owed_step _ _ _ _ _ _ _ account.bounded step
      obtain ⟨_, granted, _⟩ := to_socket_account _ _ _ _ _ _ _ account.bounded step
      have free : inFlight frame.toList = 0 := by
        cases frame with
        | none => rfl
        | some emitted =>
            obtain ⟨add, _, rfl⟩ := to_socket_own _ _ _ _ _ _ _ step emitted rfl
            rfl
      refine ⟨⟨0, ?_, fun _ => rfl⟩, ⟨gone, ?_, ?_⟩, Nat.le_of_eq granted.symm, rfl, fun listed => listed, ?_, ?_⟩
      · simp [Channel.append, free]
      · simp only [Channel.append, granted]
        omega
      · exact fun alive => none ((receiving_iff _).mp alive).2
      · intro alive
        exact (receiving_iff c).mpr ⟨((receiving_iff _).mp alive).1, to_socket_running _ _ _ _ _ _ _ step⟩
      · exact fun running => running
  | cancelHalves teardown here cause => exact silent _ rfl rfl rfl (fun listed => listed) (by simp [here])
  | join first second here tunnelEnd socketEnd => exact silent _ rfl rfl rfl (fun listed => listed) (by simp [here])
  | sendClose sent here => exact plain _ (by rfl) (by rfl) (by rfl) (by exact id) (by simp [here]) sent (.closeMsg c.id) rfl rfl
  | spawn host port here => exact silent _ rfl rfl rfl (fun listed => listed) (by simp [here])
  | sendOpen sent host port here => exact plain _ (by rfl) (by rfl) (by rfl) (by exact id) (by simp [here]) sent (.openMsg c.id host port channelWindow) rfl rfl
  | remove here => exact silent _ rfl rfl rfl (fun listed => by cases listed) (by simp [here])
  | commandData sent addr isRdp bytes rest here queued fits =>
      refine ⟨⟨0, by simp [inFlight], fun _ => rfl⟩, ⟨0, ?_, fun _ => rfl⟩, Nat.le_refl _, rfl, fun listed => listed,
        fun alive => alive, fun running => running⟩
      simp [TunnelToSocket.owed, updatesIn, Nat.add_comm]
  | commandOver sent addr isRdp bytes rest here queued beyond | commandViolation sent addr isRdp rest here queued =>
      exact plain _ (by rfl) (by rfl) (by rfl) (by exact id) (by simp [here]) sent (.closeMsg c.id) rfl rfl
  | commandEnd sent addr isRdp here ending => exact silent _ rfl rfl rfl (fun listed => listed) (by simp [here])
  | commandNone sent addr isRdp here queued still => exact silent _ rfl rfl rfl (fun listed => listed) (by simp [here])
  | connectPending addr isRdp here => exact silent _ rfl rfl rfl (fun listed => listed) (by simp [here])
  | connectFail sent addr isRdp here => exact plain _ (by rfl) (by rfl) (by rfl) (by exact id) (by simp [here]) sent (.openedMsg c.id false (unreachableMessage addr isRdp) 0) rfl rfl
  | connectOk addr isRdp here => exact connect_flow c account addr isRdp _ (by decide) here
  | sendOpened sent here => exact plain _ (by rfl) (by rfl) (by rfl) (by exact id) (by simp [here]) sent (.openedMsg c.id true "" channelWindow) rfl rfl
  | leave here => exact silent _ rfl rfl rfl (fun listed => listed) (by simp [here])

structure FrameKeep (c next : Channel) : Prop where
  tunnelPoint : next.toTunnel.point = c.toTunnel.point
  socketPoint : next.toSocket.point = c.toSocket.point
  granted : next.toSocket.granted = c.toSocket.granted
  listed : next.listed = true → c.listed = true

theorem push_keep (c : Channel) (command : Inbound) : FrameKeep c (c.push command) := by
  cases receiving : c.receiving <;> simp only [Channel.push, receiving, if_true, if_false, Bool.false_eq_true] <;>
    exact ⟨rfl, rfl, rfl, fun listed => listed⟩

theorem on_data_keep (c : Channel) (data : Bytes) : FrameKeep c (c.onData data) := by
  have keep := push_keep { c with toSocket := { c.toSocket with window := (c.toSocket.window.accept data.length).1 } }
  simp only [Channel.onData]
  cases accepted : (c.toSocket.window.accept data.length).2 with
  | true =>
      cases receiving : c.receiving with
      | true => exact ⟨(keep _).tunnelPoint, (keep _).socketPoint, (keep _).granted, (keep _).listed⟩
      | false =>
          exact ⟨rfl, rfl, rfl, fun listed => by cases listed⟩
  | false =>
      exact ⟨(keep _).tunnelPoint, (keep _).socketPoint, (keep _).granted, fun listed => by cases listed⟩

theorem credit_keep (c : Channel) (credit : SendCredit) (opened : Bool) :
    FrameKeep c { c with opened, toTunnel := { c.toTunnel with credit } } := ⟨rfl, rfl, rfl, fun listed => listed⟩

theorem on_frame_keep (c : Channel) (frame : Frame) : FrameKeep c (c.onFrame frame) := by
  cases holds : c.holds frame.channelId with
  | false =>
      simp only [Channel.onFrame, holds, Bool.false_eq_true, if_false]
      exact ⟨rfl, rfl, rfl, fun listed => listed⟩
  | true =>
      have closed := push_keep c .close
      simp only [Channel.onFrame, holds, if_true]
      cases frame with
      | openMsg => exact ⟨rfl, rfl, rfl, fun listed => listed⟩
      | openedMsg id success message window =>
          by_cases side : c.side = .controller
          · simp only [if_pos side, Channel.onOpened]
            cases success with
            | true =>
                cases opened : c.opened with
                | true => exact ⟨rfl, rfl, rfl, fun listed => listed⟩
                | false => exact credit_keep c _ true
            | false => exact { closed with listed := fun listed => by cases listed }
          · simp only [if_neg side]
            exact ⟨rfl, rfl, rfl, fun listed => listed⟩
      | dataMsg id data => exact on_data_keep c data
      | closeMsg id => exact { closed with listed := fun listed => by cases listed }
      | windowUpdateMsg id add => exact credit_keep c _ c.opened

theorem keep_owed (c next : Channel) (keep : FrameKeep c next) : next.toSocket.owed = c.toSocket.owed := by
  simp only [TunnelToSocket.owed, keep.socketPoint]

theorem keep_receiving (c : Channel) (frame : Frame) : (c.onFrame frame).receiving = c.receiving := by
  simp only [Channel.receiving, TunnelToSocket.hasEnded, (on_frame_shape c frame).phase, (on_frame_keep c frame).socketPoint]

def Calm (c : Channel) : Prop := Inbound.violation ∉ c.toSocket.inbound ∧ c.toSocket.point ≠ .ended .violation

section
variable (c : Channel)

theorem push_calm (command : Inbound) (calm : Calm c) (other : command ≠ .violation) : Calm (c.push command) := by
  cases receiving : c.receiving with
  | false => simpa only [Channel.push, receiving, Bool.false_eq_true, if_false] using calm
  | true =>
      simp only [Channel.push, receiving, if_true]
      refine ⟨?_, calm.2⟩
      simp only [List.mem_append, List.mem_singleton, not_or]
      exact ⟨calm.1, Ne.symm other⟩

theorem push_tunnel (command : Inbound) : (c.push command).toTunnel = c.toTunnel ∧ (c.push command).opened = c.opened := by
  cases receiving : c.receiving <;> simp [Channel.push, receiving]

theorem on_data_tunnel (data : Bytes) : (c.onData data).toTunnel = c.toTunnel ∧ (c.onData data).opened = c.opened := by
  have pushed := push_tunnel { c with toSocket := { c.toSocket with window := (c.toSocket.window.accept data.length).1 } }
  simp only [Channel.onData]
  cases (c.toSocket.window.accept data.length).2 with
  | true =>
      cases c.receiving with
      | true => exact pushed (.data data)
      | false => exact ⟨rfl, rfl⟩
  | false => exact pushed .violation

-- Accepted data costs its charge, whether or not anybody is there to take it.
theorem on_data_paid (data : Bytes) (calm : Calm c) (fits : charge data.length ≤ c.toSocket.window.remaining) :
    (c.onData data).toSocket.window.remaining + charge data.length = c.toSocket.window.remaining ∧
      Calm (c.onData data) := by
  simp only [Channel.onData, accept_spec _ _ fits, if_true]
  cases receiving : c.receiving with
  | true =>
      have alive : Channel.receiving
          { c with toSocket := { c.toSocket with window := { c.toSocket.window with
              remaining := c.toSocket.window.remaining - charge data.length } } } = true := receiving
      have pushed := push_calm { c with toSocket := { c.toSocket with window := { c.toSocket.window with
          remaining := c.toSocket.window.remaining - charge data.length } } } (.data data) calm (by simp)
      refine ⟨?_, pushed⟩
      simp only [Channel.push, alive, if_true]
      omega
  | false =>
      simp only [Bool.false_eq_true, if_false]
      refine ⟨?_, calm⟩
      simp only [Channel.unlist]
      omega

theorem on_close_calm (calm : Calm c) :
    c.onClose.toSocket.window = c.toSocket.window ∧ c.onClose.toTunnel = c.toTunnel ∧ c.onClose.opened = c.opened ∧
      Calm c.onClose := by
  obtain ⟨tunnel, opened⟩ := push_tunnel c .close
  refine ⟨?_, tunnel, opened, push_calm c .close calm (by simp)⟩
  cases receiving : c.receiving <;> simp [Channel.onClose, Channel.unlist, Channel.push, receiving]

end

theorem calm_socket (c next : Channel) (calm : Calm c) (inbound : next.toSocket.inbound = c.toSocket.inbound)
    (point : next.toSocket.point = c.toSocket.point) : Calm next := by
  rw [Calm, inbound, point]
  exact calm

theorem grant_queue (half : TunnelToSocket) (n : Nat) :
    (half.grant n).inbound = half.inbound ∧ (half.grant n).point = half.point := ⟨rfl, rfl⟩

theorem calm_step (c next : Channel) (act : Act) (frame : Option Frame) (calm : Calm c) (step : ChannelStep c act next frame) :
    Calm next := by
  cases step with
  | toSocket act half frame relays step =>
      cases step with
      | popPending chunk rest here held => exact ⟨calm.1, by simp [Channel.append]⟩
      | receive chunk rest here empty queued =>
          have before := calm.1
          rw [queued] at before
          exact ⟨fun member => before (List.mem_cons_of_mem _ member), by simp [Channel.append]⟩
      | violated rest here empty queued =>
          have before := calm.1
          rw [queued] at before
          exact absurd (List.mem_cons_self ..) before
      | wrote chunk here =>
          refine ⟨calm.1, ?_⟩
          simp only [Channel.append, TunnelToSocket.wrote]
          cases (c.toSocket.window.drained chunk.length).2 <;> simp
      | write n chunk done here positive within => exact ⟨calm.1, by simp [Channel.append]⟩
      | updated add here => exact ⟨calm.1, by simp [Channel.append]⟩
      | closed | orphaned | writeFail | updateLost | cancel => exact ⟨by simp [Channel.append, TunnelToSocket.finish], by simp [Channel.append, TunnelToSocket.finish]⟩
  | commandData sent addr isRdp bytes rest here queued fits =>
      have before := calm.1
      rw [queued] at before
      exact ⟨fun member => before (List.mem_cons_of_mem _ member), calm.2⟩
  | connectOk addr isRdp here => exact calm_socket c _ calm (grant_queue _ _).1 (grant_queue _ _).2
  | _ => exact calm

theorem holds_own (c : Channel) (id : ChannelId) (own : id = c.id) (listed : c.listed = true) : c.holds id = true := by
  simp [Channel.holds, listed, own]

theorem unlisted_frame (c : Channel) (frame : Frame) (gone : c.listed = false) : c.onFrame frame = c := by
  simp [Channel.onFrame, Channel.holds, gone]

-- Only two frames reach a sender's credit, and only one the window.
theorem on_frame_tunnel (c : Channel) (frame : Frame) (calm : Calm c) (other : updateOf frame = none)
    (plain : ∀ id message window, frame ≠ .openedMsg id true message window)
    (data : ∀ id data, frame ≠ .dataMsg id data) :
    (c.onFrame frame).toTunnel = c.toTunnel ∧ (c.onFrame frame).opened = c.opened ∧
      (c.onFrame frame).toSocket.window = c.toSocket.window ∧ Calm (c.onFrame frame) := by
  cases holds : c.holds frame.channelId with
  | false => simpa only [Channel.onFrame, holds, Bool.false_eq_true, if_false, true_and] using calm
  | true =>
      obtain ⟨window, tunnel, opened, quiet⟩ := on_close_calm c calm
      simp only [Channel.onFrame, holds, if_true]
      cases frame with
      | openMsg => exact ⟨rfl, rfl, rfl, calm⟩
      | openedMsg id success message window =>
          by_cases side : c.side = .controller
          · cases success with
            | true => exact absurd rfl (plain id message window)
            | false =>
                simp only [if_pos side, Channel.onOpened, Bool.false_eq_true, if_false]
                exact ⟨tunnel, opened, by assumption, quiet⟩
          · simp only [if_neg side, true_and]
            exact calm
      | dataMsg id bytes => exact absurd rfl (data id bytes)
      | closeMsg id => exact ⟨tunnel, opened, window, quiet⟩
      | windowUpdateMsg id add => cases other

section
variable (c : Channel) (id : ChannelId)

theorem on_update_held (add : Nat) (own : id = c.id) (listed : c.listed = true) (room : c.toTunnel.held + add ≤ maxSendCredit) :
    (c.onFrame (.windowUpdateMsg id add)).toTunnel.held = c.toTunnel.held + add := by
  simp only [Channel.onFrame, Frame.channelId, holds_own c id own listed, if_true]
  exact add_held c.toTunnel add room

theorem on_update_rest (add : Nat) :
    (c.onFrame (.windowUpdateMsg id add)).toSocket = c.toSocket ∧ (c.onFrame (.windowUpdateMsg id add)).opened = c.opened := by
  cases holds : c.holds id <;> simp [Channel.onFrame, Frame.channelId, holds, Channel.onWindowUpdate]

theorem on_opened_held (message : String) (extra : Nat) (own : id = c.id)
    (listed : c.listed = true) (side : c.side = .controller) (first : c.opened = false)
    (wider : initialWindow + extra = channelWindow) (room : c.toTunnel.held + extra ≤ maxSendCredit) :
    (c.onFrame (.openedMsg id true message channelWindow)).toTunnel.held = c.toTunnel.held + extra ∧
      (c.onFrame (.openedMsg id true message channelWindow)).opened = true := by
  have raised := raise_initial_channel c.toTunnel.credit extra wider (by simp only [SocketToTunnel.held] at room; omega)
  simp only [Channel.onFrame, Frame.channelId, holds_own c id own listed, if_true, if_pos side, Channel.onOpened, first,
    Bool.false_eq_true, if_false, raised]
  refine ⟨?_, trivial⟩
  simp only [SocketToTunnel.held]
  omega

theorem on_opened_again (message : String) (window : Nat) (before : c.opened = true) : c.onFrame (.openedMsg id true message window) = c := by
  cases holds : c.holds id <;> simp [Channel.onFrame, Frame.channelId, holds, Channel.onOpened, before]

theorem on_opened_rest (message : String) (window : Nat) : (c.onFrame (.openedMsg id true message window)).toSocket = c.toSocket := by
  cases holds : c.holds id with
  | false => simp only [Channel.onFrame, Frame.channelId, holds, Bool.false_eq_true, if_false]
  | true =>
      simp only [Channel.onFrame, Frame.channelId, holds, if_true]
      by_cases side : c.side = .controller
      · rw [if_pos side, Channel.onOpened, if_pos rfl]
        cases opened : c.opened with
        | true => rfl
        | false => rfl
      · rw [if_neg side]

end

theorem emit_quiet (w : Wire) (frame : Frame) (free : frame.cost = 0) (quiet : updateOf frame = none) :
    inFlight (w.emit (some frame)).frames = inFlight w.frames ∧ (w.emit (some frame)).updates = w.updates := by
  cases cut : w.cut with
  | true => simp [emit_cut w _ cut]
  | false =>
      rw [emit_open w _ cut]
      refine ⟨?_, by simp [quiet]⟩
      rw [in_flight_append, in_flight_ordered]
      simp [inFlight, free]

end GotechDesk.PortForward
