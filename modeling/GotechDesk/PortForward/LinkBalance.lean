import GotechDesk.PortForward.LinkFlow

set_option autoImplicit false

namespace GotechDesk.PortForward

-- The channel is up: both maps hold it, or on_open has yet to see it, and nothing
-- either side said has been lost on the way.
structure Intact (l : Link) : Prop where
  ctl : l.ctl.listed = true
  srv : l.srv.listed = true ∨ l.srv.phase = .unborn ∧ l.refusal = none
  up : l.up.cut = false
  down : l.down.cut = false

-- A direction that still works: its sender's sink has refused nothing and its
-- receiver is there.
structure Live (l : Link) (sender receiver : Channel) : Prop where
  intact : Intact l
  sending : sender.toTunnel.point ≠ .ended .tunnelGone
  receiving : receiver.receiving = true

-- What the controlled side granted with its connect and the controller has not yet
-- turned into credit.
def Link.grantDue (l : Link) : Nat := if l.ctl.opened then 0 else l.srv.toSocket.granted - initialWindow

def Link.upTotal (l : Link) : Nat :=
  l.ctl.toTunnel.held + inFlight l.up.frames + l.down.updates.sum + l.srv.toSocket.owed + l.grantDue

def Link.downTotal (l : Link) : Nat :=
  l.srv.toTunnel.held + inFlight l.down.frames + l.up.updates.sum + l.ctl.toSocket.owed

-- All a sender may still spend, in whatever shape, is room in the receiver's window;
-- the two differ by what was lost, which is nothing while the direction works.
def Covered (total remaining : Nat) (live : Prop) : Prop := ∃ lost, total + lost = remaining ∧ (live → lost = 0)

structure Balanced (l : Link) : Prop where
  up : Covered l.upTotal l.srv.toSocket.window.remaining (Live l l.ctl l.srv)
  down : Covered l.downTotal l.ctl.toSocket.window.remaining (Live l l.srv l.ctl)
  base : initialWindow ≤ l.srv.toSocket.granted
  widened : l.ctl.opened = true ∨ Frame.openedMsg l.ctl.id true "" channelWindow ∈ l.srv.out →
    l.srv.toSocket.granted = channelWindow
  ctlFair : Fair l.ctl.toTunnel
  srvFair : Fair l.srv.toTunnel
  ctlCalm : Calm l.ctl
  srvCalm : Calm l.srv

theorem window_capped (c : Channel) (account : Account c) : c.toSocket.window.remaining ≤ channelWindow := by
  have bound := account.bounded.bound
  have capped := account.bounded.capped
  simp only [TunnelToSocket.accounted] at bound
  omega

theorem intact_back (l next : Link) (act : LinkAct) (step : LinkStep l act next) (intact : Intact next) :
    Intact l := by
  obtain ⟨ctl, srv, up, down⟩ := intact
  cases step with
  | ctl act after frame step =>
      rw [(emit_done l.up frame).2] at up
      exact ⟨(channel_step_got l.ctl after act frame step).2.2 ctl, srv, up, down⟩
  | srv act after frame step =>
      rw [(emit_done l.down frame).2] at down
      refine ⟨ctl, .inl ?_, up, down⟩
      rcases srv with listed | ⟨unborn, _⟩
      · exact (channel_step_got l.srv after act frame step).2.2 listed
      · exact absurd unborn (step_born l.srv after act frame step).2
  | accepted addr isRdp id host port window rest queued unborn pending => exact ⟨ctl, .inr ⟨unborn, pending⟩, up, down⟩
  | refused message id host port window rest queued unborn pending => exact ⟨ctl, .inr ⟨unborn, pending⟩, up, by rwa [(emit_done l.down _).2] at down⟩
  | repeated verdict id host port window rest queued known => exact ⟨ctl, srv, up, down⟩
  | upFrame verdict frame rest queued other =>
      refine ⟨ctl, ?_, up, down⟩
      rcases srv with listed | ⟨unborn, pending⟩
      · exact .inl ((on_frame_keep l.srv frame).listed listed)
      · exact .inr ⟨(on_frame_shape l.srv frame).phase.symm.trans unborn, pending⟩
  | upUpdate add rest queued =>
      refine ⟨ctl, ?_, up, down⟩
      rcases srv with listed | ⟨unborn, pending⟩
      · exact .inl ((on_frame_keep l.srv _).listed listed)
      · exact .inr ⟨(on_frame_shape l.srv _).phase.symm.trans unborn, pending⟩
  | downFrame frame rest queued => exact ⟨(on_frame_keep l.ctl frame).listed ctl, srv, up, down⟩
  | downUpdate add rest queued => exact ⟨(on_frame_keep l.ctl _).listed ctl, srv, up, down⟩
  | ctlUnlist => cases ctl
  | srvUnlist =>
      rcases srv with listed | fresh
      · cases listed
      · exact ⟨ctl, .inr fresh, up, down⟩
  | cutUp frames updates => cases up
  | cutDown frames updates => cases down

section
variable (l : Link)

theorem up_room (wired : Wired l) (balanced : Balanced l) : l.ctl.toTunnel.held ≤ maxSendCredit := by
  obtain ⟨lost, sum, _⟩ := balanced.up
  have capped : l.srv.toSocket.window.remaining ≤ maxSendCredit := window_capped l.srv wired.srv.account
  simp only [Link.upTotal] at sum
  omega

theorem down_room (wired : Wired l) (balanced : Balanced l) : l.srv.toTunnel.held ≤ maxSendCredit := by
  obtain ⟨lost, sum, _⟩ := balanced.down
  have capped : l.ctl.toSocket.window.remaining ≤ maxSendCredit := window_capped l.ctl wired.ctl.account
  simp only [Link.downTotal] at sum
  omega

theorem ctl_flow (wired : Wired l) (balanced : Balanced l) (act : Act) (next : Channel) (frame : Option Frame)
    (step : ChannelStep l.ctl act next frame) : StepFlow l.ctl next frame :=
  channel_step_flow l.ctl next act frame wired.ctl.account (up_room l wired balanced) balanced.ctlFair step

theorem srv_flow (wired : Wired l) (balanced : Balanced l) (act : Act) (next : Channel) (frame : Option Frame)
    (step : ChannelStep l.srv act next frame) : StepFlow l.srv next frame :=
  channel_step_flow l.srv next act frame wired.srv.account (down_room l wired balanced) balanced.srvFair step

-- The grant due moves with the window it belongs to.
theorem grant_due_step (balanced : Balanced l) (granted : Nat) (wider : l.srv.toSocket.granted ≤ granted) (capped : granted ≤ channelWindow) :
    (if l.ctl.opened then 0 else granted - initialWindow) = l.grantDue + (granted - l.srv.toSocket.granted) := by
  have base := balanced.base
  cases opened : l.ctl.opened with
  | true =>
      have full := balanced.widened (.inl opened)
      simp only [Link.grantDue, opened, if_true]
      omega
  | false =>
      simp only [Link.grantDue, opened, Bool.false_eq_true, if_false]
      omega

theorem up_ctl (wired : Wired l) (balanced : Balanced l) (act : Act) (after : Channel) (frame : Option Frame)
    (step : ChannelStep l.ctl act after frame) (next : Link) (same : next = { l with ctl := after, up := l.up.emit frame }) :
    Covered next.upTotal next.srv.toSocket.window.remaining (Live next next.ctl next.srv) := by
  obtain ⟨lost, sum, none⟩ := balanced.up
  have flow := ctl_flow l wired balanced act after frame step
  obtain ⟨gone, held, kept⟩ := flow.held
  obtain ⟨swallowed, _, frames, _, through⟩ := emit_flow l.up frame
  subst same
  refine ⟨lost + gone + swallowed, ?_, fun live => ?_⟩
  · simp only [Link.upTotal, Link.grantDue, flow.opened] at sum ⊢
    omega
  · have before := intact_back l _ _ (.ctl act after frame step) live.intact
    have free := none ⟨before, flow.sending live.sending, live.receiving⟩
    rw [free, kept live.sending, (through before.up).1]

theorem up_srv (wired : Wired l) (balanced : Balanced l) (act : Act) (after : Channel) (frame : Option Frame)
    (step : ChannelStep l.srv act after frame) (next : Link) (same : next = { l with srv := after, down := l.down.emit frame }) :
    Covered next.upTotal next.srv.toSocket.window.remaining (Live next next.ctl next.srv) := by
  obtain ⟨lost, sum, none⟩ := balanced.up
  have flow := srv_flow l wired balanced act after frame step
  obtain ⟨gone, window, kept⟩ := flow.window
  obtain ⟨_, swallowed, _, updates, through⟩ := emit_flow l.down frame
  have capped := (account_step l.srv after act frame wired.srv.account step).bounded.capped
  have due := grant_due_step l balanced after.toSocket.granted flow.granted capped
  have granted := flow.granted
  subst same
  refine ⟨lost + gone + swallowed, ?_, fun live => ?_⟩
  · simp only [Link.upTotal] at sum ⊢
    rw [show Link.grantDue { l with srv := after, down := l.down.emit frame } =
      (if l.ctl.opened then 0 else after.toSocket.granted - initialWindow) from rfl, due]
    omega
  · have before := intact_back l _ _ (.srv act after frame step) live.intact
    have free := none ⟨before, live.sending, flow.receiving live.receiving⟩
    rw [free, kept live.receiving, (through before.down).2]

end

theorem in_flight_cons (frame : Frame) (rest : List Frame) : inFlight (frame :: rest) = frame.cost + inFlight rest := by
  simp [inFlight]

-- A frame that weighs nothing arrives and moves nothing.
theorem up_idle (l next : Link) (balanced : Balanced l) (tunnel : next.ctl.toTunnel.held = l.ctl.toTunnel.held)
    (frames : inFlight next.up.frames = inFlight l.up.frames) (updates : next.down.updates.sum = l.down.updates.sum)
    (owed : next.srv.toSocket.owed = l.srv.toSocket.owed) (due : next.grantDue = l.grantDue)
    (remaining : next.srv.toSocket.window.remaining = l.srv.toSocket.window.remaining)
    (live : Live next next.ctl next.srv → Live l l.ctl l.srv) :
    Covered next.upTotal next.srv.toSocket.window.remaining (Live next next.ctl next.srv) := by
  obtain ⟨lost, sum, none⟩ := balanced.up
  refine ⟨lost, ?_, fun now => none (live now)⟩
  simp only [Link.upTotal] at sum ⊢
  omega

-- Data reaches the controlled side: the window has room for it, since what is in
-- flight is covered.
theorem up_data_fits (l : Link) (balanced : Balanced l) (id : ChannelId) (data : Bytes) (rest : List Frame)
    (queued : l.up.frames = .dataMsg id data :: rest) : charge data.length ≤ l.srv.toSocket.window.remaining := by
  obtain ⟨lost, sum, _⟩ := balanced.up
  simp only [Link.upTotal, queued, in_flight_cons, Frame.cost] at sum
  omega

theorem down_data_fits (l : Link) (balanced : Balanced l) (id : ChannelId) (data : Bytes) (rest : List Frame)
    (queued : l.down.frames = .dataMsg id data :: rest) : charge data.length ≤ l.ctl.toSocket.window.remaining := by
  obtain ⟨lost, sum, _⟩ := balanced.down
  simp only [Link.downTotal, queued, in_flight_cons, Frame.cost] at sum
  omega

theorem on_data_flow (c : Channel) (id : ChannelId) (data : Bytes) (own : id = c.id) (calm : Calm c) (listed : c.listed = true)
    (fits : charge data.length ≤ c.toSocket.window.remaining) :
    (c.onFrame (.dataMsg id data)).toSocket.window.remaining + charge data.length = c.toSocket.window.remaining ∧
      Calm (c.onFrame (.dataMsg id data)) := by
  simp only [Channel.onFrame, Frame.channelId, holds_own c id own listed, if_true]
  exact on_data_paid c data calm fits

theorem on_data_aside (c : Channel) (id : ChannelId) (data : Bytes) :
    (c.onFrame (.dataMsg id data)).toTunnel = c.toTunnel ∧ (c.onFrame (.dataMsg id data)).opened = c.opened := by
  cases holds : c.holds id with
  | false => simp only [Channel.onFrame, Frame.channelId, holds, Bool.false_eq_true, if_false, and_self]
  | true =>
      simp only [Channel.onFrame, Frame.channelId, holds, if_true]
      exact on_data_tunnel c data

theorem up_data (l : Link) (wired : Wired l) (balanced : Balanced l) (verdict : Verdict) (data : Bytes) (rest : List Frame)
    (queued : l.up.frames = .dataMsg l.ctl.id data :: rest) (next : Link)
    (same : next = { l with up := { l.up with frames := rest, done := l.up.done ++ [.dataMsg l.ctl.id data] },
                            srv := l.srv.onFrame (.dataMsg l.ctl.id data) }) :
    Covered next.upTotal next.srv.toSocket.window.remaining (Live next next.ctl next.srv) := by
  have keep := on_frame_keep l.srv (.dataMsg l.ctl.id data)
  have owed := keep_owed _ _ keep
  obtain ⟨lost, sum, none⟩ := balanced.up
  have fits := up_data_fits l balanced _ data rest queued
  simp only [Link.upTotal, Link.grantDue, queued, in_flight_cons, Frame.cost] at sum
  cases listed : l.srv.listed with
  | true =>
      obtain ⟨paid, _⟩ := on_data_flow l.srv l.ctl.id data wired.sameId.symm balanced.srvCalm listed fits
      subst same
      refine ⟨lost, ?_, fun live => none ⟨?_, live.sending, ?_⟩⟩
      · simp only [Link.upTotal, Link.grantDue, owed, keep.granted]
        omega
      · exact intact_back l _ _ (.upFrame verdict _ rest queued (by simp)) live.intact
      · exact (keep_receiving l.srv _).symm.trans live.receiving
  | false =>
      have still := unlisted_frame l.srv (.dataMsg l.ctl.id data) listed
      subst same
      refine ⟨lost + charge data.length, ?_, fun live => ?_⟩
      · simp only [Link.upTotal, Link.grantDue, still]
        omega
      · rcases live.intact.srv with held | ⟨unborn, pending⟩
        · simp only [still] at held
          rw [listed] at held
          cases held
        · simp only [still] at unborn
          obtain ⟨_, _, opening⟩ := wired_first l wired _ rest queued unborn pending
          cases opening

theorem up_opened (l : Link) (wired : Wired l) (balanced : Balanced l) (rest : List Frame)
    (queued : l.down.frames = .openedMsg l.ctl.id true "" channelWindow :: rest) (next : Link)
    (spoken : Frame.openedMsg l.ctl.id true "" channelWindow ∈ l.srv.out)
    (same : next = { l with down := { l.down with frames := rest,
                                                  done := l.down.done ++ [.openedMsg l.ctl.id true "" channelWindow] },
                            ctl := l.ctl.onFrame (.openedMsg l.ctl.id true "" channelWindow) }) :
    Covered next.upTotal next.srv.toSocket.window.remaining (Live next next.ctl next.srv) := by
  have keep := on_frame_keep l.ctl (.openedMsg l.ctl.id true "" channelWindow)
  have full := balanced.widened (.inr spoken)
  obtain ⟨extra, wider⟩ : ∃ extra, initialWindow + extra = channelWindow :=
    ⟨channelWindow - initialWindow, by decide⟩
  have back : Live next next.ctl next.srv → Live l l.ctl l.srv := by
    subst same
    intro live
    exact ⟨intact_back l _ _ (.downFrame _ rest queued) live.intact, keep.tunnelPoint ▸ live.sending, live.receiving⟩
  have idle : l.ctl.onFrame (.openedMsg l.ctl.id true "" channelWindow) = l.ctl →
      Covered next.upTotal next.srv.toSocket.window.remaining (Live next next.ctl next.srv) := by
    intro still
    refine up_idle l next balanced ?_ ?_ ?_ ?_ ?_ ?_ back <;> subst same
    · simp only [still]
    · rfl
    · rfl
    · rfl
    · simp only [Link.grantDue, still]
    · rfl
  cases opened : l.ctl.opened with
  | true => exact idle (on_opened_again l.ctl _ _ _ opened)
  | false =>
      cases listed : l.ctl.listed with
      | false => exact idle (unlisted_frame l.ctl _ listed)
      | true =>
          obtain ⟨lost, sum, none⟩ := balanced.up
          have capped : l.srv.toSocket.window.remaining ≤ maxSendCredit := window_capped l.srv wired.srv.account
          simp only [Link.upTotal, Link.grantDue, opened, Bool.false_eq_true, if_false, full] at sum
          obtain ⟨raised, now⟩ := on_opened_held l.ctl l.ctl.id "" extra rfl listed wired.ctlSide opened wider (by omega)
          refine ⟨lost, ?_, fun live => none (back live)⟩
          subst same
          simp only [Link.upTotal, Link.grantDue, now, if_true, raised]
          omega

theorem up_heard (l : Link) (wired : Wired l) (balanced : Balanced l) (frame : Frame) (rest : List Frame)
    (queued : l.down.frames = frame :: rest) (next : Link)
    (same : next = { l with down := { l.down with frames := rest, done := l.down.done ++ [frame] },
                            ctl := l.ctl.onFrame frame }) :
    Covered next.upTotal next.srv.toSocket.window.remaining (Live next next.ctl next.srv) := by
  have keep := on_frame_keep l.ctl frame
  have back : Live next next.ctl next.srv → Live l l.ctl l.srv := by
    subst same
    intro live
    exact ⟨intact_back l _ _ (.downFrame _ rest queued) live.intact, keep.tunnelPoint ▸ live.sending, live.receiving⟩
  have idle : (l.ctl.onFrame frame).toTunnel = l.ctl.toTunnel → (l.ctl.onFrame frame).opened = l.ctl.opened →
      Covered next.upTotal next.srv.toSocket.window.remaining (Live next next.ctl next.srv) := by
    intro tunnel opened
    refine up_idle l next balanced ?_ ?_ ?_ ?_ ?_ ?_ back <;> subst same
    · simp only [tunnel]
    · rfl
    · rfl
    · rfl
    · simp only [Link.grantDue, opened]
    · rfl
  rcases wired_down_words l wired frame (by simp [queued]) with ⟨rfl, spoken⟩ | ⟨message, rfl⟩ | ⟨data, rfl⟩ | rfl
  · exact up_opened l wired balanced rest queued next spoken same
  · obtain ⟨tunnel, opened, _⟩ := on_frame_tunnel l.ctl (.openedMsg l.ctl.id false message 0) balanced.ctlCalm rfl (by simp) (by simp)
    exact idle tunnel opened
  · obtain ⟨tunnel, opened⟩ := on_data_aside l.ctl l.ctl.id data
    exact idle tunnel opened
  · obtain ⟨tunnel, opened, _⟩ := on_frame_tunnel l.ctl (.closeMsg l.ctl.id) balanced.ctlCalm rfl (by simp) (by simp)
    exact idle tunnel opened

theorem up_credited (l : Link) (wired : Wired l) (balanced : Balanced l) (add : Nat) (rest : List Nat)
    (queued : l.down.updates = add :: rest) (next : Link)
    (same : next = { l with down := { l.down with updates := rest }, ctl := l.ctl.onFrame (.windowUpdateMsg l.ctl.id add) }) :
    Covered next.upTotal next.srv.toSocket.window.remaining (Live next next.ctl next.srv) := by
  have keep := on_frame_keep l.ctl (.windowUpdateMsg l.ctl.id add)
  obtain ⟨lost, sum, none⟩ := balanced.up
  have capped : l.srv.toSocket.window.remaining ≤ maxSendCredit := window_capped l.srv wired.srv.account
  simp only [Link.upTotal, Link.grantDue, queued, List.sum_cons] at sum
  cases listed : l.ctl.listed with
  | true =>
      have raised := on_update_held l.ctl l.ctl.id add rfl listed (by omega)
      have opened := (on_update_rest l.ctl l.ctl.id add).2
      subst same
      refine ⟨lost, ?_, fun live => none ⟨?_, keep.tunnelPoint ▸ live.sending, live.receiving⟩⟩
      · simp only [Link.upTotal, Link.grantDue, raised, opened]
        omega
      · exact intact_back l _ _ (.downUpdate add rest queued) live.intact
  | false =>
      have still := unlisted_frame l.ctl (.windowUpdateMsg l.ctl.id add) listed
      subst same
      refine ⟨lost + add, ?_, fun live => ?_⟩
      · simp only [Link.upTotal, Link.grantDue, still]
        omega
      · have held := live.intact.ctl
        simp only [still, listed] at held
        cases held

theorem up_step (l next : Link) (act : LinkAct) (wired : Wired l) (balanced : Balanced l) (step : LinkStep l act next) :
    Covered next.upTotal next.srv.toSocket.window.remaining (Live next next.ctl next.srv) := by
  have back := intact_back l next act step
  cases step with
  | ctl act after frame step => exact up_ctl l wired balanced act after frame step _ rfl
  | srv act after frame step => exact up_srv l wired balanced act after frame step _ rfl
  | accepted addr isRdp id host port window rest queued unborn pending =>
      have absent := wired.unborn unborn
      refine up_idle l _ balanced rfl ?_ rfl ?_ ?_ ?_ fun live => ⟨back live.intact, live.sending, ?_⟩
      · simp [queued, in_flight_cons, Frame.cost]
      · rw [absent]
        rfl
      · simp only [Link.grantDue, absent]
        rfl
      · rw [absent]
        rfl
      · rw [absent]
        rfl
  | refused message id host port window rest queued unborn pending =>
      have quiet := emit_quiet l.down (.openedMsg id false message 0) rfl rfl
      refine up_idle l _ balanced rfl ?_ ?_ rfl rfl rfl fun live => ⟨back live.intact, live.sending, live.receiving⟩
      · simp [queued, in_flight_cons, Frame.cost]
      · simp only [quiet.2]
  | repeated verdict id host port window rest queued known =>
      refine up_idle l _ balanced rfl ?_ rfl rfl rfl rfl fun live => ⟨back live.intact, live.sending, live.receiving⟩
      simp [queued, in_flight_cons, Frame.cost]
  | upFrame verdict frame rest queued other =>
      rcases wired_up_words l wired frame (by simp [queued]) with ⟨host, port, rfl⟩ | ⟨data, rfl⟩ | rfl
      · exact absurd rfl (other _ _ _ _)
      · exact up_data l wired balanced verdict data rest queued _ rfl
      · have keep := on_frame_keep l.srv (.closeMsg l.ctl.id)
        obtain ⟨_, _, window, _⟩ := on_frame_tunnel l.srv (.closeMsg l.ctl.id) balanced.srvCalm rfl (by simp) (by simp)
        refine up_idle l _ balanced rfl ?_ rfl (keep_owed _ _ keep) ?_ ?_ fun live =>
          ⟨back live.intact, live.sending, (keep_receiving l.srv _).symm.trans live.receiving⟩
        · simp [queued, in_flight_cons, Frame.cost]
        · simp only [Link.grantDue, keep.granted]
        · simp only [window]
  | upUpdate add rest queued =>
      have keep := on_frame_keep l.srv (.windowUpdateMsg l.ctl.id add)
      have window := (on_update_rest l.srv l.ctl.id add).1
      refine up_idle l _ balanced rfl rfl rfl (keep_owed _ _ keep) ?_ ?_ fun live =>
        ⟨back live.intact, live.sending, (keep_receiving l.srv _).symm.trans live.receiving⟩
      · simp only [Link.grantDue, keep.granted]
      · simp only [window]
  | downFrame frame rest queued => exact up_heard l wired balanced frame rest queued _ rfl
  | downUpdate add rest queued => exact up_credited l wired balanced add rest queued _ rfl
  | ctlUnlist | srvUnlist =>
      exact up_idle l _ balanced rfl rfl rfl rfl rfl rfl fun live => ⟨back live.intact, live.sending, live.receiving⟩
  | cutUp frames updates =>
      obtain ⟨lost, sum, _⟩ := balanced.up
      have less := in_flight_take l.up.frames frames
      refine ⟨lost + (inFlight l.up.frames - inFlight (l.up.frames.take frames)), ?_, fun live => by cases live.intact.up⟩
      simp only [Link.upTotal, Link.grantDue, Wire.truncate] at sum ⊢
      omega
  | cutDown frames updates =>
      obtain ⟨lost, sum, _⟩ := balanced.up
      have less := sum_take l.down.updates updates
      refine ⟨lost + (l.down.updates.sum - (l.down.updates.take updates).sum), ?_, fun live => by cases live.intact.down⟩
      simp only [Link.upTotal, Link.grantDue, Wire.truncate] at sum ⊢
      omega

theorem down_idle (l next : Link) (balanced : Balanced l) (tunnel : next.srv.toTunnel.held = l.srv.toTunnel.held)
    (frames : inFlight next.down.frames = inFlight l.down.frames) (updates : next.up.updates.sum = l.up.updates.sum)
    (owed : next.ctl.toSocket.owed = l.ctl.toSocket.owed)
    (remaining : next.ctl.toSocket.window.remaining = l.ctl.toSocket.window.remaining)
    (live : Live next next.srv next.ctl → Live l l.srv l.ctl) :
    Covered next.downTotal next.ctl.toSocket.window.remaining (Live next next.srv next.ctl) := by
  obtain ⟨lost, sum, none⟩ := balanced.down
  refine ⟨lost, ?_, fun now => none (live now)⟩
  simp only [Link.downTotal] at sum ⊢
  omega

theorem down_srv (l : Link) (wired : Wired l) (balanced : Balanced l) (act : Act) (after : Channel) (frame : Option Frame)
    (step : ChannelStep l.srv act after frame) (next : Link) (same : next = { l with srv := after, down := l.down.emit frame }) :
    Covered next.downTotal next.ctl.toSocket.window.remaining (Live next next.srv next.ctl) := by
  obtain ⟨lost, sum, none⟩ := balanced.down
  have flow := srv_flow l wired balanced act after frame step
  obtain ⟨gone, held, kept⟩ := flow.held
  obtain ⟨swallowed, _, frames, _, through⟩ := emit_flow l.down frame
  subst same
  refine ⟨lost + gone + swallowed, ?_, fun live => ?_⟩
  · simp only [Link.downTotal] at sum ⊢
    omega
  · have before := intact_back l _ _ (.srv act after frame step) live.intact
    have free := none ⟨before, flow.sending live.sending, live.receiving⟩
    rw [free, kept live.sending, (through before.down).1]

-- The controller's window is whole from the start.
theorem controller_granted (c : Channel) (account : Account c) (side : c.side = .controller) :
    c.toSocket.granted = channelWindow := account.granted channelWindow (by simp [side, Phase.grant])

theorem down_ctl (l : Link) (wired : Wired l) (balanced : Balanced l) (act : Act) (after : Channel) (frame : Option Frame)
    (step : ChannelStep l.ctl act after frame) (next : Link) (same : next = { l with ctl := after, up := l.up.emit frame }) :
    Covered next.downTotal next.ctl.toSocket.window.remaining (Live next next.srv next.ctl) := by
  obtain ⟨lost, sum, none⟩ := balanced.down
  have flow := ctl_flow l wired balanced act after frame step
  obtain ⟨gone, window, kept⟩ := flow.window
  obtain ⟨_, swallowed, _, updates, through⟩ := emit_flow l.up frame
  have before := controller_granted l.ctl wired.ctl.account wired.ctlSide
  have now := controller_granted after (account_step l.ctl after act frame wired.ctl.account step)
    ((channel_step_shape l.ctl after act frame step).side.trans wired.ctlSide)
  subst same
  refine ⟨lost + gone + swallowed, ?_, fun live => ?_⟩
  · simp only [Link.downTotal] at sum ⊢
    omega
  · have earlier := intact_back l _ _ (.ctl act after frame step) live.intact
    have free := none ⟨earlier, live.sending, flow.receiving live.receiving⟩
    rw [free, kept live.receiving, (through earlier.up).2]

theorem down_data (l : Link) (balanced : Balanced l) (data : Bytes) (rest : List Frame)
    (queued : l.down.frames = .dataMsg l.ctl.id data :: rest) (next : Link)
    (same : next = { l with down := { l.down with frames := rest, done := l.down.done ++ [.dataMsg l.ctl.id data] },
                            ctl := l.ctl.onFrame (.dataMsg l.ctl.id data) }) :
    Covered next.downTotal next.ctl.toSocket.window.remaining (Live next next.srv next.ctl) := by
  have keep := on_frame_keep l.ctl (.dataMsg l.ctl.id data)
  have owed := keep_owed _ _ keep
  obtain ⟨lost, sum, none⟩ := balanced.down
  have fits := down_data_fits l balanced _ data rest queued
  simp only [Link.downTotal, queued, in_flight_cons, Frame.cost] at sum
  cases listed : l.ctl.listed with
  | true =>
      obtain ⟨paid, _⟩ := on_data_flow l.ctl l.ctl.id data rfl balanced.ctlCalm listed fits
      subst same
      refine ⟨lost, ?_, fun live => none ⟨?_, live.sending, ?_⟩⟩
      · simp only [Link.downTotal, owed]
        omega
      · exact intact_back l _ _ (.downFrame _ rest queued) live.intact
      · exact (keep_receiving l.ctl _).symm.trans live.receiving
  | false =>
      have still := unlisted_frame l.ctl (.dataMsg l.ctl.id data) listed
      subst same
      refine ⟨lost + charge data.length, ?_, fun live => ?_⟩
      · simp only [Link.downTotal, still]
        omega
      · have held := live.intact.ctl
        simp only [still, listed] at held
        cases held

theorem down_heard (l : Link) (wired : Wired l) (balanced : Balanced l) (frame : Frame) (rest : List Frame)
    (queued : l.down.frames = frame :: rest) (next : Link)
    (same : next = { l with down := { l.down with frames := rest, done := l.down.done ++ [frame] },
                            ctl := l.ctl.onFrame frame }) :
    Covered next.downTotal next.ctl.toSocket.window.remaining (Live next next.srv next.ctl) := by
  have keep := on_frame_keep l.ctl frame
  have back : Live next next.srv next.ctl → Live l l.srv l.ctl := by
    subst same
    intro live
    exact ⟨intact_back l _ _ (.downFrame _ rest queued) live.intact, live.sending,
      (keep_receiving l.ctl frame).symm.trans live.receiving⟩
  have idle : frame.cost = 0 → (l.ctl.onFrame frame).toSocket.window = l.ctl.toSocket.window →
      Covered next.downTotal next.ctl.toSocket.window.remaining (Live next next.srv next.ctl) := by
    intro free window
    refine down_idle l next balanced ?_ ?_ ?_ ?_ ?_ back <;> subst same
    · rfl
    · simp [queued, in_flight_cons, free]
    · rfl
    · exact keep_owed _ _ keep
    · simp only [window]
  rcases wired_down_words l wired frame (by simp [queued]) with ⟨rfl, spoken⟩ | ⟨message, rfl⟩ | ⟨data, rfl⟩ | rfl
  · exact idle rfl (by rw [on_opened_rest])
  · obtain ⟨_, _, window, _⟩ := on_frame_tunnel l.ctl (.openedMsg l.ctl.id false message 0) balanced.ctlCalm rfl (by simp) (by simp)
    exact idle rfl window
  · exact down_data l balanced data rest queued next same
  · obtain ⟨_, _, window, _⟩ := on_frame_tunnel l.ctl (.closeMsg l.ctl.id) balanced.ctlCalm rfl (by simp) (by simp)
    exact idle rfl window

theorem down_passed (l : Link) (wired : Wired l) (balanced : Balanced l) (verdict : Verdict) (frame : Frame)
    (rest : List Frame) (queued : l.up.frames = frame :: rest)
    (other : ∀ id host port window, frame ≠ .openMsg id host port window) (next : Link)
    (same : next = { l with up := { l.up with frames := rest, done := l.up.done ++ [frame] }, srv := l.srv.onFrame frame }) :
    Covered next.downTotal next.ctl.toSocket.window.remaining (Live next next.srv next.ctl) := by
  have keep := on_frame_keep l.srv frame
  have idle : (l.srv.onFrame frame).toTunnel = l.srv.toTunnel →
      Covered next.downTotal next.ctl.toSocket.window.remaining (Live next next.srv next.ctl) := by
    intro tunnel
    subst same
    refine down_idle l _ balanced ?_ rfl rfl rfl rfl fun live => ⟨?_, keep.tunnelPoint ▸ live.sending, live.receiving⟩
    · simp only [tunnel]
    · exact intact_back l _ _ (.upFrame verdict frame rest queued other) live.intact
  rcases wired_up_words l wired frame (by simp [queued]) with ⟨host, port, rfl⟩ | ⟨data, rfl⟩ | rfl
  · exact absurd rfl (other _ _ _ _)
  · exact idle (on_data_aside l.srv l.ctl.id data).1
  · exact idle (on_frame_tunnel l.srv (.closeMsg l.ctl.id) balanced.srvCalm rfl (by simp) (by simp)).1

theorem absent_held (id : ChannelId) : (Channel.absent id).toTunnel.held = channelWindow := by
  have whole : min (effectiveWindow channelWindow) maxSendCredit = channelWindow := by decide
  simp [Channel.absent, Channel.controlled, SocketToTunnel.new, SocketToTunnel.held, SendCredit.new, whole]

theorem down_credited (l : Link) (wired : Wired l) (balanced : Balanced l) (add : Nat) (rest : List Nat)
    (queued : l.up.updates = add :: rest) (next : Link)
    (same : next = { l with up := { l.up with updates := rest }, srv := l.srv.onFrame (.windowUpdateMsg l.ctl.id add) }) :
    Covered next.downTotal next.ctl.toSocket.window.remaining (Live next next.srv next.ctl) := by
  have keep := on_frame_keep l.srv (.windowUpdateMsg l.ctl.id add)
  obtain ⟨lost, sum, none⟩ := balanced.down
  have capped : l.ctl.toSocket.window.remaining ≤ maxSendCredit := window_capped l.ctl wired.ctl.account
  simp only [Link.downTotal, queued, List.sum_cons] at sum
  cases listed : l.srv.listed with
  | true =>
      have raised := on_update_held l.srv l.ctl.id add wired.sameId.symm listed (by omega)
      subst same
      refine ⟨lost, ?_, fun live => none ⟨?_, keep.tunnelPoint ▸ live.sending, live.receiving⟩⟩
      · simp only [Link.downTotal, raised]
        omega
      · exact intact_back l _ _ (.upUpdate add rest queued) live.intact
  | false =>
      have still := unlisted_frame l.srv (.windowUpdateMsg l.ctl.id add) listed
      subst same
      refine ⟨lost + add, ?_, fun live => ?_⟩
      · simp only [Link.downTotal, still]
        omega
      · -- Before its `open` is seen the sender holds a whole window, so nothing is missing.
        rcases live.intact.srv with held | ⟨unborn, _⟩
        · simp only [still, listed] at held
          cases held
        · simp only [still] at unborn
          have whole : l.srv.toTunnel.held = maxSendCredit := by
            rw [wired.unborn unborn]
            exact absent_held l.ctl.id
          omega

theorem down_step (l next : Link) (act : LinkAct) (wired : Wired l) (balanced : Balanced l) (step : LinkStep l act next) :
    Covered next.downTotal next.ctl.toSocket.window.remaining (Live next next.srv next.ctl) := by
  have back := intact_back l next act step
  cases step with
  | ctl act after frame step => exact down_ctl l wired balanced act after frame step _ rfl
  | srv act after frame step => exact down_srv l wired balanced act after frame step _ rfl
  | accepted addr isRdp id host port window rest queued unborn pending =>
      have absent := wired.unborn unborn
      obtain ⟨_, _, opening⟩ := wired_first l wired _ rest queued unborn pending
      have whole : window = channelWindow := by injection opening
      subst whole
      refine down_idle l _ balanced ?_ rfl rfl rfl rfl fun live => ⟨back live.intact, ?_, live.receiving⟩
      · rw [absent]
        rfl
      · rw [absent]
        exact live.sending
  | refused message id host port window rest queued unborn pending =>
      have quiet := emit_quiet l.down (.openedMsg id false message 0) rfl rfl
      exact down_idle l _ balanced rfl quiet.1 rfl rfl rfl fun live => ⟨back live.intact, live.sending, live.receiving⟩
  | repeated verdict id host port window rest queued known =>
      exact down_idle l _ balanced rfl rfl rfl rfl rfl fun live => ⟨back live.intact, live.sending, live.receiving⟩
  | upFrame verdict frame rest queued other => exact down_passed l wired balanced verdict frame rest queued other _ rfl
  | upUpdate add rest queued => exact down_credited l wired balanced add rest queued _ rfl
  | downFrame frame rest queued => exact down_heard l wired balanced frame rest queued _ rfl
  | downUpdate add rest queued =>
      have socket := (on_update_rest l.ctl l.ctl.id add).1
      refine down_idle l _ balanced rfl rfl rfl ?_ ?_ fun live =>
        ⟨back live.intact, live.sending, (keep_receiving l.ctl _).symm.trans live.receiving⟩ <;> simp only [socket]
  | ctlUnlist | srvUnlist =>
      exact down_idle l _ balanced rfl rfl rfl rfl rfl fun live => ⟨back live.intact, live.sending, live.receiving⟩
  | cutUp frames updates =>
      obtain ⟨lost, sum, _⟩ := balanced.down
      have less := sum_take l.up.updates updates
      refine ⟨lost + (l.up.updates.sum - (l.up.updates.take updates).sum), ?_, fun live => by cases live.intact.up⟩
      simp only [Link.downTotal, Wire.truncate] at sum ⊢
      omega
  | cutDown frames updates =>
      obtain ⟨lost, sum, _⟩ := balanced.down
      have less := in_flight_take l.down.frames frames
      refine ⟨lost + (inFlight l.down.frames - inFlight (l.down.frames.take frames)), ?_, fun live => by cases live.intact.down⟩
      simp only [Link.downTotal, Wire.truncate] at sum ⊢
      omega

theorem fair_channel (c next : Channel) (act : Act) (frame : Option Frame) (fair : Fair c.toTunnel)
    (step : ChannelStep c act next frame) : Fair next.toTunnel := by
  cases step with
  | toTunnel act half frame relays step => exact fair_step _ _ _ _ _ _ fair step
  | _ => exact fair

theorem fair_frame (c : Channel) (frame : Frame) (fair : Fair c.toTunnel) : Fair (c.onFrame frame).toTunnel := by
  cases holds : c.holds frame.channelId with
  | false => simpa only [Channel.onFrame, holds, Bool.false_eq_true, if_false] using fair
  | true =>
      have closed : c.onClose.toTunnel = c.toTunnel := (push_tunnel c .close).1
      simp only [Channel.onFrame, holds, if_true]
      cases frame with
      | openMsg => exact fair
      | openedMsg id success message window =>
          by_cases side : c.side = .controller
          · simp only [if_pos side, Channel.onOpened]
            cases success with
            | true =>
                cases opened : c.opened with
                | true => exact fair
                | false =>
                    refine fair_credit c.toTunnel _ fair ?_
                    simp only [SendCredit.raiseInitial]
                    by_cases more : 0 < effectiveWindow window - initialWindow
                    · rw [if_pos more]
                      exact .inr rfl
                    · rw [if_neg more]
                      exact .inl rfl
            | false =>
                simp only [Bool.false_eq_true, if_false, closed]
                exact fair
          · simpa only [if_neg side] using fair
      | dataMsg id data => simpa only [(on_data_tunnel c data).1] using fair
      | closeMsg id => simpa only [closed] using fair
      | windowUpdateMsg id add => exact fair_credit c.toTunnel _ fair (.inr rfl)

theorem fair_new (initial : Nat) (prebuf : Bytes) : Fair (SocketToTunnel.new (SendCredit.new initial) prebuf) :=
  ⟨(fun _ impossible => nomatch impossible), (fun _ impossible => nomatch impossible), fun impossible => nomatch impossible⟩

theorem calm_new (c : Channel) (granted : Nat) (socket : c.toSocket = .new granted) : Calm c := by
  rw [Calm, socket]
  simp [TunnelToSocket.new]

theorem up_calm (l : Link) (wired : Wired l) (balanced : Balanced l) (frame : Frame) (rest : List Frame)
    (queued : l.up.frames = frame :: rest) : Calm (l.srv.onFrame frame) := by
  rcases wired_up_words l wired frame (by simp [queued]) with ⟨host, port, rfl⟩ | ⟨data, rfl⟩ | rfl
  · exact (on_frame_tunnel l.srv (.openMsg l.ctl.id host port channelWindow) balanced.srvCalm rfl (by simp) (by simp)).2.2.2
  · cases listed : l.srv.listed with
    | true =>
        exact (on_data_flow l.srv l.ctl.id data wired.sameId.symm balanced.srvCalm listed
          (up_data_fits l balanced _ data rest queued)).2
    | false =>
        rw [unlisted_frame l.srv _ listed]
        exact balanced.srvCalm
  · exact (on_frame_tunnel l.srv (.closeMsg l.ctl.id) balanced.srvCalm rfl (by simp) (by simp)).2.2.2

theorem down_calm (l : Link) (wired : Wired l) (balanced : Balanced l) (frame : Frame) (rest : List Frame)
    (queued : l.down.frames = frame :: rest) : Calm (l.ctl.onFrame frame) := by
  rcases wired_down_words l wired frame (by simp [queued]) with ⟨rfl, spoken⟩ | ⟨message, rfl⟩ | ⟨data, rfl⟩ | rfl
  · rw [Calm, on_opened_rest]
    exact balanced.ctlCalm
  · exact (on_frame_tunnel l.ctl (.openedMsg l.ctl.id false message 0) balanced.ctlCalm rfl (by simp) (by simp)).2.2.2
  · cases listed : l.ctl.listed with
    | true =>
        exact (on_data_flow l.ctl l.ctl.id data rfl balanced.ctlCalm listed
          (down_data_fits l balanced _ data rest queued)).2
    | false =>
        rw [unlisted_frame l.ctl _ listed]
        exact balanced.ctlCalm
  · exact (on_frame_tunnel l.ctl (.closeMsg l.ctl.id) balanced.ctlCalm rfl (by simp) (by simp)).2.2.2

-- `opened` leaves only after the grant, and is heard only after it has left.
theorem widened_srv (l : Link) (wired : Wired l) (balanced : Balanced l) (act : Act) (after : Channel) (frame : Option Frame)
    (step : ChannelStep l.srv act after frame)
    (told : l.ctl.opened = true ∨ Frame.openedMsg l.ctl.id true "" channelWindow ∈ after.out) :
    after.toSocket.granted = channelWindow := by
  have flow := srv_flow l wired balanced act after frame step
  have account := account_step l.srv after act frame wired.srv.account step
  have grown := flow.granted
  have capped := account.bounded.capped
  have kept : l.srv.toSocket.granted = channelWindow → after.toSocket.granted = channelWindow := by omega
  rcases told with opened | member
  · exact kept (balanced.widened (.inl opened))
  · rw [(channel_step_shape l.srv after act frame step).out] at member
    rcases List.mem_append.mp member with old | new
    · exact kept (balanced.widened (.inr old))
    · refine kept ?_
      have emitted : frame = some (Frame.openedMsg l.ctl.id true "" channelWindow) := by
        cases frame with
        | none => simp at new
        | some word => exact congrArg some (List.mem_singleton.mp new).symm
      cases step with
      | sendOpened sent here =>
          exact wired.srv.account.granted channelWindow (by rw [here, wired.srvSide]; rfl)
      | toTunnel act half frame relays step =>
          obtain ⟨data, _, impossible⟩ := to_tunnel_own _ _ _ _ _ _ step _ emitted
          cases impossible
      | toSocket act half frame relays step =>
          obtain ⟨add, _, impossible⟩ := to_socket_own _ _ _ _ _ _ _ step _ emitted
          cases impossible
      | sendClose sent here => cases sent_frame_eq _ _ _ emitted
      | sendOpen sent host port here => cases sent_frame_eq _ _ _ emitted
      | commandOver sent addr isRdp bytes rest here queued beyond => cases sent_frame_eq _ _ _ emitted
      | commandViolation sent addr isRdp rest here queued => cases sent_frame_eq _ _ _ emitted
      | connectFail sent addr isRdp here =>
          have impossible := sent_frame_eq _ _ _ emitted
          simp at impossible
      | _ => cases emitted

theorem on_frame_opened (c : Channel) (frame : Frame) (calm : Calm c) (now : (c.onFrame frame).opened = true) :
    c.opened = true ∨ ∃ message window, frame = .openedMsg frame.channelId true message window := by
  cases frame with
  | openedMsg id success message window =>
      cases success with
      | true => exact .inr ⟨message, window, rfl⟩
      | false =>
          have same := (on_frame_tunnel c (.openedMsg id false message window) calm rfl (by simp) (by simp)).2.1
          exact .inl (same ▸ now)
  | dataMsg id data => exact .inl ((on_data_aside c id data).2 ▸ now)
  | windowUpdateMsg id add => exact .inl ((on_update_rest c id add).2 ▸ now)
  | openMsg id host port window =>
      exact .inl ((on_frame_tunnel c (.openMsg id host port window) calm rfl (by simp) (by simp)).2.1 ▸ now)
  | closeMsg id => exact .inl ((on_frame_tunnel c (.closeMsg id) calm rfl (by simp) (by simp)).2.1 ▸ now)

theorem balanced_step (l next : Link) (act : LinkAct) (wired : Wired l) (balanced : Balanced l) (step : LinkStep l act next) :
    Balanced next := by
  have up := up_step l next act wired balanced step
  have down := down_step l next act wired balanced step
  have base := balanced.base
  cases step with
  | ctl act after frame step =>
      have shape := channel_step_shape l.ctl after act frame step
      refine ⟨up, down, base, ?_, fair_channel _ _ _ _ balanced.ctlFair step, balanced.srvFair,
        calm_step _ _ _ _ balanced.ctlCalm step, balanced.srvCalm⟩
      simp only [shape.id, (ctl_flow l wired balanced act after frame step).opened]
      exact balanced.widened
  | srv act after frame step =>
      exact ⟨up, down, Nat.le_trans base (srv_flow l wired balanced act after frame step).granted,
        fun told => widened_srv l wired balanced act after frame step told, balanced.ctlFair,
        fair_channel _ _ _ _ balanced.srvFair step, balanced.ctlCalm, calm_step _ _ _ _ balanced.srvCalm step⟩
  | accepted addr isRdp id host port window rest queued unborn pending =>
      have absent := wired.unborn unborn
      have small : initialWindow ≠ channelWindow := by decide
      refine ⟨up, down, Nat.le_refl _, fun told => ?_, balanced.ctlFair, fair_new _ _, balanced.ctlCalm, calm_new _ _ rfl⟩
      have full := balanced.widened (.inl (told.resolve_right (by simp [Channel.controlled])))
      rw [absent] at full
      exact absurd full small
  | refused message id host port window rest queued unborn pending | repeated verdict id host port window rest queued known =>
      exact { balanced with up := up, down := down, base := base }
  | upFrame verdict frame rest queued other =>
      have keep := on_frame_keep l.srv frame
      refine ⟨up, down, keep.granted ▸ base, ?_, balanced.ctlFair, fair_frame _ _ balanced.srvFair, balanced.ctlCalm,
        up_calm l wired balanced frame rest queued⟩
      simp only [keep.granted, (on_frame_shape l.srv frame).out]
      exact balanced.widened
  | upUpdate add rest queued =>
      have keep := on_frame_keep l.srv (.windowUpdateMsg l.ctl.id add)
      refine ⟨up, down, keep.granted ▸ base, ?_, balanced.ctlFair, fair_frame _ _ balanced.srvFair, balanced.ctlCalm, ?_⟩
      · simp only [keep.granted, (on_frame_shape l.srv _).out]
        exact balanced.widened
      · simp only [Calm, (on_update_rest l.srv l.ctl.id add).1]
        exact balanced.srvCalm
  | downFrame frame rest queued =>
      refine ⟨up, down, base, ?_, fair_frame _ _ balanced.ctlFair, balanced.srvFair,
        down_calm l wired balanced frame rest queued, balanced.srvCalm⟩
      simp only [(on_frame_shape l.ctl frame).id]
      rintro (opened | member)
      · rcases on_frame_opened l.ctl frame balanced.ctlCalm opened with before | ⟨message, window, same⟩
        · exact balanced.widened (.inl before)
        · rcases wired_down_words l wired frame (by simp [queued]) with ⟨rfl, spoken⟩ | ⟨_, rfl⟩ | ⟨_, rfl⟩ | rfl
          · exact balanced.widened (.inr spoken)
          · cases same
          · cases same
          · cases same
      · exact balanced.widened (.inr member)
  | downUpdate add rest queued =>
      have rest := on_update_rest l.ctl l.ctl.id add
      refine ⟨up, down, base, ?_, fair_frame _ _ balanced.ctlFair, balanced.srvFair, ?_, balanced.srvCalm⟩
      · simp only [(on_frame_shape l.ctl _).id, rest.2]
        exact balanced.widened
      · simp only [Calm, rest.1]
        exact balanced.ctlCalm
  | ctlUnlist | srvUnlist | cutUp frames updates | cutDown frames updates =>
      exact { balanced with up := up, down := down, base := base }

end GotechDesk.PortForward
