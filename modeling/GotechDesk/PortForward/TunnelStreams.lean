import GotechDesk.PortForward.TunnelLinks

set_option autoImplicit false

namespace GotechDesk.PortForward

theorem head_step (c next : Channel) (act : Act) (frame : Option Frame) (step : ChannelStep c act next frame) :
    next.toTunnel.head = c.toTunnel.head := by
  cases step with
  | toTunnel act half frame relays step =>
      cases step with
      | read allow bytes next here taken =>
          simp only [SocketToTunnel.onRead] at taken
          obtain ⟨_, rfl⟩ := guarded_step _ _ _ taken
          rfl
      | _ => rfl
  | _ => rfl

theorem head_push (c : Channel) (command : Inbound) : (c.push command).toTunnel = c.toTunnel := by
  cases receiving : c.receiving <;> simp [Channel.push, receiving]

theorem head_frame (c : Channel) (frame : Frame) : (c.onFrame frame).toTunnel.head = c.toTunnel.head := by
  by_cases holds : c.holds frame.channelId = true
  · simp only [Channel.onFrame, holds, if_true]
    cases frame with
    | openMsg => rfl
    | openedMsg id success message window =>
        by_cases side : c.side = .controller
        · cases success <;> cases opened : c.opened <;>
            simp [side, Channel.onOpened, opened, Channel.onClose, Channel.unlist, head_push]
        · simp only [if_neg side]
    | dataMsg id data =>
        cases accepted : (c.toSocket.window.accept data.length).2 <;> cases receiving : c.receiving <;>
          simp [Channel.onData, accepted, receiving, Channel.unlist, head_push]
    | closeMsg id => simp [Channel.onClose, Channel.unlist, head_push]
    | windowUpdateMsg id add => rfl
  · simp only [Channel.onFrame, holds, Bool.false_eq_true, if_false]

theorem no_head_kept : Kept (fun c => c.toTunnel.head = []) :=
  ⟨fun c act next frame none step => (head_step c next act frame step).trans none,
    fun c frame none => (head_frame c frame).trans none, fun _ none => none⟩

-- What one channel's two ends have done for each other: each socket has been given the
-- start of what the other gave, and all of it where the peer's close ended it.
structure Streams (c s : Channel) : Prop where
  up : s.toSocket.written <+: c.toTunnel.head ++ c.toTunnel.read
  down : c.toSocket.written <+: s.toTunnel.read
  upClosed : s.toSocket.point = .ended .peerClosed → s.toSocket.written = dataOf c.out
  downClosed : c.toSocket.point = .ended .peerClosed → c.toSocket.written = dataOf s.out

theorem tracked_streams (t : Tunnel) (inv : TunnelInv t) (bare : ∀ s ∈ t.srv.channels, s.toTunnel.head = []) (c s : Channel)
    (here : c ∈ t.ctl.channels) (there : s ∈ t.srv.channels) (same : s.id = c.id) : Streams c s := by
  obtain ⟨l, ctl, srv, _, _, kept, _⟩ := inv.tracked c here
  rcases srv with ⟨present, _⟩ | ⟨_, absent⟩
  · have sameId : l.srv.id = s.id := (ctl ▸ kept.wired.sameId).trans same.symm
    obtain rfl := same_id_eq t.srv.channels inv.known.apart l.srv s present there sameId
    subst ctl
    obtain ⟨up, down⟩ := link_faithful l kept.wired kept.carried
    have back := down.stream
    rw [bare l.srv there, List.nil_append] at back
    exact ⟨up.stream, back, up.closed, down.closed⟩
  · exact absurd (same ▸ List.mem_map_of_mem there) absent

theorem tracked_silent (t : Tunnel) (inv : TunnelInv t) (c : Channel) (here : c ∈ t.ctl.channels)
    (alone : ∀ s ∈ t.srv.channels, s.id ≠ c.id) : c.toSocket.written = [] := by
  obtain ⟨l, ctl, srv, _, _, kept, _⟩ := inv.tracked c here
  subst ctl
  rcases srv with ⟨present, _⟩ | ⟨unborn, _⟩
  · exact absurd kept.wired.sameId (alone l.srv present)
  · have down := (link_faithful l kept.wired kept.carried).2.stream
    rw [kept.wired.unborn unborn] at down
    exact List.prefix_nil.mp down

-- Every target socket belongs to one channel the controller opened, and each socket of
-- a channel has been given the start of what the channel's other socket gave.
theorem streams_intact (loginTarget : String) (t : Tunnel) (reach : Machine.Reachable Tunnel.step (.start loginTarget) t)
    (few : t.ctl.channels.length < 2 ^ 32) :
    (∀ s ∈ t.srv.channels, ∃ c ∈ t.ctl.channels, c.id = s.id ∧ ∀ other ∈ t.ctl.channels, other.id = s.id → other = c) ∧
      (∀ c ∈ t.ctl.channels, ∀ s ∈ t.srv.channels, s.id = c.id → Streams c s) ∧
      (∀ c ∈ t.ctl.channels, (∀ s ∈ t.srv.channels, s.id ≠ c.id) → c.toSocket.written = []) := by
  have inv := tunnel_inv loginTarget t reach few
  have bare := mux_channels (fun s => s.toTunnel.head = []) no_head_kept (fun _ _ _ _ => rfl) loginTarget t.srv
    (tunnel_ends loginTarget t reach).2
  refine ⟨?_, fun c here s there same => tracked_streams t inv bare c s here there same, tracked_silent t inv⟩
  intro s there
  obtain ⟨c, here, same⟩ := List.mem_map.mp (inv.known.srv (List.mem_map_of_mem there))
  exact ⟨c, here, same, fun other inside alike =>
    same_id_eq t.ctl.channels inv.known.distinct other c inside here (alike.trans same.symm)⟩

-- Two channels, the second one's `open` overtaken by the first one's data; the first is
-- closed from the controller's side behind its last byte.
def twoChannels : List TunnelAct :=
  [.ctl .openCheck, .ctl (.openInsert "" 80 [7]), .ctl .openCheck, .ctl (.openInsert "" 80 []), .ctl (.task 0 .spawn),
    .ctl (.task 1 .spawn), .ctl (.task 0 (.sendOpen true)), .ctl (.task 0 (.toTunnel .take)),
    .ctl (.task 0 (.toTunnel (.read []))), .ctl (.task 0 (.toTunnel (.send true))), .ctl (.task 1 (.sendOpen true)),
    .ctl (.sendData true), .ctl (.sendData true), .deliverUp true, .deliverUp true, .srv (.task 0 (.command true)),
    .srv (.task 0 (.command true)), .srv (.task 0 .connectOk), .srv (.task 0 (.sendOpened true)), .srv (.transmit true),
    .deliverDown 0, .ctl (.sendData true), .deliverUp true, .ctl (.task 0 (.toTunnel .take)),
    .ctl (.task 0 (.toTunnel (.read []))), .ctl (.task 0 (.cancelHalves false)), .ctl (.task 0 (.toSocket .cancel)),
    .ctl (.task 0 .join), .ctl (.task 0 (.sendClose true)), .ctl (.sendData true), .deliverUp true,
    .srv (.task 0 (.toSocket .next)), .srv (.task 0 (.toSocket (.write 1))), .srv (.task 0 (.toSocket .wrote)),
    .srv (.task 0 (.toSocket .next))]

theorem two_channels_run : (Machine.run Tunnel.step (.start "localhost:80") twoChannels).isSome = true := by decide

theorem streams_intact_two_channels :
    let t := (Machine.run Tunnel.step (.start "localhost:80") twoChannels).get two_channels_run
    t.ctl.channels.length < 2 ^ 32 ∧
      t.srv.channels.map (fun s => (s.id, s.toSocket.written, s.toSocket.point)) =
        [(1, [7], .ended .peerClosed), (2, [], .waiting)] ∧
      (∀ s ∈ t.srv.channels, ∃ c ∈ t.ctl.channels, c.id = s.id ∧ ∀ other ∈ t.ctl.channels, other.id = s.id → other = c) ∧
      (∀ c ∈ t.ctl.channels, ∀ s ∈ t.srv.channels, s.id = c.id → Streams c s) ∧
      (∀ c ∈ t.ctl.channels, (∀ s ∈ t.srv.channels, s.id ≠ c.id) → c.toSocket.written = []) :=
  ⟨by decide, by decide,
    streams_intact "localhost:80" _ (Machine.reachable_run _ _ _ two_channels_run) (by decide)⟩

end GotechDesk.PortForward
