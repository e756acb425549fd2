import GotechDesk.PortForward.WireGrammar

set_option autoImplicit false

namespace GotechDesk.PortForward

-- Both ends of a tunnel. The transport delivers what a side has sent, in the order it
-- was sent; `upSeen` and `downSeen` count what has arrived.
structure Tunnel where
  ctl : TunnelHandle
  srv : PortForwardMux
  upSeen : Nat
  downSeen : Nat
deriving DecidableEq, Repr

def Tunnel.start (loginTarget : String) : Tunnel := ⟨.new, .new loginTarget, 0, 0⟩

def Tunnel.onWayUp (t : Tunnel) : List Frame := t.ctl.sent.drop t.upSeen
def Tunnel.onWayDown (t : Tunnel) : List Frame := t.srv.sent.drop t.downSeen

-- `permitted` is what Connection finds in its permission when the frame arrives.
inductive TunnelAct where
  | ctl (act : HandleAct)
  | srv (act : MuxAct)
  | deliverUp (permitted : Bool)
  | deliverDown (now : Nat)
deriving DecidableEq, Repr

def HandleAct.receives : HandleAct → Bool
  | .receive _ _ => true
  | _ => false

def MuxAct.handles : MuxAct → Bool
  | .handle _ _ => true
  | _ => false

def Tunnel.step (t : Tunnel) : TunnelAct → Option Tunnel
  | .ctl act => if act.receives then none else (t.ctl.step act).map (fun ctl => { t with ctl })
  | .srv act => if act.handles then none else (t.srv.step act).map (fun srv => { t with srv })
  | .deliverUp permitted =>
      match t.onWayUp with
      | [] => none
      | frame :: _ => (t.srv.step (.handle frame permitted)).map (fun srv => { t with srv, upSeen := t.upSeen + 1 })
  | .deliverDown now =>
      match t.onWayDown with
      | [] => none
      | frame :: _ => (t.ctl.step (.receive frame now)).map (fun ctl => { t with ctl, downSeen := t.downSeen + 1 })

inductive TunnelStep (t : Tunnel) : TunnelAct → Tunnel → Prop where
  | ctl (act : HandleAct) (next : TunnelHandle) (own : act.receives = false) (step : HandleStep t.ctl act next) :
      TunnelStep t (.ctl act) { t with ctl := next }
  | srv (act : MuxAct) (next : PortForwardMux) (own : act.handles = false) (step : MuxStep t.srv act next) :
      TunnelStep t (.srv act) { t with srv := next }
  | deliverUp (permitted : Bool) (frame : Frame) (rest : List Frame) (next : PortForwardMux)
      (queued : t.onWayUp = frame :: rest) (serving : t.srv.loop = .running)
      (handled : Handled t.srv frame permitted next) :
      TunnelStep t (.deliverUp permitted) { t with srv := next, upSeen := t.upSeen + 1 }
  | deliverDown (now : Nat) (frame : Frame) (rest : List Frame) (queued : t.onWayDown = frame :: rest)
      (serving : t.ctl.loop = .running) :
      TunnelStep t (.deliverDown now) { t with ctl := t.ctl.onFrame frame now, downSeen := t.downSeen + 1 }

theorem tunnel_step (t next : Tunnel) (act : TunnelAct) (taken : t.step act = some next) : TunnelStep t act next := by
  cases act with
  | ctl act =>
      cases own : act.receives with
      | true => simp [Tunnel.step, own] at taken
      | false =>
          simp only [Tunnel.step, own, Bool.false_eq_true, if_false, Option.map_eq_some_iff] at taken
          obtain ⟨after, stepped, rfl⟩ := taken
          exact .ctl act after own (handle_step t.ctl after act stepped)
  | srv act =>
      cases own : act.handles with
      | true => simp [Tunnel.step, own] at taken
      | false =>
          simp only [Tunnel.step, own, Bool.false_eq_true, if_false, Option.map_eq_some_iff] at taken
          obtain ⟨after, stepped, rfl⟩ := taken
          exact .srv act after own (mux_step t.srv after act stepped)
  | deliverUp permitted =>
      cases queued : t.onWayUp with
      | nil => simp [Tunnel.step, queued] at taken
      | cons frame rest =>
          simp only [Tunnel.step, queued, Option.map_eq_some_iff] at taken
          obtain ⟨after, stepped, rfl⟩ := taken
          cases mux_step t.srv after _ stepped with
          | handle _ _ _ serving handled => exact .deliverUp permitted frame rest after queued serving handled
  | deliverDown now =>
      cases queued : t.onWayDown with
      | nil => simp [Tunnel.step, queued] at taken
      | cons frame rest =>
          simp only [Tunnel.step, queued, Option.map_eq_some_iff] at taken
          obtain ⟨after, stepped, rfl⟩ := taken
          cases handle_step t.ctl after _ stepped with
          | receive _ _ serving => exact .deliverDown now frame rest queued serving

-- Each end of a tunnel is an end that some peer talks to.
theorem tunnel_ends (loginTarget : String) (t : Tunnel) (reach : Machine.Reachable Tunnel.step (.start loginTarget) t) :
    Machine.Reachable TunnelHandle.step .new t.ctl ∧
      Machine.Reachable PortForwardMux.step (.new loginTarget) t.srv := by
  refine Machine.reachable_invariant Tunnel.step
    (fun t => Machine.Reachable TunnelHandle.step .new t.ctl ∧
      Machine.Reachable PortForwardMux.step (.new loginTarget) t.srv) (.start loginTarget) t
    ⟨Machine.reachable_refl _ _, Machine.reachable_refl _ _⟩ ?_ reach
  intro state act next ends taken
  cases act with
  | ctl act =>
      cases own : act.receives <;> simp [Tunnel.step, own] at taken
      obtain ⟨after, stepped, rfl⟩ := taken
      exact ⟨Machine.reachable_step _ _ _ _ _ ends.1 stepped, ends.2⟩
  | srv act =>
      cases own : act.handles <;> simp [Tunnel.step, own] at taken
      obtain ⟨after, stepped, rfl⟩ := taken
      exact ⟨ends.1, Machine.reachable_step _ _ _ _ _ ends.2 stepped⟩
  | deliverUp permitted =>
      cases queued : state.onWayUp <;> simp [Tunnel.step, queued] at taken
      obtain ⟨after, stepped, rfl⟩ := taken
      exact ⟨ends.1, Machine.reachable_step _ _ _ _ _ ends.2 stepped⟩
  | deliverDown now =>
      cases queued : state.onWayDown <;> simp [Tunnel.step, queued] at taken
      obtain ⟨after, stepped, rfl⟩ := taken
      exact ⟨Machine.reachable_step _ _ _ _ _ ends.1 stepped, ends.2⟩

-- The ids a controller hands out: as long as the counter has not come round, channel k
-- has id k + 1.
def channelNumber (k : Nat) : ChannelId := BitVec.ofNat 32 (k + 1)

structure Numbered (h : TunnelHandle) : Prop where
  ids : h.channels.map Channel.id = (List.range h.channels.length).map channelNumber
  next : h.nextId = channelNumber h.channels.length

theorem channel_number_inj (j k : Nat) (below : j < 2 ^ 32) (under : k < 2 ^ 32) (same : channelNumber j = channelNumber k) :
    j = k := by
  have words := congrArg BitVec.toNat same
  simp only [channelNumber, BitVec.toNat_ofNat] at words
  omega

theorem free_id_next (live : List ChannelId) (fuel : Nat) (id : ChannelId) (free : id ∉ live) : freeId live fuel id = id := by
  cases fuel with
  | zero => rfl
  | succ fuel => simp [freeId, free]

theorem live_ids_subset (channels : List Channel) : liveIds channels ⊆ channels.map Channel.id := by
  intro id member
  obtain ⟨c, kept, rfl⟩ := List.mem_map.mp member
  exact List.mem_map_of_mem (List.mem_of_mem_filter kept)

theorem numbered_fresh (h : TunnelHandle) (numbered : Numbered h) (few : h.channels.length < 2 ^ 32) :
    h.nextId ∉ h.channels.map Channel.id := by
  rw [numbered.ids, numbered.next]
  intro member
  obtain ⟨k, inside, same⟩ := List.mem_map.mp member
  have below := List.mem_range.mp inside
  exact absurd (channel_number_inj k h.channels.length (by omega) few same) (by omega)

theorem numbered_distinct (h : TunnelHandle) (numbered : Numbered h) (few : h.channels.length ≤ 2 ^ 32) :
    (h.channels.map Channel.id).Nodup := by
  rw [numbered.ids]
  refine List.Nodup.map_on ?_ List.nodup_range
  intro j inside k within same
  have below := List.mem_range.mp inside
  have under := List.mem_range.mp within
  exact channel_number_inj j k (by omega) (by omega) same

section
variable (h next : TunnelHandle)

theorem numbered_same (numbered : Numbered h)
    (ids : next.channels.map Channel.id = h.channels.map Channel.id) (counter : next.nextId = h.nextId) : Numbered next := by
  have lengths : next.channels.length = h.channels.length := by simpa using congrArg List.length ids
  exact ⟨by rw [ids, lengths, numbered.ids], by rw [counter, lengths, numbered.next]⟩

-- The ids and the counter only move when `open` admits a channel.
theorem handle_ids (act : HandleAct) (step : HandleStep h act next) :
    next.channels.map Channel.id = h.channels.map Channel.id ∧ next.nextId = h.nextId ∨
      ∃ host port prebuf, next.channels = h.channels ++ [Channel.controller (freeId (liveIds h.channels) (liveIds h.channels).length
        h.nextId) host port prebuf] ∧ next.nextId = freeId (liveIds h.channels) (liveIds h.channels).length h.nextId + 1 := by
  cases step with
  | openInsert host port prebuf called room id free => exact .inr ⟨host, port, prebuf, by rw [free], by rw [free]⟩
  | task k act c after frame here allowed step =>
      refine .inl ⟨?_, ?_⟩
      · rw [enqueue_eq]
        exact (moved_settled h.channels k c after act here (channel_step_shape c after act frame step).id).ids
      · rw [enqueue_eq]
        rfl
  | receive frame now serving =>
      refine .inl ⟨?_, rfl⟩
      simp only [TunnelHandle.onFrame, List.map_map]
      exact List.map_congr_left fun c _ => (on_frame_shape c frame).id
  | clear here =>
      refine .inl ⟨?_, rfl⟩
      simp only [List.map_map]
      exact List.map_congr_left fun c _ => (unlist_shape c).id
  | _ => exact .inl ⟨rfl, rfl⟩

theorem handle_grows (act : HandleAct) (step : HandleStep h act next) : h.channels.length ≤ next.channels.length := by
  rcases handle_ids h next act step with ⟨ids, _⟩ | ⟨host, port, prebuf, channels, _⟩
  · exact Nat.le_of_eq (by simpa using (congrArg List.length ids).symm)
  · simp [channels]

theorem numbered_step (act : HandleAct) (numbered : Numbered h) (step : HandleStep h act next)
    (few : next.channels.length ≤ 2 ^ 32) : Numbered next := by
  rcases handle_ids h next act step with ⟨ids, counter⟩ | ⟨host, port, prebuf, channels, counter⟩
  · exact numbered_same h next numbered ids counter
  · have below : h.channels.length < 2 ^ 32 := by
      rw [channels, List.length_append] at few
      exact few
    have free := free_id_next (liveIds h.channels) (liveIds h.channels).length h.nextId
      fun live => numbered_fresh h numbered below (live_ids_subset _ live)
    rw [free] at channels counter
    refine ⟨?_, ?_⟩
    · simp [channels, numbered.ids, numbered.next, List.range_succ, Channel.controller]
    · simp [counter, channels, numbered.next, channelNumber, BitVec.ofNat_add]

end

end GotechDesk.PortForward
