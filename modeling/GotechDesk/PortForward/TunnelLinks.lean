import GotechDesk.PortForward.FlowControl
import GotechDesk.PortForward.Teardown
import GotechDesk.PortForward.Tunnel

set_option autoImplicit false

namespace GotechDesk.PortForward

def lineOf (id : ChannelId) (frames : List Frame) : List Frame := (framesOf id frames).filter Frame.ordered
def updatesOf (id : ChannelId) (frames : List Frame) : List Nat := (framesOf id frames).filterMap updateOf

theorem line_of_append (id : ChannelId) (a b : List Frame) : lineOf id (a ++ b) = lineOf id a ++ lineOf id b := by
  simp [lineOf, frames_of_append]

theorem updates_of_append (id : ChannelId) (a b : List Frame) : updatesOf id (a ++ b) = updatesOf id a ++ updatesOf id b := by
  simp [updatesOf, frames_of_append]

theorem frames_of_none (id : ChannelId) (frames : List Frame) (foreign : ∀ frame ∈ frames, frame.channelId ≠ id) :
    framesOf id frames = [] := by
  refine List.filter_eq_nil_iff.mpr fun frame member => ?_
  simpa using foreign frame member

-- One direction of the tunnel as one channel sees it: what is on the way, and, as long
-- as the loop serves, what its queues hold.
structure Carries (w : Wire) (id : ChannelId) (serving : Bool) (onWay data control : List Frame) : Prop where
  frames : w.frames = lineOf id (onWay ++ if serving then data else [])
  updates : w.updates = updatesOf id (onWay ++ if serving then control else [])
  cut : w.cut = !serving

theorem carries_silent (id : ChannelId) (serving : Bool) (onWay data control : List Frame) (way : framesOf id onWay = [])
    (queued : framesOf id data = []) (answered : framesOf id control = []) :
    Carries ⟨[], [], !serving, []⟩ id serving onWay data control := by
  refine ⟨?_, ?_, rfl⟩
  · cases serving <;> simp [lineOf, frames_of_append, way, queued]
  · cases serving <;> simp [updatesOf, frames_of_append, way, answered]

section
variable (w : Wire) (id : ChannelId)

theorem carries_emit (serving : Bool) (onWay data control later replies : List Frame)
    (frame : Option Frame) (own : ∀ emitted, frame = some emitted → emitted.channelId = id)
    (carries : Carries w id serving onWay data control)
    (queued : lineOf id later = lineOf id data ++ lineOf id frame.toList)
    (answered : updatesOf id replies = updatesOf id control ++ updatesOf id frame.toList) :
    Carries (w.emit frame) id serving onWay later replies := by
  obtain ⟨frames, updates, cut⟩ := carries
  cases serving with
  | false =>
      rw [emit_cut w frame cut]
      exact ⟨frames, updates, cut⟩
  | true =>
      have mine := frames_of_own id frame own
      rw [emit_open w frame cut]
      refine ⟨?_, ?_, cut⟩
      · simp only [frames, line_of_append, if_true, queued, List.append_assoc]
        simp only [lineOf, mine]
      · simp only [updates, updates_of_append, if_true, answered, List.append_assoc]
        simp only [updatesOf, mine]

theorem carries_same (serving : Bool) (onWay data control sent later replies : List Frame) (carries : Carries w id serving onWay data control)
    (queued : lineOf id (sent ++ if serving then later else []) = lineOf id (onWay ++ if serving then data else []))
    (answered : updatesOf id (sent ++ if serving then replies else []) =
      updatesOf id (onWay ++ if serving then control else [])) :
    Carries w id serving sent later replies :=
  ⟨carries.frames.trans queued.symm, carries.updates.trans answered.symm, carries.cut⟩

theorem carries_cut (onWay data control later replies : List Frame) (carries : Carries w id true onWay data control) :
    Carries (w.truncate (lineOf id onWay).length (updatesOf id onWay).length) id false onWay later replies := by
  refine ⟨?_, ?_, rfl⟩
  · simp [Wire.truncate, carries.frames, line_of_append]
  · simp [Wire.truncate, carries.updates, updates_of_append]

section
variable (serving : Bool) (rest data control : List Frame)

theorem carries_other (frame : Frame) (carries : Carries w id serving (frame :: rest) data control) (foreign : frame.channelId ≠ id) :
    Carries w id serving rest data control := by
  have skip : ∀ frames, framesOf id (frame :: frames) = framesOf id frames := by
    intro frames
    simp [framesOf, foreign]
  refine ⟨?_, ?_, carries.cut⟩
  · simpa only [List.cons_append, lineOf, skip] using carries.frames
  · simpa only [List.cons_append, updatesOf, skip] using carries.updates

theorem carries_deliver (frame : Frame) (carries : Carries w id serving (frame :: rest) data control) (own : frame.channelId = id)
    (ordered : frame.ordered = true) :
    ∃ frames, w.frames = frame :: frames ∧
      Carries { w with frames := frames, done := w.done ++ [frame] } id serving rest data control := by
  have first : ∀ frames, framesOf id (frame :: frames) = frame :: framesOf id frames := by
    intro frames
    simp [framesOf, own]
  have silent : updateOf frame = none := by
    cases frame <;> first | rfl | cases ordered
  refine ⟨lineOf id (rest ++ if serving then data else []), ?_, rfl, ?_, carries.cut⟩
  · simpa only [List.cons_append, lineOf, first, List.filter_cons, ordered, if_true] using carries.frames
  · simpa only [List.cons_append, updatesOf, first, List.filterMap_cons, silent] using carries.updates

theorem carries_deliver_update (add : Nat) (carries : Carries w id serving (.windowUpdateMsg id add :: rest) data control) :
    ∃ updates, w.updates = add :: updates ∧ Carries { w with updates := updates } id serving rest data control := by
  have first : ∀ frames, framesOf id (.windowUpdateMsg id add :: frames) = .windowUpdateMsg id add :: framesOf id frames := by
    intro frames
    simp [framesOf, Frame.channelId]
  refine ⟨updatesOf id (rest ++ if serving then control else []), ?_, ?_, rfl, carries.cut⟩
  · simpa only [List.cons_append, updatesOf, first, List.filterMap_cons, updateOf] using carries.updates
  · simpa only [List.cons_append, lineOf, first, List.filter_cons, Frame.ordered, Bool.false_eq_true, if_false] using
      carries.frames

end

end

-- What the controlled side has heard of the channel: its `open` before anything else,
-- and nothing after its `close`.
structure Heard (l : Link) : Prop where
  begun : l.up.done = [] → l.srv.phase = .unborn ∧ l.refusal = none
  closed : Frame.closeMsg l.ctl.id ∈ l.up.done → l.srv.listed = false

theorem close_unlists (c : Channel) (id : ChannelId) (same : c.id = id) : (c.onFrame (.closeMsg id)).listed = false := by
  cases listed : c.listed with
  | false => exact on_frame_unlisted c _ listed
  | true => simp [Channel.onFrame, Channel.holds, Frame.channelId, listed, same, Channel.onClose, Channel.unlist]

theorem heard_step (l next : Link) (act : LinkAct) (wired : Wired l) (heard : Heard l) (step : LinkStep l act next) :
    Heard next := by
  have keep : ∀ frame, l.srv.listed = false → (l.srv.onFrame frame).listed = false :=
    fun frame gone => on_frame_unlisted l.srv frame gone
  cases step with
  | ctl act after frame step =>
      have shape := channel_step_shape l.ctl after act frame step
      refine ⟨?_, ?_⟩
      · simpa only [(emit_done l.up frame).1] using heard.begun
      · simpa only [(emit_done l.up frame).1, shape.id] using heard.closed
  | srv act after frame step =>
      have born := (step_born l.srv after act frame step).1
      refine ⟨fun empty => absurd (heard.begun empty).1 born, fun closed => ?_⟩
      have before := heard.closed closed
      cases still : after.listed with
      | false => rfl
      | true => exact absurd ((channel_step_got l.srv after act frame step).2.2 still) (by simp [before])
  | accepted addr isRdp id host port window rest queued unborn pending =>
      refine ⟨by simp, fun closed => ?_⟩
      simp [wired.fresh unborn pending] at closed
  | refused message id host port window rest queued unborn pending | repeated verdict id host port window rest queued known =>
      refine ⟨by simp, fun closed => ?_⟩
      exact heard.closed (by simpa using closed)
  | upFrame verdict frame rest queued other =>
      refine ⟨by simp, fun closed => ?_⟩
      rcases List.mem_append.mp closed with old | new
      · exact keep frame (heard.closed old)
      · have closing : frame = .closeMsg l.ctl.id := (List.mem_singleton.mp new).symm
        rw [closing]
        exact close_unlists l.srv l.ctl.id wired.sameId
  | upUpdate add rest queued =>
      have shape := on_frame_shape l.srv (.windowUpdateMsg l.ctl.id add)
      refine ⟨fun empty => ?_, fun closed => keep _ (heard.closed closed)⟩
      exact ⟨shape.phase.trans (heard.begun empty).1, (heard.begun empty).2⟩
  | downFrame frame rest queued =>
      refine ⟨heard.begun, ?_⟩
      simpa only [(on_frame_shape l.ctl frame).id] using heard.closed
  | downUpdate add rest queued =>
      refine ⟨heard.begun, ?_⟩
      simpa only [(on_frame_shape l.ctl (.windowUpdateMsg l.ctl.id add)).id] using heard.closed
  | ctlUnlist => exact ⟨heard.begun, heard.closed⟩
  | srvUnlist => exact ⟨heard.begun, fun _ => rfl⟩
  | cutUp frames updates => exact ⟨heard.begun, heard.closed⟩
  | cutDown frames updates => exact ⟨heard.begun, heard.closed⟩

-- A link that runs as the channel does in its tunnel, and keeps what every link keeps.
structure Tracks (t : Tunnel) (c : Channel) (l : Link) : Prop where
  ctl : l.ctl = c
  srv : l.srv ∈ t.srv.channels ∧ l.srv.phase ≠ .unborn ∨ l.srv.phase = .unborn ∧ c.id ∉ t.srv.channels.map Channel.id
  up : Carries l.up c.id (decide (t.ctl.loop = .running)) t.onWayUp t.ctl.dataQueue t.ctl.controlQueue
  down : Carries l.down c.id (decide (t.srv.loop = .running)) t.onWayDown t.srv.tx t.srv.tx
  inv : LinkInv l
  heard : Heard l

-- Every id either end has to do with is one the controller has handed out.
structure Known (t : Tunnel) : Prop where
  distinct : (t.ctl.channels.map Channel.id).Nodup
  apart : (t.srv.channels.map Channel.id).Nodup
  srv : t.srv.channels.map Channel.id ⊆ t.ctl.channels.map Channel.id
  up : ∀ frame ∈ t.onWayUp ++ t.ctl.dataQueue ++ t.ctl.controlQueue, frame.channelId ∈ t.ctl.channels.map Channel.id
  down : ∀ frame ∈ t.onWayDown ++ t.srv.tx, frame.channelId ∈ t.ctl.channels.map Channel.id

theorem on_way_next (sent rest : List Frame) (seen : Nat) (frame : Frame) (queued : sent.drop seen = frame :: rest) :
    sent.drop (seen + 1) = rest ∧ seen + 1 ≤ sent.length := by
  refine ⟨by rw [← List.tail_drop, queued, List.tail_cons], ?_⟩
  have longer := congrArg List.length queued
  simp only [List.length_drop, List.length_cons] at longer
  omega

theorem on_way_sent (sent : List Frame) (seen : Nat) (frame : Frame) (within : seen ≤ sent.length) :
    (sent ++ [frame]).drop seen = sent.drop seen ++ [frame] := List.drop_append_of_le_length within

-- A step of the controller's end only queues frames of channels it has.
theorem handle_up_known (t : Tunnel) (act : HandleAct) (next : TunnelHandle) (within : t.upSeen ≤ t.ctl.sent.length)
    (up : ∀ frame ∈ t.onWayUp ++ t.ctl.dataQueue ++ t.ctl.controlQueue, frame.channelId ∈ t.ctl.channels.map Channel.id)
    (step : HandleStep t.ctl act next) (frame : Frame)
    (member : frame ∈ next.sent.drop t.upSeen ++ next.dataQueue ++ next.controlQueue) :
    frame.channelId ∈ t.ctl.channels.map Channel.id := by
  cases step with
  | task k act c after emitted here allowed step =>
      rw [enqueue_eq] at member
      have own : frame ∈ emitted.toList → frame.channelId ∈ t.ctl.channels.map Channel.id := by
        intro new
        rw [(channel_step_shape c after act emitted step).own frame (Option.mem_toList.mp new)]
        exact List.mem_map_of_mem (List.mem_of_getElem? here)
      simp only [TunnelHandle.settle, List.mem_append, List.mem_filter] at member
      rcases member with (way | old | new) | old | new
      · exact up frame (by simp [Tunnel.onWayUp, way])
      · exact up frame (by simp [old])
      · exact own new.1
      · exact up frame (by simp [old])
      · exact own new.1
  | sentControl first rest serving queued | sentData first rest serving queued =>
      refine up frame ?_
      rw [on_way_sent _ _ _ within] at member
      simp only [List.mem_append, List.mem_singleton] at member
      simp only [Tunnel.onWayUp, queued, List.mem_append, List.mem_cons]
      tauto
  | lostControl first rest serving queued | lostData first rest serving queued =>
      refine up frame ?_
      simp only [List.mem_append] at member
      simp only [Tunnel.onWayUp, queued, List.mem_append, List.mem_cons]
      tauto
  | dropControl here | dropData here =>
      refine up frame ?_
      simp only [List.mem_append, List.not_mem_nil, or_false] at member
      simp only [Tunnel.onWayUp, List.mem_append]
      tauto
  | _ => exact up frame member

section
variable (id : ChannelId) (frames : List Frame)

theorem line_of_ordered : lineOf id (frames.filter Frame.ordered) = lineOf id frames := by
  simp only [lineOf, framesOf, List.filter_filter]
  exact List.filter_congr fun frame _ => by cases frame.ordered <;> simp

theorem line_of_control (control : ∀ frame ∈ frames, frame.ordered = false) : lineOf id frames = [] :=
  List.filter_eq_nil_iff.mpr fun frame member => by simp [control frame (List.mem_of_mem_filter member)]

theorem updates_of_data (data : ∀ frame ∈ frames, frame.ordered = true) : updatesOf id frames = [] := by
  refine List.filterMap_eq_nil_iff.mpr fun frame member => ?_
  have ordered := data frame (List.mem_of_mem_filter member)
  cases frame <;> first | rfl | cases ordered

theorem updates_of_control : updatesOf id (frames.filter (fun frame => !frame.ordered)) = updatesOf id frames := by
  induction frames with
  | nil => rfl
  | cons frame rest ih =>
      have split : ∀ tail, updatesOf id (frame :: tail) = updatesOf id [frame] ++ updatesOf id tail :=
        fun tail => updates_of_append id [frame] tail
      cases ordered : frame.ordered with
      | true =>
          have silent := updates_of_data id [frame] (by simpa using ordered)
          rw [split, silent, List.nil_append, List.filter_cons_of_neg (by simp [ordered]), ih]
      | false => rw [List.filter_cons_of_pos (by simp [ordered]), split, split rest, ih]

end

-- A task's move leaves the other channels of its map alone, the ids being apart.
theorem settled_mem (channels : List Channel) (k : Nat) (c next : Channel) (act : Act)
    (distinct : (channels.map Channel.id).Nodup) (here : channels[k]? = some c) (same : next.id = c.id)
    (gone : act = .remove → next.listed = false) (d : Channel) (member : d ∈ settled channels k next act) :
    d = next ∨ d ∈ channels ∧ d.id ≠ c.id := by
  have placed : ∀ b ∈ channels.set k next, b = next ∨ b ∈ channels ∧ b.id ≠ c.id := by
    intro b inside
    obtain ⟨j, at_j⟩ := List.getElem?_of_mem inside
    by_cases other : j = k
    · subst other
      rw [List.getElem?_set_self (List.getElem?_eq_some_iff.mp here).1] at at_j
      exact .inl (Option.some.inj at_j).symm
    · rw [List.getElem?_set_ne (Ne.symm other)] at at_j
      exact .inr ⟨List.mem_of_getElem? at_j, index_apart channels distinct j k b c at_j here other⟩
  cases act with
  | remove =>
      obtain ⟨b, inside, rfl⟩ := List.mem_map.mp member
      rcases placed b inside with rfl | ⟨old, other⟩
      · left
        simp [Channel.unlist, ← gone rfl]
      · rw [if_neg (by rwa [same])]
        exact .inr ⟨old, other⟩
  | _ => exact placed d member

theorem remove_unlists (c next : Channel) (frame : Option Frame) (act : Act) (step : ChannelStep c act next frame)
    (removes : act = .remove) : next.listed = false := by
  subst removes
  cases step with
  | remove here => rfl

theorem carries_apart (w : Wire) (id other : ChannelId) (serving : Bool) (onWay data control : List Frame) (frame : Option Frame)
    (own : ∀ emitted, frame = some emitted → emitted.channelId = other) (different : other ≠ id)
    (carries : Carries w id serving onWay data control) (more replies : List Frame)
    (part : more ⊆ frame.toList) (share : replies ⊆ frame.toList) :
    Carries w id serving onWay (data ++ more) (control ++ replies) := by
  have none : ∀ frames, frames ⊆ frame.toList → framesOf id frames = [] := by
    intro frames inside
    refine frames_of_none id frames fun emitted member => ?_
    rw [own emitted (Option.mem_toList.mp (inside member))]
    exact different
  refine carries_same w id serving onWay data control onWay _ _ carries ?_ ?_
  · cases serving <;> simp [lineOf, frames_of_append, none more part]
  · cases serving <;> simp [updatesOf, frames_of_append, none replies share]

structure TunnelInv (t : Tunnel) : Prop where
  numbered : Numbered t.ctl
  queues : HandleQueues t.ctl
  upSeen : t.upSeen ≤ t.ctl.sent.length
  downSeen : t.downSeen ≤ t.srv.sent.length
  known : Known t
  tracked : ∀ c ∈ t.ctl.channels, ∃ l, Tracks t c l

theorem link_inv_step (l next : Link) (act : LinkAct) (inv : LinkInv l) (step : LinkStep l act next) : LinkInv next :=
  ⟨wired_step _ _ _ inv.wired step, carried_step _ _ _ inv.wired inv.carried step,
    balanced_step _ _ _ inv.wired inv.balanced step⟩

theorem link_inv_start (id : ChannelId) (host : String) (port : Int) (prebuf : Bytes) :
    LinkInv (Link.start id host port prebuf) :=
  ⟨wired_start id host port prebuf, carried_start id host port prebuf, balanced_start id host port prebuf⟩

theorem tracks_next (t : Tunnel) (c : Channel) (l next : Link) (act : LinkAct) (kept : LinkInv l) (heard : Heard l)
    (moved : LinkStep l act next) (ctl : next.ctl = c)
    (srv : next.srv ∈ t.srv.channels ∧ next.srv.phase ≠ .unborn ∨
      next.srv.phase = .unborn ∧ c.id ∉ t.srv.channels.map Channel.id)
    (up : Carries next.up c.id (decide (t.ctl.loop = .running)) t.onWayUp t.ctl.dataQueue t.ctl.controlQueue)
    (down : Carries next.down c.id (decide (t.srv.loop = .running)) t.onWayDown t.srv.tx t.srv.tx) : ∃ l, Tracks t c l :=
  ⟨next, ctl, srv, up, down, link_inv_step l next act kept moved, heard_step l next act kept.wired heard moved⟩

-- A channel may be admitted while a loop is already on its way out.
def Link.startIn (id : ChannelId) (host : String) (port : Int) (prebuf : Bytes) (upCut downCut : Bool) : Link :=
  { Link.start id host port prebuf with up := ⟨[], [], upCut, []⟩, down := ⟨[], [], downCut, []⟩ }

theorem start_in_inv (id : ChannelId) (host : String) (port : Int) (prebuf : Bytes) (upCut downCut : Bool) :
    LinkInv (Link.startIn id host port prebuf upCut downCut) := by
  have start := link_inv_start id host port prebuf
  have half : LinkInv (Link.startIn id host port prebuf upCut false) := by
    cases upCut with
    | false => exact start
    | true => exact link_inv_step _ _ _ start (.cutUp 0 0)
  cases downCut with
  | false => exact half
  | true => exact link_inv_step _ _ _ half (.cutDown 0 0)

theorem tracks_new (t : Tunnel) (id : ChannelId) (host : String) (port : Int) (prebuf : Bytes) (known : Known t)
    (fresh : id ∉ t.ctl.channels.map Channel.id) : ∃ l, Tracks t (Channel.controller id host port prebuf) l := by
  have silent : ∀ frames : List Frame, (∀ frame ∈ frames, frame.channelId ∈ t.ctl.channels.map Channel.id) →
      framesOf id frames = [] := by
    intro frames all
    exact frames_of_none id frames fun frame member same => fresh (same ▸ all frame member)
  refine ⟨Link.startIn id host port prebuf (!decide (t.ctl.loop = .running)) (!decide (t.srv.loop = .running)), rfl,
    .inr ⟨rfl, fun member => fresh (known.srv member)⟩, carries_silent _ _ _ _ _ ?_ ?_ ?_, carries_silent _ _ _ _ _ ?_ ?_ ?_,
    start_in_inv _ _ _ _ _ _, ⟨fun _ => ⟨rfl, rfl⟩, fun closed => nomatch closed⟩⟩
  · exact silent _ fun frame member => known.up frame (by simp [member])
  · exact silent _ fun frame member => known.up frame (by simp [member])
  · exact silent _ fun frame member => known.up frame (by simp [member])
  · exact silent _ fun frame member => known.down frame (by simp [member])
  · exact silent _ fun frame member => known.down frame (by simp [member])
  · exact silent _ fun frame member => known.down frame (by simp [member])

-- The controller's task moves, and the link with it.
theorem tracks_task (t : Tunnel) (inv : TunnelInv t) (k : Nat) (act : Act) (c after : Channel) (frame : Option Frame)
    (here : t.ctl.channels[k]? = some c) (step : ChannelStep c act after frame) (d : Channel)
    (member : d ∈ settled t.ctl.channels k after act) :
    ∃ l, Tracks { t with ctl := (t.ctl.settle k after act).enqueue frame } d l := by
  have shape := channel_step_shape c after act frame step
  rw [enqueue_eq]
  rcases settled_mem _ k c after act inv.known.distinct here shape.id (remove_unlists c after frame act step) d member with
    rfl | ⟨old, other⟩
  · obtain ⟨l, ctl, srv, up, down, kept, heard⟩ := inv.tracked c (List.mem_of_getElem? here)
    subst ctl
    have moved := LinkStep.ctl act d frame step
    refine ⟨_, rfl, ?_, ?_, ?_, link_inv_step l _ _ kept moved, heard_step l _ _ kept.wired heard moved⟩
    · simpa only [shape.id] using srv
    · rw [shape.id]
      refine carries_emit _ _ _ _ _ _ _ _ frame shape.own up ?_ ?_
      · rw [line_of_append, line_of_ordered]
        rfl
      · rw [updates_of_append, updates_of_control]
        rfl
    · rw [shape.id]
      exact down
  · obtain ⟨l, ctl, srv, up, down, kept, heard⟩ := inv.tracked d old
    refine ⟨l, ctl, srv, ?_, down, kept, heard⟩
    exact carries_apart _ _ _ _ _ _ _ frame shape.own (Ne.symm other) up _ _ (fun _ => List.mem_of_mem_filter)
      (fun _ => List.mem_of_mem_filter)

section
variable (t : Tunnel) (next : TunnelHandle) (c : Channel) (l : Link)

-- A step that leaves every channel as it is and only moves frames along.
theorem tracks_moved (tracks : Tracks t c l)
    (up : Carries l.up c.id (decide (next.loop = .running)) (next.sent.drop t.upSeen) next.dataQueue next.controlQueue) :
    Tracks { t with ctl := next } c l :=
  { tracks with up := up }

-- The loop ends: what its queues hold is lost to every channel.
theorem tracks_broken (tracks : Tracks t c l) (serving : t.ctl.loop = .running) (ended : next.loop ≠ .running) (sent : next.sent = t.ctl.sent) :
    ∃ l, Tracks { t with ctl := next } c l := by
  have up := tracks.up
  simp only [serving, decide_true] at up
  have moved := LinkStep.cutUp (l := l) (lineOf c.id t.onWayUp).length (updatesOf c.id t.onWayUp).length
  refine ⟨{ l with up := l.up.truncate (lineOf c.id t.onWayUp).length (updatesOf c.id t.onWayUp).length }, tracks.ctl, tracks.srv,
    ?_, tracks.down, link_inv_step l _ _ tracks.inv moved, heard_step l _ _ tracks.inv.wired tracks.heard moved⟩
  simp only [ended, decide_false, Tunnel.onWayUp, sent]
  exact carries_cut l.up c.id t.onWayUp _ _ _ _ up

end

theorem carries_stopped (w : Wire) (id : ChannelId) (onWay data control later replies : List Frame)
    (carries : Carries w id false onWay data control) : Carries w id false onWay later replies :=
  ⟨carries.frames, carries.updates, carries.cut⟩

theorem ctl_tracked (t : Tunnel) (act : HandleAct) (next : TunnelHandle) (inv : TunnelInv t) (own : act.receives = false)
    (step : HandleStep t.ctl act next) (few : next.channels.length < 2 ^ 32) (c : Channel) (member : c ∈ next.channels) :
    ∃ l, Tracks { t with ctl := next } c l := by
  have stopped : ∀ later : TunnelHandle, t.ctl.loop ≠ .running → later.loop ≠ .running → later.sent = t.ctl.sent →
      c ∈ t.ctl.channels → ∃ l, Tracks { t with ctl := later } c l := by
    intro later before after sent old
    obtain ⟨l, tracks⟩ := inv.tracked c old
    have up := tracks.up
    simp only [before, decide_false] at up
    refine ⟨l, tracks_moved t later c l tracks ?_⟩
    simp only [after, decide_false, sent]
    exact carries_stopped _ _ _ _ _ _ _ up
  cases step with
  | openCheck alive | openFull host port prebuf called full =>
      obtain ⟨l, tracks⟩ := inv.tracked c member
      exact ⟨l, tracks_moved t _ c l tracks tracks.up⟩
  | openInsert host port prebuf called room id free =>
      rcases List.mem_append.mp member with old | new
      · obtain ⟨l, tracks⟩ := inv.tracked c old
        exact ⟨l, tracks_moved t _ c l tracks tracks.up⟩
      · obtain rfl := List.mem_singleton.mp new
        have below : t.ctl.channels.length < 2 ^ 32 := by
          rw [List.length_append] at few
          exact Nat.lt_of_succ_lt few
        have fresh := numbered_fresh t.ctl inv.numbered below
        rw [free_id_next _ _ _ fun live => fresh (live_ids_subset _ live)] at free
        obtain ⟨l, tracks⟩ := tracks_new t id host port prebuf inv.known (free ▸ fresh)
        exact ⟨l, tracks_moved t _ _ l tracks tracks.up⟩
  | task k act before after frame here allowed step =>
      rw [enqueue_eq] at member
      exact tracks_task t inv k act before after frame here step c member
  | sentControl frame rest serving queued =>
      obtain ⟨l, tracks⟩ := inv.tracked c member
      have control : Frame.ordered frame = false := inv.queues.control frame (by simp [queued])
      have silent : lineOf c.id (frame :: t.ctl.dataQueue) = lineOf c.id t.ctl.dataQueue := by
        rw [← List.singleton_append, line_of_append, line_of_control c.id [frame] (by simpa using control), List.nil_append]
      refine ⟨l, tracks_moved t _ c l tracks (carries_same _ _ _ _ _ _ _ _ _ tracks.up ?_ ?_)⟩
      · simp [serving, on_way_sent _ _ _ inv.upSeen, line_of_append, silent, Tunnel.onWayUp]
      · simp [serving, on_way_sent _ _ _ inv.upSeen, queued, Tunnel.onWayUp]
  | sentData frame rest serving queued =>
      obtain ⟨l, tracks⟩ := inv.tracked c member
      have data : Frame.ordered frame = true := inv.queues.data frame (by simp [queued])
      have silent : updatesOf c.id (frame :: t.ctl.controlQueue) = updatesOf c.id t.ctl.controlQueue := by
        rw [← List.singleton_append, updates_of_append, updates_of_data c.id [frame] (by simpa using data), List.nil_append]
      refine ⟨l, tracks_moved t _ c l tracks (carries_same _ _ _ _ _ _ _ _ _ tracks.up ?_ ?_)⟩
      · simp [serving, on_way_sent _ _ _ inv.upSeen, queued, Tunnel.onWayUp]
      · simp [serving, on_way_sent _ _ _ inv.upSeen, updates_of_append, silent, Tunnel.onWayUp]
  | lostControl frame rest serving queued | lostData frame rest serving queued | breakLoop serving =>
      obtain ⟨l, tracks⟩ := inv.tracked c member
      exact tracks_broken t _ c l tracks serving (by simp) rfl
  | receive frame now serving => cases own
  | clear here =>
      obtain ⟨before, old, rfl⟩ := List.mem_map.mp member
      obtain ⟨l, ctl, srv, up, down, kept, heard⟩ := inv.tracked before old
      subst ctl
      have moved := LinkStep.ctlUnlist (l := l)
      refine ⟨{ l with ctl := l.ctl.unlist }, rfl, srv, ?_, down, link_inv_step l _ _ kept moved,
        heard_step l _ _ kept.wired heard moved⟩
      rw [here] at up
      exact up
  | raiseTeardown here => exact stopped _ (by simp [here]) (by simp) rfl member
  | unset here => exact stopped _ (by simp [here]) (by simp) rfl member
  | dropControl here => exact stopped _ (by simp [here]) (by simp) rfl member
  | dropData here => exact stopped _ (by simp [here]) (by simp) rfl member

theorem same_id_eq (channels : List Channel) (distinct : (channels.map Channel.id).Nodup) (a b : Channel) (left : a ∈ channels)
    (right : b ∈ channels) (same : a.id = b.id) : a = b := by
  obtain ⟨j, at_j⟩ := List.getElem?_of_mem left
  obtain ⟨k, at_k⟩ := List.getElem?_of_mem right
  by_cases index : j = k
  · subst index
    exact Option.some.inj (at_j.symm.trans at_k)
  · exact absurd same (index_apart channels distinct j k a b at_j at_k index)

theorem set_mem_other (channels : List Channel) (k : Nat) (c next b : Channel) (here : channels[k]? = some c)
    (member : b ∈ channels) (other : b.id ≠ c.id) : b ∈ channels.set k next := by
  obtain ⟨j, at_j⟩ := List.getElem?_of_mem member
  have apart : k ≠ j := by
    rintro rfl
    exact other (congrArg Channel.id (Option.some.inj (at_j.symm.trans here)))
  exact List.mem_of_getElem? (by rw [List.getElem?_set_ne apart, at_j])

theorem srv_tracked_task (t : Tunnel) (inv : TunnelInv t) (k : Nat) (act : Act) (s after : Channel) (frame : Option Frame)
    (here : t.srv.channels[k]? = some s) (step : ChannelStep s act after frame) (c : Channel) (member : c ∈ t.ctl.channels) :
    ∃ l, Tracks { t with srv := { t.srv with channels := t.srv.channels.set k after }.enqueue frame } c l := by
  have shape := channel_step_shape s after act frame step
  have ids := (moved_set t.srv.channels k s after here shape.id).ids
  have inside := List.mem_of_getElem? here
  obtain ⟨l, ctl, srv, up, down, kept, heard⟩ := inv.tracked c member
  have sameId : l.srv.id = c.id := ctl ▸ kept.wired.sameId
  by_cases mine : s.id = c.id
  · rcases srv with ⟨present, _⟩ | ⟨_, absent⟩
    · obtain rfl := same_id_eq t.srv.channels inv.known.apart l.srv s present inside (sameId.trans mine.symm)
      have moved := LinkStep.srv act after frame step
      refine ⟨{ l with srv := after, down := l.down.emit frame }, ctl, .inl ⟨?_, (step_born _ _ _ _ step).2⟩, up, ?_,
        link_inv_step l _ _ kept moved, heard_step l _ _ kept.wired heard moved⟩
      · exact List.mem_of_getElem? (List.getElem?_set_self (List.getElem?_eq_some_iff.mp here).1)
      · refine carries_emit _ _ _ _ _ _ _ _ frame (fun emitted same => (shape.own emitted same).trans mine) down ?_ ?_
        · exact line_of_append _ _ _
        · exact updates_of_append _ _ _
    · exact absurd (mine ▸ List.mem_map_of_mem inside) absent
  · refine ⟨l, ctl, ?_, up, ?_, kept, heard⟩
    · rcases srv with ⟨present, born⟩ | ⟨unborn, absent⟩
      · exact .inl ⟨set_mem_other _ k s after l.srv here present (by rw [sameId]; exact Ne.symm mine), born⟩
      · exact .inr ⟨unborn, by simpa only [PortForwardMux.enqueue, ids] using absent⟩
    · exact carries_apart _ _ _ _ _ _ _ frame shape.own mine down _ _ (List.Subset.refl _) (List.Subset.refl _)

theorem srv_tracked_broken (t : Tunnel) (next : PortForwardMux) (c : Channel) (l : Link) (tracks : Tracks t c l)
    (serving : t.srv.loop = .running) (ended : next.loop ≠ .running) (sent : next.sent = t.srv.sent)
    (channels : next.channels = t.srv.channels) : ∃ l, Tracks { t with srv := next } c l := by
  have down := tracks.down
  simp only [serving, decide_true] at down
  have moved := LinkStep.cutDown (l := l) (lineOf c.id t.onWayDown).length (updatesOf c.id t.onWayDown).length
  refine ⟨{ l with down := l.down.truncate (lineOf c.id t.onWayDown).length (updatesOf c.id t.onWayDown).length }, tracks.ctl,
    by simpa only [channels] using tracks.srv, tracks.up, ?_, link_inv_step l _ _ tracks.inv moved,
    heard_step l _ _ tracks.inv.wired tracks.heard moved⟩
  simp only [ended, decide_false, Tunnel.onWayDown, sent]
  exact carries_cut l.down c.id t.onWayDown _ _ _ _ down

-- Whatever the demultiplexer's map loses, the links lose with it.
theorem srv_tracked_unlist (l : Link) (channels : List Channel) (gone : Channel → Bool) (id : ChannelId)
    (srv : l.srv ∈ channels ∧ l.srv.phase ≠ .unborn ∨ l.srv.phase = .unborn ∧ id ∉ channels.map Channel.id)
    (kept : LinkInv l) (heard : Heard l) :
    ∃ after : Channel, after.id = l.srv.id ∧ LinkInv { l with srv := after } ∧ Heard { l with srv := after } ∧
      (after ∈ channels.map (fun c => if gone c then c.unlist else c) ∧ after.phase ≠ .unborn ∨
        after.phase = .unborn ∧ id ∉ (channels.map (fun c => if gone c then c.unlist else c)).map Channel.id) := by
  have ids : (channels.map (fun c => if gone c then c.unlist else c)).map Channel.id = channels.map Channel.id := by
    rw [List.map_map]
    refine List.map_congr_left fun c _ => ?_
    cases dead : gone c <;> simp [dead, Channel.unlist]
  rcases srv with ⟨present, born⟩ | ⟨unborn, absent⟩
  · have moved := LinkStep.srvUnlist (l := l)
    cases dead : gone l.srv with
    | true =>
        refine ⟨l.srv.unlist, rfl, link_inv_step l _ _ kept moved, heard_step l _ _ kept.wired heard moved, .inl ⟨?_, born⟩⟩
        exact List.mem_map.mpr ⟨l.srv, present, by simp [dead]⟩
    | false =>
        refine ⟨l.srv, rfl, kept, heard, .inl ⟨?_, born⟩⟩
        exact List.mem_map.mpr ⟨l.srv, present, by simp [dead]⟩
  · exact ⟨l.srv, rfl, kept, heard, .inr ⟨unborn, by rwa [ids]⟩⟩

theorem srv_tracked (t : Tunnel) (act : MuxAct) (next : PortForwardMux) (inv : TunnelInv t) (own : act.handles = false)
    (step : MuxStep t.srv act next) (c : Channel) (member : c ∈ t.ctl.channels) : ∃ l, Tracks { t with srv := next } c l := by
  obtain ⟨l, tracks⟩ := inv.tracked c member
  cases step with
  | handle frame permitted next serving handled => cases own
  | task k act s after frame here allowed step => exact srv_tracked_task t inv k act s after frame here step c member
  | sentFrame frame rest serving queued =>
      refine ⟨l, tracks.ctl, tracks.srv, tracks.up, carries_same _ _ _ _ _ _ _ _ _ tracks.down ?_ ?_, tracks.inv, tracks.heard⟩
      · simp [serving, Tunnel.onWayDown, on_way_sent _ _ _ inv.downSeen, queued]
      · simp [serving, Tunnel.onWayDown, on_way_sent _ _ _ inv.downSeen, queued]
  | lostFrame frame rest serving queued => exact srv_tracked_broken t _ c l tracks serving (by simp) rfl rfl
  | breakLoop serving => exact srv_tracked_broken t _ c l tracks serving (by simp) rfl rfl
  | clear here =>
      obtain ⟨after, same, kept, heard, srv⟩ := srv_tracked_unlist l _ (fun _ => true) c.id tracks.srv tracks.inv tracks.heard
      have down := tracks.down
      rw [here] at down
      exact ⟨{ l with srv := after }, tracks.ctl, by simpa using srv, tracks.up, down, kept, heard⟩
  | raiseTeardown here =>
      have down := tracks.down
      rw [here] at down
      exact ⟨l, tracks.ctl, tracks.srv, tracks.up, down, tracks.inv, tracks.heard⟩
  | dropTx here =>
      have down := tracks.down
      rw [here] at down
      exact ⟨l, tracks.ctl, tracks.srv, tracks.up, carries_stopped _ _ _ _ _ _ _ down, tracks.inv, tracks.heard⟩

theorem on_frame_other (c : Channel) (frame : Frame) (foreign : frame.channelId ≠ c.id) : c.onFrame frame = c := by
  simp [Channel.onFrame, Channel.holds, Ne.symm foreign]

theorem control_frame (frame : Frame) (control : frame.ordered = false) :
    ∃ add, frame = .windowUpdateMsg frame.channelId add := by
  cases frame with
  | windowUpdateMsg id add => exact ⟨add, rfl⟩
  | _ => cases control

-- The tunnel loop hands a frame to its channel; every other link stands still.
theorem down_tracked (t : Tunnel) (inv : TunnelInv t) (now : Nat) (frame : Frame) (rest : List Frame)
    (queued : t.onWayDown = frame :: rest) (c : Channel) (member : c ∈ (t.ctl.onFrame frame now).channels) :
    ∃ l, Tracks { t with ctl := t.ctl.onFrame frame now, downSeen := t.downSeen + 1 } c l := by
  obtain ⟨before, old, rfl⟩ := List.mem_map.mp member
  obtain ⟨l, ctl, srv, up, down, kept, heard⟩ := inv.tracked before old
  have way := (on_way_next _ _ _ _ queued).1
  rw [queued] at down
  subst ctl
  by_cases mine : frame.channelId = l.ctl.id
  · have shape := on_frame_shape l.ctl frame
    have arrived : ∀ (next : Link) (act : LinkAct), LinkStep l act next → next.ctl = l.ctl.onFrame frame → next.srv = l.srv →
        next.up = l.up → Carries next.down l.ctl.id (decide (t.srv.loop = .running)) rest t.srv.tx t.srv.tx →
        Tracks { t with ctl := t.ctl.onFrame frame now, downSeen := t.downSeen + 1 } (l.ctl.onFrame frame) next := by
      intro next act moved here same still carried
      refine ⟨here, ?_, ?_, ?_, link_inv_step l _ _ kept moved, heard_step l _ _ kept.wired heard moved⟩
      · simpa only [shape.id, same] using srv
      · rw [shape.id, still]
        exact up
      · simpa only [shape.id, Tunnel.onWayDown, way] using carried
    cases ordered : frame.ordered with
    | true =>
        obtain ⟨frames, first, carried⟩ := carries_deliver _ _ _ _ _ _ frame down mine ordered
        exact ⟨_, arrived _ _ (.downFrame frame frames first) rfl rfl rfl carried⟩
    | false =>
        obtain ⟨add, update⟩ := control_frame frame ordered
        rw [mine] at update
        subst update
        obtain ⟨updates, first, carried⟩ := carries_deliver_update _ _ _ _ _ _ add down
        exact ⟨_, arrived _ _ (.downUpdate add updates first) rfl rfl rfl carried⟩
  · rw [on_frame_other l.ctl frame mine]
    refine ⟨l, rfl, srv, up, ?_, kept, heard⟩
    simpa only [Tunnel.onWayDown, way] using carries_other _ _ _ _ _ _ frame down mine

-- A controller says `open` once, before anything else.
theorem controller_opens_first (id other : ChannelId) (frames first later : List Frame) (host : String) (port : Int) (window : Nat)
    (spoken : Spoken id .controller frames)
    (same : frames.filter Frame.ordered = first ++ .openMsg other host port window :: later) : first = [] := by
  have opening : ∀ front : List Frame, Flow id .controller front → ∀ back : List Frame,
      (∀ a b c d, Frame.openMsg a b c d ∉ back) →
      (front ++ back).filter Frame.ordered = first ++ .openMsg other host port window :: later → first = [] := by
    intro front flow back none same
    cases flow with
    | opening host port body flows =>
        cases first with
        | nil => rfl
        | cons head tail =>
            simp only [List.cons_append, List.filter_cons, Frame.ordered, if_true] at same
            have inside : Frame.openMsg other _ _ window ∈ body ++ back :=
              List.mem_of_mem_filter ((List.cons.inj same).2 ▸ List.mem_append_right tail (List.mem_cons_self ..))
            rcases List.mem_append.mp inside with spoken | after
            · rcases flows _ spoken with ⟨data, impossible⟩ | ⟨add, impossible⟩ <;> cases impossible
            · exact absurd after (none _ _ _ _)
  cases spoken with
  | silent => simp at same
  | flowing _ _ flow => exact opening frames flow [] (by simp) (by simpa using same)
  | closed _ front flow => exact opening front flow _ (by simp) same

theorem link_opens (l : Link) (kept : LinkInv l) (heard : Heard l) (id : ChannelId) (host : String) (port : Int) (window : Nat)
    (rest : List Frame) (queued : l.up.frames = .openMsg id host port window :: rest) :
    l.srv.phase = .unborn ∧ l.refusal = none := by
  obtain ⟨tail, same, _⟩ := kept.wired.up
  have spoken := legal_spoken l.ctl kept.wired.ctl.legal
  rw [kept.wired.ctlSide] at spoken
  rw [queued, List.append_assoc] at same
  exact heard.begun (controller_opens_first l.ctl.id id l.ctl.out l.up.done (rest ++ tail) host port window spoken same)

theorem open_fresh (t : Tunnel) (inv : TunnelInv t) (id : ChannelId) (host : String) (port : Int) (window : Nat) (rest : List Frame)
    (queued : t.onWayUp = .openMsg id host port window :: rest) : id ∉ t.srv.channels.map Channel.id := by
  obtain ⟨c, member, same⟩ := List.mem_map.mp (inv.known.up (.openMsg id host port window) (by simp [queued]))
  obtain ⟨l, ctl, srv, up, down, kept, heard⟩ := inv.tracked c member
  rw [queued] at up
  obtain ⟨frames, first, _⟩ := carries_deliver _ _ _ _ _ _ _ up same.symm rfl
  have unborn := (link_opens l kept heard id host port window frames first).1
  rcases srv with ⟨_, born⟩ | ⟨_, absent⟩
  · exact absurd unborn born
  · exact fun present => absent (same ▸ present)

theorem retain_eq (channels : List Channel) : retain channels = channels.map (fun c => if !c.receiving then c.unlist else c) := by
  refine List.map_congr_left fun c _ => ?_
  cases alive : c.receiving <;> simp

theorem retain_ids (channels : List Channel) : (retain channels).map Channel.id = channels.map Channel.id := by
  simp only [retain, List.map_map]
  exact List.map_congr_left fun c _ => (retain_shape c).id

theorem contains_key_mem (channels : List Channel) (id : ChannelId) (live : containsKey channels id = true) :
    id ∈ channels.map Channel.id := by
  obtain ⟨c, member, holds⟩ := List.any_eq_true.mp live
  have same : c.id = id := by simpa using (Bool.and_eq_true_iff.mp holds).2
  exact same ▸ List.mem_map_of_mem member

-- A frame that is not an `open` reaches the channel it is for, and no other.
theorem routed_tracked (t : Tunnel) (inv : TunnelInv t) (frame : Frame) (rest : List Frame) (queued : t.onWayUp = frame :: rest)
    (other : ∀ id host port window, frame ≠ .openMsg id host port window) (c : Channel) (member : c ∈ t.ctl.channels) :
    ∃ l, Tracks { t with srv := { t.srv with channels := t.srv.channels.map (fun c => c.onFrame frame) },
                         upSeen := t.upSeen + 1 } c l := by
  obtain ⟨l, ctl, srv, up, down, kept, heard⟩ := inv.tracked c member
  have way := (on_way_next _ _ _ _ queued).1
  have sameId : l.srv.id = c.id := ctl ▸ kept.wired.sameId
  have ids : (t.srv.channels.map (fun c => c.onFrame frame)).map Channel.id = t.srv.channels.map Channel.id := by
    rw [List.map_map]
    exact List.map_congr_left fun c _ => (on_frame_shape c frame).id
  have shape := on_frame_shape l.srv frame
  have routed : l.srv.onFrame frame ∈ t.srv.channels.map (fun c => c.onFrame frame) ∧ (l.srv.onFrame frame).phase ≠ .unborn ∨
      (l.srv.onFrame frame).phase = .unborn ∧ c.id ∉ (t.srv.channels.map (fun c => c.onFrame frame)).map Channel.id := by
    rcases srv with ⟨present, born⟩ | ⟨unborn, absent⟩
    · exact .inl ⟨List.mem_map.mpr ⟨l.srv, present, rfl⟩, by rwa [shape.phase]⟩
    · exact .inr ⟨by rwa [shape.phase], by rwa [ids]⟩
  rw [queued] at up
  by_cases mine : frame.channelId = c.id
  · cases ordered : frame.ordered with
    | true =>
        obtain ⟨frames, first, carried⟩ := carries_deliver _ _ _ _ _ _ frame up mine ordered
        have moved := LinkStep.upFrame (.accept "" false) frame frames first other
        refine tracks_next _ _ l _ _ kept heard moved ctl routed ?_ down
        simpa only [Tunnel.onWayUp, way] using carried
    | false =>
        obtain ⟨add, update⟩ := control_frame frame ordered
        rw [mine] at update
        subst update
        obtain ⟨updates, first, carried⟩ := carries_deliver_update _ _ _ _ _ _ add up
        have moved := LinkStep.upUpdate add updates first
        rw [ctl] at moved
        refine tracks_next _ _ l _ _ kept heard moved rfl routed ?_ down
        simpa only [Tunnel.onWayUp, way] using carried
  · rw [on_frame_other l.srv frame (by rwa [sameId])] at routed
    refine ⟨l, ctl, routed, ?_, down, kept, heard⟩
    simpa only [Tunnel.onWayUp, way] using carries_other _ _ _ _ _ _ frame up mine

-- An `open` starts or turns away the channel it is for. The sweep before it is all that
-- shows elsewhere.
theorem opened_tracked (t : Tunnel) (inv : TunnelInv t) (id : ChannelId) (host : String) (port : Int) (window : Nat)
    (permitted : Bool) (rest : List Frame) (next : PortForwardMux)
    (queued : t.onWayUp = .openMsg id host port window :: rest)
    (handled : Handled t.srv (.openMsg id host port window) permitted next) (c : Channel) (member : c ∈ t.ctl.channels) :
    ∃ l, Tracks { t with srv := next, upSeen := t.upSeen + 1 } c l := by
  obtain ⟨l, ctl, srv, up, down, kept, heard⟩ := inv.tracked c member
  have way := (on_way_next _ _ _ _ queued).1
  have fresh := open_fresh t inv id host port window rest queued
  rw [queued] at up
  by_cases mine : id = c.id
  · obtain ⟨frames, first, carried⟩ := carries_deliver _ _ _ _ _ _ _ up mine rfl
    obtain ⟨unborn, pending⟩ := link_opens l kept heard id host port window frames first
    have arrived : Carries { l.up with frames := frames, done := l.up.done ++ [.openMsg id host port window] } c.id
        (decide (t.ctl.loop = .running)) (t.ctl.sent.drop (t.upSeen + 1)) t.ctl.dataQueue t.ctl.controlQueue := by
      rw [way]
      exact carried
    cases handled with
    | refused id' host' port' window' message opening cause =>
        injection opening with sameId
        subst sameId
        have replied : Carries (l.down.emit (some (.openedMsg id false message 0))) c.id (decide (t.srv.loop = .running)) t.onWayDown
            (t.srv.tx ++ [.openedMsg id false message 0]) (t.srv.tx ++ [.openedMsg id false message 0]) := by
          refine carries_emit _ _ _ _ _ _ _ _ _ (fun emitted same => ?_) down (line_of_append _ _ _) (updates_of_append _ _ _)
          rw [← Option.some.inj same]
          exact mine
        refine tracks_next _ _ l _ _ kept heard (.refused message id host port window frames first unborn pending) ctl
          (.inr ⟨unborn, ?_⟩) arrived replied
        simpa only [PortForwardMux.reply, PortForwardMux.enqueue, retain_ids, ← mine] using fresh
    | ignored id' host' port' window' opening live =>
        injection opening with sameId
        subst sameId
        exact absurd (retain_ids t.srv.channels ▸ contains_key_mem _ id live) fresh
    | accepted id' host' port' window' addr isRdp opening room free target =>
        injection opening with sameId _ _ sameWindow
        subst sameId sameWindow
        refine tracks_next _ _ l _ _ kept heard (.accepted addr isRdp id host port window frames first unborn pending) ctl
          (.inl ⟨?_, by simp [Channel.controlled]⟩) arrived down
        simp
    | routed other => exact absurd rfl (other id host port window)
  · have skipped : Carries l.up c.id (decide (t.ctl.loop = .running)) (t.ctl.sent.drop (t.upSeen + 1)) t.ctl.dataQueue
        t.ctl.controlQueue := by
      rw [way]
      exact carries_other _ _ _ _ _ _ _ up mine
    obtain ⟨after, same, keptAfter, heardAfter, swept⟩ := srv_tracked_unlist l t.srv.channels (fun s => !s.receiving) c.id srv kept heard
    rw [← retain_eq] at swept
    cases handled with
    | refused id' host' port' window' message opening cause =>
        injection opening with sameId
        subst sameId
        refine ⟨{ l with srv := after }, ctl, swept, skipped, ?_, keptAfter, heardAfter⟩
        refine carries_apart _ _ id _ _ _ _ (some (.openedMsg id false message 0)) (fun emitted same => ?_) mine down _ _
          (List.Subset.refl _) (List.Subset.refl _)
        rw [← Option.some.inj same]
        rfl
    | ignored id' host' port' window' opening live =>
        exact ⟨{ l with srv := after }, ctl, swept, skipped, down, keptAfter, heardAfter⟩
    | accepted id' host' port' window' addr isRdp opening room free target =>
        injection opening with sameId
        subst sameId
        refine ⟨{ l with srv := after }, ctl, ?_, skipped, down, keptAfter, heardAfter⟩
        rcases swept with ⟨present, born⟩ | ⟨unborn, absent⟩
        · exact .inl ⟨List.mem_append_left _ present, born⟩
        · refine .inr ⟨unborn, ?_⟩
          simp only [List.map_append, List.mem_append, not_or]
          exact ⟨absent, by simpa [Channel.controlled] using Ne.symm mine⟩
    | routed other => exact absurd rfl (other id host port window)

theorem handle_sent_grows (h next : TunnelHandle) (act : HandleAct) (step : HandleStep h act next) :
    h.sent.length ≤ next.sent.length := by
  cases step with
  | task k act c after frame here allowed step =>
      rw [enqueue_eq]
      exact Nat.le_refl _
  | sentControl frame rest serving queued => simp
  | sentData frame rest serving queued => simp
  | _ => exact Nat.le_refl _

theorem handle_ids_grow (h next : TunnelHandle) (act : HandleAct) (step : HandleStep h act next) :
    h.channels.map Channel.id ⊆ next.channels.map Channel.id := by
  rcases handle_ids h next act step with ⟨ids, _⟩ | ⟨host, port, prebuf, channels, _⟩
  · exact ids ▸ List.Subset.refl _
  · rw [channels, List.map_append]
    exact List.subset_append_left ..

theorem ctl_inv (t : Tunnel) (act : HandleAct) (next : TunnelHandle) (inv : TunnelInv t) (own : act.receives = false)
    (step : HandleStep t.ctl act next) (few : next.channels.length < 2 ^ 32) : TunnelInv { t with ctl := next } := by
  have numbered := numbered_step t.ctl next act inv.numbered step (Nat.le_of_lt few)
  have ids := handle_ids_grow t.ctl next act step
  refine ⟨numbered, queues_step t.ctl next act inv.queues step, Nat.le_trans inv.upSeen (handle_sent_grows _ _ _ step),
    inv.downSeen, ⟨numbered_distinct next numbered (Nat.le_of_lt few), inv.known.apart, fun id member => ids (inv.known.srv member),
      ?_, fun frame member => ids (inv.known.down frame member)⟩, ctl_tracked t act next inv own step few⟩
  exact fun frame member => ids (handle_up_known t act next inv.upSeen inv.known.up step frame member)

theorem srv_inv (t : Tunnel) (act : MuxAct) (next : PortForwardMux) (inv : TunnelInv t) (own : act.handles = false)
    (step : MuxStep t.srv act next) : TunnelInv { t with srv := next } := by
  have known := inv.known
  have same : next.channels.map Channel.id = t.srv.channels.map Channel.id := by
    cases step with
    | handle frame permitted next serving handled => cases own
    | task k act s after frame here allowed step =>
        exact (moved_set t.srv.channels k s after here (channel_step_shape s after act frame step).id).ids
    | clear here =>
        simp only [List.map_map]
        exact List.map_congr_left fun c _ => (unlist_shape c).id
    | _ => rfl
  have grows : t.srv.sent.length ≤ next.sent.length := by
    cases step with
    | handle frame permitted next serving handled => cases own
    | sentFrame frame rest serving queued => simp
    | _ => exact Nat.le_refl _
  have down : ∀ frame ∈ next.sent.drop t.downSeen ++ next.tx, frame.channelId ∈ t.ctl.channels.map Channel.id := by
    intro frame member
    cases step with
    | handle frame permitted next serving handled => cases own
    | task k act s after emitted here allowed step =>
        simp only [PortForwardMux.enqueue, List.mem_append] at member
        rcases member with way | old | new
        · exact known.down frame (by simp [Tunnel.onWayDown, way])
        · exact known.down frame (by simp [old])
        · rw [(channel_step_shape s after act emitted step).own frame (Option.mem_toList.mp new)]
          exact known.srv (List.mem_map_of_mem (List.mem_of_getElem? here))
    | sentFrame first rest serving queued =>
        refine known.down frame ?_
        rw [on_way_sent _ _ _ inv.downSeen] at member
        simpa [Tunnel.onWayDown, queued] using member
    | lostFrame first rest serving queued =>
        refine known.down frame ?_
        rcases List.mem_append.mp member with way | old
        · exact List.mem_append_left _ way
        · exact List.mem_append_right _ (by simp [queued, old])
    | dropTx here => exact known.down frame (List.mem_append_left _ (by simpa [Tunnel.onWayDown] using member))
    | _ => exact known.down frame member
  exact ⟨inv.numbered, inv.queues, inv.upSeen, Nat.le_trans inv.downSeen grows,
    ⟨known.distinct, same ▸ known.apart, same ▸ known.srv, known.up, down⟩, srv_tracked t act next inv own step⟩

theorem deliver_up_inv (t : Tunnel) (permitted : Bool) (frame : Frame) (rest : List Frame) (next : PortForwardMux)
    (inv : TunnelInv t) (queued : t.onWayUp = frame :: rest) (handled : Handled t.srv frame permitted next) :
    TunnelInv { t with srv := next, upSeen := t.upSeen + 1 } := by
  have known := inv.known
  obtain ⟨way, within⟩ := on_way_next _ _ _ _ queued
  have up : ∀ later ∈ t.ctl.sent.drop (t.upSeen + 1) ++ t.ctl.dataQueue ++ t.ctl.controlQueue,
      later.channelId ∈ t.ctl.channels.map Channel.id := by
    intro later member
    refine known.up later ?_
    rw [way] at member
    rw [queued, List.cons_append, List.cons_append]
    exact List.mem_cons_of_mem _ member
  have mine : frame.channelId ∈ t.ctl.channels.map Channel.id := known.up frame (by simp [queued])
  obtain ⟨sent, _, reply, tx, _⟩ := handled_queue t.srv next frame permitted handled
  have tracked : ∀ c ∈ t.ctl.channels, ∃ l, Tracks { t with srv := next, upSeen := t.upSeen + 1 } c l := by
    intro c member
    cases opening : frame with
    | openMsg id host port window =>
        subst opening
        exact opened_tracked t inv id host port window permitted rest next queued handled c member
    | _ =>
        cases handled with
        | routed other => exact routed_tracked t inv frame rest queued other c member
        | refused id host port window message same cause => cases opening.symm.trans same
        | ignored id host port window same live => cases opening.symm.trans same
        | accepted id host port window addr isRdp same room free target => cases opening.symm.trans same
  refine ⟨inv.numbered, inv.queues, within, by simpa only [sent] using inv.downSeen, ?_, tracked⟩
  cases handled with
  | refused id host port window message opening cause =>
      refine ⟨known.distinct, ?_, ?_, up, ?_⟩
      · exact (retain_ids t.srv.channels).symm ▸ known.apart
      · exact (retain_ids t.srv.channels).symm ▸ known.srv
      · intro later member
        simp only [PortForwardMux.reply, PortForwardMux.enqueue, Tunnel.onWayDown, List.mem_append] at member
        rcases member with way | old | new
        · exact known.down later (by simp [Tunnel.onWayDown, way])
        · exact known.down later (by simp [old])
        · have same : later = .openedMsg id false message 0 := by simpa using new
          rw [opening] at mine
          rw [same]
          exact mine
  | ignored id host port window opening live =>
      exact ⟨known.distinct, (retain_ids t.srv.channels).symm ▸ known.apart, (retain_ids t.srv.channels).symm ▸ known.srv, up,
        known.down⟩
  | accepted id host port window addr isRdp opening room free target =>
      subst opening
      have fresh := open_fresh t inv id host port window rest queued
      refine ⟨known.distinct, ?_, ?_, up, known.down⟩
      · rw [List.map_append, retain_ids]
        exact List.nodup_append.mpr ⟨known.apart, List.nodup_singleton _, by
          rintro other old _ new rfl
          have same : other = id := List.mem_singleton.mp new
          exact fresh (same ▸ old)⟩
      · rw [List.map_append, retain_ids]
        exact List.append_subset.mpr ⟨known.srv, by simpa [Channel.controlled, Frame.channelId] using mine⟩
  | routed other =>
      have ids : (t.srv.channels.map (fun c => c.onFrame frame)).map Channel.id = t.srv.channels.map Channel.id := by
        rw [List.map_map]
        exact List.map_congr_left fun c _ => (on_frame_shape c frame).id
      exact ⟨known.distinct, ids.symm ▸ known.apart, ids.symm ▸ known.srv, up, known.down⟩

theorem deliver_down_inv (t : Tunnel) (now : Nat) (frame : Frame) (rest : List Frame) (inv : TunnelInv t)
    (queued : t.onWayDown = frame :: rest) (serving : t.ctl.loop = .running) :
    TunnelInv { t with ctl := t.ctl.onFrame frame now, downSeen := t.downSeen + 1 } := by
  have known := inv.known
  obtain ⟨way, within⟩ := on_way_next _ _ _ _ queued
  have ids : (t.ctl.onFrame frame now).channels.map Channel.id = t.ctl.channels.map Channel.id := by
    simp only [TunnelHandle.onFrame, List.map_map]
    exact List.map_congr_left fun c _ => (on_frame_shape c frame).id
  refine ⟨numbered_same t.ctl _ inv.numbered ids rfl, queues_step t.ctl _ _ inv.queues (.receive frame now serving), inv.upSeen,
    within, ⟨ids.symm ▸ known.distinct, known.apart, ids.symm ▸ known.srv, ids.symm ▸ known.up, ?_⟩,
    down_tracked t inv now frame rest queued⟩
  intro later member
  rw [ids]
  refine known.down later ?_
  simp only [Tunnel.onWayDown, way] at member
  rw [queued, List.cons_append]
  exact List.mem_cons_of_mem _ member

theorem tunnel_inv_step (t next : Tunnel) (act : TunnelAct) (inv : TunnelInv t) (step : TunnelStep t act next)
    (few : next.ctl.channels.length < 2 ^ 32) : TunnelInv next := by
  cases step with
  | ctl act next own step => exact ctl_inv t act next inv own step few
  | srv act next own step => exact srv_inv t act next inv own step
  | deliverUp permitted frame rest next queued serving handled => exact deliver_up_inv t permitted frame rest next inv queued handled
  | deliverDown now frame rest queued serving => exact deliver_down_inv t now frame rest inv queued serving

theorem tunnel_grows (t next : Tunnel) (act : TunnelAct) (step : TunnelStep t act next) :
    t.ctl.channels.length ≤ next.ctl.channels.length := by
  cases step with
  | ctl act next own step => exact handle_grows t.ctl next act step
  | deliverDown now frame rest queued serving => simp [TunnelHandle.onFrame]
  | _ => exact Nat.le_refl _

theorem tunnel_inv_start (loginTarget : String) : TunnelInv (.start loginTarget) :=
  ⟨⟨rfl, rfl⟩, ⟨by simp [Tunnel.start, TunnelHandle.new], by simp [Tunnel.start, TunnelHandle.new], fun _ => rfl, List.prefix_refl _⟩,
    Nat.zero_le _, Nat.zero_le _, ⟨List.nodup_nil, List.nodup_nil, List.nil_subset _, (fun _ member => nomatch member),
      (fun _ member => nomatch member)⟩, fun _ member => nomatch member⟩

-- Before the counter comes round, every channel of a tunnel runs as one channel alone.
theorem tunnel_inv (loginTarget : String) (t : Tunnel) (reach : Machine.Reachable Tunnel.step (.start loginTarget) t)
    (few : t.ctl.channels.length < 2 ^ 32) : TunnelInv t := by
  refine Machine.reachable_invariant Tunnel.step (fun t => t.ctl.channels.length < 2 ^ 32 → TunnelInv t) (.start loginTarget) t
    (fun _ => tunnel_inv_start loginTarget) ?_ reach few
  intro state act next inv taken few
  have step := tunnel_step state next act taken
  exact tunnel_inv_step state next act (inv (Nat.lt_of_le_of_lt (tunnel_grows state next act step) few)) step few

end GotechDesk.PortForward
