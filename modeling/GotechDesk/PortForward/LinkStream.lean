import GotechDesk.PortForward.Link
import GotechDesk.PortForward.Stream
import GotechDesk.PortForward.WireGrammar

set_option autoImplicit false

namespace GotechDesk.PortForward

def updateOf : Frame → Option Nat
  | .windowUpdateMsg _ add => some add
  | _ => none

-- What a side has said in order is what has arrived, what is on its way, and what
-- was lost behind a cut.
def Line (w : Wire) (said : List Frame) : Prop :=
  ∃ tail, said = w.done ++ w.frames ++ tail ∧ (w.cut = false → tail = [])

section
variable (w : Wire) (frame : Option Frame)

theorem emit_open (up : w.cut = false) :
    w.emit frame = { w with frames := w.frames ++ frame.toList.filter Frame.ordered,
                            updates := w.updates ++ frame.toList.filterMap updateOf } := by
  cases frame with
  | none => simp [Wire.emit]
  | some frame => cases frame <;> simp [Wire.emit, up, List.filter_cons, Frame.ordered, updateOf]

theorem emit_cut (down : w.cut = true) : w.emit frame = w := by
  simp [Wire.emit, down]

theorem emit_done : (w.emit frame).done = w.done ∧ (w.emit frame).cut = w.cut := by
  cases cut : w.cut with
  | true => simp [emit_cut w frame cut, cut]
  | false => simp [emit_open w frame cut, cut]

end

theorem line_empty : Line .empty [] := ⟨[], rfl, fun _ => rfl⟩

theorem line_emit (w : Wire) (said : List Frame) (frame : Option Frame) (line : Line w said) :
    Line (w.emit frame) (said ++ frame.toList.filter Frame.ordered) := by
  obtain ⟨tail, rfl, whole⟩ := line
  cases cut : w.cut with
  | true =>
      rw [emit_cut w frame cut]
      exact ⟨tail ++ frame.toList.filter Frame.ordered, by simp, fun up => absurd up (by simp [cut])⟩
  | false =>
      obtain rfl := whole cut
      rw [emit_open w frame cut]
      exact ⟨[], by simp, fun _ => rfl⟩

theorem line_deliver (w : Wire) (said rest : List Frame) (frame : Frame) (queued : w.frames = frame :: rest)
    (line : Line w said) : Line { w with frames := rest, done := w.done ++ [frame] } said := by
  obtain ⟨tail, same, whole⟩ := line
  exact ⟨tail, by simp [same, queued], whole⟩

section
variable (w : Wire) (said : List Frame)

theorem line_updates (updates : List Nat) (line : Line w said) : Line { w with updates } said := line

theorem line_truncate (frames updates : Nat) (line : Line w said) : Line (w.truncate frames updates) said := by
  obtain ⟨tail, rfl, _⟩ := line
  refine ⟨w.frames.drop frames ++ tail, ?_, fun up => nomatch up⟩
  simp only [Wire.truncate, List.append_assoc]
  rw [← List.append_assoc (w.frames.take frames), List.take_append_drop]

theorem line_mem (frame : Frame) (line : Line w said) (member : frame ∈ w.done ∨ frame ∈ w.frames) : frame ∈ said := by
  obtain ⟨tail, rfl, _⟩ := line
  rcases member with old | queued <;> simp [*]

end

-- The two words that end a channel for whoever hears them.
def Frame.ends : Frame → Bool
  | .closeMsg _ => true
  | .openedMsg _ success _ _ => !success
  | _ => false

theorem flow_no_end (id : ChannelId) (side : Side) (frames : List Frame) (flow : Flow id side frames) :
    ∀ frame ∈ frames, frame.ends = false := by
  have quiet : ∀ frame, Flows id frame → frame.ends = false := by
    rintro frame (⟨data, rfl⟩ | ⟨add, rfl⟩) <;> rfl
  cases flow with
  | opening host port body flows | opened body flows =>
      intro frame member
      rcases List.mem_cons.mp member with rfl | later
      · rfl
      · exact quiet frame (flows frame later)

theorem last_end (front first later : List Frame) (last frame : Frame) (quiet : ∀ other ∈ front, other.ends = false)
    (same : front ++ [last] = first ++ frame :: later) (ends : frame.ends = true) : later = [] := by
  induction first generalizing front with
  | nil =>
      cases front with
      | nil => simpa using (List.cons.inj same).2.symm
      | cons other rest =>
          have here : other = frame := (List.cons.inj same).1
          rw [← here, quiet other (List.mem_cons_self ..)] at ends
          cases ends
  | cons head tail ih =>
      cases front with
      | nil => simp at same
      | cons other rest =>
          exact ih rest (fun frame member => quiet frame (List.mem_cons_of_mem _ member)) (List.cons.inj same).2

theorem spoken_end_last (id : ChannelId) (side : Side) (frames first later : List Frame) (frame : Frame)
    (spoken : Spoken id side frames) (same : frames.filter Frame.ordered = first ++ frame :: later)
    (ends : frame.ends = true) : later = [] := by
  cases spoken with
  | silent => simp at same
  | flowing _ _ flow =>
      have member : frame ∈ frames := List.mem_of_mem_filter (p := Frame.ordered) (by rw [same]; simp)
      rw [flow_no_end id side frames flow frame member] at ends
      cases ends
  | closed _ front flow =>
      refine last_end (front.filter Frame.ordered) first later (.closeMsg id) frame ?_ (by simpa [List.filter_cons, Frame.ordered] using same) ends
      exact fun other member => flow_no_end id side front flow other (List.mem_of_mem_filter member)
  | refused message =>
      exact last_end [] first later _ frame (by simp) (by simpa [List.filter_cons, Frame.ordered] using same) ends
  | declined => exact last_end [] first later _ frame (by simp) (by simpa [List.filter_cons, Frame.ordered] using same) ends

theorem controller_first (id : ChannelId) (frames later : List Frame) (frame : Frame) (spoken : Spoken id .controller frames)
    (same : frames.filter Frame.ordered = frame :: later) : ∃ host port, frame = .openMsg id host port channelWindow := by
  have opening : ∀ front : List Frame, Flow id .controller front → ∀ back,
      (front ++ back).filter Frame.ordered = frame :: later → ∃ host port, frame = .openMsg id host port channelWindow := by
    intro front flow back same
    cases flow with
    | opening host port body flows =>
        exact ⟨host, port, (List.cons.inj same).1.symm⟩
  cases spoken with
  | silent => simp at same
  | flowing _ _ flow => exact opening frames flow [] (by simpa using same)
  | closed _ front flow => exact opening front flow _ same

section
variable (id : ChannelId) (frames : List Frame) (frame : Frame)

theorem controller_words (spoken : Spoken id .controller frames) (member : frame ∈ frames) :
    (∃ host port, frame = .openMsg id host port channelWindow) ∨ Flows id frame ∨ frame = .closeMsg id := by
  have opening : ∀ front : List Frame, Flow id .controller front → frame ∈ front →
      (∃ host port, frame = .openMsg id host port channelWindow) ∨ Flows id frame ∨ frame = .closeMsg id := by
    intro front flow member
    cases flow with
    | opening host port body flows =>
        rcases List.mem_cons.mp member with rfl | later
        · exact .inl ⟨host, port, rfl⟩
        · exact .inr (.inl (flows frame later))
  cases spoken with
  | silent => simp at member
  | flowing _ _ flow => exact opening frames flow member
  | closed _ front flow =>
      rcases List.mem_append.mp member with before | last
      · exact opening front flow before
      · exact .inr (.inr (List.mem_singleton.mp last))

theorem controlled_words (spoken : Spoken id .controlled frames) (member : frame ∈ frames) :
    frame = .openedMsg id true "" channelWindow ∨ (∃ message, frame = .openedMsg id false message 0) ∨ Flows id frame ∨
      frame = .closeMsg id := by
  have opened : ∀ front : List Frame, Flow id .controlled front → frame ∈ front →
      frame = .openedMsg id true "" channelWindow ∨ (∃ message, frame = .openedMsg id false message 0) ∨ Flows id frame ∨
        frame = .closeMsg id := by
    intro front flow member
    cases flow with
    | opened body flows =>
        rcases List.mem_cons.mp member with rfl | later
        · exact .inl rfl
        · exact .inr (.inr (.inl (flows frame later)))
  cases spoken with
  | silent => simp at member
  | flowing _ _ flow => exact opened frames flow member
  | closed _ front flow =>
      rcases List.mem_append.mp member with before | last
      · exact opened front flow before
      · exact .inr (.inr (.inr (List.mem_singleton.mp last)))
  | refused message => exact .inr (.inl ⟨message, List.mem_singleton.mp member⟩)
  | declined => exact .inr (.inr (.inr (List.mem_singleton.mp member)))

end

structure Sane (c : Channel) : Prop where
  account : Account c
  legal : Legal c
  stream : Stream c

theorem sane_step (c next : Channel) (act : Act) (frame : Option Frame) (sane : Sane c) (step : ChannelStep c act next frame) :
    Sane next :=
  ⟨account_step c next act frame sane.account step, legal_step c next act frame sane.account sane.legal step,
    stream_step c next act frame sane.stream step⟩

theorem sane_frame (c : Channel) (frame : Frame) (sane : Sane c) : Sane (c.onFrame frame) :=
  ⟨account_on_frame c sane.account frame, legal_same c _ sane.legal (on_frame_shape c frame),
    stream_on_frame c frame sane.stream⟩

theorem sane_unlist (c : Channel) (sane : Sane c) : Sane c.unlist :=
  ⟨account_unlist c sane.account, legal_same c _ sane.legal (unlist_shape c), stream_unlist c sane.stream⟩

theorem sane_controller (id : ChannelId) (host : String) (port : Int) (prebuf : Bytes) :
    Sane (Channel.controller id host port prebuf) :=
  ⟨account_controller id host port prebuf, rfl, stream_new _ prebuf _ _ rfl rfl rfl⟩

theorem sane_controlled (id : ChannelId) (addr : String) (isRdp : Bool) (window : Nat) :
    Sane (Channel.controlled id addr isRdp window) :=
  ⟨account_controlled id addr isRdp window, rfl, stream_new _ [] _ _ rfl rfl rfl⟩

theorem sane_absent (id : ChannelId) : Sane (Channel.absent id) := by
  have bounded : Bounded (TunnelToSocket.new initialWindow) := new_bounded initialWindow (by decide)
  refine ⟨⟨bounded, fun _ => rfl, rfl, ?_, fun _ _ _ impossible => nomatch impossible⟩, rfl, stream_new _ [] _ _ rfl rfl rfl⟩
  intro total grant
  exact Option.some.inj grant

theorem step_born (c next : Channel) (act : Act) (frame : Option Frame) (step : ChannelStep c act next frame) :
    c.phase ≠ .unborn ∧ next.phase ≠ .unborn := by
  have after : c.afterRelay ≠ .unborn := by
    cases side : c.side <;> simp [Channel.afterRelay, side]
  cases step with
  | toTunnel act half frame relays step | toSocket act half frame relays step =>
      rcases relays_phase c relays with here | here <;> simp [here, Channel.append]
  | join first second here tunnelEnd socketEnd => cases closes : sendsClose first second <;> simp [here, after]
  | sendClose sent here => exact ⟨by simp [here], after⟩
  | sendOpen sent host port here => cases sent <;> simp [here, Channel.append]
  | sendOpened sent here => cases sent <;> simp [here, Channel.append]
  | _ => simp_all [Channel.append]

-- What the controlled side has said about the channel, on_open's refusal included.
def Link.said (l : Link) : List Frame :=
  (l.refusal.map (fun message => Frame.openedMsg l.ctl.id false message 0)).toList ++ l.srv.out.filter Frame.ordered

structure Wired (l : Link) : Prop where
  ctlSide : l.ctl.side = .controller
  srvSide : l.srv.side = .controlled
  sameId : l.srv.id = l.ctl.id
  ctl : Sane l.ctl
  srv : Sane l.srv
  up : Line l.up (l.ctl.out.filter Frame.ordered)
  down : Line l.down l.said
  unborn : l.srv.phase = .unborn → l.srv = Channel.absent l.ctl.id
  fresh : l.srv.phase = .unborn → l.refusal = none → l.up.done = []
  turned : l.refusal ≠ none → l.srv.phase = .unborn

theorem wired_start (id : ChannelId) (host : String) (port : Int) (prebuf : Bytes) :
    Wired (Link.start id host port prebuf) :=
  ⟨rfl, rfl, rfl, sane_controller id host port prebuf, sane_absent id, line_empty, line_empty, fun _ => rfl, fun _ _ => rfl,
    fun impossible => absurd rfl impossible⟩

theorem absent_frame (id : ChannelId) (frame : Frame) : (Channel.absent id).onFrame frame = Channel.absent id := by
  simp [Channel.onFrame, Channel.holds, Channel.absent]

-- Until on_open has seen the channel, the first frame to reach it is its `open`.
theorem wired_first (l : Link) (wired : Wired l) (frame : Frame) (rest : List Frame) (queued : l.up.frames = frame :: rest)
    (unborn : l.srv.phase = .unborn) (pending : l.refusal = none) :
    ∃ host port, frame = .openMsg l.ctl.id host port channelWindow := by
  obtain ⟨tail, same, _⟩ := wired.up
  rw [wired.fresh unborn pending, queued] at same
  have spoken := legal_spoken l.ctl wired.ctl.legal
  rw [wired.ctlSide] at spoken
  exact controller_first l.ctl.id l.ctl.out (rest ++ tail) frame spoken (by simpa using same)

theorem wired_up_words (l : Link) (wired : Wired l) (frame : Frame) (member : frame ∈ l.up.frames) :
    (∃ host port, frame = .openMsg l.ctl.id host port channelWindow) ∨ (∃ data, frame = .dataMsg l.ctl.id data) ∨
      frame = .closeMsg l.ctl.id := by
  have said := line_mem _ _ frame wired.up (.inr member)
  have spoken := legal_spoken l.ctl wired.ctl.legal
  rw [wired.ctlSide] at spoken
  rcases controller_words _ _ frame spoken (List.mem_of_mem_filter said) with opening | (data | ⟨add, rfl⟩) | closing
  · exact .inl opening
  · exact .inr (.inl data)
  · exact absurd (List.mem_filter.mp said).2 (by simp [Frame.ordered])
  · exact .inr (.inr closing)

theorem wired_down_words (l : Link) (wired : Wired l) (frame : Frame) (member : frame ∈ l.down.frames) :
    frame = .openedMsg l.ctl.id true "" channelWindow ∧ frame ∈ l.srv.out ∨
      (∃ message, frame = .openedMsg l.ctl.id false message 0) ∨ (∃ data, frame = .dataMsg l.ctl.id data) ∨
      frame = .closeMsg l.ctl.id := by
  have said := line_mem _ _ frame wired.down (.inr member)
  rcases List.mem_append.mp said with reply | own
  · obtain ⟨message, _, rfl⟩ : ∃ message, l.refusal = some message ∧ Frame.openedMsg l.ctl.id false message 0 = frame := by
      simpa using reply
    exact .inr (.inl ⟨message, rfl⟩)
  · have spoken := legal_spoken l.srv wired.srv.legal
    rw [wired.srvSide, wired.sameId] at spoken
    rcases controlled_words _ _ frame spoken (List.mem_of_mem_filter own) with opened | refused | (data | ⟨add, rfl⟩) | closing
    · exact .inl ⟨opened, List.mem_of_mem_filter own⟩
    · exact .inr (.inl refused)
    · exact .inr (.inr (.inl data))
    · exact absurd (List.mem_filter.mp own).2 (by simp [Frame.ordered])
    · exact .inr (.inr (.inr closing))

theorem wired_step (l next : Link) (act : LinkAct) (wired : Wired l) (step : LinkStep l act next) : Wired next := by
  have quiet : l.srv.phase = .unborn → l.srv.out = [] := fun unborn => by rw [wired.unborn unborn]; rfl
  cases step with
  | ctl act after frame step =>
      have shape := channel_step_shape l.ctl after act frame step
      refine ⟨shape.side.trans wired.ctlSide, wired.srvSide, wired.sameId.trans shape.id.symm,
        sane_step _ _ _ _ wired.ctl step, wired.srv, ?_, ?_, ?_, ?_, wired.turned⟩
      · simpa only [shape.out, List.filter_append] using line_emit l.up _ frame wired.up
      · simpa only [Link.said, shape.id] using wired.down
      · simpa only [shape.id] using wired.unborn
      · simpa only [(emit_done l.up frame).1] using wired.fresh
  | srv act after frame step =>
      have shape := channel_step_shape l.srv after act frame step
      obtain ⟨born, still⟩ := step_born l.srv after act frame step
      refine ⟨wired.ctlSide, shape.side.trans wired.srvSide, shape.id.trans wired.sameId, wired.ctl,
        sane_step _ _ _ _ wired.srv step, wired.up, ?_, fun unborn => absurd unborn still,
        fun unborn => absurd unborn still, fun turned => absurd (wired.turned turned) born⟩
      simpa only [Link.said, shape.out, List.filter_append, List.append_assoc] using line_emit l.down _ frame wired.down
  | accepted addr isRdp id host port window rest queued unborn pending =>
      obtain ⟨_, _, same⟩ := wired_first l wired _ rest queued unborn pending
      have known : id = l.ctl.id := by injection same
      refine ⟨wired.ctlSide, rfl, known, wired.ctl, sane_controlled id addr isRdp window,
        line_deliver _ _ rest _ queued wired.up, ?_, (fun impossible => nomatch impossible),
        (fun impossible => nomatch impossible), fun turned => absurd pending turned⟩
      have before := wired.down
      simp only [Link.said, quiet unborn] at before
      exact before
  | refused message id host port window rest queued unborn pending =>
      obtain ⟨_, _, same⟩ := wired_first l wired _ rest queued unborn pending
      have known : id = l.ctl.id := by injection same
      refine ⟨wired.ctlSide, wired.srvSide, wired.sameId, wired.ctl, wired.srv,
        line_deliver _ _ rest _ queued wired.up, ?_, wired.unborn, (fun _ impossible => nomatch impossible), fun _ => unborn⟩
      have before := line_emit l.down _ (some (.openedMsg id false message 0)) wired.down
      simpa [Link.said, quiet unborn, pending, known, List.filter_cons, Frame.ordered] using before
  | repeated verdict id host port window rest queued known =>
      exact { wired with up := line_deliver _ _ rest _ queued wired.up, fresh := fun unborn pending => absurd ⟨unborn, pending⟩ known }
  | upFrame verdict frame rest queued other =>
      have shape := on_frame_shape l.srv frame
      refine ⟨wired.ctlSide, shape.side.trans wired.srvSide, shape.id.trans wired.sameId, wired.ctl,
        sane_frame _ _ wired.srv, line_deliver _ _ rest _ queued wired.up, ?_, ?_, ?_, ?_⟩
      · simpa only [Link.said, shape.out] using wired.down
      · intro unborn
        rw [wired.unborn (shape.phase.symm.trans unborn), absent_frame]
      · intro unborn pending
        obtain ⟨host, port, opening⟩ := wired_first l wired frame rest queued (shape.phase.symm.trans unborn) pending
        exact absurd opening (other _ _ _ _)
      · exact fun turned => shape.phase.trans (wired.turned turned)
  | upUpdate add rest queued =>
      have shape := on_frame_shape l.srv (.windowUpdateMsg l.ctl.id add)
      refine ⟨wired.ctlSide, shape.side.trans wired.srvSide, shape.id.trans wired.sameId, wired.ctl,
        sane_frame _ _ wired.srv, wired.up, ?_, ?_, ?_, ?_⟩
      · simpa only [Link.said, shape.out] using wired.down
      · intro unborn
        rw [wired.unborn (shape.phase.symm.trans unborn), absent_frame]
      · exact fun unborn pending => wired.fresh (shape.phase.symm.trans unborn) pending
      · exact fun turned => shape.phase.trans (wired.turned turned)
  | downFrame frame rest queued =>
      have shape := on_frame_shape l.ctl frame
      refine ⟨shape.side.trans wired.ctlSide, wired.srvSide, wired.sameId.trans shape.id.symm, sane_frame _ _ wired.ctl,
        wired.srv, ?_, ?_, ?_, wired.fresh, wired.turned⟩
      · simpa only [shape.out] using wired.up
      · simpa only [Link.said, shape.id] using line_deliver _ _ rest _ queued wired.down
      · simpa only [shape.id] using wired.unborn
  | downUpdate add rest queued =>
      have shape := on_frame_shape l.ctl (.windowUpdateMsg l.ctl.id add)
      refine ⟨shape.side.trans wired.ctlSide, wired.srvSide, wired.sameId.trans shape.id.symm, sane_frame _ _ wired.ctl,
        wired.srv, ?_, ?_, ?_, wired.fresh, wired.turned⟩
      · simpa only [shape.out] using wired.up
      · simpa only [Link.said, shape.id] using line_updates _ _ rest wired.down
      · simpa only [shape.id] using wired.unborn
  | ctlUnlist =>
      exact { wired with ctl := sane_unlist _ wired.ctl }
  | srvUnlist =>
      refine { wired with srv := sane_unlist _ wired.srv, unborn := ?_ }
      intro unborn
      have before := wired.unborn unborn
      simp only [before]
      rfl
  | cutUp frames updates =>
      exact { wired with up := line_truncate _ _ _ _ wired.up }
  | cutDown frames updates =>
      exact { wired with down := line_truncate _ _ _ _ wired.down }

def closeSeen (half : TunnelToSocket) : Prop := Inbound.close ∈ half.inbound ∨ half.point = .ended .peerClosed

-- What a channel has taken in of the frames that arrived for it: all of their bytes
-- as long as the map lists it, and all of them when a close stopped it.
structure Got (c : Channel) (done : List Frame) : Prop where
  within : c.toSocket.got <+: dataOf done
  exact : c.listed = true → c.toSocket.got = dataOf done
  closed : closeSeen c.toSocket → c.toSocket.got = dataOf done ∧ ∃ frame ∈ done, frame.ends = true

theorem to_socket_got (id : ChannelId) (listed cancelled : Bool) (half next : TunnelToSocket) (act : ToSocketAct)
    (frame : Option Frame) (step : ToSocketStep id listed cancelled half act next frame) :
    next.got = half.got ∧ (closeSeen next → closeSeen half) := by
  cases step with
  | popPending chunk rest here held => exact ⟨rfl, fun seen => by simpa [closeSeen, here] using seen⟩
  | receive chunk rest here empty queued => exact ⟨rfl, fun seen => by simpa [closeSeen, here, queued] using seen⟩
  | closed rest here empty queued => exact ⟨rfl, fun _ => .inl (by simp [queued])⟩
  | write n chunk done here positive within => exact ⟨rfl, fun seen => by simpa [closeSeen, here] using seen⟩
  | wrote chunk here =>
      refine ⟨rfl, fun seen => ?_⟩
      simp only [closeSeen, TunnelToSocket.wrote] at seen
      cases update : (half.window.drained chunk.length).2 <;> simp [update] at seen <;> exact .inl seen
  | updated add here => exact ⟨rfl, fun seen => by simpa [closeSeen, here] using seen⟩
  | violated | orphaned | writeFail | updateLost | cancel =>
      exact ⟨rfl, fun seen => by simp [closeSeen, TunnelToSocket.finish] at seen⟩

theorem grant_got (half : TunnelToSocket) (n : Nat) : (half.grant n).got = half.got := rfl

theorem close_seen_grant (half : TunnelToSocket) (n : Nat) (seen : closeSeen (half.grant n)) : closeSeen half := seen

section
variable (c next : Channel) (act : Act) (frame : Option Frame)

theorem channel_step_got (step : ChannelStep c act next frame) :
    next.toSocket.got = c.toSocket.got ∧ (closeSeen next.toSocket → closeSeen c.toSocket) ∧
      (next.listed = true → c.listed = true) := by
  cases step with
  | toSocket act half frame relays step =>
      obtain ⟨got, seen⟩ := to_socket_got _ _ _ _ _ _ _ step
      exact ⟨got, seen, fun listed => listed⟩
  | remove here => exact ⟨rfl, fun seen => seen, fun listed => nomatch listed⟩
  | commandData sent addr isRdp bytes rest here queued fits =>
      refine ⟨rfl, fun seen => ?_, fun listed => listed⟩
      rcases seen with member | ended
      · exact .inl (by rw [queued]; exact List.mem_cons_of_mem _ member)
      · exact .inr ended
  | connectOk addr isRdp here => exact ⟨grant_got _ _, close_seen_grant _ _, fun listed => listed⟩
  | _ => exact ⟨rfl, fun seen => seen, fun listed => listed⟩

theorem got_step (done : List Frame) (got : Got c done) (step : ChannelStep c act next frame) : Got next done := by
  obtain ⟨same, seen, listed⟩ := channel_step_got c next act frame step
  refine ⟨same ▸ got.within, fun still => ?_, fun saw => ?_⟩
  · rw [same]
    exact got.exact (listed still)
  · rw [same]
    exact got.closed (seen saw)

end

theorem got_unlist (c : Channel) (done : List Frame) (got : Got c done) : Got c.unlist done :=
  ⟨got.within, (fun listed => nomatch listed), got.closed⟩

theorem got_credit (c : Channel) (done : List Frame) (credit : SendCredit) (opened : Bool) (got : Got c done) :
    Got { c with opened, toTunnel := { c.toTunnel with credit } } done := ⟨got.within, got.exact, got.closed⟩

-- A channel the map lists has seen no close, since a close takes its entry away.
theorem listed_open (c : Channel) (stream : Stream c) (listed : c.listed = true) : ¬ closeSeen c.toSocket := by
  rintro (queued | ended)
  · have data := stream.writes.serving listed
    have kind := List.all_eq_true.mp data _ queued
    cases kind
  · rw [(stream.writes.closed ended).2] at listed
    cases listed

section
variable (c : Channel) (done : List Frame)

theorem got_close (frame : Frame) (got : Got c done) (listed : c.listed = true)
    (ends : frame.ends = true) (empty : frameBytes frame = []) : Got c.onClose (done ++ [frame]) := by
  have same : c.onClose.toSocket.got = dataOf (done ++ [frame]) := by
    rw [data_of_append, ← got.exact listed]
    simp only [Channel.onClose, Channel.unlist, Channel.push]
    cases receiving : c.receiving <;> simp [inboundBytes, dataOf, empty]
  refine ⟨same ▸ List.prefix_refl _, (fun listed => by cases listed), fun _ => ⟨same, frame, by simp, ends⟩⟩

theorem got_quiet (frame : Frame) (got : Got c done) (empty : frameBytes frame = []) : Got c (done ++ [frame]) := by
  have same : dataOf (done ++ [frame]) = dataOf done := by simp [dataOf, empty]
  refine ⟨same ▸ got.within, same ▸ got.exact, fun seen => ?_⟩
  obtain ⟨all, ending, member, ends⟩ := got.closed seen
  exact ⟨same ▸ all, ending, List.mem_append_left _ member, ends⟩

theorem got_data (id : ChannelId) (data : Bytes) (got : Got c done) (stream : Stream c)
    (listed : c.listed = true) : Got (c.onData data) (done ++ [Frame.dataMsg id data]) := by
  have total : dataOf (done ++ [Frame.dataMsg id data]) = c.toSocket.got ++ data := by
    rw [data_of_append, ← got.exact listed]
    simp [dataOf, frameBytes]
  have unseen := listed_open c stream listed
  have apart : ∀ next : Channel, next.listed = false → next.toSocket.got = c.toSocket.got →
      ¬ closeSeen next.toSocket → Got next (done ++ [Frame.dataMsg id data]) := by
    intro next gone same unseen
    refine ⟨?_, fun listed => ?_, fun seen => absurd seen unseen⟩
    · rw [same, total]
      exact List.prefix_append ..
    · rw [gone] at listed
      cases listed
  simp only [Channel.onData]
  cases accepted : (c.toSocket.window.accept data.length).2 with
  | true =>
      cases receiving : c.receiving with
      | false =>
          exact apart _ rfl rfl unseen
      | true =>
          have alive : Channel.receiving
              { c with toSocket := { c.toSocket with window := (c.toSocket.window.accept data.length).1 } } = true := receiving
          simp only [if_true, Channel.push, alive]
          refine ⟨?_, fun _ => total.symm, fun seen => absurd ?_ unseen⟩
          · rw [total]
            exact List.prefix_refl _
          · simpa [closeSeen] using seen
  | false =>
      refine apart _ rfl ?_ ?_
      · cases receiving : Channel.receiving
            { c with toSocket := { c.toSocket with window := (c.toSocket.window.accept data.length).1 } } <;>
          simp [Channel.push, Channel.unlist, receiving, inboundBytes]
      · cases receiving : Channel.receiving
            { c with toSocket := { c.toSocket with window := (c.toSocket.window.accept data.length).1 } } <;>
          simpa [Channel.push, Channel.unlist, receiving, closeSeen] using unseen

-- One more frame arrives. Nothing follows a frame that ends the channel, so none has
-- arrived before it.
theorem got_frame (frame : Frame) (got : Got c done) (stream : Stream c)
    (own : frame.channelId = c.id) (first : ∀ before ∈ done, before.ends = false) : Got (c.onFrame frame) (done ++ [frame]) := by
  cases listed : c.listed with
  | false =>
      have absent : c.holds frame.channelId = false := by simp [Channel.holds, listed]
      simp only [Channel.onFrame, absent, Bool.false_eq_true, if_false]
      refine ⟨?_, fun still => ?_, fun seen => ?_⟩
      · rw [data_of_append]
        exact got.within.trans (List.prefix_append ..)
      · rw [listed] at still
        cases still
      · obtain ⟨_, ending, member, ends⟩ := got.closed seen
        rw [first ending member] at ends
        cases ends
  | true =>
      have holds : c.holds frame.channelId = true := by simp [Channel.holds, listed, own]
      simp only [Channel.onFrame, holds, if_true]
      cases frame with
      | openMsg => exact got_quiet c done _ got rfl
      | openedMsg id success message window =>
          by_cases side : c.side = .controller
          · simp only [if_pos side, Channel.onOpened]
            cases success with
            | true =>
                cases opened : c.opened with
                | true => exact got_quiet c done _ got rfl
                | false => exact got_credit c _ _ true (got_quiet c done _ got rfl)
            | false => exact got_close c done _ got listed rfl rfl
          · simpa only [if_neg side] using got_quiet c done _ got rfl
      | dataMsg id data => exact got_data c done id data got stream listed
      | closeMsg id => exact got_close c done _ got listed rfl rfl
      | windowUpdateMsg id add => exact got_credit c _ _ c.opened (got_quiet c done _ got rfl)

end

theorem said_end_last (l : Link) (wired : Wired l) (first later : List Frame) (frame : Frame)
    (same : l.said = first ++ frame :: later) (ends : frame.ends = true) : later = [] := by
  cases refusal : l.refusal with
  | none =>
      have spoken := legal_spoken l.srv wired.srv.legal
      exact spoken_end_last _ _ _ first later frame spoken (by simpa [Link.said, refusal] using same) ends
  | some message =>
      have absent := wired.unborn (wired.turned (by simp [refusal]))
      have quiet : l.srv.out = [] := by rw [absent]; rfl
      exact last_end [] first later _ frame (by simp) (by simpa [Link.said, refusal, quiet] using same) ends

theorem line_running (w : Wire) (said rest : List Frame) (frame : Frame) (line : Line w said) (queued : w.frames = frame :: rest)
    (last : ∀ first later before, said = first ++ before :: later → before.ends = true → later = []) :
    ∀ before ∈ w.done, before.ends = false := by
  intro before member
  obtain ⟨first, later, split⟩ := List.append_of_mem member
  obtain ⟨tail, same, _⟩ := line
  rw [split, queued] at same
  by_contra ends
  have none := last first (later ++ frame :: rest ++ tail) before (by simp [same]) (by simpa using ends)
  simp at none

structure Carried (l : Link) : Prop where
  up : Got l.srv l.up.done
  down : Got l.ctl l.down.done

theorem got_start (c : Channel) (granted : Nat) (socket : c.toSocket = .new granted) : Got c [] := by
  refine ⟨?_, fun _ => ?_, fun seen => ?_⟩
  · rw [socket]
    exact List.prefix_refl _
  · rw [socket]
    rfl
  · rw [socket] at seen
    simp [closeSeen, TunnelToSocket.new] at seen

theorem carried_start (id : ChannelId) (host : String) (port : Int) (prebuf : Bytes) :
    Carried (Link.start id host port prebuf) := ⟨got_start _ _ rfl, got_start _ _ rfl⟩

theorem up_running (l : Link) (wired : Wired l) (frame : Frame) (rest : List Frame) (queued : l.up.frames = frame :: rest) :
    ∀ before ∈ l.up.done, before.ends = false :=
  line_running l.up _ rest frame wired.up queued fun first later before same ends =>
    spoken_end_last _ _ _ first later before (legal_spoken l.ctl wired.ctl.legal) same ends

theorem down_running (l : Link) (wired : Wired l) (frame : Frame) (rest : List Frame) (queued : l.down.frames = frame :: rest) :
    ∀ before ∈ l.down.done, before.ends = false :=
  line_running l.down _ rest frame wired.down queued fun first later before same ends =>
    said_end_last l wired first later before same ends

theorem got_update (c : Channel) (done : List Frame) (id : ChannelId) (add : Nat) (got : Got c done) :
    Got (c.onFrame (.windowUpdateMsg id add)) done := by
  cases holds : c.holds id with
  | false => simpa only [Channel.onFrame, Frame.channelId, holds, Bool.false_eq_true, if_false] using got
  | true =>
      simp only [Channel.onFrame, Frame.channelId, holds, if_true]
      exact got_credit c done _ c.opened got

theorem carried_step (l next : Link) (act : LinkAct) (wired : Wired l) (carried : Carried l) (step : LinkStep l act next) :
    Carried next := by
  cases step with
  | ctl act after frame step =>
      refine ⟨?_, got_step _ _ _ _ _ carried.down step⟩
      simpa only [(emit_done l.up frame).1] using carried.up
  | srv act after frame step =>
      refine ⟨got_step _ _ _ _ _ carried.up step, ?_⟩
      simpa only [(emit_done l.down frame).1] using carried.down
  | accepted addr isRdp id host port window rest queued unborn pending =>
      refine ⟨?_, carried.down⟩
      simp only [wired.fresh unborn pending, List.nil_append]
      exact got_quiet _ [] _ (got_start _ _ rfl) rfl
  | refused message id host port window rest queued unborn pending =>
      refine ⟨got_quiet _ _ _ carried.up rfl, ?_⟩
      simpa only [(emit_done l.down _).1] using carried.down
  | repeated verdict id host port window rest queued known => exact ⟨got_quiet _ _ _ carried.up rfl, carried.down⟩
  | upFrame verdict frame rest queued other =>
      have own : frame.channelId = l.srv.id := by
        rw [wired.sameId]
        rcases wired_up_words l wired frame (by simp [queued]) with ⟨host, port, rfl⟩ | ⟨data, rfl⟩ | rfl <;> rfl
      exact ⟨got_frame l.srv _ frame carried.up wired.srv.stream own (up_running l wired frame rest queued), carried.down⟩
  | upUpdate add rest queued => exact ⟨got_update _ _ _ _ carried.up, carried.down⟩
  | downFrame frame rest queued =>
      have own : frame.channelId = l.ctl.id := by
        rcases wired_down_words l wired frame (by simp [queued]) with ⟨rfl, _⟩ | ⟨message, rfl⟩ | ⟨data, rfl⟩ | rfl <;> rfl
      exact ⟨carried.up, got_frame l.ctl _ frame carried.down wired.ctl.stream own (down_running l wired frame rest queued)⟩
  | downUpdate add rest queued => exact ⟨carried.up, got_update _ _ _ _ carried.down⟩
  | ctlUnlist => exact ⟨carried.up, got_unlist _ _ carried.down⟩
  | srvUnlist => exact ⟨got_unlist _ _ carried.up, carried.down⟩
  | cutUp frames updates => exact ⟨carried.up, carried.down⟩
  | cutDown frames updates => exact ⟨carried.up, carried.down⟩

theorem data_of_ordered (frames : List Frame) : dataOf (frames.filter Frame.ordered) = dataOf frames := by
  induction frames with
  | nil => rfl
  | cons frame rest ih =>
      cases frame <;> simp_all [dataOf, List.filter_cons, Frame.ordered, frameBytes]

theorem data_of_said (l : Link) : dataOf l.said = dataOf l.srv.out := by
  rw [Link.said, data_of_append, data_of_ordered]
  cases l.refusal <;> simp [dataOf, frameBytes]

theorem data_of_prefix (a b : List Frame) (front : a <+: b) : dataOf a <+: dataOf b := by
  obtain ⟨tail, rfl⟩ := front
  rw [data_of_append]
  exact List.prefix_append ..

theorem line_prefix (w : Wire) (said : List Frame) (line : Line w said) : w.done <+: said := by
  obtain ⟨tail, rfl, _⟩ := line
  exact ⟨w.frames ++ tail, by simp⟩

theorem line_ended (w : Wire) (said : List Frame) (line : Line w said) (ended : ∃ frame ∈ w.done, frame.ends = true)
    (last : ∀ first later before, said = first ++ before :: later → before.ends = true → later = []) : said = w.done := by
  obtain ⟨frame, member, ends⟩ := ended
  obtain ⟨first, later, split⟩ := List.append_of_mem member
  obtain ⟨tail, same, _⟩ := line
  have nothing := last first (later ++ w.frames ++ tail) frame (by simp [same, split]) ends
  simp only [List.append_eq_nil_iff] at nothing
  simp [same, nothing.1.2, nothing.2]

-- From the bytes a socket was given back to those the other socket gave: each hop
-- is a prefix of the one before.
theorem carried_prefix (sender receiver : Channel) (done : List Frame) (reads : Reads sender.toTunnel (dataOf sender.out))
    (writes : Writes receiver.toSocket receiver.listed) (got : Got receiver done) (front : dataOf done <+: dataOf sender.out) :
    receiver.toSocket.written <+: sender.toTunnel.head ++ sender.toTunnel.read := by
  have taken : sender.toTunnel.taken <+: sender.toTunnel.head ++ sender.toTunnel.read :=
    ⟨sender.toTunnel.prebuf, reads.chained⟩
  exact writes.within.trans (got.within.trans (front.trans (reads.within.trans taken)))

structure Faithful (sender receiver : Channel) : Prop where
  stream : receiver.toSocket.written <+: sender.toTunnel.head ++ sender.toTunnel.read
  closed : receiver.toSocket.point = .ended .peerClosed → receiver.toSocket.written = dataOf sender.out

theorem link_faithful (l : Link) (wired : Wired l) (carried : Carried l) : Faithful l.ctl l.srv ∧ Faithful l.srv l.ctl := by
  have up := line_prefix _ _ wired.up
  have down := line_prefix _ _ wired.down
  refine ⟨⟨?_, fun ended => ?_⟩, ⟨?_, fun ended => ?_⟩⟩
  · refine carried_prefix l.ctl l.srv l.up.done wired.ctl.stream.reads wired.srv.stream.writes carried.up ?_
    simpa only [data_of_ordered] using data_of_prefix _ _ up
  · obtain ⟨all, seen⟩ := carried.up.closed (.inr ended)
    have whole := line_ended _ _ wired.up seen fun first later before same ends =>
      spoken_end_last _ _ _ first later before (legal_spoken l.ctl wired.ctl.legal) same ends
    rw [(wired.srv.stream.writes.closed ended).1, all, ← whole, data_of_ordered]
  · refine carried_prefix l.srv l.ctl l.down.done wired.srv.stream.reads wired.ctl.stream.writes carried.down ?_
    simpa only [data_of_said] using data_of_prefix _ _ down
  · obtain ⟨all, seen⟩ := carried.down.closed (.inr ended)
    have whole := line_ended _ _ wired.down seen fun first later before same ends =>
      said_end_last l wired first later before same ends
    rw [(wired.ctl.stream.writes.closed ended).1, all, ← whole, data_of_said]

end GotechDesk.PortForward
