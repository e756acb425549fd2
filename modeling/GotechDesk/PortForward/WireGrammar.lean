import GotechDesk.PortForward.Account
import GotechDesk.PortForward.PortForwardMux

set_option autoImplicit false

namespace GotechDesk.PortForward

def Flows (id : ChannelId) (frame : Frame) : Prop :=
  (∃ data, frame = .dataMsg id data) ∨ ∃ add, frame = .windowUpdateMsg id add

-- A channel that is up: the frame that opened it, then data and window updates.
inductive Flow (id : ChannelId) : Side → List Frame → Prop where
  | opening (host : String) (port : Int) (body : List Frame) (flows : ∀ frame ∈ body, Flows id frame) :
      Flow id .controller (.openMsg id host port channelWindow :: body)
  | opened (body : List Frame) (flows : ∀ frame ∈ body, Flows id frame) :
      Flow id .controlled (.openedMsg id true "" channelWindow :: body)

-- All a side may ever say about one id, in the order it says it.
inductive Spoken (id : ChannelId) : Side → List Frame → Prop where
  | silent (side : Side) : Spoken id side []
  | flowing (side : Side) (frames : List Frame) (flow : Flow id side frames) : Spoken id side frames
  | closed (side : Side) (frames : List Frame) (flow : Flow id side frames) : Spoken id side (frames ++ [.closeMsg id])
  | refused (message : String) : Spoken id .controlled [.openedMsg id false message 0]
  | declined : Spoken id .controlled [.closeMsg id]

def Legal (c : Channel) : Prop :=
  match c.phase with
  | .unborn | .admitted _ _ | .opening _ _ | .connecting _ _ _ | .connected => c.out = []
  | .relaying | .joining | .closing => Flow c.id c.side c.out
  | .leaving | .removing | .done => Spoken c.id c.side c.out

section
variable (id : ChannelId) (side : Side) (frames : List Frame)

theorem flow_append (frame : Frame) (flow : Flow id side frames) (flows : Flows id frame) : Flow id side (frames ++ [frame]) := by
  have extend : ∀ body : List Frame, (∀ old ∈ body, Flows id old) → ∀ old ∈ body ++ [frame], Flows id old := by
    intro body all old member
    rcases List.mem_append.mp member with before | last
    · exact all old before
    · exact List.mem_singleton.mp last ▸ flows
  cases flow with
  | opening host port body all => exact .opening host port (body ++ [frame]) (extend body all)
  | opened body all => exact .opened (body ++ [frame]) (extend body all)

theorem flow_emit (frame : Option Frame) (flow : Flow id side frames)
    (flows : ∀ emitted, frame = some emitted → Flows id emitted) : Flow id side (frames ++ frame.toList) := by
  cases frame with
  | none => simpa using flow
  | some emitted => exact flow_append id side frames emitted flow (flows emitted rfl)

theorem spoken_close (sent : Bool) (flow : Flow id side frames) : Spoken id side (frames ++ (sentFrame sent (.closeMsg id)).toList) := by
  cases sent with
  | true => exact .closed side frames flow
  | false => simpa [sentFrame] using Spoken.flowing side frames flow

end

theorem relays_flow (c : Channel) (relays : c.relays = true) : Legal c ↔ Flow c.id c.side c.out := by
  rcases relays_phase c relays with here | here <;> simp [Legal, here]

theorem legal_after_relay (c : Channel) (here : c.phase = c.afterRelay) : Legal c ↔ Spoken c.id c.side c.out := by
  cases side : c.side <;> simp_all [Legal, Channel.afterRelay]

-- A controlled task that gives up while connecting has said at most one thing.
theorem legal_leaving (c : Channel) (frame : Option Frame) (here : c.phase = .leaving)
    (spoken : Spoken c.id c.side (c.out ++ frame.toList)) : Legal (c.append frame) := by
  simpa only [Legal, Channel.append, here] using spoken

theorem controlled_phase (c : Channel) (account : Account c) (addr : String) (isRdp polled : Bool)
    (here : c.phase = .connecting addr isRdp polled) : c.side = .controlled :=
  (connecting_granted c account addr isRdp polled here).1

theorem spoken_declined (id : ChannelId) (sent : Bool) : Spoken id .controlled (sentFrame sent (.closeMsg id)).toList := by
  cases sent with
  | true => exact .declined
  | false => exact .silent .controlled

theorem spoken_refused (id : ChannelId) (message : String) (sent : Bool) :
    Spoken id .controlled (sentFrame sent (.openedMsg id false message 0)).toList := by
  cases sent with
  | true => exact .refused message
  | false => exact .silent .controlled

theorem legal_step (c next : Channel) (act : Act) (frame : Option Frame) (account : Account c) (legal : Legal c)
    (step : ChannelStep c act next frame) : Legal next := by
  have sided := account.sided
  cases step with
  | toTunnel act half frame relays step =>
      have flow := (relays_flow c relays).mp legal
      refine (relays_flow ({ c with toTunnel := half }.append frame) relays).mpr (flow_emit _ _ _ frame flow ?_)
      intro emitted some
      obtain ⟨data, _, sent⟩ := to_tunnel_own _ _ _ _ _ _ step emitted some
      exact .inl ⟨data, sent⟩
  | toSocket act half frame relays step =>
      have flow := (relays_flow c relays).mp legal
      refine (relays_flow ({ c with toSocket := half }.append frame) relays).mpr (flow_emit _ _ _ frame flow ?_)
      intro emitted some
      obtain ⟨add, _, sent⟩ := to_socket_own _ _ _ _ _ _ _ step emitted some
      exact .inr ⟨add, sent⟩
  | cancelHalves teardown here cause => simpa only [Legal, here] using legal
  | join first second here tunnelEnd socketEnd =>
      simp only [Legal, here] at legal
      cases closes : sendsClose first second with
      | true => simpa only [Legal, if_true] using legal
      | false =>
          exact (legal_after_relay { c with phase := c.afterRelay } rfl).mpr (.flowing _ _ legal)
  | sendClose sent here =>
      simp only [Legal, here] at legal
      exact (legal_after_relay ({ c with phase := c.afterRelay }.append _) rfl).mpr (spoken_close _ _ _ sent legal)
  | spawn host port here => simpa only [Legal, here] using legal
  | sendOpen sent host port here =>
      have side : c.side = .controller := by
        cases side : c.side <;> simp_all [Phase.fits]
      simp only [Legal, here] at legal
      cases sent with
      | true => simpa [Legal, Channel.append, legal, side, sentFrame] using Flow.opening host port [] (by simp)
      | false => simpa [Legal, Channel.append, legal, sentFrame] using Spoken.silent c.side
  | remove here => simpa only [Legal, here] using legal
  | commandData sent addr isRdp bytes rest here queued fits => simpa only [Legal, here] using legal
  | commandOver sent addr isRdp bytes rest here queued beyond | commandViolation sent addr isRdp rest here queued =>
      simp only [Legal, here] at legal
      refine legal_leaving { c with phase := .leaving } _ rfl ?_
      simpa [legal, controlled_phase c account addr isRdp false here] using spoken_declined c.id sent
  | commandEnd sent addr isRdp here ending =>
      simp only [Legal, here] at legal
      simpa only [Legal, legal] using Spoken.silent c.side
  | commandNone sent addr isRdp here queued still => simpa only [Legal, here] using legal
  | connectPending addr isRdp here => simpa only [Legal, here] using legal
  | connectFail sent addr isRdp here =>
      simp only [Legal, here] at legal
      refine legal_leaving { c with phase := .leaving } _ rfl ?_
      simpa [legal, controlled_phase c account addr isRdp true here] using spoken_refused c.id _ sent
  | connectOk addr isRdp here => simpa only [Legal, here] using legal
  | sendOpened sent here =>
      have side : c.side = .controlled := by
        cases side : c.side <;> simp_all [Phase.fits]
      simp only [Legal, here] at legal
      cases sent with
      | true => simpa [Legal, Channel.append, legal, side, sentFrame] using Flow.opened [] (by simp)
      | false => simpa [Legal, Channel.append, legal, sentFrame] using Spoken.silent c.side
  | leave here => simpa only [Legal, here] using legal

theorem legal_same (c next : Channel) (legal : Legal c) (same : FrameShape c next) : Legal next := by
  simpa only [Legal, same.id, same.side, same.phase, same.out] using legal

theorem unlist_shape (c : Channel) : FrameShape c c.unlist := ⟨rfl, rfl, rfl, rfl, rfl⟩

theorem legal_kept : Kept (fun c => Account c ∧ Legal c) :=
  ⟨fun c act next frame both step =>
      ⟨account_step c next act frame both.1 step, legal_step c next act frame both.1 both.2 step⟩,
    fun c frame both => ⟨account_on_frame c both.1 frame, legal_same c _ both.2 (on_frame_shape c frame)⟩,
    fun c both => ⟨account_unlist c both.1, legal_same c _ both.2 (unlist_shape c)⟩⟩

theorem legal_controller (id : ChannelId) (host : String) (port : Int) (prebuf : Bytes) :
    Account (Channel.controller id host port prebuf) ∧ Legal (Channel.controller id host port prebuf) :=
  ⟨account_controller id host port prebuf, rfl⟩

theorem legal_controlled (id : ChannelId) (addr : String) (isRdp : Bool) (window : Nat) :
    Account (Channel.controlled id addr isRdp window) ∧ Legal (Channel.controlled id addr isRdp window) :=
  ⟨account_controlled id addr isRdp window, rfl⟩

theorem legal_spoken (c : Channel) (legal : Legal c) : Spoken c.id c.side c.out := by
  cases here : c.phase <;> simp only [Legal, here] at legal
  case leaving | removing | done => exact legal
  case relaying | joining | closing => exact .flowing _ _ legal
  all_goals exact legal ▸ .silent c.side

def framesOf (id : ChannelId) (frames : List Frame) : List Frame := frames.filter (fun frame => frame.channelId == id)

theorem frames_of_append (id : ChannelId) (a b : List Frame) : framesOf id (a ++ b) = framesOf id a ++ framesOf id b :=
  List.filter_append ..

theorem frames_of_own (id : ChannelId) (frame : Option Frame) (own : ∀ emitted, frame = some emitted → emitted.channelId = id) :
    framesOf id frame.toList = frame.toList := by
  cases frame with
  | none => rfl
  | some emitted => simp [framesOf, own emitted rfl]

theorem frames_of_other (id other : ChannelId) (frame : Option Frame)
    (own : ∀ emitted, frame = some emitted → emitted.channelId = other) (different : other ≠ id) :
    framesOf id frame.toList = [] := by
  cases frame with
  | none => rfl
  | some emitted => simp [framesOf, own emitted rfl, different]

-- `after` is `before` with the task of channel k moved on to `next`; what a map
-- loses or gains of its entries does not show here.
structure Moved (before after : List Channel) (k : Nat) (next : Channel) : Prop where
  ids : after.map Channel.id = before.map Channel.id
  here : ∀ d, after[k]? = some d → FrameShape next d
  elsewhere : ∀ j d, j ≠ k → after[j]? = some d → ∃ b, before[j]? = some b ∧ FrameShape b d

theorem shape_refl (c : Channel) : FrameShape c c := ⟨rfl, rfl, rfl, rfl, rfl⟩

section
variable (channels : List Channel) (k : Nat) (c next : Channel)

theorem moved_set (here : channels[k]? = some c) (same : next.id = c.id) : Moved channels (channels.set k next) k next := by
  have bound : k < channels.length := (List.getElem?_eq_some_iff.mp here).1
  refine ⟨?_, ?_, ?_⟩
  · refine List.ext_getElem? fun j => ?_
    by_cases at_k : k = j
    · subst at_k
      rw [List.getElem?_map, List.getElem?_map, List.getElem?_set_self bound, here, Option.map_some, Option.map_some, same]
    · simp [at_k]
  · intro d found
    rw [List.getElem?_set_self bound, Option.some.injEq] at found
    exact found ▸ shape_refl next
  · intro j d other found
    rw [List.getElem?_set_ne (Ne.symm other)] at found
    exact ⟨d, found, shape_refl d⟩

theorem moved_settled (act : Act) (here : channels[k]? = some c) (same : next.id = c.id) : Moved channels (settled channels k next act) k next := by
  have placed := moved_set channels k c next here same
  cases act with
  | remove =>
      have entry : ∀ d : Channel, FrameShape d (if d.id = next.id then d.unlist else d) := by
        intro d
        by_cases gone : d.id = next.id
        · simpa only [if_pos gone] using unlist_shape d
        · simpa only [if_neg gone] using shape_refl d
      refine ⟨?_, ?_, ?_⟩
      · rw [← placed.ids]
        simp only [settled, removeKey, List.map_map]
        exact List.map_congr_left fun d _ => (entry d).id
      · intro d found
        simp only [settled, removeKey, List.getElem?_map, Option.map_eq_some_iff] at found
        obtain ⟨b, at_k, rfl⟩ := found
        have first := placed.here b at_k
        have second := entry b
        exact ⟨second.id.trans first.id, second.side.trans first.side, second.phase.trans first.phase,
          second.out.trans first.out, second.cancel.trans first.cancel⟩
      · intro j d other found
        simp only [settled, removeKey, List.getElem?_map, Option.map_eq_some_iff] at found
        obtain ⟨b, at_j, rfl⟩ := found
        rw [List.getElem?_set_ne (Ne.symm other)] at at_j
        exact ⟨b, at_j, entry b⟩
  | _ => exact placed

end

-- What one end has said so far: `opened` lists the ids it was asked to open.
structure Speech (side : Side) (opened : List ChannelId) (channels : List Channel) (emitted : List Frame) : Prop where
  asked : (channels.map Channel.id).Sublist opened
  foreign : ∀ id, id ∉ opened → framesOf id emitted = []
  own : opened.Nodup → ∀ c ∈ channels, framesOf c.id emitted = c.out
  rest : opened.Nodup → ∀ id, id ∉ channels.map Channel.id → Spoken id side (framesOf id emitted)

theorem index_apart (channels : List Channel) (distinct : (channels.map Channel.id).Nodup) (j k : Nat) (b c : Channel)
    (at_j : channels[j]? = some b) (at_k : channels[k]? = some c) (other : j ≠ k) : b.id ≠ c.id := by
  intro same
  refine other ((List.getElem?_inj ?_ distinct).mp ?_)
  · simpa using (List.getElem?_eq_some_iff.mp at_j).1
  · simp [at_j, at_k, same]

section
variable (side : Side) (opened : List ChannelId) (channels : List Channel) (emitted : List Frame)

theorem speech_map (change : Channel → Channel) (shape : ∀ c, FrameShape c (change c)) (speech : Speech side opened channels emitted) :
    Speech side opened (channels.map change) emitted := by
  have ids : (channels.map change).map Channel.id = channels.map Channel.id := by
    rw [List.map_map]
    exact List.map_congr_left fun c _ => (shape c).id
  refine ⟨ids ▸ speech.asked, speech.foreign, ?_, ids ▸ speech.rest⟩
  intro distinct c member
  obtain ⟨before, listed, rfl⟩ := List.mem_map.mp member
  rw [(shape before).id, (shape before).out]
  exact speech.own distinct before listed

theorem speech_open (c : Channel) (quiet : c.out = []) (speech : Speech side opened channels emitted) :
    Speech side (opened ++ [c.id]) (channels ++ [c]) emitted := by
  refine ⟨?_, ?_, ?_, ?_⟩
  · simpa using speech.asked.append (List.Sublist.refl [c.id])
  · intro id absent
    exact speech.foreign id (fun member => absent (List.mem_append_left _ member))
  · intro distinct d member
    have before := List.nodup_append.mp distinct
    rcases List.mem_append.mp member with old | new
    · exact speech.own before.1 d old
    · obtain rfl := List.mem_singleton.mp new
      rw [quiet]
      exact speech.foreign d.id (fun member => before.2.2 d.id member d.id (by simp) rfl)
  · intro distinct id absent
    exact speech.rest (List.nodup_append.mp distinct).1 id (fun member => absent (by
      rw [List.map_append]
      exact List.mem_append_left _ member))

end

-- An `open` that gets no channel: at most the refusal is said about its id.
theorem speech_turn_away (opened : List ChannelId) (channels : List Channel) (emitted : List Frame) (id : ChannelId)
    (reply : Option Frame) (refusal : ∀ frame, reply = some frame → ∃ message, frame = .openedMsg id false message 0)
    (speech : Speech .controlled opened channels emitted) :
    Speech .controlled (opened ++ [id]) channels (emitted ++ reply.toList) := by
  have own : ∀ frame, reply = some frame → frame.channelId = id := by
    intro frame sent
    obtain ⟨message, rfl⟩ := refusal frame sent
    rfl
  have aside : ∀ other, id ≠ other → framesOf other (emitted ++ reply.toList) = framesOf other emitted := by
    intro other different
    rw [frames_of_append, frames_of_other other id reply own different, List.append_nil]
  refine ⟨?_, ?_, ?_, ?_⟩
  · exact speech.asked.trans (List.sublist_append_left opened [id])
  · intro other absent
    rw [aside other (fun same => absent (by simp [same]))]
    exact speech.foreign other (fun member => absent (List.mem_append_left _ member))
  · intro distinct c member
    have before := List.nodup_append.mp distinct
    have known : c.id ∈ opened := speech.asked.subset (List.mem_map_of_mem member)
    rw [aside c.id (fun same => before.2.2 c.id known id (by simp) same.symm)]
    exact speech.own before.1 c member
  · intro distinct other absent
    have before := List.nodup_append.mp distinct
    by_cases same : id = other
    · subst same
      have fresh : id ∉ opened := fun member => before.2.2 id member id (by simp) rfl
      rw [frames_of_append, speech.foreign id fresh, frames_of_own id reply own, List.nil_append]
      cases reply with
      | none => exact .silent .controlled
      | some frame =>
          obtain ⟨message, rfl⟩ := refusal frame rfl
          exact .refused message
    · rw [aside other same]
      exact speech.rest before.1 other absent

theorem speech_task (side : Side) (opened : List ChannelId) (before after : List Channel) (emitted : List Frame) (k : Nat)
    (c next : Channel) (frame : Option Frame) (here : before[k]? = some c) (shape : StepShape c next frame)
    (moved : Moved before after k next) (speech : Speech side opened before emitted) :
    Speech side opened after (emitted ++ frame.toList) := by
  have aside : ∀ other, c.id ≠ other → framesOf other (emitted ++ frame.toList) = framesOf other emitted := by
    intro other different
    rw [frames_of_append, frames_of_other other c.id frame shape.own different, List.append_nil]
  have member : c ∈ before := List.mem_of_getElem? here
  have known : c.id ∈ before.map Channel.id := List.mem_map_of_mem member
  refine ⟨moved.ids ▸ speech.asked, ?_, ?_, ?_⟩
  · intro id absent
    rw [aside id (fun same => absent (speech.asked.subset (same ▸ known)))]
    exact speech.foreign id absent
  · intro distinct d found
    obtain ⟨j, at_j⟩ := List.mem_iff_getElem?.mp found
    by_cases same : j = k
    · subst same
      have moving := moved.here d at_j
      rw [moving.id, moving.out, shape.id, shape.out, frames_of_append, speech.own distinct c member,
        frames_of_own c.id frame shape.own]
    · obtain ⟨b, at_b, kept⟩ := moved.elsewhere j d same at_j
      have apart := index_apart before (speech.asked.nodup distinct) j k b c at_b here same
      rw [kept.id, kept.out, aside b.id (Ne.symm apart)]
      exact speech.own distinct b (List.mem_of_getElem? at_b)
  · intro distinct id absent
    rw [moved.ids] at absent
    rw [aside id (fun same => absent (same ▸ known))]
    exact speech.rest distinct id absent

-- The queues carry what their names say, and the stream gets the ordered frames in
-- the order they were handed over.
structure HandleQueues (h : TunnelHandle) : Prop where
  data : ∀ frame ∈ h.dataQueue, frame.ordered = true
  control : ∀ frame ∈ h.controlQueue, frame.ordered = false
  serving : h.loop = .running → h.sent.filter Frame.ordered ++ h.dataQueue = h.emitted.filter Frame.ordered
  onWire : h.sent.filter Frame.ordered <+: h.emitted.filter Frame.ordered

theorem queues_step (h next : TunnelHandle) (act : HandleAct) (queues : HandleQueues h) (step : HandleStep h act next) :
    HandleQueues next := by
  have data := queues.data
  have control := queues.control
  cases step with
  | openCheck alive => exact ⟨data, control, queues.serving, queues.onWire⟩
  | openFull host port prebuf called full => exact ⟨data, control, queues.serving, queues.onWire⟩
  | openInsert host port prebuf called room id free => exact ⟨data, control, queues.serving, queues.onWire⟩
  | task k act c after frame here allowed step =>
      rw [enqueue_eq]
      refine ⟨?_, ?_, ?_, ?_⟩
      · intro queued member
        rcases List.mem_append.mp member with old | new
        · exact data queued old
        · exact (List.mem_filter.mp new).2
      · intro queued member
        rcases List.mem_append.mp member with old | new
        · exact control queued old
        · simpa using (List.mem_filter.mp new).2
      · intro running
        simp only [TunnelHandle.settle, List.filter_append, ← List.append_assoc, queues.serving running]
      · simp only [TunnelHandle.settle, List.filter_append]
        exact queues.onWire.trans (List.prefix_append ..)
  | sentControl frame rest serving queued =>
      rw [queued] at control
      have unordered : Frame.ordered frame = false := control frame (List.mem_cons_self ..)
      have same : (h.sent ++ [frame]).filter Frame.ordered = h.sent.filter Frame.ordered := by simp [unordered]
      refine ⟨data, fun later member => control later (List.mem_cons_of_mem _ member), ?_, ?_⟩
      · intro running
        rw [same]
        exact queues.serving running
      · rw [same]
        exact queues.onWire
  | lostControl frame rest serving queued =>
      rw [queued] at control
      exact ⟨data, fun later member => control later (List.mem_cons_of_mem _ member), (fun running => nomatch running),
        queues.onWire⟩
  | sentData frame rest serving queued =>
      rw [queued] at data
      have ordered : Frame.ordered frame = true := data frame (List.mem_cons_self ..)
      have moved : (h.sent ++ [frame]).filter Frame.ordered ++ rest = h.emitted.filter Frame.ordered := by
        have line := queues.serving serving
        rw [queued] at line
        simpa [ordered] using line
      exact ⟨fun later member => data later (List.mem_cons_of_mem _ member), control, fun _ => moved, ⟨rest, moved⟩⟩
  | lostData frame rest serving queued =>
      rw [queued] at data
      exact ⟨fun later member => data later (List.mem_cons_of_mem _ member), control, (fun running => nomatch running),
        queues.onWire⟩
  | receive frame now serving => exact ⟨data, control, queues.serving, queues.onWire⟩
  | breakLoop serving => exact ⟨data, control, (fun running => nomatch running), queues.onWire⟩
  | clear here => exact ⟨data, control, (fun running => nomatch running), queues.onWire⟩
  | raiseTeardown here => exact ⟨data, control, (fun running => nomatch running), queues.onWire⟩
  | unset here => exact ⟨data, control, (fun running => nomatch running), queues.onWire⟩
  | dropControl here => exact ⟨data, by simp, (fun running => nomatch running), queues.onWire⟩
  | dropData here => exact ⟨by simp, control, (fun running => nomatch running), queues.onWire⟩

def HandleSpeech (h : TunnelHandle) : Prop := Speech .controller (h.channels.map Channel.id) h.channels h.emitted

theorem handle_speech_step (h next : TunnelHandle) (act : HandleAct) (speech : HandleSpeech h)
    (taken : h.step act = some next) : HandleSpeech next := by
  have same : ∀ change : Channel → Channel, (∀ c, FrameShape c (change c)) →
      Speech .controller ((h.channels.map change).map Channel.id) (h.channels.map change) h.emitted := by
    intro change shape
    have ids : (h.channels.map change).map Channel.id = h.channels.map Channel.id := by
      rw [List.map_map]
      exact List.map_congr_left fun c _ => (shape c).id
    rw [ids]
    exact speech_map _ _ _ _ change shape speech
  cases handle_step h next act taken with
  | openInsert host port prebuf called room id free =>
      simpa only [HandleSpeech, List.map_append, List.map_cons, List.map_nil] using
        speech_open _ _ _ _ (Channel.controller id host port prebuf) rfl speech
  | task k act c after frame here allowed step =>
      have shape := channel_step_shape c after act frame step
      have moved := moved_settled h.channels k c after act here shape.id
      rw [enqueue_eq]
      simp only [HandleSpeech, TunnelHandle.settle, moved.ids]
      exact speech_task _ _ _ _ _ k c after frame here shape moved speech
  | receive frame now serving => exact same _ (fun c => on_frame_shape c frame)
  | clear here => exact same _ unlist_shape
  | _ => exact speech

structure MuxSpeech (m : PortForwardMux) : Prop where
  speech : Speech .controlled m.handled m.channels m.emitted
  onWire : m.sent <+: m.emitted
  serving : m.loop = .running → m.sent ++ m.tx = m.emitted

theorem retain_shape (c : Channel) : FrameShape c (if c.receiving then c else c.unlist) := by
  cases alive : c.receiving with
  | true => simpa using shape_refl c
  | false => simpa using unlist_shape c

section
variable (m next : PortForwardMux) (frame : Frame) (permitted : Bool)

theorem handled_speech (speech : Speech .controlled m.handled m.channels m.emitted) (handled : Handled m frame permitted next) :
    Speech .controlled next.handled next.channels next.emitted := by
  have retained := speech_map _ _ _ _ _ retain_shape speech
  cases handled with
  | refused id host port window message opening cause =>
      exact speech_turn_away _ _ _ id (some (.openedMsg id false message 0))
        (fun reply same => ⟨message, (Option.some.inj same).symm⟩) retained
  | ignored id host port window opening live =>
      simpa [retain] using speech_turn_away _ _ _ id none (fun reply impossible => nomatch impossible) retained
  | accepted id host port window addr isRdp opening room free target =>
      exact speech_open _ _ _ _ (Channel.controlled id addr isRdp window) rfl retained
  | routed other => exact speech_map _ _ _ _ _ (fun c => on_frame_shape c frame) speech

theorem handled_queue (handled : Handled m frame permitted next) :
    next.sent = m.sent ∧ next.loop = m.loop ∧ ∃ reply, next.tx = m.tx ++ reply ∧ next.emitted = m.emitted ++ reply := by
  cases handled with
  | refused id host port window message opening cause => exact ⟨rfl, rfl, _, rfl, rfl⟩
  | ignored id host port window opening live => exact ⟨rfl, rfl, [], by simp, by simp⟩
  | accepted id host port window addr isRdp opening room free target => exact ⟨rfl, rfl, [], by simp, by simp⟩
  | routed other => exact ⟨rfl, rfl, [], by simp, by simp⟩

end

theorem mux_speech_step (m next : PortForwardMux) (act : MuxAct) (said : MuxSpeech m) (taken : m.step act = some next) :
    MuxSpeech next := by
  cases mux_step m next act taken with
  | handle frame permitted next serving handled =>
      obtain ⟨sent, loop, reply, tx, emitted⟩ := handled_queue m next frame permitted handled
      refine ⟨handled_speech m next frame permitted said.speech handled, ?_, ?_⟩
      · rw [sent, emitted]
        exact said.onWire.trans (List.prefix_append ..)
      · intro running
        rw [sent, tx, emitted, ← List.append_assoc, said.serving serving]
  | task k act c after frame here allowed step =>
      have shape := channel_step_shape c after act frame step
      have moved := moved_set m.channels k c after here shape.id
      refine ⟨speech_task _ _ _ _ _ k c after frame here shape moved said.speech, ?_, ?_⟩
      · exact said.onWire.trans (List.prefix_append ..)
      · intro running
        simp only [PortForwardMux.enqueue, ← List.append_assoc, said.serving running]
  | sentFrame frame rest serving queued =>
      have line : m.sent ++ [frame] ++ rest = m.emitted := by simpa [queued] using said.serving serving
      exact ⟨said.speech, ⟨rest, line⟩, fun _ => line⟩
  | lostFrame frame rest serving queued => exact ⟨said.speech, said.onWire, fun running => nomatch running⟩
  | breakLoop serving => exact ⟨said.speech, said.onWire, fun running => nomatch running⟩
  | clear here =>
      exact ⟨speech_map _ _ _ _ _ unlist_shape said.speech, said.onWire, fun running => nomatch running⟩
  | raiseTeardown here => exact ⟨said.speech, said.onWire, fun running => nomatch running⟩
  | dropTx here => exact ⟨said.speech, said.onWire, fun running => nomatch running⟩

theorem speech_spoken (side : Side) (opened : List ChannelId) (channels : List Channel) (emitted : List Frame)
    (id : ChannelId) (speech : Speech side opened channels emitted) (distinct : opened.Nodup)
    (legal : ∀ c ∈ channels, c.side = side ∧ Legal c) : Spoken id side (framesOf id emitted) := by
  by_cases absent : id ∈ channels.map Channel.id
  · obtain ⟨c, member, rfl⟩ := List.mem_map.mp absent
    obtain ⟨rfl, lawful⟩ := legal c member
    rw [speech.own distinct c member]
    exact legal_spoken c lawful
  · exact speech.rest distinct id absent

theorem side_kept (side : Side) : Kept (fun c => c.side = side) :=
  ⟨fun c act next frame same step => (channel_step_shape c next act frame step).side.trans same,
    fun c frame same => (on_frame_shape c frame).side.trans same, fun _ same => same⟩

theorem handle_spoken (h : TunnelHandle) (reach : Machine.Reachable TunnelHandle.step .new h)
    (distinct : (h.channels.map Channel.id).Nodup) (id : ChannelId) : Spoken id .controller (framesOf id h.emitted) := by
  have speech : HandleSpeech h := Machine.reachable_invariant TunnelHandle.step HandleSpeech .new h
    ⟨List.Sublist.refl _, fun _ _ => rfl, by simp [TunnelHandle.new], fun _ _ _ => .silent .controller⟩
    (fun state act next said taken => handle_speech_step state next act said taken) reach
  refine speech_spoken _ _ _ _ id speech distinct fun c member => ⟨?_, ?_⟩
  · exact handle_channels _ (side_kept .controller) (fun _ _ _ _ => rfl) h reach c member
  · exact (handle_channels _ legal_kept legal_controller h reach c member).2

theorem mux_said (loginTarget : String) (m : PortForwardMux)
    (reach : Machine.Reachable PortForwardMux.step (.new loginTarget) m) : MuxSpeech m :=
  Machine.reachable_invariant PortForwardMux.step MuxSpeech (.new loginTarget) m
    ⟨⟨List.Sublist.refl _, fun _ _ => rfl, by simp [PortForwardMux.new], fun _ _ _ => .silent .controlled⟩,
      List.prefix_refl _, fun _ => rfl⟩
    (fun state act next said taken => mux_speech_step state next act said taken) reach

theorem mux_spoken (loginTarget : String) (m : PortForwardMux)
    (reach : Machine.Reachable PortForwardMux.step (.new loginTarget) m) (distinct : m.handled.Nodup) (id : ChannelId) :
    Spoken id .controlled (framesOf id m.emitted) := by
  refine speech_spoken _ _ _ _ id (mux_said loginTarget m reach).speech distinct fun c member => ⟨?_, ?_⟩
  · exact mux_channels _ (side_kept .controlled) (fun _ _ _ _ => rfl) loginTarget m reach c member
  · exact (mux_channels _ legal_kept legal_controlled loginTarget m reach c member).2

theorem handle_queues (h : TunnelHandle) (reach : Machine.Reachable TunnelHandle.step .new h) : HandleQueues h :=
  Machine.reachable_invariant TunnelHandle.step HandleQueues .new h
    ⟨by simp [TunnelHandle.new], by simp [TunnelHandle.new], fun _ => rfl, List.prefix_refl _⟩
    (fun state act next queues taken => queues_step state next act queues (handle_step state next act taken)) reach

-- Whatever the peer does, as long as no id is opened twice on either end. The last
-- two parts carry the order over to the stream.
theorem wire_grammar (loginTarget : String) (h : TunnelHandle) (m : PortForwardMux) (id : ChannelId)
    (controller : Machine.Reachable TunnelHandle.step .new h)
    (controlled : Machine.Reachable PortForwardMux.step (.new loginTarget) m)
    (fresh : (h.channels.map Channel.id).Nodup) (once : m.handled.Nodup) :
    Spoken id .controller (framesOf id h.emitted) ∧ Spoken id .controlled (framesOf id m.emitted) ∧
      (framesOf id h.sent).filter Frame.ordered <+: (framesOf id h.emitted).filter Frame.ordered ∧
      framesOf id m.sent <+: framesOf id m.emitted := by
  refine ⟨handle_spoken h controller fresh id, mux_spoken loginTarget m controlled once id, ?_, ?_⟩
  · have wire := (handle_queues h controller).onWire.filter (fun frame => frame.channelId == id)
    simpa only [framesOf, List.filter_filter, Bool.and_comm] using wire
  · exact (mux_said loginTarget m controlled).onWire.filter _

-- One connection from each end: the local side sends its head and closes, and the
-- target connects, answers and is closed by the peer.
def localClose : List HandleAct :=
  [.openCheck, .openInsert "" 80 [7], .task 0 .spawn, .task 0 (.sendOpen true), .task 0 (.toTunnel .take),
    .task 0 (.toTunnel (.read [])), .task 0 (.toTunnel (.send true)), .sendData true, .task 0 (.toTunnel .take),
    .task 0 (.toTunnel (.read [])), .task 0 (.cancelHalves false), .task 0 (.toSocket .cancel), .task 0 .join,
    .task 0 (.sendClose true), .task 0 .remove]

def peerClose : List MuxAct :=
  [.handle (.openMsg 1 "" 80 0) true, .task 0 (.command true), .task 0 .connectOk, .task 0 (.sendOpened true),
    .task 0 (.toTunnel .take), .task 0 (.toTunnel (.read [9])), .task 0 (.toTunnel (.send true)), .transmit true,
    .handle (.closeMsg 1) true, .task 0 (.toSocket .next)]

theorem local_close_runs : (Machine.run TunnelHandle.step .new localClose).isSome = true := by decide

theorem peer_close_runs : (Machine.run PortForwardMux.step (.new "localhost:80") peerClose).isSome = true := by decide

theorem wire_grammar_one_channel :
    let h := (Machine.run TunnelHandle.step .new localClose).get local_close_runs
    let m := (Machine.run PortForwardMux.step (.new "localhost:80") peerClose).get peer_close_runs
    h.emitted = [.openMsg 1 "" 80 channelWindow, .dataMsg 1 [7], .closeMsg 1] ∧
      m.emitted = [.openedMsg 1 true "" channelWindow, .dataMsg 1 [9]] ∧
      Spoken 1 .controller (framesOf 1 h.emitted) ∧ Spoken 1 .controlled (framesOf 1 m.emitted) ∧
      (framesOf 1 h.sent).filter Frame.ordered <+: (framesOf 1 h.emitted).filter Frame.ordered ∧
      framesOf 1 m.sent <+: framesOf 1 m.emitted :=
  ⟨by decide, by decide, wire_grammar "localhost:80" _ _ 1 (Machine.reachable_run _ _ _ local_close_runs)
    (Machine.reachable_run _ _ _ peer_close_runs) (by decide) (by decide)⟩

end GotechDesk.PortForward
