import GotechDesk.PortForward.TunnelLinks

set_option autoImplicit false

namespace GotechDesk.PortForward

-- The channels that stand once a line of frames has been handled, if every `open` in
-- it is taken.
def Frame.stands (live : Finset ChannelId) : Frame → Finset ChannelId
  | .openMsg id _ _ _ => insert id live
  | .closeMsg id => live.erase id
  | _ => live

def standing (live : Finset ChannelId) (frames : List Frame) : Finset ChannelId := frames.foldl Frame.stands live

def alive (live : Bool) : List Frame → Bool
  | [] => live
  | .openMsg _ _ _ _ :: rest => alive true rest
  | .closeMsg _ :: rest => alive false rest
  | _ :: rest => alive live rest

theorem standing_append (live : Finset ChannelId) (a b : List Frame) :
    standing live (a ++ b) = standing (standing live a) b := List.foldl_append ..

theorem stands_mono (a b : Finset ChannelId) (frame : Frame) (less : a ⊆ b) : frame.stands a ⊆ frame.stands b := by
  cases frame with
  | openMsg id host port window => exact Finset.insert_subset_insert _ less
  | closeMsg id => exact Finset.erase_subset_erase _ less
  | _ => exact less

theorem standing_mono (a b : Finset ChannelId) (frames : List Frame) (less : a ⊆ b) : standing a frames ⊆ standing b frames := by
  induction frames generalizing a b with
  | nil => exact less
  | cons frame rest ih => exact ih _ _ (stands_mono a b frame less)

theorem standing_known (ids live : Finset ChannelId) (frames : List Frame) (within : live ⊆ ids)
    (known : ∀ frame ∈ frames, frame.channelId ∈ ids) : standing live frames ⊆ ids := by
  induction frames generalizing live with
  | nil => exact within
  | cons frame rest ih =>
      refine ih _ ?_ fun later member => known later (List.mem_cons_of_mem _ member)
      cases frame with
      | openMsg id host port window => exact Finset.insert_subset (known _ (List.mem_cons_self ..)) within
      | closeMsg id => exact (Finset.erase_subset _ _).trans within
      | _ => exact within

theorem mem_stands_other (live : Finset ChannelId) (id : ChannelId) (frame : Frame) (foreign : frame.channelId ≠ id) :
    id ∈ frame.stands live ↔ id ∈ live := by
  cases frame <;> simp_all [Frame.stands, Frame.channelId, eq_comm]

-- Whether a channel stands is decided by its own frames.
theorem mem_standing (live : Finset ChannelId) (id : ChannelId) (frames : List Frame) :
    id ∈ standing live frames ↔ alive (decide (id ∈ live)) (lineOf id frames) = true := by
  induction frames generalizing live with
  | nil => simp [standing, lineOf, framesOf, alive]
  | cons frame rest ih =>
      have next : id ∈ standing live (frame :: rest) ↔ alive (decide (id ∈ frame.stands live)) (lineOf id rest) = true :=
        ih (frame.stands live)
      rw [next]
      by_cases mine : frame.channelId = id
      · have first : lineOf id (frame :: rest) = if frame.ordered then frame :: lineOf id rest else lineOf id rest := by
          simp only [lineOf, framesOf, List.filter_cons, mine, beq_self_eq_true, if_true]
        rw [first]
        cases frame with
        | openMsg other host port window | closeMsg other =>
            obtain rfl : other = id := mine
            simp [Frame.ordered, alive, Frame.stands]
        | _ => exact Iff.rfl
      · have skip : lineOf id (frame :: rest) = lineOf id rest := by simp [lineOf, framesOf, mine]
        simp only [skip, mem_stands_other live id frame mine]

theorem alive_append (live : Bool) (a b : List Frame) : alive live (a ++ b) = alive (alive live a) b := by
  induction a generalizing live with
  | nil => rfl
  | cons frame rest ih => cases frame <;> exact ih _

theorem alive_unopened (frames : List Frame) (none : ∀ id host port window, Frame.openMsg id host port window ∉ frames) :
    alive false frames = false := by
  induction frames with
  | nil => rfl
  | cons frame rest ih =>
      have tail := ih fun id host port window member => none id host port window (List.mem_cons_of_mem _ member)
      cases frame with
      | openMsg id host port window => exact absurd (List.mem_cons_self ..) (none id host port window)
      | _ => exact tail

-- An entry of the controlled side that counts against its cap: a sweep leaves it, and
-- its task has not told the controller that it is over.
def Channel.counts (s : Channel) : Bool := s.listed && s.receiving && s.phase != .leaving

theorem counts_iff (s : Channel) :
    s.counts = true ↔ s.listed = true ∧ s.phase ≠ .done ∧ s.toSocket.hasEnded = false ∧ s.phase ≠ .leaving := by
  simp [Channel.counts, Channel.receiving, and_assoc]

theorem grant_ended (half : TunnelToSocket) (n : Nat) : (half.grant n).hasEnded = half.hasEnded := rfl

-- Nothing a task does, and nothing the map loses, makes an entry count.
theorem counts_step (s next : Channel) (act : Act) (frame : Option Frame) (step : ChannelStep s act next frame)
    (counts : next.counts = true) : s.counts = true := by
  have listed := (channel_step_got s next act frame step).2.2
  obtain ⟨entry, running, receiving, staying⟩ := (counts_iff next).mp counts
  refine (counts_iff s).mpr ⟨listed entry, ?_⟩
  cases step with
  | toTunnel act half frame relays step => exact ⟨running, receiving, staying⟩
  | toSocket act half frame relays step =>
      refine ⟨running, ?_, staying⟩
      cases here : s.toSocket.point with
      | ended reason => cases step <;> simp_all
      | _ => simp [TunnelToSocket.hasEnded, here]
  | remove here => exact absurd rfl running
  | commandEnd sent addr isRdp here ending => exact absurd rfl running
  | leave here => exact absurd rfl running
  | connectOk addr isRdp here => exact ⟨by simp [here], (grant_ended _ _).symm.trans receiving, by simp [here]⟩
  | _ => exact ⟨by simp_all, receiving, by simp_all⟩

theorem counts_frame (s : Channel) (frame : Frame) (counts : (s.onFrame frame).counts = true) : s.counts = true := by
  have shape := on_frame_shape s frame
  have keep := on_frame_keep s frame
  obtain ⟨entry, running, receiving, staying⟩ := (counts_iff _).mp counts
  rw [shape.phase] at running staying
  refine (counts_iff s).mpr ⟨keep.listed entry, running, ?_, staying⟩
  simpa only [TunnelToSocket.hasEnded, keep.socketPoint] using receiving

theorem absent_counts (id : ChannelId) : (Channel.absent id).counts = false := rfl

theorem up_unopened (l : Link) (kept : LinkInv l) (begun : l.up.done ≠ []) (id : ChannelId) (host : String) (port : Int)
    (window : Nat) : Frame.openMsg id host port window ∉ l.up.frames := by
  intro member
  obtain ⟨first, later, split⟩ := List.append_of_mem member
  obtain ⟨tail, same, _⟩ := kept.wired.up
  have spoken := legal_spoken l.ctl kept.wired.ctl.legal
  rw [kept.wired.ctlSide] at spoken
  have line : l.ctl.out.filter Frame.ordered = (l.up.done ++ first) ++ .openMsg id host port window :: (later ++ tail) := by
    rw [same, split]
    simp
  have empty := controller_opens_first l.ctl.id id l.ctl.out _ _ host port window spoken line
  exact begun (List.append_eq_nil_iff.mp empty).1

-- The controller's close has gone out: the channel does not stand.
theorem closed_falls (l : Link) (kept : LinkInv l) (heard : Heard l) (up : l.up.cut = false)
    (closed : Frame.closeMsg l.ctl.id ∈ l.ctl.out) : alive l.srv.counts l.up.frames = false := by
  obtain ⟨tail, same, whole⟩ := kept.wired.up
  obtain rfl := whole up
  have spoken := legal_spoken l.ctl kept.wired.ctl.legal
  have member : Frame.closeMsg l.ctl.id ∈ l.up.done ++ l.up.frames := by
    rw [← List.append_nil (l.up.done ++ l.up.frames), ← same]
    exact List.mem_filter.mpr ⟨closed, rfl⟩
  rcases List.mem_append.mp member with old | queued
  · obtain ⟨first, later, split⟩ := List.append_of_mem old
    have last := spoken_end_last _ _ _ first (later ++ l.up.frames) (.closeMsg l.ctl.id) spoken (by simp [same, split]) rfl
    rw [(List.append_eq_nil_iff.mp last).2]
    simp [alive, Channel.counts, heard.closed old]
  · obtain ⟨first, later, split⟩ := List.append_of_mem queued
    have last := spoken_end_last _ _ _ (l.up.done ++ first) later (.closeMsg l.ctl.id) spoken (by simp [same, split]) rfl
    rw [split, last, alive_append]
    rfl

theorem end_announced (s : Channel) (account : Account s) (legal : Legal s) (side : s.side = .controlled) (frame : Frame)
    (said : frame ∈ s.out) (ends : frame.ends = true) : s.counts = false := by
  have flowing : ¬ Flow s.id s.side s.out := fun flow => by simp [flow_no_end _ _ _ flow frame said] at ends
  have sided := account.sided
  cases here : s.phase <;> simp only [Legal, here] at legal
  case relaying | joining | closing => exact absurd legal flowing
  case leaving => simp [Channel.counts, here]
  case removing => simp [here, side, Phase.fits] at sided
  case done => simp [Channel.counts, Channel.receiving, here]
  all_goals simp [legal] at said

-- A word that ends the channel is on its way back: the channel does not stand.
theorem ended_falls (l : Link) (kept : LinkInv l) (heard : Heard l) (frame : Frame) (member : frame ∈ l.down.frames)
    (ends : frame.ends = true) : alive l.srv.counts l.up.frames = false := by
  have wired := kept.wired
  have silent : l.srv.phase = .unborn → l.srv.out = [] := fun unborn => by rw [wired.unborn unborn]; rfl
  have said := line_mem _ _ frame wired.down (.inr member)
  rcases List.mem_append.mp said with reply | own
  · have turned : l.refusal ≠ none := by
      intro none
      simp [none] at reply
    have beyond : l.srv.counts = false := by
      rw [wired.unborn (wired.turned turned)]
      exact absent_counts _
    rw [beyond]
    exact alive_unopened _ (up_unopened l kept fun empty => turned (heard.begun empty).2)
  · have spoken := List.mem_of_mem_filter own
    rw [end_announced l.srv wired.srv.account wired.srv.legal wired.srvSide frame spoken ends]
    refine alive_unopened _ (up_unopened l kept fun empty => ?_)
    rw [silent (heard.begun empty).1] at spoken
    cases spoken

-- A channel whose `open` has not gone out: nothing is on its way, either way.
theorem unopened_silent (l : Link) (kept : LinkInv l) (heard : Heard l) (silent : l.ctl.out = []) :
    alive l.srv.counts l.up.frames = false ∧ l.down.frames = [] := by
  have wired := kept.wired
  obtain ⟨tail, same, _⟩ := wired.up
  rw [silent] at same
  have empty := List.append_eq_nil_iff.mp same.symm
  have both := List.append_eq_nil_iff.mp empty.1
  obtain ⟨unborn, pending⟩ := heard.begun both.1
  have absent := wired.unborn unborn
  refine ⟨by rw [both.2, absent]; rfl, ?_⟩
  obtain ⟨rest, said, _⟩ := wired.down
  simp only [Link.said, pending, absent] at said
  exact (List.append_eq_nil_iff.mp (List.append_eq_nil_iff.mp said.symm).1).2

def countedIds (channels : List Channel) : Finset ChannelId := ((channels.filter Channel.counts).map Channel.id).toFinset

theorem mem_counted (channels : List Channel) (id : ChannelId) :
    id ∈ countedIds channels ↔ ∃ s ∈ channels, s.counts = true ∧ s.id = id := by
  simp [countedIds, and_assoc]

theorem counted_map (channels : List Channel) (change : Channel → Channel)
    (less : ∀ s, (change s).counts = true → s.counts = true ∧ (change s).id = s.id) :
    countedIds (channels.map change) ⊆ countedIds channels := by
  intro id member
  obtain ⟨s, inside, counts, same⟩ := (mem_counted _ id).mp member
  obtain ⟨before, old, rfl⟩ := List.mem_map.mp inside
  obtain ⟨counted, alike⟩ := less before counts
  exact (mem_counted channels id).mpr ⟨before, old, counted, alike.symm.trans same⟩

theorem counts_unlist (s : Channel) : s.unlist.counts = false := rfl

theorem counted_retain (channels : List Channel) : countedIds (retain channels) ⊆ countedIds channels := by
  refine counted_map channels _ fun s counts => ?_
  cases alive : s.receiving with
  | true => simpa [alive] using counts
  | false => simp [alive, counts_unlist] at counts

theorem counted_task (channels : List Channel) (k : Nat) (s after : Channel) (act : Act) (frame : Option Frame)
    (here : channels[k]? = some s) (step : ChannelStep s act after frame) :
    countedIds (channels.set k after) ⊆ countedIds channels := by
  intro id member
  obtain ⟨d, inside, counts, same⟩ := (mem_counted _ id).mp member
  rcases List.mem_or_eq_of_mem_set inside with old | rfl
  · exact (mem_counted channels id).mpr ⟨d, old, counts, same⟩
  · refine (mem_counted channels id).mpr ⟨s, List.mem_of_getElem? here, counts_step s d act frame step counts, ?_⟩
    exact (channel_step_shape s d act frame step).id.symm.trans same

theorem counted_mux (m next : PortForwardMux) (act : MuxAct) (own : act.handles = false) (step : MuxStep m act next) :
    countedIds next.channels ⊆ countedIds m.channels := by
  cases step with
  | handle frame permitted next serving handled => cases own
  | task k act s after frame here allowed step => exact counted_task m.channels k s after act frame here step
  | clear here => exact counted_map m.channels Channel.unlist fun s counts => nomatch counts
  | _ => exact Finset.Subset.refl _

-- Handling a frame leaves no more entries that count than the frame lets stand.
theorem counted_handled (m next : PortForwardMux) (frame : Frame) (permitted : Bool) (handled : Handled m frame permitted next) :
    countedIds next.channels ⊆ frame.stands (countedIds m.channels) := by
  have swept := counted_retain m.channels
  cases handled with
  | refused id host port window message opening cause | ignored id host port window opening live =>
      subst opening
      exact swept.trans (Finset.subset_insert _ _)
  | accepted id host port window addr isRdp opening room free target =>
      subst opening
      intro other member
      obtain ⟨s, inside, counts, same⟩ := (mem_counted _ other).mp member
      rcases List.mem_append.mp inside with old | new
      · exact Finset.mem_insert_of_mem (swept ((mem_counted _ other).mpr ⟨s, old, counts, same⟩))
      · rw [List.mem_singleton.mp new] at same
        exact same ▸ Finset.mem_insert_self ..
  | routed other =>
      have less : countedIds (m.channels.map (fun s => s.onFrame frame)) ⊆ countedIds m.channels :=
        counted_map m.channels _ fun s counts => ⟨counts_frame s frame counts, (on_frame_shape s frame).id⟩
      cases frame with
      | openMsg id host port window => exact absurd rfl (other id host port window)
      | closeMsg id =>
          intro kept member
          refine Finset.mem_erase.mpr ⟨?_, less member⟩
          rintro rfl
          obtain ⟨s, inside, counts, same⟩ := (mem_counted _ _).mp member
          obtain ⟨before, old, rfl⟩ := List.mem_map.mp inside
          have gone := close_unlists before kept ((on_frame_shape before _).id.symm.trans same)
          simp [Channel.counts, gone] at counts
      | _ => exact less

end GotechDesk.PortForward
