import GotechDesk.PortForward.Standing
import GotechDesk.PortForward.Steady

set_option autoImplicit false

namespace GotechDesk.PortForward

def Tunnel.lineUp (t : Tunnel) : List Frame :=
  (t.onWayUp ++ if decide (t.ctl.loop = .running) then t.ctl.dataQueue else []).filter Frame.ordered

-- Wherever an `open` stands in the line, there is room for it once what is before it
-- has been handled.
def Room (live : Finset ChannelId) (line : List Frame) : Prop :=
  ∀ before id host port window after, line = before ++ .openMsg id host port window :: after →
    (standing live before).card < maxChannels

theorem room_less (small live : Finset ChannelId) (line : List Frame) (room : Room live line) (less : small ⊆ live) :
    Room small line := by
  intro before id host port window after split
  exact Nat.lt_of_le_of_lt (Finset.card_le_card (standing_mono _ _ before less)) (room before id host port window after split)

theorem room_front (live : Finset ChannelId) (front back : List Frame) (room : Room live (front ++ back)) : Room live front := by
  intro before id host port window after split
  exact room before id host port window (after ++ back) (by simp [split])

theorem room_tail (live next : Finset ChannelId) (frame : Frame) (line : List Frame) (room : Room live (frame :: line))
    (less : next ⊆ frame.stands live) : Room next line := by
  refine room_less _ _ line (fun before id host port window after split => ?_) less
  exact room (frame :: before) id host port window after (by simp [split])

theorem room_snoc (live : Finset ChannelId) (line : List Frame) (frame : Frame) (room : Room live line)
    (fits : ∀ id host port window, frame = .openMsg id host port window → (standing live line).card < maxChannels) :
    Room live (line ++ [frame]) := by
  intro before id host port window after split
  rcases List.eq_nil_or_concat after with rfl | ⟨front, last, rfl⟩
  · obtain ⟨rfl, same⟩ := List.append_inj' split rfl
    exact fits id host port window (List.singleton_inj.mp same)
  · refine room before id host port window front ?_
    rw [List.concat_eq_append, ← List.cons_append, ← List.append_assoc] at split
    exact (List.append_inj' split rfl).1

structure Agreed (t : Tunnel) : Prop where
  capped : (liveIds t.ctl.channels).length ≤ maxChannels
  calm : t.ctl.loop = .running → t.ctl.teardown = false
  steady : t.ctl.loop = .running → ∀ c ∈ t.ctl.channels, Steady c
  unopened : t.ctl.loop = .running → ∀ c ∈ t.ctl.channels, ∀ host port,
    c.phase = .admitted host port ∨ c.phase = .opening host port → c.listed = true
  listed : t.ctl.loop = .running → ∀ c ∈ t.ctl.channels, c.id ∈ standing (countedIds t.srv.channels) t.lineUp → c.listed = true
  room : Room (countedIds t.srv.channels) t.lineUp

-- The channel stands in the line exactly where its link says so.
theorem standing_link (t : Tunnel) (inv : TunnelInv t) (c : Channel) (l : Link) (tracks : Tracks t c l) :
    c.id ∈ standing (countedIds t.srv.channels) t.lineUp ↔ alive l.srv.counts l.up.frames = true := by
  have counted : decide (c.id ∈ countedIds t.srv.channels) = l.srv.counts := by
    have sameId : l.srv.id = c.id := tracks.ctl ▸ tracks.inv.wired.sameId
    rw [Bool.eq_iff_iff, decide_eq_true_iff, mem_counted]
    rcases tracks.srv with ⟨present, _⟩ | ⟨unborn, absent⟩
    · refine ⟨?_, fun counts => ⟨l.srv, present, counts, sameId⟩⟩
      rintro ⟨s, inside, counts, same⟩
      rwa [same_id_eq t.srv.channels inv.known.apart l.srv s present inside (sameId.trans same.symm)]
    · rw [tracks.inv.wired.unborn unborn, absent_counts]
      refine ⟨?_, fun impossible => nomatch impossible⟩
      rintro ⟨s, inside, _, same⟩
      exact absurd (same ▸ List.mem_map_of_mem inside) absent
  rw [mem_standing, counted, Tunnel.lineUp, line_of_ordered, ← tracks.up.frames]

theorem live_shrinks (before after : List Channel) (distinct : (after.map Channel.id).Nodup)
    (less : ∀ d ∈ after, d.listed = true → ∃ c ∈ before, c.listed = true ∧ c.id = d.id) :
    (liveIds after).length ≤ (liveIds before).length := by
  have apart : (liveIds after).Nodup := distinct.sublist (List.filter_sublist.map Channel.id)
  refine (List.subperm_of_subset apart fun id member => ?_).length_le
  obtain ⟨d, kept, rfl⟩ := List.mem_map.mp member
  obtain ⟨inside, listed⟩ := List.mem_filter.mp kept
  obtain ⟨c, old, entry, same⟩ := less d inside listed
  exact same ▸ List.mem_map_of_mem (List.mem_filter.mpr ⟨old, entry⟩)

section
variable (c next : Channel) (act : Act) (frame : Option Frame)

theorem step_listed (step : ChannelStep c act next frame) (stays : act ≠ .remove) : next.listed = c.listed := by
  cases step with
  | remove here => exact absurd rfl stays
  | _ => rfl

theorem step_unopened (host : String) (port : Int)
    (step : ChannelStep c act next frame) (here : next.phase = .admitted host port ∨ next.phase = .opening host port) :
    (∃ host port, c.phase = .admitted host port ∨ c.phase = .opening host port) ∧ act ≠ .remove := by
  cases step with
  | toTunnel act half frame relays step => exact ⟨⟨host, port, here⟩, by simp⟩
  | toSocket act half frame relays step => exact ⟨⟨host, port, here⟩, by simp⟩
  | spawn host port admitted => exact ⟨⟨host, port, .inl admitted⟩, by simp⟩
  | commandData sent addr isRdp bytes rest connecting queued fits => exact ⟨⟨host, port, here⟩, by simp⟩
  | join first second joining tunnelEnd socketEnd =>
      cases closes : sendsClose first second <;> cases side : c.side <;> simp [closes, side, Channel.afterRelay] at here
  | sendClose sent closing => cases side : c.side <;> simp [side, Channel.append, Channel.afterRelay] at here
  | sendOpen sent host port opening => cases sent <;> simp [Channel.append] at here
  | sendOpened sent connected => cases sent <;> simp [Channel.append] at here
  | _ => simp [Channel.append] at here

end

-- How a frame can cost a listed channel its entry.
theorem on_frame_drops (c : Channel) (frame : Frame) (listed : c.listed = true) (gone : (c.onFrame frame).listed = false) :
    frame.channelId = c.id ∧ (frame.ends = true ∨ ∃ id data, frame = .dataMsg id data ∧
      (c.receiving = false ∨ ¬ charge data.length ≤ c.toSocket.window.remaining)) := by
  by_cases mine : frame.channelId = c.id
  · refine ⟨mine, ?_⟩
    have holds : c.holds frame.channelId = true := by simp [Channel.holds, listed, mine]
    simp only [Channel.onFrame, holds, if_true] at gone
    cases frame with
    | openMsg id host port window => simp [listed] at gone
    | openedMsg id success message window =>
        cases success with
        | false => exact .inl rfl
        | true =>
            cases side : c.side <;> cases opened : c.opened <;> simp [side, Channel.onOpened, opened, listed] at gone
    | closeMsg id => exact .inl rfl
    | windowUpdateMsg id add => simp [Channel.onWindowUpdate, listed] at gone
    | dataMsg id data =>
        refine .inr ⟨id, data, rfl, ?_⟩
        by_cases fits : charge data.length ≤ c.toSocket.window.remaining
        · cases receiving : c.receiving with
          | false => exact .inl rfl
          | true =>
              have accepted := (accept_iff c.toSocket.window data.length).mpr fits
              simp only [Channel.onData, accepted, receiving, if_true, listed_push] at gone
              exact absurd listed (by simp [gone])
        · exact .inr fits
  · rw [on_frame_other c frame mine] at gone
    exact absurd listed (by simp [gone])

-- A data frame that finds its channel's receiver gone finds the close on its way out;
-- an `open` finds no entry whose task has said that it is over and not yet left; and
-- the counter of ids has not come round.
def Tunnel.orderly (t : Tunnel) : TunnelAct → Bool
  | .ctl (.openInsert _ _ _) => decide (t.ctl.channels.length + 1 < 2 ^ 32)
  | .deliverUp _ =>
      match t.onWayUp with
      | .openMsg _ _ _ _ :: _ => t.srv.channels.all (fun s => !s.listed || s.phase != .leaving)
      | _ => true
  | .deliverDown _ =>
      match t.onWayDown with
      | .dataMsg id _ :: _ => t.ctl.channels.all (fun c => !c.holds id || c.receiving || c.out.contains (.closeMsg id))
      | _ => true
  | _ => true

def Tunnel.orderlyStep (t : Tunnel) (act : TunnelAct) : Option Tunnel := if t.orderly act then t.step act else none

section
variable (t : Tunnel)

theorem agreed_srv (act : MuxAct) (next : PortForwardMux) (agreed : Agreed t) (own : act.handles = false)
    (step : MuxStep t.srv act next) : Agreed { t with srv := next } := by
  have less := counted_mux t.srv next act own step
  refine { agreed with listed := ?_, room := room_less _ _ _ agreed.room less }
  exact fun serving c member stands => agreed.listed serving c member (standing_mono _ _ _ less stands)

theorem agreed_up (permitted : Bool) (frame : Frame) (rest : List Frame) (next : PortForwardMux) (agreed : Agreed t)
    (queued : t.onWayUp = frame :: rest) (handled : Handled t.srv frame permitted next) :
    Agreed { t with srv := next, upSeen := t.upSeen + 1 } := by
  have less := counted_handled t.srv next frame permitted handled
  have way := (on_way_next _ _ _ _ queued).1
  obtain ⟨line, same⟩ : ∃ line, Tunnel.lineUp { t with srv := next, upSeen := t.upSeen + 1 } = line := ⟨_, rfl⟩
  have split : t.lineUp = if frame.ordered then frame :: line else line := by
    simp only [Tunnel.lineUp, Tunnel.onWayUp, way] at same
    simp only [Tunnel.lineUp, queued, List.cons_append, List.filter_cons, ← same]
  have whole : standing (countedIds t.srv.channels) t.lineUp = standing (frame.stands (countedIds t.srv.channels)) line := by
    rw [split]
    cases frame <;> rfl
  have room : Room (countedIds next.channels) line := by
    have before := agreed.room
    rw [split] at before
    cases ordered : frame.ordered with
    | true =>
        rw [if_pos ordered] at before
        exact room_tail _ _ frame line before less
    | false =>
        obtain ⟨add, update⟩ := control_frame frame ordered
        rw [if_neg (by simp [ordered])] at before
        rw [update] at less
        exact room_less _ _ line before less
  refine { agreed with listed := ?_, room := same ▸ room }
  intro serving c member stands
  rw [same] at stands
  refine agreed.listed serving c member ?_
  rw [whole]
  exact standing_mono _ _ _ less stands

-- A channel that stands and is listed stays listed, whatever frame arrives for it.
theorem stays_listed (now : Nat) (frame : Frame) (rest : List Frame) (inv : TunnelInv t)
    (serving : t.ctl.loop = .running) (queued : t.onWayDown = frame :: rest) (orderly : t.orderly (.deliverDown now) = true)
    (c : Channel) (member : c ∈ t.ctl.channels) (listed : c.listed = true)
    (stands : c.id ∈ standing (countedIds t.srv.channels) t.lineUp) : (c.onFrame frame).listed = true := by
  by_contra gone
  obtain ⟨mine, cause⟩ := on_frame_drops c frame listed (by simpa using gone)
  obtain ⟨l, tracks⟩ := inv.tracked c member
  have kept := tracks.inv
  have up : l.up.cut = false := by simp [tracks.up.cut, serving]
  have down := tracks.down
  rw [queued] at down
  have ordered : frame.ordered = true := by
    rcases cause with ends | ⟨id, data, rfl, _⟩
    · cases frame <;> first | rfl | cases ends
    · rfl
  obtain ⟨frames, first, _⟩ := carries_deliver _ _ _ _ _ _ frame down mine ordered
  have lives := (standing_link t inv c l tracks).mp stands
  have ctl := tracks.ctl
  subst ctl
  rcases cause with ends | ⟨id, data, rfl, missed⟩
  · rw [ended_falls l kept tracks.heard frame (by simp [first]) ends] at lives
    cases lives
  · have fits := down_data_fits l kept.balanced id data frames first
    have dead : l.ctl.receiving = false := missed.resolve_right fun beyond => beyond fits
    have holds : l.ctl.holds id = true := by simpa [Channel.holds, listed, Frame.channelId] using mine.symm
    have closing : Frame.closeMsg id ∈ l.ctl.out := by
      simp only [Tunnel.orderly, queued, List.all_eq_true] at orderly
      simpa [holds, dead] using orderly l.ctl member
    have same : id = l.ctl.id := mine
    rw [closed_falls l kept tracks.heard up (same ▸ closing)] at lives
    cases lives

theorem agreed_down (now : Nat) (frame : Frame) (rest : List Frame) (inv : TunnelInv t) (agreed : Agreed t)
    (serving : t.ctl.loop = .running) (queued : t.onWayDown = frame :: rest) (orderly : t.orderly (.deliverDown now) = true) :
    Agreed { t with ctl := t.ctl.onFrame frame now, downSeen := t.downSeen + 1 } := by
  have ids : (t.ctl.onFrame frame now).channels.map Channel.id = t.ctl.channels.map Channel.id := by
    simp only [TunnelHandle.onFrame, List.map_map]
    exact List.map_congr_left fun c _ => (on_frame_shape c frame).id
  refine ⟨?_, agreed.calm, ?_, ?_, ?_, agreed.room⟩
  · refine Nat.le_trans (live_shrinks t.ctl.channels _ (ids.symm ▸ inv.known.distinct) fun d inside listed => ?_) agreed.capped
    obtain ⟨c, member, rfl⟩ := List.mem_map.mp inside
    exact ⟨c, member, (on_frame_keep c frame).listed listed, (on_frame_shape c frame).id.symm⟩
  · intro _ d inside
    obtain ⟨c, member, rfl⟩ := List.mem_map.mp inside
    exact steady_frame c frame (agreed.steady serving c member)
  · intro _ d inside host port here
    obtain ⟨c, member, rfl⟩ := List.mem_map.mp inside
    rw [(on_frame_shape c frame).phase] at here
    have listed := agreed.unopened serving c member host port here
    by_contra gone
    obtain ⟨mine, cause⟩ := on_frame_drops c frame listed (by simpa using gone)
    obtain ⟨l, tracks⟩ := inv.tracked c member
    have down := tracks.down
    rw [queued] at down
    have ordered : frame.ordered = true := by
      rcases cause with ends | ⟨id, data, rfl, _⟩
      · cases frame <;> first | rfl | cases ends
      · rfl
    obtain ⟨frames, first, _⟩ := carries_deliver _ _ _ _ _ _ frame down mine ordered
    have legal := tracks.inv.wired.ctl.legal
    have silent : l.ctl.out = [] := by
      rw [← tracks.ctl] at here
      rcases here with here | here <;> simpa only [Legal, here] using legal
    rw [(unopened_silent l tracks.inv tracks.heard silent).2] at first
    cases first
  · intro _ d inside stands
    obtain ⟨c, member, rfl⟩ := List.mem_map.mp inside
    have before : c.id ∈ standing (countedIds t.srv.channels) t.lineUp := by
      rw [(on_frame_shape c frame).id] at stands
      exact stands
    exact stays_listed t now frame rest inv serving queued orderly c member (agreed.listed serving c member before) before

theorem line_up_task (k : Nat) (after : Channel) (act : Act) (frame : Option Frame) (serving : t.ctl.loop = .running) :
    Tunnel.lineUp { t with ctl := (t.ctl.settle k after act).enqueue frame } = t.lineUp ++ frame.toList.filter Frame.ordered := by
  rw [enqueue_eq]
  simp [Tunnel.lineUp, Tunnel.onWayUp, TunnelHandle.settle, serving, List.filter_append]

-- The `open` of a channel that is about to go out: everything that stands before it has
-- an entry, and so has the channel itself.
theorem open_fits (inv : TunnelInv t) (agreed : Agreed t) (serving : t.ctl.loop = .running) (c : Channel)
    (member : c ∈ t.ctl.channels) (host : String) (port : Int) (here : c.phase = .opening host port) :
    (standing (countedIds t.srv.channels) t.lineUp).card < maxChannels := by
  obtain ⟨l, tracks⟩ := inv.tracked c member
  have silent : l.ctl.out = [] := by
    have legal := tracks.inv.wired.ctl.legal
    rw [← tracks.ctl] at here
    simpa only [Legal, here] using legal
  have absent : c.id ∉ standing (countedIds t.srv.channels) t.lineUp := by
    rw [standing_link t inv c l tracks, (unopened_silent l tracks.inv tracks.heard silent).1]
    exact Bool.false_ne_true
  have known : standing (countedIds t.srv.channels) t.lineUp ⊆ (t.ctl.channels.map Channel.id).toFinset := by
    refine standing_known _ _ _ (fun id counted => ?_) fun frame queued => ?_
    · obtain ⟨s, inside, _, same⟩ := (mem_counted _ id).mp counted
      exact List.mem_toFinset.mpr (inv.known.srv (same ▸ List.mem_map_of_mem inside))
    · refine List.mem_toFinset.mpr (inv.known.up frame ?_)
      have found := List.mem_of_mem_filter queued
      simp only [serving, decide_true, if_true] at found
      exact List.mem_append_left _ found
  have within : standing (countedIds t.srv.channels) t.lineUp ⊆ (liveIds t.ctl.channels).toFinset.erase c.id := by
    intro id stands
    obtain ⟨d, inside, rfl⟩ := List.mem_map.mp (List.mem_toFinset.mp (known stands))
    refine Finset.mem_erase.mpr ⟨fun same => absent (same ▸ stands), List.mem_toFinset.mpr ?_⟩
    exact List.mem_map_of_mem (List.mem_filter.mpr ⟨inside, agreed.listed serving d inside stands⟩)
  have entry : c.id ∈ (liveIds t.ctl.channels).toFinset :=
    List.mem_toFinset.mpr
      (List.mem_map_of_mem (List.mem_filter.mpr ⟨member, agreed.unopened serving c member host port (.inr here)⟩))
  calc (standing (countedIds t.srv.channels) t.lineUp).card
      ≤ ((liveIds t.ctl.channels).toFinset.erase c.id).card := Finset.card_le_card within
    _ < (liveIds t.ctl.channels).toFinset.card := Finset.card_erase_lt_of_mem entry
    _ ≤ (liveIds t.ctl.channels).length := List.toFinset_card_le _
    _ ≤ maxChannels := agreed.capped

end

theorem step_opens (c next : Channel) (act : Act) (frame : Option Frame) (id : ChannelId) (host : String) (port : Int) (window : Nat)
    (step : ChannelStep c act next frame) (same : frame = some (.openMsg id host port window)) :
    ∃ host port, c.phase = .opening host port := by
  cases step with
  | toTunnel act half frame relays step =>
      obtain ⟨data, _, impossible⟩ := to_tunnel_own _ _ _ _ _ _ step _ same
      cases impossible
  | toSocket act half frame relays step =>
      obtain ⟨add, _, impossible⟩ := to_socket_own _ _ _ _ _ _ _ step _ same
      cases impossible
  | sendOpen sent host port here => exact ⟨host, port, here⟩
  | sendClose | commandOver | commandViolation | connectFail | sendOpened => cases sent_frame_eq _ _ _ same
  | _ => cases same

theorem task_room (t : Tunnel) (inv : TunnelInv t) (agreed : Agreed t) (k : Nat) (act : Act) (c after : Channel)
    (frame : Option Frame) (here : t.ctl.channels[k]? = some c) (step : ChannelStep c act after frame) :
    Room (countedIds t.srv.channels) (Tunnel.lineUp { t with ctl := (t.ctl.settle k after act).enqueue frame }) := by
  by_cases serving : t.ctl.loop = .running
  · rw [line_up_task t k after act frame serving]
    cases frame with
    | none => simpa using agreed.room
    | some emitted =>
        cases ordered : emitted.ordered with
        | false => simpa [ordered] using agreed.room
        | true =>
            simp only [Option.toList_some, List.filter_cons, ordered, if_true, List.filter_nil]
            refine room_snoc _ _ _ agreed.room fun id host port window opening => ?_
            subst opening
            obtain ⟨host', port', opening⟩ := step_opens c after act _ id host port window step rfl
            exact open_fits t inv agreed serving c (List.mem_of_getElem? here) host' port' opening
  · have same : Tunnel.lineUp { t with ctl := (t.ctl.settle k after act).enqueue frame } = t.lineUp := by
      rw [enqueue_eq]
      simp [Tunnel.lineUp, Tunnel.onWayUp, TunnelHandle.settle, serving]
    rw [same]
    exact agreed.room

theorem task_listed (t : Tunnel) (inv : TunnelInv t) (agreed : Agreed t) (serving : t.ctl.loop = .running) (k : Nat) (act : Act)
    (c after : Channel) (frame : Option Frame) (here : t.ctl.channels[k]? = some c) (step : ChannelStep c act after frame)
    (d : Channel) (member : d ∈ settled t.ctl.channels k after act)
    (stands : d.id ∈ standing (countedIds t.srv.channels) (t.lineUp ++ frame.toList.filter Frame.ordered)) : d.listed = true := by
  have shape := channel_step_shape c after act frame step
  have inside := List.mem_of_getElem? here
  have before : d.id ∈ standing (countedIds t.srv.channels) t.lineUp ∨
      ∃ id host port window, frame = some (.openMsg id host port window) ∧ d.id = c.id := by
    cases frame with
    | none => exact .inl (by simpa using stands)
    | some emitted =>
        have own := shape.own emitted rfl
        cases emitted with
        | openMsg id host port window =>
            simp only [Option.toList_some, List.filter_cons, Frame.ordered, if_true, List.filter_nil, standing_append] at stands
            rcases Finset.mem_insert.mp stands with same | old
            · exact .inr ⟨id, host, port, window, rfl, same.trans own⟩
            · exact .inl old
        | closeMsg id =>
            simp only [Option.toList_some, List.filter_cons, Frame.ordered, if_true, List.filter_nil, standing_append] at stands
            exact .inl (Finset.mem_of_mem_erase stands)
        | _ => exact .inl (by simpa [List.filter_cons, Frame.ordered, standing_append, standing, Frame.stands] using stands)
  rcases settled_mem _ k c after act inv.known.distinct here shape.id (remove_unlists c after frame act step) d member with
    rfl | ⟨old, other⟩
  · by_cases removes : act = .remove
    · subst removes
      cases step with
      | remove removing =>
          have stood : c.id ∈ standing (countedIds t.srv.channels) t.lineUp := by
            rcases before with stood | ⟨_, _, _, _, impossible, _⟩
            · exact stood
            · cases impossible
          obtain ⟨l, tracks⟩ := inv.tracked c inside
          have lives := (standing_link t inv c l tracks).mp stood
          have closing := (agreed.steady serving c inside).parting removing (agreed.listed serving c inside stood)
          have ctl := tracks.ctl
          subst ctl
          rw [closed_falls l tracks.inv tracks.heard (by simp [tracks.up.cut, serving]) closing] at lives
          cases lives
    · rw [step_listed c d act frame step removes]
      rcases before with stood | ⟨id, host, port, window, opening, _⟩
      · exact agreed.listed serving c inside (shape.id ▸ stood)
      · obtain ⟨host, port, here⟩ := step_opens c d act frame id host port window step opening
        exact agreed.unopened serving c inside host port (.inr here)
  · rcases before with stood | ⟨_, _, _, _, _, same⟩
    · exact agreed.listed serving d old stood
    · exact absurd same other

theorem agreed_task (t : Tunnel) (inv : TunnelInv t) (agreed : Agreed t) (endings : ∀ c ∈ t.ctl.channels, Ending c) (k : Nat)
    (act : Act) (c after : Channel) (frame : Option Frame) (here : t.ctl.channels[k]? = some c) (allowed : t.ctl.allows act = true)
    (step : ChannelStep c act after frame) : Agreed { t with ctl := (t.ctl.settle k after act).enqueue frame } := by
  have shape := channel_step_shape c after act frame step
  have inside := List.mem_of_getElem? here
  have split := settled_mem _ k c after act inv.known.distinct here shape.id (remove_unlists c after frame act step)
  have room := task_room t inv agreed k act c after frame here step
  have ids := (moved_settled t.ctl.channels k c after act here shape.id).ids
  have line := line_up_task t k after act frame
  rw [enqueue_eq] at room line ⊢
  refine ⟨?_, agreed.calm, ?_, ?_, ?_, room⟩
  · refine Nat.le_trans (live_shrinks t.ctl.channels _ (ids.symm ▸ inv.known.distinct) fun d member listed => ?_) agreed.capped
    rcases split d member with rfl | ⟨old, _⟩
    · exact ⟨c, inside, (channel_step_got c d act frame step).2.2 listed, shape.id.symm⟩
    · exact ⟨d, old, listed, rfl⟩
  · intro serving d member
    rcases split d member with rfl | ⟨old, _⟩
    · obtain ⟨l, tracks⟩ := inv.tracked c inside
      have stream : Stream c := tracks.ctl ▸ tracks.inv.wired.ctl.stream
      exact steady_step t.ctl c d act frame serving (agreed.calm serving) allowed (agreed.steady serving c inside) (endings c inside)
        stream step
    · exact agreed.steady serving d old
  · intro serving d member host port opening
    rcases split d member with rfl | ⟨old, _⟩
    · obtain ⟨⟨host, port, before⟩, stays⟩ := step_unopened c d act frame host port step opening
      rw [step_listed c d act frame step stays]
      exact agreed.unopened serving c inside host port before
    · exact agreed.unopened serving d old host port opening
  · intro serving d member stands
    rw [line serving] at stands
    exact task_listed t inv agreed serving k act c after frame here step d member stands

-- Past its loop the controller adds nothing to the line, and what is on the way is the
-- front of it.
theorem agreed_stopped (t : Tunnel) (next : TunnelHandle) (agreed : Agreed t) (ended : next.loop ≠ .running)
    (fewer : (liveIds next.channels).length ≤ (liveIds t.ctl.channels).length) (sent : next.sent = t.ctl.sent) :
    Agreed { t with ctl := next } := by
  refine ⟨Nat.le_trans fewer agreed.capped, fun serving => absurd serving ended, fun serving => absurd serving ended,
    fun serving => absurd serving ended, fun serving => absurd serving ended, ?_⟩
  have line : Tunnel.lineUp { t with ctl := next } = t.onWayUp.filter Frame.ordered := by
    simp [Tunnel.lineUp, Tunnel.onWayUp, sent, ended]
  have whole := agreed.room
  rw [Tunnel.lineUp, List.filter_append] at whole
  rw [line]
  exact room_front _ _ _ whole

theorem agreed_ctl (t : Tunnel) (act : HandleAct) (next : TunnelHandle) (inv : TunnelInv t) (agreed : Agreed t)
    (endings : ∀ c ∈ t.ctl.channels, Ending c) (own : act.receives = false) (step : HandleStep t.ctl act next) :
    Agreed { t with ctl := next } := by
  cases step with
  | openCheck alive => exact { agreed with }
  | openFull host port prebuf called full =>
      exact { agreed with }
  | openInsert host port prebuf called room id free =>
      have split : ∀ d ∈ t.ctl.channels ++ [Channel.controller id host port prebuf], d ∈ t.ctl.channels ∨
          d = Channel.controller id host port prebuf := fun d member => by simpa using member
      refine ⟨?_, agreed.calm, ?_, ?_, ?_, agreed.room⟩
      · have grown : (liveIds (t.ctl.channels ++ [Channel.controller id host port prebuf])).length = (liveIds t.ctl.channels).length + 1 := by
          simp [liveIds, Channel.controller]
        exact grown ▸ room
      · intro serving d member
        rcases split d member with old | rfl
        · exact agreed.steady serving d old
        · exact steady_controller id host port prebuf
      · intro serving d member host port opening
        rcases split d member with old | rfl
        · exact agreed.unopened serving d old host port opening
        · rfl
      · intro serving d member stands
        rcases split d member with old | rfl
        · exact agreed.listed serving d old stands
        · rfl
  | task k act c after frame here allowed step => exact agreed_task t inv agreed endings k act c after frame here allowed step
  | sentControl frame rest serving queued =>
      have control : Frame.ordered frame = false := inv.queues.control frame (by simp [queued])
      have same : Tunnel.lineUp { t with ctl := { t.ctl with controlQueue := rest, sent := t.ctl.sent ++ [frame] } } = t.lineUp := by
        simp [Tunnel.lineUp, Tunnel.onWayUp, on_way_sent _ _ _ inv.upSeen, List.filter_append, control]
      exact { agreed with listed := by rw [same]; exact agreed.listed, room := by rw [same]; exact agreed.room }
  | sentData frame rest serving queued =>
      have same : Tunnel.lineUp { t with ctl := { t.ctl with dataQueue := rest, sent := t.ctl.sent ++ [frame] } } = t.lineUp := by
        simp [Tunnel.lineUp, Tunnel.onWayUp, on_way_sent _ _ _ inv.upSeen, serving, queued]
      exact { agreed with listed := by rw [same]; exact agreed.listed, room := by rw [same]; exact agreed.room }
  | lostControl frame rest serving queued => exact agreed_stopped t _ agreed (by simp) (Nat.le_refl _) rfl
  | lostData frame rest serving queued => exact agreed_stopped t _ agreed (by simp) (Nat.le_refl _) rfl
  | breakLoop serving => exact agreed_stopped t _ agreed (by simp) (Nat.le_refl _) rfl
  | receive frame now serving => cases own
  | clear here =>
      have none : liveIds (t.ctl.channels.map Channel.unlist) = [] := by simp [liveIds, List.filter_map, Function.comp_def, Channel.unlist]
      exact agreed_stopped t _ agreed (by simp) (by simp [none]) rfl
  | raiseTeardown here => exact agreed_stopped t _ agreed (by simp) (Nat.le_refl _) rfl
  | unset here => exact agreed_stopped t _ agreed (by simp) (Nat.le_refl _) rfl
  | dropControl here => exact agreed_stopped t _ agreed (by simp) (Nat.le_refl _) rfl
  | dropData here => exact agreed_stopped t _ agreed (by simp) (Nat.le_refl _) rfl

theorem agreed_step (t next : Tunnel) (act : TunnelAct) (inv : TunnelInv t) (agreed : Agreed t)
    (endings : ∀ c ∈ t.ctl.channels, Ending c) (orderly : t.orderly act = true) (step : TunnelStep t act next) : Agreed next := by
  cases step with
  | ctl act next own step => exact agreed_ctl t act next inv agreed endings own step
  | srv act next own step => exact agreed_srv t act next agreed own step
  | deliverUp permitted frame rest next queued serving handled => exact agreed_up t permitted frame rest next agreed queued handled
  | deliverDown now frame rest queued serving => exact agreed_down t now frame rest inv agreed serving queued orderly

theorem agreed_start (loginTarget : String) : Agreed (.start loginTarget) := by
  refine ⟨Nat.zero_le _, fun _ => rfl, (fun _ _ member => nomatch member), (fun _ _ member => nomatch member),
    (fun _ _ member => nomatch member), ?_⟩
  intro before id host port window after split
  cases before <;> cases split

-- Only admitting a channel makes more of them.
theorem tunnel_few (t next : Tunnel) (act : TunnelAct) (few : t.ctl.channels.length < 2 ^ 32) (orderly : t.orderly act = true)
    (step : TunnelStep t act next) : next.ctl.channels.length < 2 ^ 32 := by
  cases step with
  | ctl act next own step =>
      cases step with
      | openInsert host port prebuf called room id free => simpa [Tunnel.orderly] using orderly
      | task k act c after frame here allowed step =>
          have ids := (moved_settled t.ctl.channels k c after act here (channel_step_shape c after act frame step).id).ids
          have lengths : (settled t.ctl.channels k after act).length = t.ctl.channels.length := by
            simpa using congrArg List.length ids
          rw [enqueue_eq]
          exact lengths ▸ few
      | receive frame now serving => cases own
      | clear here => simpa using few
      | _ => exact few
  | deliverDown now frame rest queued serving => simpa [TunnelHandle.onFrame] using few
  | _ => exact few

-- What every orderly run of a tunnel has.
structure OrderlyInv (loginTarget : String) (t : Tunnel) : Prop where
  reach : Machine.Reachable Tunnel.step (.start loginTarget) t
  few : t.ctl.channels.length < 2 ^ 32
  agreed : Agreed t

theorem orderly_inv (loginTarget : String) (t : Tunnel) (reach : Machine.Reachable Tunnel.orderlyStep (.start loginTarget) t) :
    OrderlyInv loginTarget t := by
  refine Machine.reachable_invariant Tunnel.orderlyStep (OrderlyInv loginTarget) (.start loginTarget) t
    ⟨Machine.reachable_refl _ _, by simp [Tunnel.start, TunnelHandle.new], agreed_start loginTarget⟩ ?_ reach
  intro state act next inv taken
  cases orderly : state.orderly act with
  | false => simp [Tunnel.orderlyStep, orderly] at taken
  | true =>
      simp only [Tunnel.orderlyStep, orderly, if_true] at taken
      have step := tunnel_step state next act taken
      have endings := handle_channels Ending ending_kept ending_controller state.ctl (tunnel_ends loginTarget state inv.reach).1
      exact ⟨Machine.reachable_step _ _ _ _ _ inv.reach taken, tunnel_few state next act inv.few orderly step,
        agreed_step state next act (tunnel_inv loginTarget state inv.reach inv.few) inv.agreed endings orderly step⟩

-- A sweep with nobody on the way out leaves the entries that count.
theorem swept_counts (channels : List Channel) (staying : channels.all (fun s => !s.listed || s.phase != .leaving) = true) :
    liveIds (retain channels) = (channels.filter Channel.counts).map Channel.id := by
  induction channels with
  | nil => rfl
  | cons s rest ih =>
      simp only [List.all_cons, Bool.and_eq_true] at staying
      have tail := ih staying.2
      have first := staying.1
      cases listed : s.listed <;> cases alive : s.receiving <;>
        simp_all [liveIds, retain, Channel.counts, Channel.unlist]

-- In a run whose steps are orderly, the entries a sweep leaves are below the cap
-- whenever an `open` is handled.
theorem admitted_open_fits (loginTarget : String) (t : Tunnel)
    (reach : Machine.Reachable Tunnel.orderlyStep (.start loginTarget) t) (permitted : Bool) (id : ChannelId) (host : String)
    (port : Int) (window : Nat) (rest : List Frame) (queued : t.onWayUp = .openMsg id host port window :: rest)
    (orderly : t.orderly (.deliverUp permitted) = true) : (liveIds (retain t.srv.channels)).length < maxChannels := by
  have inv := orderly_inv loginTarget t reach
  have apart := (tunnel_inv loginTarget t inv.reach inv.few).known.apart
  have room := inv.agreed.room [] id host port window
    ((rest ++ if decide (t.ctl.loop = .running) then t.ctl.dataQueue else []).filter Frame.ordered)
    (by simp [Tunnel.lineUp, queued, List.filter_cons, Frame.ordered])
  simp only [Tunnel.orderly, queued] at orderly
  rw [swept_counts t.srv.channels orderly]
  have counted : ((t.srv.channels.filter Channel.counts).map Channel.id).Nodup :=
    apart.sublist (List.filter_sublist.map Channel.id)
  rw [← List.toFinset_card_of_nodup counted]
  exact room

-- One channel of an orderly run, its `open` about to be handled.
def firstOpen : List TunnelAct :=
  [.ctl .openCheck, .ctl (.openInsert "" 80 []), .ctl (.task 0 .spawn), .ctl (.task 0 (.sendOpen true)), .ctl (.sendData true)]

theorem first_open_runs : (Machine.run Tunnel.orderlyStep (.start "localhost:80") firstOpen).isSome = true := by decide

theorem admitted_open_fits_first :
    let t := (Machine.run Tunnel.orderlyStep (.start "localhost:80") firstOpen).get first_open_runs
    t.onWayUp = [.openMsg 1 "" 80 channelWindow] ∧ (liveIds (retain t.srv.channels)).length < maxChannels :=
  ⟨by decide, admitted_open_fits "localhost:80" _ (Machine.reachable_run _ _ _ first_open_runs) true 1 "" 80 channelWindow []
    (by decide) (by decide)⟩

def openFrame (k : Nat) : Frame := .openMsg (channelNumber k) "" 80 channelWindow

def openRound (k : Nat) : List TunnelAct :=
  [.ctl .openCheck, .ctl (.openInsert "" 80 []), .ctl (.task k .spawn), .ctl (.task k (.sendOpen true)), .ctl (.sendData true)]

def fillTable : Nat → List TunnelAct
  | 0 => []
  | n + 1 => fillTable n ++ (openRound n ++ [TunnelAct.deliverUp true])

def waitingCtl (k : Nat) : Channel :=
  { Channel.controller (channelNumber k) "" 80 [] with phase := .relaying, out := [openFrame k] }

def waitingSrv (k : Nat) : Channel := Channel.controlled (channelNumber k) "localhost:80" false channelWindow

-- n channels, each of them waiting for its target to answer.
def filled (n : Nat) : Tunnel :=
  { ctl := { TunnelHandle.new with channels := (List.range n).map waitingCtl, nextId := channelNumber n,
                                   emitted := (List.range n).map openFrame, sent := (List.range n).map openFrame },
    srv := { PortForwardMux.new "localhost:80" with channels := (List.range n).map waitingSrv,
                                                    handled := (List.range n).map channelNumber },
    upSeen := n, downSeen := 0 }

-- The controller admits one more and its `open` goes out.
theorem open_round_runs (t : Tunnel) (id : ChannelId) (serving : t.ctl.loop = .running) (idle : t.ctl.calls = 0)
    (empty : t.ctl.dataQueue = []) (next : t.ctl.nextId = id) (fresh : id ∉ liveIds t.ctl.channels)
    (room : (liveIds t.ctl.channels).length < maxChannels) :
    Machine.run Tunnel.step t (openRound t.ctl.channels.length) =
      some { t with ctl := { t.ctl with
        channels := t.ctl.channels ++ [{ Channel.controller id "" 80 [] with phase := .relaying, out := [.openMsg id "" 80 channelWindow] }],
        nextId := id + 1, emitted := t.ctl.emitted ++ [.openMsg id "" 80 channelWindow],
        sent := t.ctl.sent ++ [.openMsg id "" 80 channelWindow] } } := by
  obtain ⟨ctl, srv, upSeen, downSeen⟩ := t
  obtain ⟨channels, nextId, calls, dataQueue, controlQueue, loop, teardown, reported, shown, emitted, sent⟩ := ctl
  simp only at serving idle empty next fresh room
  subst serving idle empty next
  have free := free_id_next (liveIds channels) (liveIds channels).length nextId fresh
  simp [Machine.run, openRound, Tunnel.step, HandleAct.receives, TunnelHandle.step, TunnelHandle.openCheck, TunnelHandle.openInsert, Nat.not_le.mpr room, free, TunnelHandle.task, TunnelHandle.allows, Channel.step, Channel.stepOpen, Channel.controller, TunnelHandle.settle, settled, TunnelHandle.enqueue, dataQueueFrames, Channel.emit, sentFrame, TunnelHandle.sendData, Frame.ordered]

theorem channel_number_fresh (n : Nat) (few : n < 2 ^ 32) : channelNumber n ∉ (List.range n).map channelNumber := by
  intro member
  obtain ⟨k, inside, same⟩ := List.mem_map.mp member
  have below := List.mem_range.mp inside
  have equal := channel_number_inj k n (by omega) few same
  omega

theorem number_succ (n : Nat) : channelNumber n + 1 = channelNumber (n + 1) := by simp [channelNumber, BitVec.ofNat_add]

theorem live_waiting_ctl (ks : List Nat) : liveIds (ks.map waitingCtl) = ks.map channelNumber := by
  induction ks with
  | nil => rfl
  | cons k rest ih => simpa [liveIds, waitingCtl, Channel.controller] using ih

theorem live_waiting_srv (ks : List Nat) :
    retain (ks.map waitingSrv) = ks.map waitingSrv ∧ liveIds (ks.map waitingSrv) = ks.map channelNumber := by
  have alive : ∀ k, (waitingSrv k).receiving = true := fun k => rfl
  induction ks with
  | nil => exact ⟨rfl, rfl⟩
  | cons k rest ih =>
      refine ⟨?_, ?_⟩
      · simp [retain, alive]
      · simpa [liveIds, waitingSrv, Channel.controlled] using ih.2

theorem fill_step (n : Nat) (room : n < maxChannels) :
    Machine.run Tunnel.step (filled n) (openRound n ++ [TunnelAct.deliverUp true]) = some (filled (n + 1)) := by
  have few : n < 2 ^ 32 := Nat.lt_trans room (by decide)
  have fresh := channel_number_fresh n few
  have opened := open_round_runs (filled n) (channelNumber n) rfl rfl rfl rfl
    (by simpa [filled, live_waiting_ctl] using fresh) (by simpa [filled, live_waiting_ctl] using room)
  obtain ⟨swept, live⟩ := live_waiting_srv (List.range n)
  have target : normalizePortForwardTarget "" 80 = ("localhost:80", false) := by decide
  have absent : containsKey ((List.range n).map waitingSrv) (channelNumber n) = false := by
    cases found : containsKey ((List.range n).map waitingSrv) (channelNumber n) with
    | false => rfl
    | true =>
        have member := contains_key_mem _ _ found
        exact absurd (by simpa [waitingSrv, Channel.controlled, Function.comp_def] using member) fresh
  have count : (filled n).ctl.channels.length = n := by simp [filled]
  rw [count] at opened
  rw [Machine.run_append, opened, Option.bind_some]
  simp [Machine.run, Tunnel.step, filled, Tunnel.onWayUp, PortForwardMux.step, PortForwardMux.new, PortForwardMux.handle, PortForwardMux.onOpen, swept, live, Nat.not_le.mpr room, absent, target, List.range_succ, waitingCtl, waitingSrv, openFrame, TunnelHandle.new]
  exact number_succ n

theorem fill_runs (n : Nat) (room : n ≤ maxChannels) :
    Machine.run Tunnel.step (.start "localhost:80") (fillTable n) = some (filled n) := by
  induction n with
  | zero => rfl
  | succ n ih =>
      rw [fillTable, Machine.run_append, ih (Nat.le_of_succ_le room), Option.bind_some]
      exact fill_step n room

-- The first channel's local side is over and its receiver gone; its close is not out
-- yet when data for it arrives.
def localEnd : List TunnelAct :=
  [.ctl (.task 0 (.toTunnel .take)), .ctl (.task 0 (.toTunnel (.read []))), .ctl (.task 0 (.cancelHalves false)),
    .ctl (.task 0 (.toSocket .cancel))]

def answer : List TunnelAct :=
  [.srv (.task 0 (.command true)), .srv (.task 0 .connectOk), .srv (.task 0 (.sendOpened true)),
    .srv (.task 0 (.toTunnel .take)), .srv (.task 0 (.toTunnel (.read [1]))), .srv (.task 0 (.toTunnel (.send true))),
    .srv (.transmit true), .srv (.transmit true)]

def endedCtl : Channel :=
  { waitingCtl 0 with
    cancel := true, phase := .joining,
    toTunnel := { (waitingCtl 0).toTunnel with credit := SendCredit.add ⟨0, false⟩ maxFrame, point := .ended .localEof },
    toSocket := (waitingCtl 0).toSocket.finish .cancelled }

def answeredSrv : Channel :=
  { waitingSrv 0 with
    phase := .relaying,
    toTunnel := { (waitingSrv 0).toTunnel with credit := SendCredit.add ⟨channelWindow - maxFrame, false⟩ (maxFrame - charge 1),
                                               read := [1], taken := [1] },
    toSocket := (waitingSrv 0).toSocket.grant (channelWindow - initialWindow),
    out := [.openedMsg 1 true "" channelWindow, .dataMsg 1 [1]] }

theorem local_end_runs (t : Tunnel) (others : List Channel) (channels : t.ctl.channels = waitingCtl 0 :: others) :
    Machine.run Tunnel.step t localEnd = some { t with ctl := { t.ctl with channels := endedCtl :: others } } := by
  have credit : SendCredit.take (SendCredit.new initialWindow) maxFrame = some (⟨0, false⟩, maxFrame) := by decide
  have positive : 0 < maxFrame := by decide
  simp [localEnd, endedCtl, Machine.run, Tunnel.step, HandleAct.receives, TunnelHandle.step, TunnelHandle.task, channels,
    TunnelHandle.allows, Channel.step, waitingCtl, Channel.controller, Channel.relays, SocketToTunnel.step, SocketToTunnel.new,
    credit, SocketToTunnel.onRead, positive, TunnelHandle.settle, settled, TunnelHandle.enqueue, Channel.stepRelay,
    ToTunnel.isEnded, TunnelToSocket.step, TunnelToSocket.new, TunnelToSocket.finish]

theorem answer_runs (t : Tunnel) (strangers : List Channel) (channels : t.srv.channels = waitingSrv 0 :: strangers)
    (serving : t.srv.loop = .running) (empty : t.srv.tx = []) :
    Machine.run Tunnel.step t answer =
      some { t with srv := { t.srv with
        channels := answeredSrv :: strangers,
        emitted := t.srv.emitted ++ [.openedMsg 1 true "" channelWindow, .dataMsg 1 [1]],
        sent := t.srv.sent ++ [.openedMsg 1 true "" channelWindow, .dataMsg 1 [1]] } } := by
  have number : channelNumber 0 = 1 := by decide
  have credit : SendCredit.take (SendCredit.new (effectiveWindow channelWindow)) maxFrame =
      some (⟨channelWindow - maxFrame, false⟩, maxFrame) := by decide
  have one : 1 ≤ maxFrame := by decide
  have small : charge 1 < maxFrame := by decide
  simp [answer, answeredSrv, Machine.run, Tunnel.step, MuxAct.handles, PortForwardMux.step, PortForwardMux.task, channels, serving,
    empty, PortForwardMux.allows, Channel.step, waitingSrv, Channel.controlled, number, Channel.relays, Channel.stepConnect,
    Channel.onCommand, PortForwardMux.enqueue, Channel.emit, sentFrame, SocketToTunnel.step, SocketToTunnel.new, credit,
    SocketToTunnel.onRead, one, small, PortForwardMux.transmit, TunnelToSocket.new]

-- The ids of the channels but the first.
def laterKs : List Nat := (List.range 255).map Nat.succ

theorem filled_split : List.range maxChannels = 0 :: laterKs := List.range_succ_eq_map ..

theorem later_apart (frame : Frame) (first : frame.channelId = 1) :
    (laterKs.map waitingCtl).map (fun c => c.onFrame frame) = laterKs.map waitingCtl := by
  rw [List.map_map]
  refine List.map_congr_left fun k inside => on_frame_other _ _ ?_
  obtain ⟨j, below, rfl⟩ := List.mem_map.mp inside
  have small := List.mem_range.mp below
  rw [first]
  intro same
  have equal := channel_number_inj 0 (j + 1) (by decide) (by omega) same
  cases equal

theorem live_later (c : Channel) (gone : c.listed = false) : liveIds (c :: laterKs.map waitingCtl) = laterKs.map channelNumber := by
  rw [← live_waiting_ctl, liveIds, List.filter_cons_of_neg (by simp [gone]), liveIds]

theorem later_fresh : channelNumber maxChannels ∉ laterKs.map channelNumber := by
  intro member
  refine channel_number_fresh maxChannels (by decide) ?_
  rw [filled_split]
  exact List.mem_cons_of_mem _ member

theorem live_later_srv (s : Channel) (alive : s.receiving = true) (listed : s.listed = true) :
    ¬ (liveIds (retain (s :: laterKs.map waitingSrv))).length < maxChannels := by
  obtain ⟨swept, live⟩ := live_waiting_srv laterKs
  have whole : retain (s :: laterKs.map waitingSrv) = s :: laterKs.map waitingSrv := by
    rw [retain, List.map_cons, if_pos alive]
    exact congrArg _ swept
  rw [whole, liveIds, List.filter_cons_of_pos listed, List.map_cons, ← liveIds, live]
  simp [laterKs, maxChannels]

-- The table is full, the first channel's two ends being `c` and `s`, and nothing is on
-- its way up.
structure AtCap (t : Tunnel) (c s : Channel) (back : List Frame) : Prop where
  ctl : t.ctl.channels = c :: laterKs.map waitingCtl
  srv : t.srv.channels = s :: laterKs.map waitingSrv
  next : t.ctl.nextId = channelNumber maxChannels
  serving : t.ctl.loop = .running
  answering : t.srv.loop = .running
  idle : t.ctl.calls = 0
  empty : t.ctl.dataQueue = []
  silent : t.srv.tx = []
  up : t.upSeen = t.ctl.sent.length
  seen : t.downSeen ≤ t.srv.sent.length
  down : t.onWayDown = back

theorem at_cap_filled : AtCap (filled maxChannels) (waitingCtl 0) (waitingSrv 0) [] := by
  refine ⟨?_, ?_, rfl, rfl, rfl, rfl, rfl, rfl, by simp [filled], Nat.zero_le _, rfl⟩
  · simp only [filled, filled_split, List.map_cons]
  · simp only [filled, filled_split, List.map_cons]

theorem at_cap_ended (t : Tunnel) (s : Channel) (back : List Frame) (cap : AtCap t (waitingCtl 0) s back) :
    ∃ next, Machine.run Tunnel.step t localEnd = some next ∧ AtCap next endedCtl s back :=
  ⟨_, local_end_runs t _ cap.ctl, rfl, cap.srv, cap.next, cap.serving, cap.answering, cap.idle, cap.empty, cap.silent, cap.up,
    cap.seen, cap.down⟩

theorem at_cap_answered (t : Tunnel) (c : Channel) (cap : AtCap t c (waitingSrv 0) []) :
    ∃ next, Machine.run Tunnel.step t answer = some next ∧
      AtCap next c answeredSrv [.openedMsg 1 true "" channelWindow, .dataMsg 1 [1]] := by
  refine ⟨_, answer_runs t _ cap.srv cap.answering cap.silent, cap.ctl, rfl, cap.next, cap.serving, cap.answering, cap.idle,
    cap.empty, cap.silent, cap.up, ?_, ?_⟩
  · simpa using Nat.le_trans cap.seen (Nat.le_add_right _ _)
  · have way := cap.down
    simp only [Tunnel.onWayDown] at way
    simp only [Tunnel.onWayDown, List.drop_append_of_le_length cap.seen, way, List.nil_append]

theorem at_cap_heard (t : Tunnel) (c s : Channel) (frame : Frame) (back : List Frame) (cap : AtCap t c s (frame :: back))
    (first : frame.channelId = 1) : ∃ next, t.step (.deliverDown 0) = some next ∧ AtCap next (c.onFrame frame) s back := by
  obtain ⟨way, within⟩ := on_way_next _ _ _ _ cap.down
  have heard : t.step (.deliverDown 0) = some { t with ctl := t.ctl.onFrame frame 0, downSeen := t.downSeen + 1 } := by
    simp [Tunnel.step, cap.down, TunnelHandle.step, cap.serving]
  refine ⟨_, heard, ?_, cap.srv, cap.next, cap.serving, cap.answering, cap.idle, cap.empty, cap.silent, cap.up, within, way⟩
  simp only [TunnelHandle.onFrame, cap.ctl, List.map_cons, later_apart frame first]

-- The controller has a place again, and its next `open` goes out.
theorem at_cap_opens (t : Tunnel) (c s : Channel) (cap : AtCap t c s []) (gone : c.listed = false) :
    ∃ next, Machine.run Tunnel.step t (openRound maxChannels) = some next ∧ next.srv = t.srv ∧
      next.onWayUp = [.openMsg 257 "" 80 channelWindow] := by
  have number : channelNumber maxChannels = 257 := by decide
  have count : t.ctl.channels.length = maxChannels := by simp [cap.ctl, laterKs, maxChannels]
  have live : liveIds t.ctl.channels = laterKs.map channelNumber := by rw [cap.ctl, live_later _ gone]
  have opened := open_round_runs t (channelNumber maxChannels) cap.serving cap.idle cap.empty cap.next (live ▸ later_fresh)
    (by rw [live]; simp [laterKs, maxChannels])
  rw [count] at opened
  refine ⟨_, opened, rfl, ?_⟩
  simp only [Tunnel.onWayUp, cap.up, List.drop_left, number]

-- The local side of the first channel is over, its receiver gone and its close not out
-- yet; the data that finds it so costs it its entry.
def refusedRun : List TunnelAct :=
  fillTable maxChannels ++ (localEnd ++ (answer ++ ([TunnelAct.deliverDown 0, .deliverDown 0] ++ openRound maxChannels)))

theorem admitted_open_refused :
    ∃ t, Machine.run Tunnel.step (.start "localhost:80") refusedRun = some t ∧ t.srv.loop = .running ∧
      t.onWayUp = [.openMsg 257 "" 80 channelWindow] ∧ ¬ (liveIds (retain t.srv.channels)).length < maxChannels ∧
      (t.srv.handle (.openMsg 257 "" 80 channelWindow) true).tx =
        [.openedMsg 257 false "Too many port forward channels" 0] := by
  obtain ⟨t1, ran1, cap1⟩ := at_cap_ended _ _ _ at_cap_filled
  obtain ⟨t2, ran2, cap2⟩ := at_cap_answered t1 _ cap1
  obtain ⟨t3, ran3, cap3⟩ := at_cap_heard t2 _ _ _ _ cap2 rfl
  obtain ⟨t4, ran4, cap4⟩ := at_cap_heard t3 _ _ _ _ cap3 rfl
  obtain ⟨t5, ran5, same, queued⟩ := at_cap_opens t4 _ _ cap4 (by decide)
  have full : ¬ (liveIds (retain t5.srv.channels)).length < maxChannels := by
    rw [same, cap4.srv]
    exact live_later_srv answeredSrv (by decide) (by decide)
  have heard : Machine.run Tunnel.step t2 [.deliverDown 0, .deliverDown 0] = some t4 := by simp [Machine.run, ran3, ran4]
  refine ⟨t5, ?_, same ▸ cap4.answering, queued, full, ?_⟩
  · rw [refusedRun, Machine.run_append, fill_runs maxChannels (Nat.le_refl _), Option.bind_some, Machine.run_append, ran1,
      Option.bind_some, Machine.run_append, ran2, Option.bind_some, Machine.run_append, heard, Option.bind_some, ran5]
  · have beyond := Nat.le_of_not_lt full
    have silent : t5.srv.tx = [] := same ▸ cap4.silent
    simp [PortForwardMux.handle, PortForwardMux.onOpen, beyond, PortForwardMux.reply, PortForwardMux.enqueue, silent]

end GotechDesk.PortForward
