import GotechDesk.PortForward.LinkFlow
import GotechDesk.PortForward.MemoryBound

set_option autoImplicit false

namespace GotechDesk.PortForward

def Dials (loginTarget : String) (c : Channel) : Prop := ∀ addr isRdp polled, c.phase = .connecting addr isRdp polled → addr = loginTarget

-- The controlled end alone: its peer may send any frame at any moment.
structure Confined (loginTarget : String) (m : PortForwardMux) : Prop where
  login : m.loginTarget = loginTarget
  dials : ∀ c ∈ m.channels, Dials loginTarget c
  distinct : (liveIds m.channels).Nodup
  few : (liveIds m.channels).length ≤ maxChannels

-- A task that connects was made to connect there: no step turns it to another address.
theorem connecting_before (c next : Channel) (act : Act) (frame : Option Frame) (addr : String) (isRdp polled : Bool)
    (step : ChannelStep c act next frame) (connects : next.phase = .connecting addr isRdp polled) :
    ∃ before, c.phase = .connecting addr isRdp before := by
  cases step with
  | toTunnel | toSocket => exact ⟨polled, connects⟩
  | commandData _ _ _ _ _ here => exact ⟨polled, connects⟩
  | commandNone _ _ _ here | connectPending _ _ here =>
      cases connects
      exact ⟨_, here⟩
  | join first second =>
      cases side : c.side <;> cases ends : sendsClose first second <;> simp [Channel.afterRelay, side, ends] at connects
  | sendClose sent => cases side : c.side <;> simp [Channel.afterRelay, Channel.append, side] at connects
  | sendOpen sent | sendOpened sent => cases sent <;> simp [Channel.append] at connects
  | _ => cases connects

theorem dials_kept (loginTarget : String) : Kept (Dials loginTarget) := by
  refine ⟨fun c act next frame dials step addr isRdp polled connects => ?_, fun c frame dials addr isRdp polled connects => ?_, fun _ dials => dials⟩
  · obtain ⟨before, here⟩ := connecting_before c next act frame addr isRdp polled step connects
    exact dials addr isRdp before here
  · exact dials addr isRdp polled ((on_frame_shape c frame).phase ▸ connects)

theorem live_map (f : Channel → Channel) (channels : List Channel) (same : ∀ c, (f c).id = c.id)
    (stays : ∀ c, (f c).listed = true → c.listed = true) : (liveIds (channels.map f)).Sublist (liveIds channels) := by
  rw [liveIds, List.filter_map, List.map_map, show Channel.id ∘ f = Channel.id from funext same]
  exact (List.monotone_filter_right channels stays).map Channel.id

theorem live_set (channels : List Channel) (c d : Channel) (k : Nat) (here : channels[k]? = some c) (same : d.id = c.id)
    (stays : d.listed = true → c.listed = true) : (liveIds (channels.set k d)).Sublist (liveIds channels) := by
  induction channels generalizing k with
  | nil => cases here
  | cons first rest ih =>
      cases k with
      | zero =>
          obtain rfl := Option.some.inj here
          cases kept : d.listed <;> cases listed : first.listed <;> simp_all [liveIds]
      | succ k =>
          have fewer := ih k here
          cases listed : first.listed <;> simp_all [liveIds]

theorem free_unlisted (channels : List Channel) (id : ChannelId) (free : containsKey channels id = false) : id ∉ liveIds channels := by
  intro member
  obtain ⟨c, kept, rfl⟩ := List.mem_map.mp member
  obtain ⟨inside, listed⟩ := List.mem_filter.mp kept
  have held : containsKey channels c.id = true := List.any_eq_true.mpr ⟨c, inside, holds_own c c.id rfl listed⟩
  rw [free] at held
  cases held

section
variable (loginTarget : String) (m next : PortForwardMux) (confined : Confined loginTarget m)

include confined

theorem confined_fewer (login : next.loginTarget = m.loginTarget) (dials : ∀ c ∈ next.channels, Dials loginTarget c)
    (fewer : (liveIds next.channels).Sublist (liveIds m.channels)) : Confined loginTarget next :=
  ⟨login.trans confined.login, dials, confined.distinct.sublist fewer, fewer.length_le.trans confined.few⟩

theorem confined_map (f : Channel → Channel) (login : next.loginTarget = m.loginTarget) (channels : next.channels = m.channels.map f)
    (kept : ∀ c, Dials loginTarget c → Dials loginTarget (f c)) (same : ∀ c, (f c).id = c.id)
    (stays : ∀ c, (f c).listed = true → c.listed = true) : Confined loginTarget next := by
  refine confined_fewer loginTarget m next confined login (fun c member => ?_) (channels ▸ live_map f m.channels same stays)
  obtain ⟨before, listed, rfl⟩ := List.mem_map.mp (channels ▸ member)
  exact kept before (confined.dials before listed)

theorem confined_retain (login : next.loginTarget = m.loginTarget) (channels : next.channels = retain m.channels) : Confined loginTarget next := by
  refine confined_map loginTarget m next confined _ login channels (fun c dials => ?_) (fun c => ?_) (fun c listed => ?_)
  · split <;> exact dials
  · split <;> rfl
  · split at listed
    · exact listed
    · cases listed

end

-- An `open` that makes a channel found room for it, a free id and the login target.
theorem open_channels (m : PortForwardMux) (id : ChannelId) (host : String) (port : Int) (window : Nat) (permitted : Bool) :
    (m.onOpen id host port window permitted).loginTarget = m.loginTarget ∧
      ((m.onOpen id host port window permitted).channels = retain m.channels ∨
        ∃ isRdp, (m.onOpen id host port window permitted).channels = retain m.channels ++ [Channel.controlled id m.loginTarget isRdp window] ∧
          containsKey (retain m.channels) id = false ∧ (liveIds (retain m.channels)).length < maxChannels) := by
  unfold PortForwardMux.onOpen
  dsimp only
  split
  · split
    · exact ⟨rfl, .inl rfl⟩
    · next room =>
      split
      · exact ⟨rfl, .inl rfl⟩
      · next free =>
        split
        · next target =>
          exact ⟨rfl, .inr ⟨_, by rw [← target], by simpa using free, Nat.lt_of_not_le room⟩⟩
        · exact ⟨rfl, .inl rfl⟩
  · exact ⟨rfl, .inl rfl⟩

theorem open_confined (loginTarget : String) (m : PortForwardMux) (id : ChannelId) (host : String) (port : Int) (window : Nat) (permitted : Bool)
    (confined : Confined loginTarget m) : Confined loginTarget (m.onOpen id host port window permitted) := by
  obtain ⟨login, same | ⟨isRdp, made, free, room⟩⟩ := open_channels m id host port window permitted
  · exact confined_retain loginTarget m _ confined login same
  · have kept := confined_retain loginTarget m { m with channels := retain m.channels } confined rfl rfl
    have own : liveIds (retain m.channels ++ [Channel.controlled id m.loginTarget isRdp window]) = liveIds (retain m.channels) ++ [id] := by
      simp [liveIds, Channel.controlled]
    refine ⟨login.trans confined.login, ?_, ?_, ?_⟩ <;> rw [made]
    · refine List.forall_mem_append.mpr ⟨kept.dials, List.forall_mem_singleton.mpr fun addr rdp polled same => ?_⟩
      cases same
      exact confined.login
    · rw [own]
      exact List.concat_eq_append ▸ kept.distinct.concat (free_unlisted _ id free)
    · rw [own, List.length_append]
      exact room

theorem step_confined (loginTarget : String) (m : PortForwardMux) (act : MuxAct) (next : PortForwardMux) (confined : Confined loginTarget m)
    (taken : m.step act = some next) : Confined loginTarget next := by
  have kept := dials_kept loginTarget
  cases act with
  | handle frame permitted =>
      obtain ⟨_, rfl⟩ := guarded_step _ _ _ taken
      cases frame with
      | openMsg id host port window => exact open_confined loginTarget m id host port window permitted confined
      | _ => exact confined_map loginTarget m _ confined _ rfl rfl (fun c => kept.frame c _) (fun c => (on_frame_shape c _).id) (fun c => (on_frame_keep c _).listed)
  | task k act =>
      cases mux_step m next _ taken with
      | task _ _ c after frame here allowed step =>
          exact confined_fewer loginTarget m _ confined rfl
            (kept_set _ m.channels k after confined.dials (kept.step c act after frame (confined.dials c (List.mem_of_getElem? here)) step))
            (live_set m.channels c after k here (channel_step_shape c after act frame step).id (channel_step_got c after act frame step).2.2)
  | clear =>
      obtain ⟨_, rfl⟩ := guarded_step _ _ _ taken
      exact confined_map loginTarget m _ confined Channel.unlist rfl rfl kept.unlist (fun _ => rfl) (fun _ listed => nomatch listed)
  | transmit _ | breakLoop | raiseTeardown | dropTx =>
      cases mux_step m next _ taken <;> exact { confined with }

-- Whatever frames the peer sends, and however the tasks run, every connect goes to the target the
-- login was approved for, and the entries of the map have different ids and stay within the limit.
theorem target_confined (loginTarget : String) (m : PortForwardMux) (reach : Machine.Reachable PortForwardMux.step (.new loginTarget) m) :
    (∀ c ∈ m.channels, ∀ addr isRdp polled, c.phase = .connecting addr isRdp polled → addr = loginTarget) ∧ (liveIds m.channels).Nodup ∧
      (liveIds m.channels).length ≤ maxChannels := by
  have confined := Machine.reachable_invariant PortForwardMux.step (Confined loginTarget) (.new loginTarget) m
    ⟨rfl, (fun _ member => by cases member), List.nodup_nil, Nat.zero_le _⟩
    (fun state act next confined taken => step_confined loginTarget state act next confined taken) reach
  exact ⟨confined.dials, confined.distinct, confined.few⟩

theorem target_confined_early_data :
    let m := (Machine.run PortForwardMux.step (.new "localhost:80") earlyData).get early_data_runs
    m.channels.map Channel.phase = [.connecting "localhost:80" false true] ∧
      (∀ c ∈ m.channels, ∀ addr isRdp polled, c.phase = .connecting addr isRdp polled → addr = "localhost:80") ∧ (liveIds m.channels).Nodup ∧
      (liveIds m.channels).length ≤ maxChannels :=
  ⟨by decide, target_confined "localhost:80" _ (Machine.reachable_run _ _ _ early_data_runs)⟩

end GotechDesk.PortForward
