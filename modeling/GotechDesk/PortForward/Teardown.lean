import GotechDesk.PortForward.Account
import GotechDesk.PortForward.TunnelHandle

set_option autoImplicit false

namespace GotechDesk.PortForward

-- A step the task takes by itself: everything but a socket that delivers bytes,
-- takes some or fails.
def Act.internal : Act → Bool
  | .toTunnel (.read _) | .toSocket (.write _) | .toSocket .writeFail => false
  | _ => true

-- What the controller's tasks keep: a task that is over has no entry left, and the
-- coordinator joins its halves only after it has told them to stop.
structure Ending (c : Channel) : Prop where
  account : Account c
  side : c.side = .controller
  born : c.phase ≠ .unborn
  removed : c.phase = .done → c.listed = false
  signalled : c.phase = .joining → c.cancel = true

theorem ending_controller (id : ChannelId) (host : String) (port : Int) (prebuf : Bytes) :
    Ending (Channel.controller id host port prebuf) :=
  ⟨account_controller id host port prebuf, rfl, by simp [Channel.controller], by simp [Channel.controller],
    by simp [Channel.controller]⟩

theorem ending_step (c next : Channel) (act : Act) (frame : Option Frame) (ending : Ending c)
    (step : ChannelStep c act next frame) : Ending next := by
  have account := account_step c next act frame ending.account step
  have side := (channel_step_shape c next act frame step).side.trans ending.side
  have before := ending.side
  have sided := ending.account.sided
  cases step with
  | toTunnel act half frame relays step => exact { ending with account := account, side := side }
  | toSocket act half frame relays step => exact { ending with account := account, side := side }
  | cancelHalves teardown here cause => exact ⟨account, side, by simp, by simp, by simp⟩
  | join first second here tunnelEnd socketEnd =>
      cases closes : sendsClose first second <;> rw [closes] at account <;>
        exact ⟨account, side, by simp [Channel.afterRelay, before], by simp [Channel.afterRelay, before],
          by simp [Channel.afterRelay, before]⟩
  | sendClose sent here =>
      exact ⟨account, side, by simp [Channel.append, Channel.afterRelay, before],
        by simp [Channel.append, Channel.afterRelay, before], by simp [Channel.append, Channel.afterRelay, before]⟩
  | spawn host port here => exact ⟨account, side, by simp, by simp, by simp⟩
  | sendOpen sent host port here =>
      cases sent <;>
        exact ⟨account, side, by simp [Channel.append], by simp [Channel.append], by simp [Channel.append]⟩
  | remove here => exact ⟨account, side, by simp, by simp, by simp⟩
  | commandData sent addr isRdp bytes rest here queued fits => simp [here, before, Phase.fits] at sided
  | commandOver sent addr isRdp bytes rest here queued beyond => simp [here, before, Phase.fits] at sided
  | commandViolation sent addr isRdp rest here queued => simp [here, before, Phase.fits] at sided
  | commandEnd sent addr isRdp here ending => simp [here, before, Phase.fits] at sided
  | commandNone sent addr isRdp here queued still => simp [here, before, Phase.fits] at sided
  | connectPending addr isRdp here => simp [here, before, Phase.fits] at sided
  | connectFail sent addr isRdp here => simp [here, before, Phase.fits] at sided
  | connectOk addr isRdp here => simp [here, before, Phase.fits] at sided
  | sendOpened sent here => simp [here, before, Phase.fits] at sided
  | leave here => simp [here, before, Phase.fits] at sided

theorem listed_push (c : Channel) (command : Inbound) : (c.push command).listed = c.listed := by
  cases receiving : c.receiving <;> simp [Channel.push, receiving]

-- The demultiplexer never puts an entry back.
theorem on_frame_unlisted (c : Channel) (frame : Frame) (gone : c.listed = false) : (c.onFrame frame).listed = false := by
  have absent : c.holds frame.channelId = false := by simp [Channel.holds, gone]
  simpa [Channel.onFrame, absent] using gone

theorem ending_kept : Kept Ending := by
  refine ⟨fun c act next frame ending step => ending_step c next act frame ending step, ?_, ?_⟩
  · intro c frame ending
    have shape := on_frame_shape c frame
    refine ⟨account_on_frame c ending.account frame, shape.side.trans ending.side, ?_, ?_, ?_⟩
    · rw [shape.phase]
      exact ending.born
    · intro beyond
      exact on_frame_unlisted c frame (ending.removed (shape.phase ▸ beyond))
    · intro joining
      rw [shape.cancel]
      exact ending.signalled (shape.phase ▸ joining)
  · exact fun c ending => { ending with account := account_unlist c ending.account, removed := fun _ => rfl }

-- Past `close_all` the level is up, and stays up.
def LoopPoint.pastTeardown : LoopPoint → Bool
  | .running | .broken | .cleared => false
  | _ => true

theorem teardown_raised (h : TunnelHandle) (reach : Machine.Reachable TunnelHandle.step .new h)
    (past : h.loop.pastTeardown = true) : h.teardown = true := by
  refine Machine.reachable_invariant TunnelHandle.step (fun h => h.loop.pastTeardown = true → h.teardown = true) .new h
    (by simp [TunnelHandle.new, LoopPoint.pastTeardown]) ?_ reach past
  intro state act next raised taken
  cases handle_step state next act taken with
  | task k act c after frame here allowed step =>
      rw [enqueue_eq]
      exact raised
  | raiseTeardown here => exact fun _ => rfl
  | unset here => exact fun _ => raised (by simp [here, LoopPoint.pastTeardown])
  | dropControl here => exact fun _ => raised (by simp [here, LoopPoint.pastTeardown])
  | dropData here => exact fun _ => raised (by simp [here, LoopPoint.pastTeardown])
  | lostControl | lostData | breakLoop | clear => exact fun past => by simp [LoopPoint.pastTeardown] at past
  | _ => exact raised

-- Each parking place of the half that reads the socket has its way out once the
-- queues are gone and the half has been told to stop.
theorem to_tunnel_ends (id : ChannelId) (half : SocketToTunnel) (running : half.point.isEnded = false) :
    (half.step id true .cancel).isSome = true ∨ (half.step id true (.send false)).isSome = true := by
  cases here : half.point with
  | sending data => exact .inr (by simp [SocketToTunnel.step, here])
  | ended reason => simp [here, ToTunnel.isEnded] at running
  | _ => exact .inl (by simp [SocketToTunnel.step, here])

theorem to_socket_ends (id : ChannelId) (listed : Bool) (half : TunnelToSocket) (running : half.hasEnded = false) :
    (half.step id listed true .cancel).isSome = true ∨ (half.step id listed true .next).isSome = true ∨
      (half.step id listed true (.update false)).isSome = true := by
  cases here : half.point with
  | waiting =>
      cases held : half.pending with
      | nil => exact .inl (by simp [TunnelToSocket.step, here, held])
      | cons chunk rest => exact .inr (.inl (by simp [TunnelToSocket.step, TunnelToSocket.next, here, held]))
  | writing chunk done => exact .inl (by simp [TunnelToSocket.step, here])
  | updating add => exact .inr (.inr (by simp [TunnelToSocket.step, here]))
  | ended reason => simp [TunnelToSocket.hasEnded, here] at running

theorem joining_moves (h : TunnelHandle) (c : Channel) (ending : Ending c) (here : c.phase = .joining)
    (returned : h.loop = .returned) : ∃ act, Act.internal act = true ∧ h.allows act = true ∧ (c.step act).isSome = true := by
  have signal := ending.signalled here
  have relays : c.relays = true := by simp [Channel.relays, here]
  have tunnel : ∀ act, (c.toTunnel.step c.id true act).isSome = true → (c.step (.toTunnel act)).isSome = true := by
    intro act enabled
    simpa [Channel.step, relays, signal] using enabled
  have socket : ∀ act, (c.toSocket.step c.id c.listed true act).isSome = true → (c.step (.toSocket act)).isSome = true := by
    intro act enabled
    simpa [Channel.step, relays, signal] using enabled
  cases first : c.toTunnel.point.isEnded with
  | false =>
      rcases to_tunnel_ends c.id c.toTunnel first with enabled | enabled
      · exact ⟨.toTunnel .cancel, rfl, rfl, tunnel _ enabled⟩
      · exact ⟨.toTunnel (.send false), rfl, by simp [TunnelHandle.allows, returned], tunnel _ enabled⟩
  | true =>
      cases second : c.toSocket.hasEnded with
      | false =>
          rcases to_socket_ends c.id c.listed c.toSocket second with enabled | enabled | enabled
          · exact ⟨.toSocket .cancel, rfl, rfl, socket _ enabled⟩
          · exact ⟨.toSocket .next, rfl, rfl, socket _ enabled⟩
          · exact ⟨.toSocket (.update false), rfl, by simp [TunnelHandle.allows, returned], socket _ enabled⟩
      | true =>
          refine ⟨.join, rfl, rfl, ?_⟩
          cases tunnelEnd : c.toTunnel.point with
          | ended reason =>
              cases socketEnd : c.toSocket.point with
              | ended reason => simp [Channel.step, Channel.stepRelay, here, tunnelEnd, socketEnd]
              | _ => simp [TunnelToSocket.hasEnded, socketEnd] at second
          | _ => simp [tunnelEnd, ToTunnel.isEnded] at first

theorem unfinished_moves (h : TunnelHandle) (c : Channel) (ending : Ending c) (running : c.phase ≠ .done)
    (returned : h.loop = .returned) (raised : h.teardown = true) :
    ∃ act, Act.internal act = true ∧ h.allows act = true ∧ (c.step act).isSome = true := by
  have sided := ending.account.sided
  have side := ending.side
  cases here : c.phase with
  | unborn => exact absurd here ending.born
  | admitted host port => exact ⟨.spawn, rfl, rfl, by simp [Channel.step, Channel.stepOpen, here]⟩
  | opening host port =>
      exact ⟨.sendOpen false, rfl, by simp [TunnelHandle.allows, returned], by simp [Channel.step, Channel.stepOpen, here]⟩
  | relaying =>
      exact ⟨.cancelHalves true, rfl, by simp [TunnelHandle.allows, raised],
        by simp [Channel.step, Channel.stepRelay, here]⟩
  | joining => exact joining_moves h c ending here returned
  | closing =>
      exact ⟨.sendClose false, rfl, by simp [TunnelHandle.allows, returned], by simp [Channel.step, Channel.stepRelay, here]⟩
  | removing => exact ⟨.remove, rfl, rfl, by simp [Channel.step, Channel.stepOpen, here]⟩
  | done => exact absurd here running
  | connecting addr isRdp polled => simp [here, side, Phase.fits] at sided
  | connected => simp [here, side, Phase.fits] at sided
  | leaving => simp [here, side, Phase.fits] at sided

theorem returned_moves (h : TunnelHandle) (reach : Machine.Reachable TunnelHandle.step .new h)
    (returned : h.loop = .returned) (k : Nat) (c : Channel) (here : h.channels[k]? = some c) (running : c.phase ≠ .done) :
    ∃ act, Act.internal act = true ∧ (h.task k act).isSome = true := by
  have ending := handle_channels Ending ending_kept ending_controller h reach c (List.mem_of_getElem? here)
  have raised := teardown_raised h reach (by simp [returned, LoopPoint.pastTeardown])
  obtain ⟨act, own, allowed, enabled⟩ := unfinished_moves h c ending running returned raised
  exact ⟨act, own, by simpa [TunnelHandle.task, here, allowed] using enabled⟩

-- After the loop has returned nothing waits for ever, wherever it was parked and
-- whenever it was opened, and what is left when nothing moves is an empty map.
theorem teardown_reaches_every_channel (h : TunnelHandle) (reach : Machine.Reachable TunnelHandle.step .new h)
    (returned : h.loop = .returned) :
    (∀ k c, h.channels[k]? = some c → c.phase ≠ .done → ∃ act, Act.internal act = true ∧ (h.task k act).isSome = true) ∧
      ((∀ k act, Act.internal act = true → h.task k act = none) → liveIds h.channels = []) := by
  refine ⟨fun k c here running => returned_moves h reach returned k c here running, ?_⟩
  intro still
  rw [liveIds, List.map_eq_nil_iff, List.filter_eq_nil_iff]
  intro c member
  obtain ⟨k, here⟩ := List.mem_iff_getElem?.mp member
  have beyond : c.phase = .done := by
    by_contra running
    obtain ⟨act, own, enabled⟩ := returned_moves h reach returned k c here running
    rw [still k act own] at enabled
    cases enabled
  have ending := handle_channels Ending ending_kept ending_controller h reach c member
  simp [ending.removed beyond]

-- A call that passed the closed-sink test while the loop served and reaches the map
-- only after close_all.
def lateOpen : List HandleAct :=
  [.openCheck, .breakLoop, .clear, .raiseTeardown, .openInsert "" 80 [], .unset, .dropControl, .dropData]

theorem late_open_runs : (Machine.run TunnelHandle.step .new lateOpen).isSome = true := by decide

theorem teardown_reaches_late_open :
    let h := (Machine.run TunnelHandle.step .new lateOpen).get late_open_runs
    h.loop = .returned ∧ liveIds h.channels = [1] ∧
      (∀ k c, h.channels[k]? = some c → c.phase ≠ .done → ∃ act, Act.internal act = true ∧ (h.task k act).isSome = true) ∧
      ((∀ k act, Act.internal act = true → h.task k act = none) → liveIds h.channels = []) :=
  ⟨by decide, by decide, teardown_reaches_every_channel _ (Machine.reachable_run _ _ _ late_open_runs) (by decide)⟩

end GotechDesk.PortForward
