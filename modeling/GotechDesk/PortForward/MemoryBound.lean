import GotechDesk.PortForward.Account
import GotechDesk.PortForward.PortForwardMux

set_option autoImplicit false

namespace GotechDesk.PortForward

-- The window a live channel has been granted: the controlled side's is the initial
-- one until its connect succeeds, and stays so when the task leaves without one.
def Channel.grantedWindow (c : Channel) : Nat :=
  match c.side, c.phase with
  | .controlled, .connecting _ _ _ => initialWindow
  | .controlled, .leaving => initialWindow
  | .controlled, .unborn => initialWindow
  | _, _ => channelWindow

-- What one channel may hold, and that none of the arithmetic behind it is cut off.
-- `widens` and `drains` are about the two calls that add to a window, each in the
-- state it is made from; `fits` is about the test made before a frame is buffered.
structure MemoryBound (c : Channel) : Prop where
  conserved : c.receiving = true →
    c.toSocket.window.remaining + c.toSocket.window.drainedSinceUpdate + chargeSum c.toSocket.undrained = c.grantedWindow
  bytes : (c.toSocket.undrained.map List.length).sum ≤ channelWindow
  frames : c.toSocket.undrained.length ≤ channelWindow / minFrameCharge
  widens : ∀ addr isRdp polled, c.phase = .connecting addr isRdp polled →
    c.toSocket.window.remaining + (channelWindow - initialWindow) ≤ u32Max
  drains : ∀ chunk done, c.toSocket.point = .writing chunk done →
    c.toSocket.window.drainedSinceUpdate + charge chunk.length ≤ u32Max ∧
      c.toSocket.window.remaining + (c.toSocket.window.drainedSinceUpdate + charge chunk.length) ≤ u32Max
  fits : ∀ addr isRdp polled bytes rest, c.phase = .connecting addr isRdp polled →
    c.toSocket.inbound = .data bytes :: rest → pendingFits c.pendingLen bytes.length = true

theorem account_kept : Kept Account :=
  ⟨fun c act next frame account step => account_step c next act frame account step,
    fun c frame account => account_on_frame c account frame, account_unlist⟩

-- A receiving channel is not done, so its phase fixes the grant.
theorem receiving_granted (c : Channel) (account : Account c) (receiving : c.receiving = true) :
    c.toSocket.granted = c.grantedWindow := by
  obtain ⟨running, _⟩ := (receiving_iff c).mp receiving
  refine account.granted c.grantedWindow ?_
  cases side : c.side with
  | controller => simp [Phase.grant, Channel.grantedWindow, side]
  | controlled => cases phase : c.phase <;> simp_all [Phase.grant, Channel.grantedWindow]

theorem undrained_frames (half : TunnelToSocket) (bounded : Bounded half) :
    half.undrained.length ≤ channelWindow / minFrameCharge := by
  have positive : 0 < minFrameCharge := by decide
  have counted := charge_sum_counts half.undrained
  have bound := bounded.bound
  have capped := bounded.capped
  rw [Nat.le_div_iff_mul_le positive, Nat.mul_comm]
  simp only [TunnelToSocket.accounted, TunnelToSocket.buffered] at bound
  omega

theorem undrained_bytes (half : TunnelToSocket) (bounded : Bounded half) :
    (half.undrained.map List.length).sum ≤ channelWindow := by
  have bound := bounded.bound
  have capped := bounded.capped
  simp only [TunnelToSocket.accounted, TunnelToSocket.buffered] at bound
  have small : chargeSum half.undrained ≤ channelWindow := by omega
  exact Nat.le_trans (charge_sum_covers half.undrained small) small

theorem memory_bound (c : Channel) (account : Account c) : MemoryBound c := by
  have word : channelWindow ≤ u32Max := by decide
  have bound := account.bounded.bound
  have capped := account.bounded.capped
  refine ⟨?_, undrained_bytes _ account.bounded, undrained_frames _ account.bounded, ?_, ?_, ?_⟩
  · intro receiving
    exact (account.exact receiving).trans (receiving_granted c account receiving)
  · intro addr isRdp polled here
    obtain ⟨_, granted⟩ := connecting_granted c account addr isRdp polled here
    have wider : initialWindow + (channelWindow - initialWindow) = channelWindow := by decide
    simp only [TunnelToSocket.accounted] at bound
    omega
  · intro chunk done here
    have split := writing_accounted c.toSocket chunk done here
    omega
  · intro addr isRdp polled bytes rest here queued
    exact connecting_fits c account addr isRdp polled bytes rest here queued

-- Both ends, whatever the peer sends and however the tasks are scheduled.
theorem channels_bounded (loginTarget : String) (h : TunnelHandle) (m : PortForwardMux)
    (controller : Machine.Reachable TunnelHandle.step .new h)
    (controlled : Machine.Reachable PortForwardMux.step (.new loginTarget) m) :
    (∀ c ∈ h.channels, MemoryBound c) ∧ (∀ c ∈ m.channels, MemoryBound c) := by
  refine ⟨fun c member => ?_, fun c member => ?_⟩
  · exact memory_bound c (handle_channels Account account_kept account_controller h controller c member)
  · exact memory_bound c (mux_channels Account account_kept account_controlled loginTarget m controlled c member)

-- A controller whose peer answers an open with data, and a controlled side that
-- gets data before its connect is through, one frame moved to the pending list.
def answeredOpen : List HandleAct :=
  [.openCheck, .openInsert "" 80 [7], .task 0 .spawn, .task 0 (.sendOpen true), .receive (.dataMsg 1 [1, 2]) 0,
    .task 0 (.toSocket .next)]

def earlyData : List MuxAct :=
  [.handle (.openMsg 1 "" 80 0) true, .handle (.dataMsg 1 [3]) true, .task 0 (.command true), .task 0 (.command true),
    .handle (.dataMsg 1 [4, 5]) true]

theorem answered_open_runs : (Machine.run TunnelHandle.step .new answeredOpen).isSome = true := by decide

theorem early_data_runs : (Machine.run PortForwardMux.step (.new "localhost:80") earlyData).isSome = true := by decide

theorem channels_bounded_early_data :
    let h := (Machine.run TunnelHandle.step .new answeredOpen).get answered_open_runs
    let m := (Machine.run PortForwardMux.step (.new "localhost:80") earlyData).get early_data_runs
    h.channels.map (fun c => c.toSocket.undrained) = [[[1, 2]]] ∧
      m.channels.map (fun c => c.toSocket.undrained) = [[[3], [4, 5]]] ∧
      (∀ c ∈ h.channels, MemoryBound c) ∧ (∀ c ∈ m.channels, MemoryBound c) :=
  ⟨by decide, by decide, channels_bounded "localhost:80" _ _ (Machine.reachable_run _ _ _ answered_open_runs)
    (Machine.reachable_run _ _ _ early_data_runs)⟩

end GotechDesk.PortForward
