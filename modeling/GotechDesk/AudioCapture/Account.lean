import GotechDesk.AudioCapture.Handoff

set_option autoImplicit false

namespace GotechDesk.AudioCapture

variable {α : Type}

def Submitting.flying : Submitting α → List (Packet α)
  | .locked packet | .evicted packet | .taken packet => [packet]
  | .idle | .contended | .pushed | .starved | .leaving => []

def Submitting.holds : Submitting α → Nat
  | .evicted _ | .taken _ => 1
  | .idle | .contended | .locked _ | .pushed | .starved | .leaving => 0

def Submitting.uncounted : Submitting α → Nat
  | .contended | .evicted _ | .starved => 1
  | .idle | .locked _ | .taken _ | .pushed | .leaving => 0

def Receiving.holds : Receiving → Nat
  | .recycling | .recycleLocked => 1
  | .idle | .stats _ _ _ | .popping | .popLocked | .emptyLocked => 0

-- The losses `take_stats` has swapped out and not yet handed over.
def Receiving.losses : Receiving → Nat
  | .stats _ .other loss => loss.contentionDropped
  | .stats _ .oversized loss => loss.dropped
  | .stats _ .recycle loss | .stats _ .maxQueued loss => loss.dropped + loss.oversized
  | .stats _ .contention _ | .idle | .popping | .popLocked | .emptyLocked | .recycling | .recycleLocked => 0

def Receiving.failures : Receiving → Nat
  | .stats _ .maxQueued loss => loss.recycleFailures
  | _ => 0

def CapturePcmStats.losses (stats : CapturePcmStats) : Nat := stats.loss.dropped + stats.loss.oversized

def State.encoderHolds (state : State α) : Nat := state.held.length + state.receiving.holds

def State.reported (state : State α) : Nat := (state.reports.map CapturePcmStats.losses).sum

def State.unreported (state : State α) : Nat :=
  state.pending.losses + state.receiving.losses + state.handoff.otherDropped + state.handoff.contentionDropped +
    state.handoff.oversized

-- Every packet that got past the lock and is not lost, in the order of its journey.
def State.passed (state : State α) : List (Packet α) :=
  state.popped.map Popped.packet ++ state.handoff.buffers.ready ++ state.submitting.flying

structure Pooled (capacity : Nat) (state : State α) : Prop where
  roomy : capacity ≤ state.handoff.room
  pool : state.handoff.buffers.available.length + state.handoff.buffers.ready.length + state.encoderHolds +
    state.submitting.holds = capacity
  losses : state.reported + state.unreported + state.submitting.uncounted = state.lost.length
  noFailure : state.handoff.recycleFailures = 0
  noneSwapped : state.receiving.failures = 0
  nonePending : state.pending.loss.recycleFailures = 0
  noneReported : ∀ stats ∈ state.reports, stats.loss.recycleFailures = 0

example (packet : Packet α) : (Submitting.evicted packet).uncounted = (Submitting.evicted packet).holds := by
  simp [Submitting.holds, Submitting.uncounted]

section
variable (shape : Shape α) (state next : State α)

section
variable (capacity : Nat)

theorem submit_pooled (input : List α) (pooled : Pooled capacity state) (idle : state.submitting = .idle) :
    Pooled capacity (submit shape state input) := by
  obtain ⟨roomy, pool, losses, noFailure, noneSwapped, nonePending, noneReported⟩ := pooled
  simp only [State.encoderHolds, State.reported, State.unreported, idle, Submitting.holds, Submitting.uncounted] at pool losses
  unfold submit
  dsimp only
  split
  · refine ⟨roomy, ?_, ?_, noFailure, noneSwapped, nonePending, noneReported⟩
    · simpa only [State.encoderHolds, idle, Submitting.holds] using pool
    · simp only [State.reported, State.unreported, idle, Submitting.uncounted, List.length_append, List.length_singleton]
      omega
  · split
    · refine ⟨roomy, ?_, ?_, noFailure, noneSwapped, nonePending, noneReported⟩
      · simpa only [State.encoderHolds, Submitting.holds] using pool
      · simp only [State.reported, State.unreported, Submitting.uncounted, List.length_append, List.length_singleton]
        omega
    · refine ⟨roomy, ?_, ?_, noFailure, noneSwapped, nonePending, noneReported⟩
      · simpa only [State.encoderHolds, Submitting.holds] using pool
      · simpa only [State.reported, State.unreported, Submitting.uncounted] using losses

theorem take_buffer_pooled (packet : Packet α) (pooled : Pooled capacity state)
    (locked : state.submitting = .locked packet) : Pooled capacity (takeBuffer state packet) := by
  obtain ⟨roomy, pool, losses, noFailure, noneSwapped, nonePending, noneReported⟩ := pooled
  simp only [State.encoderHolds, State.reported, State.unreported, locked, Submitting.holds, Submitting.uncounted] at pool losses
  unfold takeBuffer
  split
  · rename_i taken
    have nonempty : 0 < state.handoff.buffers.available.length :=
      List.length_pos_of_ne_nil (fun empty => by simp [empty] at taken)
    refine ⟨roomy, ?_, ?_, noFailure, noneSwapped, nonePending, noneReported⟩
    · simp only [State.encoderHolds, Submitting.holds, List.length_dropLast]
      omega
    · simpa only [State.reported, State.unreported, Submitting.uncounted] using losses
  · split
    · rename_i oldest rest queued
      rw [queued, List.length_cons] at pool
      refine ⟨roomy, ?_, ?_, noFailure, noneSwapped, nonePending, noneReported⟩
      · simp only [State.encoderHolds, Submitting.holds]
        omega
      · simp only [State.reported, State.unreported, Submitting.uncounted, List.length_append, List.length_singleton]
        omega
    · refine ⟨roomy, ?_, ?_, noFailure, noneSwapped, nonePending, noneReported⟩
      · simpa only [State.encoderHolds, Submitting.holds] using pool
      · simp only [State.reported, State.unreported, Submitting.uncounted, List.length_append, List.length_singleton]
        omega

theorem sender_pooled (pooled : Pooled capacity state) (stepped : senderStep state = some next) : Pooled capacity next := by
  unfold senderStep at stepped
  cases doing : state.submitting with
  | idle => simp [doing] at stepped
  | locked packet =>
      simp only [doing, Option.some.injEq] at stepped
      exact stepped ▸ take_buffer_pooled state capacity packet pooled doing
  | contended | evicted | starved | taken | pushed | leaving =>
      simp only [doing, Option.some.injEq] at stepped
      obtain ⟨roomy, pool, losses, noFailure, noneSwapped, nonePending, noneReported⟩ := pooled
      simp only [State.encoderHolds, State.reported, State.unreported, doing, Submitting.holds, Submitting.uncounted] at pool losses
      subst stepped
      refine ⟨roomy, ?_, ?_, noFailure, noneSwapped, nonePending, noneReported⟩
      · simp only [State.encoderHolds, Submitting.holds, List.length_append, List.length_singleton]
        omega
      · simp only [State.reported, State.unreported, Submitting.uncounted]
        omega

theorem report_pooled (force elapsed : Bool) (pooled : Pooled capacity state) : Pooled capacity (report state force elapsed) := by
  unfold report
  split
  · exact pooled
  split
  · exact pooled
  obtain ⟨roomy, pool, losses, noFailure, noneSwapped, nonePending, noneReported⟩ := pooled
  refine ⟨roomy, pool, ?_, noFailure, noneSwapped, rfl, ?_⟩
  · simp only [State.reported, State.unreported] at losses
    have nothing : ({} : CapturePcmStats).losses = 0 := rfl
    simp only [State.reported, State.unreported, List.map_append, List.map_singleton, List.sum_append, List.sum_singleton, nothing]
    omega
  · intro stats among
    rcases List.mem_append.mp among with earlier | latest
    · exact noneReported stats earlier
    · rw [List.mem_singleton.mp latest]
      exact nonePending

theorem take_stats_pooled (force elapsed : Bool) (counter : Counter) (loss : CapturePcmLoss)
    (pooled : Pooled capacity state) (swapping : state.receiving = .stats force counter loss) :
    Pooled capacity (takeStats state force elapsed loss counter) := by
  obtain ⟨roomy, pool, losses, noFailure, noneSwapped, nonePending, noneReported⟩ := pooled
  simp only [State.encoderHolds, State.reported, State.unreported, swapping, Receiving.holds] at pool losses noneSwapped
  cases counter with
  | contention | other | oversized =>
      simp only [Receiving.losses] at losses
      refine ⟨roomy, ?_, ?_, noFailure, rfl, nonePending, noneReported⟩
      · simpa only [State.encoderHolds, takeStats, Receiving.holds] using pool
      · simp only [State.reported, State.unreported, takeStats, Receiving.losses]
        omega
  | recycle =>
      simp only [Receiving.losses] at losses
      refine ⟨roomy, ?_, ?_, rfl, noFailure, nonePending, noneReported⟩
      · simpa only [State.encoderHolds, takeStats, Receiving.holds] using pool
      · simpa only [State.reported, State.unreported, takeStats, Receiving.losses] using losses
  | maxQueued =>
      simp only [Receiving.losses] at losses
      simp only [Receiving.failures] at noneSwapped
      unfold takeStats
      refine report_pooled _ capacity force elapsed ⟨roomy, ?_, ?_, noFailure, ?_, ?_, noneReported⟩
      · cases force <;> simpa only [State.encoderHolds, Receiving.holds, Bool.false_eq_true, if_true, if_false] using pool
      · have none : ∀ back : Bool, (if back then Receiving.idle else .popping).losses = 0 := fun back => by cases back <;> rfl
        simp only [CapturePcmStats.losses] at losses
        simp only [State.reported, State.unreported, CapturePcmStats.losses, CapturePcmStats.add, CapturePcmLoss.add, none]
        omega
      · cases force <;> rfl
      · simp only [CapturePcmStats.add, CapturePcmLoss.add, nonePending, noneSwapped]

theorem pop_pooled (pooled : Pooled capacity state) (locked : state.receiving = .popLocked) : Pooled capacity (popPacket shape state) := by
  obtain ⟨roomy, pool, losses, noFailure, noneSwapped, nonePending, noneReported⟩ := pooled
  simp only [State.encoderHolds, State.reported, State.unreported, locked, Receiving.holds, Receiving.losses] at pool losses
  unfold popPacket
  dsimp only
  split
  · refine ⟨roomy, ?_, ?_, noFailure, rfl, nonePending, noneReported⟩
    · simpa only [State.encoderHolds, Receiving.holds] using pool
    · simpa only [State.reported, State.unreported, Receiving.losses] using losses
  · rename_i packet rest queued
    rw [queued, List.length_cons] at pool
    refine ⟨roomy, ?_, ?_, noFailure, rfl, nonePending, noneReported⟩
    · simp only [State.encoderHolds, Receiving.holds, List.length_append, List.length_singleton]
      omega
    · simpa only [State.reported, State.unreported, Receiving.losses] using losses

theorem recycle_pooled (pooled : Pooled capacity state) (locked : state.receiving = .recycleLocked) : Pooled capacity (recycle state) := by
  obtain ⟨roomy, pool, losses, noFailure, noneSwapped, nonePending, noneReported⟩ := pooled
  simp only [State.encoderHolds, State.reported, State.unreported, locked, Receiving.holds, Receiving.losses] at pool losses
  have space : state.handoff.buffers.available.length ≠ state.handoff.room := by omega
  unfold recycle
  rw [if_neg space]
  refine ⟨roomy, ?_, ?_, noFailure, rfl, nonePending, noneReported⟩
  · simp only [State.encoderHolds, Receiving.holds, List.length_append, List.length_singleton]
    omega
  · simpa only [State.reported, State.unreported, Receiving.losses] using losses

-- A step of the encoder thread that only takes or frees the lock, or sets out on a call.
theorem receiving_pooled (locked : Bool) (receiving : Receiving) (pooled : Pooled capacity state)
    (holds : receiving.holds = state.receiving.holds) (losses : receiving.losses = state.receiving.losses)
    (failures : receiving.failures = 0) :
    Pooled capacity { state with handoff := { state.handoff with locked := locked }, receiving := receiving } := by
  refine { pooled with pool := ?_, losses := ?_, noneSwapped := failures }
  · simpa only [State.encoderHolds, holds] using pooled.pool
  · simpa only [State.reported, State.unreported, losses] using pooled.losses

theorem receiver_pooled (elapsed : Bool) (pooled : Pooled capacity state)
    (stepped : receiverStep shape state elapsed = some next) : Pooled capacity next := by
  unfold receiverStep at stepped
  cases doing : state.receiving with
  | idle => simp [doing] at stepped
  | stats force counter loss =>
      simp only [doing, Option.some.injEq] at stepped
      exact stepped ▸ take_stats_pooled state capacity force elapsed counter loss pooled doing
  | popLocked =>
      simp only [doing, Option.some.injEq] at stepped
      exact stepped ▸ pop_pooled shape state capacity pooled doing
  | recycleLocked =>
      simp only [doing, Option.some.injEq] at stepped
      exact stepped ▸ recycle_pooled state capacity pooled doing
  | emptyLocked =>
      simp only [doing, Option.some.injEq] at stepped
      exact stepped ▸ receiving_pooled state capacity false .idle pooled (by rw [doing]; rfl) (by rw [doing]; rfl) rfl
  | popping =>
      simp only [doing, Option.ite_none_left_eq_some, Option.some.injEq] at stepped
      exact stepped.2 ▸ receiving_pooled state capacity true .popLocked pooled (by rw [doing]; rfl) (by rw [doing]; rfl) rfl
  | recycling =>
      simp only [doing, Option.ite_none_left_eq_some, Option.some.injEq] at stepped
      exact stepped.2 ▸ receiving_pooled state capacity true .recycleLocked pooled (by rw [doing]; rfl) (by rw [doing]; rfl) rfl

theorem step_pooled (label : Label α) (pooled : Pooled capacity state) (stepped : step shape state label = some next) : Pooled capacity next := by
  cases label with
  | submit input =>
      cases doing : state.submitting with
      | idle =>
          simp only [step, doing, Option.some.injEq] at stepped
          exact stepped ▸ submit_pooled shape state capacity input pooled doing
      | _ => simp [step, doing] at stepped
  | sender => exact sender_pooled state next capacity pooled stepped
  | nextPacket =>
      cases doing : state.receiving with
      | idle =>
          simp only [step, doing, Option.some.injEq] at stepped
          exact stepped ▸ receiving_pooled state capacity state.handoff.locked (.stats false .contention {}) pooled
            (by rw [doing]; rfl) (by rw [doing]; rfl) rfl
      | _ => simp [step, doing] at stepped
  | finish =>
      cases doing : state.receiving with
      | idle =>
          simp only [step, doing, Option.some.injEq] at stepped
          exact stepped ▸ receiving_pooled state capacity state.handoff.locked (.stats true .contention {}) pooled
            (by rw [doing]; rfl) (by rw [doing]; rfl) rfl
      | _ => simp [step, doing] at stepped
  | isEmpty =>
      simp only [step] at stepped
      split at stepped
      · rename_i doing free
        exact Option.some.inj stepped ▸ receiving_pooled state capacity true .emptyLocked pooled
          (by rw [doing]; rfl) (by rw [doing]; rfl) rfl
      · simp at stepped
  | recycle index =>
      simp only [step] at stepped
      split at stepped
      · rename_i buffer doing there
        obtain ⟨roomy, pool, losses, noFailure, noneSwapped, nonePending, noneReported⟩ := pooled
        simp only [State.encoderHolds, State.reported, State.unreported, doing, Receiving.holds, Receiving.losses] at pool losses
        obtain ⟨inside, _⟩ := List.getElem?_eq_some_iff.mp there
        have shorter := List.length_eraseIdx_add_one inside
        obtain rfl := Option.some.inj stepped
        refine ⟨roomy, ?_, ?_, noFailure, rfl, nonePending, noneReported⟩
        · simp only [State.encoderHolds, Receiving.holds]
          omega
        · simpa only [State.reported, State.unreported, Receiving.losses] using losses
      · simp at stepped
  | receiver elapsed => exact receiver_pooled shape state next capacity elapsed pooled stepped

end

end

end GotechDesk.AudioCapture
