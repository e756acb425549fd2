import GotechDesk.VideoService.FramePacing

set_option autoImplicit false

namespace GotechDesk.VideoService.FrameController

section
variable {κ : Type} (state next : State κ)

-- A step after which the service waits for nobody.
theorem idle_kept (service : Service) (kept : Kept state) (grows : Grows state next) (others : ∀ other, other ≠ service → next.phase other = state.phase other)
    (queued : ∀ other, tryWaitNext next other ⊆ tryWaitNext state other)
    (noted : ∀ idx entry, next.displayConnIds idx = some entry → state.displayConnIds idx = some entry)
    (gone : ∀ recipients, next.displayConnIds service.idx ≠ some (service, recipients)) (idle : ∀ connIds, ¬ AwaitedBy next service connIds)
    (paced : Paced next) : Kept next := by
  apply moved_kept state next service kept ⟨grows, others, queued, ?_, ?_, ?_⟩ paced
  · exact fun cur connIds fetched sent out => absurd ⟨sent, cur, fetched, out⟩ (idle connIds)
  · exact fun connIds awaited => absurd awaited (idle connIds)
  · intro idx recipients there
    obtain ⟨rfl, -⟩ := kept.recorded idx service recipients (noted idx (service, recipients) there)
    exact absurd there (gone recipients)
  · exact fun idx writer recipients _ there => noted idx (writer, recipients) there

-- A step that moves no service, and puts into a channel only what its waiting service is to see.
theorem reported_kept (kept : Kept state) (grows : Grows state next) (phase : next.phase = state.phase) (records : next.displayConnIds = state.displayConnIds)
    (ended : next.ended = state.ended) (consumed : next.consumed = state.consumed)
    (queued : ∀ service cur connIds fetched, connIds ≠ ∅ → (state.phase service).awaited = some (cur, connIds, fetched) →
      Waits state service cur connIds fetched → ∀ report ∈ tryWaitNext next service, report ∈ tryWaitNext state service ∨
        report.conn ∈ connIds ∧ Answered next service cur report.conn ∧ (report.instant.isSome = true → report.service = service)) : Kept next := by
  have same : ∀ service connIds, AwaitedBy next service connIds ↔ AwaitedBy state service connIds := by
    intro service connIds
    simp only [AwaitedBy, phase]
  refine ⟨?_, ?_, paced_grows state next grows ended consumed kept.paced⟩
  · intro service cur connIds fetched sent out
    rw [phase] at out
    have waits := kept.waits service cur connIds fetched sent out
    exact waits_grows state next grows service cur connIds fetched waits (queued service cur connIds fetched sent out waits)
      (fun other others _ awaited => (same other others).mp awaited)
  · intro idx writer recipients there
    rw [records] at there
    obtain ⟨place, awaited⟩ := kept.recorded idx writer recipients there
    exact ⟨place, (same writer recipients).mpr awaited⟩

theorem silent_grows (clock : next.clock = state.clock + 1) (reports : next.reports = state.reports) (received : next.videoReceived = state.videoReceived)
    (closed : next.closed = state.closed) : Grows state next := by
  refine ⟨by omega, ?_, ?_, ?_⟩
  · rw [reports]
    exact List.Subset.refl _
  · rw [received]
    exact List.Subset.refl _
  · rw [closed]
    exact List.Subset.refl _

theorem update_other (service other : Service) (phase : Phase κ) (apart : other ≠ service) :
    (setPhase state service phase).phase other = state.phase other := Function.update_of_ne apart _ _

section
variable (service : Service)

theorem update_own (phase : Phase κ) : (setPhase state service phase).phase service = phase := Function.update_self _ _ _

theorem stays_paced (phase : Phase κ) (kept : Kept state) : Paced (tick (setPhase state service phase)) :=
  paced_grows state _ (silent_grows state _ rfl rfl rfl rfl) rfl rfl kept.paced

theorem run_kept (kept : Kept state) (stopped : state.phase service = .stopped) : Kept (tick (setPhase state service .capturing)) := by
  apply idle_kept state (tick (setPhase state service .capturing)) service kept (silent_grows state _ rfl rfl rfl rfl) (fun other apart => update_other state service other .capturing apart) (fun other => List.Subset.refl _)
    (fun idx entry there => there) ?_ ?_ (stays_paced state service .capturing kept)
  · intro recipients there
    exact awaited_none state service recipients (by rw [stopped]; rfl) (kept.recorded service.idx service recipients there).2
  · exact fun connIds => awaited_none _ service connIds (congrArg Phase.awaited (update_own state service .capturing))

theorem send_kept (connIds : Finset κ) (kept : Kept state) (capturing : state.phase service = .capturing)
    (fits : Fits state (.send service connIds)) : Kept (tick (setPhase state service (.sending state.clock connIds))) := by
  have before : ∀ recipients, ¬ AwaitedBy state service recipients := fun recipients => awaited_none state service recipients (by rw [capturing]; rfl)
  have now : ((tick (setPhase state service (.sending state.clock connIds))).phase service).awaited = some (state.clock, connIds, ∅) :=
    congrArg Phase.awaited (update_own state service (.sending state.clock connIds))
  have alone : ∀ recipients, AwaitedBy (tick (setPhase state service (.sending state.clock connIds))) service recipients →
      ∀ other others, other ≠ service → other.idx = service.idx → ¬ AwaitedBy state other others := by
    intro recipients awaited
    obtain rfl := awaited_unique _ service state.clock connIds recipients ∅ now awaited
    exact (fits awaited.1).2
  apply moved_kept state (tick (setPhase state service (.sending state.clock connIds))) service kept ⟨silent_grows state _ rfl rfl rfl rfl, fun other apart => update_other state service other _ apart, fun other => List.Subset.refl _, ?_, ?_, ?_⟩
    (stays_paced state service _ kept)
  · intro cur recipients fetched sent out
    cases now.symm.trans out
    refine ⟨Nat.lt_succ_self _, by simp, ?_, ?_⟩
    · intro report member
      have empty : tryWaitNext state service = [] := (fits sent).1
      exact absurd (empty ▸ member : report ∈ []) List.not_mem_nil
    · intro other others idx awaited
      by_contra apart
      exact alone connIds ⟨sent, state.clock, ∅, now⟩ other others apart idx (awaited_same state _ other others (update_other state service other _ apart) awaited)
  · exact fun recipients awaited => .inr (alone recipients awaited)
  · intro idx recipients there
    exact absurd (kept.recorded idx service recipients there).2 (before recipients)
  · exact fun idx writer recipients _ there => there

end

end

section
variable {κ : Type} (state : State κ)

-- `set_send` of a frame that went to somebody.
theorem noted_kept (next : State κ) (service : Service) (cur : Nat) (connIds : Finset κ) (kept : Kept state) (sending : state.phase service = .sending cur connIds)
    (somebody : connIds ≠ ∅) (grows : Grows state next) (moved : next.phase = Function.update state.phase service (.waiting cur connIds ∅))
    (same : next.notifiers = state.notifiers) (records : next.displayConnIds = Function.update state.displayConnIds service.idx (some (service, connIds)))
    (paced : Paced next) : Kept next := by
  have out : (state.phase service).awaited = some (cur, connIds, ∅) := by
    rw [sending]
    rfl
  have now : (next.phase service).awaited = some (cur, connIds, ∅) := by
    rw [moved, Function.update_self]
    rfl
  have others : ∀ other, other ≠ service → next.phase other = state.phase other := by
    intro other apart
    rw [moved]
    exact Function.update_of_ne apart _ _
  have queued : ∀ other, tryWaitNext next other = tryWaitNext state other := by
    intro other
    rw [tryWaitNext, same, tryWaitNext]
  have mine : ∀ recipients, AwaitedBy next service recipients → AwaitedBy state service recipients := by
    intro recipients awaited
    obtain rfl := awaited_unique next service cur connIds recipients ∅ now awaited
    exact ⟨somebody, cur, ∅, out⟩
  refine moved_kept state next service kept ⟨grows, others, fun other report member => queued other ▸ member, fun recipients awaited => .inl (mine recipients awaited), ?_, ?_⟩
    paced ?_
  · intro idx recipients there
    rw [records] at there
    by_cases place : idx = service.idx
    · subst place
      cases (Function.update_self service.idx _ state.displayConnIds).symm.trans there
      exact ⟨rfl, somebody, cur, ∅, now⟩
    · have before : state.displayConnIds idx = some (service, recipients) := (Function.update_of_ne place _ _).symm.trans there
      exact absurd (kept.recorded idx service recipients before).1.symm place
  · intro idx writer recipients other there
    rw [records] at there
    by_cases place : idx = service.idx
    · subst place
      cases (Function.update_self service.idx _ state.displayConnIds).symm.trans there
      exact absurd rfl other
    · exact (Function.update_of_ne place _ _).symm.trans there
  · intro time recipients fetched sent there
    cases now.symm.trans there
    apply waits_grows state next grows service cur connIds ∅ (kept.waits service cur connIds ∅ somebody out)
    · intro report member
      rw [queued] at member
      exact .inl member
    · intro other awaiting idx awaited
      by_cases own : other = service
      · subst own
        exact mine awaiting awaited
      · exact awaited_same state next other awaiting (others other own) awaited

-- Whatever ends the wait or the run of a service forgets the connections of its index.
theorem ended_kept (next : State κ) (service : Service) (phase : Phase κ) (kept : Kept state) (grows : Grows state next)
    (moved : next.phase = Function.update state.phase service phase) (ends : phase.awaited = none)
    (queued : ∀ other, tryWaitNext next other ⊆ tryWaitNext state other)
    (records : next.displayConnIds = Function.update state.displayConnIds service.idx none) (paced : Paced next) : Kept next := by
  apply idle_kept state next service kept grows ?_ queued ?_ ?_ ?_ paced
  · intro other apart
    rw [moved]
    exact Function.update_of_ne apart _ _
  · intro idx entry there
    rw [records] at there
    by_cases place : idx = service.idx
    · subst place
      cases (Function.update_self service.idx none state.displayConnIds).symm.trans there
    · exact (Function.update_of_ne place _ _).symm.trans there
  · intro recipients there
    rw [records, Function.update_self] at there
    cases there
  · intro connIds
    apply awaited_none next service connIds
    rw [moved, Function.update_self]
    exact ends

theorem setSend_kept [DecidableEq κ] (service : Service) (cur : Nat) (connIds : Finset κ) (kept : Kept state) (sending : state.phase service = .sending cur connIds) :
    Kept (tick (setSend state service cur connIds)) := by
  unfold setSend
  by_cases nobody : connIds = ∅
  · subst nobody
    rw [if_pos rfl]
    have idle : ∀ before : State κ, (before.phase service).awaited = some (cur, ∅, ∅) → ∀ recipients, ¬ AwaitedBy before service recipients :=
      fun before there recipients awaited => awaited.1 (awaited_unique before service cur ∅ recipients ∅ there awaited)
    apply idle_kept state (tick (setPhase state service (.waiting cur ∅ ∅))) service kept (silent_grows state _ rfl rfl rfl rfl)
      (fun other apart => update_other state service other _ apart) (fun other => List.Subset.refl _) (fun idx entry there => there) ?_
      (idle _ (congrArg Phase.awaited (update_own state service (.waiting cur ∅ ∅)))) (stays_paced state service _ kept)
    intro recipients there
    exact idle state (by rw [sending]; rfl) recipients (kept.recorded service.idx service recipients there).2
  · rw [if_neg nobody]
    exact noted_kept state _ service cur connIds kept sending nobody (silent_grows state _ rfl rfl rfl rfl) rfl rfl rfl
      (paced_grows state _ (silent_grows state _ rfl rfl rfl rfl) rfl rfl kept.paced)

theorem expire_kept (service : Service) (cur : Nat) (connIds : Finset κ) (kept : Kept state) : Kept (tick (finish state service cur connIds false)) := by
  refine ended_kept state _ service .capturing kept (silent_grows state _ rfl rfl rfl rfl) rfl rfl (fun other => List.Subset.refl _) rfl ⟨?_, kept.paced.own⟩
  intro outcome member early
  rcases List.mem_append.mp member with before | last
  · exact (paced_grows state _ (silent_grows state _ rfl rfl rfl rfl) rfl rfl kept.paced : Paced (tick state)).early outcome before early
  · rw [List.mem_singleton.mp last] at early
    cases early

theorem fail_kept (service : Service) (kept : Kept state) : Kept (tick (stop state service)) :=
  ended_kept state _ service .stopped kept (silent_grows state _ rfl rfl rfl rfl) rfl rfl (fun _ => List.Subset.refl _) rfl
    (paced_grows state _ (silent_grows state _ rfl rfl rfl rfl) rfl rfl kept.paced)

end

end GotechDesk.VideoService.FrameController
