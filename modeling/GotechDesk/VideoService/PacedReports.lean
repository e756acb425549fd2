import GotechDesk.VideoService.PacedRuns

set_option autoImplicit false

namespace GotechDesk.VideoService.FrameController

section
variable {κ : Type} (state : State κ)

theorem new_kept (service : Service) (kept : Kept state) : Kept (tick (new state service)) := by
  apply reported_kept state (tick (new state service)) kept (silent_grows state _ rfl rfl rfl rfl) rfl rfl rfl rfl
  intro waiter cur connIds fetched sent out waits report member
  left
  by_cases place : waiter.idx = service.idx
  · simpa [tryWaitNext, new, tick, place] using member
  · simpa [tryWaitNext, new, tick, Function.update_of_ne place] using member

theorem put_queued (report entry : Report κ) (service : Service) (member : entry ∈ tryWaitNext (tick (put state report)) service) :
    entry ∈ tryWaitNext state service ∨ service.idx = report.service.idx ∧ entry = report := by
  by_cases place : service.idx = report.service.idx
  · cases there : state.notifiers report.service.idx with
    | none => simp [tryWaitNext, put, tick, place, there] at member
    | some queue =>
        have split : entry ∈ queue ∨ entry = report := by simpa [tryWaitNext, put, tick, place, there] using member
        rcases split with before | last
        · exact .inl (by simpa [tryWaitNext, place, there] using before)
        · exact .inr ⟨place, last⟩
  · exact .inl (by simpa [tryWaitNext, put, tick, Function.update_of_ne place] using member)

theorem fetched_kept (service : Service) (conn : κ) (kept : Kept state) (fits : Fits state (.fetched service conn)) :
    Kept (tick (put state { conn := conn, instant := some state.clock, service := service })) := by
  have grows : Grows state (tick (put state { conn := conn, instant := some state.clock, service := service })) :=
    ⟨Nat.le_succ _, List.subset_append_left _ _, List.Subset.refl _, List.Subset.refl _⟩
  apply reported_kept state _ kept grows rfl rfl rfl rfl
  intro waiter cur connIds fetched sent out waits report member
  rcases put_queued state _ report waiter member with before | ⟨place, rfl⟩
  · exact .inl before
  · obtain ⟨rfl, inside⟩ := fits waiter connIds place ⟨sent, cur, fetched, out⟩
    exact .inr ⟨inside, .inl ⟨_, List.mem_append_right _ List.mem_cons_self, rfl, rfl, state.clock, rfl, waits.sent⟩, fun _ => rfl⟩

theorem poll_paced [DecidableEq κ] (next : State κ) (service : Service) (cur : Nat) (connIds fetched : Finset κ) (kept : Kept state) (grows : Grows state next)
    (waits : Waits state service cur connIds fetched)
    (consumed : next.consumed = state.consumed ++ (tryWaitNext state service).map (fun report => (service, report)))
    (ended : next.ended = state.ended ∨ next.ended = state.ended ++ [{ service := service, cur := cur, sendConnIds := connIds, early := true }] ∧
      connIds.card ≤ (fetched ∪ ((tryWaitNext state service).map Report.conn).toFinset).card) : Paced next := by
  constructor
  · have before : ∀ outcome ∈ state.ended, outcome.early = true → ∀ conn ∈ outcome.sendConnIds, Answered next outcome.service outcome.cur conn :=
      fun outcome member early conn sent => answered_grows state next grows _ _ conn (kept.paced.early outcome member early conn sent)
    rcases ended with same | ⟨one, enough⟩
    · rw [same]
      exact before
    · have done : ∀ conn ∈ fetched ∪ ((tryWaitNext state service).map Report.conn).toFinset, conn ∈ connIds ∧ Answered state service cur conn := by
        intro conn member
        rcases Finset.mem_union.mp member with earlier | taken
        · exact waits.fetched conn earlier
        · obtain ⟨report, inside, rfl⟩ := List.mem_map.mp (List.mem_toFinset.mp taken)
          exact ⟨(waits.queued report inside).1, (waits.queued report inside).2.1⟩
      -- Only connections of the frame are counted, so as many as there are is all of them.
      have all := Finset.eq_of_subset_of_card_le (fun conn member => (done conn member).1) enough
      rw [one]
      intro outcome member early conn sent
      rcases List.mem_append.mp member with earlier | last
      · exact before outcome earlier early conn sent
      · obtain rfl := List.mem_singleton.mp last
        exact answered_grows state next grows service cur conn (done conn (all ▸ sent)).2
  · rw [consumed]
    intro entry member fetch
    rcases List.mem_append.mp member with earlier | taken
    · exact kept.paced.own entry earlier fetch
    · obtain ⟨report, inside, rfl⟩ := List.mem_map.mp taken
      exact (waits.queued report inside).2.2 fetch

section
variable (queues : Nat → Option (List (Report κ))) (idx other : Nat)

theorem drained_queue :
    (Function.update queues idx ((queues idx).map (fun _ => [])) other).getD [] = if other = idx then [] else (queues other).getD [] := by
  by_cases place : other = idx
  · subst place
    rw [if_pos rfl, Function.update_self]
    cases queues other <;> rfl
  · rw [if_neg place, Function.update_of_ne place]

theorem drained_subset : (Function.update queues idx ((queues idx).map (fun _ => [])) other).getD [] ⊆ (queues other).getD [] := by
  rw [drained_queue]
  by_cases place : other = idx
  · rw [if_pos place]
    exact List.nil_subset _
  · rw [if_neg place]
    exact List.Subset.refl _

end

-- A turn after which somebody is still missing.
theorem counted_kept [DecidableEq κ] (next : State κ) (service : Service) (cur : Nat) (connIds fetched : Finset κ) (kept : Kept state)
    (waiting : state.phase service = .waiting cur connIds fetched) (somebody : connIds ≠ ∅) (grows : Grows state next)
    (moved : next.phase = Function.update state.phase service (.waiting cur connIds (fetched ∪ ((tryWaitNext state service).map Report.conn).toFinset)))
    (drained : next.notifiers = Function.update state.notifiers service.idx ((state.notifiers service.idx).map (fun _ => [])))
    (records : next.displayConnIds = state.displayConnIds) (paced : Paced next) : Kept next := by
  have out : (state.phase service).awaited = some (cur, connIds, fetched) := by
    rw [waiting]
    rfl
  have now : (next.phase service).awaited = some (cur, connIds, fetched ∪ ((tryWaitNext state service).map Report.conn).toFinset) := by
    rw [moved, Function.update_self]
    rfl
  have others : ∀ other, other ≠ service → next.phase other = state.phase other := by
    intro other apart
    rw [moved]
    exact Function.update_of_ne apart _ _
  have queued : ∀ other, tryWaitNext next other ⊆ tryWaitNext state other := by
    intro other
    rw [tryWaitNext, drained]
    exact drained_subset state.notifiers service.idx other.idx
  have mine : ∀ recipients, AwaitedBy next service recipients → AwaitedBy state service recipients := by
    intro recipients awaited
    obtain rfl := awaited_unique next service cur connIds recipients _ now awaited
    exact ⟨somebody, cur, fetched, out⟩
  have waits := kept.waits service cur connIds fetched somebody out
  refine moved_kept state next service kept ⟨grows, others, queued, fun recipients awaited => .inl (mine recipients awaited), ?_, ?_⟩ paced ?_
  · intro idx recipients there
    rw [records] at there
    obtain ⟨place, awaited⟩ := kept.recorded idx service recipients there
    obtain rfl := awaited_unique state service cur connIds recipients fetched out awaited
    exact ⟨place, somebody, cur, _, now⟩
  · intro idx writer recipients other there
    rwa [records] at there
  · intro time recipients done sent there
    cases now.symm.trans there
    have kept := waits_grows state next grows service cur connIds fetched waits (fun report member => .inl (queued service member)) ?_
    · refine { kept with fetched := ?_ }
      intro conn member
      rcases Finset.mem_union.mp member with earlier | taken
      · exact kept.fetched conn earlier
      · obtain ⟨report, inside, rfl⟩ := List.mem_map.mp (List.mem_toFinset.mp taken)
        obtain ⟨sent, answered, -⟩ := waits.queued report inside
        exact ⟨sent, answered_grows state next grows service cur report.conn answered⟩
    · intro other awaiting idx awaited
      by_cases own : other = service
      · subst own
        exact mine awaiting awaited
      · exact awaited_same state next other awaiting (others other own) awaited

theorem poll_kept [DecidableEq κ] (service : Service) (cur : Nat) (connIds fetched : Finset κ) (kept : Kept state)
    (waiting : state.phase service = .waiting cur connIds fetched) : Kept (tick (poll state service cur connIds fetched)) := by
  have out : (state.phase service).awaited = some (cur, connIds, fetched) := by
    rw [waiting]
    rfl
  unfold poll
  by_cases nobody : connIds = ∅
  · subst nobody
    rw [if_pos rfl]
    have grows : Grows state (tick (finish state service cur ∅ true)) := silent_grows state _ rfl rfl rfl rfl
    refine ended_kept state _ service .capturing kept grows rfl rfl (fun _ => List.Subset.refl _) rfl ⟨?_, kept.paced.own⟩
    intro outcome member early conn sent
    rcases List.mem_append.mp member with before | last
    · exact answered_grows state _ grows _ _ conn (kept.paced.early outcome before early conn sent)
    · obtain rfl := List.mem_singleton.mp last
      cases sent
  · rw [if_neg nobody]
    dsimp only
    have waits := kept.waits service cur connIds fetched nobody out
    by_cases enough : connIds.card ≤ (fetched ∪ ((tryWaitNext state service).map Report.conn).toFinset).card
    · rw [if_pos enough]
      exact ended_kept state _ service .capturing kept (silent_grows state _ rfl rfl rfl rfl) rfl rfl
        (fun other => drained_subset state.notifiers service.idx other.idx) rfl
        (poll_paced state _ service cur connIds fetched kept (silent_grows state _ rfl rfl rfl rfl) waits rfl (.inr ⟨rfl, enough⟩))
    · rw [if_neg enough]
      exact counted_kept state _ service cur connIds fetched kept waiting nobody (silent_grows state _ rfl rfl rfl rfl) rfl rfl rfl
        (poll_paced state _ service cur connIds fetched kept (silent_grows state _ rfl rfl rfl rfl) waits rfl (.inl rfl))

theorem notifyAt_queued [DecidableEq κ] (conn : κ) (instant : Option Nat) (queues : Nat → Option (List (Report κ)))
    (displayConnIds : Nat → Option (Service × Finset κ)) (idx : Nat) (report : Report κ)
    (member : report ∈ (notifyAt conn instant queues displayConnIds idx).getD []) : report ∈ (queues idx).getD [] ∨
      ∃ service connIds, displayConnIds idx = some (service, connIds) ∧ conn ∈ connIds ∧ report = { conn := conn, instant := instant, service := service } := by
  unfold notifyAt at member
  split at member
  · rename_i service connIds there
    by_cases inside : conn ∈ connIds
    · rw [if_pos inside] at member
      cases queue : queues idx with
      | none => simp [queue] at member
      | some reports =>
          have split : report ∈ reports ∨ report = { conn := conn, instant := instant, service := service } := by simpa [queue] using member
          exact split.imp id (fun last => ⟨service, connIds, there, inside, last⟩)
    · rw [if_neg inside] at member
      exact .inl member
  · exact .inl member

-- A connection that speaks for every display is heard only where it is noted, and what is
-- noted at an index is the frame its service waits with.
theorem notified_kept [DecidableEq κ] (next : State κ) (conn : κ) (instant : Option Nat) (kept : Kept state) (grows : Grows state next)
    (phase : next.phase = state.phase) (records : next.displayConnIds = state.displayConnIds) (ended : next.ended = state.ended)
    (consumed : next.consumed = state.consumed) (notified : next.notifiers = notifyAt conn instant state.notifiers state.displayConnIds)
    (answers : ∀ service cur, cur < state.clock → Answered next service cur conn) : Kept next := by
  apply reported_kept state next kept grows phase records ended consumed
  intro service cur connIds fetched sent out waits report member
  rw [tryWaitNext, notified] at member
  rcases notifyAt_queued conn instant state.notifiers state.displayConnIds service.idx report member with before | ⟨writer, recipients, there, inside, rfl⟩
  · exact .inl before
  · obtain ⟨place, awaited⟩ := kept.recorded service.idx writer recipients there
    obtain rfl := waits.alone writer recipients place awaited
    obtain rfl := awaited_unique state writer cur connIds recipients fetched out awaited
    exact .inr ⟨inside, answers writer cur waits.sent, fun _ => rfl⟩

theorem step_kept [DecidableEq κ] (label : Label κ) (next : State κ) (kept : Kept state) (fits : Fits state label) (taken : step state label = some next) :
    Kept next := by
  obtain ⟨acted, act, rfl⟩ := Option.map_eq_some_iff.mp taken
  cases label with
  | new service =>
      cases act
      exact new_kept state service kept
  | run service =>
      cases here : state.phase service <;> rw [FrameController.act, here] at act <;> cases act
      exact run_kept state service kept here
  | send service connIds =>
      cases here : state.phase service <;> rw [FrameController.act, here] at act <;> cases act
      exact send_kept state service connIds kept here fits
  | setSend service =>
      cases here : state.phase service <;> rw [FrameController.act, here] at act <;> cases act
      exact setSend_kept state service _ _ kept here
  | poll service =>
      cases here : state.phase service <;> rw [FrameController.act, here] at act <;> cases act
      exact poll_kept state service _ _ _ kept here
  | expire service =>
      cases here : state.phase service <;> rw [FrameController.act, here] at act <;> cases act
      exact expire_kept state service _ _ kept
  | fail service =>
      cases here : state.phase service <;> rw [FrameController.act, here] at act <;> cases act <;> exact fail_kept state service kept
  | fetched service conn =>
      cases act
      exact fetched_kept state service conn kept fits
  | received conn =>
      cases act
      exact notified_kept state _ conn (some state.clock) kept ⟨Nat.le_succ _, List.Subset.refl _, List.subset_append_left _ _, List.Subset.refl _⟩ rfl rfl rfl rfl rfl
        (fun _ _ later => .inr (.inl ⟨state.clock, List.mem_append_right _ List.mem_cons_self, later⟩))
  | close conn =>
      cases act
      exact notified_kept state _ conn none kept ⟨Nat.le_succ _, List.Subset.refl _, List.Subset.refl _, List.subset_append_left _ _⟩ rfl rfl rfl rfl rfl
        (fun _ _ _ => .inr (.inr (List.mem_append_right _ List.mem_cons_self)))

theorem start_kept : Kept (start : State κ) := by
  refine ⟨?_, ?_, ?_, ?_⟩
  · intro service cur connIds fetched sent out
    cases out
  · intro idx writer recipients there
    cases there
  · intro outcome member
    cases member
  · intro entry member
    cases member

end

section
open Machine

def monitor0 : Service := { source := .monitor, idx := 0 }
def camera0 : Service := { source := .camera, idx := 0 }

def onePlan : List (Label Nat) := [.new monitor0, .run monitor0, .send monitor0 {1}, .setSend monitor0, .fetched monitor0 1, .poll monitor0]

def twoPlan : List (Label Nat) :=
  [.new monitor0, .new camera0, .run monitor0, .run camera0, .send monitor0 {1}, .setSend monitor0, .send camera0 {2}, .setSend camera0, .fetched camera0 2,
    .poll monitor0]

end

end GotechDesk.VideoService.FrameController
