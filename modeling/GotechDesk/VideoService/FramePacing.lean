import GotechDesk.VideoService.FrameController

set_option autoImplicit false

namespace GotechDesk.VideoService.FrameController

section
variable {κ : Type} (state : State κ)

-- The connection has reported a frame of the service since `cur`, or has closed.
def Answered (service : Service) (cur : Nat) (conn : κ) : Prop :=
  (∃ report ∈ state.reports, report.conn = conn ∧ report.service = service ∧ ∃ instant, report.instant = some instant ∧ cur < instant) ∨
    (∃ instant, (conn, instant) ∈ state.videoReceived ∧ cur < instant) ∨ conn ∈ state.closed

-- What the wait is for: nobody is left out, and nobody's report is taken for another's.
structure Paced : Prop where
  early : ∀ outcome ∈ state.ended, outcome.early = true → ∀ conn ∈ outcome.sendConnIds, Answered state outcome.service outcome.cur conn
  own : ∀ entry ∈ state.consumed, entry.2.instant.isSome = true → entry.2.service = entry.1

def AwaitedBy (service : Service) (connIds : Finset κ) : Prop :=
  connIds ≠ ∅ ∧ ∃ cur fetched, (state.phase service).awaited = some (cur, connIds, fetched)

-- A frame goes out only when nothing is left in the channel of its index and no other service
-- waits there, and what is reported during a wait is a frame of the waiting service, by a
-- connection it was sent to.
def Fits : Label κ → Prop
  | .send service connIds =>
      connIds ≠ ∅ → tryWaitNext state service = [] ∧ ∀ other others, other ≠ service → other.idx = service.idx → ¬ AwaitedBy state other others
  | .fetched service conn => ∀ waiter connIds, waiter.idx = service.idx → AwaitedBy state waiter connIds → waiter = service ∧ conn ∈ connIds
  | _ => True

structure Waits (service : Service) (cur : Nat) (connIds fetched : Finset κ) : Prop where
  sent : cur < state.clock
  fetched : ∀ conn ∈ fetched, conn ∈ connIds ∧ Answered state service cur conn
  queued : ∀ report ∈ tryWaitNext state service,
    report.conn ∈ connIds ∧ Answered state service cur report.conn ∧ (report.instant.isSome = true → report.service = service)
  alone : ∀ other others, other.idx = service.idx → AwaitedBy state other others → other = service

structure Kept : Prop where
  waits : ∀ service cur connIds fetched, connIds ≠ ∅ → (state.phase service).awaited = some (cur, connIds, fetched) → Waits state service cur connIds fetched
  recorded : ∀ idx writer recipients, state.displayConnIds idx = some (writer, recipients) → writer.idx = idx ∧ AwaitedBy state writer recipients
  paced : Paced state

end

section
variable {κ : Type} (state next : State κ)

-- The history only grows.
structure Grows : Prop where
  clock : state.clock ≤ next.clock
  reports : state.reports ⊆ next.reports
  videoReceived : state.videoReceived ⊆ next.videoReceived
  closed : state.closed ⊆ next.closed

theorem answered_grows (grows : Grows state next) (service : Service) (cur : Nat) (conn : κ) (answered : Answered state service cur conn) :
    Answered next service cur conn := by
  rcases answered with ⟨report, member, rest⟩ | ⟨instant, member, later⟩ | gone
  · exact .inl ⟨report, grows.reports member, rest⟩
  · exact .inr (.inl ⟨instant, grows.videoReceived member, later⟩)
  · exact .inr (.inr (grows.closed gone))

theorem paced_grows (grows : Grows state next) (ended : next.ended = state.ended) (consumed : next.consumed = state.consumed) (paced : Paced state) :
    Paced next := by
  refine ⟨?_, by rw [consumed]; exact paced.own⟩
  rw [ended]
  exact fun outcome member early conn sent => answered_grows state next grows _ _ conn (paced.early outcome member early conn sent)

-- A wait that a step of somebody else leaves as it is.
theorem waits_grows (grows : Grows state next) (service : Service) (cur : Nat) (connIds fetched : Finset κ) (waits : Waits state service cur connIds fetched)
    (queued : ∀ report ∈ tryWaitNext next service, report ∈ tryWaitNext state service ∨
      report.conn ∈ connIds ∧ Answered next service cur report.conn ∧ (report.instant.isSome = true → report.service = service))
    (awaited : ∀ other others, other.idx = service.idx → AwaitedBy next other others → AwaitedBy state other others) :
    Waits next service cur connIds fetched := by
  refine ⟨Nat.lt_of_lt_of_le waits.sent grows.clock, ?_, ?_, ?_⟩
  · intro conn member
    obtain ⟨inside, answered⟩ := waits.fetched conn member
    exact ⟨inside, answered_grows state next grows service cur conn answered⟩
  · intro report member
    rcases queued report member with before | fresh
    · obtain ⟨inside, answered, own⟩ := waits.queued report before
      exact ⟨inside, answered_grows state next grows service cur report.conn answered, own⟩
    · exact fresh
  · exact fun other others idx there => waits.alone other others idx (awaited other others idx there)

theorem awaited_same (service : Service) (connIds : Finset κ) (same : next.phase service = state.phase service) (awaited : AwaitedBy next service connIds) :
    AwaitedBy state service connIds := ⟨awaited.1, by rw [← same]; exact awaited.2⟩

-- Only one frame of a service is out at a time.
theorem awaited_unique (service : Service) (cur : Nat) (connIds others fetched : Finset κ) (out : (state.phase service).awaited = some (cur, connIds, fetched))
    (awaited : AwaitedBy state service others) : others = connIds := by
  obtain ⟨-, time, done, there⟩ := awaited
  cases out.symm.trans there
  rfl

theorem awaited_none (service : Service) (connIds : Finset κ) (out : (state.phase service).awaited = none) : ¬ AwaitedBy state service connIds := by
  rintro ⟨-, cur, fetched, there⟩
  cases out.symm.trans there

-- A step of one service, which opens a wait only where nobody else of its index waits.
structure Moves (service : Service) : Prop where
  grows : Grows state next
  others : ∀ other, other ≠ service → next.phase other = state.phase other
  queued : ∀ other, tryWaitNext next other ⊆ tryWaitNext state other
  opened : ∀ connIds, AwaitedBy next service connIds →
    AwaitedBy state service connIds ∨ ∀ other others, other ≠ service → other.idx = service.idx → ¬ AwaitedBy state other others
  wrote : ∀ idx recipients, next.displayConnIds idx = some (service, recipients) → service.idx = idx ∧ AwaitedBy next service recipients
  noted : ∀ idx writer recipients, writer ≠ service → next.displayConnIds idx = some (writer, recipients) → state.displayConnIds idx = some (writer, recipients)

theorem moved_kept (service : Service) (kept : Kept state) (moves : Moves state next service) (paced : Paced next)
    (own : ∀ cur connIds fetched, connIds ≠ ∅ → (next.phase service).awaited = some (cur, connIds, fetched) → Waits next service cur connIds fetched) :
    Kept next := by
  refine ⟨?_, ?_, paced⟩
  · intro waiter cur connIds fetched sent out
    by_cases mine : waiter = service
    · subst mine
      exact own cur connIds fetched sent out
    · have before : (state.phase waiter).awaited = some (cur, connIds, fetched) := by rw [← moves.others waiter mine]; exact out
      refine waits_grows state next moves.grows waiter cur connIds fetched (kept.waits waiter cur connIds fetched sent before)
        (fun report member => .inl (moves.queued waiter member)) ?_
      intro other others idx awaited
      by_cases moved : other = service
      · subst moved
        rcases moves.opened others awaited with already | nobody
        · exact already
        · exact absurd ⟨sent, cur, fetched, before⟩ (nobody waiter connIds mine idx.symm)
      · exact awaited_same state next other others (moves.others other moved) awaited
  · intro idx writer recipients there
    by_cases mine : writer = service
    · subst mine
      exact moves.wrote idx recipients there
    · obtain ⟨place, awaited⟩ := kept.recorded idx writer recipients (moves.noted idx writer recipients mine there)
      exact ⟨place, awaited_same next state writer recipients (moves.others writer mine).symm awaited⟩

end

end GotechDesk.VideoService.FrameController
