import GotechDesk.Connection.SessionScope
import GotechDesk.Machine
import GotechDesk.Table

set_option autoImplicit false

namespace GotechDesk.AuthedConns

open Connection (AuthConnType Target)

-- What the drop of an authorized connection does when no remote session is left.
inductive Cleanup where
  | removeWallpaper
  | restoreResolutions
  | resetAll
  | tryCloseSession
deriving DecidableEq, Repr

def cleanups : Target → List Cleanup
  | .windows => [.removeWallpaper, .restoreResolutions, .resetAll]
  | .linux => [.removeWallpaper, .restoreResolutions, .tryCloseSession]
  | .macos => [.restoreResolutions]
  | .android | .ios => []

-- Where a connection stands in check_wake_lock: what it has read, and how often AUTHED_CONNS
-- had changed when it read the first count.
inductive Check where
  | conns
  | remotes (connCount since : Nat)
  | send (connCount remoteCount since : Nat)
deriving DecidableEq, Repr

-- Where a connection's task stands. `opening` to `introducing` are AuthedConnID::new,
-- `subscribing` to `spawning` try_start_record_cursor_pos, `leaving` to `stopStoring` the exit of
-- Connection::start and `closing` to `ending` the drop of the AuthedConnID. `subscribing` and
-- `leaving` wait for the server's write lock.
inductive Stage where
  | unauthorized
  | opening (check : Check)
  | introducing
  | authorized
  | rechecking (check : Check)
  | subscribing
  | storing
  | spawning
  | leaving
  | stopCounting
  | stopStoring
  | closing
  | removing
  | counting
  | cleaning (left : List Cleanup)
  | ending (check : Check)
  | gone
deriving DecidableEq, Repr

structure Conn where
  connType : Option AuthConnType := none
  stage : Stage := .unauthorized
  servicesSubed : Bool := false
deriving DecidableEq, Repr

-- `authedConns` is AUTHED_CONNS and `changes` counts its updates, `qosUsers` are the users of
-- VIDEO_QOS, `sent` is the last pair the wake-lock thread was sent, `running` the recorder's flag
-- and `recorders` the threads in its loop. `executed` lists the clean-up actions, each with the
-- remote connections there were.
structure Host where
  conns : List (Nat × Conn) := []
  idCount : Nat := 0
  authedConns : List (Nat × AuthConnType) := []
  changes : Nat := 0
  qosUsers : List Nat := []
  sent : Option (Nat × Nat) := none
  serverLock : Option Nat := none
  running : Bool := false
  recorders : Nat := 0
  executed : List (Cleanup × Nat) := []
deriving DecidableEq, Repr

def Host.connCount (s : Host) : Nat := s.authedConns.length

def Host.remoteCount (s : Host) : Nat := s.authedConns.countP (fun entry => decide (entry.2 = .remote))

def Conn.watches (conn : Conn) : Bool := decide (conn.connType = some .remote) || decide (conn.connType = some .viewCamera)

-- Between two messages.
def Conn.rest (conn : Conn) : Stage := if conn.connType.isSome then .authorized else .unauthorized

-- After Connection::start; only an authorized connection has an AuthedConnID to drop.
def Conn.exit (conn : Conn) : Stage := if conn.connType.isSome then .closing else .gone

def Host.enter (s : Host) (id : Nat) (conn : Conn) (stage : Stage) : Host := { s with conns := Table.insert s.conns id { conn with stage } }

-- The next step of check_wake_lock; there is none after the pair is sent.
def Host.checkWakeLock (s : Host) : Check → Host × Option Check
  | .conns => (s, some (.remotes s.connCount s.changes))
  | .remotes connCount since => (s, some (.send connCount s.remoteCount since))
  | .send connCount remoteCount _ => ({ s with sent := some (connCount, remoteCount) }, none)

section
variable (target : Target)

-- The next step of a connection's task.
def Host.advance (s : Host) (id : Nat) (conn : Conn) : Option Host :=
  match conn.stage with
  | .unauthorized | .authorized | .gone => none
  | .opening check =>
      let checked := s.checkWakeLock check
      some (checked.1.enter id conn (checked.2.elim .introducing .opening))
  | .introducing => some ({ s with qosUsers := if conn.watches then id :: s.qosUsers else s.qosUsers }.enter id conn .authorized)
  | .rechecking check =>
      let checked := s.checkWakeLock check
      some (checked.1.enter id conn (checked.2.elim conn.rest .rechecking))
  | .subscribing =>
      if s.serverLock.isSome then none
      else if s.running then some (s.enter id conn .authorized)
      else some ({ s with serverLock := some id }.enter id conn .storing)
  | .storing => some ({ s with running := true }.enter id conn .spawning)
  | .spawning => some ({ s with recorders := s.recorders + 1, serverLock := none }.enter id conn .authorized)
  | .leaving =>
      if s.serverLock.isSome then none
      else if target.mobile then some (s.enter id conn conn.exit)
      else some ({ s with serverLock := some id }.enter id conn .stopCounting)
  | .stopCounting =>
      if 0 < s.remoteCount then some ({ s with serverLock := none }.enter id conn conn.exit)
      else some (s.enter id conn .stopStoring)
  | .stopStoring => some ({ s with running := false, serverLock := none }.enter id conn conn.exit)
  | .closing => some ({ s with qosUsers := if conn.watches then s.qosUsers.filter (fun user => user ≠ id) else s.qosUsers }.enter id conn .removing)
  | .removing =>
      some ({ s with authedConns := s.authedConns.filter (fun entry => entry.1 ≠ id), changes := s.changes + 1 }.enter id conn .counting)
  | .counting => if s.remoteCount = 0 then some (s.enter id conn (.cleaning (cleanups target))) else some (s.enter id conn (.ending .conns))
  | .cleaning [] => some (s.enter id conn (.ending .conns))
  | .cleaning (action :: left) => some ({ s with executed := s.executed ++ [(action, s.remoteCount)] }.enter id conn (.cleaning left))
  | .ending check =>
      let checked := s.checkWakeLock check
      some (checked.1.enter id conn (checked.2.elim .gone .ending))

-- `recheck` is the tick of a connection's timer that finds the keep-awake option changed, `poll`
-- a recorder that finds its flag cleared.
inductive Label where
  | accept
  | authorize (id : Nat) (connType : AuthConnType)
  | recheck (id : Nat)
  | subscribe (id : Nat)
  | leave (id : Nat)
  | advance (id : Nat)
  | poll
deriving DecidableEq, Repr

def Host.step (s : Host) : Label → Option Host
  | .accept => some { s with conns := Table.insert s.conns (s.idCount + 1) {}, idCount := s.idCount + 1 }
  | .authorize id connType => (Table.get s.conns id).bind (fun conn =>
      if conn.stage = .unauthorized then
        some ({ s with authedConns := s.authedConns ++ [(id, connType)], changes := s.changes + 1 }.enter id
          { conn with connType := some connType } (.opening .conns))
      else none)
  | .recheck id => (Table.get s.conns id).bind (fun conn =>
      if conn.stage = .unauthorized ∨ conn.stage = .authorized then some (s.enter id conn (.rechecking .conns)) else none)
  | .subscribe id => (Table.get s.conns id).bind (fun conn =>
      if conn.stage = .authorized ∧ conn.connType = some .remote ∧ conn.servicesSubed = false ∧ target.mobile = false then
        some (s.enter id { conn with servicesSubed := true } .subscribing)
      else none)
  | .leave id => (Table.get s.conns id).bind (fun conn =>
      if conn.stage = .unauthorized ∨ conn.stage = .authorized then some (s.enter id conn .leaving) else none)
  | .advance id => (Table.get s.conns id).bind (fun conn => s.advance target id conn)
  | .poll => if 0 < s.recorders ∧ s.running = false then some { s with recorders := s.recorders - 1 } else none

end

-- In AUTHED_CONNS, if the connection is authorized.
def Stage.listed : Stage → Bool
  | .unauthorized | .counting | .cleaning _ | .ending _ | .gone => false
  | .opening _ | .introducing | .authorized | .rechecking _ | .subscribing | .storing | .spawning => true
  | .leaving | .stopCounting | .stopStoring | .closing | .removing => true

-- With the server's write lock.
def Stage.locks : Stage → Bool
  | .storing | .spawning | .stopCounting | .stopStoring => true
  | _ => false

-- After on_connection_open and before on_connection_close, if the connection watches.
def Stage.introduced : Stage → Bool
  | .authorized | .rechecking _ | .subscribing | .storing | .spawning | .leaving | .stopCounting | .stopStoring | .closing => true
  | _ => false

-- In try_start_record_cursor_pos, or about to be.
def Stage.starts : Stage → Bool
  | .subscribing | .storing | .spawning => true
  | _ => false

-- No step of a connection is pending.
def Stage.quiet : Stage → Bool
  | .unauthorized | .authorized | .gone => true
  | _ => false

def Quiet (s : Host) : Prop := ∀ id conn, Table.get s.conns id = some conn → conn.stage.quiet = true

structure Typed (conn : Conn) : Prop where
  none : conn.stage = .unauthorized → conn.connType = none
  remote : conn.stage.starts = true → conn.connType = some .remote

-- What holds of any number of connections at any moment.
structure Registered (s : Host) : Prop where
  keyed : Table.Keyed s.conns
  counted : ∀ id conn, Table.get s.conns id = some conn → id ≤ s.idCount
  typed : ∀ id conn, Table.get s.conns id = some conn → Typed conn
  listed : ∀ id connType, (id, connType) ∈ s.authedConns ↔
    ∃ conn, Table.get s.conns id = some conn ∧ conn.connType = some connType ∧ conn.stage.listed = true
  locked : ∀ id conn, Table.get s.conns id = some conn → conn.stage.locks = true → s.serverLock = some id
  known : ∀ id conn, Table.get s.conns id = some conn → conn.watches = true → conn.stage.introduced = true → id ∈ s.qosUsers

-- One connection goes on, and AUTHED_CONNS stays as it is.
structure Moves (s next : Host) (id : Nat) (conn now : Conn) : Prop where
  conns : next.conns = Table.insert s.conns id now
  idCount : next.idCount = s.idCount
  authedConns : next.authedConns = s.authedConns
  connType : now.connType = conn.connType
  listed : conn.connType.isSome = true → now.stage.listed = conn.stage.listed
  held : now.stage.locks = true → next.serverLock = some id
  others : ∀ other, other ≠ id → s.serverLock = some other → next.serverLock = some other
  known : conn.watches = true → now.stage.introduced = true → id ∈ next.qosUsers
  users : ∀ other, other ≠ id → other ∈ s.qosUsers → other ∈ next.qosUsers
  typed : Typed now

theorem registered_moves (s next : Host) (id : Nat) (conn now : Conn) (registered : Registered s)
    (found : Table.get s.conns id = some conn) (moves : Moves s next id conn now) : Registered next := by
  have each : ∀ holds : Nat → Conn → Prop, (∀ other held, other ≠ id → Table.get s.conns other = some held → holds other held) → holds id now →
      ∀ other held, Table.get next.conns other = some held → holds other held := by
    rw [moves.conns]
    exact fun holds => Table.forall_insert holds s.conns id now
  refine ⟨?_, ?_, ?_, ?_, ?_, ?_⟩
  · rw [moves.conns]
    exact Table.keyed_insert s.conns id now registered.keyed
  · rw [moves.idCount]
    exact each (fun other _ => other ≤ s.idCount) (fun other held _ had => registered.counted other held had) (registered.counted id conn found)
  · exact each (fun _ held => Typed held) (fun other held _ had => registered.typed other held had) moves.typed
  · intro other connType
    rw [moves.authedConns, registered.listed other connType, moves.conns, Table.get_insert]
    by_cases same : other = id
    · rw [if_pos same, same, found]
      constructor
      · rintro ⟨held, this, typed, listed⟩
        obtain rfl := Option.some.inj this
        have present : conn.connType.isSome = true := by rw [typed]; rfl
        exact ⟨now, rfl, moves.connType.trans typed, (moves.listed present).trans listed⟩
      · rintro ⟨held, this, typed, listed⟩
        obtain rfl := Option.some.inj this
        have was := moves.connType.symm.trans typed
        have present : conn.connType.isSome = true := by rw [was]; rfl
        exact ⟨conn, rfl, was, (moves.listed present).symm.trans listed⟩
    · rw [if_neg same]
  · exact each (fun other held => held.stage.locks = true → next.serverLock = some other)
      (fun other held apart had locks => moves.others other apart (registered.locked other held had locks)) moves.held
  · refine each (fun other held => held.watches = true → held.stage.introduced = true → other ∈ next.qosUsers)
      (fun other held apart had watches introduced => moves.users other apart (registered.known other held had watches introduced)) ?_
    intro watches
    have same : now.watches = conn.watches := by rw [Conn.watches, Conn.watches, moves.connType]
    exact moves.known (same ▸ watches)

-- The parts of the host that a connection's stage is about.
def Host.parts (s : Host) : List (Nat × Conn) × Nat × List (Nat × AuthConnType) × Option Nat × List Nat :=
  (s.conns, s.idCount, s.authedConns, s.serverLock, s.qosUsers)

theorem check_parts (s : Host) (check : Check) : (s.checkWakeLock check).1.parts = s.parts := by
  cases check with
  | conns => rfl
  | remotes connCount since => rfl
  | send connCount remoteCount since => rfl

-- A stage that a connection may be in next without touching what is shared.
structure Follows (conn : Conn) (stage : Stage) : Prop where
  listed : conn.connType.isSome = true → stage.listed = conn.stage.listed
  locks : stage.locks = true → conn.stage.locks = true
  introduced : conn.connType.isSome = true → stage.introduced = true → conn.stage.introduced = true
  typed : Typed { conn with stage }

theorem watches_authorized (conn : Conn) (watches : conn.watches = true) : conn.connType.isSome = true := by
  cases held : conn.connType with
  | none => simp [Conn.watches, held] at watches
  | some connType => rfl

theorem moves_enter (s t : Host) (id : Nat) (conn : Conn) (stage : Stage) (registered : Registered s) (found : Table.get s.conns id = some conn)
    (parts : t.parts = s.parts) (follows : Follows conn stage) : Moves s (t.enter id conn stage) id conn { conn with stage } := by
  simp only [Host.parts, Prod.mk.injEq] at parts
  obtain ⟨conns, idCount, authedConns, serverLock, qosUsers⟩ := parts
  refine ⟨?_, idCount, authedConns, rfl, follows.listed, ?_, ?_, ?_, ?_, follows.typed⟩
  · rw [Host.enter, conns]
  · intro held
    exact serverLock.trans (registered.locked id conn found (follows.locks held))
  · exact fun other _ had => serverLock.trans had
  · intro watches now
    exact qosUsers.symm ▸ registered.known id conn found watches (follows.introduced (watches_authorized conn watches) now)
  · exact fun other _ had => qosUsers.symm ▸ had

theorem check_elim (s : Host) (check : Check) (holds : Stage → Prop) (after : Stage) (wrap : Check → Stage) (done : holds after)
    (more : ∀ next, holds (wrap next)) : holds ((s.checkWakeLock check).2.elim after wrap) := by
  cases check with
  | conns => exact more _
  | remotes connCount since => exact more _
  | send connCount remoteCount since => exact done

section
variable (conn : Conn)

theorem typed_unbound (stage : Stage) (authorized : stage ≠ .unauthorized) (starts : stage.starts = false) :
    Typed { conn with stage } := ⟨fun same => absurd same authorized, fun starting => by cases starts.symm.trans starting⟩

theorem listed_rest (authorized : conn.connType.isSome = true) : conn.rest = .authorized := by
  rw [Conn.rest, if_pos authorized]

theorem listed_exit (authorized : conn.connType.isSome = true) : conn.exit = .closing := by
  rw [Conn.exit, if_pos authorized]

theorem typed_rest : Typed { conn with stage := conn.rest } := by
  by_cases authorized : conn.connType.isSome = true
  · rw [listed_rest conn authorized]
    exact typed_unbound conn .authorized (by decide) rfl
  · have none : conn.connType = none := by simpa using authorized
    have rest : conn.rest = .unauthorized := by rw [Conn.rest, if_neg authorized]
    rw [rest]
    exact ⟨fun _ => none, fun starting => by cases starting⟩

theorem typed_exit : Typed { conn with stage := conn.exit } := by
  by_cases authorized : conn.connType.isSome = true
  · rw [listed_exit conn authorized]
    exact typed_unbound conn .closing (by decide) rfl
  · rw [Conn.exit, if_neg authorized]
    exact typed_unbound conn .gone (by decide) rfl

theorem exit_locks : conn.exit.locks = false := by
  by_cases authorized : conn.connType.isSome = true
  · rw [listed_exit conn authorized]
    rfl
  · rw [Conn.exit, if_neg authorized]
    rfl

end

-- One connection takes the lock or gives it back.
theorem moves_lock (s t : Host) (id : Nat) (conn : Conn) (stage : Stage) (registered : Registered s) (found : Table.get s.conns id = some conn)
    (parts : { t with serverLock := none }.parts = { s with serverLock := none }.parts)
    (free : s.serverLock = none ∨ s.serverLock = some id) (held : stage.locks = true → t.serverLock = some id)
    (listed : conn.connType.isSome = true → stage.listed = conn.stage.listed)
    (introduced : stage.introduced = true → conn.stage.introduced = true)
    (typed : Typed { conn with stage }) : Moves s (t.enter id conn stage) id conn { conn with stage } := by
  simp only [Host.parts, Prod.mk.injEq] at parts
  obtain ⟨conns, idCount, authedConns, _, qosUsers⟩ := parts
  refine ⟨?_, idCount, authedConns, rfl, listed, held, ?_, ?_, ?_, typed⟩
  · rw [Host.enter, conns]
  · intro other apart had
    rcases free with none | own
    · cases none.symm.trans had
    · exact absurd (Option.some.inj (had.symm.trans own)) apart
  · intro watches now
    exact qosUsers.symm ▸ registered.known id conn found watches (introduced now)
  · exact fun other _ had => qosUsers.symm ▸ had

theorem follows_plain (conn : Conn) (stage : Stage) (authorized : stage ≠ .unauthorized) (starts : stage.starts = false)
    (listed : stage.listed = conn.stage.listed) (locks : stage.locks = false) (introduced : stage.introduced = true → conn.stage.introduced = true) :
    Follows conn stage :=
  ⟨fun _ => listed, (fun held => by cases locks.symm.trans held), fun _ => introduced, typed_unbound conn stage authorized starts⟩

theorem follows_rest (conn : Conn) (listed : conn.stage.listed = true) (introduced : conn.stage.introduced = true) : Follows conn conn.rest := by
  refine ⟨?_, ?_, fun _ _ => introduced, typed_rest conn⟩
  · intro authorized
    rw [listed_rest conn authorized, listed]
    rfl
  · intro held
    by_cases authorized : conn.connType.isSome = true
    · rw [listed_rest conn authorized] at held
      cases held
    · rw [Conn.rest, if_neg authorized] at held
      cases held

theorem exit_listed (conn : Conn) (listed : conn.stage.listed = true) (authorized : conn.connType.isSome = true) :
    conn.exit.listed = conn.stage.listed := by
  rw [listed_exit conn authorized, listed]
  rfl

-- Every step of a connection's task but the removal from AUTHED_CONNS.
theorem advance_moves (target : Target) (s next : Host) (id : Nat) (conn : Conn) (registered : Registered s)
    (found : Table.get s.conns id = some conn) (stays : conn.stage ≠ .removing) (taken : s.advance target id conn = some next) :
    ∃ stage, Moves s next id conn { conn with stage } := by
  have typed := registered.typed id conn found
  cases stage : conn.stage with
  | unauthorized | authorized | gone => simp [Host.advance, stage] at taken
  | opening check =>
      simp only [Host.advance, stage, Option.some.injEq] at taken
      subst taken
      refine ⟨_, moves_enter s _ id conn _ registered found (check_parts s check) (check_elim s check (Follows conn) _ _ ?_ ?_)⟩
      · exact follows_plain conn .introducing (by decide) rfl (by rw [stage]; rfl) rfl (fun introduced => by cases introduced)
      · exact fun next => follows_plain conn (.opening next) (fun same => by cases same) rfl (by rw [stage]; rfl) rfl (fun introduced => by cases introduced)
  | introducing =>
      simp only [Host.advance, stage, Option.some.injEq] at taken
      subst taken
      refine ⟨.authorized, rfl, rfl, rfl, rfl, (fun _ => by rw [stage]; rfl), (fun held => by cases held), (fun _ _ had => had), ?_, ?_,
        typed_unbound conn .authorized (by decide) rfl⟩
      · intro watches _
        simp [Host.enter, watches]
      · intro other _ had
        by_cases watches : conn.watches = true
        · simp [Host.enter, watches, had]
        · simp [Host.enter, watches, had]
  | rechecking check =>
      simp only [Host.advance, stage, Option.some.injEq] at taken
      subst taken
      refine ⟨_, moves_enter s _ id conn _ registered found (check_parts s check) (check_elim s check (Follows conn) _ _ ?_ ?_)⟩
      · exact follows_rest conn (by rw [stage]; rfl) (by rw [stage]; rfl)
      · exact fun next => follows_plain conn (.rechecking next) (fun same => by cases same) rfl (by rw [stage]; rfl) rfl (fun _ => by rw [stage]; rfl)
  | subscribing =>
      simp only [Host.advance, stage] at taken
      obtain ⟨free, taken⟩ := Option.ite_none_left_eq_some.mp taken
      have none : s.serverLock = none := by simpa using free
      by_cases running : s.running = true
      · rw [if_pos running] at taken
        obtain rfl := Option.some.inj taken
        exact ⟨.authorized, moves_enter s s id conn .authorized registered found rfl
          (follows_plain conn .authorized (by decide) rfl (by rw [stage]; rfl) rfl (fun _ => by rw [stage]; rfl))⟩
      · rw [if_neg running] at taken
        obtain rfl := Option.some.inj taken
        exact ⟨.storing, moves_lock s _ id conn .storing registered found rfl (.inl none) (fun _ => rfl) (fun _ => by rw [stage]; rfl)
          (fun _ => by rw [stage]; rfl) ⟨(fun same => by cases same), fun _ => typed.remote (by rw [stage]; rfl)⟩⟩
  | storing =>
      simp only [Host.advance, stage, Option.some.injEq] at taken
      subst taken
      exact ⟨.spawning, moves_enter s _ id conn .spawning registered found rfl ⟨(fun _ => by rw [stage]; rfl), (fun _ => by rw [stage]; rfl),
        (fun _ _ => by rw [stage]; rfl), ⟨(fun same => by cases same), fun _ => typed.remote (by rw [stage]; rfl)⟩⟩⟩
  | spawning =>
      simp only [Host.advance, stage, Option.some.injEq] at taken
      subst taken
      exact ⟨.authorized, moves_lock s _ id conn .authorized registered found rfl (.inr (registered.locked id conn found (by rw [stage]; rfl)))
        (fun held => by cases held) (fun _ => by rw [stage]; rfl) (fun _ => by rw [stage]; rfl) (typed_unbound conn .authorized (by decide) rfl)⟩
  | leaving =>
      simp only [Host.advance, stage] at taken
      obtain ⟨free, taken⟩ := Option.ite_none_left_eq_some.mp taken
      have none : s.serverLock = none := by simpa using free
      by_cases mobile : target.mobile = true
      · rw [if_pos mobile] at taken
        obtain rfl := Option.some.inj taken
        exact ⟨conn.exit, moves_lock s s id conn conn.exit registered found rfl (.inl none) (fun held => by cases (exit_locks conn).symm.trans held)
          (exit_listed conn (by rw [stage]; rfl)) (fun _ => by rw [stage]; rfl) (typed_exit conn)⟩
      · rw [if_neg mobile] at taken
        obtain rfl := Option.some.inj taken
        exact ⟨.stopCounting, moves_lock s _ id conn .stopCounting registered found rfl (.inl none) (fun _ => rfl) (fun _ => by rw [stage]; rfl)
          (fun _ => by rw [stage]; rfl) (typed_unbound conn .stopCounting (by decide) rfl)⟩
  | stopCounting =>
      have own := registered.locked id conn found (by rw [stage]; rfl)
      simp only [Host.advance, stage] at taken
      by_cases left : 0 < s.remoteCount
      · rw [if_pos left] at taken
        obtain rfl := Option.some.inj taken
        exact ⟨conn.exit, moves_lock s _ id conn conn.exit registered found rfl (.inr own) (fun held => by cases (exit_locks conn).symm.trans held)
          (exit_listed conn (by rw [stage]; rfl)) (fun _ => by rw [stage]; rfl) (typed_exit conn)⟩
      · rw [if_neg left] at taken
        obtain rfl := Option.some.inj taken
        exact ⟨.stopStoring, moves_enter s s id conn .stopStoring registered found rfl ⟨(fun _ => by rw [stage]; rfl), (fun _ => by rw [stage]; rfl),
          (fun _ _ => by rw [stage]; rfl), typed_unbound conn .stopStoring (by decide) rfl⟩⟩
  | stopStoring =>
      have own := registered.locked id conn found (by rw [stage]; rfl)
      simp only [Host.advance, stage, Option.some.injEq] at taken
      subst taken
      exact ⟨conn.exit, moves_lock s _ id conn conn.exit registered found rfl (.inr own) (fun held => by cases (exit_locks conn).symm.trans held)
        (exit_listed conn (by rw [stage]; rfl)) (fun _ => by rw [stage]; rfl) (typed_exit conn)⟩
  | closing =>
      simp only [Host.advance, stage, Option.some.injEq] at taken
      subst taken
      refine ⟨.removing, rfl, rfl, rfl, rfl, (fun _ => by rw [stage]; rfl), (fun held => by cases held), (fun _ _ had => had),
        (fun _ introduced => by cases introduced), ?_, typed_unbound conn .removing (by decide) rfl⟩
      intro other apart had
      by_cases watches : conn.watches = true
      · simp [Host.enter, watches, had, apart]
      · simp [Host.enter, watches, had]
  | removing => exact absurd stage stays
  | counting =>
      simp only [Host.advance, stage] at taken
      split at taken
      all_goals
        obtain rfl := Option.some.inj taken
        exact ⟨_, moves_enter s s id conn _ registered found rfl
          (follows_plain conn _ (fun same => by cases same) rfl (by rw [stage]; rfl) rfl (fun introduced => by cases introduced))⟩
  | cleaning left =>
      cases left with
      | nil | cons action left =>
          simp only [Host.advance, stage, Option.some.injEq] at taken
          subst taken
          exact ⟨_, moves_enter s _ id conn _ registered found rfl
            (follows_plain conn _ (fun same => by cases same) rfl (by rw [stage]; rfl) rfl (fun introduced => by cases introduced))⟩
  | ending check =>
      simp only [Host.advance, stage, Option.some.injEq] at taken
      subst taken
      refine ⟨_, moves_enter s _ id conn _ registered found (check_parts s check) (check_elim s check (Follows conn) _ _ ?_ ?_)⟩
      · exact follows_plain conn .gone (by decide) rfl (by rw [stage]; rfl) rfl (fun introduced => by cases introduced)
      · exact fun next => follows_plain conn (.ending next) (fun same => by cases same) rfl (by rw [stage]; rfl) rfl (fun introduced => by cases introduced)

theorem registered_init : Registered {} := by
  refine ⟨(fun _ member => by cases member), (fun _ _ found => by cases found), (fun _ _ found => by cases found), ?_,
    (fun _ _ found => by cases found), (fun _ _ found => by cases found)⟩
  intro id connType
  constructor
  · intro member
    cases member
  · rintro ⟨_, found, _⟩
    cases found

-- A step that writes one connection and at most its own line of AUTHED_CONNS.
theorem registered_rewrites (s next : Host) (id : Nat) (now : Conn) (registered : Registered s) (conns : next.conns = Table.insert s.conns id now)
    (counted : s.idCount ≤ next.idCount ∧ id ≤ next.idCount) (lock : next.serverLock = s.serverLock) (users : next.qosUsers = s.qosUsers)
    (typed : Typed now) (unlocked : now.stage.locks = false) (unknown : now.stage.introduced = false)
    (own : ∀ kind, (id, kind) ∈ next.authedConns ↔ now.connType = some kind ∧ now.stage.listed = true)
    (others : ∀ other kind, other ≠ id → ((other, kind) ∈ next.authedConns ↔ (other, kind) ∈ s.authedConns)) : Registered next := by
  have each : ∀ holds : Nat → Conn → Prop, (∀ other held, Table.get s.conns other = some held → holds other held) → holds id now →
      ∀ other held, Table.get next.conns other = some held → holds other held := by
    rw [conns]
    exact fun holds old => Table.forall_insert holds s.conns id now (fun other held _ had => old other held had)
  refine ⟨?_, ?_, each (fun _ held => Typed held) registered.typed typed, ?_, ?_, ?_⟩
  · rw [conns]
    exact Table.keyed_insert s.conns id now registered.keyed
  · exact each (fun other _ => other ≤ next.idCount) (fun other held had => (registered.counted other held had).trans counted.1) counted.2
  · intro other kind
    rw [conns, Table.get_insert]
    by_cases same : other = id
    · rw [if_pos same, same, own kind]
      exact ⟨fun listed => ⟨now, rfl, listed⟩, fun ⟨_, this, listed⟩ => Option.some.inj this ▸ listed⟩
    · rw [if_neg same, others other kind same]
      exact registered.listed other kind
  · rw [lock]
    exact each (fun other held => held.stage.locks = true → s.serverLock = some other) registered.locked
      (fun held => by cases unlocked.symm.trans held)
  · rw [users]
    exact each (fun other held => held.watches = true → held.stage.introduced = true → other ∈ s.qosUsers) registered.known
      (fun _ introduced => by cases unknown.symm.trans introduced)

theorem accept_registered (s : Host) (registered : Registered s) :
    Registered { s with conns := Table.insert s.conns (s.idCount + 1) {}, idCount := s.idCount + 1 } := by
  refine registered_rewrites s _ (s.idCount + 1) {} registered rfl ⟨Nat.le_succ _, Nat.le_refl _⟩ rfl rfl
    ⟨fun _ => rfl, fun starting => by cases starting⟩ rfl rfl (fun kind => ⟨fun listed => ?_, fun now => by cases now.1⟩) (fun _ _ _ => Iff.rfl)
  obtain ⟨conn, found, _⟩ := (registered.listed _ kind).mp listed
  exact absurd (registered.counted _ conn found) (by omega)

theorem authorize_registered (s : Host) (id : Nat) (conn : Conn) (connType : AuthConnType) (registered : Registered s)
    (found : Table.get s.conns id = some conn) (waits : conn.stage = .unauthorized) :
    Registered ({ s with authedConns := s.authedConns ++ [(id, connType)], changes := s.changes + 1 }.enter id
      { conn with connType := some connType } (.opening .conns)) := by
  refine registered_rewrites s _ id _ registered rfl ⟨Nat.le_refl _, registered.counted id conn found⟩ rfl rfl
    ⟨(fun same => by cases same), fun starting => by cases starting⟩ rfl rfl (fun kind => ?_) (fun other kind apart => ?_)
  · dsimp only [Host.enter]
    rw [List.mem_append, List.mem_singleton, registered.listed id kind, found]
    constructor
    · rintro (⟨held, this, _, listed⟩ | added)
      · obtain rfl := Option.some.inj this
        rw [waits] at listed
        cases listed
      · exact ⟨by rw [(Prod.mk.inj added).2], rfl⟩
    · exact fun now => .inr (by rw [Option.some.inj now.1])
  · exact List.mem_append.trans (or_iff_left (fun added => apart (Prod.mk.inj (List.mem_singleton.mp added)).1))

theorem remove_registered (s : Host) (id : Nat) (conn : Conn) (registered : Registered s) (found : Table.get s.conns id = some conn) :
    Registered ({ s with authedConns := s.authedConns.filter (fun entry => entry.1 ≠ id), changes := s.changes + 1 }.enter id conn .counting) := by
  refine registered_rewrites s _ id _ registered rfl ⟨Nat.le_refl _, registered.counted id conn found⟩ rfl rfl
    (typed_unbound conn .counting (by decide) rfl) rfl rfl (fun kind => ⟨fun listed => ?_, fun now => by cases now.2⟩) (fun other kind apart => ?_)
  · exact absurd rfl (of_decide_eq_true (List.mem_filter.mp listed).2)
  · exact List.mem_filter.trans (and_iff_left (decide_eq_true apart))

-- A connection between two messages goes on to something that keeps its registration.
theorem follows_rested (conn : Conn) (stage : Stage) (typed : Typed conn) (rested : conn.stage = .unauthorized ∨ conn.stage = .authorized)
    (authorized : stage ≠ .unauthorized) (starts : stage.starts = false) (listed : stage.listed = true) (locks : stage.locks = false) :
    Follows conn stage := by
  have present : conn.connType.isSome = true → conn.stage = .authorized := by
    intro some
    rcases rested with waits | serves
    · rw [typed.none waits] at some
      cases some
    · exact serves
  refine ⟨?_, (fun held => by cases locks.symm.trans held), ?_, typed_unbound conn stage authorized starts⟩
  · intro some
    rw [present some, listed]
    rfl
  · intro some _
    rw [present some]
    rfl

theorem registered_step (target : Target) (s next : Host) (label : Label) (registered : Registered s) (taken : s.step target label = some next) :
    Registered next := by
  cases label with
  | accept =>
      obtain rfl := Option.some.inj taken
      exact accept_registered s registered
  | authorize id connType =>
      obtain ⟨conn, found, taken⟩ := Option.bind_eq_some_iff.mp taken
      obtain ⟨waits, rfl⟩ := Option.ite_some_none_eq_some.mp taken
      exact authorize_registered s id conn connType registered found waits
  | recheck id | leave id =>
      obtain ⟨conn, found, taken⟩ := Option.bind_eq_some_iff.mp taken
      obtain ⟨rested, rfl⟩ := Option.ite_some_none_eq_some.mp taken
      exact registered_moves s _ id conn _ registered found (moves_enter s s id conn _ registered found rfl
        (follows_rested conn _ (registered.typed id conn found) rested (fun same => by cases same) rfl rfl rfl))
  | subscribe id =>
      obtain ⟨conn, found, taken⟩ := Option.bind_eq_some_iff.mp taken
      obtain ⟨⟨serves, remote, _⟩, rfl⟩ := Option.ite_some_none_eq_some.mp taken
      have known := registered.known id conn found
      rw [serves] at known
      exact registered_moves s _ id conn _ registered found ⟨rfl, rfl, rfl, rfl, (fun _ => by rw [serves]; rfl), (fun held => by cases held),
        (fun _ _ had => had), (fun watches _ => known watches rfl), (fun _ _ had => had), ⟨(fun same => by cases same), fun _ => remote⟩⟩
  | advance id =>
      obtain ⟨conn, found, taken⟩ := Option.bind_eq_some_iff.mp taken
      by_cases removing : conn.stage = .removing
      · simp only [Host.advance, removing, Option.some.injEq] at taken
        subst taken
        exact remove_registered s id conn registered found
      · obtain ⟨stage, moves⟩ := advance_moves target s next id conn registered found removing taken
        exact registered_moves s next id conn _ registered found moves
  | poll =>
      obtain ⟨_, rfl⟩ := Option.ite_some_none_eq_some.mp taken
      exact { registered with }

-- An id comes into AUTHED_CONNS once, and goes for good.
theorem step_distinct (target : Target) (s next : Host) (label : Label) (registered : Registered s) (distinct : (s.authedConns.map Prod.fst).Nodup)
    (taken : s.step target label = some next) : (next.authedConns.map Prod.fst).Nodup := by
  cases label with
  | accept =>
      obtain rfl := Option.some.inj taken
      exact distinct
  | authorize id connType =>
      obtain ⟨conn, found, taken⟩ := Option.bind_eq_some_iff.mp taken
      obtain ⟨waits, rfl⟩ := Option.ite_some_none_eq_some.mp taken
      have fresh : id ∉ s.authedConns.map Prod.fst := by
        intro member
        obtain ⟨⟨_, kind⟩, listed, rfl⟩ := List.mem_map.mp member
        obtain ⟨held, this, _, stays⟩ := (registered.listed _ kind).mp listed
        rw [← Option.some.inj (found.symm.trans this), waits] at stays
        cases stays
      dsimp only [Host.enter]
      rw [List.map_append]
      exact List.concat_eq_append ▸ distinct.concat fresh
  | recheck id | subscribe id | leave id =>
      obtain ⟨conn, _, taken⟩ := Option.bind_eq_some_iff.mp taken
      obtain ⟨_, rfl⟩ := Option.ite_some_none_eq_some.mp taken
      exact distinct
  | advance id =>
      obtain ⟨conn, found, taken⟩ := Option.bind_eq_some_iff.mp taken
      by_cases removing : conn.stage = .removing
      · simp only [Host.advance, removing, Option.some.injEq] at taken
        subst taken
        exact distinct.sublist (List.filter_sublist.map Prod.fst)
      · obtain ⟨_, moves⟩ := advance_moves target s next id conn registered found removing taken
        rw [moves.authedConns]
        exact distinct
  | poll =>
      obtain ⟨_, rfl⟩ := Option.ite_some_none_eq_some.mp taken
      exact distinct

-- AUTHED_CONNS lists each connection between its registration and its removal, once and with
-- its type, and one connection at most has the server's write lock.
structure Exact (s : Host) : Prop where
  listed : ∀ id connType, (id, connType) ∈ s.authedConns ↔
    ∃ conn, Table.get s.conns id = some conn ∧ conn.connType = some connType ∧ conn.stage.listed = true
  once : (s.authedConns.map Prod.fst).Nodup
  alone : ∀ first second a b, Table.get s.conns first = some a → Table.get s.conns second = some b →
    a.stage.locks = true → b.stage.locks = true → first = second

-- However the tasks interleave.
theorem authed_conns_exact (target : Target) (s : Host) (reach : Machine.Reachable (Host.step target) {} s) : Exact s := by
  obtain ⟨registered, distinct⟩ := Machine.reachable_invariant (Host.step target)
    (fun s => Registered s ∧ (s.authedConns.map Prod.fst).Nodup) {} s ⟨registered_init, List.nodup_nil⟩
    (fun state label next held taken =>
      ⟨registered_step target state next label held.1 taken, step_distinct target state next label held.1 held.2 taken⟩) reach
  refine ⟨registered.listed, distinct, fun first second a b hereA hereB locksA locksB => ?_⟩
  exact Option.some.inj ((registered.locked first a hereA locksA).symm.trans (registered.locked second b hereB locksB))

-- A recorder is about to start when a second connection is registered.
def secondComes : List Label :=
  [.accept, .authorize 1 .remote] ++ List.replicate 4 (.advance 1) ++ [.subscribe 1, .advance 1, .accept, .authorize 2 .viewCamera]

theorem second_comes_runs : (Machine.run (Host.step .macos) {} secondComes).isSome = true := by decide

theorem authed_conns_exact_second :
    let s := (Machine.run (Host.step .macos) {} secondComes).get second_comes_runs
    s.authedConns = [(1, .remote), (2, .viewCamera)] ∧ s.serverLock = some 1 ∧ Exact s :=
  ⟨by decide, by decide, authed_conns_exact .macos _ (Machine.reachable_run (Host.step .macos) {} secondComes second_comes_runs)⟩

end GotechDesk.AuthedConns
