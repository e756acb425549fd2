import GotechDesk.AuthedConns.LastRemote

set_option autoImplicit false

namespace GotechDesk.AuthedConns

open Connection (AuthConnType Target)

def Stage.check : Stage → Option Check
  | .opening check | .rechecking check | .ending check => some check
  | _ => none

-- The exit of Connection::start has its try_stop_record_cursor_pos ahead.
def Stage.stops : Stage → Bool
  | .leaving | .stopCounting | .stopStoring => true
  | _ => false

-- A check_wake_lock is ahead, or under way.
def Conn.owes (conn : Conn) : Bool :=
  match conn.stage with
  | .opening _ | .rechecking _ | .closing | .removing | .counting | .cleaning _ | .ending _ => true
  | .leaving | .stopCounting | .stopStoring => conn.connType.isSome
  | .unauthorized | .introducing | .authorized | .subscribing | .storing | .spawning | .gone => false

def Host.counts (s : Host) : Nat × Nat := (s.connCount, s.remoteCount)

-- What has been read is what there is, unless AUTHED_CONNS has changed since.
def Check.Sound (s : Host) : Check → Prop
  | .conns => True
  | .remotes connCount since => since ≤ s.changes ∧ (since = s.changes → connCount = s.connCount)
  | .send connCount remoteCount since => since ≤ s.changes ∧ (since = s.changes → (connCount, remoteCount) = s.counts)

-- Keep-awake and the recorder follow the sessions.
structure Follow (s : Host) : Prop where
  sent : s.sent.getD (0, 0) = s.counts
  stopped : s.remoteCount = 0 → s.running = false
  single : s.running = true → s.recorders ≤ 1

-- A check sends what it read before AUTHED_CONNS changed only if another check is still ahead;
-- the last remote session is removed with the recorder off or another connection's stop ahead;
-- a recorder is started when the thread of the one before is gone.
def Host.orderly (s : Host) (id : Nat) (conn : Conn) : Bool :=
  match conn.stage with
  | .opening (.send _ _ since) | .rechecking (.send _ _ since) | .ending (.send _ _ since) =>
      decide (since = s.changes) || s.conns.any (fun entry => decide (entry.1 ≠ id) && entry.2.owes)
  | .removing =>
      decide (conn.connType ≠ some .remote) || s.authedConns.any (fun entry => decide (entry.1 ≠ id) && decide (entry.2 = .remote)) ||
        !s.running || s.conns.any (fun entry => decide (entry.1 ≠ id) && entry.2.stage.stops)
  | .storing => decide (s.recorders = 0)
  | _ => true

def Orderly (s : Host) : Label → Prop
  | .advance id => (Table.get s.conns id).all (fun conn => s.orderly id conn) = true
  | _ => True

instance (s : Host) (label : Label) : Decidable (Orderly s label) :=
  match label with
  | .advance id => inferInstanceAs (Decidable ((Table.get s.conns id).all (fun conn => s.orderly id conn) = true))
  | .accept | .authorize _ _ | .recheck _ | .subscribe _ | .leave _ | .poll => inferInstanceAs (Decidable True)

-- The pair sent is the counts, or will be.
structure Sending (s : Host) : Prop where
  checks : ∀ id conn, Table.get s.conns id = some conn → ∀ check, conn.stage.check = some check → check.Sound s
  sent : s.sent.getD (0, 0) = s.counts ∨ ∃ id conn, Table.get s.conns id = some conn ∧ conn.owes = true

-- The recorder is single, and off without a remote session or will be.
structure Recording (target : Target) (s : Host) : Prop where
  running : s.running = true → 0 < s.remoteCount ∨ ∃ id conn, Table.get s.conns id = some conn ∧ conn.stage.stops = true
  single : s.recorders ≤ 1
  spawning : ∀ id conn, Table.get s.conns id = some conn → conn.stage = .spawning → s.recorders = 0
  mobile : target.mobile = true → s.running = false ∧ ∀ id conn, Table.get s.conns id = some conn → conn.stage.starts = false

structure Steady (target : Target) (s : Host) : Prop where
  registered : Registered s
  sending : Sending s
  recording : Recording target s

theorem quiet_owes (conn : Conn) (quiet : conn.stage.quiet = true) : conn.owes = false := by
  cases stage : conn.stage with
  | unauthorized | authorized | gone => rw [Conn.owes, stage]
  | _ =>
      rw [stage] at quiet
      cases quiet

theorem quiet_stops (stage : Stage) (quiet : stage.quiet = true) : stage.stops = false := by
  cases stage with
  | leaving | stopCounting | stopStoring => cases quiet
  | _ => rfl

theorem steady_follows (target : Target) (s : Host) (steady : Steady target s) (quiet : Quiet s) : Follow s := by
  refine ⟨?_, ?_, fun _ => steady.recording.single⟩
  · rcases steady.sending.sent with same | ⟨id, conn, found, owes⟩
    · exact same
    · cases (quiet_owes conn (quiet id conn found)).symm.trans owes
  · intro none
    by_contra running
    rcases steady.recording.running (by simpa using running) with some | ⟨id, conn, found, stops⟩
    · omega
    · cases (quiet_stops conn.stage (quiet id conn found)).symm.trans stops

-- Every step of a task but those of check_wake_lock and the removal.
structure Plain (s next : Host) (id : Nat) (conn now : Conn) : Prop where
  conns : next.conns = Table.insert s.conns id now
  sent : next.sent = s.sent
  authedConns : next.authedConns = s.authedConns
  changes : next.changes = s.changes
  owes : conn.owes = true → now.owes = true
  check : ∀ check, now.stage.check = some check → check = .conns

theorem exit_check (conn : Conn) : conn.exit.check = none := by
  rw [Conn.exit]
  split <;> rfl

theorem exit_owes (conn : Conn) (authorized : conn.connType.isSome = true) : ({ conn with stage := conn.exit } : Conn).owes = true := by
  rw [listed_exit conn authorized]
  rfl

theorem advance_plain (target : Target) (s next : Host) (id : Nat) (conn : Conn) (taken : s.advance target id conn = some next)
    (unchecked : conn.stage.check = none) (stays : conn.stage ≠ .removing) : ∃ stage, Plain s next id conn { conn with stage } := by
  cases stage : conn.stage with
  | unauthorized | authorized | gone => simp [Host.advance, stage] at taken
  | opening check | rechecking check | ending check =>
      rw [stage] at unchecked
      cases unchecked
  | removing => exact absurd stage stays
  | introducing | storing | spawning =>
      simp only [Host.advance, stage, Option.some.injEq] at taken
      exact taken ▸ ⟨_, rfl, rfl, rfl, rfl, (fun owes => by rw [Conn.owes, stage] at owes; cases owes), fun _ is => by cases is⟩
  | closing =>
      simp only [Host.advance, stage, Option.some.injEq] at taken
      exact taken ▸ ⟨_, rfl, rfl, rfl, rfl, (fun _ => rfl), fun _ is => by cases is⟩
  | stopStoring =>
      simp only [Host.advance, stage, Option.some.injEq] at taken
      refine taken ▸ ⟨conn.exit, rfl, rfl, rfl, rfl, (fun owes => ?_), fun _ is => by cases (exit_check conn).symm.trans is⟩
      rw [Conn.owes, stage] at owes
      exact exit_owes conn owes
  | subscribing =>
      simp only [Host.advance, stage] at taken
      obtain ⟨_, taken⟩ := Option.ite_none_left_eq_some.mp taken
      split at taken
      · exact Option.some.inj taken ▸ ⟨.authorized, rfl, rfl, rfl, rfl, (fun owes => by rw [Conn.owes, stage] at owes; cases owes), fun _ is => by cases is⟩
      · exact Option.some.inj taken ▸ ⟨.storing, rfl, rfl, rfl, rfl, (fun owes => by rw [Conn.owes, stage] at owes; cases owes), fun _ is => by cases is⟩
  | leaving =>
      simp only [Host.advance, stage] at taken
      obtain ⟨_, taken⟩ := Option.ite_none_left_eq_some.mp taken
      split at taken
      · refine Option.some.inj taken ▸ ⟨conn.exit, rfl, rfl, rfl, rfl, (fun owes => ?_), fun _ is => by cases (exit_check conn).symm.trans is⟩
        rw [Conn.owes, stage] at owes
        exact exit_owes conn owes
      · refine Option.some.inj taken ▸ ⟨.stopCounting, rfl, rfl, rfl, rfl, (fun owes => ?_), fun _ is => by cases is⟩
        rw [Conn.owes, stage] at owes
        exact owes
  | stopCounting =>
      simp only [Host.advance, stage] at taken
      split at taken
      · refine Option.some.inj taken ▸ ⟨conn.exit, rfl, rfl, rfl, rfl, (fun owes => ?_), fun _ is => by cases (exit_check conn).symm.trans is⟩
        rw [Conn.owes, stage] at owes
        exact exit_owes conn owes
      · refine Option.some.inj taken ▸ ⟨.stopStoring, rfl, rfl, rfl, rfl, (fun owes => ?_), fun _ is => by cases is⟩
        rw [Conn.owes, stage] at owes
        exact owes
  | counting =>
      simp only [Host.advance, stage] at taken
      split at taken
      · exact Option.some.inj taken ▸ ⟨_, rfl, rfl, rfl, rfl, (fun _ => rfl), fun _ is => by cases is⟩
      · exact Option.some.inj taken ▸ ⟨_, rfl, rfl, rfl, rfl, (fun _ => rfl), fun _ is => (Option.some.inj is).symm⟩
  | cleaning left =>
      cases left with
      | nil =>
          simp only [Host.advance, stage, Option.some.injEq] at taken
          exact taken ▸ ⟨_, rfl, rfl, rfl, rfl, (fun _ => rfl), fun _ is => (Option.some.inj is).symm⟩
      | cons action left =>
          simp only [Host.advance, stage, Option.some.injEq] at taken
          exact taken ▸ ⟨_, rfl, rfl, rfl, rfl, (fun _ => rfl), fun _ is => by cases is⟩

theorem sound_same (s next : Host) (check : Check) (authedConns : next.authedConns = s.authedConns) (changes : next.changes = s.changes)
    (sound : check.Sound s) : check.Sound next := by
  have counts : next.counts = s.counts := by rw [Host.counts, Host.counts, Host.connCount, Host.remoteCount, authedConns]; rfl
  cases check with
  | conns => trivial
  | remotes connCount since =>
      rw [Check.Sound, changes]
      exact ⟨sound.1, fun now => (sound.2 now).trans (congrArg Prod.fst counts).symm⟩
  | send connCount remoteCount since =>
      rw [Check.Sound, changes, counts]
      exact sound

-- A change of AUTHED_CONNS outdates every check under way.
theorem sound_changed (s next : Host) (check : Check) (changes : next.changes = s.changes + 1) (sound : check.Sound s) : check.Sound next := by
  cases check with
  | conns => trivial
  | remotes connCount since | send connCount remoteCount since =>
      have past := sound.1
      exact ⟨by omega, fun now => by omega⟩

theorem plain_sending (s next : Host) (id : Nat) (conn now : Conn) (sending : Sending s) (found : Table.get s.conns id = some conn)
    (plain : Plain s next id conn now) : Sending next := by
  constructor
  · rw [plain.conns]
    refine Table.forall_insert (fun _ held => ∀ check, held.stage.check = some check → check.Sound next) s.conns id now ?_ ?_
    · exact fun other held _ had check is => sound_same s next check plain.authedConns plain.changes (sending.checks other held had check is)
    · intro check is
      rw [plain.check check is]
      trivial
  · have counts : next.counts = s.counts := by rw [Host.counts, Host.counts, Host.connCount, Host.remoteCount, plain.authedConns]; rfl
    rw [plain.sent, plain.conns, counts]
    rcases sending.sent with same | owed
    · exact .inl same
    · right
      refine Table.exists_insert (fun _ held => held.owes = true) s.conns id now owed ?_
      intro held had owes
      obtain rfl := Option.some.inj (found.symm.trans had)
      exact plain.owes owes

-- AUTHED_CONNS changes, and whoever changed it has its check ahead.
theorem changed_sending (s next : Host) (id : Nat) (now : Conn) (sending : Sending s) (conns : next.conns = Table.insert s.conns id now)
    (changes : next.changes = s.changes + 1) (owes : now.owes = true) (fresh : ∀ check, now.stage.check = some check → check = .conns) : Sending next := by
  constructor
  · rw [conns]
    refine Table.forall_insert (fun _ held => ∀ check, held.stage.check = some check → check.Sound next) s.conns id now ?_ ?_
    · exact fun other held _ had check is => sound_changed s next check changes (sending.checks other held had check is)
    · intro check is
      rw [fresh check is]
      trivial
  · exact .inr ⟨id, now, by rw [conns, Table.get_insert, if_pos rfl], owes⟩

-- A step of check_wake_lock.
inductive CheckStep (s : Host) (id : Nat) (conn : Conn) (check : Check) : Host → Prop where
  | step (after : Stage) (wrap : Check → Stage) : after.check = none → (∀ more, (wrap more).check = some more) →
      (∀ more, ({ conn with stage := wrap more } : Conn).owes = true) →
      CheckStep s id conn check ((s.checkWakeLock check).1.enter id conn ((s.checkWakeLock check).2.elim after wrap))

theorem rest_check (conn : Conn) : conn.rest.check = none := by
  rw [Conn.rest]
  split <;> rfl

theorem advance_check (target : Target) (s next : Host) (id : Nat) (conn : Conn) (check : Check) (is : conn.stage.check = some check)
    (taken : s.advance target id conn = some next) : CheckStep s id conn check next := by
  cases stage : conn.stage with
  | opening held =>
      obtain rfl := Option.some.inj ((congrArg Stage.check stage).symm.trans is)
      simp only [Host.advance, stage, Option.some.injEq] at taken
      exact taken ▸ .step .introducing .opening rfl (fun _ => rfl) (fun _ => rfl)
  | rechecking held =>
      obtain rfl := Option.some.inj ((congrArg Stage.check stage).symm.trans is)
      simp only [Host.advance, stage, Option.some.injEq] at taken
      exact taken ▸ .step conn.rest .rechecking (rest_check conn) (fun _ => rfl) (fun _ => rfl)
  | ending held =>
      obtain rfl := Option.some.inj ((congrArg Stage.check stage).symm.trans is)
      simp only [Host.advance, stage, Option.some.injEq] at taken
      exact taken ▸ .step .gone .ending rfl (fun _ => rfl) (fun _ => rfl)
  | _ =>
      rw [stage] at is
      cases is

theorem orderly_send (s : Host) (id : Nat) (conn : Conn) (connCount remoteCount since : Nat)
    (is : conn.stage.check = some (.send connCount remoteCount since)) (orderly : s.orderly id conn = true) :
    since = s.changes ∨ s.conns.any (fun entry => decide (entry.1 ≠ id) && entry.2.owes) = true := by
  cases stage : conn.stage with
  | opening check | rechecking check | ending check =>
      rw [stage] at is
      obtain rfl := Option.some.inj is
      simp only [Host.orderly, stage, Bool.or_eq_true] at orderly
      exact orderly.imp_left of_decide_eq_true
  | _ =>
      rw [stage] at is
      cases is

-- Another connection that the list finds stays when one goes on.
theorem other_stays (conns : List (Nat × Conn)) (id : Nat) (now : Conn) (holds : Conn → Bool) (keyed : Table.Keyed conns)
    (any : conns.any (fun entry => decide (entry.1 ≠ id) && holds entry.2) = true) :
    ∃ other conn, Table.get (Table.insert conns id now) other = some conn ∧ holds conn = true := by
  obtain ⟨entry, member, good⟩ := List.any_eq_true.mp any
  obtain ⟨apart, good⟩ := Bool.and_eq_true_iff.mp good
  exact ⟨entry.1, entry.2, by rw [Table.get_insert, if_neg (of_decide_eq_true apart), keyed entry member], good⟩

theorem check_sending (s next : Host) (id : Nat) (conn : Conn) (check : Check) (sending : Sending s) (keyed : Table.Keyed s.conns)
    (found : Table.get s.conns id = some conn) (is : conn.stage.check = some check) (orderly : s.orderly id conn = true)
    (step : CheckStep s id conn check next) : Sending next := by
  have sound := sending.checks id conn found check is
  have others : ∀ (next : Host) (now : Conn), next.conns = Table.insert s.conns id now → next.authedConns = s.authedConns → next.changes = s.changes →
      (∀ more, now.stage.check = some more → more.Sound next) →
      ∀ other held, Table.get next.conns other = some held → ∀ more, held.stage.check = some more → more.Sound next := by
    intro next now conns authedConns changes new
    rw [conns]
    exact Table.forall_insert (fun _ held => ∀ more, held.stage.check = some more → more.Sound next) s.conns id now
      (fun other held _ had more holds => sound_same s next more authedConns changes (sending.checks other held had more holds)) new
  cases step with
  | step after wrap done more owes =>
      cases check with
      | conns =>
          refine ⟨others _ { conn with stage := wrap (.remotes s.connCount s.changes) } rfl rfl rfl ?_,
            .inr ⟨id, _, (Table.get_insert s.conns id id _).trans (if_pos rfl), owes (.remotes s.connCount s.changes)⟩⟩
          intro check now
          obtain rfl := Option.some.inj ((more _).symm.trans now)
          exact ⟨Nat.le_refl _, fun _ => rfl⟩
      | remotes connCount since =>
          refine ⟨others _ { conn with stage := wrap (.send connCount s.remoteCount since) } rfl rfl rfl ?_,
            .inr ⟨id, _, (Table.get_insert s.conns id id _).trans (if_pos rfl), owes (.send connCount s.remoteCount since)⟩⟩
          intro check now
          obtain rfl := Option.some.inj ((more _).symm.trans now)
          exact ⟨sound.1, fun same => Prod.ext (sound.2 same) rfl⟩
      | send connCount remoteCount since =>
          refine ⟨others _ { conn with stage := after } rfl rfl rfl (fun check now => by cases done.symm.trans now), ?_⟩
          rcases orderly_send s id conn connCount remoteCount since is orderly with current | ahead
          · exact .inl (sound.2 current)
          · exact .inr (other_stays s.conns id _ Conn.owes keyed ahead)

theorem advance_sending (target : Target) (s next : Host) (id : Nat) (conn : Conn) (sending : Sending s) (keyed : Table.Keyed s.conns)
    (found : Table.get s.conns id = some conn) (orderly : s.orderly id conn = true) (taken : s.advance target id conn = some next) : Sending next := by
  cases is : conn.stage.check with
  | some check => exact check_sending s next id conn check sending keyed found is orderly (advance_check target s next id conn check is taken)
  | none =>
      by_cases removing : conn.stage = .removing
      · simp only [Host.advance, removing, Option.some.injEq] at taken
        subst taken
        exact changed_sending s _ id _ sending rfl rfl rfl (fun _ now => by cases now)
      · obtain ⟨stage, plain⟩ := advance_plain target s next id conn taken is removing
        exact plain_sending s next id conn _ sending found plain

-- How a step of a task bears on the recorder.
inductive RecordStep (target : Target) (s : Host) (id : Nat) (conn : Conn) : Host → Prop where
  | aside (next : Host) (stage : Stage) : next.conns = Table.insert s.conns id { conn with stage } → next.running = s.running →
      next.recorders = s.recorders → next.authedConns = s.authedConns → stage ≠ .spawning → (stage.starts = true → conn.stage.starts = true) →
      (conn.stage.stops = true → stage.stops = true ∨ 0 < s.remoteCount ∨ target.mobile = true) → RecordStep target s id conn next
  | store : conn.stage = .storing → RecordStep target s id conn ({ s with running := true }.enter id conn .spawning)
  | spawn : conn.stage = .spawning →
      RecordStep target s id conn ({ s with recorders := s.recorders + 1, serverLock := none }.enter id conn .authorized)
  | stop : conn.stage = .stopStoring → RecordStep target s id conn ({ s with running := false, serverLock := none }.enter id conn conn.exit)
  | remove : conn.stage = .removing → RecordStep target s id conn
      ({ s with authedConns := s.authedConns.filter (fun entry => entry.1 ≠ id), changes := s.changes + 1 }.enter id conn .counting)

theorem exit_idle (conn : Conn) : conn.exit ≠ .spawning ∧ (conn.exit.starts = true → conn.stage.starts = true) := by
  rw [Conn.exit]
  split
  · exact ⟨(fun same => by cases same), fun starts => by cases starts⟩
  · exact ⟨(fun same => by cases same), fun starts => by cases starts⟩

theorem rest_idle (conn : Conn) : conn.rest ≠ .spawning ∧ conn.rest.starts = false := by
  rw [Conn.rest]
  split
  · exact ⟨(fun same => by cases same), rfl⟩
  · exact ⟨(fun same => by cases same), rfl⟩

theorem check_recorder (s : Host) (check : Check) : (s.checkWakeLock check).1.running = s.running ∧
    (s.checkWakeLock check).1.recorders = s.recorders ∧ (s.checkWakeLock check).1.authedConns = s.authedConns := by
  cases check <;> exact ⟨rfl, rfl, rfl⟩

theorem advance_records (target : Target) (s next : Host) (id : Nat) (conn : Conn) (taken : s.advance target id conn = some next) :
    RecordStep target s id conn next := by
  have plainly : ∀ (next : Host) (stage : Stage), next.conns = Table.insert s.conns id { conn with stage } → next.running = s.running →
      next.recorders = s.recorders → next.authedConns = s.authedConns → stage ≠ .spawning → stage.starts = false → conn.stage.stops = false →
      RecordStep target s id conn next :=
    fun next stage conns running recorders authedConns apart starts stops =>
      .aside next stage conns running recorders authedConns apart (fun starting => by cases starts.symm.trans starting)
        (fun stopping => by cases stops.symm.trans stopping)
  have checks : ∀ (check : Check) (after : Stage) (wrap : Check → Stage), after ≠ .spawning ∧ after.starts = false →
      (∀ more, wrap more ≠ .spawning ∧ (wrap more).starts = false) → conn.stage.stops = false →
      RecordStep target s id conn ((s.checkWakeLock check).1.enter id conn ((s.checkWakeLock check).2.elim after wrap)) := by
    intro check after wrap done more stops
    obtain ⟨running, recorders, authedConns⟩ := check_recorder s check
    obtain ⟨apart, starts⟩ := check_elim s check (fun stage => stage ≠ .spawning ∧ stage.starts = false) after wrap done more
    exact plainly _ _ (by rw [Host.enter, check_conns]) running recorders authedConns apart starts stops
  cases stage : conn.stage with
  | unauthorized | authorized | gone => simp [Host.advance, stage] at taken
  | opening check =>
      simp only [Host.advance, stage, Option.some.injEq] at taken
      exact taken ▸ checks check _ _ ⟨(fun same => by cases same), rfl⟩ (fun _ => ⟨(fun same => by cases same), rfl⟩) (by rw [stage]; rfl)
  | rechecking check =>
      simp only [Host.advance, stage, Option.some.injEq] at taken
      exact taken ▸ checks check _ _ (rest_idle conn) (fun _ => ⟨(fun same => by cases same), rfl⟩) (by rw [stage]; rfl)
  | ending check =>
      simp only [Host.advance, stage, Option.some.injEq] at taken
      exact taken ▸ checks check _ _ ⟨(fun same => by cases same), rfl⟩ (fun _ => ⟨(fun same => by cases same), rfl⟩) (by rw [stage]; rfl)
  | introducing | closing =>
      simp only [Host.advance, stage, Option.some.injEq] at taken
      exact taken ▸ plainly _ _ rfl rfl rfl rfl (by decide) rfl (by rw [stage]; rfl)
  | storing =>
      simp only [Host.advance, stage, Option.some.injEq] at taken
      exact taken ▸ .store stage
  | spawning =>
      simp only [Host.advance, stage, Option.some.injEq] at taken
      exact taken ▸ .spawn stage
  | stopStoring =>
      simp only [Host.advance, stage, Option.some.injEq] at taken
      exact taken ▸ .stop stage
  | removing =>
      simp only [Host.advance, stage, Option.some.injEq] at taken
      exact taken ▸ .remove stage
  | subscribing =>
      simp only [Host.advance, stage] at taken
      obtain ⟨_, taken⟩ := Option.ite_none_left_eq_some.mp taken
      split at taken
      · exact Option.some.inj taken ▸ plainly _ .authorized rfl rfl rfl rfl (by decide) rfl (by rw [stage]; rfl)
      · exact Option.some.inj taken ▸ .aside _ .storing rfl rfl rfl rfl (by decide) (fun _ => by rw [stage]; rfl)
          (fun stops => by rw [stage] at stops; cases stops)
  | leaving =>
      simp only [Host.advance, stage] at taken
      obtain ⟨_, taken⟩ := Option.ite_none_left_eq_some.mp taken
      by_cases mobile : target.mobile = true
      · rw [if_pos mobile] at taken
        exact Option.some.inj taken ▸ .aside _ conn.exit rfl rfl rfl rfl (exit_idle conn).1 (exit_idle conn).2 (fun _ => .inr (.inr mobile))
      · rw [if_neg mobile] at taken
        exact Option.some.inj taken ▸ .aside _ .stopCounting rfl rfl rfl rfl (by decide) (fun starts => by cases starts) (fun _ => .inl rfl)
  | stopCounting =>
      simp only [Host.advance, stage] at taken
      by_cases left : 0 < s.remoteCount
      · rw [if_pos left] at taken
        exact Option.some.inj taken ▸ .aside _ conn.exit rfl rfl rfl rfl (exit_idle conn).1 (exit_idle conn).2 (fun _ => .inr (.inl left))
      · rw [if_neg left] at taken
        exact Option.some.inj taken ▸ .aside _ .stopStoring rfl rfl rfl rfl (by decide) (fun starts => by cases starts) (fun _ => .inl rfl)
  | counting =>
      simp only [Host.advance, stage] at taken
      split at taken
      · exact Option.some.inj taken ▸ plainly _ _ rfl rfl rfl rfl (fun same => by cases same) rfl (by rw [stage]; rfl)
      · exact Option.some.inj taken ▸ plainly _ _ rfl rfl rfl rfl (fun same => by cases same) rfl (by rw [stage]; rfl)
  | cleaning left =>
      cases left with
      | nil | cons action left =>
          simp only [Host.advance, stage, Option.some.injEq] at taken
          exact taken ▸ plainly _ _ rfl rfl rfl rfl (fun same => by cases same) rfl (by rw [stage]; rfl)

section
variable (s : Host) (id : Nat) (conn : Conn)

theorem remote_counted (registered : Registered s) (found : Table.get s.conns id = some conn)
    (remote : conn.connType = some .remote) (listed : conn.stage.listed = true) : 0 < s.remoteCount :=
  List.countP_pos_iff.mpr ⟨(id, .remote), (registered.listed id .remote).mpr ⟨conn, found, remote, listed⟩, rfl⟩

theorem orderly_remove (removing : conn.stage = .removing) (orderly : s.orderly id conn = true) :
    conn.connType ≠ some .remote ∨ s.authedConns.any (fun entry => decide (entry.1 ≠ id) && decide (entry.2 = .remote)) = true ∨
      s.running = false ∨ s.conns.any (fun entry => decide (entry.1 ≠ id) && entry.2.stage.stops) = true := by
  simp only [Host.orderly, removing, Bool.or_eq_true, Bool.not_eq_true', or_assoc] at orderly
  exact orderly.imp_left of_decide_eq_true

-- After a removal there still is a remote session, or the recorder is off, or a stop is ahead.
theorem remove_running (registered : Registered s)
    (running : s.running = true → 0 < s.remoteCount ∨ ∃ id conn, Table.get s.conns id = some conn ∧ conn.stage.stops = true)
    (found : Table.get s.conns id = some conn) (removing : conn.stage = .removing) (orderly : s.orderly id conn = true) (on : s.running = true) :
    0 < (s.authedConns.filter (fun entry => entry.1 ≠ id)).countP (fun entry => decide (entry.2 = .remote)) ∨
      ∃ other held, Table.get (Table.insert s.conns id { conn with stage := .counting }) other = some held ∧ held.stage.stops = true := by
  have remains : ∀ other, other ≠ id → (other, AuthConnType.remote) ∈ s.authedConns →
      0 < (s.authedConns.filter (fun entry => entry.1 ≠ id)).countP (fun entry => decide (entry.2 = .remote)) :=
    fun other apart member => List.countP_pos_iff.mpr ⟨(other, .remote), List.mem_filter.mpr ⟨member, decide_eq_true apart⟩, rfl⟩
  rcases orderly_remove s id conn removing orderly with unlike | left | off | ahead
  · rcases running on with some | ahead
    · left
      obtain ⟨⟨other, connType⟩, member, same⟩ := List.countP_pos_iff.mp some
      obtain rfl : connType = .remote := of_decide_eq_true same
      refine remains other ?_ member
      rintro rfl
      obtain ⟨held, again, typed, _⟩ := (registered.listed other .remote).mp member
      obtain rfl := Option.some.inj (found.symm.trans again)
      exact unlike typed
    · right
      refine Table.exists_insert (fun _ held => held.stage.stops = true) s.conns id _ ahead ?_
      intro held had stops
      obtain rfl := Option.some.inj (found.symm.trans had)
      rw [removing] at stops
      cases stops
  · left
    obtain ⟨⟨other, connType⟩, member, same⟩ := List.any_eq_true.mp left
    obtain ⟨apart, remote⟩ := Bool.and_eq_true_iff.mp same
    obtain rfl : connType = .remote := of_decide_eq_true remote
    exact remains other (of_decide_eq_true apart) member
  · cases off.symm.trans on
  · exact .inr (other_stays s.conns id _ (fun conn => conn.stage.stops) registered.keyed ahead)

end

theorem advance_recording (target : Target) (s next : Host) (id : Nat) (conn : Conn) (registered : Registered s) (recording : Recording target s)
    (found : Table.get s.conns id = some conn) (orderly : s.orderly id conn = true) (step : RecordStep target s id conn next) :
    Recording target next := by
  have each : ∀ (holds : Nat → Conn → Prop) (now : Conn), (∀ other held, other ≠ id → Table.get s.conns other = some held → holds other held) →
      holds id now → ∀ other held, Table.get (Table.insert s.conns id now) other = some held → holds other held :=
    fun holds now => Table.forall_insert holds s.conns id now
  have typed := registered.typed id conn found
  have immobile : conn.stage.starts = true → target.mobile = true → False := by
    intro starts mobile
    cases ((recording.mobile mobile).2 id conn found).symm.trans starts
  cases step with
  | aside _ stage conns running recorders authedConns apart starts stops =>
      have counts : next.remoteCount = s.remoteCount := by rw [Host.remoteCount, authedConns]; rfl
      refine ⟨?_, recorders ▸ recording.single, ?_, ?_⟩
      · rw [running, counts, conns]
        intro on
        rcases recording.running on with some | ahead
        · exact .inl some
        · by_cases stopping : conn.stage.stops = true
          · rcases stops stopping with still | some | mobile
            · exact .inr ⟨id, _, (Table.get_insert s.conns id id _).trans (if_pos rfl), still⟩
            · exact .inl some
            · cases (recording.mobile mobile).1.symm.trans on
          · right
            refine Table.exists_insert (fun _ held => held.stage.stops = true) s.conns id _ ahead ?_
            intro held had stops
            obtain rfl := Option.some.inj (found.symm.trans had)
            exact absurd stops stopping
      · rw [recorders, conns]
        exact each (fun _ held => held.stage = .spawning → s.recorders = 0) _ (fun other held _ => recording.spawning other held)
          (fun same => absurd same apart)
      · intro mobile
        rw [running, conns]
        refine ⟨(recording.mobile mobile).1, each (fun _ held => held.stage.starts = false) _ (fun other held _ => (recording.mobile mobile).2 other held) ?_⟩
        have idle := (recording.mobile mobile).2 id conn found
        cases starting : stage.starts with
        | false => rfl
        | true => cases idle.symm.trans (starts starting)
  | store stage =>
      have none : s.recorders = 0 := by simpa [Host.orderly, stage] using orderly
      refine ⟨fun _ => .inl ?_, recording.single, fun _ _ _ _ => none, fun mobile => (immobile (by rw [stage]; rfl) mobile).elim⟩
      exact remote_counted s id conn registered found (typed.remote (by rw [stage]; rfl)) (by rw [stage]; rfl)
  | spawn stage =>
      have none := recording.spawning id conn found stage
      have own := registered.locked id conn found (by rw [stage]; rfl)
      refine ⟨?_, ?_, ?_, fun mobile => (immobile (by rw [stage]; rfl) mobile).elim⟩
      · exact fun _ => .inl (remote_counted s id conn registered found (typed.remote (by rw [stage]; rfl)) (by rw [stage]; rfl))
      · exact Nat.le_of_eq (congrArg (· + 1) none)
      · refine each (fun _ held => held.stage = .spawning → _) _ ?_ (fun same => by cases same)
        intro other held apart had spawns
        have its := registered.locked other held had (by rw [spawns]; rfl)
        exact absurd (Option.some.inj (its.symm.trans own)) apart
  | stop stage =>
      refine ⟨(fun on => by cases on), recording.single, ?_, ?_⟩
      · exact each (fun _ held => held.stage = .spawning → s.recorders = 0) _ (fun other held _ => recording.spawning other held)
          (fun same => absurd same (exit_idle conn).1)
      · intro mobile
        refine ⟨rfl, each (fun _ held => held.stage.starts = false) _ (fun other held _ => (recording.mobile mobile).2 other held) ?_⟩
        have idle := (recording.mobile mobile).2 id conn found
        cases starting : conn.exit.starts with
        | false => rfl
        | true => cases idle.symm.trans ((exit_idle conn).2 starting)
  | remove stage =>
      refine ⟨remove_running s id conn registered recording.running found stage orderly, recording.single, ?_, ?_⟩
      · exact each (fun _ held => held.stage = .spawning → s.recorders = 0) _ (fun other held _ => recording.spawning other held)
          (fun same => by cases same)
      · exact fun mobile => ⟨(recording.mobile mobile).1,
          each (fun _ held => held.stage.starts = false) _ (fun other held _ => (recording.mobile mobile).2 other held) rfl⟩

-- A connection is added or goes on where neither the counts nor the recorder are touched.
theorem rested_recording (target : Target) (s next : Host) (id : Nat) (now : Conn) (recording : Recording target s)
    (conns : next.conns = Table.insert s.conns id now) (running : next.running = s.running) (recorders : next.recorders = s.recorders)
    (counts : 0 < s.remoteCount → 0 < next.remoteCount) (apart : now.stage ≠ .spawning) (starts : target.mobile = true → now.stage.starts = false)
    (stops : ∀ conn, Table.get s.conns id = some conn → conn.stage.stops = true → now.stage.stops = true) : Recording target next := by
  have each : ∀ holds : Nat → Conn → Prop, (∀ other held, Table.get s.conns other = some held → holds other held) → holds id now →
      ∀ other held, Table.get next.conns other = some held → holds other held := by
    rw [conns]
    exact fun holds old => Table.forall_insert holds s.conns id now (fun other held _ => old other held)
  refine ⟨?_, recorders ▸ recording.single, ?_, ?_⟩
  · rw [running, conns]
    exact fun on => (recording.running on).imp counts (fun ahead => Table.exists_insert (fun _ held => held.stage.stops = true) s.conns id now ahead stops)
  · rw [recorders]
    exact each (fun _ held => held.stage = .spawning → s.recorders = 0) recording.spawning (fun same => absurd same apart)
  · intro mobile
    rw [running]
    exact ⟨(recording.mobile mobile).1, each (fun _ held => held.stage.starts = false) (recording.mobile mobile).2 (starts mobile)⟩

theorem rested_owes (conn : Conn) (rested : conn.stage = .unauthorized ∨ conn.stage = .authorized) : conn.owes = false := by
  rcases rested with waits | serves
  · rw [Conn.owes, waits]
  · rw [Conn.owes, serves]

theorem rested_stops (conn : Conn) (rested : conn.stage = .unauthorized ∨ conn.stage = .authorized) : conn.stage.stops = false := by
  rcases rested with waits | serves
  · rw [waits]
    rfl
  · rw [serves]
    rfl

section
variable (target : Target) (s : Host)

-- A connection at rest begins something.
theorem rested_steady (id : Nat) (conn now : Conn) (steady : Steady target s) (found : Table.get s.conns id = some conn)
    (rested : conn.stage = .unauthorized ∨ conn.stage = .authorized) (fresh : ∀ check, now.stage.check = some check → check = .conns)
    (apart : now.stage ≠ .spawning) (starts : target.mobile = true → now.stage.starts = false) :
    Sending { s with conns := Table.insert s.conns id now } ∧ Recording target { s with conns := Table.insert s.conns id now } := by
  constructor
  · refine plain_sending s _ id conn now steady.sending found ⟨rfl, rfl, rfl, rfl, ?_, fresh⟩
    intro owes
    cases (rested_owes conn rested).symm.trans owes
  · refine rested_recording target s _ id now steady.recording rfl rfl rfl (fun some => some) apart starts ?_
    intro held had stops
    obtain rfl := Option.some.inj (found.symm.trans had)
    cases (rested_stops conn rested).symm.trans stops

theorem accept_steady (steady : Steady target s) : Sending { s with conns := Table.insert s.conns (s.idCount + 1) {}, idCount := s.idCount + 1 } ∧
      Recording target { s with conns := Table.insert s.conns (s.idCount + 1) {}, idCount := s.idCount + 1 } := by
  have unknown : ∀ conn, Table.get s.conns (s.idCount + 1) ≠ some conn :=
    fun conn had => absurd (steady.registered.counted _ conn had) (by omega)
  refine ⟨⟨?_, ?_⟩, ?_⟩
  · intro other held had check is
    refine sound_same s _ check rfl rfl ?_
    exact Table.forall_insert (fun _ held => ∀ check, held.stage.check = some check → check.Sound s) s.conns _ {}
      (fun other held _ => steady.sending.checks other held) (fun _ is => by cases is) other held had check is
  · exact steady.sending.sent.imp_right (fun ahead => Table.exists_insert (fun _ held => held.owes = true) s.conns _ {} ahead
      (fun held had => absurd had (unknown held)))
  · exact rested_recording target s _ _ {} steady.recording rfl rfl rfl (fun some => some) (by decide) (fun _ => rfl)
      (fun held had => absurd had (unknown held))

theorem authorize_steady (id : Nat) (conn : Conn) (connType : AuthConnType) (steady : Steady target s)
    (found : Table.get s.conns id = some conn) (waits : conn.stage = .unauthorized) :
    let next := { s with authedConns := s.authedConns ++ [(id, connType)], changes := s.changes + 1 }.enter id
      { conn with connType := some connType } (.opening .conns)
    Sending next ∧ Recording target next := by
  refine ⟨changed_sending s _ id _ steady.sending rfl rfl rfl (fun _ is => (Option.some.inj is).symm), ?_⟩
  refine rested_recording target s _ id _ steady.recording rfl rfl rfl ?_ (fun same => by cases same) (fun _ => rfl) ?_
  · intro some
    exact Nat.lt_of_lt_of_le some (List.Sublist.countP_le (List.sublist_append_left _ _))
  · intro held had stops
    obtain rfl := Option.some.inj (found.symm.trans had)
    cases (rested_stops conn (.inl waits)).symm.trans stops

theorem steady_step (label : Label) (next : Host) (steady : Steady target s) (fits : Orderly s label)
    (taken : s.step target label = some next) : Steady target next := by
  have registered := registered_step target s next label steady.registered taken
  suffices kept : Sending next ∧ Recording target next from ⟨registered, kept.1, kept.2⟩
  cases label with
  | accept =>
      obtain rfl := Option.some.inj taken
      exact accept_steady target s steady
  | authorize id connType =>
      obtain ⟨conn, found, taken⟩ := Option.bind_eq_some_iff.mp taken
      obtain ⟨waits, rfl⟩ := Option.ite_some_none_eq_some.mp taken
      exact authorize_steady target s id conn connType steady found waits
  | recheck id =>
      obtain ⟨conn, found, taken⟩ := Option.bind_eq_some_iff.mp taken
      obtain ⟨rested, rfl⟩ := Option.ite_some_none_eq_some.mp taken
      exact rested_steady target s id conn _ steady found rested (fun _ is => (Option.some.inj is).symm) (fun same => by cases same) (fun _ => rfl)
  | subscribe id =>
      obtain ⟨conn, found, taken⟩ := Option.bind_eq_some_iff.mp taken
      obtain ⟨⟨serves, _, _, desktop⟩, rfl⟩ := Option.ite_some_none_eq_some.mp taken
      exact rested_steady target s id conn _ steady found (.inr serves) (fun _ is => by cases is) (fun same => by cases same)
        (fun mobile => by cases desktop.symm.trans mobile)
  | leave id =>
      obtain ⟨conn, found, taken⟩ := Option.bind_eq_some_iff.mp taken
      obtain ⟨rested, rfl⟩ := Option.ite_some_none_eq_some.mp taken
      exact rested_steady target s id conn _ steady found rested (fun _ is => by cases is) (fun same => by cases same) (fun _ => rfl)
  | advance id =>
      obtain ⟨conn, found, taken⟩ := Option.bind_eq_some_iff.mp taken
      have orderly : s.orderly id conn = true := by simpa [Orderly, found] using fits
      exact ⟨advance_sending target s next id conn steady.sending steady.registered.keyed found orderly taken,
        advance_recording target s next id conn steady.registered steady.recording found orderly (advance_records target s next id conn taken)⟩
  | poll =>
      obtain ⟨⟨some, off⟩, rfl⟩ := Option.ite_some_none_eq_some.mp taken
      obtain ⟨sending, recording⟩ := And.intro steady.sending steady.recording
      refine ⟨⟨?_, sending.sent⟩, recording.running, Nat.le_trans (Nat.sub_le _ _) recording.single, ?_, recording.mobile⟩
      · exact fun other held had check is => sound_same s _ check rfl rfl (sending.checks other held had check is)
      · intro id conn found spawns
        rw [recording.spawning id conn found spawns]

end

theorem steady_init (target : Target) : Steady target {} :=
  ⟨registered_init, ⟨(fun _ _ found => by cases found), .inl rfl⟩,
    ⟨(fun on => by cases on), Nat.zero_le _, (fun _ _ found => by cases found), fun _ => ⟨rfl, fun _ _ found => by cases found⟩⟩⟩

-- In every run whose steps are orderly, the pair sent and the recorder follow the sessions
-- whenever no connection is in the middle of something.
theorem sessions_followed (target : Target) (past : List (Host × Label)) (s : Host) (traced : Machine.Traced (Host.step target) {} past s)
    (fitting : ∀ entry ∈ past, Orderly entry.1 entry.2) (quiet : Quiet s) : Follow s :=
  steady_follows target s (Machine.traced_kept (Host.step target) (Steady target) Orderly {} s past (steady_init target) (steady_step target)
    traced fitting).2 quiet

theorem all_quiet (s : Host) (all : s.conns.all (fun entry => entry.2.stage.quiet) = true) : Quiet s :=
  fun id conn found => List.all_eq_true.mp all (id, conn) (Table.mem_of_get s.conns id conn found)

def recordedSession (id : Nat) : List Label :=
  [.accept, .authorize id .remote] ++ List.replicate 4 (.advance id) ++ [.subscribe id] ++ List.replicate 3 (.advance id)

-- A remote session is removed while the stop of a file transfer is still ahead.
def stopsInTurn : List Label :=
  recordedSession 1 ++ [.accept, .authorize 2 .fileTransfer] ++ List.replicate 4 (.advance 2) ++ [.leave 1] ++ List.replicate 3 (.advance 1) ++
    [.leave 2] ++ List.replicate 7 (.advance 1) ++ List.replicate 9 (.advance 2) ++ [.poll] ++ List.replicate 2 (.advance 2)

theorem stops_in_turn_runs : (Machine.run (Host.step .macos) {} stopsInTurn).isSome = true := by decide

theorem sessions_followed_in_turn : Follow ((Machine.run (Host.step .macos) {} stopsInTurn).get stops_in_turn_runs) :=
  sessions_followed .macos _ _ (Machine.traced_run (Host.step .macos) {} stopsInTurn stops_in_turn_runs) (by decide) (all_quiet _ (by decide))

-- The first connection sends the counts it read before the second was registered.
def sendsLate : List Label :=
  [.accept, .accept, .authorize 1 .remote] ++ List.replicate 2 (.advance 1) ++ [.authorize 2 .fileTransfer] ++ List.replicate 4 (.advance 2) ++
    List.replicate 2 (.advance 1)

def endsAlone : List Label := recordedSession 1 ++ [.leave 1] ++ List.replicate 10 (.advance 1)

-- An unauthorized connection stops the recorder, and another session starts one before the
-- first has seen it.
def startsAgain : List Label := endsAlone ++ [.accept, .leave 2] ++ List.replicate 3 (.advance 2) ++ recordedSession 3

theorem sends_late_runs : (Machine.run (Host.step .macos) {} sendsLate).isSome = true := by decide

theorem ends_alone_runs : (Machine.run (Host.step .macos) {} endsAlone).isSome = true := by decide

theorem starts_again_runs : (Machine.run (Host.step .macos) {} startsAgain).isSome = true := by decide

theorem sessions_outlived :
    (∃ s, Machine.Reachable (Host.step .macos) {} s ∧ Quiet s ∧ s.sent = some (1, 1) ∧ s.counts = (2, 1)) ∧
    (∃ s, Machine.Reachable (Host.step .macos) {} s ∧ Quiet s ∧ s.remoteCount = 0 ∧ s.running = true) ∧
    ∃ s, Machine.Reachable (Host.step .macos) {} s ∧ Quiet s ∧ s.running = true ∧ s.recorders = 2 :=
  ⟨⟨_, Machine.reachable_run _ _ _ sends_late_runs, all_quiet _ (by decide), by decide, by decide⟩,
    ⟨_, Machine.reachable_run _ _ _ ends_alone_runs, all_quiet _ (by decide), by decide, by decide⟩,
    ⟨_, Machine.reachable_run _ _ _ starts_again_runs, all_quiet _ (by decide), by decide, by decide⟩⟩

end GotechDesk.AuthedConns
