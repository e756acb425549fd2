import GotechDesk.Machine
import GotechDesk.Table

set_option autoImplicit false

namespace GotechDesk.DisplayService

-- `new` and `subscribed` are the connections in the service's maps `new_subscribes` and
-- `subscribes`.
inductive Place where
  | loggedIn
  | new
  | subscribed
  | left
deriving DecidableEq, Repr

section
variable (D : Type)

-- `given` is the last list the connection was given, `since` how often SYNC_DISPLAYS.displays had
-- changed at its login.
structure Viewer where
  given : List D
  since : Nat
  place : Place := .loggedIn
deriving DecidableEq, Repr

-- Where the service's loop stands; from `asking` to `swapping` it is in `snapshot`, whose
-- callback may bail.
inductive Stage where
  | idle
  | snapshot
  | asking
  | looking
  | unsyncing
  | swapping (bail : Bool)
  | checking
  | getting
  | sending (displays : List D)
deriving DecidableEq, Repr

-- `displays` and `isSynced` are SYNC_DISPLAYS, `ignore` is TEMP_IGNORE_DISPLAYS_CHANGED. A guard
-- of it is first held; when dropped it clears the flag, is released, and asks for a resend.
structure Host where
  displays : List D := []
  isSynced : Bool := false
  changes : Nat := 0
  ignore : Bool := false
  held : Nat := 0
  released : Nat := 0
  viewers : List (Nat × Viewer D) := []
  stage : Stage D := .idle
deriving DecidableEq, Repr

-- What the service's check finds: no list, none to compare, or one.
inductive Enumerated where
  | failed
  | skipped
  | found (displays : List D)
deriving DecidableEq, Repr

-- On Wayland the login's list comes from the capturer, and initializing that updates the displays.
inductive Label where
  | login (id : Nat) (displays : List D)
  | loginWayland (id : Nat) (initialized : Option (List D)) (given : List D)
  | subscribe (id : Nat)
  | unsubscribe (id : Nat)
  | changed (displays : List D)
  | ignoreChanges
  | release
  | resend
  | serve
  | check (found : Enumerated D)
deriving DecidableEq, Repr

end

section
variable {D : Type} [DecidableEq D]

def Host.checkChanged (s : Host D) (displays : List D) : Host D :=
  if s.displays = displays then s
  else { s with displays, changes := s.changes + 1, isSynced := if s.ignore then s.isSynced else false }

def Host.seat (s : Host D) (id : Nat) (given : List D) : Host D :=
  { s with viewers := Table.insert s.viewers id { given, since := s.changes } }

def Host.any (s : Host D) (place : Place) : Bool := s.viewers.any (fun entry => decide (entry.2.place = place))

-- HashMap's `drain` into the other map.
def Host.swapNewSubscribes (s : Host D) : Host D :=
  { s with viewers := Table.mapValues s.viewers (fun _ viewer => if viewer.place = .new then { viewer with place := .subscribed } else viewer) }

def Host.sendShared (s : Host D) (displays : List D) : Host D :=
  { s with viewers := Table.mapValues s.viewers (fun _ viewer => if viewer.place = .subscribed then { viewer with given := displays } else viewer) }

-- The next step of the service's loop but for its check.
def Host.serve (s : Host D) : Option (Host D) :=
  match s.stage with
  | .idle => if s.any .subscribed || s.any .new then some { s with stage := .snapshot } else none
  | .snapshot => some { s with stage := if s.any .new then .asking else .checking }
  | .asking => some { s with stage := if s.ignore then .swapping false else .looking }
  | .looking => some { s with stage := if s.any .subscribed then .unsyncing else .swapping false }
  | .unsyncing => some { s with isSynced := false, stage := .swapping true }
  | .swapping bail => some { s.swapNewSubscribes with stage := if bail then .idle else .checking }
  | .checking => none
  | .getting => some (if s.isSynced then { s with stage := .idle } else { s with isSynced := true, stage := .sending s.displays })
  | .sending displays => some { s.sendShared displays with stage := .idle }

def Host.check (s : Host D) : Enumerated D → Host D
  | .failed => { s with stage := .idle }
  | .skipped => { s with stage := .getting }
  | .found displays => { s.checkChanged displays with stage := .getting }

def Host.move (s : Host D) (id : Nat) (viewer : Viewer D) (place : Place) : Host D :=
  { s with viewers := Table.insert s.viewers id { viewer with place } }

def Host.step (s : Host D) : Label D → Option (Host D)
  | .login id displays => if (Table.get s.viewers id).isNone then some ((s.checkChanged displays).seat id displays) else none
  | .loginWayland id initialized given =>
      if (Table.get s.viewers id).isNone then some ((initialized.elim s s.checkChanged).seat id given) else none
  | .subscribe id => (Table.get s.viewers id).bind (fun viewer =>
      if viewer.place = .loggedIn then some (s.move id viewer .new) else none)
  | .unsubscribe id => (Table.get s.viewers id).bind (fun viewer =>
      if viewer.place = .new ∨ viewer.place = .subscribed then some (s.move id viewer .left) else none)
  | .changed displays => some (s.checkChanged displays)
  | .ignoreChanges => some { s with ignore := true, held := s.held + 1 }
  | .release => if 0 < s.held then some { s with ignore := false, held := s.held - 1, released := s.released + 1 } else none
  | .resend => if 0 < s.released then some { s with isSynced := false, released := s.released - 1 } else none
  | .serve => s.serve
  | .check found => if s.stage = .checking then some (s.check found) else none

-- Every subscribed connection has the current list.
def Current (s : Host D) : Prop :=
  ∀ id viewer, Table.get s.viewers id = some viewer → viewer.place = .subscribed → viewer.given = s.displays

-- Synced, and no guard is active.
def Settled (s : Host D) : Prop := s.isSynced = true ∧ s.held = 0 ∧ s.released = 0

instance (s : Host D) : Decidable (Settled s) := inferInstanceAs (Decidable (_ ∧ _ ∧ _))

def Stage.swaps : Stage D → Bool
  | .swapping _ => true
  | _ => false

-- When new subscribers are taken in with nothing to be sent again, the displays are those of
-- their logins; a login on Wayland is given the displays.
def Timely (s : Host D) : Label D → Prop
  | .serve => s.stage.swaps = true → Settled s → s.viewers.all (fun entry => decide (entry.2.place = .new → entry.2.since = s.changes)) = true
  | .loginWayland _ initialized given => given = initialized.elim s.displays id
  | _ => True

instance (s : Host D) (label : Label D) : Decidable (Timely s label) :=
  match label with
  | .serve => inferInstanceAs (Decidable (s.stage.swaps = true → Settled s →
      s.viewers.all (fun entry => decide (entry.2.place = .new → entry.2.since = s.changes)) = true))
  | .loginWayland _ initialized given => inferInstanceAs (Decidable (given = initialized.elim s.displays id))
  | .login _ _ | .subscribe _ | .unsubscribe _ | .changed _ | .ignoreChanges | .release | .resend | .check _ => inferInstanceAs (Decidable True)

structure Tracked (s : Host D) : Prop where
  guarded : s.ignore = true → 0 < s.held
  past : ∀ id viewer, Table.get s.viewers id = some viewer → viewer.since ≤ s.changes
  waiting : ∀ id viewer, Table.get s.viewers id = some viewer → viewer.place = .loggedIn ∨ viewer.place = .new → viewer.since = s.changes →
    viewer.given = s.displays
  current : Settled s → (∀ displays, s.stage ≠ .sending displays) → Current s
  sending : Settled s → ∀ displays, s.stage = .sending displays → displays = s.displays

section
variable (s : Host D) (displays : List D)

theorem check_changed_displays : (s.checkChanged displays).displays = displays := by
  rw [Host.checkChanged]
  split
  · assumption
  · rfl

theorem check_changed_tracked (tracked : Tracked s) : Tracked (s.checkChanged displays) := by
  rw [Host.checkChanged]
  by_cases same : s.displays = displays
  · rw [if_pos same]
    exact tracked
  · rw [if_neg same]
    -- a change seen while the flag is set is one that a guard still holds back
    have unsettled : ¬ Settled { s with displays, changes := s.changes + 1, isSynced := if s.ignore then s.isSynced else false } := by
      rintro ⟨synced, held, _⟩
      by_cases ignore : s.ignore = true
      · have guard := tracked.guarded ignore
        dsimp only at held
        omega
      · simp [ignore] at synced
    refine ⟨tracked.guarded, ?_, ?_, fun settled => absurd settled unsettled, fun settled => absurd settled unsettled⟩
    · exact fun id viewer found => Nat.le_succ_of_le (tracked.past id viewer found)
    · intro id viewer found _ since
      have past := tracked.past id viewer found
      dsimp only at since
      omega

theorem check_changed_guards : (s.checkChanged displays).viewers = s.viewers ∧ (s.checkChanged displays).stage = s.stage := by
  rw [Host.checkChanged]
  split
  · exact ⟨rfl, rfl⟩
  · exact ⟨rfl, rfl⟩

end

omit [DecidableEq D] in
-- One viewer is written, with the current list while it waits, and not as a subscriber.
theorem written_tracked (s : Host D) (id : Nat) (viewer : Viewer D) (tracked : Tracked s) (past : viewer.since ≤ s.changes)
    (waiting : viewer.place = .loggedIn ∨ viewer.place = .new → viewer.since = s.changes → viewer.given = s.displays)
    (aside : viewer.place ≠ .subscribed) : Tracked { s with viewers := Table.insert s.viewers id viewer } := by
  have each : ∀ holds : Viewer D → Prop, (∀ other held, Table.get s.viewers other = some held → holds held) → holds viewer →
      ∀ other held, Table.get (Table.insert s.viewers id viewer) other = some held → holds held :=
    fun holds old => Table.forall_insert (fun _ held => holds held) s.viewers id viewer (fun other held _ had => old other held had)
  refine ⟨tracked.guarded, ?_, ?_, ?_, tracked.sending⟩
  · exact each (fun held => held.since ≤ s.changes) tracked.past past
  · exact each (fun held => held.place = .loggedIn ∨ held.place = .new → held.since = s.changes → held.given = s.displays) tracked.waiting waiting
  · exact fun settled unsent => each (fun held => held.place = .subscribed → held.given = s.displays) (tracked.current settled unsent)
      (fun subscribed => absurd subscribed aside)

omit [DecidableEq D] in
-- The loop goes on, and nobody has been sent anything or is about to be.
theorem stage_tracked (s : Host D) (stage : Stage D) (tracked : Tracked s) (unsent : ∀ displays, s.stage ≠ .sending displays)
    (quiet : ∀ displays, stage ≠ .sending displays) : Tracked { s with stage } :=
  { tracked with current := fun settled _ => tracked.current settled unsent, sending := fun _ displays is => absurd is (quiet displays) }

omit [DecidableEq D] in
theorem unsynced_tracked (s next : Host D) (tracked : Tracked s) (unsettled : ¬ Settled next) (guarded : next.ignore = true → 0 < next.held)
    (same : next.viewers = s.viewers ∧ next.changes = s.changes ∧ next.displays = s.displays) : Tracked next := by
  obtain ⟨viewers, changes, displays⟩ := same
  refine ⟨guarded, ?_, ?_, fun settled => absurd settled unsettled, fun settled => absurd settled unsettled⟩
  · rw [viewers, changes]
    exact tracked.past
  · rw [viewers, changes, displays]
    exact tracked.waiting

omit [DecidableEq D] in
theorem swap_tracked (s : Host D) (stage : Stage D) (tracked : Tracked s) (unsent : ∀ displays, s.stage ≠ .sending displays)
    (quiet : ∀ displays, stage ≠ .sending displays)
    (timely : Settled s → ∀ id viewer, Table.get s.viewers id = some viewer → viewer.place = .new → viewer.since = s.changes) :
    Tracked { s.swapNewSubscribes with stage } := by
  have swapped : ∀ id viewer, Table.get s.swapNewSubscribes.viewers id = some viewer → ∃ old, Table.get s.viewers id = some old ∧
      viewer = if old.place = .new then { old with place := .subscribed } else old := by
    intro id viewer found
    rw [Host.swapNewSubscribes, Table.get_map_values] at found
    obtain ⟨old, had, rfl⟩ := Option.map_eq_some_iff.mp found
    exact ⟨old, had, rfl⟩
  refine ⟨tracked.guarded, ?_, ?_, ?_, fun _ displays is => absurd is (quiet displays)⟩
  · intro id viewer found
    obtain ⟨old, had, rfl⟩ := swapped id viewer found
    split
    · exact tracked.past id old had
    · exact tracked.past id old had
  · intro id viewer found
    obtain ⟨old, had, rfl⟩ := swapped id viewer found
    split
    · rintro (place | place)
      · cases place
      · cases place
    · exact tracked.waiting id old had
  · intro settled _ id viewer found
    obtain ⟨old, had, rfl⟩ := swapped id viewer found
    by_cases new : old.place = .new
    · rw [if_pos new]
      exact fun _ => tracked.waiting id old had (.inr new) (timely settled id old had new)
    · rw [if_neg new]
      exact tracked.current settled unsent id old had

omit [DecidableEq D] in
theorem send_tracked (s : Host D) (displays : List D) (tracked : Tracked s) (sends : s.stage = .sending displays) :
    Tracked { s.sendShared displays with stage := .idle } := by
  have sent : ∀ id viewer, Table.get (s.sendShared displays).viewers id = some viewer → ∃ old, Table.get s.viewers id = some old ∧
      viewer = if old.place = .subscribed then { old with given := displays } else old := by
    intro id viewer found
    rw [Host.sendShared, Table.get_map_values] at found
    obtain ⟨old, had, rfl⟩ := Option.map_eq_some_iff.mp found
    exact ⟨old, had, rfl⟩
  refine ⟨tracked.guarded, ?_, ?_, ?_, fun _ _ is => by cases is⟩
  · intro id viewer found
    obtain ⟨old, had, rfl⟩ := sent id viewer found
    split
    · exact tracked.past id old had
    · exact tracked.past id old had
  · intro id viewer found
    obtain ⟨old, had, rfl⟩ := sent id viewer found
    by_cases subscribed : old.place = .subscribed
    · rw [if_pos subscribed]
      dsimp only
      rw [subscribed]
      rintro (place | place)
      · cases place
      · cases place
    · rw [if_neg subscribed]
      exact tracked.waiting id old had
  · intro settled _ id viewer found
    obtain ⟨old, had, rfl⟩ := sent id viewer found
    by_cases subscribed : old.place = .subscribed
    · rw [if_pos subscribed]
      exact fun _ => tracked.sending settled displays sends
    · rw [if_neg subscribed]
      exact fun place => absurd place subscribed

omit [DecidableEq D] in
theorem serve_tracked (s next : Host D) (tracked : Tracked s) (timely : Timely s .serve) (taken : s.serve = some next) : Tracked next := by
  cases stage : s.stage with
  | idle =>
      simp only [Host.serve, stage] at taken
      obtain ⟨_, rfl⟩ := Option.ite_some_none_eq_some.mp taken
      exact stage_tracked s .snapshot tracked (fun _ is => by cases stage.symm.trans is) (fun _ is => by cases is)
  | snapshot | asking | looking =>
      simp only [Host.serve, stage, Option.some.injEq] at taken
      subst taken
      refine stage_tracked s _ tracked (fun _ is => by cases stage.symm.trans is) ?_
      split
      · exact fun _ is => by cases is
      · exact fun _ is => by cases is
  | unsyncing =>
      simp only [Host.serve, stage, Option.some.injEq] at taken
      subst taken
      exact unsynced_tracked s _ tracked (fun settled => by cases settled.1) tracked.guarded ⟨rfl, rfl, rfl⟩
  | swapping bail =>
      simp only [Host.serve, stage, Option.some.injEq] at taken
      subst taken
      refine swap_tracked s _ tracked (fun _ is => by cases stage.symm.trans is) ?_ ?_
      · split
        · exact fun _ is => by cases is
        · exact fun _ is => by cases is
      · intro settled id viewer found new
        have all := timely (by rw [stage]; rfl) settled
        exact of_decide_eq_true (List.all_eq_true.mp all (id, viewer) (Table.mem_of_get s.viewers id viewer found)) new
  | checking => simp [Host.serve, stage] at taken
  | getting =>
      simp only [Host.serve, stage, Option.some.injEq] at taken
      subst taken
      by_cases synced : s.isSynced = true
      · rw [if_pos synced]
        exact stage_tracked s .idle tracked (fun _ is => by cases stage.symm.trans is) (fun _ is => by cases is)
      · rw [if_neg synced]
        exact { tracked with current := (fun _ quiet => absurd rfl (quiet s.displays)), sending := fun _ displays is => (Stage.sending.inj is).symm }
  | sending displays =>
      simp only [Host.serve, stage, Option.some.injEq] at taken
      subst taken
      exact send_tracked s displays tracked stage

omit [DecidableEq D] in
theorem seat_tracked (s : Host D) (id : Nat) (given : List D) (tracked : Tracked s) (current : given = s.displays) : Tracked (s.seat id given) :=
  written_tracked s id { given, since := s.changes } tracked (Nat.le_refl _) (fun _ _ => current) (fun place => by cases place)

theorem step_tracked (s : Host D) (label : Label D) (next : Host D) (tracked : Tracked s) (timely : Timely s label)
    (taken : s.step label = some next) : Tracked next := by
  cases label with
  | login id displays =>
      obtain ⟨_, rfl⟩ := Option.ite_some_none_eq_some.mp taken
      exact seat_tracked _ id displays (check_changed_tracked s displays tracked) (check_changed_displays s displays).symm
  | loginWayland id initialized given =>
      obtain ⟨_, rfl⟩ := Option.ite_some_none_eq_some.mp taken
      cases initialized with
      | none => exact seat_tracked s id given tracked timely
      | some displays => exact seat_tracked _ id given (check_changed_tracked s displays tracked) (timely.trans (check_changed_displays s displays).symm)
  | subscribe id =>
      obtain ⟨viewer, found, taken⟩ := Option.bind_eq_some_iff.mp taken
      obtain ⟨place, rfl⟩ := Option.ite_some_none_eq_some.mp taken
      exact written_tracked s id { viewer with place := .new } tracked (tracked.past id viewer found)
        (fun _ => tracked.waiting id viewer found (.inl place)) (fun place => by cases place)
  | unsubscribe id =>
      obtain ⟨viewer, found, taken⟩ := Option.bind_eq_some_iff.mp taken
      obtain ⟨_, rfl⟩ := Option.ite_some_none_eq_some.mp taken
      refine written_tracked s id { viewer with place := .left } tracked (tracked.past id viewer found) ?_ (fun place => by cases place)
      rintro (place | place)
      · cases place
      · cases place
  | changed displays =>
      obtain rfl := Option.some.inj taken
      exact check_changed_tracked s displays tracked
  | ignoreChanges =>
      obtain rfl := Option.some.inj taken
      exact unsynced_tracked s _ tracked (fun settled => by cases settled.2.1) (fun _ => Nat.succ_pos _) ⟨rfl, rfl, rfl⟩
  | release =>
      obtain ⟨_, rfl⟩ := Option.ite_some_none_eq_some.mp taken
      exact unsynced_tracked s _ tracked (fun settled => by cases settled.2.2) (fun ignore => by cases ignore) ⟨rfl, rfl, rfl⟩
  | resend =>
      obtain ⟨_, rfl⟩ := Option.ite_some_none_eq_some.mp taken
      exact unsynced_tracked s _ tracked (fun settled => by cases settled.1) tracked.guarded ⟨rfl, rfl, rfl⟩
  | serve => exact serve_tracked s next tracked timely taken
  | check found =>
      obtain ⟨checking, rfl⟩ := Option.ite_some_none_eq_some.mp taken
      have unsent : ∀ displays, s.stage ≠ .sending displays := fun _ is => by cases checking.symm.trans is
      cases found with
      | failed => exact stage_tracked s .idle tracked unsent (fun _ is => by cases is)
      | skipped => exact stage_tracked s .getting tracked unsent (fun _ is => by cases is)
      | found displays =>
          have same := (check_changed_guards s displays).2
          exact stage_tracked _ .getting (check_changed_tracked s displays tracked) (fun list is => unsent list (same.symm.trans is))
            (fun _ is => by cases is)

omit [DecidableEq D] in
theorem tracked_init : Tracked ({} : Host D) :=
  ⟨(fun ignore => by cases ignore), (fun _ _ found => by cases found), (fun _ _ found => by cases found), (fun settled => by cases settled.1),
    fun settled => by cases settled.1⟩

-- In every run whose steps are all timely, every subscriber has the current list whenever it
-- counts as sent and the service is between two iterations.
theorem viewers_current (past : List (Host D × Label D)) (s : Host D) (traced : Machine.Traced Host.step {} past s)
    (fitting : ∀ entry ∈ past, Timely entry.1 entry.2) (between : s.stage = .idle) (settled : Settled s) : Current s := by
  have tracked := (Machine.traced_kept Host.step Tracked Timely {} s past tracked_init step_tracked traced fitting).2
  exact tracked.current settled (fun _ is => by cases between.symm.trans is)

end

-- The service takes in whoever is new and checks.
def takesIn (displays : List Nat) : List (Label Nat) := List.replicate 5 .serve ++ [.check (.found displays), .serve, .serve]

-- A guard is held while the first viewer is subscribed; the second logs in before a change and
-- subscribes after it, with the first still there.
def changedBetween : List (Label Nat) :=
  [.ignoreChanges, .login 1 [1], .subscribe 1, .release, .resend] ++ takesIn [1] ++ [.login 2 [1], .changed [1, 2], .serve, .serve,
    .check (.found [1, 2]), .serve, .serve]

def staysOn : List (Label Nat) :=
  changedBetween ++ [.subscribe 2] ++ List.replicate 6 .serve ++ [.serve, .serve, .check (.found [1, 2]), .serve, .serve]

theorem stays_on_runs : (Machine.run Host.step {} staysOn).isSome = true := by decide

theorem viewers_current_both : Current ((Machine.run Host.step {} staysOn).get stays_on_runs) :=
  viewers_current _ _ (Machine.traced_run Host.step {} staysOn stays_on_runs) (by decide) (by decide) (by decide)

-- Here the first viewer has left.
def leavesEarly : List (Label Nat) :=
  changedBetween ++ [.unsubscribe 1, .subscribe 2] ++ List.replicate 5 .serve ++ [.check (.found [1, 2]), .serve]

theorem leaves_early_runs : (Machine.run Host.step {} leavesEarly).isSome = true := by decide

theorem viewer_outdated : ∃ s : Host Nat, Machine.Reachable Host.step {} s ∧ s.stage = .idle ∧ Settled s ∧ ¬ Current s := by
  refine ⟨(Machine.run Host.step {} leavesEarly).get leaves_early_runs, Machine.reachable_run _ _ _ leaves_early_runs, by decide, by decide, ?_⟩
  intro current
  exact absurd (current 2 ⟨[1], 1, .subscribed⟩ (by decide) rfl) (by decide)

end GotechDesk.DisplayService
