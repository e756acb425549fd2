import GotechDesk.Ipc.ParentDir

set_option autoImplicit false

namespace GotechDesk.Ipc

section
variable (uid : Nat) (service : Bool)

-- The run has a scrub to do that the next run will not see from the owner and the mode.
def Host.owes (s : Host) : Phase → Bool
  | .restatting fd => (Table.get s.dirs fd).any (fun d => decide (d.mode = expectedIpcParentMode service))
  | .probing scrub | .clearing scrub => scrub
  | .scrubbing | .scrubbingPid _ => true
  | _ => false

-- The run ends here, or goes on without a scrub.
def Phase.skips : Phase → Outcome → Bool
  | .probing _, .alive | .restatting _, .failed | .scrubbing, .failed | .scrubbingPid _, .failed => true
  | _, _ => false

def Host.clean (s : Host) : Bool := (s.dirAt s.opens).all (fun found => found.2.clean uid)

def Phase.adopts : Phase → Outcome → Option Nat
  | .adopting fd, .done => some fd
  | _, _ => none

def Host.keeps (s : Host) (phase : Phase) (outcome : Outcome) : Bool :=
  (phase.adopts outcome).all (fun fd => decide (s.parent = .dir fd)) && (!(phase.skips outcome && s.owes service phase) || s.clean uid)

-- Runs do not overlap; a directory is adopted while the path still names it; and a scrub is
-- skipped only where no entry is another user's.
def Kept (s : Host) : Label → Prop
  | .start _ => s.runs.all (fun entry => entry.2.over) = true
  | .advance run outcome => (Table.get s.runs run).all (fun phase => s.keeps uid service phase outcome) = true
  | .crash run => (Table.get s.runs run).all (fun phase => !s.owes service phase || s.clean uid) = true
  | _ => True

instance (s : Host) (label : Label) : Decidable (Kept uid service s label) :=
  match label with
  | .start _ => inferInstanceAs (Decidable (s.runs.all (fun entry => entry.2.over) = true))
  | .advance run outcome => inferInstanceAs (Decidable ((Table.get s.runs run).all (fun phase => s.keeps uid service phase outcome) = true))
  | .crash run => inferInstanceAs (Decidable ((Table.get s.runs run).all (fun phase => !s.owes service phase || s.clean uid) = true))
  | .makeDir _ _ | .makeOther _ _ | .moveAway _ | .moveBack _ _ | .chmod _ _ _ | .plant _ _ _ _ | .unplant _ _ _ => inferInstanceAs (Decidable True)

-- What a run under way can count on.
def Host.Stands (s : Host) : Phase → Prop
  | .restatting fd => ∃ d, Table.get s.dirs fd = some d ∧ d.owner = uid
  | .repairing fd => ∃ d, Table.get s.dirs fd = some d ∧ d.owner = uid ∧ d.mode ≠ expectedIpcParentMode service
  | .probing _ | .clearing _ | .scrubbing | .binding => ∃ inode, s.Holds uid service inode (fun _ => True)
  | .scrubbingPid fd => s.Holds uid service fd (fun d => d.ipc = none)
  | .permitting bound | .writing bound => ∃ inode, s.Holds uid service inode (fun d => d.Bound uid bound)
  | _ => True

-- A parent in order has no entry of another user.
def Host.InOrder (s : Host) : Prop := ∀ inode, s.Holds uid service inode (fun d => d.clean uid = false) → False

structure Guarded (s : Host) : Prop where
  own : ∀ inode d, Table.get s.dirs inode = some d → d.owner = uid → s.parent = .dir inode
  counted : ∀ inode d, Table.get s.dirs inode = some d → inode < s.inodes
  alone : ∀ run phase other next, Table.get s.runs run = some phase → Table.get s.runs other = some next → phase.over = false →
    next.over = false → run = other
  stands : ∀ run phase, Table.get s.runs run = some phase → s.Stands uid service phase
  clean : (∀ run phase, Table.get s.runs run = some phase → s.owes service phase = false) → s.InOrder uid service

-- Where it all begins: there are no runs, and a directory of the caller's that looks in order is.
structure Begins (s : Host) : Prop where
  runs : s.runs = []
  own : ∀ inode d, Table.get s.dirs inode = some d → d.owner = uid → s.parent = .dir inode
  counted : ∀ inode d, Table.get s.dirs inode = some d → inode < s.inodes
  clean : s.InOrder uid service

theorem guarded_begins (s : Host) (begins : Begins uid service s) : Guarded uid service s := by
  have none : ∀ run phase, Table.get s.runs run ≠ some phase := by
    intro run phase found
    rw [begins.runs] at found
    cases found
  exact ⟨begins.own, begins.counted, fun run phase _ _ found => absurd found (none run phase), fun run phase found => absurd found (none run phase),
    fun _ => begins.clean⟩

theorem over_owes (s : Host) (phase : Phase) (done : phase.over = true) : s.owes service phase = false := by
  cases phase with
  | returned | ended => rfl
  | _ => cases done

theorem over_stands (s : Host) (phase : Phase) (done : phase.over = true) : s.Stands uid service phase := by
  cases phase with
  | returned | ended => trivial
  | _ => cases done

variable {uid service}

-- The other runs are over while one is under way.
theorem guarded_over (s : Host) (run : Nat) (phase : Phase) (guarded : Guarded uid service s) (found : Table.get s.runs run = some phase)
    (active : phase.over = false) (other : Nat) (next : Phase) (apart : other ≠ run) (had : Table.get s.runs other = some next) : next.over = true := by
  cases done : next.over with
  | true => rfl
  | false => exact absurd (guarded.alone run phase other next found had active done).symm apart

theorem guarded_clean (s : Host) (run : Nat) (phase : Phase) (guarded : Guarded uid service s) (found : Table.get s.runs run = some phase)
    (active : phase.over = false) (owes : s.owes service phase = false) : s.InOrder uid service := by
  refine guarded.clean ?_
  intro other next had
  by_cases same : other = run
  · rw [same, found] at had
    rw [← Option.some.inj had]
    exact owes
  · exact over_owes service s next (guarded_over s run phase guarded found active other next same had)

-- A run goes on.
theorem guarded_run (s next : Host) (run : Nat) (phase now : Phase) (guarded : Guarded uid service s) (found : Table.get s.runs run = some phase)
    (active : phase.over = false) (runs : next.runs = Table.insert s.runs run now)
    (own : ∀ inode d, Table.get next.dirs inode = some d → d.owner = uid → next.parent = .dir inode)
    (counted : ∀ inode d, Table.get next.dirs inode = some d → inode < next.inodes) (stands : next.Stands uid service now)
    (clean : next.owes service now = false → next.InOrder uid service) : Guarded uid service next := by
  have others : ∀ other held, other ≠ run → Table.get s.runs other = some held → held.over = true :=
    fun other held apart had => guarded_over s run phase guarded found active other held apart had
  refine ⟨own, counted, ?_, ?_, ?_⟩
  · rw [runs]
    intro first before second after had also active still
    rw [Table.get_insert] at had also
    by_cases one : first = run
    · by_cases two : second = run
      · exact one.trans two.symm
      · rw [if_neg two] at also
        cases (others second after two also).symm.trans still
    · rw [if_neg one] at had
      cases (others first before one had).symm.trans active
  · rw [runs]
    exact Table.forall_insert (fun _ held => next.Stands uid service held) s.runs run now
      (fun other held apart had => over_stands uid service next held (others other held apart had)) stands
  · intro none
    refine clean (none run now ?_)
    rw [runs, Table.get_insert, if_pos rfl]

-- What a process of another user leaves of the caller's directory.
structure Tampers (uid : Nat) (service : Bool) (s next : Host) : Prop where
  runs : next.runs = s.runs
  parent : ∀ inode d, s.parent = .dir inode → Table.get s.dirs inode = some d → d.owner = uid → next.parent = .dir inode
  kept : ∀ inode d, Table.get s.dirs inode = some d → d.owner = uid → ∃ now, Table.get next.dirs inode = some now ∧ now.owner = uid ∧
    now.mode = d.mode ∧ (d.mode = expectedIpcParentMode service → now = d)
  only : ∀ inode now, Table.get next.dirs inode = some now → now.owner = uid → ∃ d, Table.get s.dirs inode = some d ∧ d.owner = uid
  counted : ∀ inode now, Table.get next.dirs inode = some now → inode < next.inodes

theorem tampers_holds (s next : Host) (tampers : Tampers uid service s next) (inode : Nat) (holds : Dir → Prop)
    (held : s.Holds uid service inode holds) : next.Holds uid service inode holds := by
  obtain ⟨parent, d, found, owner, mode, good⟩ := held
  obtain ⟨now, again, _, _, same⟩ := tampers.kept inode d found owner
  obtain rfl := same mode
  exact ⟨tampers.parent inode _ parent found owner, now, again, owner, mode, good⟩

theorem tampers_stands (s next : Host) (tampers : Tampers uid service s next) (phase : Phase) (stands : s.Stands uid service phase) :
    next.Stands uid service phase := by
  cases phase with
  | restatting fd =>
      obtain ⟨d, found, owner⟩ := stands
      obtain ⟨now, again, own, _⟩ := tampers.kept fd d found owner
      exact ⟨now, again, own⟩
  | repairing fd =>
      obtain ⟨d, found, owner, mode⟩ := stands
      obtain ⟨now, again, own, same, _⟩ := tampers.kept fd d found owner
      exact ⟨now, again, own, same ▸ mode⟩
  | probing scrub | clearing scrub | scrubbing | binding | permitting bound | writing bound =>
      obtain ⟨inode, held⟩ := stands
      exact ⟨inode, tampers_holds s next tampers inode _ held⟩
  | scrubbingPid fd => exact tampers_holds s next tampers fd _ stands
  | opening | making | reopening | statting fd | adopting fd | returned | ended => trivial

theorem tampers_owes (s next : Host) (tampers : Tampers uid service s next) (phase : Phase) (stands : s.Stands uid service phase) :
    next.owes service phase = s.owes service phase := by
  cases phase with
  | restatting fd =>
      obtain ⟨d, found, owner⟩ := stands
      obtain ⟨now, again, _, same, _⟩ := tampers.kept fd d found owner
      rw [Host.owes, Host.owes, found, again, Option.any_some, Option.any_some, same]
  | _ => rfl

theorem guarded_tampers (s next : Host) (guarded : Guarded uid service s) (tampers : Tampers uid service s next) : Guarded uid service next := by
  refine ⟨?_, tampers.counted, ?_, ?_, ?_⟩
  · intro inode now found owner
    obtain ⟨d, had, own⟩ := tampers.only inode now found owner
    exact tampers.parent inode d (guarded.own inode d had own) had own
  · rw [tampers.runs]
    exact guarded.alone
  · rw [tampers.runs]
    exact fun run phase found => tampers_stands s next tampers phase (guarded.stands run phase found)
  · intro none inode held
    obtain ⟨_, now, found, owner, mode, unclean⟩ := held
    obtain ⟨d, had, own⟩ := tampers.only inode now found owner
    obtain ⟨again, refound, _, same, still⟩ := tampers.kept inode d had own
    obtain rfl := Option.some.inj (found.symm.trans refound)
    have before : d.mode = expectedIpcParentMode service := same.symm.trans mode
    obtain rfl := still before
    refine guarded.clean ?_ inode ⟨guarded.own inode _ had own, _, had, own, before, unclean⟩
    intro run phase runs
    rw [← tampers_owes s next tampers phase (guarded.stands run phase runs)]
    exact none run phase (tampers.runs ▸ runs)

theorem expected_closed (d : Dir) (user : Nat) (other : user ≠ uid) (owner : d.owner = uid) (mode : d.mode = expectedIpcParentMode service) :
    d.writable user = false := by
  have apart : ¬ d.owner = user := fun same => other (same.symm.trans owner)
  cases service with
  | false => simp [Dir.writable, apart, mode, expectedIpcParentMode, groupOther]
  | true => simp [Dir.writable, apart, mode, expectedIpcParentMode, groupOther]

-- A directory is changed that is another user's, or that others may write in.
theorem put_tampers (s : Host) (inode : Nat) (d now : Dir) (guarded : Guarded uid service s) (found : Table.get s.dirs inode = some d)
    (owner : now.owner = d.owner) (kept : d.owner = uid → now.mode = d.mode ∧ (d.mode = expectedIpcParentMode service → now = d)) :
    Tampers uid service s (s.put inode now) := by
  refine ⟨rfl, fun _ _ parent _ _ => parent, ?_, ?_, ?_⟩
  · intro other held had own
    dsimp only [Host.put]
    rw [Table.get_insert]
    by_cases same : other = inode
    · rw [if_pos same]
      obtain rfl := Option.some.inj (found.symm.trans (same ▸ had))
      exact ⟨now, rfl, owner.trans own, (kept own).1, (kept own).2⟩
    · rw [if_neg same]
      exact ⟨held, had, own, rfl, fun _ => rfl⟩
  · refine Table.forall_insert (fun other held => held.owner = uid → ∃ d, Table.get s.dirs other = some d ∧ d.owner = uid) s.dirs inode now ?_ ?_
    · exact fun other held _ had own => ⟨held, had, own⟩
    · exact fun own => ⟨d, found, owner.symm.trans own⟩
  · exact Table.forall_insert (fun other _ => other < s.inodes) s.dirs inode now (fun other held _ had => guarded.counted other held had)
      (guarded.counted inode d found)

-- The path comes to name something, or nothing, when no directory there is the caller's.
theorem parent_tampers (s : Host) (parent : Parent) (guarded : Guarded uid service s)
    (free : ∀ inode d, s.parent = .dir inode → Table.get s.dirs inode = some d → d.owner ≠ uid) : Tampers uid service s { s with parent } :=
  ⟨rfl, (fun inode d named found owner => absurd owner (free inode d named found)), (fun _ d found owner => ⟨d, found, owner, rfl, fun _ => rfl⟩),
    (fun _ d found owner => ⟨d, found, owner⟩), guarded.counted⟩

theorem make_tampers (s : Host) (user : Nat) (mode : Mode) (guarded : Guarded uid service s) (other : user ≠ uid) (absent : s.parent = .absent) :
    Tampers uid service s ({ s with parent := .dir s.inodes, inodes := s.inodes + 1 }.put s.inodes ⟨user, mode, none, none⟩) := by
  have fresh : ∀ d, Table.get s.dirs s.inodes ≠ some d := fun d found => absurd (guarded.counted _ d found) (Nat.lt_irrefl _)
  refine ⟨rfl, (fun _ _ named => by cases absent.symm.trans named), ?_, ?_, ?_⟩
  · intro inode d found owner
    have apart : inode ≠ s.inodes := fun same => fresh d (same ▸ found)
    dsimp only [Host.put]
    rw [Table.get_insert, if_neg apart]
    exact ⟨d, found, owner, rfl, fun _ => rfl⟩
  · refine Table.forall_insert (fun other now => now.owner = uid → ∃ d, Table.get s.dirs other = some d ∧ d.owner = uid) s.dirs s.inodes _ ?_ ?_
    · exact fun _ now _ found owner => ⟨now, found, owner⟩
    · exact fun owner => absurd owner other
  · exact Table.forall_insert (fun inode _ => inode < s.inodes + 1) s.dirs s.inodes _
      (fun inode d _ found => Nat.lt_succ_of_lt (guarded.counted inode d found)) (Nat.lt_succ_self _)

theorem set_kept (d : Dir) (name : Name) (entry : Option Entry) : (d.set name entry).owner = d.owner ∧ (d.set name entry).mode = d.mode := by
  cases name with
  | ipc => exact ⟨rfl, rfl⟩
  | pid => exact ⟨rfl, rfl⟩

theorem write_tampers (s : Host) (user inode : Nat) (name : Name) (entry : Option Entry) (d : Dir) (guarded : Guarded uid service s)
    (found : Table.get s.dirs inode = some d) (other : user ≠ uid) (writable : d.writable user = true) :
    Tampers uid service s (s.put inode (d.set name entry)) := by
  obtain ⟨owner, mode⟩ := set_kept d name entry
  refine put_tampers s inode d _ guarded found owner (fun own => ⟨mode, fun expected => ?_⟩)
  cases (expected_closed d user other own expected).symm.trans writable

-- The processes of other users.
theorem others_guarded (s next : Host) (label : Label) (guarded : Guarded uid service s) (taken : s.step uid service label = some next)
    (others : ∀ run outcome, label ≠ .start run ∧ label ≠ .advance run outcome ∧ label ≠ .crash run) : Guarded uid service next := by
  cases label with
  | start run => exact absurd rfl (others run .done).1
  | advance run outcome => exact absurd rfl (others run outcome).2.1
  | crash run => exact absurd rfl (others run .done).2.2
  | makeDir user mode =>
      obtain ⟨⟨other, absent⟩, rfl⟩ := Option.ite_some_none_eq_some.mp taken
      exact guarded_tampers s _ guarded (make_tampers s user mode guarded other absent)
  | makeOther user target =>
      obtain ⟨⟨_, absent⟩, rfl⟩ := Option.ite_some_none_eq_some.mp taken
      exact guarded_tampers s _ guarded (parent_tampers s _ guarded (fun _ _ named => by cases absent.symm.trans named))
  | moveAway user =>
      obtain ⟨⟨other, owned⟩, rfl⟩ := Option.ite_some_none_eq_some.mp taken
      refine guarded_tampers s _ guarded (parent_tampers s _ guarded ?_)
      intro inode d named found own
      rw [Host.parentOwner, named] at owned
      dsimp only at owned
      rw [found] at owned
      exact other ((Option.some.inj owned).symm.trans own)
  | moveBack user inode =>
      obtain ⟨d, _, taken⟩ := Option.bind_eq_some_iff.mp taken
      obtain ⟨⟨_, _, absent⟩, rfl⟩ := Option.ite_some_none_eq_some.mp taken
      exact guarded_tampers s _ guarded (parent_tampers s _ guarded (fun _ _ named => by cases absent.symm.trans named))
  | chmod user inode mode =>
      obtain ⟨d, found, taken⟩ := Option.bind_eq_some_iff.mp taken
      obtain ⟨⟨other, owner⟩, rfl⟩ := Option.ite_some_none_eq_some.mp taken
      exact guarded_tampers s _ guarded (put_tampers s inode d _ guarded found rfl (fun own => absurd (owner.symm.trans own) other))
  | plant user inode name kind =>
      obtain ⟨d, found, taken⟩ := Option.bind_eq_some_iff.mp taken
      obtain ⟨⟨other, writable, _⟩, rfl⟩ := Option.ite_some_none_eq_some.mp taken
      exact guarded_tampers s _ guarded (write_tampers s user inode name _ d guarded found other writable)
  | unplant user inode name =>
      obtain ⟨d, found, taken⟩ := Option.bind_eq_some_iff.mp taken
      obtain ⟨⟨other, writable⟩, rfl⟩ := Option.ite_some_none_eq_some.mp taken
      exact guarded_tampers s _ guarded (write_tampers s user inode name _ d guarded found other writable)

-- A run goes on and leaves the files as they are.
theorem guarded_enter (s : Host) (run : Nat) (phase now : Phase) (guarded : Guarded uid service s) (found : Table.get s.runs run = some phase)
    (active : phase.over = false) (stands : s.Stands uid service now) (clean : s.owes service now = false → s.InOrder uid service) :
    Guarded uid service (s.enter run now) :=
  guarded_run s (s.enter run now) run phase now guarded found active rfl guarded.own guarded.counted (by cases now <;> exact stands)
    (by cases now <;> exact clean)

-- A directory at the parent's path is changed.
structure Edits (s next : Host) (inode : Nat) (d now : Dir) : Prop where
  parent : next.parent = s.parent
  dirs : next.dirs = Table.insert s.dirs inode now
  inodes : next.inodes = s.inodes
  named : s.parent = .dir inode
  found : Table.get s.dirs inode = some d

section
variable (s next : Host) (inode : Nat) (d now : Dir)

theorem edits_own (guarded : Guarded uid service s) (edits : Edits s next inode d now) :
    ∀ other held, Table.get next.dirs other = some held → held.owner = uid → next.parent = .dir other := by
  rw [edits.dirs, edits.parent]
  exact Table.forall_insert (fun other held => held.owner = uid → s.parent = .dir other) s.dirs inode now
    (fun other held _ had => guarded.own other held had) (fun _ => edits.named)

theorem edits_counted (guarded : Guarded uid service s) (edits : Edits s next inode d now) :
    ∀ other held, Table.get next.dirs other = some held → other < next.inodes := by
  rw [edits.dirs, edits.inodes]
  exact Table.forall_insert (fun other _ => other < s.inodes) s.dirs inode now (fun other held _ had => guarded.counted other held had)
    (guarded.counted inode d edits.found)

theorem edits_holds (edits : Edits s next inode d now) (holds : Dir → Prop)
    (owner : now.owner = uid) (mode : now.mode = expectedIpcParentMode service) (good : holds now) : next.Holds uid service inode holds :=
  ⟨edits.parent.trans edits.named, now, by rw [edits.dirs, Table.get_insert, if_pos rfl], owner, mode, good⟩

theorem edits_order (edits : Edits s next inode d now)
    (clean : now.owner = uid → now.mode = expectedIpcParentMode service → now.clean uid = true) : next.InOrder uid service := by
  rintro other ⟨named, held, found, owner, mode, unclean⟩
  obtain rfl : inode = other := Parent.dir.inj (edits.named.symm.trans (edits.parent.symm.trans named))
  rw [edits.dirs, Table.get_insert, if_pos rfl] at found
  obtain rfl := Option.some.inj found
  cases (clean owner mode).symm.trans unclean

end

theorem order_clean (s : Host) (inode : Nat) (d : Dir) (order : s.InOrder uid service) (named : s.parent = .dir inode)
    (found : Table.get s.dirs inode = some d) (owner : d.owner = uid) (mode : d.mode = expectedIpcParentMode service) : d.clean uid = true := by
  cases clean : d.clean uid with
  | true => rfl
  | false => exact (order inode ⟨named, d, found, owner, mode, clean⟩).elim

theorem clean_order (s : Host) (clean : s.clean uid = true) : s.InOrder uid service := by
  rintro inode ⟨named, d, found, _, _, unclean⟩
  have all : s.dirAt s.opens = some (inode, d) := by
    rw [Host.opens, named]
    dsimp only [Host.dirAt, Option.bind_some]
    rw [found]
    rfl
  rw [Host.clean, all] at clean
  cases (show d.clean uid = true from clean).symm.trans unclean

theorem skip_order (s : Host) (run : Nat) (phase : Phase) (outcome : Outcome) (guarded : Guarded uid service s)
    (found : Table.get s.runs run = some phase) (active : phase.over = false) (keeps : s.keeps uid service phase outcome = true)
    (skips : phase.skips outcome = true) : s.InOrder uid service := by
  cases owes : s.owes service phase with
  | false => exact guarded_clean s run phase guarded found active owes
  | true =>
      have clean := (Bool.and_eq_true_iff.mp keeps).2
      rw [skips, owes] at clean
      exact clean_order s clean

-- What a run reads of owner and mode decides how it goes on.
theorem judge_guarded (s : Host) (run fd : Nat) (phase : Phase) (d : Dir) (adopted : Bool) (guarded : Guarded uid service s)
    (found : Table.get s.runs run = some phase) (active : phase.over = false) (had : Table.get s.dirs fd = some d)
    (order : (d.owner = uid → d.mode = expectedIpcParentMode service → adopted = false) → s.InOrder uid service) :
    Guarded uid service (s.judge uid service run fd d adopted) := by
  rw [Host.judge]
  by_cases foreign : d.owner ≠ uid
  · rw [if_pos foreign]
    have clean : s.InOrder uid service := order (fun own => absurd own foreign)
    by_cases adopts : uid = 0 ∧ service = true ∧ adopted = false
    · rw [if_pos adopts]
      exact guarded_enter s run phase _ guarded found active trivial (fun _ => clean)
    · rw [if_neg adopts]
      exact guarded_enter s run phase _ guarded found active trivial (fun _ => clean)
  · rw [if_neg foreign]
    have own : d.owner = uid := not_not.mp foreign
    by_cases repairs : d.mode ≠ expectedIpcParentMode service
    · rw [if_pos repairs]
      exact guarded_enter s run phase _ guarded found active ⟨d, had, own, repairs⟩ (fun _ => order (fun _ expected => absurd expected repairs))
    · rw [if_neg repairs]
      have expected := not_not.mp repairs
      exact guarded_enter s run phase _ guarded found active ⟨fd, guarded.own fd d had own, d, had, own, expected, trivial⟩
        (fun owes => order (fun _ _ => owes))

section
variable (s next : Host)

theorem making_guarded (run : Nat) (umask : Mode) (guarded : Guarded uid service s) (found : Table.get s.runs run = some .making)
    (taken : s.advance uid service run .making (.made umask) = some next) : Guarded uid service next := by
  have order := guarded_clean s run .making guarded found rfl rfl
  obtain rfl : s.makes uid service run umask = next := Option.some.inj taken
  rw [Host.makes]
  by_cases absent : s.parent = .absent
  · rw [if_pos absent]
    refine guarded_run s _ run .making .reopening guarded found rfl rfl ?_ ?_ trivial (fun _ => ?_)
    · refine Table.forall_insert (fun inode d => d.owner = uid → Parent.dir s.inodes = .dir inode) s.dirs s.inodes _ ?_ (fun _ => rfl)
      intro inode d _ had own
      cases absent.symm.trans (guarded.own inode d had own)
    · exact Table.forall_insert (fun inode _ => inode < s.inodes + 1) s.dirs s.inodes _
        (fun inode d _ had => Nat.lt_succ_of_lt (guarded.counted inode d had)) (Nat.lt_succ_self _)
    · rintro inode ⟨named, d, had, _, _, unclean⟩
      obtain rfl : s.inodes = inode := Parent.dir.inj named
      dsimp only [Host.enter, Host.put] at had
      rw [Table.get_insert, if_pos rfl] at had
      obtain rfl := Option.some.inj had
      cases unclean
  · rw [if_neg absent]
    exact guarded_enter s run .making _ guarded found rfl trivial (fun _ => order)

theorem opening_guarded (run : Nat) (outcome : Outcome) (phase : Phase) (early : phase = .opening ∨ phase = .making ∨ phase = .reopening)
    (guarded : Guarded uid service s) (found : Table.get s.runs run = some phase)
    (taken : s.advance uid service run phase outcome = some next) : Guarded uid service next := by
  rcases early with rfl | rfl | rfl
  · have order := guarded_clean s run .opening guarded found rfl rfl
    cases outcome with
    | done =>
        cases parent : s.parent with
        | absent | dir inode =>
            simp only [Host.advance, Host.attempt, Host.opensParent, parent, Option.some.injEq] at taken
            exact taken ▸ guarded_enter s run .opening _ guarded found rfl trivial (fun _ => order)
        | other owner target => simp [Host.advance, Host.attempt, Host.opensParent, parent] at taken
    | failed =>
        obtain rfl := Option.some.inj taken
        exact guarded_enter s run .opening _ guarded found rfl trivial (fun _ => order)
    | made umask | alive => cases taken
  · cases outcome with
    | made umask => exact making_guarded s next run umask guarded found taken
    | failed =>
        obtain rfl := Option.some.inj taken
        exact guarded_enter s run .making _ guarded found rfl trivial (fun _ => guarded_clean s run .making guarded found rfl rfl)
    | done | alive => cases taken
  · have order := guarded_clean s run .reopening guarded found rfl rfl
    cases outcome with
    | done =>
        simp only [Host.advance, Host.attempt] at taken
        obtain ⟨inode, _, rfl⟩ := Option.map_eq_some_iff.mp taken
        exact guarded_enter s run .reopening _ guarded found rfl trivial (fun _ => order)
    | failed =>
        obtain rfl := Option.some.inj taken
        exact guarded_enter s run .reopening _ guarded found rfl trivial (fun _ => order)
    | made umask | alive => cases taken

theorem adopting_guarded (run fd : Nat) (guarded : Guarded uid service s) (found : Table.get s.runs run = some (.adopting fd))
    (keeps : s.keeps uid service (.adopting fd) .done = true) (taken : s.advance uid service run (.adopting fd) .done = some next) :
    Guarded uid service next := by
  have named : s.parent = .dir fd := of_decide_eq_true (Bool.and_eq_true_iff.mp keeps).1
  simp only [Host.advance, Host.attempt] at taken
  obtain ⟨d, had, rfl⟩ := Option.map_eq_some_iff.mp taken
  have edits : Edits s ((s.put fd { d with owner := uid }).enter run (.restatting fd)) fd d { d with owner := uid } := ⟨rfl, rfl, rfl, named, had⟩
  have now : Table.get (Table.insert s.dirs fd { d with owner := uid }) fd = some { d with owner := uid } := (Table.get_insert _ _ _ _).trans (if_pos rfl)
  refine guarded_run s _ run (.adopting fd) _ guarded found rfl rfl (edits_own s _ fd d _ guarded edits) (edits_counted s _ fd d _ guarded edits)
    ⟨_, now, rfl⟩ (fun owes => edits_order s _ fd d _ edits (fun _ expected => ?_))
  -- a mode that needs no repair leaves a scrub owed
  rw [Host.owes] at owes
  dsimp only [Host.enter, Host.put] at owes
  rw [now, Option.any_some] at owes
  exact absurd expected (of_decide_eq_false owes)

theorem repairing_guarded (run fd : Nat) (guarded : Guarded uid service s) (found : Table.get s.runs run = some (.repairing fd))
    (taken : s.advance uid service run (.repairing fd) .done = some next) : Guarded uid service next := by
  obtain ⟨d, had, own, _⟩ := guarded.stands run (.repairing fd) found
  simp only [Host.advance, Host.attempt, had, Option.map_some, Option.some.injEq] at taken
  subst taken
  have edits : Edits s ((s.put fd { d with mode := expectedIpcParentMode service }).enter run (.probing true)) fd d
      { d with mode := expectedIpcParentMode service } := ⟨rfl, rfl, rfl, guarded.own fd d had own, had⟩
  exact guarded_run s _ run (.repairing fd) _ guarded found rfl rfl (edits_own s _ fd d _ guarded edits) (edits_counted s _ fd d _ guarded edits)
    ⟨fd, edits_holds s _ fd d _ edits _ own rfl trivial⟩ (fun owes => by cases owes)

theorem hardening_guarded (run fd : Nat) (outcome : Outcome) (phase : Phase)
    (hardens : phase = .statting fd ∨ phase = .adopting fd ∨ phase = .restatting fd ∨ phase = .repairing fd) (guarded : Guarded uid service s)
    (found : Table.get s.runs run = some phase) (keeps : s.keeps uid service phase outcome = true)
    (taken : s.advance uid service run phase outcome = some next) : Guarded uid service next := by
  rcases hardens with rfl | rfl | rfl | rfl
  · have order := guarded_clean s run (.statting fd) guarded found rfl rfl
    cases outcome with
    | done =>
        simp only [Host.advance, Host.attempt] at taken
        obtain ⟨d, had, rfl⟩ := Option.map_eq_some_iff.mp taken
        exact judge_guarded s run fd (.statting fd) d false guarded found rfl had (fun _ => order)
    | failed =>
        obtain rfl := Option.some.inj taken
        exact guarded_enter s run (.statting fd) _ guarded found rfl trivial (fun _ => order)
    | made umask | alive => cases taken
  · cases outcome with
    | done => exact adopting_guarded s next run fd guarded found keeps taken
    | failed =>
        obtain rfl := Option.some.inj taken
        exact guarded_enter s run (.adopting fd) _ guarded found rfl trivial (fun _ => guarded_clean s run (.adopting fd) guarded found rfl rfl)
    | made umask | alive => cases taken
  · cases outcome with
    | done =>
        obtain ⟨d, had, own⟩ := guarded.stands run (.restatting fd) found
        simp only [Host.advance, Host.attempt, had, Option.map_some, Option.some.injEq] at taken
        subst taken
        refine judge_guarded s run fd (.restatting fd) d true guarded found rfl had (fun apart => ?_)
        refine guarded_clean s run (.restatting fd) guarded found rfl ?_
        rw [Host.owes, had, Option.any_some]
        exact decide_eq_false (fun expected => by cases apart own expected)
    | failed =>
        obtain rfl := Option.some.inj taken
        exact guarded_enter s run (.restatting fd) _ guarded found rfl trivial
          (fun _ => skip_order s run (.restatting fd) .failed guarded found rfl keeps rfl)
    | made umask | alive => cases taken
  · cases outcome with
    | done => exact repairing_guarded s next run fd guarded found taken
    | failed =>
        obtain rfl := Option.some.inj taken
        exact guarded_enter s run (.repairing fd) _ guarded found rfl trivial (fun _ => guarded_clean s run (.repairing fd) guarded found rfl rfl)
    | made umask | alive => cases taken

end

theorem set_clean (d : Dir) (name : Name) (entry : Option Entry) (own : ∀ held, entry = some held → held.creator = uid) (clean : d.clean uid = true) :
    (d.set name entry).clean uid = true := by
  have good : entry.all (fun held => decide (held.creator = uid)) = true := by
    cases entry with
    | none => rfl
    | some held => exact decide_eq_true (own held rfl)
  obtain ⟨ipc, pid⟩ := Bool.and_eq_true_iff.mp clean
  cases name with
  | ipc => exact Bool.and_eq_true_iff.mpr ⟨good, pid⟩
  | pid => exact Bool.and_eq_true_iff.mpr ⟨ipc, good⟩

-- The parent of a run past its hardening, and what an entry written there leads to.
theorem written_guarded (s next : Host) (run inode : Nat) (phase now : Phase) (d : Dir) (name : Name) (entry : Option Entry)
    (guarded : Guarded uid service s) (found : Table.get s.runs run = some phase) (active : phase.over = false)
    (runs : next.runs = Table.insert s.runs run now) (edits : Edits s next inode d (d.set name entry))
    (stands : next.Stands uid service now)
    (order : next.owes service now = false → d.owner = uid → d.mode = expectedIpcParentMode service → (d.set name entry).clean uid = true) :
    Guarded uid service next := by
  obtain ⟨owner, mode⟩ := set_kept d name entry
  exact guarded_run s next run phase now guarded found active runs (edits_own s next inode d _ guarded edits) (edits_counted s next inode d _ guarded edits)
    stands (fun owes => edits_order s next inode d _ edits (fun own expected => order owes (owner.symm.trans own) (mode.symm.trans expected)))

theorem held_at (s : Host) (inode : Nat) (holds : Dir → Prop) (held : s.Holds uid service inode holds) : ∃ d,
    s.opens = some inode ∧ s.resolves = some inode ∧ s.dirAt (some inode) = some (inode, d) ∧ s.parent = .dir inode ∧
      Table.get s.dirs inode = some d ∧ d.owner = uid ∧ d.mode = expectedIpcParentMode service ∧ holds d := by
  obtain ⟨named, d, found, owner, mode, good⟩ := held
  refine ⟨d, ?_, ?_, ?_, named, found, owner, mode, good⟩
  · rw [Host.opens, named]
  · rw [Host.resolves, named]
  · rw [Host.dirAt, Option.bind_some, found]
    rfl

section
variable (s next : Host)

theorem removes_some (inode : Nat) (d : Dir) (name : Name) (here : s.dirAt (some inode) = some (inode, d))
    (taken : s.removes (some inode) name = some next) : next = s.put inode (d.set name none) := by
  rw [Host.removes, here, Option.bind_some] at taken
  exact (Option.ite_some_none_eq_some.mp taken).2.symm

theorem probing_guarded (run : Nat) (scrub : Bool) (outcome : Outcome) (guarded : Guarded uid service s)
    (found : Table.get s.runs run = some (.probing scrub)) (keeps : s.keeps uid service (.probing scrub) outcome = true)
    (taken : s.advance uid service run (.probing scrub) outcome = some next) : Guarded uid service next := by
  have stands := guarded.stands run (.probing scrub) found
  cases outcome with
  | done =>
      obtain rfl := Option.some.inj taken
      exact guarded_enter s run (.probing scrub) (.clearing scrub) guarded found rfl stands
        (fun owes => guarded_clean s run (.probing scrub) guarded found rfl owes)
  | alive =>
      simp only [Host.advance, Host.attempt] at taken
      obtain ⟨_, _, taken⟩ := Option.bind_eq_some_iff.mp taken
      obtain ⟨_, rfl⟩ := Option.ite_some_none_eq_some.mp taken
      exact guarded_enter s run (.probing scrub) .binding guarded found rfl stands
        (fun _ => skip_order s run (.probing scrub) .alive guarded found rfl keeps rfl)
  | failed | made umask => cases taken

theorem clearing_guarded (run : Nat) (scrub : Bool) (outcome : Outcome) (guarded : Guarded uid service s)
    (found : Table.get s.runs run = some (.clearing scrub)) (taken : s.advance uid service run (.clearing scrub) outcome = some next) :
    Guarded uid service next := by
  obtain ⟨inode, held⟩ := guarded.stands run (.clearing scrub) found
  obtain ⟨d, opens, _, here, named, had, owner, mode, _⟩ := held_at s inode _ held
  have order : scrub = false → s.InOrder uid service := fun owes => guarded_clean s run (.clearing scrub) guarded found rfl owes
  cases outcome with
  | done =>
      simp only [Host.advance, Host.attempt, opens] at taken
      obtain ⟨removed, unlinked, rfl⟩ := Option.map_eq_some_iff.mp taken
      obtain rfl := removes_some s removed inode d .ipc here unlinked
      have edits : ∀ now, Edits s ((s.put inode (d.set .ipc none)).enter run now) inode d (d.set .ipc none) := fun _ => ⟨rfl, rfl, rfl, named, had⟩
      have holds : ∀ now, ((s.put inode (d.set .ipc none)).enter run now).Holds uid service inode (fun _ => True) :=
        fun now => edits_holds s _ inode d _ (edits now) _ owner mode trivial
      cases scrub with
      | true => exact written_guarded s _ run inode _ .scrubbing d .ipc none guarded found rfl rfl (edits _) ⟨inode, holds _⟩ (fun owes => by cases owes)
      | false =>
          exact written_guarded s _ run inode _ .binding d .ipc none guarded found rfl rfl (edits _) ⟨inode, holds _⟩
            (fun _ own expected => set_clean d .ipc none (fun _ same => by cases same) (order_clean s inode d (order rfl) named had own expected))
  | failed =>
      obtain rfl := Option.some.inj taken
      cases scrub with
      | true => exact guarded_enter s run (.clearing true) .scrubbing guarded found rfl ⟨inode, held⟩ (fun owes => by cases owes)
      | false => exact guarded_enter s run (.clearing false) .binding guarded found rfl ⟨inode, held⟩ (fun _ => order rfl)
  | made umask | alive => cases taken

theorem scrubbing_guarded (run : Nat) (outcome : Outcome) (guarded : Guarded uid service s)
    (found : Table.get s.runs run = some .scrubbing) (keeps : s.keeps uid service .scrubbing outcome = true)
    (taken : s.advance uid service run .scrubbing outcome = some next) : Guarded uid service next := by
  obtain ⟨inode, held⟩ := guarded.stands run .scrubbing found
  obtain ⟨d, opens, _, here, named, had, owner, mode, _⟩ := held_at s inode _ held
  cases outcome with
  | done =>
      simp only [Host.advance, Host.attempt, opens, Option.bind_some] at taken
      obtain ⟨removed, unlinked, rfl⟩ := Option.map_eq_some_iff.mp taken
      obtain rfl := removes_some s removed inode d .ipc here unlinked
      have edits : Edits s ((s.put inode (d.set .ipc none)).enter run (.scrubbingPid inode)) inode d (d.set .ipc none) := ⟨rfl, rfl, rfl, named, had⟩
      exact written_guarded s _ run inode _ (.scrubbingPid inode) d .ipc none guarded found rfl rfl edits
        (edits_holds s _ inode d _ edits (fun d => d.ipc = none) owner mode rfl) (fun owes => by cases owes)
  | failed =>
      obtain rfl := Option.some.inj taken
      exact guarded_enter s run .scrubbing .ended guarded found rfl trivial (fun _ => skip_order s run .scrubbing .failed guarded found rfl keeps rfl)
  | made umask | alive => cases taken

theorem scrubbing_pid_guarded (run fd : Nat) (outcome : Outcome) (guarded : Guarded uid service s)
    (found : Table.get s.runs run = some (.scrubbingPid fd)) (keeps : s.keeps uid service (.scrubbingPid fd) outcome = true)
    (taken : s.advance uid service run (.scrubbingPid fd) outcome = some next) : Guarded uid service next := by
  have held : s.Holds uid service fd (fun d => d.ipc = none) := guarded.stands run (.scrubbingPid fd) found
  obtain ⟨d, _, _, here, named, had, owner, mode, scrubbed⟩ := held_at s fd _ held
  cases outcome with
  | done =>
      simp only [Host.advance, Host.attempt] at taken
      obtain ⟨removed, unlinked, rfl⟩ := Option.map_eq_some_iff.mp taken
      obtain rfl := removes_some s removed fd d .pid here unlinked
      have edits : Edits s ((s.put fd (d.set .pid none)).enter run .binding) fd d (d.set .pid none) := ⟨rfl, rfl, rfl, named, had⟩
      refine written_guarded s _ run fd _ .binding d .pid none guarded found rfl rfl edits ⟨fd, edits_holds s _ fd d _ edits _ owner mode trivial⟩ ?_
      intro _ _ _
      rw [Dir.clean, Dir.set, scrubbed]
      rfl
  | failed =>
      obtain rfl := Option.some.inj taken
      exact guarded_enter s run (.scrubbingPid fd) .ended guarded found rfl trivial
        (fun _ => skip_order s run (.scrubbingPid fd) .failed guarded found rfl keeps rfl)
  | made umask | alive => cases taken

theorem binding_guarded (run : Nat) (outcome : Outcome) (guarded : Guarded uid service s) (found : Table.get s.runs run = some .binding)
    (taken : s.advance uid service run .binding outcome = some next) : Guarded uid service next := by
  obtain ⟨inode, held⟩ := guarded.stands run .binding found
  obtain ⟨d, _, resolves, here, named, had, owner, mode, _⟩ := held_at s inode _ held
  have order := guarded_clean s run .binding guarded found rfl rfl
  cases outcome with
  | done =>
      simp only [Host.advance, Host.attempt] at taken
      rw [Host.binds, resolves, here, Option.bind_some] at taken
      obtain ⟨_, rfl⟩ := Option.ite_some_none_eq_some.mp taken
      have edits : Edits s (({ s with sockets := s.sockets + 1 }.put inode (d.set .ipc (some ⟨uid, .socket (some s.sockets)⟩))).enter run
          (.permitting s.sockets)) inode d (d.set .ipc (some ⟨uid, .socket (some s.sockets)⟩)) := ⟨rfl, rfl, rfl, named, had⟩
      refine written_guarded s _ run inode _ (.permitting s.sockets) d .ipc _ guarded found rfl rfl edits
        ⟨inode, edits_holds s _ inode d _ edits (fun d => d.Bound uid s.sockets) owner mode rfl⟩ ?_
      exact fun _ own expected => set_clean d .ipc _ (fun held same => by rw [← Option.some.inj same]) (order_clean s inode d order named had own expected)
  | failed =>
      obtain rfl := Option.some.inj taken
      exact guarded_enter s run .binding .ended guarded found rfl trivial (fun _ => order)
  | made umask | alive => cases taken

end

theorem secured_order (s : Host) (inode bound : Nat) (held : s.Holds uid service inode (fun d => d.Bound uid bound)) (order : s.InOrder uid service) :
    Secured uid service s bound := by
  obtain ⟨d, _, _, _, named, had, owner, mode, own⟩ := held_at s inode _ held
  exact ⟨inode, named, d, had, owner, mode, own, order_clean s inode d order named had owner mode⟩

section
variable (s next : Host) (run bound : Nat) (outcome : Outcome)

theorem permitting_guarded (guarded : Guarded uid service s)
    (found : Table.get s.runs run = some (.permitting bound)) (taken : s.advance uid service run (.permitting bound) outcome = some next) :
    Guarded uid service next := by
  obtain ⟨inode, held⟩ := guarded.stands run (.permitting bound) found
  obtain ⟨d, _, resolves, here, named, had, owner, mode, _⟩ := held_at s inode _ held
  have order := guarded_clean s run (.permitting bound) guarded found rfl rfl
  cases outcome with
  | done =>
      obtain rfl := Option.some.inj taken
      exact guarded_enter s run (.permitting bound) (.writing bound) guarded found rfl ⟨inode, held⟩ (fun _ => order)
  | failed =>
      obtain rfl := Option.some.inj taken
      rw [Host.unlinksSocket, resolves, here, Option.elim_some]
      split
      · have edits : Edits s ((s.put inode (d.set .ipc none)).enter run .ended) inode d (d.set .ipc none) := ⟨rfl, rfl, rfl, named, had⟩
        exact written_guarded s _ run inode _ .ended d .ipc none guarded found rfl rfl edits trivial
          (fun _ own expected => set_clean d .ipc none (fun _ same => by cases same) (order_clean s inode d order named had own expected))
      · exact guarded_enter s run (.permitting bound) .ended guarded found rfl trivial (fun _ => order)
  | made umask | alive => cases taken

-- The run returns.
theorem writing_guarded (guarded : Guarded uid service s)
    (found : Table.get s.runs run = some (.writing bound)) (taken : s.advance uid service run (.writing bound) outcome = some next) :
    Guarded uid service next ∧ Secured uid service next bound := by
  obtain ⟨inode, held⟩ := guarded.stands run (.writing bound) found
  obtain ⟨d, _, resolves, here, named, had, owner, mode, own⟩ := held_at s inode _ held
  have order := guarded_clean s run (.writing bound) guarded found rfl rfl
  have plainly : Guarded uid service (s.enter run .returned) ∧ Secured uid service (s.enter run .returned) bound :=
    ⟨guarded_enter s run (.writing bound) .returned guarded found rfl trivial (fun _ => order), secured_order s inode bound held order⟩
  cases outcome with
  | done =>
      obtain rfl := Option.some.inj taken
      rw [Host.writesPid, resolves, here, Option.elim_some]
      by_cases none : d.pid = none
      · rw [if_pos none]
        have clean := set_clean d .pid (some ⟨uid, .file⟩) (fun held same => by rw [← Option.some.inj same]) (order_clean s inode d order named had owner mode)
        have edits : Edits s ((s.put inode (d.set .pid (some ⟨uid, .file⟩))).enter run .returned) inode d (d.set .pid (some ⟨uid, .file⟩)) :=
          ⟨rfl, rfl, rfl, named, had⟩
        exact ⟨written_guarded s _ run inode _ .returned d .pid _ guarded found rfl rfl edits trivial (fun _ _ _ => clean),
          inode, edits_holds s _ inode d _ edits (fun d => d.Bound uid bound ∧ d.clean uid = true) owner mode ⟨own, clean⟩⟩
      · rw [if_neg none]
        exact plainly
  | failed =>
      obtain rfl := Option.some.inj taken
      exact plainly
  | made umask | alive => cases taken

end

theorem advance_guarded (s next : Host) (run : Nat) (phase : Phase) (outcome : Outcome) (guarded : Guarded uid service s)
    (found : Table.get s.runs run = some phase) (keeps : s.keeps uid service phase outcome = true)
    (taken : s.advance uid service run phase outcome = some next) : Guarded uid service next := by
  cases phase with
  | opening => exact opening_guarded s next run outcome _ (.inl rfl) guarded found taken
  | making => exact opening_guarded s next run outcome _ (.inr (.inl rfl)) guarded found taken
  | reopening => exact opening_guarded s next run outcome _ (.inr (.inr rfl)) guarded found taken
  | statting fd => exact hardening_guarded s next run fd outcome _ (.inl rfl) guarded found keeps taken
  | adopting fd => exact hardening_guarded s next run fd outcome _ (.inr (.inl rfl)) guarded found keeps taken
  | restatting fd => exact hardening_guarded s next run fd outcome _ (.inr (.inr (.inl rfl))) guarded found keeps taken
  | repairing fd => exact hardening_guarded s next run fd outcome _ (.inr (.inr (.inr rfl))) guarded found keeps taken
  | probing scrub => exact probing_guarded s next run scrub outcome guarded found keeps taken
  | clearing scrub => exact clearing_guarded s next run scrub outcome guarded found taken
  | scrubbing => exact scrubbing_guarded s next run outcome guarded found keeps taken
  | scrubbingPid fd => exact scrubbing_pid_guarded s next run fd outcome guarded found keeps taken
  | binding => exact binding_guarded s next run outcome guarded found taken
  | permitting bound => exact permitting_guarded s next run bound outcome guarded found taken
  | writing bound => exact (writing_guarded s next run bound outcome guarded found taken).1
  | returned | ended => cases outcome <;> cases taken

theorem crash_guarded (s : Host) (run : Nat) (phase : Phase) (guarded : Guarded uid service s) (found : Table.get s.runs run = some phase)
    (active : phase.over = false) (kept : (!s.owes service phase || s.clean uid) = true) : Guarded uid service (s.enter run .ended) := by
  refine guarded_enter s run phase .ended guarded found active trivial (fun _ => ?_)
  cases owes : s.owes service phase with
  | false => exact guarded_clean s run phase guarded found active owes
  | true =>
      rw [owes] at kept
      exact clean_order s kept

theorem start_guarded (s : Host) (run : Nat) (guarded : Guarded uid service s) (kept : s.runs.all (fun entry => entry.2.over) = true) :
    Guarded uid service (s.enter run .opening) := by
  have done : ∀ other held, Table.get s.runs other = some held → held.over = true :=
    fun other held had => List.all_eq_true.mp kept (other, held) (Table.mem_of_get s.runs other held had)
  refine ⟨guarded.own, guarded.counted, ?_, ?_, ?_⟩
  · intro first before second after had also active still
    dsimp only [Host.enter] at had also
    rw [Table.get_insert] at had also
    by_cases one : first = run
    · by_cases two : second = run
      · exact one.trans two.symm
      · rw [if_neg two] at also
        cases (done second after also).symm.trans still
    · rw [if_neg one] at had
      cases (done first before had).symm.trans active
  · exact Table.forall_insert (fun _ held => (s.enter run .opening).Stands uid service held) s.runs run .opening
      (fun other held _ had => over_stands uid service _ held (done other held had)) trivial
  · intro _
    exact guarded.clean (fun other held had => over_owes service s held (done other held had))

theorem step_guarded (s : Host) (label : Label) (next : Host) (guarded : Guarded uid service s) (kept : Kept uid service s label)
    (taken : s.step uid service label = some next) : Guarded uid service next := by
  cases label with
  | start run =>
      obtain ⟨_, rfl⟩ := Option.ite_some_none_eq_some.mp taken
      exact start_guarded s run guarded kept
  | advance run outcome =>
      obtain ⟨phase, found, taken⟩ := Option.bind_eq_some_iff.mp taken
      have keeps : s.keeps uid service phase outcome = true := by simpa [Kept, found] using kept
      exact advance_guarded s next run phase outcome guarded found keeps taken
  | crash run =>
      obtain ⟨phase, found, taken⟩ := Option.bind_eq_some_iff.mp taken
      obtain ⟨active, rfl⟩ := Option.ite_some_none_eq_some.mp taken
      exact crash_guarded s run phase guarded found active (by simpa [Kept, found] using kept)
  | _ => exact others_guarded s next _ guarded taken (fun _ _ => ⟨(fun same => by cases same), (fun same => by cases same), fun same => by cases same⟩)

-- In every run of this in which the runs of the listener do not overlap, adopt what the path
-- names and skip no scrub that is owed, the listener that a run returns is secured.
theorem listener_secured (init s next : Host) (past : List (Host × Label)) (run bound : Nat) (outcome : Outcome) (begins : Begins uid service init)
    (traced : Machine.Traced (Host.step uid service) init past s) (fitting : ∀ entry ∈ past, Kept uid service entry.1 entry.2)
    (returns : Table.get s.runs run = some (.writing bound)) (taken : s.step uid service (.advance run outcome) = some next) :
    Secured uid service next bound := by
  have guarded := (Machine.traced_kept (Host.step uid service) (Guarded uid service) (Kept uid service) init s past
    (guarded_begins uid service init begins) step_guarded traced fitting).2
  obtain ⟨phase, found, taken⟩ := Option.bind_eq_some_iff.mp taken
  obtain rfl := Option.some.inj (returns.symm.trans found)
  exact (writing_guarded s next run bound outcome guarded found taken).2

end

def steps (run : Nat) (outcomes : List Outcome) : List Label := .start run :: outcomes.map (fun outcome => .advance run outcome)

-- A directory of root's that anyone may write in, with two entries of another user.
def openParent : Host :=
  { parent := .dir 0, dirs := [(0, ⟨0, 0o777, some ⟨1000, .link⟩, some ⟨1000, .file⟩⟩)], inodes := 1 }

theorem open_parent_begins : Begins 0 true openParent := by
  have only : ∀ inode d, Table.get openParent.dirs inode = some d → inode = 0 ∧ d = ⟨0, 0o777, some ⟨1000, .link⟩, some ⟨1000, .file⟩⟩ := by
    intro inode d found
    rw [openParent, Table.get_cons] at found
    by_cases same : inode = 0
    · rw [if_pos same] at found
      exact ⟨same, (Option.some.inj found).symm⟩
    · rw [if_neg same] at found
      cases found
  refine ⟨rfl, ?_, ?_, ?_⟩
  · intro inode d found _
    rw [(only inode d found).1]
    rfl
  · intro inode d found
    rw [(only inode d found).1]
    decide
  · rintro inode ⟨_, d, found, _, mode, _⟩
    rw [(only inode d found).2] at mode
    exact absurd mode (by decide)

-- The parent is repaired and scrubbed while another user still plants, and a socket is bound.
def repairs : List Label :=
  steps 1 [.done, .done] ++ [.plant 1000 0 .ipc (.directory true)] ++ List.replicate 7 (.advance 1 .done)

theorem repairs_runs : (Machine.run (Host.step 0 true) openParent repairs).isSome = true := by decide

def repaired : Host := (Machine.run (Host.step 0 true) openParent repairs).get repairs_runs

theorem listener_secured_repaired : Secured 0 true ((repaired.writesPid 0).enter 1 .returned) 0 :=
  listener_secured openParent repaired _ _ 1 0 .done open_parent_begins (Machine.traced_run (Host.step 0 true) openParent repairs repairs_runs)
    (by decide) (by decide) rfl

-- Another user has a listener and a pid file in the directory; the first run adopts and repairs
-- it, finds the listener and cannot bind, and the second finds nothing to scrub.
def scrubLost : List Label :=
  [.makeDir 1000 0o777, .plant 1000 0 .ipc (.socket none), .plant 1000 0 .pid .file] ++
    steps 1 [.done, .done, .done, .done, .done, .alive, .failed] ++ steps 2 (List.replicate 6 .done)

-- Another user moves the directory away and puts another one in its place before it is adopted.
def movedAway : List Label :=
  [.makeDir 1000 0o700] ++ steps 1 [.done, .done] ++ [.moveAway 1000, .makeDir 1000 0o777] ++ List.replicate 9 (.advance 1 .done)

theorem scrub_lost_runs : (Machine.run (Host.step 0 true) {} (scrubLost ++ [.advance 2 .done])).isSome = true := by decide

theorem moved_away_runs : (Machine.run (Host.step 0 true) {} (movedAway ++ [.advance 1 .done])).isSome = true := by decide

theorem listener_unsecured :
    (∃ s, Machine.Reachable (Host.step 0 true) {} s ∧ Table.get s.runs 2 = some .returned ∧ Table.get s.dirs 0 =
      some ⟨0, 0o711, some ⟨0, .socket (some 0)⟩, some ⟨1000, .file⟩⟩ ∧ ¬ Secured 0 true s 0) ∧
    ∃ s, Machine.Reachable (Host.step 0 true) {} s ∧ Table.get s.runs 1 = some .returned ∧ s.parentOwner = some 1000 ∧ ¬ Secured 0 true s 0 := by
  constructor
  · refine ⟨_, Machine.reachable_run _ _ _ scrub_lost_runs, by decide, by decide, ?_⟩
    rintro ⟨inode, named, d, found, _, _, _, clean⟩
    have here : ((Machine.run (Host.step 0 true) {} (scrubLost ++ [.advance 2 .done])).get scrub_lost_runs).parent = .dir 0 := by decide
    obtain rfl := Parent.dir.inj (here.symm.trans named)
    have entries : Table.get ((Machine.run (Host.step 0 true) {} (scrubLost ++ [.advance 2 .done])).get scrub_lost_runs).dirs 0 =
      some ⟨0, 0o711, some ⟨0, .socket (some 0)⟩, some ⟨1000, .file⟩⟩ := by decide
    obtain rfl := Option.some.inj (entries.symm.trans found)
    exact absurd clean (by decide)
  · refine ⟨_, Machine.reachable_run _ _ _ moved_away_runs, by decide, by decide, ?_⟩
    rintro ⟨inode, named, d, found, owner, _⟩
    have other : ((Machine.run (Host.step 0 true) {} (movedAway ++ [.advance 1 .done])).get moved_away_runs).parentOwner = some 1000 := by decide
    rw [Host.parentOwner, named] at other
    dsimp only at other
    rw [found, Option.map_some, owner] at other
    cases other

end GotechDesk.Ipc
