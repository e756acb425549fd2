import GotechDesk.Machine
import GotechDesk.Table

set_option autoImplicit false

namespace GotechDesk.Ipc

abbrev Mode := BitVec 12

-- What an entry of a directory is; a socket is numbered when a run of the listener bound it.
inductive Kind where
  | file
  | link
  | socket (bound : Option Nat)
  | directory (empty : Bool)
deriving DecidableEq, Repr

structure Entry where
  creator : Nat
  kind : Kind
deriving DecidableEq, Repr

-- `ipc` and `pid` are the entries ipc<postfix> and ipc<postfix>.pid.
structure Dir where
  owner : Nat
  mode : Mode
  ipc : Option Entry := none
  pid : Option Entry := none
deriving DecidableEq, Repr

-- What the path of the parent names: nothing, a directory by its inode, or something else, which
-- may be a symbolic link to a directory.
inductive Parent where
  | absent
  | dir (inode : Nat)
  | other (owner : Nat) (target : Option Nat)
deriving DecidableEq, Repr

-- Where a run of `new_listener` stands: before the step it is named after. `scrub` is whether it
-- should scrub, `fd` the directory it has open, `bound` the number of its socket.
inductive Phase where
  | opening
  | making
  | reopening
  | statting (fd : Nat)
  | adopting (fd : Nat)
  | restatting (fd : Nat)
  | repairing (fd : Nat)
  | probing (scrub : Bool)
  | clearing (scrub : Bool)
  | scrubbing
  | scrubbingPid (fd : Nat)
  | binding
  | permitting (bound : Nat)
  | writing (bound : Nat)
  | returned
  | ended
deriving DecidableEq, Repr

def Phase.over : Phase → Bool
  | .returned | .ended => true
  | _ => false

structure Host where
  parent : Parent := .absent
  dirs : List (Nat × Dir) := []
  inodes : Nat := 0
  sockets : Nat := 0
  runs : List (Nat × Phase) := []
deriving DecidableEq, Repr

-- How the next step of a run turns out; `alive` is a listener that the probe finds.
inductive Outcome where
  | done
  | failed
  | made (umask : Mode)
  | alive
deriving DecidableEq, Repr

inductive Name where
  | ipc
  | pid
deriving DecidableEq, Repr

def Dir.get (d : Dir) : Name → Option Entry
  | .ipc => d.ipc
  | .pid => d.pid

def Dir.set (d : Dir) (name : Name) (entry : Option Entry) : Dir :=
  match name with
  | .ipc => { d with ipc := entry }
  | .pid => { d with pid := entry }

-- Whether `unlinkat` can remove it, with the flag for what it is.
def Dir.removable (d : Dir) (name : Name) : Bool := decide ((d.get name).map Entry.kind ≠ some (.directory false))

-- Bits with which others than the owner may write in a directory.
def groupOther : Mode := 0o022

def Host.enter (s : Host) (run : Nat) (phase : Phase) : Host := { s with runs := Table.insert s.runs run phase }

def Host.put (s : Host) (inode : Nat) (d : Dir) : Host := { s with dirs := Table.insert s.dirs inode d }

-- The directory the path names for an open that follows no link, and for one that does.
def Host.opens (s : Host) : Option Nat :=
  match s.parent with
  | .dir inode => some inode
  | .absent | .other _ _ => none

def Host.resolves (s : Host) : Option Nat :=
  match s.parent with
  | .dir inode => some inode
  | .other _ target => target
  | .absent => none

def Host.dirAt (s : Host) (inode : Option Nat) : Option (Nat × Dir) := inode.bind (fun inode => (Table.get s.dirs inode).map (fun d => (inode, d)))

section
variable (uid : Nat) (service : Bool)

def expectedIpcParentMode : Mode := if service then 0o711 else 0o700

-- Owner and mode are read: an owner that is not the caller's is adopted or refused, a mode that
-- is not the expected one repaired.
def Host.judge (s : Host) (run fd : Nat) (d : Dir) (adopted : Bool) : Host :=
  if d.owner ≠ uid then
    if uid = 0 ∧ service = true ∧ adopted = false then s.enter run (.adopting fd) else s.enter run .ended
  else if d.mode ≠ expectedIpcParentMode service then s.enter run (.repairing fd)
  else s.enter run (.probing adopted)

-- The parent is opened without following a link and one of its entries removed.
def Host.removes (s : Host) (inode : Option Nat) (name : Name) : Option Host :=
  (s.dirAt inode).bind (fun found => if found.2.removable name then some (s.put found.1 (found.2.set name none)) else none)

-- The socket is created where nothing is at its path.
def Host.binds (s : Host) (run : Nat) : Option Host :=
  (s.dirAt s.resolves).bind (fun found =>
    if found.2.ipc = none then
      some (({ s with sockets := s.sockets + 1 }.put found.1 (found.2.set .ipc (some ⟨uid, .socket (some s.sockets)⟩))).enter run (.permitting s.sockets))
    else none)

-- `remove_file` of the socket's path, whatever comes of it.
def Host.unlinksSocket (s : Host) : Host :=
  (s.dirAt s.resolves).elim s (fun found =>
    if found.2.ipc.any (fun entry => decide (entry.kind ≠ .directory true) && decide (entry.kind ≠ .directory false)) then
      s.put found.1 (found.2.set .ipc none)
    else s)

-- A process id is written to a file of the caller's; one is created where there is none.
def Host.writesPid (s : Host) : Host :=
  (s.dirAt s.resolves).elim s (fun found => if found.2.pid = none then s.put found.1 (found.2.set .pid (some ⟨uid, .file⟩)) else s)

-- A step that leads on when it is done, and ends the run when it fails.
def Host.attempt (s : Host) (run : Nat) (outcome : Outcome) (next : Option Host) : Option Host :=
  match outcome with
  | .done => next
  | .failed => some (s.enter run .ended)
  | .made _ | .alive => none

def Host.opensParent (s : Host) (run : Nat) : Option Host :=
  match s.parent with
  | .dir inode => some (s.enter run (.statting inode))
  | .absent => some (s.enter run .making)
  | .other _ _ => none

def Host.makes (s : Host) (run : Nat) (umask : Mode) : Host :=
  if s.parent = .absent then
    ({ s with parent := .dir s.inodes, inodes := s.inodes + 1 }.put s.inodes ⟨uid, expectedIpcParentMode service &&& ~~~umask, none, none⟩).enter
      run .reopening
  else s.enter run .reopening

-- The next step of a run. Errors in removing the stale socket and in the pid file are only logged.
def Host.advance (s : Host) (run : Nat) (phase : Phase) (outcome : Outcome) : Option Host :=
  match phase with
  | .opening => s.attempt run outcome (s.opensParent run)
  | .making => match outcome with
    | .made umask => some (s.makes uid service run umask)
    | .failed => some (s.enter run .ended)
    | .done | .alive => none
  | .reopening => s.attempt run outcome (s.opens.map (fun inode => s.enter run (.statting inode)))
  | .statting fd => s.attempt run outcome ((Table.get s.dirs fd).map (fun d => s.judge uid service run fd d false))
  | .adopting fd => s.attempt run outcome
      ((Table.get s.dirs fd).map (fun d => (s.put fd { d with owner := uid }).enter run (.restatting fd)))
  | .restatting fd => s.attempt run outcome ((Table.get s.dirs fd).map (fun d => s.judge uid service run fd d true))
  | .repairing fd => s.attempt run outcome
      ((Table.get s.dirs fd).map (fun d => (s.put fd { d with mode := expectedIpcParentMode service }).enter run (.probing true)))
  | .probing scrub => match outcome with
    | .done => some (s.enter run (.clearing scrub))
    | .alive => (s.dirAt s.resolves).bind (fun found => if found.2.ipc.isSome then some (s.enter run .binding) else none)
    | .failed | .made _ => none
  | .clearing scrub => match outcome with
    | .done => (s.removes s.opens .ipc).map (fun s => s.enter run (if scrub then .scrubbing else .binding))
    | .failed => some (s.enter run (if scrub then .scrubbing else .binding))
    | .made _ | .alive => none
  | .scrubbing => s.attempt run outcome
      (s.opens.bind (fun fd => (s.removes (some fd) .ipc).map (fun s => s.enter run (.scrubbingPid fd))))
  | .scrubbingPid fd => s.attempt run outcome ((s.removes (some fd) .pid).map (fun s => s.enter run .binding))
  | .binding => s.attempt run outcome (s.binds uid run)
  | .permitting bound => match outcome with
    | .done => some (s.enter run (.writing bound))
    | .failed => some (s.unlinksSocket.enter run .ended)
    | .made _ | .alive => none
  | .writing _ => match outcome with
    | .done => some ((s.writesPid uid).enter run .returned)
    | .failed => some (s.enter run .returned)
    | .made _ | .alive => none
  | .returned | .ended => none

example (s : Host) (run : Nat) : s.advance uid service run .opening .failed = some (s.enter run .ended) := by simp [Host.advance, Host.attempt]

-- The steps of the runs, and what processes of other users do. The directory that holds the
-- parent is sticky: they take nothing away from it that is not theirs.
inductive Label where
  | start (run : Nat)
  | advance (run : Nat) (outcome : Outcome)
  | crash (run : Nat)
  | makeDir (user : Nat) (mode : Mode)
  | makeOther (user : Nat) (target : Option Nat)
  | moveAway (user : Nat)
  | moveBack (user inode : Nat)
  | chmod (user inode : Nat) (mode : Mode)
  | plant (user inode : Nat) (name : Name) (kind : Kind)
  | unplant (user inode : Nat) (name : Name)
deriving DecidableEq, Repr

def Host.parentOwner (s : Host) : Option Nat :=
  match s.parent with
  | .absent => none
  | .dir inode => (Table.get s.dirs inode).map Dir.owner
  | .other owner _ => some owner

def Dir.writable (d : Dir) (user : Nat) : Bool := decide (d.owner = user) || decide (d.mode &&& groupOther ≠ 0)

def Kind.planted : Kind → Bool
  | .socket (some _) => false
  | _ => true

def Host.step (s : Host) : Label → Option Host
  | .start run => if (Table.get s.runs run).isNone then some (s.enter run .opening) else none
  | .advance run outcome => (Table.get s.runs run).bind (fun phase => s.advance uid service run phase outcome)
  | .crash run => (Table.get s.runs run).bind (fun phase => if phase.over = false then some (s.enter run .ended) else none)
  | .makeDir user mode =>
      if user ≠ uid ∧ s.parent = .absent then
        some ({ s with parent := .dir s.inodes, inodes := s.inodes + 1 }.put s.inodes ⟨user, mode, none, none⟩)
      else none
  | .makeOther user target => if user ≠ uid ∧ s.parent = .absent then some { s with parent := .other user target } else none
  | .moveAway user => if user ≠ uid ∧ s.parentOwner = some user then some { s with parent := .absent } else none
  | .moveBack user inode => (Table.get s.dirs inode).bind (fun d =>
      if user ≠ uid ∧ d.owner = user ∧ s.parent = .absent then some { s with parent := .dir inode } else none)
  | .chmod user inode mode => (Table.get s.dirs inode).bind (fun d =>
      if user ≠ uid ∧ d.owner = user then some (s.put inode { d with mode }) else none)
  | .plant user inode name kind => (Table.get s.dirs inode).bind (fun d =>
      if user ≠ uid ∧ d.writable user = true ∧ kind.planted = true then some (s.put inode (d.set name (some ⟨user, kind⟩))) else none)
  | .unplant user inode name => (Table.get s.dirs inode).bind (fun d =>
      if user ≠ uid ∧ d.writable user = true then some (s.put inode (d.set name none)) else none)

-- Neither entry was created by another user.
def Dir.clean (d : Dir) : Bool := d.ipc.all (fun entry => decide (entry.creator = uid)) && d.pid.all (fun entry => decide (entry.creator = uid))

-- The parent is the caller's with the expected mode, and this holds of it.
def Host.Holds (s : Host) (inode : Nat) (holds : Dir → Prop) : Prop := s.parent = .dir inode ∧
  ∃ d, Table.get s.dirs inode = some d ∧ d.owner = uid ∧ d.mode = expectedIpcParentMode service ∧ holds d

def Dir.Bound (d : Dir) (bound : Nat) : Prop := d.ipc = some ⟨uid, .socket (some bound)⟩

-- What a run that returns has: a parent of its own, its socket in it, and nothing there that
-- another user created.
def Secured (s : Host) (bound : Nat) : Prop := ∃ inode, s.Holds uid service inode (fun d => d.Bound uid bound ∧ d.clean uid = true)

end

end GotechDesk.Ipc
