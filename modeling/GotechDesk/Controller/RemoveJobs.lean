import GotechDesk.FileTransfer.ReadCompletion

set_option autoImplicit false

namespace GotechDesk.Controller

open FileTransfer (Name Style FileEntry JobType asUsize)

-- A Vec holds at most as many entries as an isize counts.
abbrev Entries := { files : List FileEntry // files.length < 2 ^ 63 }

-- Beside the fields of the source a job keeps its number and the list it was made with.
structure RemoveJob where
  files : Entries
  path : Name
  sep : Name
  isRemote : Bool
  noConfirm : Bool
  serial : Nat
  listed : Entries
deriving DecidableEq, Repr

def RemoveJob.new (files : Entries) (path sep : Name) (isRemote : Bool) (serial : Nat) : RemoveJob :=
  { files := files, path := path, sep := sep, isRemote := isRemote, noConfirm := false, serial := serial, listed := files }

structure Transfer where
  id : Int32
  type : JobType
deriving DecidableEq, Repr

def getJob (id : Int32) (jobs : List Transfer) : Option Transfer := jobs.find? (fun job => job.id == id)

def removeJob (id : Int32) (jobs : List Transfer) : List Transfer := jobs.eraseP (fun job => job.id == id)

inductive Command where
  | sendFiles (id : Int32) (type : JobType) (isRemote : Bool)
  | addJob (id : Int32) (type : JobType) (isRemote : Bool)
  | setNoConfirm (id : Int32)
  | confirmDeleteFiles (id fileNum : Int32)
  | removeDirAll (id : Int32) (path : Name) (isRemote : Bool)
  | cancelJob (id : Int32)
  | removeDir (id : Int32) (path : Name)
  | removeFile (id : Int32) (path : Name) (fileNum : Int32) (isRemote : Bool)
  | createDir (id : Int32) (path : Name) (isRemote : Bool)
  | renameFile (id : Int32) (path newName : Name) (isRemote : Bool)
  | other
deriving DecidableEq, Repr

-- What the local file system answers to a command.
structure Outcome where
  listing : Option Entries
  fails : Bool

inductive FileResponse where
  | dir (id : Int32) (entries : Entries)
  | done (id fileNum : Int32)
  | error (id fileNum : Int32)
  | other

-- A command that a job has put into the loop's own channel carries the job's number.
structure Queued where
  command : Command
  owner : Option Nat
deriving DecidableEq, Repr

inductive Cause where
  | removed (id fileNum : Int32) (owner : Option Nat)
  | other
  | peer
deriving DecidableEq, Repr

-- A local removal that handle_job_status has sent on its own, with the job as it was then.
structure Removal where
  id : Int32
  job : RemoveJob
  index : Nat
  path : Name
  cause : Cause
deriving DecidableEq, Repr

structure Session where
  here : Style
  peer : Style

def Session.getPathSep (session : Session) (isRemote : Bool) : Name := [(if isRemote then session.peer else session.here).mainSep]

def transformWindowsPath (entries : Entries) : Entries :=
  ⟨entries.val.map (fun entry => { entry with name := entry.name.map (fun c => if c = '\\' then '/' else c) }), by
    rw [List.length_map]
    exact entries.property⟩

def Session.received (session : Session) (entries : Entries) : Entries :=
  match session.here, session.peer with
  | .unix, .windows => transformWindowsPath entries
  | _, _ => entries

structure Loop where
  removeJobs : Int32 → Option RemoveJob
  writeJobs : List Transfer
  readJobs : List Transfer
  queue : List Queued
  made : Nat
  removals : List Removal

def startLoop : Loop := { removeJobs := fun _ => none, writeJobs := [], readJobs := [], queue := [], made := 0, removals := [] }

def Loop.withJob (loop : Loop) (id : Int32) (job : Option RemoveJob) : Loop :=
  { loop with removeJobs := Function.update loop.removeJobs id job }

def Loop.send (loop : Loop) (queued : Queued) : Loop := { loop with queue := loop.queue ++ [queued] }

def Loop.record (loop : Loop) (removal : Removal) : Loop :=
  if removal.job.isRemote then loop else { loop with removals := loop.removals ++ [removal] }

def RemoveJob.pathOf (job : RemoveJob) (entry : FileEntry) : Name := job.path ++ job.sep ++ entry.name

def Loop.handleJobStatus (loop : Loop) (id fileNum : Int32) (cause : Cause) : Loop :=
  match loop.removeJobs id with
  | none => loop
  | some job =>
      if job.noConfirm then
        let next := asUsize (fileNum + 1)
        match job.files.val[next]? with
        | some entry =>
            let path := job.pathOf entry
            (loop.send { command := .removeFile id path (Int32.ofNat next) job.isRemote, owner := some job.serial }).record
              { id := id, job := job, index := next, path := path, cause := cause }
        | none => loop.withJob id none
      else loop

def Loop.cancelTransferJob (loop : Loop) (id : Int32) : Loop :=
  { loop.withJob id none with
    writeJobs := removeJob id loop.writeJobs
    readJobs := removeJob id loop.readJobs }

def Loop.insertJob (loop : Loop) (id : Int32) (files : Entries) (path sep : Name) (isRemote : Bool) : Loop :=
  { loop.withJob id (some (.new files path sep isRemote loop.made)) with made := loop.made + 1 }

def noEntries : Entries := ⟨[], by decide⟩

def Loop.handleMsgFromUi (session : Session) (loop : Loop) (queued : Queued) (outcome : Outcome) : Loop :=
  match queued.command with
  | .sendFiles id type isRemote | .addJob id type isRemote =>
      if isRemote then { loop with writeJobs := loop.writeJobs ++ [{ id := id, type := type }] }
      else if outcome.fails then loop.handleJobStatus id (-1) .other
      else { loop with readJobs := loop.readJobs ++ [{ id := id, type := type }] }
  | .setNoConfirm id => loop.withJob id ((loop.removeJobs id).map (fun job => { job with noConfirm := true }))
  | .confirmDeleteFiles _ _ => loop
  | .removeDirAll id path isRemote =>
      let sep := session.getPathSep isRemote
      if isRemote then loop.insertJob id noEntries path sep true
      else
        match outcome.listing with
        | some entries => loop.insertJob id entries path sep false
        | none => loop.handleJobStatus id (-1) .other
  | .cancelJob id => loop.cancelTransferJob id
  | .removeDir _ _ => loop
  | .removeFile id _ fileNum isRemote => if isRemote then loop else loop.handleJobStatus id fileNum (.removed id fileNum queued.owner)
  | .createDir id _ isRemote | .renameFile id _ _ isRemote => if isRemote then loop else loop.handleJobStatus id (-1) .other
  | .other => loop

-- A response that removes a transfer of a printer goes no further.
def Loop.ended (loop : Loop) (transfer : Option Transfer) (id fileNum : Int32) : Loop :=
  match transfer.map Transfer.type with
  | some .printer => loop
  | _ => loop.handleJobStatus id fileNum .peer

def Loop.handleFileResponse (session : Session) (loop : Loop) (rejects : Bool) : FileResponse → Loop
  | .dir id entries =>
      if (getJob id loop.writeJobs).isSome then
        if rejects then (loop.cancelTransferJob id).handleJobStatus id (-1) .peer else loop
      else loop.withJob id ((loop.removeJobs id).map (fun job => { job with files := session.received entries }))
  | .done id fileNum => { loop with writeJobs := removeJob id loop.writeJobs }.ended (getJob id loop.writeJobs) id fileNum
  | .error id fileNum =>
      match getJob id loop.writeJobs with
      | some job => { loop with writeJobs := removeJob id loop.writeJobs }.ended (some job) id fileNum
      | none => { loop with readJobs := removeJob id loop.readJobs }.ended (getJob id loop.readJobs) id fileNum
  | .other => loop

-- The commands of the user interface and those of the loop itself share one channel.
inductive Label where
  | ui (command : Command)
  | process (outcome : Outcome)
  | peer (response : FileResponse) (rejects : Bool)
  | readDone (id : Int32)

def Loop.step (session : Session) (loop : Loop) : Label → Option Loop
  | .ui command => some (loop.send { command := command, owner := none })
  | .process outcome =>
      match loop.queue with
      | [] => none
      | queued :: rest => some ({ loop with queue := rest }.handleMsgFromUi session queued outcome)
  | .peer response rejects => some (loop.handleFileResponse session rejects response)
  | .readDone id => some { loop with readJobs := removeJob id loop.readJobs }

-- What a delete job removes on its own is listed, is removed once, and follows the result of the
-- removal before it: the job's own, or one the user interface has asked for.
structure Guarded (loop : Loop) : Prop where
  own : ∀ removal ∈ loop.removals, ∃ entry, removal.job.listed.val[removal.index]? = some entry ∧ removal.path = removal.job.pathOf entry
  once : loop.removals.Pairwise (fun earlier later => earlier.id = later.id → earlier.job.serial = later.job.serial → earlier.index < later.index)
  after : ∀ removal ∈ loop.removals, ∃ fileNum owner, removal.cause = .removed removal.id fileNum owner ∧
    (owner = none ∨ owner = some removal.job.serial) ∧ asUsize (fileNum + 1) = removal.index

-- handle_job_status would remove the next file of a local job.
def Loop.advances (loop : Loop) (id fileNum : Int32) : Bool :=
  (loop.removeJobs id).any (fun job => !job.isRemote && job.noConfirm && decide (asUsize (fileNum + 1) < job.files.val.length))

def Queued.removes (queued : Queued) (id : Int32) : Bool :=
  match queued.command, queued.owner with
  | .removeFile other _ _ false, some _ => other == id
  | _, _ => false

def Loop.waits (loop : Loop) (id : Int32) : Bool := loop.queue.any (fun queued => queued.removes id)

def Loop.ahead (loop : Loop) (id fileNum : Int32) : Bool :=
  (loop.removeJobs id).all (fun job => loop.removals.all (fun removal =>
    removal.id != id || removal.job.serial != job.serial || decide (removal.index < asUsize (fileNum + 1))))

def Loop.quietCommand (loop : Loop) (queued : Queued) (outcome : Outcome) : Bool :=
  match queued.command with
  | .sendFiles id _ false | .addJob id _ false => !(outcome.fails && loop.advances id (-1))
  | .createDir id _ false | .renameFile id _ _ false => !loop.advances id (-1)
  | .removeDirAll id _ false => if outcome.listing.isSome then !loop.waits id else !loop.advances id (-1)
  | .removeFile id _ fileNum false => queued.owner.isSome || !loop.advances id fileNum || (!loop.waits id && loop.ahead id fileNum)
  | _ => true

def Loop.quietEnd (loop : Loop) (transfer : Option Transfer) (id fileNum : Int32) : Bool :=
  transfer.map Transfer.type == some .printer || !loop.advances id fileNum

-- No listing of the peer meets a local job; no answer of the peer and no other result under the
-- job's id comes while the job would go on; the user interface takes no id whose removal is under
-- way, and asks for no removal that would lead the job back.
def Loop.quiet (loop : Loop) : Label → Bool
  | .ui _ | .readDone _ => true
  | .process outcome => loop.queue.head?.all (fun queued => loop.quietCommand queued outcome)
  | .peer (.dir id _) _ => (getJob id loop.writeJobs).isSome || (loop.removeJobs id).all RemoveJob.isRemote
  | .peer (.done id fileNum) _ => loop.quietEnd (getJob id loop.writeJobs) id fileNum
  | .peer (.error id fileNum) _ => loop.quietEnd ((getJob id loop.writeJobs).or (getJob id loop.readJobs)) id fileNum
  | .peer .other _ => true

end GotechDesk.Controller
