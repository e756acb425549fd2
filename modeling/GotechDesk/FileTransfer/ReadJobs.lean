import GotechDesk.Machine
import GotechDesk.FileTransfer.WriteJob

set_option autoImplicit false

namespace GotechDesk.FileTransfer

-- What a job has sent and been told, with its file number at that moment.
inductive Event where
  | sent (fileNum : Int32) (response : FileResponse)
  | told (fileNum : Int32) (r : FileTransferSendConfirmRequest)
deriving DecidableEq, Repr

-- A job of the list with its history; the code reads none of the history.
structure Tracked where
  job : TransferJob
  first : Int32
  log : List Event
deriving DecidableEq, Repr

-- `finished` holds the jobs that a tick has taken out of the list.
structure ReadJobs where
  jobs : List Tracked
  finished : List Tracked
deriving DecidableEq, Repr

def Tracked.initJob (style : Style) (disk : Disk) (tracked : Tracked) : Tracked :=
  if tracked.job.isLastJob then tracked
  else
    match tracked.job.initDataStream style disk with
    | (job, .error text) =>
        { tracked with job := job, log := tracked.log ++ [.sent tracked.job.fileNum (.error job.id text job.fileNum)] }
    | (job, .ok responses) => { tracked with job := job, log := tracked.log ++ responses.map (.sent tracked.job.fileNum) }

def initJobs (style : Style) (disks : Nat → Disk) (jobs : List Tracked) : List Tracked :=
  jobs.mapIdx (fun place tracked => tracked.initJob style (disks place))

def TransferJob.lastResponse (job : TransferJob) : FileResponse :=
  match job.jobError with
  | some text => .error job.id text job.fileNum
  | none => .done job.id job.fileNum

-- One job is read; the flag says that it is finished.
def Tracked.readJob (style : Style) (codec : Codec) (disk : Disk) (tracked : Tracked) : Tracked × Bool :=
  match tracked.job.read style codec disk with
  | (job, .error text) =>
      ({ tracked with job := job, log := tracked.log ++ [.sent tracked.job.fileNum (.error job.id text job.fileNum)] }, false)
  | (job, .ok (some block)) => ({ tracked with job := job, log := tracked.log ++ [.sent tracked.job.fileNum (.block block)] }, false)
  | (job, .ok none) =>
      if job.jobCompleted then ({ tracked with job := job, log := tracked.log ++ [.sent job.fileNum job.lastResponse] }, true)
      else ({ tracked with job := job }, false)

-- The first job that is not left from an earlier session is read, and no other.
def readFirst (style : Style) (codec : Codec) (disk : Disk) : List Tracked → List Tracked × Option Int32
  | [] => ([], none)
  | tracked :: rest =>
      if tracked.job.isLastJob then
        let read := readFirst style codec disk rest
        (tracked :: read.1, read.2)
      else
        let read := tracked.readJob style codec disk
        (read.1 :: rest, if read.2 then some tracked.job.id else none)

def hasId (id : Int32) (tracked : Tracked) : Bool := tracked.job.id = id

def removeJob (id : Int32) (jobs : List Tracked) : Option Tracked × List Tracked := (jobs.find? (hasId id), jobs.eraseP (hasId id))

def handleReadJobs (style : Style) (codec : Codec) (disks : Nat → Disk) (disk : Disk) (state : ReadJobs) : ReadJobs :=
  match readFirst style codec disk (initJobs style disks state.jobs) with
  | (jobs, none) => { state with jobs := jobs }
  | (jobs, some id) => { jobs := (removeJob id jobs).2, finished := state.finished ++ (removeJob id jobs).1.toList }

-- The job that get_job finds is changed.
def modifyJob (id : Int32) (change : Tracked → Tracked) : List Tracked → List Tracked
  | [] => []
  | tracked :: rest => if hasId id tracked then change tracked :: rest else tracked :: modifyJob id change rest

def Tracked.confirm (style : Style) (fs : FileSystem) (r : FileTransferSendConfirmRequest) (tracked : Tracked) : Tracked :=
  { tracked with job := (tracked.job.confirm style fs r).1, log := tracked.log ++ [.told tracked.job.fileNum r] }

def Tracked.resume (tracked : Tracked) : Tracked :=
  { tracked with job := { tracked.job with isLastJob := false, isResume := true }.setFinishedSizeOnResume }

inductive ReadLabel where
  | start (id : Int32) (type : JobType) (base : Name) (fileNum : Int32) (enableOverwriteDetection isLastJob : Bool) (listed : List FileEntry)
  | confirm (fs : FileSystem) (r : FileTransferSendConfirmRequest)
  | resume (id : Int32)
  | cancel (id : Int32)
  | tick (disks : Nat → Disk) (disk : Disk)

def readStep (style : Style) (codec : Codec) (state : ReadJobs) : ReadLabel → Option ReadJobs
  | .start id type base fileNum detection isLastJob listed =>
      let job := { newRead id type base fileNum detection listed with isLastJob := isLastJob }
      some { state with jobs := state.jobs ++ [{ job := job, first := fileNum, log := [] }] }
  | .confirm fs r => some { state with jobs := modifyJob r.id (Tracked.confirm style fs r) state.jobs }
  | .resume id => some { state with jobs := modifyJob id Tracked.resume state.jobs }
  | .cancel id => some { state with jobs := (removeJob id state.jobs).2 }
  | .tick disks disk => some (handleReadJobs style codec disks disk state)

def noReadJobs : ReadJobs := { jobs := [], finished := [] }

-- An entry has been sent to its end, was refused by the peer, or has an error of its own.
inductive Settled (log : List Event) (entry : Nat) : Prop where
  | ended (fileNum id : Int32) (same : asUsize fileNum = entry)
      (sent : .sent fileNum (.block { id := id, fileNum := fileNum, data := [], compressed := false }) ∈ log) : Settled log entry
  | failed (fileNum id next : Int32) (text : String) (same : asUsize fileNum = entry)
      (sent : .sent fileNum (.error id text next) ∈ log) : Settled log entry
  | skipped (fileNum id : Int32) (same : asUsize fileNum = entry)
      (told : .told fileNum { id := id, fileNum := fileNum, union := some (.skip true) } ∈ log) : Settled log entry

def Settled.all (tracked : Tracked) : Prop :=
  ∀ entry, asUsize tracked.first ≤ entry → entry < tracked.job.files.length → Settled tracked.log entry

end GotechDesk.FileTransfer
