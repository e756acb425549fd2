import GotechDesk.Machine
import GotechDesk.FileTransfer.WriteJob

set_option autoImplicit false

namespace GotechDesk.FileTransfer

structure FileDirectory where
  id : Int32
  path : Name
  entries : List FileEntry
deriving DecidableEq, Repr

inductive PeerResponse where
  | dir (directory : FileDirectory)
  | file (response : FileResponse)
deriving DecidableEq, Repr

-- What a peer asks about read jobs.
inductive PeerMessage where
  | send (id : Int32) (path : Name) (fileNum : Int32)
  | confirm (r : FileTransferSendConfirmRequest)
  | cancel (id : Int32)
deriving DecidableEq, Repr

-- The protobuf form of a directory; only its two functions look into it.
structure DirectoryFormat (Wire : Type) where
  writeToBytes : FileDirectory → Except String Wire
  parseFromBytes : Wire → Except String FileDirectory

inductive FS where
  | readFile (path : Name) (id fileNum : Int32) (overwriteDetection : Bool)
  | cancelRead (id : Int32)
  | sendConfirmForRead (id fileNum : Int32) (skip : Bool) (offsetBlk : Nat)
  | sendConfirm (r : FileTransferSendConfirmRequest)
deriving DecidableEq, Repr

inductive Data (Wire : Type) where
  | readJobInitResult (id : Int32) (result : Except String Wire)
  | fileBlockFromCM (id fileNum : Int32) (data : Bytes) (compressed : Bool)
  | fileReadDone (id fileNum : Int32)
  | fileReadError (id fileNum : Int32) (err : String)
  | fileDigestFromCM (id fileNum : Int32) (lastModified fileSize : Nat) (isResume : Bool)

def Data.id {Wire : Type} : Data Wire → Int32
  | .readJobInitResult id _ => id
  | .fileBlockFromCM id _ _ _ => id
  | .fileReadDone id _ => id
  | .fileReadError id _ _ => id
  | .fileDigestFromCM id _ _ _ _ => id

structure Setup (Wire : Type) where
  style : Style
  codec : Codec
  format : DirectoryFormat Wire
  maxFiles : Nat
  overwriteDetection : Bool

-- The first element that get_job finds is changed.
def changeFirst {α : Type} (found : α → Bool) (change : α → α) : List α → List α
  | [] => []
  | entry :: rest => if found entry then change entry :: rest else entry :: changeFirst found change rest

def FileTransferSendConfirmRequest.skip (r : FileTransferSendConfirmRequest) : Bool :=
  match r.union with
  | some (.skip skipped) => skipped
  | _ => false

def FileTransferSendConfirmRequest.offsetBlk (r : FileTransferSendConfirmRequest) : Nat :=
  match r.union with
  | some (.offsetBlk offset) => offset
  | _ => 0

def checkFileCountLimit (maxFiles fileCount : Nat) : Except String Unit :=
  if maxFiles < fileCount then
    .error ("file transfer rejected: too many files (" ++ toString fileCount ++ " files exceeds limit of " ++ toString maxFiles ++
      "). Adjust 'file-transfer-max-files' option to increase limit.")
  else .ok ()

-- The connection manager's side. `serial` is the number of the Send a job comes from; the code
-- knows none of these numbers.
structure CmJob where
  serial : Nat
  job : TransferJob
deriving DecidableEq, Repr

def CmJob.hasId (id : Int32) (entry : CmJob) : Bool := entry.job.id = id

structure Result (Wire : Type) where
  serial : Nat
  data : Data Wire

section
variable {Wire : Type}

-- `listed` is what the recursive listing of the path finds.
def startReadJob (setup : Setup Wire) (path : Name) (fileNum id : Int32) (overwriteDetection : Bool) (listed : Except String (List FileEntry)) :
    Option TransferJob × Data Wire :=
  match listed with
  | .error text => (none, .readJobInitResult id (.error ("validation failed: " ++ text)))
  | .ok files =>
      match checkFileCountLimit setup.maxFiles files.length with
      | .error msg => (none, .readJobInitResult id (.error msg))
      | .ok _ =>
          match setup.format.writeToBytes { id := id, path := path, entries := files } with
          | .error text => (none, .readJobInitResult id (.error ("serialize failed: " ++ text)))
          | .ok bytes => (some (newRead id .generic path fileNum overwriteDetection files), .readJobInitResult id (.ok bytes))

def TransferJob.initDataStreamForCm (style : Style) (disk : Disk) (job : TransferJob) : TransferJob × Except String (Option (Nat × Nat)) :=
  match job.openDataStream style disk with
  | (opened, .error text) => (opened, .error text)
  | (opened, .ok true) => (opened, .ok none)
  | (opened, .ok false) =>
      if opened.needsDigest then
        match opened.getCurrentDigest style disk with
        | .error text => (opened, .error text)
        | .ok found => ({ opened with fileIsWaiting := true }, .ok (some found))
      else (opened, .ok none)

def initReadJobForCm (style : Style) (disk : Disk) (job : TransferJob) : TransferJob × Except String (List (Data Wire)) :=
  match job.initDataStreamForCm style disk with
  | (opened, .error text) => (opened, .error text)
  | (opened, .ok (some found)) => (opened, .ok [.fileDigestFromCM opened.id opened.fileNum found.1 found.2 opened.isResume])
  | (opened, .ok none) => (opened, .ok [])

-- What one turn of the loop leaves of a job, what it sends, and whether the job is finished.
structure ReadTurn (Wire : Type) where
  job : TransferJob
  sent : List (Data Wire)
  finished : Bool

def TransferJob.lastData (job : TransferJob) : Data Wire :=
  match job.jobError with
  | some err => .fileReadError job.id job.fileNum err
  | none => .fileReadDone job.id job.fileNum

def readForCm (setup : Setup Wire) (disk : Disk) (job : TransferJob) : ReadTurn Wire :=
  match job.read setup.style setup.codec disk with
  | (after, .error text) => { job := after, sent := [.fileReadError after.id after.fileNum text], finished := true }
  | (after, .ok (some block)) => { job := after, sent := [.fileBlockFromCM block.id block.fileNum block.data block.compressed], finished := false }
  | (after, .ok none) =>
      if after.jobCompleted then { job := after, sent := [after.lastData], finished := true }
      else { job := after, sent := [], finished := false }

structure TickRun (Wire : Type) where
  jobs : List CmJob
  results : List (Result Wire)
  finished : List Int32

def stamp (serial : Nat) (sent : List (Data Wire)) : List (Result Wire) := sent.map (Result.mk serial)

-- A job left from an earlier session or one that cannot be opened is passed over, and the first
-- other one ends the loop.
def tickJobs (setup : Setup Wire) (disks : Nat → Disk) (disk : Disk) : Nat → List CmJob → TickRun Wire
  | _, [] => { jobs := [], results := [], finished := [] }
  | place, entry :: rest =>
      if entry.job.isLastJob then
        let after := tickJobs setup disks disk (place + 1) rest
        { after with jobs := entry :: after.jobs }
      else
        match (initReadJobForCm setup.style (disks place) entry.job : TransferJob × Except String (List (Data Wire))) with
        | (job, .error text) =>
            let after := tickJobs setup disks disk (place + 1) rest
            { jobs := { entry with job := job } :: after.jobs, results := stamp entry.serial [.fileReadError job.id job.fileNum text] ++ after.results,
              finished := job.id :: after.finished }
        | (job, .ok sent) =>
            let turn := readForCm setup disk job
            { jobs := { entry with job := turn.job } :: rest, results := stamp entry.serial (sent ++ turn.sent),
              finished := if turn.finished then [turn.job.id] else [] }

def removeJobs {α : Type} (found : Int32 → α → Bool) (finished : List Int32) (jobs : List α) : List α :=
  finished.foldl (fun jobs id => jobs.eraseP (found id)) jobs

def confirmForRead (id fileNum : Int32) (skip : Bool) (offsetBlk : Nat) : FileTransferSendConfirmRequest :=
  { id := id, fileNum := fileNum, union := if skip then some (.skip true) else some (.offsetBlk offsetBlk) }

def CmJob.confirm (style : Style) (fs : FileSystem) (id : Int32) (skip : Bool) (offsetBlk : Nat) (entry : CmJob) : CmJob :=
  { entry with job := (entry.job.confirm style fs (confirmForRead id entry.job.fileNum skip offsetBlk)).1 }

-- What handle_fs does for read jobs; a SendConfirm is for the write jobs.
def handleFs (setup : Setup Wire) (listed : Except String (List FileEntry)) (fs : FileSystem) (serial : Nat) (jobs : List CmJob) :
    FS → List CmJob × List (Result Wire)
  | .readFile path id fileNum overwriteDetection =>
      let started := startReadJob setup path fileNum id overwriteDetection listed
      (jobs ++ started.1.toList.map (CmJob.mk serial), stamp serial [started.2])
  | .cancelRead id => (jobs.eraseP (CmJob.hasId id), [])
  | .sendConfirmForRead id _ skip offsetBlk => (changeFirst (CmJob.hasId id) (CmJob.confirm setup.style fs id skip offsetBlk) jobs, [])
  | .sendConfirm _ => (jobs, [])

-- The connection's side: the set of the ids it knows, and what a handler sends to the peer.
def handleReadJobInitResult (format : DirectoryFormat Wire) (ids : Finset Int32) (id : Int32) (result : Except String Wire) :
    Finset Int32 × List PeerResponse :=
  if id ∉ ids then (ids, [])
  else
    match result with
    | .error error => (ids.erase id, [.file (.error id error 0)])
    | .ok bytes =>
        match format.parseFromBytes bytes with
        | .error _ => (ids.erase id, [.file (.error id "internal error" 0)])
        | .ok dir => (ids, [.dir { id := id, path := dir.path, entries := dir.entries }])

def handleFileBlockFromCm (ids : Finset Int32) (id fileNum : Int32) (data : Bytes) (compressed : Bool) : Finset Int32 × List PeerResponse :=
  if id ∉ ids then (ids, []) else (ids, [.file (.block { id := id, fileNum := fileNum, data := data, compressed := compressed })])

def handleFileReadDone (ids : Finset Int32) (id fileNum : Int32) : Finset Int32 × List PeerResponse :=
  if id ∉ ids then (ids, []) else (ids.erase id, [.file (.done id fileNum)])

def handleFileReadError (ids : Finset Int32) (id fileNum : Int32) (err : String) : Finset Int32 × List PeerResponse :=
  if id ∉ ids then (ids, []) else (ids.erase id, [.file (.error id err fileNum)])

def handleFileDigestFromCm (ids : Finset Int32) (id fileNum : Int32) (lastModified fileSize : Nat) (isResume : Bool) :
    Finset Int32 × List PeerResponse :=
  if id ∉ ids then (ids, [])
  else
    (ids, [.file (.digest { id := id, fileNum := fileNum, lastModified := lastModified, fileSize := fileSize, isIdentical := false,
                            transferredSize := 0, isResume := isResume })])

def handleData (format : DirectoryFormat Wire) (ids : Finset Int32) : Data Wire → Finset Int32 × List PeerResponse
  | .readJobInitResult id result => handleReadJobInitResult format ids id result
  | .fileBlockFromCM id fileNum data compressed => handleFileBlockFromCm ids id fileNum data compressed
  | .fileReadDone id fileNum => handleFileReadDone ids id fileNum
  | .fileReadError id fileNum err => handleFileReadError ids id fileNum err
  | .fileDigestFromCM id fileNum lastModified fileSize isResume => handleFileDigestFromCm ids id fileNum lastModified fileSize isResume

-- A message to the manager, with what the peer said and the number of the latest Send.
structure Request where
  asked : PeerMessage
  serial : Nat
  fs : FS
deriving DecidableEq, Repr

-- A response the peer got, or an id the connection forgot: the Send it stems from and the latest one of its id.
structure Receipt where
  response : PeerResponse
  stems : Nat
  latest : Nat
deriving DecidableEq, Repr

structure Forgotten where
  stems : Nat
  latest : Nat
deriving DecidableEq, Repr

structure Delegated (Wire : Type) where
  cmReadJobIds : Finset Int32
  toCm : List Request
  fromCm : List (Result Wire)
  readJobs : List CmJob
  received : List Receipt
  forgotten : List Forgotten
  sends : Nat
  latest : Int32 → Nat

def noDelegated (Wire : Type) : Delegated Wire :=
  { cmReadJobIds := ∅, toCm := [], fromCm := [], readJobs := [], received := [], forgotten := [], sends := 0, latest := fun _ => 0 }

def Delegated.sendFs (state : Delegated Wire) (asked : PeerMessage) (fs : FS) : Delegated Wire :=
  { state with toCm := state.toCm ++ [{ asked := asked, serial := state.sends, fs := fs }] }

-- A Send of a file to be read by the manager.
def Delegated.send (setup : Setup Wire) (state : Delegated Wire) (id : Int32) (path : Name) (fileNum : Int32) : Delegated Wire :=
  let numbered :=
    { state with
      cmReadJobIds := insert id state.cmReadJobIds
      sends := state.sends + 1
      latest := fun other => if other = id then state.sends + 1 else state.latest other }
  numbered.sendFs (.send id path fileNum) (.readFile path id fileNum setup.overwriteDetection)

-- The connection has no read job of its own with this id.
def Delegated.confirm (state : Delegated Wire) (r : FileTransferSendConfirmRequest) : Delegated Wire :=
  if r.id ∈ state.cmReadJobIds then state.sendFs (.confirm r) (.sendConfirmForRead r.id r.fileNum r.skip r.offsetBlk)
  else state.sendFs (.confirm r) (.sendConfirm r)

-- The CancelWrite that goes before touches the write jobs only.
def Delegated.cancel (state : Delegated Wire) (id : Int32) : Delegated Wire :=
  ({ state with cmReadJobIds := state.cmReadJobIds.erase id } : Delegated Wire).sendFs (.cancel id) (.cancelRead id)

def Delegated.onMessage (setup : Setup Wire) (state : Delegated Wire) : PeerMessage → Delegated Wire
  | .send id path fileNum => state.send setup id path fileNum
  | .confirm r => state.confirm r
  | .cancel id => state.cancel id

def Delegated.take (setup : Setup Wire) (state : Delegated Wire) (listed : Except String (List FileEntry)) (fs : FileSystem) :
    Option (Delegated Wire) :=
  match state.toCm with
  | [] => none
  | request :: rest =>
      let handled := handleFs setup listed fs request.serial state.readJobs request.fs
      some { state with toCm := rest, readJobs := handled.1, fromCm := state.fromCm ++ handled.2 }

def Delegated.tick (setup : Setup Wire) (state : Delegated Wire) (disks : Nat → Disk) (disk : Disk) : Delegated Wire :=
  let ticked := tickJobs setup disks disk 0 state.readJobs
  { state with readJobs := removeJobs CmJob.hasId ticked.finished ticked.jobs, fromCm := state.fromCm ++ ticked.results }

def Delegated.deliver (setup : Setup Wire) (state : Delegated Wire) : Option (Delegated Wire) :=
  match state.fromCm with
  | [] => none
  | result :: rest =>
      let id := result.data.id
      let handled := handleData setup.format state.cmReadJobIds result.data
      let forgets := id ∈ state.cmReadJobIds && !decide (id ∈ handled.1)
      some
        { state with
          cmReadJobIds := handled.1
          fromCm := rest
          received := state.received ++ handled.2.map (fun response => { response := response, stems := result.serial, latest := state.latest id })
          forgotten := state.forgotten ++ if forgets then [{ stems := result.serial, latest := state.latest id }] else [] }

inductive DelegatedLabel where
  | message (asked : PeerMessage)
  | take (listed : Except String (List FileEntry)) (fs : FileSystem)
  | tick (disks : Nat → Disk) (disk : Disk)
  | deliver

def Delegated.step (setup : Setup Wire) (state : Delegated Wire) : DelegatedLabel → Option (Delegated Wire)
  | .message asked => some (state.onMessage setup asked)
  | .take listed fs => state.take setup listed fs
  | .tick disks disk => some (state.tick setup disks disk)
  | .deliver => state.deliver setup

-- What a result says to the peer when its id is known, and whether its id is forgotten then.
def Data.response (format : DirectoryFormat Wire) : Data Wire → PeerResponse
  | .readJobInitResult id (.error error) => .file (.error id error 0)
  | .readJobInitResult id (.ok bytes) =>
      match format.parseFromBytes bytes with
      | .error _ => .file (.error id "internal error" 0)
      | .ok dir => .dir { id := id, path := dir.path, entries := dir.entries }
  | .fileBlockFromCM id fileNum data compressed => .file (.block { id := id, fileNum := fileNum, data := data, compressed := compressed })
  | .fileReadDone id fileNum => .file (.done id fileNum)
  | .fileReadError id fileNum err => .file (.error id err fileNum)
  | .fileDigestFromCM id fileNum lastModified fileSize isResume =>
      .file (.digest { id := id, fileNum := fileNum, lastModified := lastModified, fileSize := fileSize, isIdentical := false,
                       transferredSize := 0, isResume := isResume })

def Data.last (format : DirectoryFormat Wire) : Data Wire → Bool
  | .readJobInitResult _ (.error _) => true
  | .readJobInitResult _ (.ok bytes) =>
      match format.parseFromBytes bytes with
      | .error _ => true
      | .ok _ => false
  | .fileReadDone _ _ => true
  | .fileReadError _ _ _ => true
  | .fileBlockFromCM _ _ _ _ => false
  | .fileDigestFromCM _ _ _ _ _ => false

theorem handle_known (format : DirectoryFormat Wire) (ids : Finset Int32) (data : Data Wire) (known : data.id ∈ ids) :
    handleData format ids data = (if data.last format then ids.erase data.id else ids, [data.response format]) := by
  cases data with
  | readJobInitResult id result =>
      have opened : id ∈ ids := known
      cases result with
      | error error => simp only [handleData, handleReadJobInitResult, Data.last, Data.response, Data.id, opened, not_true_eq_false, if_true, if_false]
      | ok bytes =>
          cases parsed : format.parseFromBytes bytes <;>
            simp [handleData, handleReadJobInitResult, Data.id, Data.last, Data.response, opened, parsed]
  | fileBlockFromCM id fileNum data compressed => exact if_neg (not_not_intro known)
  | fileReadDone id fileNum => exact if_neg (not_not_intro known)
  | fileReadError id fileNum err => exact if_neg (not_not_intro known)
  | fileDigestFromCM id fileNum lastModified fileSize isResume => exact if_neg (not_not_intro known)

end

end GotechDesk.FileTransfer
