import GotechDesk.Machine
import GotechDesk.FileTransfer.FileFrames

set_option autoImplicit false

namespace GotechDesk.FileTransfer

-- What the system answers to the calls of one step.
structure SystemAnswers where
  fails : Call → Key → Option String
  lands : Option Nat

def FileSystem.under (fs : FileSystem) (answers : SystemAnswers) : FileSystem := { fs with fails := answers.fails, lands := answers.lands }

-- The history of the entry whose download is open: what has been received of it since the download
-- was created or taken up again, whether the last block was the empty one that ends a file, and whether
-- every byte has reached the file.
structure Reception where
  entry : Nat
  received : Bytes
  ended : Bool
  sound : Bool
deriving DecidableEq, Repr

-- `delivered` lists the entries that were received to their end before the job left them.
structure WriteState where
  job : Option TransferJob
  fs : FileSystem
  reception : Option Reception
  delivered : List (Nat × Bytes)

def Reception.complete (reception : Reception) : Bool := reception.ended && reception.sound

def newReception (entry : Nat) : Reception := { entry := entry, received := [], ended := false, sound := true }

def Reception.take (codec : Codec) (fs : FileSystem) (block : FileTransferBlock) (failed : Bool) (reception : Reception) : Reception :=
  { reception with received := reception.received ++ block.payload codec, ended := (block.payload codec).isEmpty,
                   sound := reception.sound && decide (fs.landed (block.payload codec) = block.payload codec) && !failed }

def leave (job : TransferJob) (state : WriteState) : List (Nat × Bytes) :=
  match state.reception with
  | none => state.delivered
  | some reception =>
      if reception.complete && decide (reception.entry = asUsize job.fileNum) then state.delivered ++ [(reception.entry, reception.received)]
      else state.delivered

def TransferJob.switches (job : TransferJob) (block : FileTransferBlock) : Bool :=
  asUsize block.fileNum ≠ asUsize job.fileNum || job.dataStream.isNone

def writeBlock (style : Style) (codec : Codec) (json : DigestFormat) (fs : FileSystem) (job : TransferJob) (state : WriteState)
    (block : FileTransferBlock) : WriteState :=
  let result := job.write style codec json fs block
  let after := { state with job := some result.job, fs := result.fs }
  match job.files[asUsize block.fileNum]? with
  | none => after
  | some entry =>
      if block.id ≠ job.id then after
      else if job.switches block then
        let opened := (job.switchEntry style json fs block.fileNum entry.name).error.isNone
        { after with
          reception := if opened then some ((newReception (asUsize block.fileNum)).take codec fs block result.error.isSome) else none,
          delivered := leave job state }
      else { after with reception := state.reception.map (Reception.take codec fs block result.error.isSome) }

-- What is resumed: the download as it is, taken up soundly when the digest beside it is the one of the
-- job and the offset is its length.
def resumed (style : Style) (json : DigestFormat) (fs : FileSystem) (job : TransferJob) (offset : Nat) : Option Reception :=
  match job.entry with
  | none => none
  | some entry =>
      match fs.node ((job.target entry.name .download).key style) with
      | some (.file content) =>
          let digest :=
            match fs.stat ((job.target entry.name .digest).key style) with
            | some (.file written) => json.decode written
            | _ => none
          some { entry := asUsize job.fileNum, received := content, ended := false,
                 sound := decide (offset = content.length) && decide (digest = some job.digest) }
      | _ => none

-- A seek that was made has counted its offset as transferred.
def confirmReception (style : Style) (json : DigestFormat) (fs : FileSystem) (job after : TransferJob) (state : WriteState)
    (r : FileTransferSendConfirmRequest) : Option Reception :=
  if job.fileNum ≠ r.fileNum then state.reception
  else
    match r.union with
    | some (.skip true) => none
    | some (.offsetBlk offset) =>
        if after.transferred = job.transferred then state.reception
        else if after.dataStream.any DataStream.writable then resumed style json fs job offset
        else none
    | _ => state.reception

inductive WriteLabel where
  | write (answers : SystemAnswers) (block : FileTransferBlock)
  | confirm (answers : SystemAnswers) (r : FileTransferSendConfirmRequest)
  | setDigest (size modified : Nat)
  | modifyTime (answers : SystemAnswers)
  | removeDownloadFile (answers : SystemAnswers)
  | drop

-- The job is taken out of the list when it is done, cancelled or has failed.
def writeStep (style : Style) (codec : Codec) (json : DigestFormat) (state : WriteState) (label : WriteLabel) : Option WriteState :=
  match state.job with
  | none => none
  | some job =>
      match label with
      | .write answers block => some (writeBlock style codec json (state.fs.under answers) job state block)
      | .confirm answers r =>
          let result := job.confirm style (state.fs.under answers) r
          some { state with job := some result.1, fs := result.2,
                            reception := confirmReception style json (state.fs.under answers) job result.1 state r }
      | .setDigest size modified => some { state with job := some (job.setDigest size modified) }
      | .modifyTime answers =>
          some { state with job := none, fs := job.modifyTime style (state.fs.under answers), reception := none, delivered := leave job state }
      | .removeDownloadFile answers =>
          some { state with job := none, fs := job.removeDownloadFile style (state.fs.under answers), reception := none }
      | .drop => some { state with job := none, reception := none }

def startWrite (job : TransferJob) (fs : FileSystem) : WriteState := { job := some job, fs := fs, reception := none, delivered := [] }

def TransferJob.placeOf (style : Style) (job : TransferJob) (role : Role) (entry : FileEntry) : Key := (job.target entry.name role).key style

-- The final path of an entry is as it was, or holds what was received of the entry to its end.
def Undamaged (style : Style) (job : TransferJob) (before : FileSystem) (state : WriteState) (index : Nat) (entry : FileEntry) : Prop :=
  state.fs.node (job.placeOf style .entry entry) = before.node (job.placeOf style .entry entry) ∨
    ∃ content, (index, content) ∈ state.delivered ∧ state.fs.node (job.placeOf style .entry entry) = some (.file content)

-- The job may leave its entry: there is no download of it, or it has come to its end.
def Leaves (style : Style) (fs : FileSystem) (job : TransferJob) (state : WriteState) : Prop :=
  ∀ entry, job.entry = some entry → fs.node (job.placeOf style .download entry) = none ∨
    ∃ reception, state.reception = some reception ∧ reception.entry = asUsize job.fileNum ∧ reception.complete = true

-- When a step is one that the claim holds for.
def Careful (style : Style) (state : WriteState) : WriteLabel → Prop
  | .write _ block =>
      ∀ job entry, state.job = some job → block.id = job.id → job.files[asUsize block.fileNum]? = some entry →
        (job.switches block = true → Leaves style state.fs job state) ∧
        (job.switches block = false → job.dataStream.any DataStream.writable = true → state.reception.isSome = true)
  | .modifyTime _ => ∀ job, state.job = some job → Leaves style state.fs job state
  | _ => True

-- The paths of the list do not run into each other.
structure Apart (style : Style) (job : TransferJob) : Prop where
  finals : ∀ (i j : Nat) (first second : FileEntry), job.files[i]? = some first → job.files[j]? = some second → i ≠ j →
    ¬ job.placeOf style .entry first <+: job.placeOf style .entry second
  siblings : ∀ (i j : Nat) (first second : FileEntry) (role : Role), job.files[i]? = some first → job.files[j]? = some second → role ≠ .entry →
    job.placeOf style .entry first ≠ job.placeOf style role second
  pair : ∀ (i : Nat) (entry : FileEntry), job.files[i]? = some entry → job.placeOf style .download entry ≠ job.placeOf style .digest entry

end GotechDesk.FileTransfer
