import GotechDesk.FileTransfer.FileSystem

set_option autoImplicit false

namespace GotechDesk.FileTransfer

open Segments

structure FileEntry where
  name : Name
  size : Nat
  modifiedTime : Nat
deriving DecidableEq, Repr

inductive JobType where
  | generic
  | printer
deriving DecidableEq, Repr

structure FileDigest where
  size : Nat
  modified : Nat
deriving DecidableEq, Repr

-- An open file: for writing only or for reading only, and where it is in it.
structure DataStream where
  writable : Bool
  pos : Nat
deriving DecidableEq, Repr

-- A job whose data source is a file path; `base` is that path.
structure TransferJob where
  id : Int32
  type : JobType
  base : Name
  fileNum : Int32
  files : List FileEntry
  totalSize : Nat
  finishedSize : Nat
  transferred : Nat
  enableOverwriteDetection : Bool
  fileConfirmed : Bool
  fileIsWaiting : Bool
  fileSkipped : Bool
  dataStream : Option DataStream
  isLastJob : Bool
  isResume : Bool
  digest : FileDigest
deriving DecidableEq, Repr

structure FileTransferBlock where
  id : Int32
  fileNum : Int32
  data : Bytes
  compressed : Bool
deriving DecidableEq, Repr

structure FileTransferDigest where
  id : Int32
  fileNum : Int32
  lastModified : Nat
  fileSize : Nat
  isIdentical : Bool
  transferredSize : Nat
  isResume : Bool
deriving DecidableEq, Repr

inductive ConfirmUnion where
  | skip (skipped : Bool)
  | offsetBlk (offset : Nat)
deriving DecidableEq, Repr

structure FileTransferSendConfirmRequest where
  id : Int32
  fileNum : Int32
  union : Option ConfirmUnion
deriving DecidableEq, Repr

inductive FileResponse where
  | digest (digest : FileTransferDigest)
  | block (block : FileTransferBlock)
  | error (id : Int32) (error : String) (fileNum : Int32)
  | done (id : Int32) (fileNum : Int32)
deriving DecidableEq, Repr

-- `as usize` of an i32.
def asUsize (fileNum : Int32) : Nat := (fileNum.toInt % 2 ^ 64).toNat

def newJob (id : Int32) (type : JobType) (base : Name) (fileNum : Int32) (enableOverwriteDetection : Bool) : TransferJob :=
  { id := id, type := type, base := base, fileNum := fileNum, files := [], totalSize := 0, finishedSize := 0, transferred := 0,
    enableOverwriteDetection := enableOverwriteDetection, fileConfirmed := false, fileIsWaiting := false, fileSkipped := false,
    dataStream := none, isLastJob := false, isResume := false, digest := { size := 0, modified := 0 } }

def newWrite (id : Int32) (type : JobType) (base : Name) (fileNum : Int32) (enableOverwriteDetection : Bool) : TransferJob :=
  newJob id type base fileNum enableOverwriteDetection

-- `listed` is what the recursive listing of the path found.
def newRead (id : Int32) (type : JobType) (base : Name) (fileNum : Int32) (enableOverwriteDetection : Bool) (listed : List FileEntry) :
    TransferJob :=
  { newJob id type base fileNum enableOverwriteDetection with files := listed, totalSize := (listed.map FileEntry.size).sum }

def validateFileNameNoTraversal (style : Style) (name : Name) : Except String Unit :=
  if name.contains '\x00' then .error "file name contains null bytes"
  else if ((segments style.isSep name).filter (fun segment => segment ≠ [])).any (fun segment => segment = ['.', '.']) then
    .error "path traversal detected in file name"
  else
    match style with
    | .windows =>
        if parseDrive name then .error "absolute path detected in file name"
        else if name.head?.any style.isSep then .error "absolute path detected in file name"
        else .ok ()
    | .unix => if name.head?.any style.isSep then .error "absolute path detected in file name" else .ok ()

def validateEach (style : Style) : List FileEntry → Except String Unit
  | [] => .ok ()
  | file :: rest =>
      if file.name = [] then .error "empty file name in multi-file transfer"
      else
        match validateFileNameNoTraversal style file.name with
        | .error text => .error text
        | .ok _ => validateEach style rest

def validateTransferFileNames (style : Style) (files : List FileEntry) : Except String Unit :=
  if files.length = 1 && files.head?.any (fun file => file.name = []) then .ok () else validateEach style files

-- The walk of the symlink check: every normal component is pushed on the path so far and looked at.
def walkComponents (style : Style) (fs : FileSystem) : Name → List Component → Except String Unit
  | _, [] => .ok ()
  | current, .normal segment :: rest =>
      let next := style.push current segment
      match fs.symlinkMetadata (style.key next) with
      | .symlink => .error "symlink path component is not allowed"
      | .failed text => .error ("failed to validate path component '" ++ String.ofList next ++ "': " ++ text)
      | .notFound | .other => walkComponents style fs next rest
  | current, .curDir :: rest => walkComponents style fs current rest
  | _, _ :: _ => .error "invalid file name component"

def validateNoSymlinkComponents (style : Style) (fs : FileSystem) (base name : Name) : Except String Unit :=
  if name = [] then .ok () else walkComponents style fs base (style.components name)

def joinValidatedPath (style : Style) (fs : FileSystem) (base name : Name) : Except String Name :=
  match validateFileNameNoTraversal style name with
  | .error text => .error text
  | .ok _ =>
      match validateNoSymlinkComponents style fs base name with
      | .error text => .error text
      | .ok _ => .ok (join style base name)

def validateLinks (style : Style) (fs : FileSystem) (base : Name) : List FileEntry → Except String Unit
  | [] => .ok ()
  | file :: rest =>
      match validateNoSymlinkComponents style fs base file.name with
      | .error text => .error text
      | .ok _ => validateLinks style fs base rest

def TransferJob.setFiles (style : Style) (fs : FileSystem) (job : TransferJob) (files : List FileEntry) : Except String TransferJob :=
  match validateTransferFileNames style files with
  | .error text => .error text
  | .ok _ =>
      match validateLinks style fs job.base files with
      | .error text => .error text
      | .ok _ => .ok { job with totalSize := (files.map FileEntry.size).sum, files := files }

def TransferJob.setDigest (job : TransferJob) (size modified : Nat) : TransferJob := { job with digest := { size := size, modified := modified } }

def TransferJob.resolveEntryPath (style : Style) (fs : FileSystem) (job : TransferJob) (name : Name) : Option Name :=
  match job.type with
  | .generic => (joinValidatedPath style fs job.base name).toOption
  | .printer => some (join style job.base name)

def TransferJob.setFileConfirmed (job : TransferJob) (confirmed : Bool) : TransferJob :=
  { job with fileConfirmed := confirmed, fileSkipped := false }

def TransferJob.setFileSkipped (job : TransferJob) : TransferJob :=
  { job with dataStream := none, fileConfirmed := false, fileIsWaiting := false, fileNum := job.fileNum + 1, fileSkipped := true }

def TransferJob.setFinishedSizeOnResume (job : TransferJob) : TransferJob :=
  if job.isResume && decide (0 < job.fileNum) then
    { job with finishedSize := ((job.files.take (asUsize job.fileNum)).map FileEntry.size).sum }
  else job

def TransferJob.jobSkipped (job : TransferJob) : Bool := job.fileSkipped && decide (job.files.length = 1)

def TransferJob.jobCompleted (job : TransferJob) : Bool := !job.enableOverwriteDetection || (!job.fileConfirmed && !job.fileIsWaiting)

def TransferJob.jobError (job : TransferJob) : Option String := if job.jobSkipped then some "skipped" else none

end GotechDesk.FileTransfer
