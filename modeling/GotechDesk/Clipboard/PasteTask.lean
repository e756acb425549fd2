import GotechDesk.Clipboard.PasteFiles

set_option autoImplicit false

namespace GotechDesk.Clipboard

open FileTransfer

def recvRetryTimes : Nat := 3
def downloadExtension : Name := ".rddownload".toList
def contentsBlockSize : Nat := 4 * 1024 * 1024
def invalidFileIndex : Int := -1

-- `as i32` of a length.
@[irreducible] def asI32 (n : Nat) : Int := (n : Int).bmod 4294967296

-- The byte totals wrap like the 64-bit numbers they are.
def asU64Total (n : Nat) : Nat := n % 2 ^ 64

-- `fileHandle` is how far the open download has been written.
structure PasteTaskProgress where
  listIndex : Int
  offset : Nat
  totalSize : Nat
  currentSize : Nat
  downloadFileIndex : Int
  downloadFileSize : Nat
  downloadFilePath : Name
  downloadFileCurrentSize : Nat
  fileHandle : Option Nat
  error : Option CliprdrError
  isCanceled : Bool

structure PasteTaskHandle where
  progress : PasteTaskProgress
  targetDir : Name
  files : List FileDescription

def fileAt (files : List FileDescription) (i : Int) : Option FileDescription := if i < 0 then none else files[i.toNat]?

def PasteTaskHandle.isFinished (task : PasteTaskHandle) : Bool :=
  task.progress.isCanceled || task.progress.error.isSome || decide (asI32 task.files.length ≤ task.progress.listIndex)

def joinFilePath (fs : FileSystem) (targetDir name : Name) : Except CliprdrError Name :=
  match joinValidatedPath .unix fs targetDir name with
  | .error text => .error (.invalidRequest text)
  | .ok path => .ok path

def validatePaths (fs : FileSystem) (targetDir : Name) : List FileDescription → Option CliprdrError
  | [] => none
  | file :: rest =>
      match joinFilePath fs targetDir file.name with
      | .error error => some error
      | .ok _ => validatePaths fs targetDir rest

-- A paste and the disk it works on; a result of `none` is Ok.
structure Paste where
  task : PasteTaskHandle
  fs : FileSystem

def Paste.withProgress (paste : Paste) (progress : PasteTaskProgress) : Paste := { paste with task := { paste.task with progress := progress } }

def Paste.withError (paste : Paste) (error : CliprdrError) : Paste := paste.withProgress { paste.task.progress with error := some error }

def invalidIndex (i : Int) : CliprdrError := .invalidRequest ("Invalid file index: " ++ toString i)

def noFileIndex (i : Int) (count : Nat) : CliprdrError :=
  .invalidRequest ("Invalid file index: " ++ toString i ++ ", file count: " ++ toString count)

def createParents (fs : FileSystem) (path : Name) : FileSystem × Option CliprdrError :=
  if pathExists fs (parentPath path) then (fs, none)
  else match createDirAll fs (parentPath path) with
    | (after, some err) => (after, some (.fileError (parentPath path) err))
    | (after, none) => (after, none)

-- A download that cannot be created ends the task through its error, not through the result.
def Paste.openDownload (paste : Paste) (file : FileDescription) (downloadFilePath : Name) : Paste × Option CliprdrError :=
  match createParents paste.fs downloadFilePath with
  | (after, some error) => ({ paste with fs := after }, some error)
  | (after, none) =>
      match createNewFile after downloadFilePath with
      | (refused, some err) => ({ paste with fs := refused }.withError (.fileError downloadFilePath err), none)
      | (created, none) =>
          ({ paste with fs := { created with handle := some (pathKey downloadFilePath) } }.withProgress
            { paste.task.progress with
              downloadFileIndex := paste.task.progress.listIndex, downloadFileSize := file.size,
              downloadFilePath := downloadFilePath, downloadFileCurrentSize := 0, fileHandle := some 0 }, none)

def Paste.openNewWriter (paste : Paste) : Paste × Option CliprdrError :=
  match fileAt paste.task.files paste.task.progress.listIndex with
  | none => (paste, some (noFileIndex paste.task.progress.listIndex paste.task.files.length))
  | some file =>
      match joinFilePath paste.fs paste.task.targetDir file.name with
      | .error error => (paste, some error)
      | .ok originalFilePath =>
          match getFirstFilename paste.fs (originalFilePath ++ downloadExtension) file.kind with
          | none => (paste, some (.commonError ("Failed to get download file path: " ++ String.ofList originalFilePath)))
          | some downloadFilePath =>
              if hasParent downloadFilePath then paste.openDownload file downloadFilePath
              else (paste, some (.commonError ("Failed to get parent of the download file path: " ++ String.ofList originalFilePath)))

-- A file without content needs no request: it is made at once. Without a free name it is left out.
def createEmpty (fs : FileSystem) (targetDir : Name) (file : FileDescription) : FileSystem × Option CliprdrError :=
  match joinFilePath fs targetDir file.name with
  | .error error => (fs, some error)
  | .ok path =>
      match getNewFilename fs path file.kind with
      | none => (fs, none)
      | some path =>
          match createNewFile fs path with
          | (after, some err) => (after, some (.fileError path err))
          | (after, none) => (after, none)

def createDirectory (fs : FileSystem) (targetDir : Name) (file : FileDescription) : FileSystem × Option CliprdrError :=
  match joinFilePath fs targetDir file.name with
  | .error error => (fs, some error)
  | .ok path =>
      match createDirAll fs path with
      | (after, some err) => (after, some (.fileError path err))
      | (after, none) => (after, none)

-- An entry that is dealt with on this side alone.
def createEntry (fs : FileSystem) (targetDir : Name) (file : FileDescription) : FileSystem × Option CliprdrError :=
  match file.kind with
  | .file => createEmpty fs targetDir file
  | .directory => createDirectory fs targetDir file
  | .symlink => (fs, none)

-- The entries from number i on, up to the next file with content.
def Paste.nextEntries (paste : Paste) : Nat → Int → Paste × Option CliprdrError
  | 0, _ => (paste, none)
  | count + 1, i =>
      match fileAt paste.task.files i with
      | none => (paste, some (invalidIndex i))
      | some file =>
          if file.kind = .file ∧ file.size ≠ 0 then
            (paste.withProgress { paste.task.progress with listIndex := i, offset := 0 }).openNewWriter
          else match createEntry paste.fs paste.task.targetDir file with
            | (after, some error) => ({ paste with fs := after }, some error)
            | (after, none) => { paste with fs := after }.nextEntries count (i + 1)

-- The fraction of the file that shows how far the download is takes no part in it.
def Paste.onDone (paste : Paste) : Paste × Option CliprdrError :=
  let progress := paste.task.progress
  if progress.fileHandle.isNone || progress.downloadFileIndex = invalidFileIndex then (paste, none)
  else
    let closed := { paste with fs := { paste.fs with handle := none } }.withProgress { progress with fileHandle := none }
    match fileAt paste.task.files progress.downloadFileIndex with
    | none => (closed, none)
    | some file =>
        match joinFilePath paste.fs paste.task.targetDir file.name with
        | .error error => (closed, some error)
        | .ok path =>
            match getNewFilename closed.fs path file.kind with
            | none => (closed, none)
            | some renameToPath =>
                match renamePath closed.fs progress.downloadFilePath renameToPath with
                | (after, some err) => ({ closed with fs := after }, some (.fileError renameToPath err))
                | (after, none) =>
                    ({ closed with fs := after }.withProgress
                      { closed.task.progress with downloadFilePath := [], downloadFileIndex := invalidFileIndex }, none)

def PasteTaskProgress.past (progress : PasteTaskProgress) (count : Int) : PasteTaskProgress :=
  { progress with listIndex := count, offset := 0, downloadFileSize := 0, downloadFileCurrentSize := 0 }

-- The index leaves the list once no download is open.
def Paste.settle (paste : Paste) : Paste :=
  if paste.task.progress.fileHandle.isNone then paste.withProgress (paste.task.progress.past (asI32 paste.task.files.length)) else paste

def Paste.settled (result : Paste × Option CliprdrError) : Paste × Option CliprdrError :=
  if result.2.isSome then result else (result.1.settle, none)

def Paste.entriesAfter (paste : Paste) : Paste × Option CliprdrError :=
  paste.nextEntries (asI32 paste.task.files.length - (paste.task.progress.listIndex + 1)).toNat (paste.task.progress.listIndex + 1)

def Paste.updateNext (paste : Paste) (size : Nat) : Paste × Option CliprdrError :=
  if paste.task.isFinished then (paste, none)
  else
    let counted := paste.withProgress { paste.task.progress with currentSize := asU64Total (paste.task.progress.currentSize + size) }
    if counted.task.progress.listIndex = -1 then Paste.settled counted.entriesAfter
    else if counted.task.progress.offset + size ≥ counted.task.progress.downloadFileSize then
      match counted.onDone with
      | (done, some error) => (done, some error)
      | (done, none) => Paste.settled done.entriesAfter
    else
      Paste.settled
        (counted.withProgress
          { counted.task.progress with
            offset := counted.task.progress.offset + size,
            downloadFileCurrentSize := counted.task.progress.downloadFileCurrentSize + size }, none)

def Paste.onCancelled (paste : Paste) : Paste :=
  let closed := { paste with fs := { paste.fs with handle := none } }.withProgress { paste.task.progress with fileHandle := none }
  { closed with fs := (removeFile closed.fs paste.task.progress.downloadFilePath).1 }

def Paste.onError (paste : Paste) (error : CliprdrError) : Paste := (paste.withError error).onCancelled

def Paste.onFinished (paste : Paste) : Paste :=
  if paste.task.progress.error.isSome then paste.onCancelled
  else match paste.onDone with
    | (done, some error) => done.onError error
    | (done, none) =>
        if done.task.progress.currentSize ≠ done.task.progress.totalSize then
          done.withError (.invalidRequest "Failed to download all files")
        else done

def Paste.onErrorOf (result : Paste × Option CliprdrError) : Paste := result.2.elim result.1 result.1.onError

-- What a request asks for; FileContents has the form it travels in.
structure ContentsCall where
  connId : Int32
  streamId : Int
  offset : Nat
  cbRequested : Nat
deriving DecidableEq

def PasteTaskHandle.sendFileContentsRequest (task : PasteTaskHandle) : Except CliprdrError (Option ContentsCall) :=
  if task.isFinished then .ok none
  else match fileAt task.files task.progress.listIndex with
    | none => .error (invalidIndex task.progress.listIndex)
    | some file =>
        .ok (some
          { connId := file.connId, streamId := task.progress.listIndex, offset := task.progress.offset,
            cbRequested := min contentsBlockSize (file.size - task.progress.offset) })

-- After a step the task goes on with a request, or it has come to its end.
def Paste.goOn (paste : Paste) : Paste × Option ContentsCall :=
  if paste.task.isFinished then (paste.onFinished, none)
  else match paste.task.sendFileContentsRequest with
    | .error error => (paste.onError error, none)
    | .ok call => (paste, call)

def newTask (targetDir : Name) (files : List FileDescription) : PasteTaskHandle where
  progress :=
    { listIndex := -1, offset := 0, totalSize := asU64Total (files.map FileDescription.size).sum, currentSize := 0,
      downloadFileIndex := invalidFileIndex, downloadFileSize := 0, downloadFilePath := [], downloadFileCurrentSize := 0,
      fileHandle := none, error := none, isCanceled := false }
  targetDir := targetDir
  files := files

def Paste.start (fs : FileSystem) (targetDir : Name) (files : List FileDescription) : Paste × Option ContentsCall :=
  let fresh : Paste := { task := newTask targetDir files, fs := fs }
  let tried := match validatePaths fs targetDir files with
    | some error => (fresh, some error)
    | none => fresh.updateNext 0
  (Paste.onErrorOf tried).goOn

def Paste.cancel (paste : Paste) : Paste := (paste.withProgress { paste.task.progress with isCanceled := true }).onCancelled

structure FileContentsResponse where
  connId : Int32
  msgFlags : Int32
  streamId : Int
  requestedData : Bytes

def Paste.handleFileContentsResponse (paste : Paste) (data : Bytes) : Paste × Option CliprdrError :=
  match paste.task.progress.fileHandle with
  | none => (paste, some (.fileError paste.task.progress.downloadFilePath "file handle is not opened"))
  | some pos =>
      match writeAll paste.fs pos data with
      | (after, reached, some err) =>
          ({ paste with fs := after }.withProgress { paste.task.progress with fileHandle := some reached },
            some (.fileError paste.task.progress.downloadFilePath err))
      | (after, reached, none) =>
          ({ paste with fs := after }.withProgress { paste.task.progress with fileHandle := some reached }).updateNext data.length

inductive Verdict where
  | ignored
  | failed
  | accepted
deriving DecidableEq

-- An answer knows its connection and its stream, which is the list index, and no more.
def PasteTaskHandle.verdict (task : PasteTaskHandle) (response : FileContentsResponse) : Verdict :=
  if task.isFinished || response.streamId ≠ task.progress.listIndex then .ignored
  else if response.msgFlags ≠ 1 then .failed
  else match fileAt task.files response.streamId with
    | none => .ignored
    | some file => if file.connId = response.connId then .accepted else .ignored

def readFailed (response : FileContentsResponse) : CliprdrError :=
  .invalidRequest ("Failed to read file contents, stream id: " ++ toString response.streamId ++ ", msg_flags: " ++ toString response.msgFlags)

-- A failed answer counts as a retry, and one too many ends the task.
def Paste.onFailedAnswer (paste : Paste) (retryCount : Nat) (response : FileContentsResponse) : Paste :=
  if retryCount > recvRetryTimes then paste.withError (readFailed response) else paste

-- One answer in the worker, with the retries counted so far.
def Paste.receive (paste : Paste) (retryCount : Nat) (response : FileContentsResponse) : Paste × Nat × Option ContentsCall :=
  match paste.task.verdict response with
  | .ignored => (paste, retryCount, none)
  | .failed =>
      let answered := paste.onFailedAnswer (retryCount + 1) response
      (answered.goOn.1, if answered.task.isFinished then 0 else retryCount + 1, answered.goOn.2)
  | .accepted =>
      let answered := Paste.onErrorOf (paste.handleFileContentsResponse response.requestedData)
      (answered.goOn.1, if answered.task.isFinished then 0 else retryCount, answered.goOn.2)

-- Nothing has come for a while; `late` when the last request is older than the limit.
def Paste.checkReceiveTimeout (paste : Paste) (retryCount : Nat) (late : Bool) : Paste × Nat :=
  if paste.task.isFinished || !late then (paste, retryCount)
  else ((paste.withError (.invalidRequest "Failed to read file contents")).onFinished, 0)

end GotechDesk.Clipboard
