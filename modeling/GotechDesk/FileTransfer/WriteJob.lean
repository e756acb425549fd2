import GotechDesk.FileTransfer.ReadJob

set_option autoImplicit false

namespace GotechDesk.FileTransfer

-- How a digest is written into its file and read back.
structure DigestFormat where
  encode : FileDigest → Bytes
  decode : Bytes → Option FileDigest

def FileSystem.removeFile (style : Style) (fs : FileSystem) (target : Target) : FileSystem × Option String :=
  (fs.touch target).attempt .removeFile (target.key style) ((fs.touch target).removeAt (target.key style))

def FileSystem.rename (style : Style) (fs : FileSystem) (source target : Target) : FileSystem × Option String :=
  let named := (fs.touch source).touch target
  named.attempt .rename (source.key style) (named.renameTo (source.key style) (target.key style))

def FileSystem.create (style : Style) (fs : FileSystem) (target : Target) : FileSystem × Option String :=
  (fs.touch target).attempt .create (target.key style) ((fs.touch target).createAt (target.key style))

def FileSystem.writeFile (style : Style) (fs : FileSystem) (target : Target) (content : Bytes) : FileSystem × Option String :=
  (fs.touch target).attempt .write (target.key style) ((fs.touch target).writeFileAt (target.key style) content)

def FileSystem.openWrite (style : Style) (fs : FileSystem) (target : Target) : FileSystem × Option String :=
  (fs.touch target).attempt .open (target.key style) ((fs.touch target).openAt (target.key style))

def TransferJob.target (job : TransferJob) (name : Name) (role : Role) : Target := { base := job.base, name := name, role := role }

-- The entry a call is about, with its name checked again.
def TransferJob.resolved (style : Style) (fs : FileSystem) (job : TransferJob) : Option FileEntry :=
  job.entry.filter (fun entry => (job.resolveEntryPath style fs entry.name).isSome)

-- The modification time that is set at the end changes no name and no content, and is left out.
def TransferJob.modifyTime (style : Style) (fs : FileSystem) (job : TransferJob) : FileSystem :=
  match job.type, job.resolved style fs with
  | .generic, some entry =>
      let cleared := (fs.removeFile style (job.target entry.name .digest)).1
      (cleared.rename style (job.target entry.name .download) (job.target entry.name .entry)).1
  | _, _ => fs

def TransferJob.removeDownloadFile (style : Style) (fs : FileSystem) (job : TransferJob) : FileSystem :=
  match job.type, job.resolved style fs with
  | .generic, some entry =>
      let cleared := (fs.removeFile style (job.target entry.name .download)).1
      (cleared.removeFile style (job.target entry.name .digest)).1
  | _, _ => fs

-- Path::parent: none above a root or a prefix.
def parent (key : Key) : Option Key :=
  match key.getLast? with
  | some (.normal _) | some .parentDir | some .curDir => some key.dropLast
  | _ => none

def FileSystem.createParent (fs : FileSystem) (key : Key) : FileSystem := (parent key).elim fs fs.createDirAll

-- A digest that is there is removed before the download is created; a failure of that is reported.
def FileSystem.dropDigest (style : Style) (fs : FileSystem) (target : Target) : FileSystem × Option String :=
  if fs.exists (target.key style) then fs.removeFile style target else (fs, none)

def TransferJob.createPair (style : Style) (json : DigestFormat) (fs : FileSystem) (job : TransferJob) (name : Name) :
    FileSystem × Option String :=
  match fs.create style (job.target name .download) with
  | (created, some text) => (created, some text)
  | (created, none) => ((created.writeFile style (job.target name .digest) (json.encode job.digest)).1, none)

def TransferJob.createDownload (style : Style) (json : DigestFormat) (fs : FileSystem) (job : TransferJob) (name : Name) :
    FileSystem × Option String :=
  match fs.dropDigest style (job.target name .digest) with
  | (cleared, some text) => (cleared, some text)
  | (cleared, none) => job.createPair style json cleared name

def TransferJob.createEntry (style : Style) (json : DigestFormat) (fs : FileSystem) (job : TransferJob) (name : Name) :
    FileSystem × Option String :=
  match job.type with
  | .printer => fs.create style (job.target [] .entry)
  | .generic =>
      match joinValidatedPath style fs job.base name with
      | .error text => (fs, some text)
      | .ok _ => job.createDownload style json (fs.createParent ((job.target name .entry).key style)) name

-- What of the data of a write reaches the file.
def FileSystem.landed (fs : FileSystem) (data : Bytes) : Bytes := fs.lands.elim data (fun count => data.take count)

def FileSystem.handleFails (fs : FileSystem) (call : Call) : Option String := fs.fails call (fs.handle.getD [])

structure WriteResult where
  job : TransferJob
  fs : FileSystem
  error : Option String

def WriteResult.andThen (result : WriteResult) (next : TransferJob → FileSystem → WriteResult) : WriteResult :=
  if result.error.isSome then result else next result.job result.fs

def FileTransferBlock.payload (codec : Codec) (block : FileTransferBlock) : Bytes :=
  if block.compressed then codec.decompress block.data else block.data

def TransferJob.writeData (codec : Codec) (fs : FileSystem) (job : TransferJob) (block : FileTransferBlock) : WriteResult :=
  match job.dataStream with
  | none => { job := job, fs := fs, error := some (if block.compressed then "data stream is None" else "file is None") }
  | some stream =>
      let data := block.payload codec
      let written := if stream.writable then fs.writeHandle stream.pos (fs.landed data) else fs
      let moved := { job with dataStream := some { stream with pos := stream.pos + (fs.landed data).length } }
      match fs.handleFails .write with
      | some text => { job := moved, fs := written, error := some text }
      | none =>
          { job := { moved with finishedSize := job.finishedSize + data.length, transferred := job.transferred + block.data.length },
            fs := written, error := none }

def TransferJob.openEntry (style : Style) (json : DigestFormat) (fs : FileSystem) (job : TransferJob) (name : Name) : WriteResult :=
  match job.createEntry style json fs name with
  | (after, some text) => { job := job, fs := after, error := some text }
  | (after, none) => { job := { job with dataStream := some { writable := true, pos := 0 } }, fs := after, error := none }

def TransferJob.withFileNum (job : TransferJob) (fileNum : Int32) : TransferJob := { job with fileNum := fileNum }

-- The step to another entry, or to the first one: what was downloaded before is put in its place.
def TransferJob.switchEntry (style : Style) (json : DigestFormat) (fs : FileSystem) (job : TransferJob) (fileNum : Int32) (name : Name) :
    WriteResult :=
  let kept := job.modifyTime style fs
  match job.dataStream.bind (fun _ => kept.handleFails .sync) with
  | some text => { job := job, fs := kept, error := some text }
  | none => (job.withFileNum fileNum).openEntry style json kept name

def TransferJob.write (style : Style) (codec : Codec) (json : DigestFormat) (fs : FileSystem) (job : TransferJob)
    (block : FileTransferBlock) : WriteResult :=
  if block.id ≠ job.id then { job := job, fs := fs, error := some "Wrong id" }
  else
    match job.files[asUsize block.fileNum]? with
    | none => { job := job, fs := fs, error := some "Wrong file number" }
    | some entry =>
        if asUsize block.fileNum ≠ asUsize job.fileNum || job.dataStream.isNone then
          (job.switchEntry style json fs block.fileNum entry.name).andThen (fun job fs => job.writeData codec fs block)
        else job.writeData codec fs block

def TransferJob.seekTo (job : TransferJob) (writable : Bool) (offset : Nat) : TransferJob :=
  { job with dataStream := some { writable := writable, pos := offset }, transferred := job.transferred + offset,
             finishedSize := job.finishedSize + offset }

def TransferJob.seekDownload (style : Style) (fs : FileSystem) (job : TransferJob) (download : Target) (offset : Nat) :
    TransferJob × FileSystem :=
  match fs.openWrite style download with
  | (refused, some _) => (job, refused)
  | (opened, none) =>
      if (opened.handleFails .seek).isSome then (job, { opened with handle := fs.handle }) else (job.seekTo true offset, opened)

-- The download when it and its digest are there, else the file itself for reading.
def TransferJob.setStreamOffset (style : Style) (fs : FileSystem) (job : TransferJob) (fileNum : Nat) (offset : Nat) :
    TransferJob × FileSystem :=
  match job.files[fileNum]?.filter (fun entry => (job.resolveEntryPath style fs entry.name).isSome) with
  | none => (job, fs)
  | some entry =>
      let final := (job.target entry.name .entry).key style
      let download := job.target entry.name .download
      let digest := job.target entry.name .digest
      if fs.exists (download.key style) && fs.exists (digest.key style) then
        job.seekDownload style fs download offset
      else if fs.exists final && (fs.fails .open final).isNone && (fs.fails .seek final).isNone then (job.seekTo false offset, fs)
      else (job, fs)

def TransferJob.confirm (style : Style) (fs : FileSystem) (job : TransferJob) (r : FileTransferSendConfirmRequest) :
    TransferJob × FileSystem :=
  if job.fileNum ≠ r.fileNum then (job, fs)
  else
    match r.union with
    | some (.skip true) => (job.setFileSkipped, fs)
    | some (.skip false) => (job.setFileConfirmed true, fs)
    | some (.offsetBlk offset) =>
        if 0 < offset then (job.setFileConfirmed true).setStreamOffset style fs (asUsize r.fileNum) offset
        else (job.setFileConfirmed true, fs)
    | none => (job, fs)

end GotechDesk.FileTransfer
