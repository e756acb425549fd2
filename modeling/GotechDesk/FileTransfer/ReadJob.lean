import GotechDesk.FileTransfer.TransferJob

set_option autoImplicit false

namespace GotechDesk.FileTransfer

structure Codec where
  compress : Bytes → Bytes
  decompress : Bytes → Bytes

-- What the disk of the sender answers, by path. A read says which call of the loop it is, the
-- stream it is made on and the space it has.
structure Disk where
  opens : Name → Option String
  metadata : Name → DataStream → Except String (Nat × Nat)
  reads : Name → Nat → DataStream → Nat → Except String Bytes

def getExt (name : Name) : Name := if name.contains '.' then (name.reverse.takeWhile (fun c => c ≠ '.')).reverse else []

def compressedExts : List Name := ["xz", "gz", "zip", "7z", "rar", "bz2", "tgz", "png", "jpg"].map String.toList

def isCompressedFile (name : Name) : Bool := compressedExts.contains (getExt name)

def Style.fileName (style : Style) (path : Name) : Name :=
  match (style.components path).getLast? with
  | some (.normal segment) => segment
  | _ => []

def TransferJob.entry (job : TransferJob) : Option FileEntry := job.files[asUsize job.fileNum]?

-- The entry is given up and the next one becomes current.
def TransferJob.nextFile (job : TransferJob) : TransferJob :=
  { job with fileNum := job.fileNum + 1, dataStream := none, fileConfirmed := false, fileIsWaiting := false }

-- The file of the entry has been opened, and its peer is to be asked anew.
def TransferJob.reopened (job : TransferJob) : TransferJob :=
  { job with dataStream := some { writable := false, pos := 0 }, fileConfirmed := false, fileIsWaiting := false }

-- The flag of the answer says that the job is done.
def TransferJob.openDataStream (style : Style) (disk : Disk) (job : TransferJob) : TransferJob × Except String Bool :=
  match job.entry with
  | none => ({ job with dataStream := none }, .ok true)
  | some entry =>
      match job.dataStream with
      | some _ => (job, .ok false)
      | none =>
          match disk.opens (join style job.base entry.name) with
          | none => (job.reopened, .ok false)
          | some text => (job.nextFile, .error text)

def TransferJob.getCurrentDigest (style : Style) (disk : Disk) (job : TransferJob) : Except String (Nat × Nat) :=
  match job.dataStream with
  | none => .error "file is None"
  | some stream => disk.metadata (join style job.base (job.entry.elim [] FileEntry.name)) stream

def TransferJob.digestMessage (job : TransferJob) (found : Nat × Nat) : FileResponse :=
  .digest { id := job.id, fileNum := job.fileNum, lastModified := found.1, fileSize := found.2, isIdentical := false, transferredSize := 0,
            isResume := job.isResume }

def TransferJob.needsDigest (job : TransferJob) : Bool :=
  job.type = .generic && job.enableOverwriteDetection && !job.fileConfirmed && !job.fileIsWaiting

def TransferJob.initDataStream (style : Style) (disk : Disk) (job : TransferJob) : TransferJob × Except String (List FileResponse) :=
  match job.openDataStream style disk with
  | (opened, .error text) => (opened, .error text)
  | (opened, .ok true) => (opened, .ok [])
  | (opened, .ok false) =>
      if opened.needsDigest then
        match opened.getCurrentDigest style disk with
        | .error text => (opened, .error text)
        | .ok found => ({ opened with fileIsWaiting := true }, .ok [opened.digestMessage found])
      else (opened, .ok [])

def bufSize : Nat := 128 * 1024

-- The loop of `read`: until the buffer is full or a read gives nothing. Every turn but the last
-- adds a byte, so as many turns as the buffer has bytes are enough.
def fill (reads : Nat → DataStream → Nat → Except String Bytes) (stream : DataStream) : Nat → Nat → Bytes → Except String Bytes
  | 0, _, buf => .ok buf
  | turns + 1, call, buf =>
      match reads call { stream with pos := stream.pos + buf.length } (bufSize - buf.length) with
      | .error text => .error text
      | .ok data =>
          let filled := buf ++ data.take (bufSize - buf.length)
          if filled.length = buf.length || filled.length = bufSize then .ok filled else fill reads stream turns (call + 1) filled

-- The name that decides whether a block is worth compressing.
def TransferJob.readName (style : Style) (job : TransferJob) (entry : FileEntry) : Name :=
  if job.files.length = 1 && entry.name = [] then style.fileName job.base else entry.name

def pack (codec : Codec) (name : Name) (buf : Bytes) : Bytes × Bool :=
  if isCompressedFile name then (buf, false)
  else if (codec.compress buf).length < buf.length then (codec.compress buf, true)
  else (buf, false)

def TransferJob.advanceRead (job : TransferJob) (stream : DataStream) (read sent : Nat) : TransferJob :=
  { job with dataStream := some { stream with pos := stream.pos + read }, finishedSize := job.finishedSize + read,
             transferred := job.transferred + sent }

def TransferJob.read (style : Style) (codec : Codec) (disk : Disk) (job : TransferJob) :
    TransferJob × Except String (Option FileTransferBlock) :=
  if job.type = .generic && job.enableOverwriteDetection && !job.fileConfirmed then (job, .ok none)
  else
    match job.entry with
    | none => ({ job with dataStream := none }, .ok none)
    | some entry =>
        match job.dataStream with
        | none => (job, .error "data stream is None")
        | some stream =>
            match fill (disk.reads (join style job.base entry.name)) stream bufSize 0 [] with
            | .error text => (job.nextFile, .error text)
            | .ok [] => (job.nextFile, .ok (some { id := job.id, fileNum := job.fileNum, data := [], compressed := false }))
            | .ok buf =>
                let packed := pack codec (job.readName style entry) buf
                (job.advanceRead stream buf.length packed.1.length,
                 .ok (some { id := job.id, fileNum := job.fileNum, data := packed.1, compressed := packed.2 }))

end GotechDesk.FileTransfer
