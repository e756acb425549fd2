import GotechDesk.Machine
import GotechDesk.Clipboard.FileContents
import GotechDesk.Clipboard.FileList

set_option autoImplicit false

namespace GotechDesk.Clipboard

-- What the regular files hold while they are served.
abbrev Disk := OsPath → Option (List UInt8)

-- A handle is the place its buffered reader has come to.
structure ServedFile extends LocalFile where
  handle : Option Nat
  offset : UInt64

-- The calls into the file system that fail while a request is served, with what they say.
structure Faults where
  opened : Option String := none
  filled : Option String := none
  sought : Option String := none
  read : Option String := none
  nextOpened : Option String := none
  nextFilled : Option String := none

inductive ClipboardFile where
  | contentsResponse (msgFlags streamId : Int32) (requestedData : List UInt8)
  | files (files : List (Name × UInt64))
deriving DecidableEq

def ServedFile.fault (file : ServedFile) (err : String) : CliprdrError := .fileError file.path.toStringLossy err

def ServedFile.loadHandle (disk : Disk) (opened filled : Option String) (file : ServedFile) : Except CliprdrError Unit × ServedFile :=
  if file.isDir = false ∧ file.handle = none then
    match opened.or (if (disk file.path).isNone then some "No such file or directory" else none), filled with
    | some err, _ | none, some err => (.error (file.fault err), file)
    | none, none => (.ok (), { file with handle := some 0 })
  else (.ok (), file)

def ServedFile.invalidateHandle (file : ServedFile) (err : String) : CliprdrError × ServedFile :=
  (file.fault err, { file with handle := none, offset := 0 })

-- read_exact at the place of the reader.
def readExact (disk : Disk) (path : OsPath) (place count : Nat) : Except String (List UInt8) :=
  let content := (disk path).getD []
  if place + count ≤ content.length then .ok ((content.drop place).take count) else .error "failed to fill whole buffer"

-- Sums and differences panic on overflow in a build that checks them and wrap in one that does
-- not; `none` is the panic.
def addU64 (checks : Bool) (a b : UInt64) : Option UInt64 := if checks = true ∧ 2 ^ 64 ≤ a.toNat + b.toNat then none else some (a + b)

def subU64 (checks : Bool) (a b : UInt64) : Option UInt64 := if checks = true ∧ a < b then none else some (a - b)

-- vec![0; n] panics when n bytes do not fit an isize.
def vecZeroed (n : UInt64) : Option (List UInt8) := if n.toNat < 2 ^ 63 then some (List.replicate n.toNat 0) else none

section
variable (checks : Bool) (disk : Disk) (faults : Faults)

def ServedFile.readFrom (file : ServedFile) (place count : Nat) (offset : UInt64) : Except String (List UInt8) :=
  if offset ≠ file.offset then
    match faults.sought, faults.read with
    | some err, _ | none, some err => .error err
    | none, none => readExact disk file.path offset.toNat count
  else
    match faults.read with
    | some err => .error err
    | none => readExact disk file.path place count

def ServedFile.advance (file : ServedFile) (newOffset : UInt64) : ServedFile :=
  if file.size ≤ newOffset then { file with handle := none, offset := 0 } else { file with handle := some newOffset.toNat, offset := newOffset }

def ServedFile.readExactAt (file : ServedFile) (count : Nat) (offset : UInt64) : Option (Except CliprdrError (List UInt8) × ServedFile) :=
  match file.loadHandle disk faults.opened faults.filled with
  | (.error error, loaded) => some (.error error, loaded)
  | (.ok _, loaded) =>
      match loaded.handle with
      | none => some (.error (loaded.fault "file handle not found"), loaded)
      | some place =>
          match loaded.readFrom disk faults place count offset with
          | .error err => some (.error (loaded.invalidateHandle err).1, (loaded.invalidateHandle err).2)
          | .ok data => (addU64 checks offset (UInt64.ofNat count)).map (fun newOffset => (.ok data, loaded.advance newOffset))

structure ClipFiles where
  fileList : List ServedFile
  firstFileIndex : UInt64

def readSize (file : ServedFile) (offset length : UInt64) : Option UInt64 :=
  (addU64 checks offset length).bind (fun last => if file.size < last then subU64 checks file.size offset else some length)

def noFileAtIndex (fileIdx : UInt64) (connId : Int32) : CliprdrError :=
  .invalidRequest ("invalid file index " ++ toString fileIdx ++ " requested from conn: " ++ toString connId)

def invalidReadingOffset (connId : Int32) : CliprdrError :=
  .invalidRequest ("invalid reading offset requested from conn: " ++ toString connId)

def ClipFiles.readRange (s : ClipFiles) (connId streamId : Int32) (fileIdx offset length : UInt64) :
    Option (Except CliprdrError (UInt64 × ClipboardFile) × ClipFiles) :=
  match s.fileList[fileIdx.toNat]? with
  | none => some (.error (noFileAtIndex fileIdx connId), s)
  | some file =>
      if file.size < offset then some (.error (invalidReadingOffset connId), s)
      else (readSize checks file offset length).bind (fun count =>
        (vecZeroed count).bind (fun buf =>
          (file.readExactAt checks disk faults buf.length offset).map (fun read =>
            (read.1.map (fun data => (fileIdx, .contentsResponse 1 streamId data)),
              { s with fileList := s.fileList.set fileIdx.toNat read.2 }))))

def ClipFiles.respond (s : ClipFiles) (connId : Int32) : ContentsRequest → Option (Except CliprdrError (UInt64 × ClipboardFile) × ClipFiles)
  | .size streamId fileIdx =>
      match s.fileList[fileIdx.toNat]? with
      | none => some (.error (noFileAtIndex fileIdx connId), s)
      | some file => some (.ok (fileIdx, .contentsResponse 1 streamId (LittleEndian.put 8 file.size.toNat)), s)
  | .range streamId fileIdx offset length => s.readRange checks disk faults connId streamId fileIdx offset length

-- The next file after the one that was read is opened ahead of its own request.
def hotReload : List ServedFile → Except CliprdrError Unit × List ServedFile
  | [] => (.ok (), [])
  | file :: rest =>
      if file.isDir then ((hotReload rest).1, file :: (hotReload rest).2)
      else
        let loaded := file.loadHandle disk faults.nextOpened faults.nextFilled
        (loaded.1, loaded.2 :: rest)

def ClipFiles.serveFileContents (s : ClipFiles) (connId : Int32) (request : ContentsRequest) :
    Option (Except CliprdrError ClipboardFile × ClipFiles) :=
  (s.respond checks disk faults connId request).bind (fun responded =>
    match responded.1 with
    | .error error => some (.error error, responded.2)
    | .ok (fileIdx, reply) => (addU64 checks fileIdx 1).map (fun next =>
        let reloaded := hotReload disk faults (responded.2.fileList.drop next.toNat)
        (reloaded.1.map (fun _ => reply), { responded.2 with fileList := responded.2.fileList.take next.toNat ++ reloaded.2 })))

def ClipFiles.getFilesForAudit (s : ClipFiles) : ContentsRequest → Option ClipboardFile
  | .size _ _ => none
  | .range _ fileIdx offset _ =>
      let files := (s.fileList.filter (fun file => (disk file.path).isSome)).map (fun file => (file.path.toStringLossy, file.size))
      if fileIdx = s.firstFileIndex ∧ offset = 0 ∧ files ≠ [] then some (.files files) else none

def ClipFiles.readFileContents (s : ClipFiles) (connId : Int32) (request : FileContentsRequest) :
    Option (List (Except CliprdrError ClipboardFile) × ClipFiles) :=
  match Clipboard.readFileContents request with
  | .error text => some ([.error (.invalidRequest text)], s)
  | .ok fcr => (s.serveFileContents checks disk faults connId fcr).map (fun served =>
      ((s.getFilesForAudit disk fcr).toList.map .ok ++ [served.1], served.2))

end

-- A file as it is put on the list: its size is the one it has on disk, which fits an off_t.
structure ListedFile (disk : Disk) where
  file : LocalFile
  bounded : file.size.toNat < 2 ^ 63
  unchanged : file.isDir = false → ∃ content, disk file.path = some content ∧ content.length = file.size.toNat

def ListedFile.fresh {disk : Disk} (listed : ListedFile disk) : ServedFile := { toLocalFile := listed.file, handle := none, offset := 0 }

def usizeMax : UInt64 := 0xFFFFFFFFFFFFFFFF

def firstFile (files : List ServedFile) : UInt64 :=
  ((files.findIdx? (fun file => !file.isDir)).map UInt64.ofNat).getD usizeMax

inductive ServeEvent (disk : Disk) where
  | request (connId : Int32) (request : FileContentsRequest) (faults : Faults)
  | syncFiles (files : List (ListedFile disk))
  | clear

-- A request that panics leaves the list as it was. A Vec has fewer than 2^63 elements.
def ClipFiles.step (checks : Bool) (disk : Disk) (s : ClipFiles) : ServeEvent disk → Option ClipFiles
  | .request connId request faults => some ((s.readFileContents checks disk faults connId request).elim s (fun served => served.2))
  | .syncFiles files =>
      if files.length < 2 ^ 63 then some ⟨files.map ListedFile.fresh, firstFile (files.map ListedFile.fresh)⟩ else none
  | .clear => some ⟨[], usizeMax⟩

def ClipFiles.start : ClipFiles := ⟨[], 0⟩

end GotechDesk.Clipboard
