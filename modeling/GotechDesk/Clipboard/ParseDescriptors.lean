import GotechDesk.Checked
import GotechDesk.Clipboard.FileListRoundTrip
import GotechDesk.Clipboard.FuseTree
import GotechDesk.Clipboard.PasteNames

set_option autoImplicit false

namespace GotechDesk.Clipboard

open Checked FileTransfer LittleEndian Segments

-- The parser as it runs: `none` is a read past the end of the data or a sum, difference or
-- product that does not fit its 64 bits.
def advance (count : Nat) (bytes : List UInt8) : Option (List UInt8) := if count ≤ bytes.length then some (bytes.drop count) else none

def getLe (width : Nat) (bytes : List UInt8) : Option (Nat × List UInt8) := (advance width bytes).map (fun rest => (get (bytes.take width), rest))

def checkedSize (fileSizeHigh fileSizeLow : Nat) : Option Nat :=
  (unsignedShl 64 fileSizeHigh 32).bind (fun high => unsigned 64 (high + fileSizeLow))

def checkedTime (flags lastWriteTime : Nat) : Option Int :=
  if flags &&& flagsFdLastWrite ≠ 0 ∧ lastWriteTime ≥ ldapEpochDelta then
    (unsignedSub lastWriteTime ldapEpochDelta).bind (fun since => (unsigned 64 (since * 100)).map Int.ofNat)
  else some 0

-- The fields of one record as they are read off the data.
structure RawRecord where
  flags : Nat
  attributes : Nat
  perm : Nat
  lastWriteTime : Nat
  fileSizeHigh : Nat
  fileSizeLow : Nat
  block : List UInt8

def readRecord (bytes : List UInt8) : Option (RawRecord × List UInt8) :=
  (getLe 4 bytes).bind (fun flags =>
    (advance 32 flags.2).bind (fun bytes =>
      (getLe 4 bytes).bind (fun attributes =>
        (advance 12 attributes.2).bind (fun bytes =>
          (getLe 4 bytes).bind (fun perm =>
            (getLe 8 perm.2).bind (fun lastWriteTime =>
              (getLe 4 lastWriteTime.2).bind (fun fileSizeHigh =>
                (getLe 4 fileSizeHigh.2).bind (fun fileSizeLow =>
                  (advance fileNameFieldSize fileSizeLow.2).map (fun rest =>
                    (⟨flags.1, attributes.1, perm.1 % 2 ^ 16, lastWriteTime.1, fileSizeHigh.1, fileSizeLow.1,
                      fileSizeLow.2.take fileNameFieldSize⟩, rest))))))))))

section
variable (wide : WideStrings)

def RawRecord.finish (record : RawRecord) (connId : Int32) (wstr : Name) (size : Nat) (lastModified : Int) : Except CliprdrError FileDescription :=
  let name := wstr.map (fun c => if c = '\\' then '/' else c)
  match validateFileName name with
  | .error error => .error error
  | .ok _ =>
      .ok
        { connId := connId
          name := name
          kind := if record.attributes &&& 0x10 ≠ 0 then .directory else .file
          atime := lastModified
          lastModified := lastModified
          lastMetadataChanged := lastModified
          creationTime := lastModified
          size := size
          perm := parsedPerm record.flags record.attributes record.perm }

def RawRecord.describe (record : RawRecord) (connId : Int32) : Option (Except CliprdrError FileDescription) :=
  match parsedName wide record.block with
  | .error error => some (.error error)
  | .ok wstr =>
      if record.flags &&& flagsFdAttributes = 0 then some (.error (.invalidRequest "file description must have valid attributes"))
      else (checkedSize record.fileSizeHigh record.fileSizeLow).bind (fun size =>
        (checkedTime record.flags record.lastWriteTime).map (fun lastModified => record.finish connId wstr size lastModified))

def checkedDescriptor (bytes : List UInt8) (connId : Int32) : Option (Except CliprdrError FileDescription × List UInt8) :=
  (readRecord bytes).bind (fun read => (read.1.describe wide connId).map (fun desc => (desc, read.2)))

def checkedEach (connId : Int32) : Nat → List UInt8 → Option (Except CliprdrError (List FileDescription))
  | 0, _ => some (.ok [])
  | count + 1, bytes =>
      (checkedDescriptor wide bytes connId).bind (fun parsed =>
        match parsed.1 with
        | .error error => some (.error error)
        | .ok desc => (checkedEach connId count parsed.2).map (Except.map (desc :: ·)))

def checkedDescriptors (pdu : List UInt8) (connId : Int32) : Option (Except CliprdrError (List FileDescription)) :=
  if pdu.length < 4 then some (.error (.invalidRequest "file descriptor request with infficient length"))
  else
    (getLe 4 pdu).bind (fun header =>
      if header.2 = [] ∧ header.1 = 0 then some (.ok [])
      else
        (unsigned 64 (fileDescriptorSize * header.1)).bind (fun size =>
          if header.2.length ≠ size then some (.error (.invalidRequest "file descriptor request with invalid length"))
          else checkedEach wide connId header.1 header.2))

-- The context that shows a peer's files in a mounted directory.
structure FuseContext where
  server : FuseServer
  mountPoint : Name
  connId : Int32

def FuseContext.formatDataResponseToUrls (now : Int) (ctx : FuseContext) (formatData : List UInt8) (connId : Int32) :
    Option (Except CliprdrError (List Name) × FuseContext) :=
  (checkedDescriptors wide formatData connId).map (fun parsed =>
    match parsed with
    | .error error => (.error error, ctx)
    | .ok files =>
        match ctx.server.loadFileList now files with
        | (.error error, server) => (.error error, { ctx with server := server })
        | (.ok _, server) => (.ok (server.listRoot.map (Style.unix.push ctx.mountPoint)), { ctx with server := server, connId := connId }))

end

end GotechDesk.Clipboard
