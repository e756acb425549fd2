import GotechDesk.Utf16
import GotechDesk.Clipboard.OsPath
import GotechDesk.FileTransfer.TransferJob

set_option autoImplicit false

namespace GotechDesk.Clipboard

open Segments LittleEndian

abbrev Name := List Char

inductive CliprdrError where
  | conversionFailure
  | fileError (path : Name) (err : String)
  | invalidRequest (description : String)
  | commonError (description : String)
deriving DecidableEq

-- The wide strings of the utf16string crate: WString::from, and WStr::from_utf16le with
-- to_utf8 on what it accepts.
structure WideStrings where
  encode : Name → List UInt8
  decode : List UInt8 → Option Name

def flagsFdAttributes : Nat := 0x04
def flagsFdSize : Nat := 0x40
def flagsFdLastWrite : Nat := 0x20
def flagsFdProgressui : Nat := 0x4000
def flagsFdUnixMode : Nat := 0x08

def fileNameCodeUnits : Nat := 260
def fileNameFieldSize : Nat := fileNameCodeUnits * 2
def maxFileNameCodeUnits : Nat := fileNameCodeUnits - 1
def fileDescriptorSize : Nat := 592
def ldapEpochDelta : Nat := 116444772610000000

def isDrivePath : Name → Bool
  | letter :: ':' :: '/' :: _ => FileTransfer.isAsciiAlphabetic letter
  | _ => false

def validateFileName (name : Name) : Except CliprdrError Unit :=
  if isDrivePath name || (segments (· == '/') name).any (fun component => component = [] || component = ['.']) then
    .error (.invalidRequest "clipboard file name is not a normalized relative path")
  else match FileTransfer.validateFileNameNoTraversal .unix name with
    | .error text => .error (.invalidRequest text)
    | .ok _ => .ok ()

-- std::fs::Metadata: the time is in nanoseconds from the Unix epoch, when there is one.
structure Metadata where
  size : UInt64
  modified : Option Int
  mode : UInt32

def Metadata.isDir (mt : Metadata) : Bool := mt.mode &&& 0o170000 == 0o040000

def Metadata.readonly (mt : Metadata) : Bool := mt.mode &&& 0o222 == 0

structure LocalFile where
  path : OsPath
  descriptorName : Name
  size : UInt64
  lastWriteTime : Int
  isDir : Bool
  perm : UInt32
  readOnly : Bool
  hidden : Bool
  system : Bool
  archive : Bool
  normal : Bool

def descriptorNameTooLongError : CliprdrError := .invalidRequest "clipboard file name exceeds 259 UTF-16 code units"

def validatedDescriptorName (relativeRoot path : OsPath) : Except CliprdrError Name :=
  match path.stripPrefix relativeRoot with
  | none => .error (.invalidRequest "clipboard file path is outside its relative root")
  | some descriptorPath =>
      if descriptorPath.isAbsolute then .error (.invalidRequest "clipboard file path must be relative")
      else
        let descriptorName := descriptorPath.toStringLossy
        match validateFileName descriptorName with
        | .error error => .error error
        | .ok _ =>
            if (Utf16.units descriptorName).length > maxFileNameCodeUnits then .error descriptorNameTooLongError
            else .ok descriptorName

def LocalFile.tryOpen (metadata : OsPath → Except String Metadata) (relativeRoot path : OsPath) : Except CliprdrError LocalFile :=
  match validatedDescriptorName relativeRoot path with
  | .error error => .error error
  | .ok descriptorName =>
      match metadata path with
      | .error err => .error (.fileError path.toStringLossy err)
      | .ok mt =>
          let hidden := path.toStringLossy.head? == some '.'
          .ok
            { path := path
              descriptorName := descriptorName
              size := mt.size
              lastWriteTime := mt.modified.getD 0
              isDir := mt.isDir
              perm := mt.mode
              readOnly := mt.readonly
              hidden := hidden
              system := false
              archive := false
              normal := !(mt.isDir || mt.readonly || false || hidden || false) }

section
variable (wide : WideStrings)

def LocalFile.putDescriptorName (file : LocalFile) : Except CliprdrError (List UInt8) :=
  match validateFileName file.descriptorName with
  | .error error => .error error
  | .ok _ =>
      let name := wide.encode file.descriptorName
      let nameFieldSize := name.length + 2
      if nameFieldSize > fileNameFieldSize then .error descriptorNameTooLongError
      else .ok (name ++ put 2 0 ++ List.replicate (fileNameFieldSize - nameFieldSize) 0)

def LocalFile.fileAttributes (file : LocalFile) : Nat :=
  (if file.readOnly then 0x1 else 0) ||| (if file.hidden then 0x2 else 0) ||| (if file.system then 0x4 else 0) |||
    (if file.isDir then 0x10 else 0) ||| (if file.archive then 0x20 else 0) ||| (if file.normal then 0x80 else 0)

-- A time before the epoch counts as the epoch, and the nanoseconds are cut to 64 bits.
def LocalFile.win32Time (file : LocalFile) : Nat := file.lastWriteTime.toNat % 2 ^ 64 / 100 + ldapEpochDelta

def LocalFile.flags : Nat := flagsFdSize ||| flagsFdLastWrite ||| flagsFdAttributes ||| flagsFdProgressui ||| flagsFdUnixMode

def LocalFile.asBin (file : LocalFile) : Except CliprdrError (List UInt8) :=
  match file.putDescriptorName wide with
  | .error error => .error error
  | .ok name =>
      .ok (put 4 LocalFile.flags ++ (List.replicate 32 0 ++ (put 4 file.fileAttributes ++ (List.replicate 12 0 ++
        (put 4 file.perm.toNat ++ (put 8 file.win32Time ++ (put 4 (file.size.toNat / 2 ^ 32) ++
          (put 4 (file.size.toNat % 2 ^ 32) ++ name))))))))

def recordsOf : List LocalFile → Except CliprdrError (List UInt8)
  | [] => .ok []
  | file :: rest =>
      match file.asBin wide with
      | .error error => .error error
      | .ok record =>
          match recordsOf rest with
          | .error error => .error error
          | .ok records => .ok (record ++ records)

def buildFileListPdu (files : List LocalFile) : Except CliprdrError (List UInt8) :=
  match recordsOf wide files with
  | .error error => .error error
  | .ok records => .ok (put 4 files.length ++ records)

inductive FileType where
  | file
  | directory
  | symlink
deriving DecidableEq

structure FileDescription where
  connId : Int32
  name : Name
  kind : FileType
  atime : Int
  lastModified : Int
  lastMetadataChanged : Int
  creationTime : Int
  size : Nat
  perm : Nat

def permRead : Nat := 0o444
def permRw : Nat := 0o644
def permSelfRo : Nat := 0o400
def permRwx : Nat := 0o755

def parsedPerm (flags attributes perm : Nat) : Nat :=
  if flags &&& flagsFdUnixMode ≠ 0 then perm
  else if attributes = 0x80 then permRwx
  else if attributes &&& 0x01 ≠ 0 then permRead
  else if attributes &&& 0x02 ≠ 0 then permSelfRo
  else if attributes &&& 0x10 ≠ 0 then permRwx
  else permRw

def parsedTime (flags lastWriteTime : Nat) : Int :=
  if flags &&& flagsFdLastWrite ≠ 0 ∧ lastWriteTime ≥ ldapEpochDelta then ((lastWriteTime - ldapEpochDelta) * 100 % 2 ^ 64 : Nat) else 0

-- The units of the name field before its first null.
def nameBlock (block : List UInt8) : Option (List UInt8) :=
  ((Utf16.pairs block).findIdx? (fun unit => unit = [0, 0])).map (fun nameEnd => block.take (nameEnd * 2))

def parsedName (block : List UInt8) : Except CliprdrError Name :=
  match nameBlock block with
  | none => .error (.invalidRequest "clipboard file name is not null-terminated")
  | some units =>
      match wide.decode units with
      | none => .error .conversionFailure
      | some wstr => .ok wstr

-- One record off the front of the data. The length of the data has been checked.
def parseFileDescriptor (bytes : List UInt8) (connId : Int32) : Except CliprdrError FileDescription :=
  let flags := get (bytes.take 4)
  let bytes := (bytes.drop 4).drop 32
  let attributes := get (bytes.take 4)
  let bytes := (bytes.drop 4).drop 12
  let perm := get (bytes.take 4) % 2 ^ 16
  let bytes := bytes.drop 4
  let lastWriteTime := get (bytes.take 8)
  let bytes := bytes.drop 8
  let fileSizeHigh := get (bytes.take 4)
  let bytes := bytes.drop 4
  let fileSizeLow := get (bytes.take 4)
  let block := (bytes.drop 4).take fileNameFieldSize
  match parsedName wide block with
  | .error error => .error error
  | .ok wstr =>
      if flags &&& flagsFdAttributes = 0 then .error (.invalidRequest "file description must have valid attributes")
      else
        let name := wstr.map (fun c => if c = '\\' then '/' else c)
        match validateFileName name with
        | .error error => .error error
        | .ok _ =>
            let lastModified := parsedTime flags lastWriteTime
            .ok
              { connId := connId
                name := name
                kind := if attributes &&& 0x10 ≠ 0 then .directory else .file
                atime := lastModified
                lastModified := lastModified
                lastMetadataChanged := lastModified
                creationTime := lastModified
                size := fileSizeHigh * 2 ^ 32 + fileSizeLow
                perm := parsedPerm flags attributes perm }

def parseEach (connId : Int32) : Nat → List UInt8 → Except CliprdrError (List FileDescription)
  | 0, _ => .ok []
  | count + 1, bytes =>
      match parseFileDescriptor wide bytes connId with
      | .error error => .error error
      | .ok desc =>
          match parseEach connId count (bytes.drop fileDescriptorSize) with
          | .error error => .error error
          | .ok rest => .ok (desc :: rest)

def parseFileDescriptors (pdu : List UInt8) (connId : Int32) : Except CliprdrError (List FileDescription) :=
  if pdu.length < 4 then .error (.invalidRequest "file descriptor request with infficient length")
  else
    let count := get (pdu.take 4)
    let data := pdu.drop 4
    if data = [] ∧ count = 0 then .ok []
    else if data.length ≠ fileDescriptorSize * count then .error (.invalidRequest "file descriptor request with invalid length")
    else parseEach wide connId count data

end

end GotechDesk.Clipboard
