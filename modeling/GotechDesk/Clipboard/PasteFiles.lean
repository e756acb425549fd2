import GotechDesk.Clipboard.FileList
import GotechDesk.FileTransfer.WriteJob

set_option autoImplicit false

namespace GotechDesk.Clipboard

open Segments FileTransfer

-- The calls of std::fs that a paste makes, on Unix paths given as text.
def pathKey (path : Name) : Key := Style.unix.key path

def pathExists (fs : FileSystem) (path : Name) : Bool := (fs.fails .metadata (pathKey path)).isNone && fs.exists (pathKey path)

-- create_new: nothing may stand there, a link no more than a file.
def createNewAt (fs : FileSystem) (key : Key) : Option FileSystem :=
  if (fs.node key).isSome || !fs.isDir key.dropLast then none else some (fs.put key (some (.file [])))

def createNewFile (fs : FileSystem) (path : Name) : FileSystem × Option String :=
  fs.attempt .create (pathKey path) (createNewAt fs (pathKey path))

def createDirAll (fs : FileSystem) (path : Name) : FileSystem × Option String :=
  let after := fs.createDirAll (pathKey path)
  (after, if after.isDir (pathKey path) then none else some "os error")

def renamePath (fs : FileSystem) (source target : Name) : FileSystem × Option String :=
  fs.attempt .rename (pathKey source) (fs.renameTo (pathKey source) (pathKey target))

def removeFile (fs : FileSystem) (path : Name) : FileSystem × Option String :=
  fs.attempt .removeFile (pathKey path) (if path = [] then none else fs.removeAt (pathKey path))

-- All of the data reaches the file, or the write fails and what the system lets through does.
def writeAll (fs : FileSystem) (pos : Nat) (data : Bytes) : FileSystem × Nat × Option String :=
  if data = [] then (fs, pos, none)
  else match fs.handleFails .write with
    | some err => (fs.writeHandle pos (fs.landed data), pos + (fs.landed data).length, some err)
    | none => (fs.writeHandle pos data, pos + data.length, none)

def fileName (path : Name) : Option Name :=
  match (Style.unix.components path).getLast? with
  | some (.normal segment) => some segment
  | _ => none

-- What is before and after the last dot. A dot in front does not count.
def rsplitFileAtDot (file : Name) : Option Name × Option Name :=
  if file = ['.', '.'] then (some file, none)
  else match (segments (· == '.') file).dropLast, (segments (· == '.') file).getLast? with
    | [], after => (none, after)
    | before, after => if joined '.' before = [] then (some file, none) else (some (joined '.' before), after)

def fileStem (path : Name) : Option Name := (fileName path).bind (fun file => (rsplitFileAtDot file).1.or (rsplitFileAtDot file).2)

def fileExtension (path : Name) : Option Name :=
  (fileName path).bind (fun file => (rsplitFileAtDot file).1.bind (fun _ => (rsplitFileAtDot file).2))

def isBlank (piece : Name) : Bool := piece = [] || piece = ['.']

def trimBlank (pieces : List Name) : List Name := pieces.rdropWhile isBlank

def withoutLast (pieces : List Name) : List Name := trimBlank (trimBlank pieces).dropLast

-- Path::parent as text, of a path that has a parent.
def parentPath (path : Name) : Name :=
  match path with
  | '/' :: body => '/' :: joined '/' (withoutLast (segments (· == '/') body))
  | _ =>
      match segments (· == '/') path with
      | ['.'] :: rest => joined '/' (['.'] :: withoutLast rest)
      | pieces => joined '/' (withoutLast pieces)

def withFileName (path newName : Name) : Name :=
  Style.unix.push (if (fileName path).isSome then parentPath path else path) newName

def hasParent (path : Name) : Bool := ((parent (Style.unix.components path))).isSome

-- The name that is tried as number i, when the path itself is taken.
def numbered (path : Name) (kind : FileType) (i : Nat) : Option Name :=
  match kind, fileExtension path with
  | .file, some ext => some (withFileName path ((fileStem path).getD [] ++ '-' :: (toString i).toList ++ '.' :: ext))
  | .file, none | .directory, _ => some (path ++ " (".toList ++ (toString i).toList ++ ")".toList)
  | .symlink, _ => none

def maxFileNameTries : Nat := 9999998

def firstFree (free : Name → Bool) (candidate : Nat → Option Name) : Nat → Nat → Option Name
  | 0, _ => none
  | tries + 1, i =>
      match candidate i with
      | none => none
      | some path => if free path then some path else firstFree free candidate tries (i + 1)

def getFirstFilename (fs : FileSystem) (path : Name) (kind : FileType) : Option Name :=
  if pathExists fs path then firstFree (fun path => !pathExists fs path) (numbered path kind) maxFileNameTries 1 else some path

def getNewFilename (fs : FileSystem) (path : Name) (kind : FileType) : Option Name :=
  if pathExists fs path then getFirstFilename fs path kind else some path

end GotechDesk.Clipboard
