import GotechDesk.Segments

set_option autoImplicit false

namespace GotechDesk.Clipboard

open Segments

-- A path of a Unix file system is bytes, not text, with the rules of std::path for them.
abbrev OsPath := List UInt8

def slash : UInt8 := 0x2F

def dot : UInt8 := 0x2E

inductive PathComponent where
  | rootDir
  | curDir
  | parentDir
  | normal (segment : OsPath)
deriving DecidableEq

def parsePiece (piece : OsPath) : Option PathComponent :=
  if piece = [] ∨ piece = [dot] then none else if piece = [dot, dot] then some .parentDir else some (.normal piece)

-- What is left of a path: the component before its body, if it is still to come, and
-- the pieces of the body.
structure Components where
  lead : Option PathComponent
  pieces : List OsPath

def OsPath.isAbsolute (path : OsPath) : Bool := path.head? == some slash

def OsPath.components (path : OsPath) : Components :=
  if path.isAbsolute then ⟨some .rootDir, segments (· == slash) path.tail⟩
  else match segments (· == slash) path with
    | first :: rest => if first = [dot] then ⟨some .curDir, rest⟩ else ⟨none, first :: rest⟩
    | [] => ⟨none, []⟩

def nextPiece : List OsPath → Option (PathComponent × List OsPath)
  | [] => none
  | piece :: rest =>
      match parsePiece piece with
      | some component => some (component, rest)
      | none => nextPiece rest

def Components.next (components : Components) : Option (PathComponent × Components) :=
  match components.lead with
  | some component => some (component, ⟨none, components.pieces⟩)
  | none => (nextPiece components.pieces).map (fun found => (found.1, ⟨none, found.2⟩))

def Components.all (components : Components) : List PathComponent :=
  components.lead.toList ++ components.pieces.filterMap parsePiece

def iterAfter : Components → List PathComponent → Option Components
  | components, [] => some components
  | components, expected :: rest =>
      match components.next with
      | some (found, left) => if found = expected then iterAfter left rest else none
      | none => none

def isPadding (piece : OsPath) : Bool := (parsePiece piece).isNone

def trimRight (pieces : List OsPath) : List OsPath := (pieces.reverse.dropWhile isPadding).reverse

def Components.asPath (components : Components) : OsPath :=
  match components.lead with
  | some .rootDir => slash :: joined slash (trimRight components.pieces)
  | some _ => joined slash ([dot] :: trimRight components.pieces)
  | none => joined slash (trimRight (components.pieces.dropWhile isPadding))

def OsPath.stripPrefix (path base : OsPath) : Option OsPath :=
  (iterAfter path.components base.components.all).map Components.asPath

-- The second byte a UTF-8 sequence may have after its first, and its length.
def sequenceOf (first : UInt8) : Option (Nat × UInt8 × UInt8) :=
  if 0xC2 ≤ first ∧ first ≤ 0xDF then some (2, 0x80, 0xBF)
  else if first = 0xE0 then some (3, 0xA0, 0xBF)
  else if first = 0xED then some (3, 0x80, 0x9F)
  else if 0xE1 ≤ first ∧ first ≤ 0xEF then some (3, 0x80, 0xBF)
  else if first = 0xF0 then some (4, 0x90, 0xBF)
  else if 0xF1 ≤ first ∧ first ≤ 0xF3 then some (4, 0x80, 0xBF)
  else if first = 0xF4 then some (4, 0x80, 0x8F)
  else none

-- How many bytes of a sequence are there before it breaks off.
def continued : Nat → UInt8 → UInt8 → List UInt8 → List UInt8
  | 0, _, _, _ => []
  | _ + 1, _, _, [] => []
  | wanted + 1, low, high, byte :: rest => if low ≤ byte ∧ byte ≤ high then byte :: continued wanted 0x80 0xBF rest else []

def charOf (first : UInt8) (length : Nat) (tail : List UInt8) : Char :=
  Char.ofNat (tail.foldl (fun value byte => value * 64 + (byte.toNat - 0x80)) (first.toNat % 2 ^ (7 - length)))

-- One character of to_string_lossy, and how many bytes it takes: a sequence that breaks
-- off is replaced as a whole.
def lossyChar (first : UInt8) (rest : List UInt8) : Char × Nat :=
  if first < 0x80 then (Char.ofNat first.toNat, 0)
  else match sequenceOf first with
    | none => ('\uFFFD', 0)
    | some (length, low, high) =>
        let tail := continued (length - 1) low high rest
        if tail.length = length - 1 then (charOf first length tail, tail.length) else ('\uFFFD', tail.length)

def lossyFrom : Nat → List UInt8 → List Char
  | _, [] => []
  | skip + 1, _ :: rest => lossyFrom skip rest
  | 0, first :: rest => (lossyChar first rest).1 :: lossyFrom (lossyChar first rest).2 rest

def OsPath.toStringLossy (path : OsPath) : List Char := lossyFrom 0 path

example : OsPath.toStringLossy ("aé€😀".toUTF8.data.toList ++ [0xE2, 0x82, 0x62, 0xFF]) = "aé€😀\uFFFDb\uFFFD".toList := by decide

end GotechDesk.Clipboard
