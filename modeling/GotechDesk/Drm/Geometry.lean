import Mathlib

set_option autoImplicit false

namespace GotechDesk.Drm.Geometry

structure DrmDisplayInfo where
  name : List Char
  x : Int32
  y : Int32
  width : UInt32
  height : UInt32
  active : Bool
deriving DecidableEq

structure WaylandDisplayInfo where
  name : List Char
  x : Int32
  y : Int32
  width : Int32
  height : Int32
  logicalSize : Option (Int32 × Int32)
  transform : Int32
deriving DecidableEq

-- `scale` is the quotient to be taken, when it is not 1.
structure DisplayInfo (ρ : Type) where
  x : Int32
  y : Int32
  width : Int32
  height : Int32
  name : List Char
  online : Bool
  originalResolution : ρ
  scale : Option (Int32 × Int32)
deriving DecidableEq

-- What the loops of the assignment fill: the output of each connector, and the outputs
-- already given away.
structure Matches where
  matched : List (Option Nat)
  taken : List Bool
deriving DecidableEq

def Matches.assign (found : Matches) (connector output : Nat) : Matches :=
  { matched := found.matched.set connector (some output), taken := found.taken.set output true }

def Matches.output (found : Matches) (connector : Nat) : Option Nat := found.matched.getD connector none

def Matches.isTaken (found : Matches) (output : Nat) : Bool := found.taken.getD output false

-- A part of one byte that is an ASCII letter is a part of one letter.
def normalizeConnector (name : List Char) : List Char :=
  match name.splitOn '-' with
  | [first, [letter], last] => if letter.isAlpha then first ++ '-' :: last else name
  | _ => name

def sameSize (drm : DrmDisplayInfo) (wl : WaylandDisplayInfo) : Bool := wl.width == drm.width.toInt32 && wl.height == drm.height.toInt32

def sameMode (drm other : DrmDisplayInfo) : Bool := other.width == drm.width && other.height == drm.height

def nameStep (wl : List WaylandDisplayInfo) (found : Matches) (entry : DrmDisplayInfo × Nat) : Matches :=
  match wl.zipIdx.find? (fun output => !found.isTaken output.2 && normalizeConnector output.1.name == normalizeConnector entry.1.name) with
  | some output => found.assign entry.2 output.2
  | none => found

def freeSame (wl : List WaylandDisplayInfo) (found : Matches) (drm : DrmDisplayInfo) : List Nat :=
  (wl.zipIdx.filter (fun output => !found.isTaken output.2 && sameSize drm output.1)).map Prod.snd

def unmatchedSame (drm : List DrmDisplayInfo) (found : Matches) (display : DrmDisplayInfo) : Nat :=
  (drm.zipIdx.filter (fun other => (found.output other.2).isNone && sameMode display other.1)).length

def forcedStep (drm : List DrmDisplayInfo) (wl : List WaylandDisplayInfo) (found : Matches) (entry : DrmDisplayInfo × Nat) : Matches :=
  if (found.output entry.2).isSome then found
  else match freeSame wl found entry.1 with
    | [output] => if unmatchedSame drm found entry.1 = 1 then found.assign entry.2 output else found
    | _ => found

def unmatched (drm : List DrmDisplayInfo) (wl : List WaylandDisplayInfo) : Matches :=
  { matched := List.replicate drm.length none, taken := List.replicate wl.length false }

def nameMatches (drm : List DrmDisplayInfo) (wl : List WaylandDisplayInfo) : Matches :=
  drm.zipIdx.foldl (nameStep wl) (unmatched drm wl)

def identityMatches (drm : List DrmDisplayInfo) (wl : List WaylandDisplayInfo) : List (Option Nat) :=
  (drm.zipIdx.foldl (forcedStep drm wl) (nameMatches drm wl)).matched

def layoutStep (wl : List WaylandDisplayInfo) (found : Matches) (entry : DrmDisplayInfo × Nat) : Matches :=
  if (found.output entry.2).isSome then found
  else match (((wl.zipIdx.find? (fun output => !found.isTaken output.2 && sameSize entry.1 output.1)).map Prod.snd).or
      (found.taken.findIdx? (fun taken => !taken))) with
    | some output => found.assign entry.2 output
    | none => found

def takenBy (matched : List (Option Nat)) (count : Nat) : List Bool :=
  matched.foldl (fun taken output => output.elim taken (fun output => taken.set output true)) (List.replicate count false)

def assignWaylandOutputs (drm : List DrmDisplayInfo) (wl : List WaylandDisplayInfo) : List (Option Nat) :=
  (drm.zipIdx.foldl (layoutStep wl) { matched := identityMatches drm wl, taken := takenBy (identityMatches drm wl) wl.length }).matched

def rotatedDims {α : Type} (transform : Int32) (w h : α) : α × α := if transform = 90 ∨ transform = 270 then (h, w) else (w, h)

section
variable {ρ : Type} (getOriginalResolution : List Char → Int → Int → ρ)

def displayInfoFromDrm (drm : DrmDisplayInfo) : DisplayInfo ρ :=
  { x := drm.x, y := drm.y, width := drm.width.toInt32, height := drm.height.toInt32, name := drm.name, online := drm.active,
    originalResolution := getOriginalResolution drm.name drm.width.toNat drm.height.toNat, scale := none }

-- A rotated output that is known for sure: the sizes swap, and the original with them.
def swapRotated (drm : DrmDisplayInfo) (wl : WaylandDisplayInfo) (isIdentity : Bool) (info : DisplayInfo ρ) : DisplayInfo ρ :=
  if isIdentity ∧ (wl.transform = 90 ∨ wl.transform = 270) then
    { info with
      width := info.height
      height := info.width
      originalResolution := getOriginalResolution drm.name info.height.toInt info.width.toInt }
  else info

def adoptLogical (drm : DrmDisplayInfo) (wl : WaylandDisplayInfo) (info : DisplayInfo ρ) : DisplayInfo ρ :=
  match wl.logicalSize with
  | some (lw, lh) =>
      if 0 < lw ∧ 0 < lh then
        { info with scale := some (info.width, lw), originalResolution := getOriginalResolution drm.name lw.toInt lh.toInt }
      else info
  | none => info

def augmentDisplay (originOnly : Bool) (identity matched : Option Nat) (wl : List WaylandDisplayInfo) (drm : DrmDisplayInfo) : DisplayInfo ρ :=
  match matched.bind (fun output => wl[output]?) with
  | none => displayInfoFromDrm getOriginalResolution drm
  | some output =>
      let placed := { displayInfoFromDrm getOriginalResolution drm with x := output.x, y := output.y }
      let turned := swapRotated getOriginalResolution drm output (identity.isSome && identity == matched) placed
      if originOnly then turned else adoptLogical getOriginalResolution drm output turned

def augmentWithWaylandGeometryFrom (drm : List DrmDisplayInfo) (wl : List WaylandDisplayInfo) (matched : List (Option Nat)) : List (DisplayInfo ρ) :=
  if drm.isEmpty ∨ wl.isEmpty ∨ (wl.length = 1 ∧ 1 < drm.length) then drm.map (displayInfoFromDrm getOriginalResolution)
  else drm.zipIdx.map (fun entry =>
    augmentDisplay getOriginalResolution (decide (wl.length = 1)) ((identityMatches drm wl).getD entry.2 none) (matched.getD entry.2 none) wl entry.1)

-- The transform, the origin, and whether the missing snapshot was noted for the layout poll.
structure Delivery where
  transform : Int32
  origin : Option (Int32 × Int32)
  unrotatedPending : Bool
deriving DecidableEq

def transformAndOrigin (drm : List DrmDisplayInfo) (wireIdx : Nat) (wl : List WaylandDisplayInfo) : Delivery :=
  if wl.isEmpty ∨ (wl.length = 1 ∧ 1 < drm.length) then
    { transform := 0, origin := none, unrotatedPending := wl.isEmpty && !drm.isEmpty }
  else
    { transform := ((((identityMatches drm wl).getD wireIdx none).bind (fun output => wl[output]?)).map WaylandDisplayInfo.transform).elim 0
        (fun transform => if transform = 90 ∨ transform = 270 then transform else 0)
      origin := ((augmentWithWaylandGeometryFrom getOriginalResolution drm wl (assignWaylandOutputs drm wl))[wireIdx]?).map
        (fun info => (info.x, info.y))
      unrotatedPending := false }

end

end GotechDesk.Drm.Geometry
