import Mathlib

set_option autoImplicit false

namespace GotechDesk.ClipboardService

abbrev Bytes := List UInt8

-- A clipboard entry of the message; its format is the number of the enumeration, known or not.
structure Clipboard where
  compress : Bool
  content : Bytes
  width : Int32
  height : Int32
  format : Int32
  specialName : String
deriving DecidableEq, Repr

inductive ImageData where
  | rgba (width height : Nat) (bytes : Bytes)
  | png (bytes : Bytes)
  | svg (text : String)
deriving DecidableEq, Repr

-- What the system clipboard is given and gives.
inductive ClipboardData where
  | text (s : String)
  | rtf (s : String)
  | html (s : String)
  | image (image : ImageData)
  | fileUrl (urls : List String)
  | special (name : String) (data : Bytes)
  | none
deriving DecidableEq, Repr

def formatText : Int32 := 0
def formatRtf : Int32 := 1
def formatHtml : Int32 := 2
def formatImageRgba : Int32 := 21
def formatImagePng : Int32 := 22
def formatImageSvg : Int32 := 23
def formatSpecial : Int32 := 31

structure Compression where
  compress : Bytes → Bytes
  decompress : Bytes → Bytes

def utf8Bytes (s : String) : Bytes := s.toUTF8.data.toList

def fromUtf8 (data : Bytes) : Option String := String.fromUTF8? (ByteArray.mk data.toArray)

-- An entry without a size or a name; the content is compressed when that is shorter.
def packed (zip : Compression) (data : Bytes) (format : Int32) : Clipboard :=
  let compressed := zip.compress data
  let compress := decide (compressed.length < data.length)
  { compress := compress, content := if compress then compressed else data, width := 0, height := 0, format := format, specialName := "" }

def plainToProto (zip : Compression) (s : String) (format : Int32) : Clipboard := packed zip (utf8Bytes s) format

def imageToProto (zip : Compression) : ImageData → Clipboard
  | .rgba width height bytes =>
      { packed zip bytes formatImageRgba with width := Int32.ofNat width, height := Int32.ofNat height }
  | .png bytes => { compress := false, content := bytes, width := 0, height := 0, format := formatImagePng, specialName := "" }
  | .svg text => packed zip (utf8Bytes text) formatImageSvg

def specialToProto (zip : Compression) (d : Bytes) (s : String) : Clipboard := { packed zip d formatSpecial with specialName := s }

def clipboardDataToProto (zip : Compression) : ClipboardData → Option Clipboard
  | .text s => some (plainToProto zip s formatText)
  | .rtf s => some (plainToProto zip s formatRtf)
  | .html s => some (plainToProto zip s formatHtml)
  | .image a => some (imageToProto zip a)
  | .special s d => some (specialToProto zip d s)
  | .fileUrl _ | .none => none

def createMultiClipboards (zip : Compression) (data : List ClipboardData) : List Clipboard := data.filterMap (clipboardDataToProto zip)

-- usize::try_from and checked_mul, on 64 bits.
def validRgbaDimensions (width height : Int32) (dataLen : Nat) : Option (Nat × Nat) :=
  if width.toInt < 0 ∨ height.toInt < 0 then none
  else
    let w := width.toInt.toNat
    let h := height.toInt.toNat
    if w = 0 ∨ h = 0 then none
    else if 2 ^ 64 ≤ w * h ∨ 2 ^ 64 ≤ w * h * 4 then none
    else if dataLen = w * h * 4 then some (w, h)
    else none

def Clipboard.bytes (zip : Compression) (clipboard : Clipboard) : Bytes :=
  if clipboard.compress then zip.decompress clipboard.content else clipboard.content

def fromClipboard (zip : Compression) (clipboard : Clipboard) : Option ClipboardData :=
  let data := clipboard.bytes zip
  if clipboard.format = formatText then (fromUtf8 data).map .text
  else if clipboard.format = formatRtf then (fromUtf8 data).map .rtf
  else if clipboard.format = formatHtml then (fromUtf8 data).map .html
  else if clipboard.format = formatImageRgba then
    (validRgbaDimensions clipboard.width clipboard.height data.length).map (fun size => .image (.rgba size.1 size.2 data))
  else if clipboard.format = formatImagePng then some (.image (.png data))
  else if clipboard.format = formatImageSvg then some (.image (.svg ((fromUtf8 data).getD "")))
  else if clipboard.format = formatSpecial then some (.special clipboard.specialName data)
  else none

def fromMultiClipboards (zip : Compression) (multiClipboards : List Clipboard) : List ClipboardData :=
  multiClipboards.filterMap (fromClipboard zip)

-- An image whose bytes are those of its size, a size that the message can hold.
def ImageData.wellFormed : ImageData → Prop
  | .rgba width height bytes => 0 < width ∧ 0 < height ∧ width < 2 ^ 31 ∧ height < 2 ^ 31 ∧ bytes.length = width * height * 4
  | .png _ | .svg _ => True

def ClipboardData.wellFormed : ClipboardData → Prop
  | .image picture => picture.wellFormed
  | .fileUrl _ | .none => False
  | _ => True

theorem fromUtf8_utf8Bytes (s : String) : fromUtf8 (utf8Bytes s) = some s := by
  have same : ByteArray.mk (utf8Bytes s).toArray = s.toByteArray := by simp [utf8Bytes]
  rw [fromUtf8, same, String.fromUTF8?, dif_pos s.isValidUTF8]
  rfl

theorem packed_bytes (zip : Compression) (inverts : ∀ data, zip.decompress (zip.compress data) = data) (data : Bytes) (format : Int32) :
    (packed zip data format).bytes zip = data := by
  unfold Clipboard.bytes packed
  by_cases shorter : (zip.compress data).length < data.length
  · simp [shorter, inverts]
  · simp [shorter]

theorem int32_toInt_ofNat (n : Nat) (small : n < 2 ^ 31) : (Int32.ofNat n).toInt = n := Int32.toInt_ofNat_of_lt small

theorem valid_dimensions (width height : Nat) (bytes : Bytes) (formed : (ImageData.rgba width height bytes).wellFormed) :
    validRgbaDimensions (Int32.ofNat width) (Int32.ofNat height) bytes.length = some (width, height) := by
  obtain ⟨wide, high, narrow, low, size⟩ := formed
  have area : width * height < 2 ^ 31 * 2 ^ 31 := Nat.mul_lt_mul_of_lt_of_lt narrow low
  unfold validRgbaDimensions
  rw [int32_toInt_ofNat width narrow, int32_toInt_ofNat height low]
  simp only [Int.toNat_natCast]
  rw [if_neg (by omega), if_neg (by omega), if_neg (by omega), if_pos size]

-- Every entry is read back as it was.
theorem from_to_proto (zip : Compression) (inverts : ∀ data, zip.decompress (zip.compress data) = data) (data : ClipboardData)
    (formed : data.wellFormed) : ∃ clipboard, clipboardDataToProto zip data = some clipboard ∧ fromClipboard zip clipboard = some data := by
  have read := packed_bytes zip inverts
  cases data with
  | text s =>
      have bytes : (plainToProto zip s formatText).bytes zip = utf8Bytes s := read (utf8Bytes s) formatText
      refine ⟨_, rfl, ?_⟩
      unfold fromClipboard
      rw [bytes]
      exact congrArg (Option.map ClipboardData.text) (fromUtf8_utf8Bytes s)
  | rtf s =>
      have bytes : (plainToProto zip s formatRtf).bytes zip = utf8Bytes s := read (utf8Bytes s) formatRtf
      refine ⟨_, rfl, ?_⟩
      unfold fromClipboard
      rw [bytes]
      exact congrArg (Option.map ClipboardData.rtf) (fromUtf8_utf8Bytes s)
  | html s =>
      have bytes : (plainToProto zip s formatHtml).bytes zip = utf8Bytes s := read (utf8Bytes s) formatHtml
      refine ⟨_, rfl, ?_⟩
      unfold fromClipboard
      rw [bytes]
      exact congrArg (Option.map ClipboardData.html) (fromUtf8_utf8Bytes s)
  | special name d =>
      have bytes : (specialToProto zip d name).bytes zip = d := read d formatSpecial
      refine ⟨_, rfl, ?_⟩
      unfold fromClipboard
      rw [bytes]
      rfl
  | fileUrl urls => exact formed.elim
  | none => exact formed.elim
  | image picture =>
      cases picture with
      | rgba width height content =>
          have bytes : (imageToProto zip (.rgba width height content)).bytes zip = content := read content formatImageRgba
          refine ⟨_, rfl, ?_⟩
          unfold fromClipboard
          rw [bytes]
          exact congrArg (Option.map _) (valid_dimensions width height content formed)
      | png content => exact ⟨_, rfl, rfl⟩
      | svg text =>
          have bytes : (imageToProto zip (.svg text)).bytes zip = utf8Bytes text := read (utf8Bytes text) formatImageSvg
          refine ⟨_, rfl, ?_⟩
          unfold fromClipboard
          rw [bytes]
          exact congrArg (fun read => some (ClipboardData.image (.svg (read.getD "")))) (fromUtf8_utf8Bytes text)

theorem from_create (zip : Compression) (inverts : ∀ data, zip.decompress (zip.compress data) = data) (v : List ClipboardData)
    (formed : ∀ data ∈ v, data.wellFormed) : fromMultiClipboards zip (createMultiClipboards zip v) = v := by
  induction v with
  | nil => rfl
  | cons data rest ih =>
      obtain ⟨clipboard, made, read⟩ := from_to_proto zip inverts data (formed data List.mem_cons_self)
      have later := ih (fun other member => formed other (List.mem_cons_of_mem _ member))
      unfold fromMultiClipboards createMultiClipboards at later ⊢
      rw [List.filterMap_cons_some made, List.filterMap_cons_some read, later]

end GotechDesk.ClipboardService
