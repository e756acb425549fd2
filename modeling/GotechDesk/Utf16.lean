import GotechDesk.LittleEndian

set_option autoImplicit false

namespace GotechDesk.Utf16

-- A character is one unit, or a high and a low surrogate.
def unitsOf (c : Char) : List Nat :=
  if c.toNat < 0x10000 then [c.toNat]
  else [0xD800 + (c.toNat - 0x10000) / 0x400, 0xDC00 + (c.toNat - 0x10000) % 0x400]

def units (text : List Char) : List Nat := text.flatMap unitsOf

def isHigh (unit : Nat) : Bool := 0xD800 ≤ unit && unit < 0xDC00

def isLow (unit : Nat) : Bool := 0xDC00 ≤ unit && unit < 0xE000

-- A surrogate on its own is not a text.
def decode : List Nat → Option (List Char)
  | [] => some []
  | unit :: rest =>
      if isHigh unit then
        match rest with
        | low :: after =>
            if isLow low then (decode after).map (Char.ofNat (0x10000 + (unit - 0xD800) * 0x400 + (low - 0xDC00)) :: ·) else none
        | [] => none
      else if isLow unit then none
      else (decode rest).map (Char.ofNat unit :: ·)

def bytes (text : List Char) : List UInt8 := (units text).flatMap (LittleEndian.put 2)

def pairs : List UInt8 → List (List UInt8)
  | low :: high :: rest => [low, high] :: pairs rest
  | _ => []

def decodeBytes (block : List UInt8) : Option (List Char) := decode ((pairs block).map LittleEndian.get)

theorem char_range (c : Char) : c.toNat < 0xD800 ∨ (0xE000 ≤ c.toNat ∧ c.toNat < 0x110000) := by
  have valid := c.valid
  simp only [UInt32.isValidChar, Nat.isValidChar] at valid
  have same : c.val.toNat = c.toNat := rfl
  rw [same] at valid
  omega

theorem units_of_bound (c : Char) (unit : Nat) (member : unit ∈ unitsOf c) : unit < 0x10000 := by
  have range := char_range c
  unfold unitsOf at member
  split at member
  · obtain rfl := List.mem_singleton.mp member
    assumption
  · simp only [List.mem_cons, List.not_mem_nil, or_false] at member
    omega

theorem units_bound (text : List Char) (unit : Nat) (member : unit ∈ units text) : unit < 0x10000 := by
  obtain ⟨c, _, own⟩ := List.mem_flatMap.mp member
  exact units_of_bound c unit own

-- Only the null character is written with a zero unit.
theorem units_of_nonzero (c : Char) (unit : Nat) (member : unit ∈ unitsOf c) (text : c ≠ '\x00') : unit ≠ 0 := by
  unfold unitsOf at member
  split at member
  · obtain rfl := List.mem_singleton.mp member
    intro zero
    exact text (Char.toNat_inj.mp zero)
  · simp only [List.mem_cons, List.not_mem_nil, or_false] at member
    omega

theorem units_nonzero (text : List Char) (plain : '\x00' ∉ text) (unit : Nat) (member : unit ∈ units text) : unit ≠ 0 := by
  obtain ⟨c, known, own⟩ := List.mem_flatMap.mp member
  exact units_of_nonzero c unit own (fun same => plain (same ▸ known))

theorem decode_plain (unit : Nat) (rest : List Nat) (high : isHigh unit = false) (low : isLow unit = false) :
    decode (unit :: rest) = (decode rest).map (Char.ofNat unit :: ·) := by
  cases rest with
  | nil => simp only [decode, high, low, Bool.false_eq_true, if_false]
  | cons next after => simp only [decode, high, low, Bool.false_eq_true, if_false]

theorem decode_pair (high low : Nat) (rest : List Nat) (isFirst : isHigh high = true) (isSecond : isLow low = true) :
    decode (high :: low :: rest) = (decode rest).map (Char.ofNat (0x10000 + (high - 0xD800) * 0x400 + (low - 0xDC00)) :: ·) := by
  simp only [decode, isFirst, isSecond, if_true]

theorem decode_char (c : Char) (rest : List Nat) : decode (unitsOf c ++ rest) = (decode rest).map (c :: ·) := by
  have range := char_range c
  unfold unitsOf
  by_cases small : c.toNat < 0x10000
  · have high : isHigh c.toNat = false := by
      simp only [isHigh, Bool.and_eq_false_iff, decide_eq_false_iff_not]
      omega
    have low : isLow c.toNat = false := by
      simp only [isLow, Bool.and_eq_false_iff, decide_eq_false_iff_not]
      omega
    rw [if_pos small, List.singleton_append, decode_plain _ _ high low, Char.ofNat_toNat]
  · have high : isHigh (0xD800 + (c.toNat - 0x10000) / 0x400) = true := by
      simp only [isHigh, Bool.and_eq_true, decide_eq_true_eq]
      omega
    have low : isLow (0xDC00 + (c.toNat - 0x10000) % 0x400) = true := by
      simp only [isLow, Bool.and_eq_true, decide_eq_true_eq]
      omega
    have value : 0x10000 + (0xD800 + (c.toNat - 0x10000) / 0x400 - 0xD800) * 0x400 +
        (0xDC00 + (c.toNat - 0x10000) % 0x400 - 0xDC00) = c.toNat := by omega
    rw [if_neg small, List.cons_append, List.singleton_append, decode_pair _ _ _ high low, value, Char.ofNat_toNat]

theorem decode_units (text : List Char) : decode (units text) = some text := by
  induction text with
  | nil => rfl
  | cons c rest ih =>
      have split : units (c :: rest) = unitsOf c ++ units rest := rfl
      rw [split, decode_char, ih, Option.map_some]

theorem pairs_put (unit : Nat) (rest : List UInt8) : pairs (LittleEndian.put 2 unit ++ rest) = LittleEndian.put 2 unit :: pairs rest := rfl

theorem pairs_units (all : List Nat) (rest : List UInt8) :
    pairs (all.flatMap (LittleEndian.put 2) ++ rest) = all.map (LittleEndian.put 2) ++ pairs rest := by
  induction all with
  | nil => rfl
  | cons unit others ih => rw [List.flatMap_cons, List.append_assoc, pairs_put, ih, List.map_cons, List.cons_append]

theorem bytes_length (text : List Char) : (bytes text).length = 2 * (units text).length := by
  unfold bytes
  induction units text with
  | nil => rfl
  | cons unit rest ih =>
      rw [List.flatMap_cons, List.length_append, ih, LittleEndian.put_length, List.length_cons]
      omega

theorem decode_bytes (text : List Char) : decodeBytes (bytes text) = some text := by
  have whole := pairs_units (units text) []
  rw [List.append_nil] at whole
  have back : ((units text).map (LittleEndian.put 2)).map LittleEndian.get = units text := by
    rw [List.map_map]
    conv => rhs; rw [← List.map_id (units text)]
    apply List.map_congr_left
    intro unit member
    exact LittleEndian.get_put_small 2 unit (units_bound text unit member)
  rw [decodeBytes, bytes, whole, show pairs [] = [] from rfl, List.append_nil, back, decode_units]

end GotechDesk.Utf16
