import Mathlib

set_option autoImplicit false

namespace GotechDesk.Net

-- The digits of the bases up to sixteen, in lower case when written and in either when read.
def digit (value : Nat) : Char := if value < 10 then Char.ofNat (48 + value) else Char.ofNat (87 + value)

def digitValue (c : Char) : Option Nat :=
  if '0' ≤ c ∧ c ≤ '9' then some (c.toNat - 48)
  else if 'a' ≤ c ∧ c ≤ 'f' then some (c.toNat - 87)
  else if 'A' ≤ c ∧ c ≤ 'F' then some (c.toNat - 55)
  else none

-- A number without leading zeros; `width` bounds its digits.
def numberText (base : Nat) : Nat → Nat → List Char
  | 0, _ => []
  | width + 1, value => if value < base then [digit value] else numberText base width (value / base) ++ [digit (value % base)]

def readDigit (base : Nat) (value : Nat) (c : Char) : Option Nat :=
  (digitValue c).bind (fun d => if d < base then some (value * base + d) else none)

def readNumber (base : Nat) (text : List Char) : Option Nat := text.foldlM (readDigit base) 0

theorem digit_value (value : Nat) (small : value < 16) : digitValue (digit value) = some value := by
  interval_cases value <;> decide

theorem read_digit (base value next : Nat) (small : next < base) (based : base ≤ 16) :
    readDigit base value (digit next) = some (value * base + next) := by
  unfold readDigit
  rw [digit_value next (by omega)]
  exact if_pos small

theorem read_snoc (base : Nat) (text : List Char) (c : Char) :
    readNumber base (text ++ [c]) = (readNumber base text).bind (fun value => readDigit base value c) := by
  unfold readNumber
  rw [List.foldlM_append]
  cases List.foldlM (readDigit base) 0 text with
  | none => rfl
  | some value =>
      change (readDigit base value c).bind some = readDigit base value c
      exact Option.bind_fun_some _

section
variable (base width value : Nat)

theorem number_text_small (small : value < base) : numberText base (width + 1) value = [digit value] := if_pos small

theorem number_text_large (large : ¬ value < base) :
    numberText base (width + 1) value = numberText base width (value / base) ++ [digit (value % base)] := if_neg large

theorem read_number_text (based : base ≤ 16) (positive : 0 < base) (fits : value < base ^ width) :
    readNumber base (numberText base width value) = some value := by
  induction width generalizing value with
  | zero =>
      have zero : value = 0 := by simpa using fits
      rw [zero]
      rfl
  | succ width ih =>
      by_cases small : value < base
      · rw [number_text_small base width value small]
        have read := read_digit base 0 value small based
        rw [Nat.zero_mul, Nat.zero_add] at read
        change (readDigit base 0 (digit value)).bind some = some value
        rw [read]
        rfl
      · have shorter : value / base < base ^ width := by
          rw [Nat.div_lt_iff_lt_mul positive, ← Nat.pow_succ]
          exact fits
        rw [number_text_large base width value small, read_snoc, ih (value / base) shorter, Option.bind_some,
          read_digit base (value / base) (value % base) (Nat.mod_lt value positive) based, Nat.mul_comm, Nat.div_add_mod]

theorem number_text_ne_nil : numberText base (width + 1) value ≠ [] := by
  by_cases small : value < base
  · rw [number_text_small base width value small]
    exact List.cons_ne_nil _ _
  · rw [number_text_large base width value small]
    exact List.append_ne_nil_of_right_ne_nil _ (List.cons_ne_nil _ _)

theorem number_text_length : (numberText base width value).length ≤ width := by
  induction width generalizing value with
  | zero => exact Nat.le_refl 0
  | succ width ih =>
      by_cases small : value < base
      · rw [number_text_small base width value small, List.length_singleton]
        omega
      · have shorter := ih (value / base)
        rw [number_text_large base width value small, List.length_append, List.length_singleton]
        omega

-- Every character of a number is one of its digits.
theorem number_text_digits (positive : 0 < base) (c : Char) (member : c ∈ numberText base width value) :
    ∃ d, d < base ∧ c = digit d := by
  induction width generalizing value with
  | zero => exact absurd member List.not_mem_nil
  | succ width ih =>
      by_cases small : value < base
      · rw [number_text_small base width value small] at member
        exact ⟨value, small, List.mem_singleton.mp member⟩
      · rw [number_text_large base width value small] at member
        obtain earlier | last := List.mem_append.mp member
        · exact ih (value / base) earlier
        · exact ⟨value % base, Nat.mod_lt value positive, List.mem_singleton.mp last⟩

-- A number of more than one digit does not begin with a zero.
theorem number_text_head (based : base ≤ 16) (positive : 0 < base) (fits : value < base ^ width)
    (nonzero : 0 < value) : (numberText base width value).head? ≠ some (digit 0) := by
  induction width generalizing value with
  | zero =>
      have zero : value = 0 := by simpa using fits
      omega
  | succ width ih =>
      by_cases small : value < base
      · rw [number_text_small base width value small]
        intro same
        have equal := congrArg (fun c => c.bind digitValue) same
        simp only [List.head?_cons, Option.bind_some, digit_value value (by omega), digit_value 0 (by omega)] at equal
        have zero := Option.some.inj equal
        omega
      · have shorter : value / base < base ^ width := by
          rw [Nat.div_lt_iff_lt_mul positive, ← Nat.pow_succ]
          exact fits
        have positiveRest : 0 < value / base := Nat.div_pos (by omega) positive
        have filled : numberText base width (value / base) ≠ [] := by
          cases width with
          | zero => simp at shorter; omega
          | succ width => exact number_text_ne_nil base width _
        rw [number_text_large base width value small, List.head?_append_of_ne_nil _ filled]
        exact ih (value / base) shorter positiveRest

end

end GotechDesk.Net
