import Mathlib

set_option autoImplicit false

namespace GotechDesk.Utf8

-- The bytes some text is encoded as.
def Valid (bytes : List UInt8) : Prop := ∃ chars : List Char, bytes = chars.flatMap String.utf8EncodeChar

def Continuation (b : UInt8) : Prop := b &&& 0xC0 = 0x80

instance (b : UInt8) : Decidable (Continuation b) := inferInstanceAs (Decidable (b &&& 0xC0 = 0x80))

-- A byte that opens a character of this many bytes.
def Lead : Nat → UInt8 → Prop
  | 1, b => b &&& 0x80 = 0
  | 2, b => b &&& 0xE0 = 0xC0
  | 3, b => b &&& 0xF0 = 0xE0
  | 4, b => b &&& 0xF8 = 0xF0
  | _, _ => False

theorem valid_iff (bytes : List UInt8) : Valid bytes ↔ bytes.toByteArray.IsValidUTF8 := by
  constructor
  · rintro ⟨chars, rfl⟩
    exact ⟨chars, rfl⟩
  · rintro ⟨chars, same⟩
    exact ⟨chars, by simpa [List.utf8Encode] using congrArg (fun array => array.data.toList) same⟩

instance (bytes : List UInt8) : Decidable (Valid bytes) := decidable_of_iff' _ (valid_iff bytes)

theorem valid_nil : Valid [] := ⟨[], rfl⟩

theorem valid_char (c : Char) : Valid (String.utf8EncodeChar c) := ⟨[c], by simp⟩

theorem valid_append (first second : List UInt8) (left : Valid first) (right : Valid second) : Valid (first ++ second) := by
  obtain ⟨chars, rfl⟩ := left
  obtain ⟨others, rfl⟩ := right
  exact ⟨chars ++ others, List.flatMap_append.symm⟩

theorem valid_flatten (pieces : List (List UInt8)) (each : ∀ piece ∈ pieces, Valid piece) : Valid pieces.flatten := by
  induction pieces with
  | nil => exact valid_nil
  | cons piece rest ih =>
      obtain ⟨here, later⟩ := List.forall_mem_cons.mp each
      exact valid_append piece rest.flatten here (ih later)

section
set_option maxRecDepth 8000

theorem ascii_lead : ∀ x : UInt8, x ≤ 127 → x &&& 0x80 = 0 := by decide
theorem continuation_byte : ∀ x : UInt8, Continuation (x &&& 0x3f ||| 0x80) := by decide
theorem lead_two : ∀ x : UInt8, (x &&& 0x1f ||| 0xc0) &&& 0xE0 = 0xC0 := by decide
theorem lead_three : ∀ x : UInt8, (x &&& 0x0f ||| 0xe0) &&& 0xF0 = 0xE0 := by decide
theorem lead_four : ∀ x : UInt8, (x &&& 0x07 ||| 0xf0) &&& 0xF8 = 0xF0 := by decide

theorem lead_opens_two : ∀ b : UInt8, b &&& 0xE0 = 0xC0 → ¬ Continuation b ∧ b &&& 0x80 ≠ 0 := by decide
theorem lead_opens_three : ∀ b : UInt8, b &&& 0xF0 = 0xE0 → ¬ Continuation b ∧ b &&& 0x80 ≠ 0 ∧ b &&& 0xE0 ≠ 0xC0 := by decide
theorem lead_opens_four : ∀ b : UInt8, b &&& 0xF8 = 0xF0 → ¬ Continuation b ∧ b &&& 0x80 ≠ 0 ∧ b &&& 0xE0 ≠ 0xC0 ∧ b &&& 0xF0 ≠ 0xE0 := by decide
theorem ascii_opens : ∀ b : UInt8, b &&& 0x80 = 0 → ¬ Continuation b := by decide

end

theorem encoded_shape (c : Char) : ∃ lead rest, String.utf8EncodeChar c = lead :: rest ∧ Lead (rest.length + 1) lead ∧
    rest.length ≤ 3 ∧ ∀ b ∈ rest, Continuation b := by
  obtain one | two | three | four := c.utf8Size_eq
  · have small : c.val ≤ 127 := Char.utf8Size_eq_one_iff.mp one
    refine ⟨c.val.toUInt8, [], String.utf8EncodeChar_eq_singleton one, ascii_lead _ ?_, by decide, by simp⟩
    rw [UInt8.le_iff_toNat_le, UInt32.toNat_toUInt8]
    exact (Nat.mod_le _ _).trans (UInt32.le_iff_toNat_le.mp small)
  · refine ⟨_, _, String.utf8EncodeChar_eq_cons_cons two, lead_two _, by simp, ?_⟩
    simp only [List.forall_mem_singleton]
    exact continuation_byte _
  · refine ⟨_, _, String.utf8EncodeChar_eq_cons_cons_cons three, lead_three _, by simp, ?_⟩
    simp [continuation_byte]
  · refine ⟨_, _, String.utf8EncodeChar_eq_cons_cons_cons_cons four, lead_four _, by simp, ?_⟩
    simp [continuation_byte]

theorem lead_no_continuation (width : Nat) (b : UInt8) (lead : Lead width b) : ¬ Continuation b := by
  unfold Lead at lead
  split at lead
  · exact ascii_opens b lead
  · exact (lead_opens_two b lead).1
  · exact (lead_opens_three b lead).1
  · exact (lead_opens_four b lead).1
  · exact lead.elim

-- A cut inside valid text falls between two characters or inside one of them.
theorem valid_cut (before after : List UInt8) (valid : Valid (before ++ after)) : ∃ whole part tail rest,
    before = whole ++ part ∧ after = tail ++ rest ∧ Valid whole ∧ Valid rest ∧
      ((part = [] ∧ tail = []) ∨ ∃ c, part ++ tail = String.utf8EncodeChar c ∧ part ≠ [] ∧ tail ≠ []) := by
  obtain ⟨chars, same⟩ := valid
  induction chars generalizing before with
  | nil =>
      obtain ⟨rfl, rfl⟩ := List.append_eq_nil_iff.mp same
      exact ⟨[], [], [], [], rfl, rfl, valid_nil, valid_nil, .inl ⟨rfl, rfl⟩⟩
  | cons c rest ih =>
      rw [List.flatMap_cons] at same
      obtain ⟨inside, ends, begins⟩ | ⟨further, begins, ends⟩ := List.append_eq_append_iff.mp same
      · by_cases started : before = []
        · refine ⟨[], [], [], after, started, rfl, valid_nil, ⟨c :: rest, ?_⟩, .inl ⟨rfl, rfl⟩⟩
          rw [List.flatMap_cons, ends, started, List.nil_append, begins]
        · by_cases finished : inside = []
          · rw [finished, List.append_nil] at ends
            rw [finished, List.nil_append] at begins
            exact ⟨before, [], [], after, by simp, rfl, ends ▸ valid_char c, ⟨rest, begins⟩, .inl ⟨rfl, rfl⟩⟩
          · exact ⟨[], before, inside, _, rfl, begins, valid_nil, ⟨rest, rfl⟩, .inr ⟨c, ends.symm, started, finished⟩⟩
      · obtain ⟨whole, part, tail, left, cut, follows, done, valid, split⟩ := ih further ends.symm
        refine ⟨String.utf8EncodeChar c ++ whole, part, tail, left, ?_, follows, valid_append _ _ (valid_char c) done, valid, split⟩
        rw [begins, cut, List.append_assoc]

theorem valid_head (first : UInt8) (rest : List UInt8) (valid : Valid (first :: rest)) : ¬ Continuation first := by
  obtain ⟨chars, same⟩ := valid
  cases chars with
  | nil => cases same
  | cons c others =>
      obtain ⟨lead, more, encoded, opens, _⟩ := encoded_shape c
      rw [List.flatMap_cons, encoded, List.cons_append, List.cons.injEq] at same
      exact same.1 ▸ lead_no_continuation _ lead opens

-- The first part of a character that was cut is its lead byte and continuation bytes, the rest only continuation bytes.
theorem inside_shape (c : Char) (part tail : List UInt8) (whole : part ++ tail = String.utf8EncodeChar c) (started : part ≠ []) :
    ∃ lead more, part = lead :: more ∧ Lead (more.length + 1 + tail.length) lead ∧ more.length + tail.length ≤ 3 ∧
      (∀ b ∈ more, Continuation b) ∧ ∀ b ∈ tail, Continuation b := by
  obtain ⟨lead, rest, encoded, opens, short, continues⟩ := encoded_shape c
  obtain ⟨first, more, rfl⟩ := List.exists_cons_of_ne_nil started
  rw [encoded, List.cons_append, List.cons.injEq] at whole
  obtain ⟨rfl, rfl⟩ := whole
  obtain ⟨inPart, inTail⟩ := List.forall_mem_append.mp continues
  rw [List.length_append] at opens short
  exact ⟨first, more, rfl, by rwa [Nat.add_right_comm], short, inPart, inTail⟩

theorem valid_boundary (before after : List UInt8) (valid : Valid (before ++ after)) (starts : ∀ b, after.head? = some b → ¬ Continuation b) :
    Valid before ∧ Valid after := by
  obtain ⟨whole, part, tail, rest, rfl, rfl, left, right, split⟩ := valid_cut before after valid
  obtain ⟨rfl, rfl⟩ | ⟨c, encoded, started, unfinished⟩ := split
  · rw [List.append_nil]
    exact ⟨left, right⟩
  · obtain ⟨_, _, _, _, _, _, continues⟩ := inside_shape c part tail encoded started
    obtain ⟨first, more, rfl⟩ := List.exists_cons_of_ne_nil unfinished
    exact absurd (continues first List.mem_cons_self) (starts first rfl)

theorem valid_after_ascii (b : UInt8) (rest : List UInt8) (ascii : b &&& 0x80 = 0) (valid : Valid (b :: rest)) : Valid rest := by
  obtain ⟨chars, same⟩ := valid
  cases chars with
  | nil => cases same
  | cons c others =>
      obtain ⟨lead, more, encoded, opens, _⟩ := encoded_shape c
      rw [List.flatMap_cons, encoded, List.cons_append, List.cons.injEq] at same
      obtain ⟨rfl, same⟩ := same
      have single : more = [] := by
        cases more with
        | nil => rfl
        | cons next more =>
            unfold Lead at opens
            split at opens
            · simp at *
            · exact absurd ascii (lead_opens_two _ opens).2
            · exact absurd ascii (lead_opens_three _ opens).2.1
            · exact absurd ascii (lead_opens_four _ opens).2.1
            · exact opens.elim
      exact ⟨others, by rw [same, single, List.nil_append]⟩

-- Wherever text is cut, at most three continuation bytes separate the cut from text again.
theorem valid_resumes (before after : List UInt8) (valid : Valid (before ++ after)) : ∃ tail rest,
    after = tail ++ rest ∧ tail.length ≤ 3 ∧ (∀ b ∈ tail, Continuation b) ∧ Valid rest := by
  obtain ⟨whole, part, tail, rest, _, follows, _, right, split⟩ := valid_cut before after valid
  refine ⟨tail, rest, follows, ?_⟩
  obtain ⟨_, rfl⟩ | ⟨c, encoded, started, _⟩ := split
  · exact ⟨Nat.zero_le 3, by simp, right⟩
  · obtain ⟨_, _, _, _, short, _, continues⟩ := inside_shape c part tail encoded started
    exact ⟨by omega, continues, right⟩

end GotechDesk.Utf8
