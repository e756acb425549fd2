import Mathlib

set_option autoImplicit false

namespace GotechDesk.Splits

-- A pattern is a list of elements, each of which takes some pieces of text; a text fits when it
-- can be split into one piece for each element.
section
variable {α β : Type} (takes : β → List α → Prop)

def Fits (pattern : List β) (text : List α) : Prop := ∃ pieces, List.Forall₂ takes pattern pieces ∧ pieces.flatten = text

def Single (element : β) : Prop := ∀ piece, takes element piece → piece.length = 1

def Greedy (element : β) : Prop := ∀ piece, takes element piece

theorem fits_nil (text : List α) : Fits takes [] text ↔ text = [] := by
  constructor
  · rintro ⟨pieces, each, rfl⟩
    cases each
    rfl
  · rintro rfl
    exact ⟨[], .nil, rfl⟩

theorem fits_cons (element : β) (pattern : List β) (text : List α) :
    Fits takes (element :: pattern) text ↔ ∃ front rest, takes element front ∧ Fits takes pattern rest ∧ front ++ rest = text := by
  constructor
  · rintro ⟨pieces, each, rfl⟩
    cases each with
    | cons taken others => exact ⟨_, _, taken, ⟨_, others, rfl⟩, rfl⟩
  · rintro ⟨front, rest, taken, ⟨pieces, others, rfl⟩, rfl⟩
    exact ⟨front :: pieces, .cons taken others, rfl⟩

theorem fits_single (element : β) (pattern : List β) (text : List α) (single : Single takes element) :
    Fits takes (element :: pattern) text ↔ ∃ c rest, text = c :: rest ∧ takes element [c] ∧ Fits takes pattern rest := by
  rw [fits_cons]
  constructor
  · rintro ⟨front, rest, taken, fits, rfl⟩
    obtain ⟨c, rfl⟩ := List.length_eq_one_iff.mp (single front taken)
    exact ⟨c, rest, rfl, taken, fits⟩
  · rintro ⟨c, rest, rfl, taken, fits⟩
    exact ⟨[c], rest, taken, fits, rfl⟩

-- Elements that take one item each use up as many items as there are elements.
theorem fits_drop (singles pattern : List β) (text : List α) (each : ∀ element ∈ singles, Single takes element)
    (fits : Fits takes (singles ++ pattern) text) : Fits takes pattern (text.drop singles.length) := by
  induction singles generalizing text with
  | nil => exact fits
  | cons element rest ih =>
      obtain ⟨here, later⟩ := List.forall_mem_cons.mp each
      obtain ⟨c, tail, rfl, _, fits⟩ := (fits_single takes element (rest ++ pattern) text here).mp fits
      exact ih tail later fits

-- An element that takes everything can also take what stands before its text.
theorem fits_greedy (element : β) (pattern : List β) (text : List α) (greedy : Greedy takes element) :
    Fits takes (element :: pattern) text ↔ ∃ n, Fits takes pattern (text.drop n) := by
  rw [fits_cons]
  constructor
  · rintro ⟨front, rest, _, fits, rfl⟩
    exact ⟨front.length, by rwa [List.drop_left]⟩
  · rintro ⟨n, fits⟩
    exact ⟨text.take n, text.drop n, greedy _, fits, List.take_append_drop n text⟩

theorem fits_absorb (element : β) (pattern : List β) (text : List α) (n : Nat) (greedy : Greedy takes element)
    (fits : Fits takes (element :: pattern) (text.drop n)) : Fits takes (element :: pattern) text := by
  obtain ⟨m, fits⟩ := (fits_greedy takes element pattern _ greedy).mp fits
  rw [List.drop_drop] at fits
  exact (fits_greedy takes element pattern text greedy).mpr ⟨n + m, fits⟩

theorem fits_empty (pattern : List β) : Fits takes pattern [] ↔ ∀ element ∈ pattern, takes element [] := by
  induction pattern with
  | nil => simp [fits_nil]
  | cons element rest ih =>
      rw [fits_cons, List.forall_mem_cons, ← ih]
      constructor
      · rintro ⟨front, tail, taken, fits, empty⟩
        obtain ⟨rfl, rfl⟩ := List.append_eq_nil_iff.mp empty
        exact ⟨taken, fits⟩
      · rintro ⟨taken, fits⟩
        exact ⟨[], [], taken, fits, rfl⟩

end

end GotechDesk.Splits
