import Mathlib

set_option autoImplicit false

namespace GotechDesk.Segments

-- A text cut at its separators: one more piece than there are separators, the empty ones kept.
section
variable {α : Type}

def segments (isSep : α → Bool) : List α → List (List α)
  | [] => [[]]
  | c :: rest => if isSep c then [] :: segments isSep rest else (segments isSep rest).modifyHead (c :: ·)

-- Pieces put together with one separator between any two.
def joined (sep : α) : List (List α) → List α
  | [] => []
  | [piece] => piece
  | piece :: rest => piece ++ sep :: joined sep rest

def extendLast (pieces : List (List α)) (more : List α) : List (List α) := pieces.dropLast ++ [pieces.getLast?.getD [] ++ more]

section
variable (isSep : α → Bool)

theorem segments_cons_sep (c : α) (rest : List α) (sep : isSep c = true) : segments isSep (c :: rest) = [] :: segments isSep rest := by
  change (if isSep c = true then [] :: segments isSep rest else _) = _
  exact if_pos sep

theorem segments_cons_plain (c : α) (rest : List α) (plain : ¬ isSep c = true) :
    segments isSep (c :: rest) = (segments isSep rest).modifyHead (c :: ·) := by
  change (if isSep c = true then _ else (segments isSep rest).modifyHead (c :: ·)) = _
  exact if_neg plain

theorem segments_ne_nil (text : List α) : segments isSep text ≠ [] := by
  induction text with
  | nil => exact List.cons_ne_nil _ _
  | cons c rest ih =>
      by_cases sep : isSep c = true
      · rw [segments_cons_sep isSep c rest sep]
        exact List.cons_ne_nil _ _
      · rw [segments_cons_plain isSep c rest sep]
        cases pieces : segments isSep rest with
        | nil => exact absurd pieces ih
        | cons first others => simp

theorem segments_append_sep (text rest : List α) (c : α) (sep : isSep c = true) :
    segments isSep (text ++ c :: rest) = segments isSep text ++ segments isSep rest := by
  induction text with
  | nil => exact segments_cons_sep isSep c rest sep
  | cons d tail ih =>
      rw [List.cons_append]
      by_cases here : isSep d = true
      · rw [segments_cons_sep isSep d _ here, segments_cons_sep isSep d _ here, ih]
        rfl
      · rw [segments_cons_plain isSep d _ here, segments_cons_plain isSep d _ here, ih]
        cases pieces : segments isSep tail with
        | nil => exact absurd pieces (segments_ne_nil isSep tail)
        | cons first others => simp

theorem segments_plain (text : List α) (plain : ∀ c ∈ text, isSep c = false) : segments isSep text = [text] := by
  induction text with
  | nil => rfl
  | cons c rest ih =>
      have here := plain c (by simp)
      have others := ih (fun d member => plain d (by simp [member]))
      rw [segments_cons_plain isSep c rest (by simp [here]), others]
      rfl

theorem segments_append_plain (text more : List α) (plain : ∀ c ∈ more, isSep c = false) :
    segments isSep (text ++ more) = extendLast (segments isSep text) more := by
  induction text with
  | nil => exact segments_plain isSep more plain
  | cons c rest ih =>
      rw [List.cons_append]
      by_cases sep : isSep c = true
      · rw [segments_cons_sep isSep c _ sep, segments_cons_sep isSep c _ sep, ih]
        cases pieces : segments isSep rest with
        | nil => exact absurd pieces (segments_ne_nil isSep rest)
        | cons first others => simp [extendLast, List.dropLast_cons_of_ne_nil]
      · rw [segments_cons_plain isSep c _ sep, segments_cons_plain isSep c _ sep, ih]
        cases pieces : segments isSep rest with
        | nil => exact absurd pieces (segments_ne_nil isSep rest)
        | cons first others => cases others <;> simp [extendLast]

theorem mem_segments_plain (text piece : List α) (member : piece ∈ segments isSep text) :
    ∀ c ∈ piece, isSep c = false := by
  induction text generalizing piece with
  | nil =>
      obtain rfl := List.mem_singleton.mp member
      exact nofun
  | cons d rest ih =>
      by_cases sep : isSep d = true
      · rw [segments_cons_sep isSep d rest sep, List.mem_cons] at member
        obtain empty | member := member
        · simp [empty]
        · exact ih piece member
      · rw [segments_cons_plain isSep d rest sep] at member
        cases pieces : segments isSep rest with
        | nil => exact absurd pieces (segments_ne_nil isSep rest)
        | cons first others =>
            rw [pieces] at member ih
            simp only [List.modifyHead_cons, List.mem_cons] at member
            obtain head | member := member
            · intro c inside
              rw [head, List.mem_cons] at inside
              obtain same | inside := inside
              · rw [same]
                simpa using sep
              · exact ih first (by simp) c inside
            · exact ih piece (by simp [member])

end

theorem mem_joined (sep : α) (pieces : List (List α)) (c : α) (member : c ∈ joined sep pieces) : c = sep ∨ ∃ piece ∈ pieces, c ∈ piece := by
  induction pieces with
  | nil => cases member
  | cons piece rest ih =>
      cases rest with
      | nil => exact .inr ⟨piece, by simp, member⟩
      | cons next others =>
          change c ∈ piece ++ sep :: joined sep (next :: others) at member
          rw [List.mem_append, List.mem_cons] at member
          obtain inside | rfl | later := member
          · exact .inr ⟨piece, by simp, inside⟩
          · exact .inl rfl
          · obtain same | ⟨other, listed, inside⟩ := ih later
            · exact .inl same
            · exact .inr ⟨other, by simp [listed], inside⟩

theorem segments_joined (isSep : α → Bool) (sep : α) (pieces : List (List α)) (isSeparator : isSep sep = true) (some : pieces ≠ [])
    (plain : ∀ piece ∈ pieces, ∀ c ∈ piece, isSep c = false) : segments isSep (joined sep pieces) = pieces := by
  induction pieces with
  | nil => exact absurd rfl some
  | cons piece rest ih =>
      have here := segments_plain isSep piece (plain piece (by simp))
      cases rest with
      | nil => exact here
      | cons next others =>
          have tail := ih (by simp) (fun other member => plain other (by simp [member]))
          change segments isSep (piece ++ sep :: joined sep (next :: others)) = piece :: next :: others
          rw [segments_append_sep isSep piece _ sep isSeparator, here, tail]
          rfl

theorem joined_cons (sep : α) (piece : List α) (rest : List (List α)) :
    joined sep (piece :: rest) = piece ++ rest.flatMap (sep :: ·) := by
  induction rest generalizing piece with
  | nil => simp [joined]
  | cons next others ih =>
      change piece ++ sep :: joined sep (next :: others) = _
      rw [ih next]
      simp

end

end GotechDesk.Segments
