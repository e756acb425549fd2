import GotechDesk.Splits
import GotechDesk.Connection.Login

set_option autoImplicit false

namespace GotechDesk.Connection

open Splits

-- Where the matcher stands; the last star never lies ahead of the text position.
structure Cursor where
  pi : Nat
  ti : Nat
  star : Option (Nat × Nat)
  behind : ∀ sp st, star = some (sp, st) → st ≤ ti

def Cursor.start : Cursor := ⟨0, 0, none, fun _ _ none => by cases none⟩

def Cursor.atStar (c : Cursor) : Cursor :=
  ⟨c.pi + 1, c.ti, some (c.pi + 1, c.ti), fun _ _ same => by cases same; exact Nat.le_refl _⟩

def Cursor.onward (c : Cursor) : Cursor := ⟨c.pi + 1, c.ti + 1, c.star, fun sp st same => Nat.le_succ_of_le (c.behind sp st same)⟩

def Cursor.backtrack (star : Nat × Nat) : Cursor :=
  ⟨star.1, star.2 + 1, some (star.1, star.2 + 1), fun _ _ same => by cases same; exact Nat.le_refl _⟩

def Cursor.step (p t : List Char) (c : Cursor) : Option Cursor :=
  if p[c.pi]? = some '*' then some c.atStar
  else if c.pi < p.length ∧ (p[c.pi]? = some '?' ∨ p[c.pi]? = t[c.ti]?) then some c.onward
  else c.star.map Cursor.backtrack

def Cursor.tries (t : List Char) (c : Cursor) : Nat := t.length + 1 - c.star.elim 0 (fun star => star.2 + 1)

theorem step_decreases (p t : List Char) (c next : Cursor) (inside : c.ti < t.length) (taken : c.step p t = some next) :
    Prod.Lex (· < ·) (· < ·) (next.tries t, p.length - next.pi) (c.tries t, p.length - c.pi) := by
  unfold Cursor.step at taken
  split at taken
  · rename_i star
    obtain rfl := Option.some.inj taken
    have room := (List.getElem?_eq_some_iff.mp star).choose
    apply Prod.Lex.right'
    · unfold Cursor.tries
      cases held : c.star with
      | none => exact Nat.sub_le_sub_left (Nat.zero_le _) _
      | some last => exact Nat.sub_le_sub_left (Nat.succ_le_succ (c.behind last.1 last.2 held)) _
    · exact Nat.sub_lt_sub_left room (Nat.lt_succ_self _)
  · split at taken
    · rename_i fits
      obtain rfl := Option.some.inj taken
      exact Prod.Lex.right _ (Nat.sub_lt_sub_left fits.1 (Nat.lt_succ_self _))
    · obtain ⟨last, held, rfl⟩ := Option.map_eq_some_iff.mp taken
      have behind := c.behind last.1 last.2 held
      apply Prod.Lex.left
      simp only [Cursor.tries, Cursor.backtrack, held, Option.elim_some]
      omega

def wildcardLoop (p t : List Char) (c : Cursor) : Bool :=
  if inside : c.ti < t.length then
    match taken : c.step p t with
    | some next => wildcardLoop p t next
    | none => false
  else ((p.drop c.pi).dropWhile (· = '*')).isEmpty
termination_by (c.tries t, p.length - c.pi)
decreasing_by exact step_decreases p t c next inside taken

-- `toLowercase` is str::to_lowercase, whatever its Unicode tables are.
def wildcardMatch (toLowercase : String → String) (pattern text : String) : Bool :=
  wildcardLoop (toLowercase (trim pattern)).toList (toLowercase (trim text)).toList .start

def bareId (myId : String) : String := String.ofList (myId.toList.takeWhile (· ≠ '@'))

def idWhitelistAllows (toLowercase : String → String) (idWhitelist : List String) (myId : String) : Bool :=
  if idWhitelist.isEmpty then true
  else idWhitelist.any (fun x => wildcardMatch toLowercase x myId || wildcardMatch toLowercase x (bareId myId))

-- What a character of a pattern stands for.
def takes (c : Char) (piece : List Char) : Prop :=
  if c = '*' then True else if c = '?' then piece.length = 1 else piece = [c]

def Glob (pattern text : List Char) : Prop := Fits takes pattern text

theorem star_greedy : Greedy takes '*' := fun _ => trivial

theorem takes_one (c d : Char) (plain : c ≠ '*') : takes c [d] ↔ c = '?' ∨ c = d := by
  unfold takes
  rw [if_neg plain]
  by_cases any : c = '?'
  · simp [any]
  · simp [any, eq_comm]

theorem plain_single (c : Char) (plain : c ≠ '*') : Single takes c := by
  intro piece taken
  unfold takes at taken
  rw [if_neg plain] at taken
  split at taken
  · exact taken
  · rw [taken]
    rfl

theorem takes_nothing (c : Char) : takes c [] ↔ c = '*' := by
  unfold takes
  split
  · simp [*]
  · split <;> simp [*]

-- The pattern elements passed since the last star are no stars, and the text moved with them.
structure Trail (p : List Char) (c : Cursor) : Prop where
  room : c.pi ≤ p.length
  since : ∀ sp st, c.star = some (sp, st) → ∃ n, c.pi = sp + n ∧ c.ti = st + n ∧ ∀ e ∈ (p.drop sp).take n, e ≠ '*'

-- The text fits from here, or from the last star with the star taking more.
def Accepts (p t : List Char) (c : Cursor) : Prop :=
  Glob (p.drop c.pi) (t.drop c.ti) ∨ ∃ sp st k, c.star = some (sp, st) ∧ st < k ∧ Glob (p.drop sp) (t.drop k)

theorem trail_later (p t : List Char) (c : Cursor) (trail : Trail p c) (sp st k : Nat) (held : c.star = some (sp, st)) (later : st < k)
    (fits : Glob (p.drop sp) (t.drop k)) : ∃ n, c.ti ≤ n ∧ Glob (p.drop c.pi) (t.drop n) := by
  obtain ⟨n, pi, ti, plain⟩ := trail.since sp st held
  refine ⟨k + n, by omega, ?_⟩
  have room := trail.room
  have count : ((p.drop sp).take n).length = n := by
    rw [List.length_take, List.length_drop]
    omega
  rw [Glob, ← List.take_append_drop n (p.drop sp)] at fits
  have rest := fits_drop takes _ _ _ (fun e inside => plain_single e (plain e inside)) fits
  rwa [count, List.drop_drop, List.drop_drop, ← pi] at rest

theorem drop_at (p : List Char) (i : Nat) (e : Char) (here : p[i]? = some e) : p.drop i = e :: p.drop (i + 1) := by
  obtain ⟨inside, rfl⟩ := List.getElem?_eq_some_iff.mp here
  exact List.drop_eq_getElem_cons inside

theorem trail_star (p : List Char) (c : Cursor) (here : p[c.pi]? = some '*') : Trail p c.atStar := by
  refine ⟨(List.getElem?_eq_some_iff.mp here).choose, ?_⟩
  intro sp st same
  cases same
  exact ⟨0, rfl, rfl, by simp⟩

theorem trail_onward (p : List Char) (c : Cursor) (trail : Trail p c) (room : c.pi < p.length) (plain : p[c.pi]? ≠ some '*') :
    Trail p c.onward := by
  refine ⟨room, fun sp st held => ?_⟩
  obtain ⟨n, pi, ti, before⟩ := trail.since sp st held
  refine ⟨n + 1, congrArg (· + 1) pi, congrArg (· + 1) ti, ?_⟩
  rw [List.take_add_one, List.forall_mem_append]
  refine ⟨before, fun e last star => plain ?_⟩
  rw [List.getElem?_drop, ← pi] at last
  rw [Option.mem_toList.mp last, star]

theorem trail_backtrack (p : List Char) (star : Nat × Nat) (room : star.1 ≤ p.length) : Trail p (.backtrack star) := by
  refine ⟨room, fun sp st same => ?_⟩
  cases same
  exact ⟨0, rfl, rfl, by simp⟩

section
variable (p t : List Char) (c : Cursor)

-- Earlier stars can be forgotten: what they could still take, the newest star can take.
theorem accepts_star (trail : Trail p c) (here : p[c.pi]? = some '*') : Accepts p t c.atStar ↔ Accepts p t c := by
  have opened := drop_at p c.pi '*' here
  have now : Accepts p t c.atStar ↔ Glob (p.drop c.pi) (t.drop c.ti) := by
    rw [Glob, opened, fits_greedy takes '*' _ _ star_greedy]
    constructor
    · rintro (fits | ⟨sp, st, k, same, later, fits⟩)
      · exact ⟨0, fits⟩
      · cases same
        refine ⟨k - c.ti, ?_⟩
        rwa [List.drop_drop, Nat.add_sub_cancel' (Nat.le_of_lt later)]
    · rintro ⟨n, fits⟩
      rw [List.drop_drop] at fits
      rcases Nat.eq_zero_or_pos n with rfl | more
      · exact .inl fits
      · exact .inr ⟨c.pi + 1, c.ti, c.ti + n, rfl, Nat.lt_add_of_pos_right more, fits⟩
  rw [now]
  refine ⟨.inl, ?_⟩
  rintro (fits | ⟨sp, st, k, held, later, fits⟩)
  · exact fits
  · obtain ⟨m, past, fits⟩ := trail_later p t c trail sp st k held later fits
    rw [opened] at fits ⊢
    have skipped : Fits takes ('*' :: p.drop (c.pi + 1)) ((t.drop c.ti).drop (m - c.ti)) := by
      rwa [List.drop_drop, Nat.add_sub_cancel' past]
    exact fits_absorb takes '*' _ _ _ star_greedy skipped

theorem accepts_onward (e d : Char) (here : p[c.pi]? = some e) (plain : e ≠ '*') (text : t[c.ti]? = some d)
    (fits : e = '?' ∨ e = d) : Accepts p t c.onward ↔ Accepts p t c := by
  have same : Glob (p.drop (c.pi + 1)) (t.drop (c.ti + 1)) ↔ Glob (p.drop c.pi) (t.drop c.ti) := by
    rw [Glob, Glob, drop_at p c.pi e here, drop_at t c.ti d text, fits_single takes e _ _ (plain_single e plain)]
    constructor
    · intro rest
      exact ⟨d, _, rfl, (takes_one e d plain).mpr fits, rest⟩
    · rintro ⟨_, _, split, _, rest⟩
      cases split
      exact rest
  exact or_congr same Iff.rfl

-- Nothing fits from a place where the pattern is used up or asks for another character.
theorem stuck (d : Char) (text : t[c.ti]? = some d) (plain : p[c.pi]? ≠ some '*')
    (misfits : ¬(c.pi < p.length ∧ (p[c.pi]? = some '?' ∨ p[c.pi]? = t[c.ti]?))) : ¬Glob (p.drop c.pi) (t.drop c.ti) := by
  rw [Glob, drop_at t c.ti d text]
  cases here : p[c.pi]? with
  | none =>
      rw [List.drop_eq_nil_of_le (List.getElem?_eq_none_iff.mp here), fits_nil]
      exact List.cons_ne_nil _ _
  | some e =>
      have unlike : e ≠ '*' := fun star => plain (here.trans (congrArg some star))
      rw [drop_at p c.pi e here, fits_single takes e _ _ (plain_single e unlike)]
      rintro ⟨_, _, split, taken, _⟩
      cases split
      apply misfits
      refine ⟨(List.getElem?_eq_some_iff.mp here).choose, ?_⟩
      rw [here, text]
      exact ((takes_one e d unlike).mp taken).imp (congrArg some) (congrArg some)

theorem accepts_backtrack (star : Nat × Nat) (held : c.star = some star)
    (none : ¬Glob (p.drop c.pi) (t.drop c.ti)) : Accepts p t (.backtrack star) ↔ Accepts p t c := by
  constructor
  · rintro (fits | ⟨sp, st, k, same, later, fits⟩)
    · exact .inr ⟨star.1, star.2, star.2 + 1, held, Nat.lt_succ_self _, fits⟩
    · cases same
      exact .inr ⟨star.1, star.2, k, held, Nat.lt_of_succ_lt later, fits⟩
  · rintro (fits | ⟨sp, st, k, same, later, fits⟩)
    · exact absurd fits none
    · cases held.symm.trans same
      rcases Nat.eq_or_lt_of_le later with rfl | further
      · exact .inl fits
      · exact .inr ⟨sp, st + 1, k, rfl, further, fits⟩

end

theorem star_room (p : List Char) (c : Cursor) (trail : Trail p c) (star : Nat × Nat) (held : c.star = some star) : star.1 ≤ p.length := by
  obtain ⟨n, pi, _, _⟩ := trail.since star.1 star.2 held
  have room := trail.room
  omega

theorem step_accepts (p t : List Char) (c next : Cursor) (trail : Trail p c) (inside : c.ti < t.length) (taken : c.step p t = some next) :
    Trail p next ∧ (Accepts p t next ↔ Accepts p t c) := by
  have text : t[c.ti]? = some t[c.ti] := List.getElem?_eq_getElem inside
  unfold Cursor.step at taken
  split at taken
  · rename_i star
    obtain rfl := Option.some.inj taken
    exact ⟨trail_star p c star, accepts_star p t c trail star⟩
  · rename_i plain
    split at taken
    · rename_i fits
      obtain rfl := Option.some.inj taken
      have here : p[c.pi]? = some p[c.pi] := List.getElem?_eq_getElem fits.1
      refine ⟨trail_onward p c trail fits.1 plain, accepts_onward p t c _ _ here ?_ text ?_⟩
      · exact fun star => plain (here.trans (congrArg some star))
      · rw [here, text] at fits
        exact fits.2.imp Option.some.inj Option.some.inj
    · rename_i misfits
      obtain ⟨star, held, rfl⟩ := Option.map_eq_some_iff.mp taken
      exact ⟨trail_backtrack p star (star_room p c trail star held), accepts_backtrack p t c star held (stuck p t c _ text plain misfits)⟩

theorem step_refuses (p t : List Char) (c : Cursor) (inside : c.ti < t.length) (stops : c.step p t = none) : ¬Accepts p t c := by
  have text : t[c.ti]? = some t[c.ti] := List.getElem?_eq_getElem inside
  unfold Cursor.step at stops
  split at stops
  · cases stops
  · rename_i plain
    split at stops
    · cases stops
    · rename_i misfits
      rintro (fits | ⟨sp, st, k, held, _⟩)
      · exact stuck p t c _ text plain misfits fits
      · rw [held] at stops
        cases stops

theorem stars_left (rest : List Char) : (rest.dropWhile (· = '*')).isEmpty = true ↔ Glob rest [] := by
  rw [Glob, fits_empty, List.isEmpty_iff, List.dropWhile_eq_nil_iff]
  simp [takes_nothing]

theorem end_accepts (p t : List Char) (c : Cursor) (trail : Trail p c) (done : ¬c.ti < t.length) :
    ((p.drop c.pi).dropWhile (· = '*')).isEmpty = true ↔ Accepts p t c := by
  rw [stars_left]
  have used : t.drop c.ti = [] := List.drop_eq_nil_of_le (Nat.le_of_not_lt done)
  constructor
  · intro fits
    exact .inl (used ▸ fits)
  · rintro (fits | ⟨sp, st, k, held, later, fits⟩)
    · exact used ▸ fits
    · obtain ⟨n, past, fits⟩ := trail_later p t c trail sp st k held later fits
      rwa [List.drop_eq_nil_of_le ((Nat.le_of_not_lt done).trans past)] at fits

theorem loop_accepts (p t : List Char) (c : Cursor) (trail : Trail p c) : wildcardLoop p t c = true ↔ Accepts p t c := by
  induction c using wildcardLoop.induct p t with
  | case1 c inside next taken ih =>
      have stepped := step_accepts p t c next trail inside taken
      rw [wildcardLoop, dif_pos inside]
      split
      · rename_i other same
        cases taken.symm.trans same
        exact (ih stepped.1).trans stepped.2
      · rename_i stops
        cases taken.symm.trans stops
  | case2 c inside stops =>
      rw [wildcardLoop, dif_pos inside]
      split
      · rename_i next taken
        cases taken.symm.trans stops
      · exact iff_of_false Bool.false_ne_true (step_refuses p t c inside stops)
  | case3 c done =>
      rw [wildcardLoop, dif_neg done]
      exact end_accepts p t c trail done

theorem wildcard_match_glob (toLowercase : String → String) (pattern text : String) :
    wildcardMatch toLowercase pattern text = true ↔ Glob (toLowercase (trim pattern)).toList (toLowercase (trim text)).toList := by
  rw [wildcardMatch, loop_accepts]
  · constructor
    · rintro (fits | ⟨_, _, _, none, _⟩)
      · exact fits
      · cases none
    · exact .inl
  · exact ⟨Nat.zero_le _, fun _ _ none => by cases none⟩

theorem wildcard_and_whitelist (toLowercase : String → String) :
    (∀ pattern text, wildcardMatch toLowercase pattern text = true ↔ Glob (toLowercase (trim pattern)).toList (toLowercase (trim text)).toList) ∧
    ∀ idWhitelist myId, idWhitelistAllows toLowercase idWhitelist myId = true ↔ idWhitelist = [] ∨
      ∃ entry ∈ idWhitelist, Glob (toLowercase (trim entry)).toList (toLowercase (trim myId)).toList ∨
        Glob (toLowercase (trim entry)).toList (toLowercase (trim (bareId myId))).toList := by
  refine ⟨wildcard_match_glob toLowercase, fun idWhitelist myId => ?_⟩
  unfold idWhitelistAllows
  simp only [← wildcard_match_glob]
  cases idWhitelist with
  | nil => simp
  | cons entry rest => simp

end GotechDesk.Connection
