import Mathlib

set_option autoImplicit false

namespace GotechDesk.Vote

-- Votes counted in the order of their first appearance, and the first of those with the most.
section
variable {α : Type} [DecidableEq α]

def bump : List (α × Nat) → α → List (α × Nat)
  | [], vote => [(vote, 1)]
  | (p, count) :: rest, vote => if p = vote then (p, count + 1) :: rest else (p, count) :: bump rest vote

def tally (votes : List α) : List (α × Nat) := votes.foldl bump []

def mostFrequent (votes : List α) : Option α :=
  let counts := tally votes
  let maxCount := (counts.map Prod.snd).max?.getD 0
  (counts.find? (fun entry => entry.2 == maxCount)).map Prod.fst

-- A vote that no other beats.
def Leads (votes : List α) (vote : α) : Prop := vote ∈ votes ∧ ∀ other, votes.count other ≤ votes.count vote

section
variable (counts : List (α × Nat))

theorem bump_keys (vote key : α) : key ∈ (bump counts vote).map Prod.fst ↔ key ∈ counts.map Prod.fst ∨ key = vote := by
  induction counts with
  | nil => simp [bump]
  | cons entry rest ih =>
      obtain ⟨p, count⟩ := entry
      by_cases same : p = vote
      · subst same
        rw [bump, if_pos rfl, List.map_cons, List.map_cons, List.mem_cons]
        constructor
        · exact Or.inl
        · rintro (listed | rfl)
          · exact listed
          · exact .inl rfl
      · rw [bump, if_neg same, List.map_cons, List.map_cons, List.mem_cons, List.mem_cons, ih, or_assoc]

theorem bump_nodup (vote : α) (nodup : (counts.map Prod.fst).Nodup) : ((bump counts vote).map Prod.fst).Nodup := by
  induction counts with
  | nil => exact List.nodup_singleton vote
  | cons entry rest ih =>
      obtain ⟨p, count⟩ := entry
      rw [List.map_cons, List.nodup_cons] at nodup
      by_cases same : p = vote
      · rw [bump, if_pos same, List.map_cons, List.nodup_cons]
        exact nodup
      · rw [bump, if_neg same, List.map_cons, List.nodup_cons, bump_keys]
        refine ⟨?_, ih nodup.2⟩
        rintro (listed | here)
        · exact nodup.1 listed
        · exact same here

theorem mem_bump (vote key : α) (count : Nat) (nodup : (counts.map Prod.fst).Nodup) : (key, count) ∈ bump counts vote ↔
      (key ≠ vote ∧ (key, count) ∈ counts) ∨
        (key = vote ∧ ((∃ before, (key, before) ∈ counts ∧ count = before + 1) ∨ (key ∉ counts.map Prod.fst ∧ count = 1))) := by
  induction counts with
  | nil =>
      rw [bump, List.mem_singleton, Prod.mk.injEq]
      simp
  | cons entry rest ih =>
      obtain ⟨p, n⟩ := entry
      rw [List.map_cons, List.nodup_cons] at nodup
      by_cases same : p = vote
      · subst same
        have apart : ∀ before, (p, before) ∉ rest := fun before listed => nodup.1 (List.mem_map.mpr ⟨(p, before), listed, rfl⟩)
        rw [bump, if_pos rfl]
        by_cases here : key = p
        · subst here
          simp [apart]
        · simp [here]
      · rw [bump, if_neg same, List.mem_cons, ih nodup.2]
        by_cases here : key = p
        · subst here
          have apart : ∀ before, (key, before) ∉ rest := fun before listed => nodup.1 (List.mem_map.mpr ⟨(key, before), listed, rfl⟩)
          simp [same, apart]
        · simp [here]

end

section
variable (votes : List α)

theorem tally_spec (counts : List (α × Nat)) (before : List α) (nodup : (counts.map Prod.fst).Nodup)
    (counted : ∀ key count, (key, count) ∈ counts ↔ key ∈ before ∧ count = before.count key) :
    ((votes.foldl bump counts).map Prod.fst).Nodup ∧
      ∀ key count, (key, count) ∈ votes.foldl bump counts ↔ key ∈ before ++ votes ∧ count = (before ++ votes).count key := by
  induction votes generalizing counts before with
  | nil =>
      rw [List.append_nil]
      exact ⟨nodup, counted⟩
  | cons vote rest ih =>
      rw [List.foldl_cons, ← List.singleton_append, ← List.append_assoc]
      apply ih _ _ (bump_nodup counts vote nodup)
      intro key count
      have listed : key ∈ counts.map Prod.fst ↔ key ∈ before := by
        constructor
        · intro member
          obtain ⟨entry, present, rfl⟩ := List.mem_map.mp member
          exact ((counted entry.1 entry.2).mp present).1
        · intro member
          exact List.mem_map.mpr ⟨(key, before.count key), (counted _ _).mpr ⟨member, rfl⟩, rfl⟩
      rw [mem_bump counts vote key count nodup, counted, listed, List.mem_append, List.count_append, List.mem_singleton, List.count_singleton]
      by_cases same : key = vote
      · subst same
        by_cases voted : key ∈ before
        · simp [counted, voted]
        · simp [counted, voted, List.count_eq_zero_of_not_mem voted]
      · have other : ¬ vote = key := fun back => same back.symm
        simp [same, other]

theorem mem_tally (vote : α) (count : Nat) : (vote, count) ∈ tally votes ↔ vote ∈ votes ∧ count = votes.count vote :=
  (tally_spec votes [] [] List.nodup_nil (by simp)).2 vote count

theorem tally_max (entry : α × Nat) (listed : entry ∈ tally votes) :
    ∃ most, ((tally votes).map Prod.snd).max? = some most ∧ most ∈ (tally votes).map Prod.snd ∧ ∀ vote, votes.count vote ≤ most := by
  obtain ⟨most, found⟩ : ∃ most, ((tally votes).map Prod.snd).max? = some most := by
    apply Option.ne_none_iff_exists'.mp
    intro none
    rw [List.max?_eq_none_iff] at none
    exact absurd (List.mem_map_of_mem (f := Prod.snd) listed) (by rw [none]; exact List.not_mem_nil)
  obtain ⟨present, above⟩ := List.max?_eq_some_iff.mp found
  refine ⟨most, found, present, fun vote => ?_⟩
  by_cases voted : vote ∈ votes
  · exact above _ (List.mem_map.mpr ⟨(vote, votes.count vote), (mem_tally votes vote _).mpr ⟨voted, rfl⟩, rfl⟩)
  · rw [List.count_eq_zero_of_not_mem voted]
    exact Nat.zero_le most

theorem most_frequent_leads (vote : α) (won : mostFrequent votes = some vote) : Leads votes vote := by
  obtain ⟨entry, found, rfl⟩ := Option.map_eq_some_iff.mp won
  have listed := List.mem_of_find?_eq_some found
  obtain ⟨most, known, _, above⟩ := tally_max votes entry listed
  have count := List.find?_some found
  rw [known, Option.getD_some, beq_iff_eq] at count
  obtain ⟨voted, counted⟩ := (mem_tally votes entry.1 entry.2).mp listed
  exact ⟨voted, fun other => by rw [← counted, count]; exact above other⟩

theorem most_frequent_exists (voted : votes ≠ []) : ∃ vote, mostFrequent votes = some vote := by
  obtain ⟨first, rest, rfl⟩ := List.exists_cons_of_ne_nil voted
  have listed : (first, (first :: rest).count first) ∈ tally (first :: rest) := (mem_tally _ _ _).mpr ⟨List.mem_cons_self, rfl⟩
  obtain ⟨most, known, present, _⟩ := tally_max _ _ listed
  obtain ⟨entry, member, counted⟩ := List.mem_map.mp present
  apply Option.ne_none_iff_exists'.mp
  intro none
  rw [mostFrequent, Option.map_eq_none_iff, List.find?_eq_none] at none
  refine none entry member ?_
  rw [known, Option.getD_some, counted]
  exact beq_self_eq_true most

end

theorem foldl_bump_head (entry : α × Nat) (rest : List (α × Nat)) (votes : List α) :
    ∃ count others, votes.foldl bump (entry :: rest) = (entry.1, count) :: others := by
  induction votes generalizing entry rest with
  | nil => exact ⟨entry.2, rest, rfl⟩
  | cons vote later ih =>
      rw [List.foldl_cons]
      by_cases same : entry.1 = vote
      · obtain ⟨count, others, known⟩ := ih (entry.1, entry.2 + 1) rest
        refine ⟨count, others, ?_⟩
        rw [bump, if_pos same]
        exact known
      · obtain ⟨count, others, known⟩ := ih entry (bump rest vote)
        refine ⟨count, others, ?_⟩
        rw [bump, if_neg same]
        exact known

-- A leader wins where it is met first.
theorem first_leader_wins (vote : α) (rest : List α) (leads : Leads (vote :: rest) vote) : mostFrequent (vote :: rest) = some vote := by
  obtain ⟨count, others, known⟩ := foldl_bump_head (vote, 1) [] rest
  have tallied : tally (vote :: rest) = (vote, count) :: others := known
  have head : (vote, count) ∈ tally (vote :: rest) := by
    rw [tallied]
    exact List.mem_cons_self
  have counted := ((mem_tally _ _ _).mp head).2
  obtain ⟨most, found, present, above⟩ := tally_max _ _ head
  obtain ⟨entry, member, rfl⟩ := List.mem_map.mp present
  have same : count = entry.2 := by
    have bound := leads.2 entry.1
    have least := above vote
    rw [← ((mem_tally _ _ _).mp member).2] at bound
    omega
  rw [mostFrequent, found, Option.getD_some, tallied, List.find?_cons_of_pos]
  · rfl
  · exact beq_iff_eq.mpr same

end

end GotechDesk.Vote
