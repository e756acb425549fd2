import Mathlib

set_option autoImplicit false

namespace GotechDesk.Table

-- A hash map as the list of its entries in the order an iteration would meet them.
section
variable {K V W : Type} [DecidableEq K]

def get (table : List (K × V)) (key : K) : Option V := table.lookup key

def remove (table : List (K × V)) (key : K) : List (K × V) := table.filter (fun entry => entry.1 ≠ key)

def insert (table : List (K × V)) (key : K) (value : V) : List (K × V) := remove table key ++ [(key, value)]

def mapValues (table : List (K × V)) (change : K → V → W) : List (K × W) :=
  table.map (fun entry => (entry.1, change entry.1 entry.2))

def modify (table : List (K × V)) (key : K) (change : V → V) : List (K × V) :=
  mapValues table (fun other value => if other = key then change value else value)

theorem get_cons (entry : K × V) (rest : List (K × V)) (key : K) :
    get (entry :: rest) key = if key = entry.1 then some entry.2 else get rest key := by
  obtain ⟨other, value⟩ := entry
  by_cases same : key = other
  · simp [get, same]
  · have apart : (key == other) = false := by simpa using same
    simp [get, List.lookup_cons, apart, same]

theorem get_map_values (table : List (K × V)) (change : K → V → W) (key : K) :
    get (mapValues table change) key = (get table key).map (change key) := by
  induction table with
  | nil => rfl
  | cons entry rest ih =>
      rw [mapValues, List.map_cons, get_cons, get_cons]
      by_cases same : key = entry.1
      · simp [same]
      · simpa [same, mapValues] using ih

theorem get_modify (table : List (K × V)) (key other : K) (change : V → V) :
    get (modify table key change) other = if other = key then (get table other).map change else get table other := by
  rw [modify, get_map_values]
  by_cases same : other = key
  · simp [same]
  · simp [same]

theorem get_remove (table : List (K × V)) (key other : K) :
    get (remove table key) other = if other = key then none else get table other := by
  induction table with
  | nil => simp [get, remove]
  | cons entry rest ih =>
      by_cases gone : entry.1 = key
      · have skipped : remove (entry :: rest) key = remove rest key := by simp [remove, gone]
        rw [skipped, ih, get_cons, gone]
        by_cases same : other = key
        · simp [same]
        · simp [same]
      · have kept : remove (entry :: rest) key = entry :: remove rest key := by simp [remove, gone]
        rw [kept, get_cons, get_cons, ih]
        by_cases here : other = entry.1
        · simp [here, gone]
        · simp [here]

theorem get_append (first second : List (K × V)) (key : K) :
    get (first ++ second) key = (get first key).or (get second key) := by
  induction first with
  | nil => simp [get]
  | cons entry rest ih =>
      rw [List.cons_append, get_cons, get_cons, ih]
      by_cases same : key = entry.1
      · simp [same]
      · simp [same]

theorem get_insert (table : List (K × V)) (key other : K) (value : V) :
    get (insert table key value) other = if other = key then some value else get table other := by
  rw [insert, get_append, get_remove, get_cons]
  by_cases same : other = key
  · simp [same]
  · simp [same, get]

theorem mem_of_get (table : List (K × V)) (key : K) (value : V) (found : get table key = some value) : (key, value) ∈ table := by
  induction table with
  | nil => cases found
  | cons entry rest ih =>
      rw [get_cons] at found
      by_cases same : key = entry.1
      · rw [if_pos same] at found
        simp [same, ← Option.some.inj found]
      · rw [if_neg same] at found
        exact List.mem_cons_of_mem entry (ih found)

-- Every value of the table, whatever its key.
def All (holds : V → Prop) (table : List (K × V)) : Prop := ∀ entry ∈ table, holds entry.2

section
variable (holds : V → Prop) (table : List (K × V)) (key : K)

theorem all_remove (all : All holds table) : All holds (remove table key) :=
  fun entry member => all entry (List.mem_of_mem_filter member)

theorem all_insert (value : V) (all : All holds table) (new : holds value) : All holds (insert table key value) := by
  intro entry member
  rcases List.mem_append.mp member with old | added
  · exact all_remove holds table key all entry old
  · rw [List.mem_singleton.mp added]
    exact new

end

omit [DecidableEq K] in
theorem all_map_values (holds : V → Prop) (table : List (K × V)) (change : K → V → V) (all : All holds table)
    (kept : ∀ key value, holds value → holds (change key value)) : All holds (mapValues table change) := by
  intro entry member
  obtain ⟨before, listed, rfl⟩ := List.mem_map.mp member
  exact kept before.1 before.2 (all before listed)

section
variable (holds : V → Prop) (table : List (K × V)) (key : K)

theorem all_modify (change : V → V) (all : All holds table)
    (kept : ∀ value, holds value → holds (change value)) : All holds (modify table key change) := by
  apply all_map_values holds table _ all
  intro other value held
  by_cases same : other = key
  · rw [if_pos same]
    exact kept value held
  · rw [if_neg same]
    exact held

theorem all_get (value : V) (all : All holds table)
    (found : get table key = some value) : holds value := all (key, value) (mem_of_get table key value found)

end

-- The same entries met in another order.
def reorder (table : List (K × V)) (order : List K) : List (K × V) :=
  order.filterMap (fun key => (get table key).map (fun value => (key, value)))

theorem mem_reorder (table : List (K × V)) (order : List K) (entry : K × V) :
    entry ∈ reorder table order ↔ entry.1 ∈ order ∧ get table entry.1 = some entry.2 := by
  obtain ⟨key, value⟩ := entry
  simp only [reorder, List.mem_filterMap, Option.map_eq_some_iff, Prod.mk.injEq]
  constructor
  · rintro ⟨other, listed, held, found, rfl, rfl⟩
    exact ⟨listed, found⟩
  · rintro ⟨listed, found⟩
    exact ⟨key, listed, value, found, rfl, rfl⟩

theorem get_of_mem (table : List (K × V)) (entry : K × V) (member : entry ∈ table) : ∃ value, get table entry.1 = some value := by
  induction table with
  | nil => cases member
  | cons first rest ih =>
      rw [get_cons]
      by_cases same : entry.1 = first.1
      · exact ⟨first.2, by rw [if_pos same]⟩
      · rw [if_neg same]
        apply ih
        rcases List.mem_cons.mp member with rfl | later
        · exact absurd rfl same
        · exact later

-- Any order of all the keys reads the same.
theorem get_permuted (table : List (K × V)) (order : List K) (perm : order.Perm (table.map Prod.fst)) (key : K) :
    get (reorder table order) key = get table key := by
  cases found : get table key with
  | some value =>
      have listed : key ∈ order := perm.mem_iff.mpr (List.mem_map_of_mem (mem_of_get table key value found))
      obtain ⟨held, again⟩ := get_of_mem (reorder table order) (key, value) ((mem_reorder table order _).mpr ⟨listed, found⟩)
      have same := ((mem_reorder table order _).mp (mem_of_get _ _ _ again)).2
      rw [again, ← found, ← same]
  | none =>
      cases again : get (reorder table order) key with
      | none => rfl
      | some held =>
          have same := ((mem_reorder table order _).mp (mem_of_get _ _ _ again)).2
          rw [found] at same
          cases same

theorem all_reorder (holds : V → Prop) (table : List (K × V)) (order : List K) (all : All holds table) :
    All holds (reorder table order) := by
  intro entry member
  exact all_get holds table entry.1 entry.2 all ((mem_reorder table order entry).mp member).2

-- Each key is met once.
def Keyed (table : List (K × V)) : Prop := ∀ entry ∈ table, get table entry.1 = some entry.2

section
variable (table : List (K × V)) (key : K)

theorem keyed_insert (value : V) (keyed : Keyed table) : Keyed (insert table key value) := by
  intro entry member
  rw [get_insert]
  rcases List.mem_append.mp member with old | added
  · have other : entry.1 ≠ key := of_decide_eq_true (List.mem_filter.mp old).2
    rw [if_neg other]
    exact keyed entry (List.mem_of_mem_filter old)
  · rw [List.mem_singleton.mp added, if_pos rfl]

theorem get_none : get table key = none ↔ key ∉ table.map Prod.fst := by
  induction table with
  | nil => simp [get]
  | cons entry rest ih =>
      rw [get_cons, List.map_cons, List.mem_cons, not_or, ← ih]
      by_cases same : key = entry.1
      · simp [same]
      · simp [same]

theorem remove_absent (absent : get table key = none) : remove table key = table := by
  rw [get_none] at absent
  apply List.filter_eq_self.mpr
  intro entry member
  exact decide_eq_true (fun same => absent (same ▸ List.mem_map_of_mem member))

theorem nodup_remove (nodup : (table.map Prod.fst).Nodup) : ((remove table key).map Prod.fst).Nodup :=
  nodup.sublist (List.filter_sublist.map Prod.fst)

-- A map with each key once is the entry found under a key and the rest.
theorem perm_remove (value : V) (nodup : (table.map Prod.fst).Nodup) (found : get table key = some value) :
    table.Perm ((key, value) :: remove table key) := by
  induction table with
  | nil => cases found
  | cons entry rest ih =>
      obtain ⟨fresh, others⟩ := List.nodup_cons.mp nodup
      rw [get_cons] at found
      by_cases same : key = entry.1
      · rw [if_pos same] at found
        have absent : remove rest key = rest := remove_absent rest key ((get_none rest key).mpr (same ▸ fresh))
        have dropped : remove (entry :: rest) key = remove rest key := by simp [remove, same]
        rw [dropped, absent, same, ← Option.some.inj found]
      · rw [if_neg same] at found
        have kept : remove (entry :: rest) key = entry :: remove rest key := by simp [remove, Ne.symm same]
        rw [kept]
        exact ((ih others found).cons entry).trans (List.Perm.swap _ _ _)

end

section
variable (holds : K → V → Prop) (table : List (K × V)) (key : K) (value : V)

-- What every entry satisfies, and what some entry does, after one is written.
theorem forall_insert (others : ∀ other held, other ≠ key → get table other = some held → holds other held) (new : holds key value) :
    ∀ other held, get (insert table key value) other = some held → holds other held := by
  intro other held found
  rw [get_insert] at found
  by_cases same : other = key
  · rw [if_pos same] at found
    rw [same, ← Option.some.inj found]
    exact new
  · rw [if_neg same] at found
    exact others other held same found

theorem exists_insert (old : ∃ other held, get table other = some held ∧ holds other held)
    (kept : ∀ held, get table key = some held → holds key held → holds key value) :
    ∃ other held, get (insert table key value) other = some held ∧ holds other held := by
  obtain ⟨other, held, found, good⟩ := old
  by_cases same : other = key
  · subst same
    exact ⟨other, value, by rw [get_insert, if_pos rfl], kept held found good⟩
  · exact ⟨other, held, by rw [get_insert, if_neg same, found], good⟩

end

end

end GotechDesk.Table
