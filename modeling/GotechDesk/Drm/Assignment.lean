import GotechDesk.Drm.Geometry

set_option autoImplicit false

namespace GotechDesk.Drm.Geometry

-- A loop over an enumerated list: what each turn keeps, with the index it is at.
theorem fold_enumerated {α β : Type} (step : β → α × Nat → β) (inv : Nat → β → Prop) (items : List α) (init : β) (start : inv 0 init)
    (kept : ∀ (index : Nat) (item : α) (state : β), items[index]? = some item → inv index state → inv (index + 1) (step state (item, index))) :
    inv items.length (items.zipIdx.foldl step init) := by
  have rest : ∀ (after before : List α) (state : β), items = before ++ after → inv before.length state →
      inv items.length ((after.zipIdx before.length).foldl step state) := by
    intro after
    induction after with
    | nil =>
        intro before state all here
        rw [all, List.append_nil]
        exact here
    | cons item after ih =>
        intro before state all here
        have next := kept before.length item state (by rw [all]; simp) here
        have further := ih (before ++ [item]) (step state (item, before.length)) (by rw [all]; simp) (by simpa using next)
        simpa [List.zipIdx_cons] using further
  exact rest items [] init rfl start

-- Each output is marked as taken exactly when a connector has it, and no two have it.
structure Paired (connectors outputs : Nat) (found : Matches) : Prop where
  matched : found.matched.length = connectors
  room : found.taken.length = outputs
  taken : ∀ output, found.isTaken output = true ↔ ∃ connector, found.output connector = some output
  one : ∀ connector other output, found.output connector = some output → found.output other = some output → connector = other

section
variable (found : Matches)

theorem output_eq (connector output : Nat) : found.output connector = some output ↔ found.matched[connector]? = some (some output) := by
  rw [Matches.output, List.getD_eq_getElem?_getD]
  cases found.matched[connector]? with
  | none => simp
  | some value => simp

theorem taken_lt (output : Nat) (taken : found.isTaken output = true) : output < found.taken.length := by
  by_contra outside
  rw [Matches.isTaken, List.getD_eq_getElem?_getD, List.getElem?_eq_none (Nat.le_of_not_lt outside)] at taken
  cases taken

theorem assign_output (connector output other : Nat) (inside : connector < found.matched.length) :
    (found.assign connector output).output other = if other = connector then some output else found.output other := by
  rw [Matches.output, Matches.assign, List.getD_eq_getElem?_getD, List.getElem?_set]
  by_cases same : connector = other
  · rw [if_pos same, if_pos inside, if_pos same.symm]
    rfl
  · rw [if_neg same, if_neg (fun is => same is.symm), Matches.output, List.getD_eq_getElem?_getD]

theorem assign_taken (connector output other : Nat) (inside : output < found.taken.length) :
    (found.assign connector output).isTaken other = (decide (other = output) || found.isTaken other) := by
  rw [Matches.isTaken, Matches.assign, List.getD_eq_getElem?_getD, List.getElem?_set]
  by_cases same : output = other
  · rw [if_pos same, if_pos inside]
    simp [same]
  · rw [if_neg same, Matches.isTaken, List.getD_eq_getElem?_getD, decide_eq_false (fun is => same is.symm), Bool.false_or]

end

section
variable (connectors outputs : Nat)

theorem assign_paired (found : Matches) (connector output : Nat) (paired : Paired connectors outputs found) (inside : connector < connectors)
    (room : output < outputs) (unmatched : found.output connector = none) (free : found.isTaken output = false) :
    Paired connectors outputs (found.assign connector output) := by
  have outputs_of := fun other => assign_output found connector output other (by rw [paired.matched]; exact inside)
  have taken_of := fun other => assign_taken found connector output other (by rw [paired.room]; exact room)
  have unowned : ∀ other, found.output other ≠ some output := by
    intro other owns
    rw [(paired.taken output).mpr ⟨other, owns⟩] at free
    cases free
  refine ⟨?_, ?_, ?_, ?_⟩
  · exact List.length_set.trans paired.matched
  · exact List.length_set.trans paired.room
  · intro place
    rw [taken_of, Bool.or_eq_true, decide_eq_true_eq, paired.taken]
    constructor
    · rintro (rfl | ⟨other, owns⟩)
      · exact ⟨connector, by rw [outputs_of, if_pos rfl]⟩
      · refine ⟨other, ?_⟩
        rw [outputs_of, if_neg, owns]
        rintro rfl
        rw [unmatched] at owns
        cases owns
    · rintro ⟨other, owns⟩
      rw [outputs_of] at owns
      split at owns
      · exact .inl (Option.some.inj owns).symm
      · exact .inr ⟨other, owns⟩
  · intro first second place owns again
    rw [outputs_of] at owns again
    split at owns
    · rename_i is
      split at again
      · rename_i same
        exact is.trans same.symm
      · cases owns
        exact (unowned second again).elim
    · split at again
      · cases again
        exact (unowned first owns).elim
      · exact paired.one first second place owns again

-- What the earlier loops matched stays matched.
def Extends (found next : Matches) : Prop := ∀ connector output, found.output connector = some output → next.output connector = some output

theorem assign_extends (found : Matches) (connector output : Nat) (inside : connector < found.matched.length)
    (unmatched : found.output connector = none) : Extends found (found.assign connector output) := by
  intro other place owns
  rw [assign_output found connector output other inside, if_neg, owns]
  rintro rfl
  rw [unmatched] at owns
  cases owns

end

section
variable (drm : List DrmDisplayInfo) (wl : List WaylandDisplayInfo)

theorem unmatched_output (connector : Nat) : (unmatched drm wl).output connector = none := by
  rw [Matches.output, unmatched, List.getD_eq_getElem?_getD, List.getElem?_replicate]
  split <;> rfl

theorem unmatched_free (output : Nat) : (unmatched drm wl).isTaken output = false := by
  rw [Matches.isTaken, unmatched, List.getD_eq_getElem?_getD, List.getElem?_replicate]
  split <;> rfl

theorem unmatched_paired : Paired drm.length wl.length (unmatched drm wl) := by
  refine ⟨List.length_replicate, List.length_replicate, ?_, ?_⟩
  · intro output
    rw [unmatched_free]
    constructor
    · nofun
    · rintro ⟨connector, owns⟩
      rw [unmatched_output] at owns
      cases owns
  · intro connector other output owns
    rw [unmatched_output] at owns
    cases owns

end

-- An output found by a search of the enumerated outputs.
theorem found_output (wl : List WaylandDisplayInfo) (test : WaylandDisplayInfo × Nat → Bool) (output : WaylandDisplayInfo × Nat)
    (search : wl.zipIdx.find? test = some output) : output.2 < wl.length ∧ wl[output.2]? = some output.1 ∧ test output = true := by
  have there := List.mem_zipIdx_iff_getElem?.mp (List.mem_of_find?_eq_some search)
  exact ⟨(List.getElem?_eq_some_iff.mp there).1, there, List.find?_some search⟩

theorem names_paired (drm : List DrmDisplayInfo) (wl : List WaylandDisplayInfo) : Paired drm.length wl.length (nameMatches drm wl) := by
  refine (fold_enumerated (nameStep wl)
    (fun index found => Paired drm.length wl.length found ∧ ∀ later, index ≤ later → found.output later = none) drm (unmatched drm wl) ?_ ?_).1
  · exact ⟨unmatched_paired drm wl, fun later _ => unmatched_output drm wl later⟩
  · intro index display found here inv
    have inside := (List.getElem?_eq_some_iff.mp here).1
    unfold nameStep
    split
    · rename_i output search
      obtain ⟨room, _, test⟩ := found_output wl _ output search
      rw [Bool.and_eq_true, Bool.not_eq_true'] at test
      refine ⟨assign_paired _ _ found index output.2 inv.1 inside room (inv.2 index (Nat.le_refl _)) test.1, ?_⟩
      intro later after
      rw [assign_output _ _ _ _ (by rw [inv.1.matched]; exact inside), if_neg (Nat.ne_of_gt after)]
      exact inv.2 later (Nat.le_of_lt after)
    · exact ⟨inv.1, fun later after => inv.2 later (Nat.le_of_lt after)⟩

theorem free_same_mem (wl : List WaylandDisplayInfo) (found : Matches) (drm : DrmDisplayInfo) (output : Nat) :
    output ∈ freeSame wl found drm ↔ found.isTaken output = false ∧ ∃ info, wl[output]? = some info ∧ sameSize drm info = true := by
  rw [freeSame, List.mem_map]
  constructor
  · rintro ⟨⟨info, place⟩, member, rfl⟩
    obtain ⟨there, test⟩ := List.mem_filter.mp member
    rw [Bool.and_eq_true, Bool.not_eq_true'] at test
    exact ⟨test.1, info, List.mem_zipIdx_iff_getElem?.mp there, test.2⟩
  · rintro ⟨free, info, there, same⟩
    refine ⟨(info, output), List.mem_filter.mpr ⟨List.mem_zipIdx_iff_getElem?.mpr there, ?_⟩, rfl⟩
    rw [Bool.and_eq_true, Bool.not_eq_true']
    exact ⟨free, same⟩

-- A forced pairing, or nothing.
theorem forced_step_cases (drm : List DrmDisplayInfo) (wl : List WaylandDisplayInfo) (found : Matches) (display : DrmDisplayInfo) (index : Nat) :
    forcedStep drm wl found (display, index) = found ∨
      ∃ output, forcedStep drm wl found (display, index) = found.assign index output ∧ found.output index = none ∧
        freeSame wl found display = [output] ∧ unmatchedSame drm found display = 1 := by
  unfold forcedStep
  dsimp only
  split
  · exact .inl rfl
  · rename_i none_yet
    split
    · rename_i output only
      split
      · rename_i alone
        exact .inr ⟨output, rfl, by simpa using none_yet, only, alone⟩
      · exact .inl rfl
    · exact .inl rfl

def identityFound (drm : List DrmDisplayInfo) (wl : List WaylandDisplayInfo) : Matches := drm.zipIdx.foldl (forcedStep drm wl) (nameMatches drm wl)

theorem identity_paired (drm : List DrmDisplayInfo) (wl : List WaylandDisplayInfo) : Paired drm.length wl.length (identityFound drm wl) := by
  refine fold_enumerated (forcedStep drm wl) (fun _ found => Paired drm.length wl.length found) drm _ (names_paired drm wl) ?_
  intro index display found here paired
  rcases forced_step_cases drm wl found display index with same | ⟨output, is, none_yet, only, _⟩
  · rwa [same]
  · obtain ⟨free, info, there, _⟩ := (free_same_mem wl found display output).mp (by rw [only]; exact List.mem_singleton_self _)
    rw [is]
    exact assign_paired _ _ found index output paired (List.getElem?_eq_some_iff.mp here).1 (List.getElem?_eq_some_iff.mp there).1 none_yet free

theorem taken_by_get (matched : List (Option Nat)) (taken : List Bool) (output : Nat) :
    (matched.foldl (fun taken output => output.elim taken (fun output => taken.set output true)) taken)[output]? =
      if some output ∈ matched ∧ output < taken.length then some true else taken[output]? := by
  induction matched generalizing taken with
  | nil => simp
  | cons head rest ih =>
      rw [List.foldl_cons, ih]
      cases head with
      | none => exact if_congr (by simp) rfl rfl
      | some place =>
          rw [Option.elim_some, List.length_set, List.getElem?_set]
          by_cases inside : output < taken.length
          · by_cases here : place = output
            · simp [here, inside]
            · simp [here, Ne.symm here, inside]
          · by_cases here : place = output
            · simp [here, inside]
            · simp [here, inside]

theorem layout_paired (drm : List DrmDisplayInfo) (wl : List WaylandDisplayInfo) : Paired drm.length wl.length
    { matched := identityMatches drm wl, taken := takenBy (identityMatches drm wl) wl.length } := by
  have paired := identity_paired drm wl
  have same : ∀ connector, Matches.output { matched := identityMatches drm wl, taken := takenBy (identityMatches drm wl) wl.length } connector =
      (identityFound drm wl).output connector := fun _ => rfl
  refine ⟨paired.matched, ?_, ?_, paired.one⟩
  · have lengths : ∀ (matched : List (Option Nat)) (taken : List Bool),
        (matched.foldl (fun taken output => output.elim taken (fun output => taken.set output true)) taken).length = taken.length := by
      intro matched
      induction matched with
      | nil => exact fun _ => rfl
      | cons head rest ih =>
          intro taken
          rw [List.foldl_cons, ih]
          cases head with
          | none => rfl
          | some place => exact List.length_set
    exact (lengths _ _).trans List.length_replicate
  · intro output
    rw [Matches.isTaken, List.getD_eq_getElem?_getD, takenBy, taken_by_get, List.length_replicate, List.getElem?_replicate]
    have mentioned : some output ∈ identityMatches drm wl ↔ ∃ connector, (identityFound drm wl).output connector = some output := by
      rw [List.mem_iff_getElem?]
      exact exists_congr (fun connector => (output_eq (identityFound drm wl) connector output).symm)
    constructor
    · intro taken
      split at taken
      · rename_i member
        exact mentioned.mp member.1
      · split at taken <;> cases taken
    · intro owned
      have room : output < wl.length := by
        have taken := taken_lt _ output ((paired.taken output).mpr owned)
        rwa [paired.room] at taken
      rw [if_pos ⟨mentioned.mpr owned, room⟩]
      rfl

-- Everything the layout loop leaves: a connector without an output has found none free.
structure LaidOut (drm : List DrmDisplayInfo) (wl : List WaylandDisplayInfo) (index : Nat) (found : Matches) : Prop where
  paired : Paired drm.length wl.length found
  kept : Extends (identityFound drm wl) found
  none_free : ∀ connector, connector < index → found.output connector = none → ∀ output, output < wl.length → found.isTaken output = true

theorem layout_search (wl : List WaylandDisplayInfo) (found : Matches) (drm : DrmDisplayInfo) (output : Nat) (room : found.taken.length = wl.length)
    (search : (((wl.zipIdx.find? (fun output => !found.isTaken output.2 && sameSize drm output.1)).map Prod.snd).or
      (found.taken.findIdx? (fun taken => !taken))) = some output) : output < wl.length ∧ found.isTaken output = false := by
  cases size : wl.zipIdx.find? (fun output => !found.isTaken output.2 && sameSize drm output.1) with
  | some entry =>
      rw [size] at search
      cases search
      obtain ⟨inside, _, test⟩ := found_output wl _ entry size
      rw [Bool.and_eq_true, Bool.not_eq_true'] at test
      exact ⟨inside, test.1⟩
  | none =>
      rw [size, Option.map_none, Option.none_or] at search
      obtain ⟨inside, free, _⟩ := List.findIdx?_eq_some_iff_getElem.mp search
      refine ⟨by rwa [← room], ?_⟩
      rw [Matches.isTaken, List.getD_eq_getElem?_getD, List.getElem?_eq_getElem inside]
      simpa using free

theorem layout_none (found : Matches) (outputs output : Nat) (room : found.taken.length = outputs) (inside : output < outputs)
    (search : found.taken.findIdx? (fun taken => !taken) = none) : found.isTaken output = true := by
  have all := List.findIdx?_eq_none_iff.mp search
  rw [← room] at inside
  rw [Matches.isTaken, List.getD_eq_getElem?_getD, List.getElem?_eq_getElem inside]
  simpa using all _ (List.getElem_mem inside)

theorem assign_laid_out (drm : List DrmDisplayInfo) (wl : List WaylandDisplayInfo) :
    LaidOut drm wl drm.length (drm.zipIdx.foldl (layoutStep wl)
      { matched := identityMatches drm wl, taken := takenBy (identityMatches drm wl) wl.length }) := by
  refine fold_enumerated (layoutStep wl) (LaidOut drm wl) drm _ ⟨layout_paired drm wl, fun _ _ owns => owns, fun _ before => absurd before (Nat.not_lt_zero _)⟩ ?_
  intro index display found here laid
  have inside := (List.getElem?_eq_some_iff.mp here).1
  unfold layoutStep
  dsimp only
  split
  · rename_i some_yet
    refine ⟨laid.paired, laid.kept, ?_⟩
    intro connector before nothing
    rcases Nat.lt_succ_iff_lt_or_eq.mp before with earlier | rfl
    · exact laid.none_free connector earlier nothing
    · rw [nothing] at some_yet
      cases some_yet
  · rename_i none_yet
    have unmatched : found.output index = none := by simpa using none_yet
    split
    · rename_i output search
      obtain ⟨room, free⟩ := layout_search wl found display output laid.paired.room search
      have long : index < found.matched.length := by
        rw [laid.paired.matched]
        exact inside
      refine ⟨assign_paired _ _ found index output laid.paired inside room unmatched free, ?_, ?_⟩
      · intro connector place owns
        exact assign_extends found index output long unmatched connector place (laid.kept connector place owns)
      · intro connector before nothing place bound
        rw [assign_output found index output connector long] at nothing
        rw [assign_taken found index output place (by rw [laid.paired.room]; exact room), Bool.or_eq_true]
        split at nothing
        · cases nothing
        · rename_i apart
          have earlier : connector < index := Nat.lt_of_le_of_ne (Nat.le_of_lt_succ before) apart
          exact .inr (laid.none_free connector earlier nothing place bound)
    · rename_i search
      refine ⟨laid.paired, laid.kept, ?_⟩
      intro connector before nothing place bound
      obtain ⟨_, last⟩ := Option.or_eq_none_iff.mp search
      exact layout_none found wl.length place laid.paired.room bound last

end GotechDesk.Drm.Geometry
