import GotechDesk.Drm.Assignment

set_option autoImplicit false

namespace GotechDesk.Drm.Geometry

-- The output of a display's name, and the pairing its size forces: what the loops of
-- `identity_matches` come to when no two connectors have one name.
def nameMatch (wl : List WaylandDisplayInfo) (drm : DrmDisplayInfo) : Option Nat :=
  (wl.zipIdx.find? (fun output => normalizeConnector output.1.name == normalizeConnector drm.name)).map Prod.snd

def claimed (drm : List DrmDisplayInfo) (wl : List WaylandDisplayInfo) (output : Nat) : Bool := drm.any (fun display => nameMatch wl display == some output)

def unclaimedSame (drm : List DrmDisplayInfo) (wl : List WaylandDisplayInfo) (display : DrmDisplayInfo) : List Nat :=
  (wl.zipIdx.filter (fun output => !claimed drm wl output.2 && sameSize display output.1)).map Prod.snd

def unnamedSame (drm : List DrmDisplayInfo) (wl : List WaylandDisplayInfo) (display : DrmDisplayInfo) : Nat :=
  drm.countP (fun other => (nameMatch wl other).isNone && sameMode display other)

def forcedMatch (drm : List DrmDisplayInfo) (wl : List WaylandDisplayInfo) (display : DrmDisplayInfo) : Option Nat :=
  match unclaimedSame drm wl display with
  | [output] => if unnamedSame drm wl display = 1 then some output else none
  | _ => none

def DistinctNames (drm : List DrmDisplayInfo) : Prop := (drm.map (fun display => normalizeConnector display.name)).Nodup

theorem same_size_mode (display other : DrmDisplayInfo) (wl : WaylandDisplayInfo) (size : sameSize display wl = true)
    (same : sameSize other wl = true) : sameMode display other = true := by
  simp only [sameSize, sameMode, Bool.and_eq_true, beq_iff_eq] at size same ⊢
  have inj : ∀ a b : UInt32, a.toInt32 = b.toInt32 → a = b := by
    intro a b equal
    have back := congrArg Int32.toUInt32 equal
    simpa using back
  exact ⟨inj _ _ (same.1.symm.trans size.1), inj _ _ (same.2.symm.trans size.2)⟩

-- Two places of a list count twice.
theorem two_counted {α : Type} (test : α → Bool) (items : List α) (first second : Nat) (one other : α) (before : first < second)
    (there : items[first]? = some one) (later : items[second]? = some other) (holds : test one = true) (too : test other = true) :
    2 ≤ items.countP test := by
  have split : (items.take (first + 1) ++ items.drop (first + 1)).countP test = (items.take (first + 1)).countP test + (items.drop (first + 1)).countP test :=
    List.countP_append
  rw [List.take_append_drop] at split
  have front : 0 < (items.take (first + 1)).countP test := by
    refine List.countP_pos_iff.mpr ⟨one, List.mem_of_getElem? (i := first) ?_, holds⟩
    rw [List.getElem?_take, if_pos (Nat.lt_succ_self _), there]
  have back : 0 < (items.drop (first + 1)).countP test := by
    refine List.countP_pos_iff.mpr ⟨other, List.mem_of_getElem? (i := second - (first + 1)) ?_, too⟩
    rw [List.getElem?_drop, Nat.add_sub_cancel' before, later]
  omega

theorem name_match_some (wl : List WaylandDisplayInfo) (drm : DrmDisplayInfo) (output : Nat) (named : nameMatch wl drm = some output) :
    ∃ info, wl[output]? = some info ∧ normalizeConnector info.name = normalizeConnector drm.name := by
  obtain ⟨entry, search, rfl⟩ := Option.map_eq_some_iff.mp named
  obtain ⟨_, there, test⟩ := found_output wl _ entry search
  exact ⟨entry.1, there, by simpa using test⟩

theorem distinct_index (drm : List DrmDisplayInfo) (distinct : DistinctNames drm) (first second : Nat) (one other : DrmDisplayInfo)
    (there : drm[first]? = some one) (here : drm[second]? = some other) (same : normalizeConnector one.name = normalizeConnector other.name) :
    first = second := by
  have inside : first < (drm.map (fun display => normalizeConnector display.name)).length := by
    rw [List.length_map]
    exact (List.getElem?_eq_some_iff.mp there).1
  refine (List.getElem?_inj inside distinct).mp ?_
  rw [List.getElem?_map, List.getElem?_map, there, here]
  exact congrArg some same

-- The name of an output that is taken is a name that has been seen, so it is not this one.
theorem names_found (drm : List DrmDisplayInfo) (wl : List WaylandDisplayInfo) (distinct : DistinctNames drm) (index : Nat) (display : DrmDisplayInfo)
    (here : drm[index]? = some display) : (nameMatches drm wl).output index = nameMatch wl display := by
  have inv := fold_enumerated (nameStep wl) (fun index found => Paired drm.length wl.length found ∧
    (∀ earlier display, earlier < index → drm[earlier]? = some display → found.output earlier = nameMatch wl display) ∧
    ∀ later, index ≤ later → found.output later = none) drm (unmatched drm wl)
    ⟨unmatched_paired drm wl, fun _ _ before => absurd before (Nat.not_lt_zero _), fun later _ => unmatched_output drm wl later⟩ ?_
  · exact inv.2.1 index display (List.getElem?_eq_some_iff.mp here).1 here
  · rintro index display found here ⟨paired, done, ahead⟩
    have inside := (List.getElem?_eq_some_iff.mp here).1
    have free : wl.zipIdx.find? (fun output => !found.isTaken output.2 && normalizeConnector output.1.name == normalizeConnector display.name) =
        wl.zipIdx.find? (fun output => normalizeConnector output.1.name == normalizeConnector display.name) := by
      refine List.find?_congr ?_
      rintro ⟨info, output⟩ member
      have there := List.mem_zipIdx_iff_getElem?.mp member
      cases named : normalizeConnector info.name == normalizeConnector display.name with
      | false => rw [Bool.and_false]
      | true =>
          rw [Bool.and_true, Bool.not_eq_true', Bool.eq_false_iff]
          intro taken
          obtain ⟨connector, owns⟩ := (paired.taken output).mp taken
          have earlier : connector < index := by
            by_contra late
            rw [ahead connector (Nat.le_of_not_lt late)] at owns
            cases owns
          obtain ⟨owner, at_owner⟩ : ∃ owner, drm[connector]? = some owner := ⟨_, List.getElem?_eq_getElem (Nat.lt_trans earlier inside)⟩
          rw [done connector owner earlier at_owner] at owns
          obtain ⟨other, at_other, same⟩ := name_match_some wl owner output owns
          cases there.symm.trans at_other
          have meets := distinct_index drm distinct connector index owner display at_owner here (same.symm.trans (beq_iff_eq.mp named))
          exact Nat.ne_of_lt earlier meets
    have long : index < found.matched.length := by rwa [paired.matched]
    unfold nameStep
    rw [free]
    cases search : wl.zipIdx.find? (fun output => normalizeConnector output.1.name == normalizeConnector display.name) with
    | none =>
        refine ⟨paired, ?_, fun later after => ahead later (Nat.le_of_lt after)⟩
        intro earlier other before at_other
        rcases Nat.lt_succ_iff_lt_or_eq.mp before with strictly | rfl
        · exact done earlier other strictly at_other
        · cases here.symm.trans at_other
          rw [ahead earlier (Nat.le_refl _), nameMatch, search]
          rfl
    | some output =>
        have searched := free.trans search
        obtain ⟨room, _, test⟩ := found_output wl _ output searched
        rw [Bool.and_eq_true, Bool.not_eq_true'] at test
        refine ⟨assign_paired _ _ found index output.2 paired inside room (ahead index (Nat.le_refl _)) test.1, ?_, ?_⟩
        · intro earlier other before at_other
          rw [assign_output found index output.2 earlier long]
          by_cases same : earlier = index
          · subst same
            cases here.symm.trans at_other
            rw [if_pos rfl, nameMatch, search]
            rfl
          · rw [if_neg same]
            exact done earlier other (Nat.lt_of_le_of_ne (Nat.le_of_lt_succ before) same) at_other
        · intro later after
          rw [assign_output found index output.2 later long, if_neg (Nat.ne_of_gt after)]
          exact ahead later (Nat.le_of_lt after)

-- How far the second loop has come.
structure Forced (drm : List DrmDisplayInfo) (wl : List WaylandDisplayInfo) (index : Nat) (found : Matches) : Prop where
  paired : Paired drm.length wl.length found
  done : ∀ earlier display, earlier < index → drm[earlier]? = some display →
    found.output earlier = (nameMatch wl display).or (forcedMatch drm wl display)
  ahead : ∀ later display, index ≤ later → drm[later]? = some display → found.output later = nameMatch wl display

theorem forced_match_some (drm : List DrmDisplayInfo) (wl : List WaylandDisplayInfo) (display : DrmDisplayInfo) (output : Nat)
    (forced : forcedMatch drm wl display = some output) :
    unclaimedSame drm wl display = [output] ∧ unnamedSame drm wl display = 1 ∧ ∃ info, wl[output]? = some info ∧ sameSize display info = true := by
  unfold forcedMatch at forced
  split at forced
  · rename_i only single
    obtain ⟨alone, is⟩ := Option.ite_none_right_eq_some.mp forced
    cases is
    refine ⟨single, alone, ?_⟩
    have member : output ∈ unclaimedSame drm wl display := by
      rw [single]
      exact List.mem_singleton_self _
    obtain ⟨⟨info, place⟩, kept, rfl⟩ := List.mem_map.mp member
    obtain ⟨there, test⟩ := List.mem_filter.mp kept
    rw [Bool.and_eq_true] at test
    exact ⟨info, List.mem_zipIdx_iff_getElem?.mp there, test.2⟩
  · cases forced

section
variable (drm : List DrmDisplayInfo) (wl : List WaylandDisplayInfo) (index : Nat) (found : Matches) (display : DrmDisplayInfo)
    (forced : Forced drm wl index found) (here : drm[index]? = some display) (unnamed : nameMatch wl display = none)
include forced here unnamed

-- An earlier connector of this mode could not be forced: this one was unmatched as well.
omit forced in
theorem earlier_unforced (earlier : Nat) (other : DrmDisplayInfo) (before : earlier < index) (there : drm[earlier]? = some other)
    (nameless : nameMatch wl other = none) (mode : sameMode display other = true) : forcedMatch drm wl other = none := by
  cases forcing : forcedMatch drm wl other with
  | none => rfl
  | some output =>
      obtain ⟨_, alone, _⟩ := forced_match_some drm wl other output forcing
      have back : sameMode other other = true ∧ sameMode other display = true := by
        simp only [sameMode, Bool.and_eq_true, beq_iff_eq] at mode ⊢
        exact ⟨⟨trivial, trivial⟩, mode.1.symm, mode.2.symm⟩
      have two := two_counted (fun another => (nameMatch wl another).isNone && sameMode other another) drm earlier index other display before there here
        (by rw [nameless, back.1]; rfl) (by rw [unnamed, back.2]; rfl)
      rw [unnamedSame] at alone
      omega

theorem unmatched_same_eq : unmatchedSame drm found display = unnamedSame drm wl display := by
  have agree : drm.zipIdx.filter (fun other => (found.output other.2).isNone && sameMode display other.1) =
      drm.zipIdx.filter (fun other => (nameMatch wl other.1).isNone && sameMode display other.1) := by
    apply List.filter_congr
    rintro ⟨other, place⟩ member
    have there := List.mem_zipIdx_iff_getElem?.mp member
    cases mode : sameMode display other with
    | false => rw [Bool.and_false, Bool.and_false]
    | true =>
        rw [Bool.and_true, Bool.and_true]
        rcases Nat.lt_or_ge place index with before | after
        · rw [forced.done place other before there]
          cases nameless : nameMatch wl other with
          | some output => rfl
          | none => rw [Option.none_or, earlier_unforced drm wl index display here unnamed place other before there nameless mode]
        · rw [forced.ahead place other after there]
  rw [unmatchedSame, agree, ← List.countP_eq_length_filter, unnamedSame]
  have plain : (drm.zipIdx.map Prod.fst).countP (fun other => (nameMatch wl other).isNone && sameMode display other) =
      drm.zipIdx.countP (fun other => (nameMatch wl other.1).isNone && sameMode display other.1) := List.countP_map
  rw [List.zipIdx_map_fst] at plain
  exact plain.symm

theorem free_same_eq : freeSame wl found display = unclaimedSame drm wl display := by
  rw [freeSame, unclaimedSame]
  refine congrArg _ (List.filter_congr ?_)
  rintro ⟨info, output⟩ member
  have there := List.mem_zipIdx_iff_getElem?.mp member
  cases size : sameSize display info with
  | false => rw [Bool.and_false, Bool.and_false]
  | true =>
      rw [Bool.and_true, Bool.and_true]
      refine congrArg _ (Bool.eq_iff_iff.mpr ?_)
      rw [forced.paired.taken, claimed, List.any_eq_true]
      constructor
      · rintro ⟨connector, owns⟩
        have inside : connector < drm.length := by
          rw [← forced.paired.matched]
          exact (List.getElem?_eq_some_iff.mp ((output_eq found connector output).mp owns)).1
        have at_owner := List.getElem?_eq_getElem inside
        refine ⟨_, List.getElem_mem inside, ?_⟩
        rw [beq_iff_eq]
        rcases Nat.lt_or_ge connector index with before | after
        · rw [forced.done connector _ before at_owner] at owns
          cases named : nameMatch wl drm[connector] with
          | some place => rwa [named] at owns
          | none =>
              -- It was forced to an output of this size, so it has this mode.
              rw [named, Option.none_or] at owns
              obtain ⟨_, _, other, at_other, fits⟩ := forced_match_some drm wl _ output owns
              cases there.symm.trans at_other
              have mode := same_size_mode display _ info size fits
              rw [earlier_unforced drm wl index display here unnamed connector _ before at_owner named mode] at owns
              cases owns
        · rwa [forced.ahead connector _ after at_owner] at owns
      · rintro ⟨owner, member, named⟩
        rw [beq_iff_eq] at named
        obtain ⟨connector, at_owner⟩ := List.mem_iff_getElem?.mp member
        refine ⟨connector, ?_⟩
        rcases Nat.lt_or_ge connector index with before | after
        · rw [forced.done connector owner before at_owner, named]
          rfl
        · rw [forced.ahead connector owner after at_owner, named]

end

theorem forced_found (drm : List DrmDisplayInfo) (wl : List WaylandDisplayInfo) (distinct : DistinctNames drm) :
    Forced drm wl drm.length (identityFound drm wl) := by
  refine fold_enumerated (forcedStep drm wl) (Forced drm wl) drm _ ⟨names_paired drm wl, fun _ _ before => absurd before (Nat.not_lt_zero _),
    fun later display _ there => names_found drm wl distinct later display there⟩ ?_
  intro index display found here forced
  have inside := (List.getElem?_eq_some_iff.mp here).1
  have now := forced.ahead index display (Nat.le_refl _) here
  have still : found.output index = (nameMatch wl display).or (forcedMatch drm wl display) → Forced drm wl (index + 1) found := by
    intro same
    refine ⟨forced.paired, ?_, fun later other after there => forced.ahead later other (Nat.le_of_lt after) there⟩
    intro earlier other before there
    rcases Nat.lt_succ_iff_lt_or_eq.mp before with strictly | rfl
    · exact forced.done earlier other strictly there
    · cases here.symm.trans there
      exact same
  cases named : nameMatch wl display with
  | some output =>
      rw [named] at now
      rw [forcedStep, if_pos (by rw [now]; rfl)]
      exact still (by rw [now, named]; rfl)
  | none =>
      rw [named] at now
      have unforced : forcedMatch drm wl display = none → Forced drm wl (index + 1) found := by
        intro none_forced
        exact still (by rw [now, named, none_forced]; rfl)
      rw [forcedStep, if_neg (by rw [now]; decide)]
      dsimp only
      rw [free_same_eq drm wl index found display forced here named, unmatched_same_eq drm wl index found display forced here named]
      split
      · rename_i output only
        split
        · rename_i alone
          have forcing : forcedMatch drm wl display = some output := by
            rw [forcedMatch, only]
            exact if_pos alone
          have free : found.isTaken output = false ∧ ∃ info, wl[output]? = some info ∧ sameSize display info = true := by
            apply (free_same_mem wl found display output).mp
            rw [free_same_eq drm wl index found display forced here named, only]
            exact List.mem_singleton_self _
          obtain ⟨untaken, info, there, _⟩ := free
          have long : index < found.matched.length := by
            rw [forced.paired.matched]
            exact inside
          refine ⟨assign_paired _ _ found index output forced.paired inside (List.getElem?_eq_some_iff.mp there).1 now untaken, ?_, ?_⟩
          · intro earlier other before there
            rw [assign_output found index output earlier long]
            by_cases same : earlier = index
            · subst same
              cases here.symm.trans there
              rw [if_pos rfl, named, forcing]
              rfl
            · rw [if_neg same]
              exact forced.done earlier other (Nat.lt_of_le_of_ne (Nat.le_of_lt_succ before) same) there
          · intro later other after there
            rw [assign_output found index output later long, if_neg (Nat.ne_of_gt after)]
            exact forced.ahead later other (Nat.le_of_lt after) there
        · rename_i crowded
          refine unforced ?_
          rw [forcedMatch, only]
          exact if_neg crowded
      · rename_i other
        refine unforced ?_
        unfold forcedMatch
        split
        · rename_i output only
          exact (other output only).elim
        · rfl

section
variable (drm other : List DrmDisplayInfo) (wl : List WaylandDisplayInfo)

-- Nothing in the result of a display depends on the order of the others.
theorem forced_match_perm (perm : drm.Perm other) (display : DrmDisplayInfo) : forcedMatch drm wl display = forcedMatch other wl display := by
  have same : claimed drm wl = claimed other wl := by
    funext output
    exact perm.any_eq
  unfold forcedMatch unclaimedSame unnamedSame
  rw [same, perm.countP_eq]

theorem identity_order_free (distinct : DistinctNames drm) (perm : drm.Perm other)
    (first second : Nat) (display : DrmDisplayInfo) (there : drm[first]? = some display) (here : other[second]? = some display) :
    (identityMatches drm wl)[first]? = (identityMatches other wl)[second]? := by
  have distinctOther : DistinctNames other := (perm.map _).nodup_iff.mp distinct
  have value : ∀ (list : List DrmDisplayInfo) (place : Nat), DistinctNames list → list[place]? = some display →
      (identityMatches list wl)[place]? = some ((nameMatch wl display).or (forcedMatch list wl display)) := by
    intro list place distinct at_place
    have forced := forced_found list wl distinct
    have inside := (List.getElem?_eq_some_iff.mp at_place).1
    have long : place < (identityFound list wl).matched.length := by rwa [forced.paired.matched]
    have result := forced.done place display inside at_place
    rw [Matches.output, List.getD_eq_getElem?_getD, List.getElem?_eq_getElem long, Option.getD_some] at result
    change (identityFound list wl).matched[place]? = _
    rw [List.getElem?_eq_getElem long, result]
  rw [value drm first distinct there, value other second distinctOther here, forced_match_perm drm other wl perm display]

end

end GotechDesk.Drm.Geometry
