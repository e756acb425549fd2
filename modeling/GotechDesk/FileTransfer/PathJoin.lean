import GotechDesk.FileTransfer.TransferJob

set_option autoImplicit false

namespace GotechDesk.FileTransfer

open Segments

theorem stripPrefix_length (pattern path rest : Name) (found : stripPrefix pattern path = some rest) :
    path.length = pattern.length + rest.length := by
  unfold stripPrefix at found
  by_cases same : (slashed path).take pattern.length = pattern
  · rw [if_pos same] at found
    have length := congrArg List.length same
    simp only [List.length_take, slashed, List.length_map] at length
    rw [← Option.some.inj found, List.length_drop]
    omega
  · rw [if_neg same] at found
    cases found

theorem uncLength_le (isSep : Char → Bool) (path : Name) : uncLength (serverShare isSep path) ≤ path.length := by
  have whole := congrArg List.length (List.takeWhile_append_dropWhile (p := fun c => !isSep c) (l := path))
  rw [List.length_append] at whole
  have tail := (List.takeWhile_sublist (fun c => !isSep c) (l := (path.dropWhile (fun c => !isSep c)).tail)).length_le
  rw [List.length_tail] at tail
  dsimp only [uncLength, serverShare, parseNextComponent]
  split <;> omega

theorem next_le (isSep : Char → Bool) (path : Name) : (parseNextComponent isSep path).1.length ≤ path.length :=
  (List.takeWhile_sublist _).length_le

theorem windowsUnc_le (rest : Name) (kind : PrefixKind) (length : Nat) (found : parsePrefix.windowsUnc rest = some (kind, length)) :
    length ≤ 2 + rest.length := by
  unfold parsePrefix.windowsUnc at found
  cases device : stripPrefix ['.', '\\'] rest with
  | some device' =>
      rw [device] at found
      have size := stripPrefix_length _ _ _ device
      have next := next_le Style.windows.isSep device'
      simp only [Option.some.injEq, Prod.mk.injEq, List.length_cons, List.length_nil] at found size
      omega
  | none =>
      rw [device] at found
      dsimp only at found
      split at found
      · cases found
      · have size := uncLength_le Style.windows.isSep rest
        simp only [Option.some.injEq, Prod.mk.injEq] at found
        omega

theorem parseDrive_length (path : Name) (drive : parseDrive path = true) : 2 ≤ path.length := by
  match path, drive with
  | _ :: _ :: _, _ => simp

theorem parseDriveExact_length (path : Name) (drive : parseDriveExact path = true) : 2 ≤ path.length := by
  unfold parseDriveExact at drive
  split at drive
  · exact parseDrive_length path drive
  · rw [Bool.and_eq_true] at drive
    exact parseDrive_length path drive.2

theorem parsePrefix_le (path : Name) (kind : PrefixKind) (length : Nat) (found : parsePrefix path = some (kind, length)) :
    length ≤ path.length := by
  unfold parsePrefix at found
  cases slashes : stripPrefix ['\\', '\\'] path with
  | none =>
      rw [slashes] at found
      dsimp only at found
      split at found
      · have size := parseDrive_length path (by assumption)
        simp only [Option.some.injEq, Prod.mk.injEq] at found
        omega
      · cases found
  | some rest =>
      have outer := stripPrefix_length _ _ _ slashes
      rw [slashes] at found
      dsimp only at found
      cases question : stripPrefix ['?', '\\'] rest with
      | none =>
          rw [question] at found
          have size := windowsUnc_le rest kind length found
          simp only [List.length_cons, List.length_nil] at outer
          omega
      | some verbatim =>
          have inner := stripPrefix_length _ _ _ question
          simp only [List.length_cons, List.length_nil] at outer inner
          rw [question] at found
          dsimp only at found
          split at found
          · have size := windowsUnc_le rest kind length found
            omega
          · cases unc : stripPrefix ['U', 'N', 'C', '\\'] verbatim with
            | some share =>
                have third := stripPrefix_length _ _ _ unc
                have size := uncLength_le verbatimSep share
                rw [unc] at found
                simp only [Option.some.injEq, Prod.mk.injEq, List.length_cons, List.length_nil] at found third
                omega
            | none =>
                rw [unc] at found
                dsimp only at found
                split at found
                · have size := parseDriveExact_length verbatim (by assumption)
                  simp only [Option.some.injEq, Prod.mk.injEq] at found
                  omega
                · have size := next_le verbatimSep verbatim
                  simp only [Option.some.injEq, Prod.mk.injEq] at found
                  omega

theorem windowsUnc_ordinary (rest : Name) (kind : PrefixKind) (length : Nat) (found : parsePrefix.windowsUnc rest = some (kind, length)) :
    kind.isVerbatim = false := by
  unfold parsePrefix.windowsUnc at found
  cases device : stripPrefix ['.', '\\'] rest with
  | some device' =>
      rw [device] at found
      cases found
      rfl
  | none =>
      rw [device] at found
      dsimp only at found
      split at found
      · cases found
      · cases found
        rfl

theorem verbatim_length (path : Name) (kind : PrefixKind) (length : Nat) (found : parsePrefix path = some (kind, length))
    (isVerbatim : kind.isVerbatim = true) : 4 ≤ length := by
  unfold parsePrefix at found
  split at found
  · split at found
    · split at found
      · simp [windowsUnc_ordinary _ kind length found] at isVerbatim
      · split at found
        · cases found
          omega
        · split at found
          · cases found
            omega
          · cases found
            omega
    · simp [windowsUnc_ordinary _ kind length found] at isVerbatim
  · split at found
    · cases found
      cases isVerbatim
    · cases found

theorem Style.parsePrefix_le (style : Style) (path : Name) (kind : PrefixKind) (length : Nat)
    (found : style.parsePrefix path = some (kind, length)) : length ≤ path.length := by
  cases style with
  | unix => cases found
  | windows => exact FileTransfer.parsePrefix_le path kind length found

def Component.isLead : Component → Bool
  | .pfx _ _ | .rootDir => true
  | _ => false

theorem lead_isLead (style : Style) (path : Name) : ∀ part ∈ style.lead path, part.isLead = true := by
  intro part member
  unfold Style.lead at member
  cases found : style.parsePrefix path with
  | none =>
      simp only [found, Option.elim_none, Option.any_none, Bool.or_false, List.nil_append] at member
      split at member
      · rw [List.mem_singleton.mp member]
        rfl
      · cases member
  | some prefixed =>
      simp only [found, Option.elim_some, Option.any_some, List.mem_append, List.mem_singleton] at member
      obtain same | member := member
      · rw [same]
        rfl
      · split at member
        · rw [List.mem_singleton.mp member]
          rfl
        · cases member

-- The components of the body that name something.
def names (verbatim : Bool) (texts : List Name) : List Component :=
  (texts.filterMap (parseSingleComponent verbatim)).filter (fun part => part ≠ .curDir)

theorem names_append (verbatim : Bool) (first second : List Name) : names verbatim (first ++ second) = names verbatim first ++ names verbatim second := by
  simp [names]

theorem key_eq (style : Style) (path : Name) :
    style.key path = style.lead path ++ names (style.verbatim path) (segments (style.bodySep path) (style.bodyText path)) := by
  have leads : (style.lead path).filter (fun part => part ≠ .curDir) = style.lead path := by
    apply List.filter_eq_self.mpr
    intro part member
    have isLead := lead_isLead style path part member
    cases part <;> simp_all [Component.isLead]
  unfold Style.key Style.components
  rw [List.filter_append, List.filter_append, leads]
  split <;> simp [names]

theorem parseSingle_not_lead (verbatim : Bool) (text : Name) (part : Component) (parsed : parseSingleComponent verbatim text = some part) :
    part.isLead = false := by
  unfold parseSingleComponent at parsed
  split at parsed
  · cases parsed
  · split at parsed
    · split at parsed
      · cases parsed
        rfl
      · cases parsed
    · split at parsed
      · cases parsed
        rfl
      · cases parsed
        rfl

theorem names_not_lead (verbatim : Bool) (texts : List Name) : ∀ part ∈ names verbatim texts, part.isLead = false := by
  intro part member
  obtain ⟨text, _, parsed⟩ := List.mem_filterMap.mp (List.mem_filter.mp member).1
  exact parseSingle_not_lead verbatim text part parsed

theorem takeWhile_lead (leads others : List Component) (isLead : ∀ part ∈ leads, part.isLead = true)
    (notLead : ∀ part ∈ others, part.isLead = false) : (leads ++ others).takeWhile Component.isLead = leads := by
  rw [List.takeWhile_append_of_pos isLead]
  cases others with
  | nil => simp
  | cons part rest => simp [notLead part (by simp)]

theorem lead_eq_takeWhile (style : Style) (path : Name) : style.lead path = (style.key path).takeWhile Component.isLead := by
  rw [key_eq, takeWhile_lead _ _ (lead_isLead style path) (names_not_lead _ _)]

-- The lead says which prefix a path has.
theorem prefix_of_lead (style : Style) (path base : Name) (same : style.lead path = style.lead base) :
    style.parsePrefix path = style.parsePrefix base ∧
      ∀ kind length, style.parsePrefix base = some (kind, length) → path.take length = base.take length := by
  unfold Style.lead at same
  cases pathFound : style.parsePrefix path with
  | none =>
      cases baseFound : style.parsePrefix base with
      | none => exact ⟨rfl, by simp⟩
      | some found =>
          simp only [pathFound, baseFound, Option.elim_none, Option.elim_some, Option.any_none, Option.any_some, List.nil_append] at same
          split at same <;> simp at same
  | some found =>
      cases baseFound : style.parsePrefix base with
      | none =>
          simp only [pathFound, baseFound, Option.elim_none, Option.elim_some, Option.any_none, Option.any_some, List.nil_append] at same
          split at same <;> split at same <;> simp at same
      | some other =>
          simp only [pathFound, baseFound, Option.elim_some, Option.any_some, List.singleton_append, List.cons.injEq, Component.pfx.injEq] at same
          have bound := style.parsePrefix_le path found.1 found.2 pathFound
          have otherBound := style.parsePrefix_le base other.1 other.2 baseFound
          have sizes := congrArg List.length same.1.2
          rw [List.length_take, List.length_take] at sizes
          have length : found.2 = other.2 := by omega
          have kind : found.1 = other.1 := same.1.1
          refine ⟨?_, ?_⟩
          · rw [show found = other from Prod.ext kind length]
          · intro k n given
            cases given
            rw [length] at same
            exact same.1.2

theorem verbatim_of_lead (style : Style) (path base : Name) (same : style.lead path = style.lead base) :
    style.verbatim path = style.verbatim base := by
  unfold Style.verbatim
  rw [(prefix_of_lead style path base same).1]

theorem names_empty (verbatim : Bool) (texts : List Name) : names verbatim ([] :: texts) = names verbatim texts := by
  simp [names, parseSingleComponent]

section
variable (style : Style)

-- Without a verbatim prefix the root separator is one more separator.
theorem key_body (path : Name) (plain : style.verbatim path = false) :
    style.key path = style.lead path ++ names false (segments style.isSep (style.body path)) := by
  rw [key_eq, plain]
  have sep : style.bodySep path = style.isSep := by simp [Style.bodySep, plain]
  rw [sep]
  unfold Style.bodyText Style.hasPhysicalRoot
  cases body : style.body path with
  | nil => simp
  | cons c rest =>
      by_cases isSep : style.isSep c = true
      · simp [isSep, segments_cons_sep, names_empty]
      · simp [isSep]

theorem body_append (base rest : Name) (same : style.lead (base ++ rest) = style.lead base) : style.body (base ++ rest) = style.body base ++ rest := by
  unfold Style.body
  rw [(prefix_of_lead style _ base same).1]
  cases found : style.parsePrefix base with
  | none => simp
  | some prefixed =>
      have bound := style.parsePrefix_le base prefixed.1 prefixed.2 found
      simp [List.drop_append_of_le_length bound]

theorem mainSep_isSep : style.isSep style.mainSep = true := by cases style <;> decide

-- Where a push puts no separator, there is nothing after the prefix or a separator at the end.
theorem pushSep_nil (base : Name) (none : style.pushSep base = []) :
    style.body base = [] ∨ ∃ text c, style.body base = text ++ [c] ∧ style.isSep c = true := by
  by_cases empty : style.body base = []
  · exact .inl empty
  · right
    obtain ⟨text, c, shape⟩ : ∃ text c, style.body base = text ++ [c] :=
      ⟨_, _, (List.dropLast_append_getLast empty).symm⟩
    refine ⟨text, c, shape, ?_⟩
    have last : base.getLast? = some c := by
      have whole := List.take_append_drop ((style.parsePrefix base).elim 0 Prod.snd) base
      change _ ++ style.body base = base at whole
      rw [← whole, shape, ← List.append_assoc]
      simp
    by_contra plain
    have bare : style.bareDrive base = true := by
      by_contra notBare
      simp [Style.pushSep, last, plain, notBare] at none
    unfold Style.bareDrive at bare
    cases found : style.parsePrefix base with
    | none => simp [found] at bare
    | some prefixed =>
        simp only [found, Option.any_some, Bool.and_eq_true, decide_eq_true_eq] at bare
        apply empty
        simp [Style.body, found, bare.2]

theorem names_push (base tail : Name) : names false (segments style.isSep (style.body base ++ (style.pushSep base ++ tail))) =
      names false (segments style.isSep (style.body base)) ++ names false (segments style.isSep tail) := by
  by_cases none : style.pushSep base = []
  · rw [none, List.nil_append]
    obtain empty | ⟨text, c, shape, isSep⟩ := pushSep_nil style base none
    · rw [empty]
      simp [segments, names, parseSingleComponent]
    · rw [shape, List.append_assoc]
      change names false (segments style.isSep (text ++ c :: tail)) = names false (segments style.isSep (text ++ c :: [])) ++ _
      rw [segments_append_sep _ _ _ _ isSep, segments_append_sep _ _ _ _ isSep]
      simp [segments, names, parseSingleComponent]
  · have one : style.pushSep base = [style.mainSep] := by
      unfold Style.pushSep at none ⊢
      split
      · rfl
      · rename_i unneeded
        exact absurd (if_neg unneeded) none
    rw [one]
    change names false (segments style.isSep (style.body base ++ style.mainSep :: tail)) = _
    rw [segments_append_sep _ _ _ _ (mainSep_isSep style), names_append]

theorem key_push_plain (base tail : Name) (plain : style.verbatim base = false)
    (same : style.lead (base ++ (style.pushSep base ++ tail)) = style.lead base) :
    style.key (base ++ (style.pushSep base ++ tail)) = style.key base ++ names false (segments style.isSep tail) := by
  have pathPlain := (verbatim_of_lead style _ base same).trans plain
  rw [key_body style _ pathPlain, key_body style base plain, same, body_append style base _ same, names_push]
  simp

end

-- What the check of a name leaves: no way up, no root and no drive.
structure PlainName (style : Style) (name : Name) : Prop where
  down : ∀ segment ∈ segments style.isSep name, segment ≠ ['.', '.']
  unrooted : name.head?.any style.isSep = false
  undriven : style.parsePrefix name = none

theorem stripPrefix_slashes (name : Name) (unrooted : name.head?.any Style.windows.isSep = false) : stripPrefix ['\\', '\\'] name = none := by
  cases name with
  | nil => rfl
  | cons c rest =>
      simp only [List.head?_cons, Option.any_some, Style.isSep, Bool.or_eq_false_iff, beq_eq_false_iff_ne, Bool.and_eq_false_iff] at unrooted
      have other : c ≠ '\\' := by
        obtain ⟨_, windows | other⟩ := unrooted
        · exact absurd rfl windows
        · exact other
      simp [stripPrefix, slashed, unrooted.1, other]

theorem plainName_of_validated (style : Style) (name : Name) (valid : validateFileNameNoTraversal style name = .ok ()) : PlainName style name := by
  unfold validateFileNameNoTraversal at valid
  split at valid
  · cases valid
  · split at valid
    · cases valid
    · rename_i noTraversal
      have down : ∀ segment ∈ segments style.isSep name, segment ≠ ['.', '.'] := by
        intro segment member up
        apply noTraversal
        rw [List.any_eq_true]
        exact ⟨segment, List.mem_filter.mpr ⟨member, by simp [up]⟩, by simp [up]⟩
      cases style with
      | unix =>
          dsimp only at valid
          split at valid
          · cases valid
          · rename_i unrooted
            exact ⟨down, by simpa using unrooted, rfl⟩
      | windows =>
          dsimp only at valid
          split at valid
          · cases valid
          · rename_i noDrive
            split at valid
            · cases valid
            · rename_i unrooted
              have head : name.head?.any Style.windows.isSep = false := by simpa using unrooted
              refine ⟨down, head, ?_⟩
              change FileTransfer.parsePrefix name = none
              unfold FileTransfer.parsePrefix
              rw [stripPrefix_slashes name head]
              simp [noDrive]

-- The segments of a name that name something.
def nameSegments (style : Style) (name : Name) : List Name :=
  (segments style.isSep name).filter (fun segment => segment ≠ [] ∧ segment ≠ ['.'])

theorem names_normal (verbatim : Bool) (texts : List Name) (down : ∀ text ∈ texts, text ≠ ['.', '.']) :
    names verbatim texts = (texts.filter (fun text => text ≠ [] ∧ text ≠ ['.'])).map Component.normal := by
  induction texts with
  | nil => rfl
  | cons text rest ih =>
      have here := down text (by simp)
      have others := ih (fun other member => down other (by simp [member]))
      change names verbatim ([text] ++ rest) = _
      rw [names_append, others]
      by_cases empty : text = []
      · simp [empty, names, parseSingleComponent]
      · by_cases dot : text = ['.']
        · cases verbatim <;> simp [dot, names, parseSingleComponent]
        · simp [empty, dot, here, names, parseSingleComponent]

theorem lead_plainName (style : Style) (name : Name) (plain : PlainName style name) : style.lead name = [] := by
  simp [Style.lead, plain.undriven, Style.hasPhysicalRoot, Style.body, plain.unrooted]

theorem fold_pushComponent (parts more : List Component) (ordinary : ∀ part ∈ more, part = .curDir ∨ ∃ segment, part = .normal segment) :
    more.foldl pushComponent parts = parts ++ more.filter (fun part => part ≠ .curDir) := by
  induction more generalizing parts with
  | nil => simp
  | cons part rest ih =>
      have others := fun state => ih state (fun other member => ordinary other (by simp [member]))
      rw [List.foldl_cons, others]
      obtain dot | ⟨segment, normal⟩ := ordinary part (by simp)
      · simp [dot, pushComponent]
      · simp [normal, pushComponent]

theorem components_plainName (style : Style) (name : Name) (plain : PlainName style name) :
    ∀ part ∈ style.components name, part = .curDir ∨ ∃ segment, part = .normal segment := by
  intro part member
  have body : style.bodyText name = name := by
    simp [Style.bodyText, Style.hasPhysicalRoot, Style.body, plain.undriven, plain.unrooted]
  have sep : style.bodySep name = style.isSep := by simp [Style.bodySep, Style.verbatim, plain.undriven]
  unfold Style.components at member
  rw [lead_plainName style name plain, body, sep] at member
  simp only [List.nil_append, List.mem_append, List.mem_filterMap] at member
  obtain dot | ⟨text, listed, parsed⟩ := member
  · left
    split at dot
    · simpa using dot
    · cases dot
  · have down := plain.down text listed
    unfold parseSingleComponent at parsed
    split at parsed
    · cases parsed
    · split at parsed
      · split at parsed <;> simp_all
      · cases parsed
        exact .inr ⟨text, rfl⟩

theorem key_plainName (style : Style) (name : Name) (plain : PlainName style name) :
    style.key name = (nameSegments style name).map Component.normal := by
  have ordinary : style.verbatim name = false := by simp [Style.verbatim, plain.undriven]
  have body : style.body name = name := by simp [Style.body, plain.undriven]
  rw [key_body style name ordinary, lead_plainName style name plain, body, names_normal _ _ plain.down]
  rfl

section
variable (style : Style) (text : Name) (parts : List Component)

theorem render_rest (body : ∀ part ∈ parts, part.isLead = false) :
    (parts.foldl (renderPart style) (text, true)).1 = text ++ parts.flatMap (fun part => style.mainSep :: part.text style) := by
  induction parts generalizing text with
  | nil => simp
  | cons part rest ih =>
      have others := fun state => ih state (fun other member => body other (by simp [member]))
      have here := body part (by simp)
      cases part with
      | pfx kind named => cases here
      | rootDir => cases here
      | curDir => simp [renderPart, others]
      | parentDir => simp [renderPart, others]
      | normal segment => simp [renderPart, others]

theorem render_body (body : ∀ part ∈ parts, part.isLead = false) :
    (parts.foldl (renderPart style) (text, false)).1 = text ++ joined style.mainSep (parts.map (Component.text style)) := by
  cases parts with
  | nil => simp [joined]
  | cons part rest =>
      have first : renderPart style (text, false) part = (text ++ part.text style, true) := by
        have here := body part (by simp)
        cases part with
        | pfx kind named => cases here
        | rootDir => cases here
        | curDir => simp [renderPart]
        | parentDir => simp [renderPart]
        | normal segment => simp [renderPart]
      have others := render_rest style (text ++ part.text style) rest (fun other member => body other (by simp [member]))
      rw [List.foldl_cons, first, others, List.map_cons, joined_cons]
      simp [List.flatMap_map]

end

-- A component that reads back from its own text after a verbatim prefix.
structure ReadsBack (part : Component) : Prop where
  parsed : parseSingleComponent true (part.text .windows) = some part
  plain : ∀ c ∈ part.text .windows, verbatimSep c = false

theorem readsBack_parsed (text : Name) (part : Component) (plain : ∀ c ∈ text, verbatimSep c = false)
    (parsed : parseSingleComponent true text = some part) : ReadsBack part := by
  have same : part.text .windows = text := by
    unfold parseSingleComponent at parsed
    split at parsed
    · cases parsed
    · split at parsed
      · rename_i dot
        cases parsed
        exact dot.symm
      · split at parsed
        · rename_i up
          cases parsed
          exact up.symm
        · cases parsed
          rfl
  exact ⟨by rw [same]; exact parsed, by rw [same]; exact plain⟩

theorem readsBack_body (texts : Name) : ∀ part ∈ (segments verbatimSep texts).filterMap (parseSingleComponent true), ReadsBack part := by
  intro part member
  obtain ⟨text, listed, parsed⟩ := List.mem_filterMap.mp member
  exact readsBack_parsed text part (mem_segments_plain verbatimSep texts text listed) parsed

theorem readsBack_normal (name segment : Name) (member : segment ∈ nameSegments .windows name) (plain : PlainName .windows name) :
    ReadsBack (.normal segment) := by
  obtain ⟨listed, kept⟩ := List.mem_filter.mp member
  simp only [decide_eq_true_eq] at kept
  have noSep := mem_segments_plain Style.windows.isSep name segment listed
  have down := plain.down segment listed
  refine ⟨by simp [Component.text, parseSingleComponent, kept.1, kept.2, down], ?_⟩
  intro c inside
  have other := noSep c inside
  simp only [Style.isSep, Bool.or_eq_false_iff, beq_eq_false_iff_ne, Bool.and_eq_false_iff] at other
  obtain ⟨_, windows | other⟩ := other
  · exact absurd rfl windows
  · simpa [verbatimSep] using other

theorem filterMap_readsBack (parts : List Component) (reads : ∀ part ∈ parts, ReadsBack part) :
    (parts.map (Component.text .windows)).filterMap (parseSingleComponent true) = parts := by
  induction parts with
  | nil => rfl
  | cons part rest ih =>
      have here := (reads part (by simp)).parsed
      have others := ih (fun other member => reads other (by simp [member]))
      simp [here, others]

theorem segments_texts (parts : List Component) (reads : ∀ part ∈ parts, ReadsBack part) (some : parts ≠ []) :
    segments verbatimSep (joined '\\' (parts.map (Component.text .windows))) = parts.map (Component.text .windows) := by
  apply segments_joined verbatimSep '\\' _ rfl (by simpa using some)
  intro piece member
  obtain ⟨part, listed, same⟩ := List.mem_map.mp member
  rw [← same]
  exact (reads part listed).plain

-- The components a list of parts reads back to when it is put together after a verbatim prefix.
theorem names_texts (parts : List Component) (reads : ∀ part ∈ parts, ReadsBack part) :
    names true (segments verbatimSep (joined '\\' (parts.map (Component.text .windows)))) = parts.filter (fun part => part ≠ .curDir) := by
  by_cases some : parts = []
  · rw [some]
    rfl
  · rw [segments_texts parts reads some, names, filterMap_readsBack parts reads]

theorem role_suffix_plain (style : Style) (role : Role) : ∀ c ∈ role.suffix, style.isSep c = false ∧ verbatimSep c = false := by
  intro c member
  have plain : role.suffix.all (fun c => !style.isSep c && !verbatimSep c) = true := by
    cases style <;> cases role <;> decide
  simpa using List.all_eq_true.mp plain c member

theorem role_suffix_parsed (verbatim : Bool) (role : Role) (text : Name) (sibling : role ≠ .entry) :
    parseSingleComponent verbatim (text ++ role.suffix) = some (.normal (text ++ role.suffix)) := by
  have long : 3 ≤ (text ++ role.suffix).length := by
    rw [List.length_append]
    have size : 3 ≤ role.suffix.length := by
      cases role with
      | entry => exact absurd rfl sibling
      | download => decide
      | digest => decide
    omega
  unfold parseSingleComponent
  rw [if_neg (by intro short; rw [short] at long; simp at long), if_neg (by intro short; rw [short] at long; simp at long),
    if_neg (by intro short; rw [short] at long; simp at long)]

theorem names_texts_suffix (parts : List Component) (role : Role) (reads : ∀ part ∈ parts, ReadsBack part) (sibling : role ≠ .entry) :
    ∃ segment, names true (segments verbatimSep (joined '\\' (parts.map (Component.text .windows)) ++ role.suffix)) =
      parts.dropLast.filter (fun part => part ≠ .curDir) ++ [.normal segment] := by
  have plain : ∀ c ∈ role.suffix, verbatimSep c = false := fun c member => (role_suffix_plain .windows role c member).2
  rw [segments_append_plain verbatimSep _ _ plain, extendLast]
  refine ⟨(segments verbatimSep (joined '\\' (parts.map (Component.text .windows)))).getLast?.getD [] ++ role.suffix, ?_⟩
  rw [names_append]
  congr 1
  · by_cases some : parts = []
    · rw [some]
      rfl
    · rw [segments_texts parts reads some, ← List.map_dropLast, names, filterMap_readsBack]
      intro part member
      exact reads part (List.dropLast_subset parts member)
  · simp only [names, List.filterMap_cons, role_suffix_parsed true role _ sibling, List.filterMap_nil]
    simp

-- The text of a verbatim path: its prefix, its root if it has one, and its parts with separators.
theorem render_verbatim (kind : PrefixKind) (text : Name) (rooted : Bool) (parts : List Component) (isVerbatim : kind.isVerbatim = true)
    (some : text ≠ []) (body : ∀ part ∈ parts, part.isLead = false) :
    render .windows (.pfx kind text :: (if rooted then [.rootDir] else []) ++ parts) =
      text ++ (if rooted || parts ≠ [] then ['\\'] else []) ++ joined '\\' (parts.map (Component.text .windows)) := by
  have notDrive : kind.isDrive = false := by cases kind <;> simp_all [PrefixKind.isVerbatim, PrefixKind.isDrive]
  have first : renderPart .windows ([], false) (.pfx kind text) = (text, true) := by
    have long : 0 < text.length := List.length_pos_iff.mpr some
    simp [renderPart, notDrive, Component.text, long]
  unfold render
  cases rooted with
  | true =>
      have second : renderPart .windows (text, true) .rootDir = (text ++ ['\\'], false) := by simp [renderPart, Component.text, Style.mainSep]
      rw [if_pos rfl, List.cons_append, List.foldl_cons, first, List.singleton_append, List.foldl_cons, second, render_body _ _ _ body]
      rfl
  | false =>
      rw [if_neg (by simp), List.singleton_append, List.foldl_cons, first, render_rest _ _ _ body]
      cases parts with
      | nil => simp [joined]
      | cons part rest => simp [joined_cons, List.flatMap_map, Style.mainSep]

-- A base with a verbatim prefix, taken apart.
structure VerbatimBase (base : Name) (kind : PrefixKind) (length : Nat) (rooted : Bool) (parts : List Component) : Prop where
  found : Style.windows.parsePrefix base = some (kind, length)
  isVerbatim : kind.isVerbatim = true
  root : Style.windows.hasPhysicalRoot base = rooted
  lead : Style.windows.lead base = .pfx kind (base.take length) :: (if rooted then [.rootDir] else [])
  components : Style.windows.components base = Style.windows.lead base ++ parts
  reads : ∀ part ∈ parts, ReadsBack part

theorem verbatimBase_of (style : Style) (base : Name) (isVerbatim : style.verbatim base = true) :
    style = .windows ∧ ∃ kind length rooted parts, VerbatimBase base kind length rooted parts := by
  cases style with
  | unix => cases isVerbatim
  | windows =>
      refine ⟨rfl, ?_⟩
      cases found : Style.windows.parsePrefix base with
      | none => simp [Style.verbatim, found] at isVerbatim
      | some prefixed =>
          have kind : prefixed.1.isVerbatim = true := by simpa [Style.verbatim, found] using isVerbatim
          have lead : Style.windows.lead base = .pfx prefixed.1 (base.take prefixed.2) ::
              (if Style.windows.hasPhysicalRoot base then [.rootDir] else []) := by simp [Style.lead, found, kind]
          refine ⟨prefixed.1, prefixed.2, Style.windows.hasPhysicalRoot base,
            (segments verbatimSep (Style.windows.bodyText base)).filterMap (parseSingleComponent true), found, kind, rfl, lead, ?_, readsBack_body _⟩
          have sep : Style.windows.bodySep base = verbatimSep := by simp [Style.bodySep, isVerbatim]
          unfold Style.components
          rw [isVerbatim, sep, lead]
          simp

theorem readsBack_not_lead (part : Component) (reads : ReadsBack part) : part.isLead = false :=
  parseSingle_not_lead true _ part reads.parsed

theorem key_verbatim_base (base : Name) (kind : PrefixKind) (length : Nat) (rooted : Bool) (parts : List Component)
    (shape : VerbatimBase base kind length rooted parts) :
    Style.windows.key base = Style.windows.lead base ++ parts.filter (fun part => part ≠ .curDir) := by
  have leads : (Style.windows.lead base).filter (fun part => part ≠ .curDir) = Style.windows.lead base := by
    rw [shape.lead]
    cases rooted <;> rfl
  unfold Style.key
  rw [shape.components, List.filter_append, leads]

theorem push_verbatim (base name : Name) (kind : PrefixKind) (length : Nat) (rooted : Bool) (parts : List Component)
    (shape : VerbatimBase base kind length rooted parts) (plain : PlainName .windows name) (named : name ≠ []) :
    Style.windows.push base name =
      base.take length ++ (if rooted || (parts ++ (nameSegments .windows name).map Component.normal) ≠ [] then ['\\'] else []) ++
        joined '\\' ((parts ++ (nameSegments .windows name).map Component.normal).map (Component.text .windows)) := by
  have isVerbatim : Style.windows.verbatim base = true := by simp [Style.verbatim, shape.found, shape.isVerbatim]
  have relative : (Style.windows.isAbsolute name || (Style.windows.parsePrefix name).isSome) = false := by
    simp [Style.isAbsolute, plain.undriven]
  have segmentsKey := key_plainName .windows name plain
  have some : base.take length ≠ [] := by
    have bound := Style.windows.parsePrefix_le base kind length shape.found
    have long := verbatim_length base kind length shape.found shape.isVerbatim
    intro empty
    have size := congrArg List.length empty
    rw [List.length_take, List.length_nil] at size
    omega
  unfold Style.push
  rw [if_neg (by simp [relative]), if_pos (by simp [isVerbatim, named])]
  rw [fold_pushComponent _ _ (components_plainName .windows name plain)]
  change render .windows (Style.windows.components base ++ Style.windows.key name) = _
  rw [segmentsKey, shape.components, shape.lead, List.append_assoc]
  apply render_verbatim kind (base.take length) rooted _ shape.isVerbatim some
  intro part member
  obtain inBase | inName := List.mem_append.mp member
  · exact readsBack_not_lead part (shape.reads part inBase)
  · obtain ⟨segment, _, same⟩ := List.mem_map.mp inName
    rw [← same]
    rfl

theorem entry_suffix : Role.entry.suffix = [] := rfl

theorem suffix_unrooted (style : Style) (role : Role) : role.suffix.head?.any style.isSep = false := by
  cases style <;> cases role <;> decide

-- A path after a verbatim prefix reads back to the parts it was put together from.
theorem key_rendered (base path : Name) (kind : PrefixKind) (length : Nat) (rooted : Bool) (baseParts parts : List Component) (role : Role)
    (shape : VerbatimBase base kind length rooted baseParts)
    (text : path = base.take length ++ (if rooted || parts ≠ [] then ['\\'] else []) ++
      joined '\\' (parts.map (Component.text .windows)) ++ role.suffix)
    (same : Style.windows.lead path = Style.windows.lead base) :
    Style.windows.key path = Style.windows.lead base ++
      names true (segments verbatimSep (joined '\\' (parts.map (Component.text .windows)) ++ role.suffix)) := by
  have found : Style.windows.parsePrefix path = some (kind, length) := (prefix_of_lead .windows path base same).1.trans shape.found
  have isVerbatim : Style.windows.verbatim path = true := by simp [Style.verbatim, found, shape.isVerbatim]
  have bound := Style.windows.parsePrefix_le base kind length shape.found
  have size : (base.take length).length = length := by rw [List.length_take]; omega
  have body : Style.windows.body path =
      (if rooted || parts ≠ [] then ['\\'] else []) ++ (joined '\\' (parts.map (Component.text .windows)) ++ role.suffix) := by
    unfold Style.body
    rw [found, text]
    simp only [Option.elim_some, List.append_assoc]
    exact List.drop_left' size
  have lead : Style.windows.lead path = .pfx kind (path.take length) :: (if Style.windows.hasPhysicalRoot path then [.rootDir] else []) := by
    simp [Style.lead, found, shape.isVerbatim]
  have rest : Style.windows.bodyText path = joined '\\' (parts.map (Component.text .windows)) ++ role.suffix := by
    unfold Style.bodyText Style.hasPhysicalRoot
    rw [body]
    by_cases separated : (rooted || decide (parts ≠ [])) = true
    · rw [if_pos separated]
      simp [Style.isSep]
    · rw [if_neg separated]
      have nothing : parts = [] := by simp_all
      rw [nothing]
      simp [joined, suffix_unrooted .windows role]
  have sep : Style.windows.bodySep path = verbatimSep := by simp [Style.bodySep, isVerbatim]
  rw [key_eq, same, isVerbatim, sep, rest]

theorem key_verbatim_below (base name : Name) (role : Role) (kind : PrefixKind) (length : Nat) (rooted : Bool) (parts : List Component)
    (shape : VerbatimBase base kind length rooted parts) (plain : PlainName .windows name) (named : name ≠ [])
    (same : Style.windows.lead (Style.windows.push base name ++ role.suffix) = Style.windows.lead base)
    (longer : (Style.windows.key base).length < (Style.windows.key (Style.windows.push base name ++ role.suffix)).length) :
    ∃ below : List Name, below ≠ [] ∧ Style.windows.key (Style.windows.push base name ++ role.suffix) = Style.windows.key base ++ below.map Component.normal := by
  have reads : ∀ part ∈ parts ++ (nameSegments .windows name).map Component.normal, ReadsBack part := by
    intro part member
    obtain inBase | inName := List.mem_append.mp member
    · exact shape.reads part inBase
    · obtain ⟨segment, listed, rfl⟩ := List.mem_map.mp inName
      exact readsBack_normal name segment listed plain
  have key := key_rendered base _ kind length rooted parts (parts ++ (nameSegments .windows name).map Component.normal) role shape
    (by rw [push_verbatim base name kind length rooted parts shape plain named]) same
  have baseKey := key_verbatim_base base kind length rooted parts shape
  rw [key, baseKey] at longer ⊢
  have kept : ∀ others : List Name, (others.map Component.normal).filter (fun part => part ≠ .curDir) = others.map Component.normal := by
    intro others
    apply List.filter_eq_self.mpr
    intro part member
    obtain ⟨segment, _, rfl⟩ := List.mem_map.mp member
    rfl
  by_cases entry : role = .entry
  · rw [entry, entry_suffix, List.append_nil] at longer ⊢
    rw [names_texts _ reads, List.filter_append, kept] at longer ⊢
    refine ⟨nameSegments .windows name, ?_, by simp⟩
    intro none
    rw [none] at longer
    simp at longer
  · obtain ⟨segment, shapeOf⟩ := names_texts_suffix _ role reads entry
    rw [shapeOf] at longer ⊢
    cases inName : nameSegments .windows name with
    | cons first others =>
        refine ⟨(first :: others).dropLast ++ [segment], by simp, ?_⟩
        rw [List.dropLast_append_of_ne_nil (by simp), List.filter_append, ← List.map_dropLast, kept]
        simp
    | nil =>
        rw [inName] at longer
        refine ⟨[segment], by simp, ?_⟩
        cases lastOf : parts.getLast? with
        | none =>
            rw [List.getLast?_eq_none_iff.mp lastOf]
            simp
        | some last =>
            obtain ⟨init, rfl⟩ := List.getLast?_eq_some_iff.mp lastOf
            by_cases dot : last = .curDir
            · simp [dot]
            · simp [dot] at longer

theorem segments_suffix (style : Style) (name : Name) (role : Role) (plain : PlainName style name) :
    ∃ below : List Name, names false (segments style.isSep (name ++ role.suffix)) = below.map Component.normal := by
  have noSep : ∀ c ∈ role.suffix, style.isSep c = false := fun c member => (role_suffix_plain style role c member).1
  by_cases entry : role = .entry
  · rw [entry, entry_suffix, List.append_nil, names_normal _ _ plain.down]
    exact ⟨_, rfl⟩
  · rw [segments_append_plain style.isSep name role.suffix noSep, extendLast, names_append]
    have init : ∀ text ∈ (segments style.isSep name).dropLast, text ≠ ['.', '.'] :=
      fun text member => plain.down text (List.dropLast_subset _ member)
    rw [names_normal _ _ init]
    refine ⟨((segments style.isSep name).dropLast.filter (fun text => text ≠ [] ∧ text ≠ ['.'])) ++
      [(segments style.isSep name).getLast?.getD [] ++ role.suffix], ?_⟩
    simp [names, role_suffix_parsed false role _ entry]

theorem push_plain (style : Style) (base name : Name) (plain : PlainName style name) (ordinary : style.verbatim base = false) :
    style.push base name = base ++ style.pushSep base ++ name := by
  have relative : (style.isAbsolute name || (style.parsePrefix name).isSome) = false := by
    simp [Style.isAbsolute, Style.hasRoot, Style.hasPhysicalRoot, Style.body, plain.undriven, plain.unrooted]
  have unrooted : style.hasRoot name = false := by
    simp [Style.hasRoot, Style.hasPhysicalRoot, Style.body, plain.undriven, plain.unrooted]
  unfold Style.push
  rw [if_neg (by simp [relative]), if_neg (by simp [ordinary]), if_neg (by simp [unrooted])]

-- A checked name put on a base stays below the base, as long as the prefix and the root are those of
-- the base and something is added to it.
theorem key_below (style : Style) (target : Target) (plain : PlainName style target.name) (named : target.name ≠ [])
    (same : style.lead (target.path style) = style.lead target.base)
    (longer : (style.key target.base).length < (target.key style).length) :
    ∃ below : List Name, below ≠ [] ∧ target.key style = style.key target.base ++ below.map Component.normal := by
  have path : target.path style = style.push target.base target.name ++ target.role.suffix := by simp [Target.path, join, named]
  unfold Target.key at longer ⊢
  rw [path] at same longer ⊢
  by_cases isVerbatim : style.verbatim target.base = true
  · obtain ⟨rfl, kind, length, rooted, parts, shape⟩ := verbatimBase_of style target.base isVerbatim
    exact key_verbatim_below target.base target.name target.role kind length rooted parts shape plain named same longer
  · have ordinary : style.verbatim target.base = false := by simpa using isVerbatim
    rw [push_plain style target.base target.name plain ordinary, List.append_assoc, List.append_assoc] at same longer ⊢
    have key := key_push_plain style target.base (target.name ++ target.role.suffix) ordinary same
    obtain ⟨below, shape⟩ := segments_suffix style target.name target.role plain
    rw [key, shape] at longer ⊢
    refine ⟨below, ?_, rfl⟩
    intro none
    rw [none] at longer
    simp at longer

end GotechDesk.FileTransfer
