import GotechDesk.Drm.IdentityOrder

set_option autoImplicit false

namespace GotechDesk.Drm.Geometry

section
variable (drm : List DrmDisplayInfo) (wl : List WaylandDisplayInfo)

theorem assigned_extends (connector output : Nat)
    (owns : (identityMatches drm wl)[connector]? = some (some output)) : (assignWaylandOutputs drm wl)[connector]? = some (some output) :=
  (output_eq _ connector output).mp ((assign_laid_out drm wl).kept connector output ((output_eq (identityFound drm wl) connector output).mpr owns))

theorem assigned_one (first second output : Nat)
    (owns : (assignWaylandOutputs drm wl)[first]? = some (some output)) (again : (assignWaylandOutputs drm wl)[second]? = some (some output)) :
    first = second :=
  (assign_laid_out drm wl).paired.one first second output ((output_eq _ first output).mpr owns) ((output_eq _ second output).mpr again)

theorem assigned_all (connector output : Nat) (nothing : (assignWaylandOutputs drm wl)[connector]? = some none) (room : output < wl.length) :
    ∃ other : Nat, (assignWaylandOutputs drm wl)[other]? = some (some output) := by
  have laid := assign_laid_out drm wl
  have inside : connector < drm.length := by
    rw [← laid.paired.matched]
    exact (List.getElem?_eq_some_iff.mp nothing).1
  have taken := laid.none_free connector inside (by rw [Matches.output, List.getD_eq_getElem?_getD]; exact congrArg (Option.getD · none) nothing) output room
  obtain ⟨other, owns⟩ := (laid.paired.taken output).mp taken
  exact ⟨other, (output_eq _ other output).mp owns⟩

end

section
variable {ρ : Type} (getOriginalResolution : List Char → Int → Int → ρ)

def DisplayInfo.size (info : DisplayInfo ρ) : Int32 × Int32 := (info.width, info.height)

-- The transform a capturer takes from the output of an identity match.
def matchedTransform (identity : Option Nat) (wl : List WaylandDisplayInfo) : Int32 :=
  ((identity.bind (fun output => wl[output]?)).map WaylandDisplayInfo.transform).elim 0
    (fun transform => if transform = 90 ∨ transform = 270 then transform else 0)

theorem adopt_logical_size (drm : DrmDisplayInfo) (wl : WaylandDisplayInfo) (info : DisplayInfo ρ) :
    (adoptLogical getOriginalResolution drm wl info).size = info.size := by
  unfold adoptLogical
  split
  · split <;> rfl
  · rfl

theorem swap_rotated_size (drm : DrmDisplayInfo) (wl : WaylandDisplayInfo) (isIdentity : Bool) (info : DisplayInfo ρ) :
    (swapRotated getOriginalResolution drm wl isIdentity info).size =
      rotatedDims (if isIdentity ∧ (wl.transform = 90 ∨ wl.transform = 270) then wl.transform else 0) info.width info.height := by
  unfold swapRotated
  split
  · rename_i both
    rw [rotatedDims, if_pos both.2]
    rfl
  · rw [rotatedDims, if_neg (by decide)]
    rfl

theorem rotated_dims_zero {α : Type} (w h : α) : rotatedDims 0 w h = (w, h) := if_neg (by decide)

theorem augment_display_size (originOnly : Bool) (identity matched : Option Nat) (wl : List WaylandDisplayInfo) (drm : DrmDisplayInfo)
    (extends_it : ∀ output, identity = some output → matched = some output) :
    (augmentDisplay getOriginalResolution originOnly identity matched wl drm).size =
      rotatedDims (matchedTransform identity wl) drm.width.toInt32 drm.height.toInt32 := by
  unfold augmentDisplay
  cases place : matched.bind (fun output => wl[output]?) with
  | none =>
      have unknown : matchedTransform identity wl = 0 := by
        cases identity with
        | none => rfl
        | some output =>
            rw [extends_it output rfl] at place
            rw [matchedTransform, place]
            rfl
      rw [unknown, rotated_dims_zero]
      rfl
  | some output =>
      have turned := swap_rotated_size getOriginalResolution drm output (identity.isSome && identity == matched)
        { displayInfoFromDrm getOriginalResolution drm with x := output.x, y := output.y }
      have same : (if (identity.isSome && identity == matched) = true ∧ (output.transform = 90 ∨ output.transform = 270) then output.transform else 0) =
          matchedTransform identity wl := by
        cases identity with
        | none => exact if_neg (fun both => by cases both.1)
        | some known =>
            rw [extends_it known rfl] at place ⊢
            rw [matchedTransform, place]
            simp
      rw [same] at turned
      dsimp only
      split
      · exact turned
      · rw [adopt_logical_size]
        exact turned

section
variable (drm : List DrmDisplayInfo) (wl : List WaylandDisplayInfo)

theorem identity_get (index output : Nat)
    (owns : (identityMatches drm wl).getD index none = some output) : (assignWaylandOutputs drm wl).getD index none = some output := by
  have there := (output_eq (identityFound drm wl) index output).mp owns
  rw [List.getD_eq_getElem?_getD, assigned_extends drm wl index output there]
  rfl

theorem delivered_size (index : Nat) (display : DrmDisplayInfo) (here : drm[index]? = some display) :
    ∃ info, (augmentWithWaylandGeometryFrom getOriginalResolution drm wl (assignWaylandOutputs drm wl))[index]? = some info ∧
      info.size = rotatedDims (transformAndOrigin getOriginalResolution drm index wl).transform display.width.toInt32 display.height.toInt32 ∧
      ∀ origin, (transformAndOrigin getOriginalResolution drm index wl).origin = some origin → (info.x, info.y) = origin := by
  have some_drm : drm.isEmpty = false := by
    cases drm with
    | nil => cases here
    | cons => rfl
  by_cases blind : wl.isEmpty = true ∨ (wl.length = 1 ∧ 1 < drm.length)
  · have plain : augmentWithWaylandGeometryFrom getOriginalResolution drm wl (assignWaylandOutputs drm wl) =
        drm.map (displayInfoFromDrm getOriginalResolution) := if_pos (.inr blind)
    have none_known : transformAndOrigin getOriginalResolution drm index wl =
        { transform := 0, origin := none, unrotatedPending := wl.isEmpty && !drm.isEmpty } := if_pos blind
    rw [plain, none_known, rotated_dims_zero]
    refine ⟨displayInfoFromDrm getOriginalResolution display, by rw [List.getElem?_map, here]; rfl, rfl, nofun⟩
  · have augmented : augmentWithWaylandGeometryFrom getOriginalResolution drm wl (assignWaylandOutputs drm wl) =
        drm.zipIdx.map (fun entry => augmentDisplay getOriginalResolution (decide (wl.length = 1)) ((identityMatches drm wl).getD entry.2 none)
          ((assignWaylandOutputs drm wl).getD entry.2 none) wl entry.1) := by
      rw [augmentWithWaylandGeometryFrom, if_neg]
      rintro (empty | seen)
      · rw [some_drm] at empty
        cases empty
      · exact blind seen
    have delivery : transformAndOrigin getOriginalResolution drm index wl =
        { transform := matchedTransform ((identityMatches drm wl).getD index none) wl
          origin := ((augmentWithWaylandGeometryFrom getOriginalResolution drm wl (assignWaylandOutputs drm wl))[index]?).map
            (fun info => (info.x, info.y))
          unrotatedPending := false } := if_neg blind
    rw [delivery]
    have at_index : (drm.zipIdx.map (fun entry => augmentDisplay getOriginalResolution (decide (wl.length = 1))
        ((identityMatches drm wl).getD entry.2 none) ((assignWaylandOutputs drm wl).getD entry.2 none) wl entry.1))[index]? =
        some (augmentDisplay getOriginalResolution (decide (wl.length = 1)) ((identityMatches drm wl).getD index none)
          ((assignWaylandOutputs drm wl).getD index none) wl display) := by
      rw [List.getElem?_map, List.getElem?_zipIdx, here]
      simp
    rw [augmented, at_index]
    refine ⟨_, rfl, augment_display_size getOriginalResolution _ _ _ wl display (fun output owns => identity_get drm wl index output owns), ?_⟩
    rintro origin ⟨⟩
    rfl

end

theorem advertised_geometry_agrees :
    (∀ (drm : List DrmDisplayInfo) (wl : List WaylandDisplayInfo) (index : Nat) (display : DrmDisplayInfo), drm[index]? = some display →
      ∃ info, (augmentWithWaylandGeometryFrom getOriginalResolution drm wl (assignWaylandOutputs drm wl))[index]? = some info ∧
        info.size = rotatedDims (transformAndOrigin getOriginalResolution drm index wl).transform display.width.toInt32 display.height.toInt32 ∧
        ∀ origin, (transformAndOrigin getOriginalResolution drm index wl).origin = some origin → (info.x, info.y) = origin) ∧
    (∀ (drm : List DrmDisplayInfo) (wl : List WaylandDisplayInfo),
      (∀ connector output : Nat, (identityMatches drm wl)[connector]? = some (some output) → (assignWaylandOutputs drm wl)[connector]? = some (some output)) ∧
      (∀ first second output : Nat, (assignWaylandOutputs drm wl)[first]? = some (some output) →
        (assignWaylandOutputs drm wl)[second]? = some (some output) → first = second) ∧
      (∀ connector : Nat, (assignWaylandOutputs drm wl)[connector]? = some none → ∀ output, output < wl.length →
        ∃ other : Nat, (assignWaylandOutputs drm wl)[other]? = some (some output))) ∧
    (∀ (drm other : List DrmDisplayInfo) (wl : List WaylandDisplayInfo), DistinctNames drm → drm.Perm other →
      ∀ (first second : Nat) (display : DrmDisplayInfo), drm[first]? = some display → other[second]? = some display →
        (identityMatches drm wl)[first]? = (identityMatches other wl)[second]?) := by
  refine ⟨delivered_size getOriginalResolution, ?_, ?_⟩
  · intro drm wl
    exact ⟨assigned_extends drm wl, assigned_one drm wl, fun connector nothing output room => assigned_all drm wl connector output nothing room⟩
  · exact fun drm other wl distinct perm first second display there here => identity_order_free drm other wl distinct perm first second display there here

end

end GotechDesk.Drm.Geometry
