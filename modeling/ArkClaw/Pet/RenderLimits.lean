import ArkClaw.Pet.RenderLayoutLaws
import Mathlib.Algebra.Order.Ring.Star
import Mathlib.Data.Rat.Star

/-!
# The limits of a planned surface

A plan never raises: it is a layout or a typed failure (`plan_total`). The limits are tested on the surface of the
content. Where the body's own window holds that surface, the layout is given the window instead, whose physical size
only the body policy has tested (`OwnWindow`): everywhere else the surface of a layout is within the limits.
-/

namespace ArkClaw.Pet.RenderLayout

/-- A surface within the logical limits and, at a pixel ratio, within the physical ones. -/
structure WithinLimits (surface : Rect) (dpr : Rat) : Prop where
  logical : exceedsLogicalResources surface = false
  physical : exceedsPhysicalResources surface dpr = false

/-- The surface of a layout is within the limits; a failure has none. -/
def Bounded (dpr : Rat) : PetRenderLayoutResult → Prop
  | .layout layout => WithinLimits layout.surfaceRect dpr
  | .failure _ => True

/-- The body's window at a position. -/
def bodyWindow (position : Point) : Rect where
  x := position.x
  y := position.y
  width := bodyWidth
  height := bodyHeight
  width_pos := bodyWidth_pos
  height_pos := bodyHeight_pos

/-! ## Smaller surfaces -/

variable {small large body : Rect} {dpr : Rat}

theorem exceedsLogicalResources_mono (hwidth : small.width ≤ large.width) (hheight : small.height ≤ large.height)
    (h : exceedsLogicalResources large = false) : exceedsLogicalResources small = false := by
  simp only [exceedsLogicalResources, decide_eq_false_iff_not, not_or, not_lt] at h ⊢
  obtain ⟨hw, hh, harea⟩ := h
  have hproduct : small.width * small.height ≤ large.width * large.height :=
    mul_le_mul hwidth hheight small.height_pos.le large.width_pos.le
  exact ⟨hwidth.trans hw, hheight.trans hh, hproduct.trans harea⟩

theorem exceedsPhysicalResources_mono (hdpr : 0 < dpr) (hwidth : small.width ≤ large.width)
    (hheight : small.height ≤ large.height) (h : exceedsPhysicalResources large dpr = false) :
    exceedsPhysicalResources small dpr = false := by
  simp only [exceedsPhysicalResources, decide_eq_false_iff_not, not_or, not_lt] at h ⊢
  obtain ⟨hw, hh, harea⟩ := h
  have hceilWidth : ⌈small.width * dpr⌉ ≤ ⌈large.width * dpr⌉ :=
    Int.ceil_le_ceil (mul_le_mul_of_nonneg_right hwidth hdpr.le)
  have hceilHeight : ⌈small.height * dpr⌉ ≤ ⌈large.height * dpr⌉ :=
    Int.ceil_le_ceil (mul_le_mul_of_nonneg_right hheight hdpr.le)
  have hsmall : 0 ≤ ⌈small.height * dpr⌉ := Int.ceil_nonneg (mul_pos small.height_pos hdpr).le
  have hlarge : 0 ≤ ⌈large.width * dpr⌉ := Int.ceil_nonneg (mul_pos large.width_pos hdpr).le
  exact ⟨hceilWidth.trans hw, hceilHeight.trans hh, (mul_le_mul hceilWidth hceilHeight hsmall hlarge).trans harea⟩

theorem WithinLimits.mono (hdpr : 0 < dpr) (hwidth : small.width ≤ large.width) (hheight : small.height ≤ large.height)
    (h : WithinLimits large dpr) : WithinLimits small dpr :=
  ⟨exceedsLogicalResources_mono hwidth hheight h.logical,
    exceedsPhysicalResources_mono hdpr hwidth hheight h.physical⟩

theorem clippedSurface_le {display surface : Rect}
    (h : max display.x surface.x < min display.right surface.right
      ∧ max display.y surface.y < min display.bottom surface.bottom) :
    (clippedSurface display surface h).width ≤ surface.width ∧ (clippedSurface display surface h).height ≤ surface.height := by
  have hright : min display.right surface.right ≤ surface.x + surface.width := min_le_right _ _
  have hleft : surface.x ≤ max display.x surface.x := le_max_right _ _
  have hbottom : min display.bottom surface.bottom ≤ surface.y + surface.height := min_le_right _ _
  have htop : surface.y ≤ max display.y surface.y := le_max_right _ _
  exact ⟨by show _ - _ ≤ _; linarith, by show _ - _ ≤ _; linarith⟩

/-- The window of the body is within the logical limits. -/
theorem bodySized_logical (hwidth : body.width = bodyWidth) (hheight : body.height = bodyHeight) :
    exceedsLogicalResources body = false := by
  simp only [exceedsLogicalResources, hwidth, hheight]
  norm_num [bodyWidth, bodyHeight, maxLogicalDimension, maxLogicalArea]

/-! ## The body's own window -/

/-- The body's window holds the surface of the content, which is within the physical limits. -/
def HeldBy (body : Rect) (corrected : CorrectedFacing) (scale : Scale) (dpr : Rat) : Prop :=
  exceedsLogicalResources (surfaceFor body corrected scale) = false
    ∧ exceedsPhysicalResources (surfaceFor body corrected scale) dpr = false
    ∧ contains body (surfaceFor body corrected scale) = true

/-- The plan comes to a layout on the body's own window, without a test of the window's physical size. -/
def OwnWindow (bodyRect workspace : Rect) (envelope : ProjectedActionEnvelope) (preferredFacing : PetFacing) (dpr : Rat)
    (display : Option Rect) : RenderContainmentPolicy → Prop
  | .bodyPriority => False
  | .sitFullSampledBounds => 0 < dpr ∧ ∃ desk, display = some desk ∧ contains desk bodyRect = true
      ∧ HeldBy bodyRect (correctedBy envelope preferredFacing) .full dpr
  | .fullSampledBounds => 0 < dpr ∧ floorInfeasible envelope .right = false ∧ floorInfeasible envelope .left = false
      ∧ exceedsLogicalResources (surfaceFor bodyRect (correctedBy envelope preferredFacing) .full) = false
      ∧ ∃ placed selected scale, fullPlacement bodyRect workspace envelope preferredFacing = some (placed, selected, scale)
        ∧ HeldBy placed (correctedBy envelope selected) scale dpr

variable {corrected : CorrectedFacing} {facing : PetFacing} {scale : Scale}

theorem composed_surfaceRect : (composed body corrected facing scale).surfaceRect
    = if contains body (surfaceFor body corrected scale) then body else surfaceFor body corrected scale := rfl

/-- A composition is within the limits, if the body's window is where it is used. -/
theorem laidOut_bounded_iff (hwidth : body.width = bodyWidth) (hheight : body.height = bodyHeight) :
    Bounded dpr (laidOut body corrected facing scale dpr)
      ↔ (HeldBy body corrected scale dpr → exceedsPhysicalResources body dpr = false) := by
  have hlogical := bodySized_logical hwidth hheight
  unfold laidOut HeldBy
  dsimp only
  by_cases hcontent : exceedsLogicalResources (surfaceFor body corrected scale) = true
  · rw [if_pos hcontent]
    exact ⟨fun _ h => absurd hcontent (by simp [h.1]), fun _ => trivial⟩
  rw [if_neg hcontent]
  by_cases hphysical : exceedsPhysicalResources (surfaceFor body corrected scale) dpr = true
  · rw [if_pos hphysical]
    exact ⟨fun _ h => absurd hphysical (by simp [h.2.1]), fun _ => trivial⟩
  rw [if_neg hphysical]
  rw [Bool.not_eq_true] at hcontent hphysical
  show WithinLimits (composed body corrected facing scale).surfaceRect dpr ↔ _
  rw [composed_surfaceRect]
  by_cases hheld : contains body (surfaceFor body corrected scale) = true
  · rw [if_pos hheld]
    exact ⟨fun h _ => h.physical, fun h => ⟨hlogical, h ⟨hcontent, hphysical, hheld⟩⟩⟩
  · rw [if_neg hheld]
    exact ⟨fun _ h => absurd h.2.2 hheld, fun _ => ⟨hcontent, hphysical⟩⟩

/-- A sitting pet's layout is clipped only where the content has a surface of its own. -/
theorem sitLayout_bounded_iff (hwidth : body.width = bodyWidth) (hheight : body.height = bodyHeight) (hdpr : 0 < dpr)
    (desk : Rect) (hsurface : WithinLimits (surfaceFor body corrected .full) dpr) :
    Bounded dpr (sitLayout body corrected facing desk)
      ↔ (contains desk body = true ∧ contains body (surfaceFor body corrected .full) = true →
        exceedsPhysicalResources body dpr = false) := by
  have hlogical := bodySized_logical hwidth hheight
  unfold sitLayout
  dsimp only
  rw [composed_surfaceRect]
  by_cases hheld : contains body (surfaceFor body corrected .full) = true
  · rw [if_pos hheld]
    by_cases hdesk : contains desk body = true
    · rw [if_pos hdesk]
      show WithinLimits (composed body corrected facing .full).surfaceRect dpr ↔ _
      rw [composed_surfaceRect, if_pos hheld]
      exact ⟨fun h _ => h.physical, fun h => ⟨hlogical, h ⟨hdesk, hheld⟩⟩⟩
    · rw [if_neg hdesk, if_pos (by simpa using hdesk)]
      exact ⟨fun _ h => absurd h.1 hdesk, fun _ => trivial⟩
  · rw [if_neg hheld]
    refine ⟨fun _ h => absurd h.2 hheld, fun _ => ?_⟩
    split
    next =>
      show WithinLimits (composed body corrected facing .full).surfaceRect dpr
      rwa [composed_surfaceRect, if_neg hheld]
    next =>
      split
      next => trivial
      next =>
        split
        next hpart => exact hsurface.mono hdpr (clippedSurface_le hpart).1 (clippedSurface_le hpart).2
        next => trivial

/-! ## Every plan -/

variable (workspace : Rect) (envelope : ProjectedActionEnvelope) (policy : RenderContainmentPolicy)
  (display : Option Rect)

/-- A plan is a layout or a typed failure. -/
theorem plan_total (bodyRect : Rect) (facing : PetFacing) (dpr : Rat) :
    ∃ result, planPetRenderLayout bodyRect workspace envelope facing policy dpr display = .ok result := by
  unfold planPetRenderLayout
  split
  next => exact ⟨_, rfl⟩
  next =>
    cases policy with
    | bodyPriority => exact ⟨_, planBody_eq _ _ _ _⟩
    | fullSampledBounds => exact ⟨_, planFull_eq _ _ _ _ _⟩
    | sitFullSampledBounds =>
      cases display with
      | none => exact ⟨_, rfl⟩
      | some desk => exact ⟨_, planSit_eq _ _ _ _ _⟩

section

variable {policy display} {result : PetRenderLayoutResult} (hwidth : body.width = bodyWidth)
  (hheight : body.height = bodyHeight)

include hwidth hheight

theorem planBody_bounded (hresult : planBody body envelope facing dpr = .ok result) : Bounded dpr result := by
  rw [planBody_eq] at hresult
  obtain rfl := Except.ok.inj hresult
  split
  next => trivial
  next =>
    split
    next => trivial
    next hphysical =>
      rw [Bool.not_eq_true] at hphysical
      exact ⟨bodySized_logical hwidth hheight, hphysical⟩

theorem planSit_bounded_iff (hdpr : 0 < dpr) (hresult : planSit body envelope facing dpr display = .ok result) :
    Bounded dpr result
      ↔ (OwnWindow body workspace envelope facing dpr display .sitFullSampledBounds →
        exceedsPhysicalResources body dpr = false) := by
  unfold OwnWindow HeldBy
  cases display with
  | none =>
    obtain rfl := Except.ok.inj hresult
    exact ⟨fun _ ⟨_, _, hnone, _⟩ => (nomatch hnone), fun _ => trivial⟩
  | some desk =>
    rw [planSit_eq] at hresult
    obtain rfl := Except.ok.inj hresult
    by_cases hcontent : exceedsLogicalResources (surfaceFor body (correctedBy envelope facing) .full) = true
    · rw [if_pos hcontent]
      exact ⟨fun _ ⟨_, _, _, _, hfree, _⟩ => absurd hcontent (by simp [hfree]), fun _ => trivial⟩
    rw [if_neg hcontent]
    by_cases hphysical : exceedsPhysicalResources (surfaceFor body (correctedBy envelope facing) .full) dpr = true
    · rw [if_pos hphysical]
      exact ⟨fun _ ⟨_, _, _, _, _, hfree, _⟩ => absurd hphysical (by simp [hfree]), fun _ => trivial⟩
    rw [if_neg hphysical]
    rw [Bool.not_eq_true] at hcontent hphysical
    rw [sitLayout_bounded_iff hwidth hheight hdpr desk ⟨hcontent, hphysical⟩]
    constructor
    · rintro h ⟨-, desk', hdesk, hinside, -, -, hheld⟩
      obtain rfl := Option.some.inj hdesk
      exact h ⟨hinside, hheld⟩
    · rintro h ⟨hinside, hheld⟩
      exact h ⟨hdpr, desk, rfl, hinside, hcontent, hphysical, hheld⟩

theorem planFull_bounded_iff (hdpr : 0 < dpr)
    (hresult : planFull body workspace envelope facing dpr = .ok result) : Bounded dpr result
      ↔ (OwnWindow body workspace envelope facing dpr display .fullSampledBounds →
        exceedsPhysicalResources body dpr = false) := by
  unfold OwnWindow
  rw [planFull_eq] at hresult
  obtain rfl := Except.ok.inj hresult
  by_cases hfloor : (floorInfeasible envelope .right || floorInfeasible envelope .left) = true
  · rw [if_pos hfloor]
    exact ⟨fun _ ⟨_, hright, hleft, _⟩ => absurd hfloor (by simp [hright, hleft]), fun _ => trivial⟩
  rw [if_neg hfloor]
  rw [Bool.not_eq_true, Bool.or_eq_false_iff] at hfloor
  by_cases hcontent : exceedsLogicalResources (surfaceFor body (correctedBy envelope facing) .full) = true
  · rw [if_pos hcontent]
    exact ⟨fun _ ⟨_, _, _, hfree, _⟩ => absurd hcontent (by simp [hfree]), fun _ => trivial⟩
  rw [if_neg hcontent]
  rw [Bool.not_eq_true] at hcontent
  cases hplacement : fullPlacement body workspace envelope facing with
  | none =>
    refine ⟨fun _ h => ?_, fun _ => trivial⟩
    obtain ⟨-, -, -, -, _, _, _, hsome, -⟩ := h
    cases hsome
  | some placement =>
    obtain ⟨placed, selected, scale⟩ := placement
    have hplaced := (fullPlacement_spec hplacement).1
    have hphysical : exceedsPhysicalResources placed dpr = exceedsPhysicalResources body dpr := by
      rw [hplaced]
      rfl
    have hbounded : Bounded dpr (laidOut placed (correctedBy envelope selected) selected scale dpr)
        ↔ (HeldBy placed (correctedBy envelope selected) scale dpr → exceedsPhysicalResources placed dpr = false) :=
      laidOut_bounded_iff (by rw [hplaced]; exact hwidth) (by rw [hplaced]; exact hheight)
    dsimp only
    rw [hbounded, hphysical]
    constructor
    · rintro h ⟨-, -, -, -, placed', selected', scale', hsome, hheld⟩
      obtain ⟨rfl, rfl, rfl⟩ := Option.some.inj hsome
      exact h hheld
    · intro h hheld
      exact h ⟨hdpr, hfloor.1, hfloor.2, hcontent, placed, selected, scale, rfl, hheld⟩

end

/-- The surface of every layout a plan returns is within the limits, unless it is the body's own window and this
exceeds the physical ones. -/
theorem plan_within_iff (position : Point) (facing : PetFacing) (dpr : Rat) :
    (∃ result, planPetRenderLayout (bodyWindow position) workspace envelope facing policy dpr display = .ok result
        ∧ Bounded dpr result)
      ↔ (OwnWindow (bodyWindow position) workspace envelope facing dpr display policy →
        exceedsPhysicalResources (bodyWindow position) dpr = false) := by
  have hwidth : (bodyWindow position).width = bodyWidth := rfl
  have hheight : (bodyWindow position).height = bodyHeight := rfl
  generalize bodyWindow position = body at hwidth hheight
  obtain ⟨result, hresult⟩ := plan_total workspace envelope policy display body facing dpr
  have hproperty : (∃ r, planPetRenderLayout body workspace envelope facing policy dpr display = .ok r ∧ Bounded dpr r)
      ↔ Bounded dpr result := by
    rw [hresult]
    exact ⟨fun ⟨r, hr, h⟩ => Except.ok.inj hr ▸ h, fun h => ⟨result, rfl, h⟩⟩
  rw [hproperty]
  unfold planPetRenderLayout at hresult
  split at hresult
  next hdpr =>
    obtain rfl := Except.ok.inj hresult
    refine ⟨fun _ hown => ?_, fun _ => trivial⟩
    cases policy with
    | bodyPriority => exact hown.elim
    | sitFullSampledBounds => exact absurd hown.1 (not_lt.mpr hdpr)
    | fullSampledBounds => exact absurd hown.1 (not_lt.mpr hdpr)
  next hdpr =>
    rw [not_le] at hdpr
    cases policy with
    | bodyPriority => exact ⟨fun _ => False.elim, fun _ => planBody_bounded envelope hwidth hheight hresult⟩
    | sitFullSampledBounds => exact planSit_bounded_iff workspace envelope hwidth hheight hdpr hresult
    | fullSampledBounds => exact planFull_bounded_iff workspace envelope hwidth hheight hdpr hresult

/-- Content of 40 by 40 in the middle of the body. -/
def smallEnvelope : ProjectedActionEnvelope :=
  projectActionEnvelope { x := 0, y := 0, width := 40, height := 40, width_pos := ofNat_pos trivial, height_pos := ofNat_pos trivial }
    { scale := 1, originX := 60, originY := 100, mirrorAxisX := 80, scale_pos := ofNat_pos trivial }

/-- At a pixel ratio of 13 the content is laid out on the body's window, which has 2080 by 2340 pixels there. -/
theorem held_content_escapes : planPetRenderLayout (bodyWindow { x := 0, y := 0 })
      { x := 0, y := 0, width := 1000, height := 1000, width_pos := by norm_num, height_pos := by norm_num }
      smallEnvelope .right .fullSampledBounds 13 none
        = .ok (.layout (bodyLayout (bodyWindow { x := 0, y := 0 }) (correctedBy smallEnvelope .right) .right))
    ∧ ¬Bounded 13 (.layout (bodyLayout (bodyWindow { x := 0, y := 0 }) (correctedBy smallEnvelope .right) .right)) := by
  refine ⟨by decide +kernel, fun h => ?_⟩
  have hexceeds : exceedsPhysicalResources (bodyWindow { x := 0, y := 0 }) 13 = true := by decide +kernel
  exact Bool.false_ne_true (h.physical.symm.trans hexceeds)

end ArkClaw.Pet.RenderLayout
