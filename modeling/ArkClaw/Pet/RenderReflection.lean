import ArkClaw.Pet.RenderPlacement
import Mathlib.Algebra.Order.Group.MinMax
import Mathlib.Algebra.Order.Ring.Star
import Mathlib.Data.Rat.Star

/-!
# Left and right in a full plan

The reflection `x ↦ c - x` takes the workspace and the body to their images, exchanges the two envelopes and reflects
them about the body. A plan of the image is the image of the plan, but for one case: displacements are compared with
their signs, so two facings that would be displaced equally far in opposite directions do not tie, and the pet then
faces left whichever way it was to face.
-/

namespace ArkClaw.Pet.RenderLayout

/-! ## The reflection -/

def reflectRect (c : Rat) (r : Rect) : Rect := { r with x := c - r.right }

/-- A facing of the body, reflected about the body's own middle. -/
def reflectFacing (bodyWidth : Rat) (facing : ProjectedFacingEnvelope) : ProjectedFacingEnvelope where
  contentBounds := reflectRect bodyWidth facing.contentBounds
  bodyAnchor := { facing.bodyAnchor with x := bodyWidth - facing.bodyAnchor.x }

def reflectEnvelope (bodyWidth : Rat) (envelope : ProjectedActionEnvelope) : ProjectedActionEnvelope where
  right := reflectFacing bodyWidth envelope.left
  left := reflectFacing bodyWidth envelope.right

def reflectCorrected (bodyWidth : Rat) (corrected : CorrectedFacing) : CorrectedFacing where
  contentBounds := reflectRect bodyWidth corrected.contentBounds
  bodyAnchor := { corrected.bodyAnchor with x := bodyWidth - corrected.bodyAnchor.x }
  correction := corrected.correction

/-- The composition on the other side: the offset is the one of the right edges. -/
def reflectLayout (c bodyWidth : Rat) (layout : PetRenderLayout) : PetRenderLayout :=
  { layout with
    surfaceRect := reflectRect c layout.surfaceRect
    bodyWindowOffset :=
      { layout.bodyWindowOffset with x := layout.surfaceRect.width - layout.bodyWindowOffset.x - bodyWidth }
    resolvedBodyPosition := { layout.resolvedBodyPosition with x := c - (layout.resolvedBodyPosition.x + bodyWidth) }
    effectiveFacing := alternate layout.effectiveFacing }

def reflectResult (c bodyWidth : Rat) : PetRenderLayoutResult → PetRenderLayoutResult
  | .layout layout => .layout (reflectLayout c bodyWidth layout)
  | .failure reason => .failure reason

def reflectCandidate (c bodyWidth : Rat) (candidate : AvoidanceCandidate) : AvoidanceCandidate where
  target := { candidate.target with x := c - (candidate.target.x + bodyWidth) }
  rawDisplacement := -candidate.rawDisplacement

/-- The plan of the image is the image of the plan, about every whole pixel. -/
def Reflects (body workspace : Rect) (envelope : ProjectedActionEnvelope) (facing : PetFacing) (dpr : Rat)
    (display : Option Rect) : Prop :=
  ∀ c : Int, planPetRenderLayout (reflectRect c body) (reflectRect c workspace) (reflectEnvelope body.width envelope)
      (alternate facing) .fullSampledBounds dpr (display.map (reflectRect c)) =
    (planPetRenderLayout body workspace envelope facing .fullSampledBounds dpr display).map (reflectResult c body.width)

section

variable {body workspace : Rect} {corrected : CorrectedFacing} {envelope : ProjectedActionEnvelope} {c : Int}
  {facing : PetFacing} {scale : Scale} {dpr : Rat}

@[simp] theorem alternate_alternate (facing : PetFacing) : alternate (alternate facing) = facing := by
  cases facing <;> rfl

@[simp] theorem reflectRect_x (c : Rat) (r : Rect) : (reflectRect c r).x = c - r.right := rfl

@[simp] theorem reflectRect_right (c : Rat) (r : Rect) : (reflectRect c r).right = c - r.x := by
  simp only [reflectRect, Rect.right]
  ring

@[simp] theorem reflectRect_y (c : Rat) (r : Rect) : (reflectRect c r).y = r.y := rfl

@[simp] theorem reflectRect_bottom (c : Rat) (r : Rect) : (reflectRect c r).bottom = r.bottom := rfl

@[simp] theorem reflectRect_width (c : Rat) (r : Rect) : (reflectRect c r).width = r.width := rfl

/-- Two rectangles with the same edges are the same. -/
theorem rect_eq {r s : Rect} (hx : r.x = s.x) (hright : r.right = s.right) (hy : r.y = s.y)
    (hbottom : r.bottom = s.bottom) : r = s := by
  obtain ⟨x, y, width, height, hwidth, hheight⟩ := r
  obtain ⟨x', y', width', height', hwidth', hheight'⟩ := s
  simp only [Rect.right, Rect.bottom] at hx hright hy hbottom
  subst hx
  subst hy
  obtain rfl : width = width' := by linarith
  obtain rfl : height = height' := by linarith
  rfl

theorem correctedBy_reflect (envelope : ProjectedActionEnvelope) (bodyWidth : Rat) (facing : PetFacing) :
    correctedBy (reflectEnvelope bodyWidth envelope) facing =
      reflectCorrected bodyWidth (correctedBy envelope (alternate facing)) := by
  rw [correctedBy_eq, correctedBy_eq]
  cases facing <;> rfl

theorem floorInfeasible_reflect (envelope : ProjectedActionEnvelope) (bodyWidth : Rat) (facing : PetFacing) :
    floorInfeasible (reflectEnvelope bodyWidth envelope) facing = floorInfeasible envelope (alternate facing) := by
  cases facing <;> rfl

/-! ## Surfaces -/

theorem desktopScaledContent_reflect (c : Rat) (body : Rect) (corrected : CorrectedFacing) (scale : Scale) :
    desktopScaledContent (reflectRect c body) (reflectCorrected body.width corrected) scale =
      reflectRect c (desktopScaledContent body corrected scale) := by
  obtain ⟨hx, hy, hright, hbottom⟩ := @desktopScaledContent_sides body corrected scale
  obtain ⟨hx', hy', hright', hbottom'⟩ :=
    @desktopScaledContent_sides (reflectRect c body) (reflectCorrected body.width corrected) scale
  have hbody : body.right = body.x + body.width := rfl
  apply rect_eq
  · rw [hx']
    simp only [reflectCorrected, reflectRect_x, hright, hbody]
    ring
  · rw [hright']
    simp only [reflectCorrected, reflectRect_x, reflectRect_right, hx, hbody]
    ring
  · rw [hy', reflectRect_y (r := desktopScaledContent body corrected scale), hy]
    rfl
  · rw [hbottom', reflectRect_bottom (r := desktopScaledContent body corrected scale), hbottom]
    rfl

theorem floor_reflect (c : Int) (a : Rat) : ⌊(c : Rat) - a⌋ = c - ⌈a⌉ := by
  rw [sub_eq_add_neg, Int.floor_intCast_add, Int.floor_neg, sub_eq_add_neg]

theorem ceil_reflect (c : Int) (a : Rat) : ⌈(c : Rat) - a⌉ = c - ⌊a⌋ := by
  rw [sub_eq_add_neg, Int.ceil_intCast_add, Int.ceil_neg, sub_eq_add_neg]

/-- The edges of a surface. -/
theorem surfaceFor_edges (body : Rect) (corrected : CorrectedFacing) (scale : Scale) :
    (surfaceFor body corrected scale).x = ⌊(desktopScaledContent body corrected scale).x - clippingPadding⌋ ∧
    (surfaceFor body corrected scale).right = ⌈(desktopScaledContent body corrected scale).right + clippingPadding⌉ ∧
    (surfaceFor body corrected scale).y = ⌊(desktopScaledContent body corrected scale).y - clippingPadding⌋ ∧
    (surfaceFor body corrected scale).bottom = ⌈(desktopScaledContent body corrected scale).bottom + clippingPadding⌉ := by
  refine ⟨rfl, ?_, rfl, ?_⟩
  · simp only [surfaceFor, Rect.right]
    ring
  · simp only [surfaceFor, Rect.bottom]
    ring

theorem surfaceFor_reflect (c : Int) (body : Rect) (corrected : CorrectedFacing) (scale : Scale) :
    surfaceFor (reflectRect c body) (reflectCorrected body.width corrected) scale =
      reflectRect c (surfaceFor body corrected scale) := by
  obtain ⟨hx, hright, hy, hbottom⟩ := surfaceFor_edges body corrected scale
  obtain ⟨hx', hright', hy', hbottom'⟩ :=
    surfaceFor_edges (reflectRect c body) (reflectCorrected body.width corrected) scale
  rw [desktopScaledContent_reflect] at hx' hright' hy' hbottom'
  apply rect_eq
  · rw [hx', reflectRect_x, reflectRect_x, hright, sub_sub, floor_reflect]
    push_cast
    rfl
  · have hsides : (c : Rat) - (desktopScaledContent body corrected scale).x + clippingPadding =
        c - ((desktopScaledContent body corrected scale).x - clippingPadding) := by ring
    rw [hright', reflectRect_right, reflectRect_right, hx, hsides, ceil_reflect]
    push_cast
    rfl
  · rw [hy', reflectRect_y, reflectRect_y, hy]
  · rw [hbottom', reflectRect_bottom, reflectRect_bottom, hbottom]

/-! ## Fitting -/

theorem visibleContentFits_reflect (c : Rat) (body workspace : Rect) (corrected : CorrectedFacing) (scale : Scale) :
    visibleContentFits (reflectRect c body) (reflectCorrected body.width corrected) scale (reflectRect c workspace) =
      visibleContentFits body corrected scale workspace := by
  unfold visibleContentFits
  rw [desktopScaledContent_reflect]
  simp only [reflectRect_x, reflectRect_right, reflectRect_y, reflectRect_bottom, decide_eq_decide]
  constructor <;> rintro ⟨hleft, htop, hright, hbottom⟩ <;> refine ⟨by linarith, htop, by linarith, hbottom⟩

theorem contains_reflect (c : Rat) (container content : Rect) :
    contains (reflectRect c container) (reflectRect c content) = contains container content := by
  unfold contains
  simp only [reflectRect_x, reflectRect_right, reflectRect_y, reflectRect_bottom, decide_eq_decide]
  constructor <;> rintro ⟨hleft, htop, hright, hbottom⟩ <;> refine ⟨by linarith, htop, by linarith, hbottom⟩

theorem exceedsLogicalResources_reflect (c : Rat) (surface : Rect) :
    exceedsLogicalResources (reflectRect c surface) = exceedsLogicalResources surface := rfl

theorem exceedsPhysicalResources_reflect (c : Rat) (surface : Rect) (dpr : Rat) :
    exceedsPhysicalResources (reflectRect c surface) dpr = exceedsPhysicalResources surface dpr := rfl

/-- Layouts of one body at one scale are told apart by their surfaces and offsets. -/
theorem composed_reflect (c : Int) (body : Rect) (corrected : CorrectedFacing) (facing : PetFacing) (scale : Scale) :
    composed (reflectRect c body) (reflectCorrected body.width corrected) (alternate facing) scale =
      reflectLayout c body.width (composed body corrected facing scale) := by
  unfold composed
  dsimp only
  rw [surfaceFor_reflect, contains_reflect]
  cases contains body (surfaceFor body corrected scale) <;>
    simp only [Bool.false_eq_true, if_false, if_true, reflectLayout, PetRenderLayout.mk.injEq, Point.mk.injEq,
      reflectRect_x, reflectRect_y, reflectCorrected, Rect.right, true_and, and_true] <;> ring

theorem laidOut_reflect (c : Int) (body : Rect) (corrected : CorrectedFacing) (facing : PetFacing) (scale : Scale)
    (dpr : Rat) : laidOut (reflectRect c body) (reflectCorrected body.width corrected) (alternate facing) scale dpr =
      reflectResult c body.width (laidOut body corrected facing scale dpr) := by
  unfold laidOut
  dsimp only
  rw [surfaceFor_reflect, exceedsLogicalResources_reflect, exceedsPhysicalResources_reflect, composed_reflect]
  split_ifs <;> rfl

/-! ## Displacements -/

/-- The displacement that is tried, between the least and the greatest. -/
def displacement (lower upper : Rat) : Rat :=
  if lower ≤ layoutScaleEpsilon ∧ -layoutScaleEpsilon ≤ upper then 0
  else if upper < -layoutScaleEpsilon then upper
  else lower

/-- The whole pixel a displacement takes the body to. -/
def pixelAt (x delta : Rat) : Rat :=
  if layoutScaleEpsilon < delta then ((⌈x + delta - layoutScaleEpsilon⌉ : Int) : Rat)
  else if delta < -layoutScaleEpsilon then ((⌊x + delta + layoutScaleEpsilon⌋ : Int) : Rat)
  else x

theorem displacement_reflect {lower upper : Rat} (hordered : lower ≤ upper + layoutScaleEpsilon) :
    displacement (-upper) (-lower) = -displacement lower upper := by
  have hzero : (-upper ≤ layoutScaleEpsilon ∧ -layoutScaleEpsilon ≤ -lower) ↔
      (lower ≤ layoutScaleEpsilon ∧ -layoutScaleEpsilon ≤ upper) := by
    constructor <;> rintro ⟨hlower, hupper⟩ <;> exact ⟨by linarith, by linarith⟩
  unfold displacement
  simp only [hzero, neg_lt_neg_iff]
  by_cases hnone : lower ≤ layoutScaleEpsilon ∧ -layoutScaleEpsilon ≤ upper
  · rw [if_pos hnone, if_pos hnone, neg_zero]
  · rw [if_neg hnone, if_neg hnone]
    by_cases hrightwards : layoutScaleEpsilon < lower
    · rw [if_pos hrightwards, if_neg (by linarith [epsilon_pos])]
    · have hleftwards : upper < -layoutScaleEpsilon := by
        by_contra hnot
        exact hnone ⟨not_lt.mp hrightwards, not_lt.mp hnot⟩
      rw [if_neg hrightwards, if_pos hleftwards]

/-- The pixels of a body whose width is whole are reflected with it. -/
theorem pixelAt_reflect (c n : Int) (x delta : Rat) :
    pixelAt (c - (x + n)) (-delta) = c - (pixelAt x delta + n) := by
  have heps := epsilon_pos
  have hrightwards : (c : Rat) - (x + n) + -delta - layoutScaleEpsilon =
      c - (x + delta + layoutScaleEpsilon + n) := by ring
  have hleftwards : (c : Rat) - (x + n) + -delta + layoutScaleEpsilon =
      c - (x + delta - layoutScaleEpsilon + n) := by ring
  unfold pixelAt
  rw [hrightwards, hleftwards, ceil_reflect, floor_reflect, Int.floor_add_intCast, Int.ceil_add_intCast]
  split_ifs <;> first | linarith | (push_cast; ring)

theorem deltaLower_reflect (c : Rat) (body workspace : Rect) (corrected : CorrectedFacing) :
    deltaLower (reflectRect c body) (reflectCorrected body.width corrected) (reflectRect c workspace) =
      -deltaUpper body corrected workspace := by
  unfold deltaLower deltaUpper
  rw [desktopScaledContent_reflect, ← max_neg_neg]
  simp only [reflectRect_x]
  congr 1 <;> ring

theorem deltaUpper_reflect (c : Rat) (body workspace : Rect) (corrected : CorrectedFacing) :
    deltaUpper (reflectRect c body) (reflectCorrected body.width corrected) (reflectRect c workspace) =
      -deltaLower body corrected workspace := by
  unfold deltaLower deltaUpper
  rw [desktopScaledContent_reflect, ← min_neg_neg]
  simp only [reflectRect_right]
  congr 1 <;> ring

/-- The body is tried at one pixel. -/
def tested (body : Rect) (corrected : CorrectedFacing) (workspace : Rect) (x delta : Rat) :
    Option AvoidanceCandidate :=
  if ¬(workspace.x - layoutScaleEpsilon ≤ x ∧ x + body.width ≤ workspace.right + layoutScaleEpsilon) then none
  else if !visibleContentFits { body with x := x } corrected .full workspace then none
  else some { target := { x := x, y := body.y }, rawDisplacement := delta }

theorem horizontalAvoidance_tests (body : Rect) (corrected : CorrectedFacing) (workspace : Rect) :
    horizontalAvoidance body corrected workspace =
      if deltaUpper body corrected workspace + layoutScaleEpsilon < deltaLower body corrected workspace then none
      else tested body corrected workspace
        (pixelAt body.x (displacement (deltaLower body corrected workspace) (deltaUpper body corrected workspace)))
        (displacement (deltaLower body corrected workspace) (deltaUpper body corrected workspace)) := rfl

theorem tested_reflect (c : Rat) (body workspace : Rect) (corrected : CorrectedFacing) (x delta : Rat) :
    tested (reflectRect c body) (reflectCorrected body.width corrected) (reflectRect c workspace)
        (c - (x + body.width)) (-delta) =
      (tested body corrected workspace x delta).map (reflectCandidate c body.width) := by
  have hfits : visibleContentFits { reflectRect c body with x := c - (x + body.width) }
      (reflectCorrected body.width corrected) .full (reflectRect c workspace) =
        visibleContentFits { body with x := x } corrected .full workspace :=
    visibleContentFits_reflect c { body with x := x } workspace corrected .full
  have hbody : ((reflectRect c workspace).x - layoutScaleEpsilon ≤ c - (x + body.width) ∧
      c - (x + body.width) + (reflectRect c body).width ≤ (reflectRect c workspace).right + layoutScaleEpsilon) ↔
        workspace.x - layoutScaleEpsilon ≤ x ∧ x + body.width ≤ workspace.right + layoutScaleEpsilon := by
    simp only [reflectRect_x, reflectRect_right, reflectRect_width]
    constructor <;> rintro ⟨hleft, hright⟩ <;> exact ⟨by linarith, by linarith⟩
  unfold tested
  rw [hfits]
  simp only [hbody]
  split_ifs <;> rfl

theorem horizontalAvoidance_reflect (c : Int) {body : Rect} (hwidth : ∃ n : Int, body.width = n)
    (corrected : CorrectedFacing) (workspace : Rect) :
    horizontalAvoidance (reflectRect c body) (reflectCorrected body.width corrected) (reflectRect c workspace) =
      (horizontalAvoidance body corrected workspace).map (reflectCandidate c body.width) := by
  obtain ⟨n, hn⟩ := hwidth
  rw [horizontalAvoidance_tests, horizontalAvoidance_tests, deltaLower_reflect, deltaUpper_reflect]
  by_cases hnarrow : deltaUpper body corrected workspace + layoutScaleEpsilon < deltaLower body corrected workspace
  · rw [if_pos (by linarith), if_pos hnarrow]
    rfl
  · have hx : (reflectRect c body).x = c - (body.x + n) := by rw [reflectRect_x, Rect.right, hn]
    rw [if_neg (by linarith), if_neg hnarrow, displacement_reflect (not_lt.mp hnarrow), hx, pixelAt_reflect, ← hn,
      tested_reflect]

/-! ## Scales -/

theorem largestFeasibleScale_reflect (c : Rat) (body workspace : Rect) (corrected : CorrectedFacing) :
    largestFeasibleScale (reflectRect c body) (reflectCorrected body.width corrected) (reflectRect c workspace) =
      largestFeasibleScale body corrected workspace := by
  have hpivot : (reflectRect c body).x + (reflectCorrected body.width corrected).bodyAnchor.x =
      c - (body.x + corrected.bodyAnchor.x) := by
    simp only [reflectRect_x, reflectCorrected, Rect.right]
    ring
  have hfits : (visibleContentFits (reflectRect c body) (reflectCorrected body.width corrected) ·
      (reflectRect c workspace)) = (visibleContentFits body corrected · workspace) :=
    funext (visibleContentFits_reflect c body workspace corrected)
  have hheld : (body.x + corrected.bodyAnchor.x ≤ workspace.right ∧ workspace.x ≤ body.x + corrected.bodyAnchor.x ∧
      workspace.y ≤ body.y + bodyHeight ∧ body.y + bodyHeight ≤ workspace.bottom) ↔
        workspace.x ≤ body.x + corrected.bodyAnchor.x ∧ body.x + corrected.bodyAnchor.x ≤ workspace.right ∧
          workspace.y ≤ body.y + bodyHeight ∧ body.y + bodyHeight ≤ workspace.bottom := and_left_comm
  unfold largestFeasibleScale
  dsimp only
  rw [visibleContentFits_reflect, hpivot, hfits]
  simp only [reflectRect_x, reflectRect_right, reflectRect_y, reflectRect_bottom, sub_le_sub_iff_left, hheld]

theorem scaleOf_reflect (c : Rat) (body workspace : Rect) (envelope : ProjectedActionEnvelope) (facing : PetFacing) :
    scaleOf (reflectRect c body) (reflectRect c workspace) (reflectEnvelope body.width envelope) facing =
      scaleOf body workspace envelope (alternate facing) := by
  unfold scaleOf
  rw [correctedBy_reflect, largestFeasibleScale_reflect]

/-- Scales have no signs: their choice is symmetric. -/
theorem selectScale_alternate (facing : PetFacing) (right left : Option Scale) :
    selectScale (alternate facing) left right =
      (selectScale facing right left).map fun (selected, scale) => (alternate selected, scale) := by
  cases right with
  | none => cases left <;> rfl
  | some right =>
    cases left with
    | none => rfl
    | some left =>
      have hpick (selected : PetFacing) : (if alternate selected = .right then left else right) =
          if selected = .right then right else left := by cases selected <;> rfl
      have hselected : (if |left.val - right.val| ≤ layoutScaleEpsilon then alternate facing
          else if right.val < left.val then .right else .left) =
            alternate (if |right.val - left.val| ≤ layoutScaleEpsilon then facing
              else if left.val < right.val then .right else .left) := by
        rw [abs_sub_comm left.val right.val]
        by_cases hclose : |right.val - left.val| ≤ layoutScaleEpsilon
        · rw [if_pos hclose, if_pos hclose]
        · have hne : right.val ≠ left.val := by
            intro heq
            rw [heq, sub_self, abs_zero] at hclose
            exact hclose epsilon_pos.le
          rw [if_neg hclose, if_neg hclose]
          rcases lt_or_gt_of_ne hne with hless | hmore
          · rw [if_pos hless, if_neg hless.not_gt]
            rfl
          · rw [if_neg hmore.not_gt, if_pos hmore]
            rfl
      unfold selectScale
      dsimp only [Option.map]
      rw [hselected, hpick]

/-! ## The choice of a facing -/

theorem fits_reflect (c : Rat) (body workspace : Rect) (envelope : ProjectedActionEnvelope) (facing : PetFacing) :
    visibleContentFits (reflectRect c body) (correctedBy (reflectEnvelope body.width envelope) facing) .full
        (reflectRect c workspace) =
      visibleContentFits body (correctedBy envelope (alternate facing)) .full workspace := by
  rw [correctedBy_reflect, visibleContentFits_reflect]

theorem avoidance_reflect (c : Int) {body : Rect} (hwidth : ∃ n : Int, body.width = n) (workspace : Rect)
    (envelope : ProjectedActionEnvelope) (facing : PetFacing) :
    horizontalAvoidance (reflectRect c body) (correctedBy (reflectEnvelope body.width envelope) facing)
        (reflectRect c workspace) =
      (horizontalAvoidance body (correctedBy envelope (alternate facing)) workspace).map
        (reflectCandidate c body.width) := by
  rw [correctedBy_reflect, horizontalAvoidance_reflect c hwidth]

theorem tested_displacement {delta : Rat} {candidate : AvoidanceCandidate} {x : Rat}
    (h : tested body corrected workspace x delta = some candidate) : candidate.rawDisplacement = delta := by
  unfold tested at h
  split_ifs at h
  cases h
  rfl

/-- A facing that does not fit in place is displaced by more than the tolerance. -/
theorem displaced_far (hnot : visibleContentFits body corrected .full workspace = false)
    {candidate : AvoidanceCandidate} (h : horizontalAvoidance body corrected workspace = some candidate) :
    layoutScaleEpsilon < |candidate.rawDisplacement| := by
  have hvertical := (fits_full_iff.mp (horizontalAvoidance_fits h)).2.2
  have hmoved := mt (vertical_of_undisplaced hnot) (not_not.mpr hvertical)
  rw [horizontalAvoidance_tests] at h
  split_ifs at h
  rw [tested_displacement h, displacement, if_neg hmoved]
  by_cases hleftwards : deltaUpper body corrected workspace < -layoutScaleEpsilon
  · rw [if_pos hleftwards]
    exact lt_abs.mpr (.inr (by linarith))
  · have hrightwards : layoutScaleEpsilon < deltaLower body corrected workspace := by
      by_contra hnear
      exact hmoved ⟨not_lt.mp hnear, not_lt.mp hleftwards⟩
    rw [if_neg hleftwards]
    exact lt_abs.mpr (.inl hrightwards)

/-- Neither facing fits in place, and they would be displaced equally far in opposite directions. -/
structure OppositeDisplacements (body workspace : Rect) (envelope : ProjectedActionEnvelope)
    (right left : AvoidanceCandidate) : Prop where
  unfitting : ∀ facing, visibleContentFits body (correctedBy envelope facing) .full workspace = false
  rightFound : horizontalAvoidance body (correctedBy envelope .right) workspace = some right
  leftFound : horizontalAvoidance body (correctedBy envelope .left) workspace = some left
  opposite : right.rawDisplacement = -left.rawDisplacement

theorem OppositeDisplacements.reflect {right left : AvoidanceCandidate}
    (h : OppositeDisplacements body workspace envelope right left) (c : Int) (hwidth : ∃ n : Int, body.width = n) :
    OppositeDisplacements (reflectRect c body) (reflectRect c workspace) (reflectEnvelope body.width envelope)
      (reflectCandidate c body.width left) (reflectCandidate c body.width right) where
  unfitting := fun facing => by rw [fits_reflect, h.unfitting]
  rightFound := by rw [avoidance_reflect c hwidth, alternate, h.leftFound, Option.map_some]
  leftFound := by rw [avoidance_reflect c hwidth, alternate, h.rightFound, Option.map_some]
  opposite := by simp only [reflectCandidate, h.opposite, neg_neg]

/-- The displacements are compared with their signs, so the facing is the left one whichever was preferred. -/
theorem OppositeDisplacements.placement {right left : AvoidanceCandidate}
    (h : OppositeDisplacements body workspace envelope right left) (facing : PetFacing) :
    fullPlacement body workspace envelope facing = some ({ body with x := left.target.x }, .left, .full) := by
  have hfar : layoutScaleEpsilon < |left.rawDisplacement| := displaced_far (h.unfitting .left) h.leftFound
  have hapart : ¬|right.rawDisplacement - left.rawDisplacement| ≤ layoutScaleEpsilon := by
    have htwice : right.rawDisplacement - left.rawDisplacement = -(2 * left.rawDisplacement) := by
      rw [h.opposite]
      ring
    rw [htwice, abs_neg, abs_mul, abs_two, not_le]
    linarith [abs_nonneg left.rawDisplacement]
  have hsame : ¬|right.rawDisplacement| < |left.rawDisplacement| := by
    rw [h.opposite, abs_neg]
    exact lt_irrefl _
  have hselected : selectAvoidanceFacing facing (some right) (some left) = .left := by
    rw [selectAvoidanceFacing, if_neg hapart, if_neg hsame]
  unfold fullPlacement
  dsimp only
  rw [h.unfitting, h.unfitting, h.rightFound, h.leftFound, hselected, h.leftFound]
  rfl

/-- The other choices are symmetric. -/
theorem selectAvoidanceFacing_alternate (c bodyWidth : Rat) {right left : AvoidanceCandidate}
    (hopposite : |right.rawDisplacement| = |left.rawDisplacement| →
      |right.rawDisplacement - left.rawDisplacement| ≤ layoutScaleEpsilon) (facing : PetFacing) :
    selectAvoidanceFacing (alternate facing) (some (reflectCandidate c bodyWidth left))
        (some (reflectCandidate c bodyWidth right)) =
      alternate (selectAvoidanceFacing facing (some right) (some left)) := by
  have hclose : -left.rawDisplacement - -right.rawDisplacement = right.rawDisplacement - left.rawDisplacement := by
    ring
  simp only [selectAvoidanceFacing, reflectCandidate, hclose, abs_neg]
  by_cases hnear : |right.rawDisplacement - left.rawDisplacement| ≤ layoutScaleEpsilon
  · rw [if_pos hnear, if_pos hnear]
  · rw [if_neg hnear, if_neg hnear]
    rcases lt_or_gt_of_ne (fun heq => hnear (hopposite heq)) with hless | hmore
    · rw [if_pos hless, if_neg hless.not_gt]
      rfl
    · rw [if_neg hmore.not_gt, if_pos hmore]
      rfl

/-! ## The placement -/

def reflectPlacement (c : Rat) : Rect × PetFacing × Scale → Rect × PetFacing × Scale :=
  fun (placed, selected, scale) => (reflectRect c placed, alternate selected, scale)

theorem fullPlacement_reflect (c : Int) (hwidth : ∃ n : Int, body.width = n)
    (htie : ∀ right left, ¬OppositeDisplacements body workspace envelope right left) (facing : PetFacing) :
    fullPlacement (reflectRect c body) (reflectRect c workspace) (reflectEnvelope body.width envelope)
        (alternate facing) =
      (fullPlacement body workspace envelope facing).map (reflectPlacement c) := by
  unfold fullPlacement
  simp only [fits_reflect, alternate_alternate, avoidance_reflect c hwidth, scaleOf_reflect]
  by_cases hfits : visibleContentFits body (correctedBy envelope facing) .full workspace = true
  · rw [if_pos hfits, if_pos hfits]
    rfl
  by_cases halternate : visibleContentFits body (correctedBy envelope (alternate facing)) .full workspace = true
  · rw [if_neg hfits, if_neg hfits, if_pos halternate, if_pos halternate, Option.map_some, reflectPlacement,
      alternate_alternate]
  rw [if_neg hfits, if_neg hfits, if_neg halternate, if_neg halternate]
  have hunfitting (side : PetFacing) : visibleContentFits body (correctedBy envelope side) .full workspace = false := by
    rcases eq_or_ne side facing with rfl | hne
    · simpa using hfits
    · obtain rfl : side = alternate facing := by cases side <;> cases facing <;> first | rfl | exact absurd rfl hne
      simpa using halternate
  have hscaled : (selectScale (alternate facing) (scaleOf body workspace envelope .left)
      (scaleOf body workspace envelope .right)).map (fun (selected, scale) => (reflectRect c body, selected, scale)) =
      ((selectScale facing (scaleOf body workspace envelope .right) (scaleOf body workspace envelope .left)).map
        fun (selected, scale) => (body, selected, scale)).map (reflectPlacement c) := by
    rw [selectScale_alternate, Option.map_map, Option.map_map]
    rfl
  have hleft : alternate .right = .left := rfl
  have hright : alternate .left = .right := rfl
  simp only [hleft, hright]
  cases hr : horizontalAvoidance body (correctedBy envelope .right) workspace with
  | none =>
    cases hl : horizontalAvoidance body (correctedBy envelope .left) workspace with
    | none =>
      simp only [Option.map_none, selectAvoidanceFacing, hright, hr, hl]
      exact hscaled
    | some left =>
      simp only [Option.map_none, Option.map_some, selectAvoidanceFacing, hleft, hl]
      rfl
  | some right =>
    cases hl : horizontalAvoidance body (correctedBy envelope .left) workspace with
    | none =>
      simp only [Option.map_none, Option.map_some, selectAvoidanceFacing, hright, hr]
      rfl
    | some left =>
      have hclose (hsame : |right.rawDisplacement| = |left.rawDisplacement|) :
          |right.rawDisplacement - left.rawDisplacement| ≤ layoutScaleEpsilon := by
        rcases abs_eq_abs.mp hsame with heq | hopposite
        · rw [heq, sub_self, abs_zero]
          exact epsilon_pos.le
        · exact absurd ⟨hunfitting, hr, hl, hopposite⟩ (htie right left)
      simp only [Option.map_some, selectAvoidanceFacing_alternate c body.width hclose, alternate_alternate]
      cases selectAvoidanceFacing facing (some right) (some left) with
      | right =>
        simp only [hr]
        rfl
      | left =>
        simp only [hl]
        rfl

/-! ## The plan -/

/-- Why a surface is refused. -/
def refusal (surface : Rect) (dpr : Rat) : Option PetRenderLayoutFailureReason :=
  if exceedsLogicalResources surface then some .logicalResourceLimitExceeded
  else if exceedsPhysicalResources surface dpr then some .physicalResourceLimitExceeded
  else none

theorem laidOut_refusal (body : Rect) (corrected : CorrectedFacing) (facing : PetFacing) (scale : Scale) (dpr : Rat) :
    laidOut body corrected facing scale dpr =
      match refusal (surfaceFor body corrected scale) dpr with
      | some reason => .failure reason
      | none => .layout (composed body corrected facing scale) := by
  unfold laidOut refusal
  dsimp only
  split_ifs <;> rfl

/-- The surface of a facing whose body is displaced. -/
def displacedSurface (body : Rect) (envelope : ProjectedActionEnvelope) (facing : PetFacing)
    (candidate : AvoidanceCandidate) : Rect :=
  surfaceFor { body with x := candidate.target.x } (correctedBy envelope facing) .full

/-- The plan displaces a facing, both could be displaced equally far, and they are not refused for one reason. -/
structure FallsLeft (body workspace : Rect) (envelope : ProjectedActionEnvelope) (facing : PetFacing) (dpr : Rat) :
    Prop where
  dpr_pos : 0 < dpr
  floor : (floorInfeasible envelope .right || floorInfeasible envelope .left) = false
  logical : exceedsLogicalResources (surfaceFor body (correctedBy envelope facing) .full) = false
  opposite : ∃ right left, OppositeDisplacements body workspace envelope right left ∧
    ¬∃ reason, refusal (displacedSurface body envelope .right right) dpr = some reason ∧
      refusal (displacedSurface body envelope .left left) dpr = some reason

/-- What a plan does with a placement. -/
def planned (envelope : ProjectedActionEnvelope) (dpr : Rat) : Option (Rect × PetFacing × Scale) → PetRenderLayoutResult
  | none => .failure .workspaceFitInfeasible
  | some (placed, selected, scale) => laidOut placed (correctedBy envelope selected) selected scale dpr

theorem planned_reflect (c : Int) (placement : Option (Rect × PetFacing × Scale))
    (hwidth : ∀ placed selected scale, placement = some (placed, selected, scale) → placed.width = body.width) :
    planned (reflectEnvelope body.width envelope) dpr (placement.map (reflectPlacement c)) =
      reflectResult c body.width (planned envelope dpr placement) := by
  match placement with
  | none => rfl
  | some (placed, selected, scale) =>
    simp only [Option.map_some, reflectPlacement, planned, correctedBy_reflect, alternate_alternate]
    rw [← hwidth placed selected scale rfl, laidOut_reflect]

theorem planFull_planned (body workspace : Rect) (envelope : ProjectedActionEnvelope) (facing : PetFacing) (dpr : Rat)
    (hfloor : (floorInfeasible envelope .right || floorInfeasible envelope .left) = false)
    (hlogical : exceedsLogicalResources (surfaceFor body (correctedBy envelope facing) .full) = false) :
    planFull body workspace envelope facing dpr =
      .ok (planned envelope dpr (fullPlacement body workspace envelope facing)) := by
  rw [planFull_eq, hfloor, hlogical]
  rfl

/-- The checks that come before the placement are the same on both sides. -/
theorem checks_reflect (c : Int) (body : Rect) (envelope : ProjectedActionEnvelope) (facing : PetFacing) :
    (floorInfeasible (reflectEnvelope body.width envelope) .right ||
        floorInfeasible (reflectEnvelope body.width envelope) .left) =
      (floorInfeasible envelope .right || floorInfeasible envelope .left) ∧ exceedsLogicalResources
        (surfaceFor (reflectRect c body) (correctedBy (reflectEnvelope body.width envelope) (alternate facing)) .full) =
      exceedsLogicalResources (surfaceFor body (correctedBy envelope facing) .full) := by
  constructor
  · rw [floorInfeasible_reflect, floorInfeasible_reflect, Bool.or_comm]
    rfl
  · rw [correctedBy_reflect, surfaceFor_reflect, exceedsLogicalResources_reflect, alternate_alternate]

/-- Where both sides are placed, the plans agree when the placements do. -/
theorem planFull_reflect (c : Int) {facing : PetFacing}
    (hplanned : (floorInfeasible envelope .right || floorInfeasible envelope .left) = false →
      exceedsLogicalResources (surfaceFor body (correctedBy envelope facing) .full) = false →
      planned (reflectEnvelope body.width envelope) dpr (fullPlacement (reflectRect c body) (reflectRect c workspace)
          (reflectEnvelope body.width envelope) (alternate facing)) =
        reflectResult c body.width (planned envelope dpr (fullPlacement body workspace envelope facing))) :
    planFull (reflectRect c body) (reflectRect c workspace) (reflectEnvelope body.width envelope) (alternate facing) dpr =
      (planFull body workspace envelope facing dpr).map (reflectResult c body.width) := by
  obtain ⟨hfloor', hlogical'⟩ := checks_reflect c body envelope facing
  cases hfloor : floorInfeasible envelope .right || floorInfeasible envelope .left with
  | true =>
    rw [planFull_eq, planFull_eq, hfloor', hfloor]
    rfl
  | false =>
    cases hlogical : exceedsLogicalResources (surfaceFor body (correctedBy envelope facing) .full) with
    | true =>
      rw [planFull_eq, planFull_eq, hfloor', hlogical', hfloor, hlogical]
      rfl
    | false =>
      rw [planFull_planned _ _ _ _ _ (hfloor'.trans hfloor) (hlogical'.trans hlogical),
        planFull_planned _ _ _ _ _ hfloor hlogical, hplanned hfloor hlogical]
      rfl

/-- At a tie both plans show the left facing, so each is the image of what the other does not show. -/
theorem OppositeDisplacements.plans {right left : AvoidanceCandidate}
    (h : OppositeDisplacements body workspace envelope right left) (c : Int) (hwidth : ∃ n : Int, body.width = n) :
    planned (reflectEnvelope body.width envelope) dpr (fullPlacement (reflectRect c body) (reflectRect c workspace)
        (reflectEnvelope body.width envelope) (alternate facing)) =
      reflectResult c body.width
        (laidOut { body with x := right.target.x } (correctedBy envelope .right) .right .full dpr) := by
  rw [(h.reflect c hwidth).placement]
  refine planned_reflect c (some ({ body with x := right.target.x }, .right, .full)) ?_
  rintro placed selected scale ⟨⟩
  rfl

/-- The images of a right and a left layout are the same only where neither is shown. -/
theorem laidOut_alike_iff {c bodyWidth : Rat} {first second : Rect} {right left : CorrectedFacing} :
    reflectResult c bodyWidth (laidOut first right .right scale dpr) =
        reflectResult c bodyWidth (laidOut second left .left scale dpr) ↔
      ∃ reason, refusal (surfaceFor first right scale) dpr = some reason ∧
        refusal (surfaceFor second left scale) dpr = some reason := by
  rw [laidOut_refusal, laidOut_refusal]
  cases refusal (surfaceFor first right scale) dpr with
  | none =>
    constructor
    · intro heq
      cases hleft : refusal (surfaceFor second left scale) dpr with
      | none =>
        rw [hleft] at heq
        have hfacing := congrArg PetRenderLayout.effectiveFacing (PetRenderLayoutResult.layout.inj heq)
        exact absurd hfacing nofun
      | some reason =>
        rw [hleft] at heq
        cases heq
    · rintro ⟨reason, hright, -⟩
      cases hright
  | some reason =>
    constructor
    · intro heq
      cases hleft : refusal (surfaceFor second left scale) dpr with
      | none =>
        rw [hleft] at heq
        cases heq
      | some other =>
        rw [hleft] at heq
        exact ⟨reason, rfl, congrArg some (PetRenderLayoutResult.failure.inj heq).symm⟩
    · rintro ⟨shared, hright, hleft⟩
      cases hright
      rw [hleft]

end

/-- For a body whose width is whole, the plan of the image is the image of the plan, but for a tie. -/
theorem planPetRenderLayout_reflects_iff {body : Rect} (hwidth : ∃ n : Int, body.width = n) (workspace : Rect)
    (envelope : ProjectedActionEnvelope) (facing : PetFacing) (dpr : Rat) (display : Option Rect) :
    Reflects body workspace envelope facing dpr display ↔ ¬FallsLeft body workspace envelope facing dpr := by
  constructor
  · rintro hreflects ⟨hdpr, hfloor, hlogical, right, left, hopposite, hshown⟩
    obtain ⟨hfloor', hlogical'⟩ := checks_reflect 0 body envelope facing
    have hplans := hreflects 0
    unfold planPetRenderLayout at hplans
    rw [if_neg (not_le.mpr hdpr), if_neg (not_le.mpr hdpr)] at hplans
    simp only [planFull_planned _ _ _ _ _ (hfloor'.trans hfloor) (hlogical'.trans hlogical),
      planFull_planned _ _ _ _ _ hfloor hlogical, hopposite.plans 0 hwidth, hopposite.placement] at hplans
    exact hshown (laidOut_alike_iff.mp (Except.ok.inj hplans))
  · intro hnot c
    unfold planPetRenderLayout
    by_cases hdpr : dpr ≤ 0
    · rw [if_pos hdpr, if_pos hdpr]
      rfl
    rw [if_neg hdpr, if_neg hdpr]
    refine planFull_reflect c fun hfloor hlogical => ?_
    by_cases htie : ∃ right left, OppositeDisplacements body workspace envelope right left
    · obtain ⟨right, left, hopposite⟩ := htie
      rw [hopposite.plans c hwidth, hopposite.placement]
      refine laidOut_alike_iff.mpr ?_
      by_contra hshown
      exact hnot ⟨not_le.mp hdpr, hfloor, hlogical, right, left, hopposite, hshown⟩
    · rw [fullPlacement_reflect c hwidth (fun right left hopposite => htie ⟨right, left, hopposite⟩)]
      refine planned_reflect c _ fun placed selected scale hplaced => ?_
      rw [(fullPlacement_spec hplaced).1]

/-! ## A tie -/

/-- The body in the middle of a workspace of 360 by 400. -/
def middleBody : Rect where
  x := 100
  y := 100
  width := 160
  height := 180
  width_pos := ofNat_pos trivial
  height_pos := ofNat_pos trivial

def narrowWorkspace : Rect where
  x := 0
  y := 0
  width := 360
  height := 400
  width_pos := ofNat_pos trivial
  height_pos := ofNat_pos trivial

/-- Content that reaches far behind the pet. -/
def trailingEnvelope : ProjectedActionEnvelope :=
  projectActionEnvelope
    { x := -230, y := 0, width := 250, height := 180, width_pos := ofNat_pos trivial, height_pos := ofNat_pos trivial }
    { scale := 1, originX := 80, originY := 180, mirrorAxisX := 80, scale_pos := ofNat_pos trivial }

deriving instance DecidableEq for AvoidanceCandidate

def facingOf : Except PetError PetRenderLayoutResult → Option PetFacing
  | .ok (.layout layout) => some layout.effectiveFacing
  | _ => none

/-- The middle of a workspace is its own image, but the pet faces left there whichever way it was to face. -/
theorem trailing_faces_left :
    (∀ facing, facingOf (planPetRenderLayout middleBody narrowWorkspace trailingEnvelope facing .fullSampledBounds 1
      none) = some .left) ∧ ¬Reflects middleBody narrowWorkspace trailingEnvelope .right 1 none := by
  constructor
  · intro facing
    cases facing <;> decide +kernel
  · intro hreflects
    have hfacing := congrArg facingOf (hreflects 360)
    exact absurd hfacing (by decide +kernel)

theorem planPetRenderLayout_reflects_middle :
    ¬Reflects middleBody narrowWorkspace trailingEnvelope .left 1 none ∧
    Reflects middleBody { narrowWorkspace with width := 500, width_pos := by norm_num } trailingEnvelope .left 1 none := by
  have hwidth : ∃ n : Int, middleBody.width = n := ⟨160, rfl⟩
  constructor
  · have hopposite : OppositeDisplacements middleBody narrowWorkspace trailingEnvelope
        { target := { x := 150, y := 100 }, rawDisplacement := 50 }
        { target := { x := 50, y := 100 }, rawDisplacement := -50 } := by
      refine ⟨fun facing => ?_, by decide +kernel, by decide +kernel, by norm_num⟩
      cases facing <;> decide +kernel
    intro hreflects
    refine (planPetRenderLayout_reflects_iff hwidth _ _ _ _ _).mp hreflects ⟨by norm_num, ?_, ?_, _, _, hopposite, ?_⟩
    · decide +kernel
    · decide +kernel
    · rintro ⟨reason, hright, -⟩
      have hnone : refusal (displacedSurface middleBody trailingEnvelope .right
        { target := { x := 150, y := 100 }, rawDisplacement := 50 }) 1 = none := by decide +kernel
      rw [hnone] at hright
      cases hright
  · refine (planPetRenderLayout_reflects_iff hwidth _ _ _ _ _).mpr fun hfalls => ?_
    obtain ⟨right, left, hopposite, -⟩ := hfalls.opposite
    exact absurd (hopposite.unfitting .left) (by decide +kernel)

end ArkClaw.Pet.RenderLayout
