import ArkClaw.Pet.Geometry
import Mathlib.Algebra.Order.Floor.Ring
import Mathlib.Data.Rat.Floor

/-!
# Planning a render layout

The planner places the sampled bounds of an action around the body on the desktop: it projects them for both facings,
lifts them off the floor, and looks for a facing, a displacement and a scale at which they fit. What it returns is one
composition: a surface, where the body is in it, and how the content is scaled about the body's foot.

Numbers are exact rationals. A rectangle without a positive extent cannot be built, so a scale is carried with the
proof that it is positive.
-/

namespace ArkClaw.Pet

open ArkClaw.Library

inductive PetRendererAction where
  | idle | walkLeft | walkRight | runLeft | runRight | sitting | sleep | special | interact | wave | happyJump
  | thinking | reading | typing | reminding | confused | angry | dragStruggle | falling | landing | paused | closing
deriving DecidableEq, Repr

def bodyWidth : Rat := 160
def bodyHeight : Rat := 180
def clippingPadding : Rat := 2
def maxSpecialEffectFloorLift : Rat := 16
def minEffectScaleMultiplier : Rat := 40 / 100
def layoutScaleEpsilon : Rat := 1 / 1000000
def maxLogicalDimension : Rat := 1024
def maxLogicalArea : Rat := 1048576
def maxPhysicalDimension : Int := 4096
def maxPhysicalArea : Int := 4194304

theorem bodyWidth_pos : 0 < bodyWidth := by norm_num [bodyWidth]

theorem bodyHeight_pos : 0 < bodyHeight := by norm_num [bodyHeight]

/-- Bounds in the space of the skeleton, whose y axis points up. -/
@[ext] structure Spine38Bounds where
  x : Rat
  y : Rat
  width : Rat
  height : Rat
  width_pos : 0 < width
  height_pos : 0 < height

instance : DecidableEq Spine38Bounds := fun _ _ => decidable_of_iff _ Spine38Bounds.ext_iff.symm

/-- The bounds of the body, and of the actions that were sampled. -/
structure RolePackRenderProfile where
  bodyBounds : Spine38Bounds
  sampledActionBounds : List (PetRendererAction × Spine38Bounds)
  sampled : sampledActionBounds ≠ []
  actions_nodup : (sampledActionBounds.map Prod.fst).Nodup

/-- The bounds sampled for an action. -/
def RolePackRenderProfile.boundsOf (profile : RolePackRenderProfile) (action : PetRendererAction) :
    Option Spine38Bounds :=
  (profile.sampledActionBounds.find? fun entry => decide (entry.1 = action)).map Prod.snd

structure PetBodyTransform where
  scale : Rat
  originX : Rat
  originY : Rat
  mirrorAxisX : Rat
  scale_pos : 0 < scale

structure ProjectedFacingEnvelope where
  contentBounds : Rect
  bodyAnchor : Point

structure ProjectedActionEnvelope where
  right : ProjectedFacingEnvelope
  left : ProjectedFacingEnvelope

inductive RenderContainmentPolicy where
  | bodyPriority | sitFullSampledBounds | fullSampledBounds
deriving DecidableEq, Repr

inductive PetRenderSurfaceMode where
  | body | overflow
deriving DecidableEq, Repr

inductive PetRenderLayoutQuality where
  | fullScale | degradedFit
deriving DecidableEq, Repr

inductive PetRenderLayoutFailureReason where
  | bodyVerticalInfeasible | specialEffectFloorInfeasible | logicalResourceLimitExceeded | invalidDpr
  | physicalResourceLimitExceeded | workspaceFitInfeasible | sitDisplayGeometryRequired | sitDisplayFitInfeasible
deriving DecidableEq, Repr

/-- Two numbers are within an absolute tolerance, or within 1e-9 of the larger magnitude. -/
def isCloseWithin (absTol a b : Rat) : Bool := |a - b| ≤ max (1 / 1000000000 * max |a| |b|) absTol

@[ext] structure PetRenderLayout where
  mode : PetRenderSurfaceMode
  surfaceRect : Rect
  bodyWindowOffset : Point
  resolvedBodyPosition : Point
  groundCorrection : Rat
  effectiveFacing : PetFacing
  scaleMultiplier : Rat
  quality : PetRenderLayoutQuality
  scale_pos : 0 < scaleMultiplier

instance : DecidableEq PetRenderLayout := fun _ _ => decidable_of_iff _ PetRenderLayout.ext_iff.symm

/-- Build a layout; one whose parts contradict each other raises. A layout without a scale cannot be built. -/
def PetRenderLayout.make (layout : PetRenderLayout) : Except PetError PetRenderLayout :=
  let close := isCloseWithin layoutScaleEpsilon
  let rect := layout.surfaceRect
  let offset := layout.bodyWindowOffset
  let position := layout.resolvedBodyPosition
  if layout.quality = .fullScale ∧ !close layout.scaleMultiplier 1 then
    .error (.value "FULL_SCALE requires a 1.0 scale multiplier")
  else if layout.quality = .degradedFit ∧ ¬(minEffectScaleMultiplier ≤ layout.scaleMultiplier + layoutScaleEpsilon
      ∧ layout.scaleMultiplier < 1 - layoutScaleEpsilon) then
    .error (.value "DEGRADED_FIT scale multiplier is out of range")
  else if !(close (rect.x + offset.x) position.x && close (rect.y + offset.y) position.y) then
    .error (.value "body window offset must recover the resolved body position")
  else if layout.mode = .body ∧ offset ≠ { x := 0, y := 0 } then
    .error (.value "BODY layout must use a zero body window offset")
  else if layout.mode = .body ∧ !(close rect.x position.x && close rect.y position.y) then
    .error (.value "BODY surface must coincide with resolved position")
  else .ok layout

inductive PetRenderLayoutResult where
  | layout (layout : PetRenderLayout)
  | failure (reason : PetRenderLayoutFailureReason)
deriving DecidableEq

structure CorrectedFacing where
  contentBounds : Rect
  bodyAnchor : Point
  correction : Rat

structure AvoidanceCandidate where
  target : Point
  rawDisplacement : Rat

/-- A factor the content is scaled by. -/
abbrev Scale := { scale : Rat // 0 < scale }

theorem Scale.pos (scale : Scale) : 0 < scale.val := scale.property

def Scale.full : Scale := ⟨1, ofNat_pos trivial⟩

namespace RenderLayout

/-! ## Projection -/

def translate (rect : Rect) (dx dy : Rat) : Rect := { rect with x := rect.x + dx, y := rect.y + dy }

/-- Project one sampled union into both body-local facings. -/
def projectActionEnvelope (sampledBounds : Spine38Bounds) (bodyTransform : PetBodyTransform) :
    ProjectedActionEnvelope :=
  let scale := bodyTransform.scale
  let rightBounds : Rect := {
    x := bodyTransform.originX + sampledBounds.x * scale
    y := bodyTransform.originY - (sampledBounds.y + sampledBounds.height) * scale
    width := sampledBounds.width * scale
    height := sampledBounds.height * scale
    width_pos := mul_pos sampledBounds.width_pos bodyTransform.scale_pos
    height_pos := mul_pos sampledBounds.height_pos bodyTransform.scale_pos }
  let mirrorAxis := bodyTransform.mirrorAxisX
  { right := { contentBounds := rightBounds, bodyAnchor := { x := bodyTransform.originX, y := bodyTransform.originY } }
    left := {
      contentBounds := { rightBounds with x := 2 * mirrorAxis - rightBounds.right }
      bodyAnchor := { x := 2 * mirrorAxis - bodyTransform.originX, y := bodyTransform.originY } } }

def forFacing (envelope : ProjectedActionEnvelope) : PetFacing → ProjectedFacingEnvelope
  | .left => envelope.left
  | .right => envelope.right

/-- Lift the content off the floor, as far as it may be lifted. -/
def correct (facing : ProjectedFacingEnvelope) (maximumLift : Option Rat) : CorrectedFacing :=
  let needed := max 0 (facing.contentBounds.bottom - bodyHeight)
  let correction := match maximumLift with
    | none => needed
    | some lift => min needed lift
  { contentBounds := translate facing.contentBounds 0 (-correction)
    bodyAnchor := { x := facing.bodyAnchor.x, y := facing.bodyAnchor.y - correction }
    correction }

/-! ## Surfaces -/

/-- The content on the desktop, scaled about the foot of the body. -/
def desktopScaledContent (bodyRect : Rect) (corrected : CorrectedFacing) (scale : Scale) : Rect :=
  let pivot : Point := { x := bodyRect.x + corrected.bodyAnchor.x, y := bodyRect.y + bodyHeight }
  let desktop := translate corrected.contentBounds bodyRect.x bodyRect.y
  let left := pivot.x + scale.val * (desktop.x - pivot.x)
  let top := pivot.y + scale.val * (desktop.y - pivot.y)
  let right := pivot.x + scale.val * (desktop.right - pivot.x)
  let bottom := pivot.y + scale.val * (desktop.bottom - pivot.y)
  { x := left, y := top, width := right - left, height := bottom - top
    width_pos := by
      have h := mul_pos scale.property desktop.width_pos
      simp only [right, left, Rect.right]
      linarith
    height_pos := by
      have h := mul_pos scale.property desktop.height_pos
      simp only [bottom, top, Rect.bottom]
      linarith }

/-- The whole pixels that hold the padded content. -/
def surfaceFor (bodyRect : Rect) (corrected : CorrectedFacing) (scale : Scale) : Rect :=
  let visible := desktopScaledContent bodyRect corrected scale
  let left : Int := ⌊visible.x - clippingPadding⌋
  let top : Int := ⌊visible.y - clippingPadding⌋
  let right : Int := ⌈visible.right + clippingPadding⌉
  let bottom : Int := ⌈visible.bottom + clippingPadding⌉
  { x := left, y := top, width := right - left, height := bottom - top
    width_pos := by
      have hl : (left : Rat) ≤ visible.x - clippingPadding := Int.floor_le _
      have hr : visible.right + clippingPadding ≤ right := Int.le_ceil _
      have hw := visible.width_pos
      simp only [Rect.right, clippingPadding] at hl hr
      linarith
    height_pos := by
      have ht : (top : Rat) ≤ visible.y - clippingPadding := Int.floor_le _
      have hb : visible.bottom + clippingPadding ≤ bottom := Int.le_ceil _
      have hh := visible.height_pos
      simp only [Rect.bottom, clippingPadding] at ht hb
      linarith }

def visibleContentFits (bodyRect : Rect) (corrected : CorrectedFacing) (scale : Scale) (workspace : Rect) : Bool :=
  let visible := desktopScaledContent bodyRect corrected scale
  workspace.x - layoutScaleEpsilon ≤ visible.x ∧ workspace.y - layoutScaleEpsilon ≤ visible.y
    ∧ visible.right ≤ workspace.right + layoutScaleEpsilon
    ∧ visible.bottom ≤ workspace.bottom + maxSpecialEffectFloorLift + layoutScaleEpsilon

/-- One rectangle holds another, up to the tolerance. -/
def contains (container content : Rect) : Bool :=
  container.x - layoutScaleEpsilon ≤ content.x ∧ container.y - layoutScaleEpsilon ≤ content.y
    ∧ content.right ≤ container.right + layoutScaleEpsilon ∧ content.bottom ≤ container.bottom + layoutScaleEpsilon

def exceedsLogicalResources (surface : Rect) : Bool :=
  maxLogicalDimension < surface.width ∨ maxLogicalDimension < surface.height
    ∨ maxLogicalArea < surface.width * surface.height

def exceedsPhysicalResources (surface : Rect) (dpr : Rat) : Bool :=
  let width := ⌈surface.width * dpr⌉
  let height := ⌈surface.height * dpr⌉
  maxPhysicalDimension < width ∨ maxPhysicalDimension < height ∨ maxPhysicalArea < width * height

/-- Lay the content out at a facing and a scale, where its surface stays within the limits. -/
def successfulLayout (bodyRect : Rect) (corrected : CorrectedFacing) (facing : PetFacing) (scale : Scale) (dpr : Rat) :
    Except PetError PetRenderLayoutResult := do
  let surface := surfaceFor bodyRect corrected scale
  if exceedsLogicalResources surface then return .failure .logicalResourceLimitExceeded
  else if exceedsPhysicalResources surface dpr then return .failure .physicalResourceLimitExceeded
  else
    let bodyContainsSurface := contains bodyRect surface
    let actualSurface := if bodyContainsSurface then bodyRect else surface
    let layout ← PetRenderLayout.make {
      mode := if bodyContainsSurface then .body else .overflow
      surfaceRect := actualSurface
      bodyWindowOffset := { x := bodyRect.x - actualSurface.x, y := bodyRect.y - actualSurface.y }
      resolvedBodyPosition := { x := bodyRect.x, y := bodyRect.y }
      groundCorrection := corrected.correction
      effectiveFacing := facing
      scaleMultiplier := scale.val
      quality := if isCloseWithin layoutScaleEpsilon scale.val 1 then .fullScale else .degradedFit
      scale_pos := scale.property }
    return .layout layout

/-! ## Fitting -/

/-- Where the body would move, so that the content fits at its full scale. -/
def horizontalAvoidance (bodyRect : Rect) (corrected : CorrectedFacing) (workspace : Rect) :
    Option AvoidanceCandidate :=
  let content := desktopScaledContent bodyRect corrected .full
  let deltaLower := max (workspace.x - content.x) (workspace.x - bodyRect.x)
  let deltaUpper := min (workspace.right - content.right) (workspace.right - bodyRect.right)
  if deltaUpper + layoutScaleEpsilon < deltaLower then none
  else
    let delta :=
      if deltaLower ≤ layoutScaleEpsilon ∧ -layoutScaleEpsilon ≤ deltaUpper then 0
      else if deltaUpper < -layoutScaleEpsilon then deltaUpper
      else deltaLower
    let targetX := bodyRect.x + delta
    let quantizedX : Rat :=
      if layoutScaleEpsilon < delta then (⌈targetX - layoutScaleEpsilon⌉ : Int)
      else if delta < -layoutScaleEpsilon then (⌊targetX + layoutScaleEpsilon⌋ : Int)
      else bodyRect.x
    let quantizedBody := { bodyRect with x := quantizedX }
    if ¬(workspace.x - layoutScaleEpsilon ≤ quantizedX
        ∧ quantizedX + bodyRect.width ≤ workspace.right + layoutScaleEpsilon) then none
    else if !visibleContentFits quantizedBody corrected .full workspace then none
    else some { target := { x := quantizedX, y := bodyRect.y }, rawDisplacement := delta }

/-- The facing whose displacement is smaller; the preferred one where they are the same. -/
def selectAvoidanceFacing (preferredFacing : PetFacing) (right left : Option AvoidanceCandidate) : PetFacing :=
  match right, left with
  | none, _ => .left
  | _, none => .right
  | some right, some left =>
    if |right.rawDisplacement - left.rawDisplacement| ≤ layoutScaleEpsilon then preferredFacing
    else if |right.rawDisplacement| < |left.rawDisplacement| then .right
    else .left

/-- What is left of the scales to try: the content fits at the lower end, if that is not zero. -/
structure ScaleRange where
  low : Rat
  high : Rat
  low_nonneg : 0 ≤ low
  high_pos : 0 < high

namespace ScaleRange

def middle (r : ScaleRange) : Scale :=
  ⟨(r.low + r.high) / 2, by
    have hl := r.low_nonneg
    have hh := r.high_pos
    linarith⟩

/-- Go on with the half that the middle decides for. -/
def narrow (fits : Scale → Bool) (r : ScaleRange) : ScaleRange :=
  if fits r.middle then { r with low := r.middle.val, low_nonneg := le_of_lt r.middle.property }
  else { r with high := r.middle.val, high_pos := r.middle.property }

def narrowed (fits : Scale → Bool) : Nat → ScaleRange → ScaleRange
  | 0, r => r
  | n + 1, r => narrowed fits n (r.narrow fits)

end ScaleRange

theorem zero_nonneg : (0 : Rat) ≤ 0 := le_rfl

/-- The largest scale at which the content fits, to 64 halvings. -/
def largestFeasibleScale (bodyRect : Rect) (corrected : CorrectedFacing) (workspace : Rect) : Option Rat :=
  if visibleContentFits bodyRect corrected .full workspace then some 1
  else
    let pivot : Point := { x := bodyRect.x + corrected.bodyAnchor.x, y := bodyRect.y + bodyHeight }
    if ¬(workspace.x ≤ pivot.x ∧ pivot.x ≤ workspace.right ∧ workspace.y ≤ pivot.y ∧ pivot.y ≤ workspace.bottom) then none
    else
      some (ScaleRange.narrowed (visibleContentFits bodyRect corrected · workspace) 64
        { low := 0, high := 1, low_nonneg := zero_nonneg, high_pos := ofNat_pos trivial }).low

/-- A scale that is large enough to be used. -/
def viableScale (scale : Option Rat) : Option Scale :=
  match scale with
  | none => none
  | some scale =>
    if h : minEffectScaleMultiplier ≤ scale + layoutScaleEpsilon then
      some ⟨scale, by
        have hmin : layoutScaleEpsilon < minEffectScaleMultiplier := by norm_num [layoutScaleEpsilon, minEffectScaleMultiplier]
        linarith⟩
    else none

/-- The facing that allows the larger scale, with that scale. -/
def selectScale (preferredFacing : PetFacing) (right left : Option Scale) : Option (PetFacing × Scale) :=
  match right, left with
  | none, none => none
  | none, some left => some (.left, left)
  | some right, none => some (.right, right)
  | some right, some left =>
    let selected : PetFacing :=
      if |right.val - left.val| ≤ layoutScaleEpsilon then preferredFacing
      else if left.val < right.val then .right else .left
    some (selected, if selected = .right then right else left)

/-! ## The policies -/

def alternate : PetFacing → PetFacing
  | .right => .left
  | .left => .right

/-- The facing as the planner corrects it: nothing is lifted. -/
def correctedBy (envelope : ProjectedActionEnvelope) (facing : PetFacing) : CorrectedFacing :=
  correct (forFacing envelope facing) (some 0)

/-- Sitting shows all of its bounds, cut off at the display. -/
def planSit (bodyRect : Rect) (envelope : ProjectedActionEnvelope) (preferredFacing : PetFacing) (dpr : Rat)
    (display : Option Rect) : Except PetError PetRenderLayoutResult := do
  match display with
  | none => return .failure .sitDisplayGeometryRequired
  | some display =>
    let corrected := correctedBy envelope preferredFacing
    match ← successfulLayout bodyRect corrected preferredFacing .full dpr with
    | .failure reason => return .failure reason
    | .layout result =>
      if contains display result.surfaceRect then return .layout result
      else if !contains display bodyRect then return .failure .sitDisplayFitInfeasible
      else
        let containedLeft := max display.x result.surfaceRect.x
        let containedTop := max display.y result.surfaceRect.y
        let containedRight := min display.right result.surfaceRect.right
        let containedBottom := min display.bottom result.surfaceRect.bottom
        if h : containedLeft < containedRight ∧ containedTop < containedBottom then
          let containedSurface : Rect := {
            x := containedLeft, y := containedTop
            width := containedRight - containedLeft, height := containedBottom - containedTop
            width_pos := sub_pos.mpr h.1, height_pos := sub_pos.mpr h.2 }
          let layout ← PetRenderLayout.make {
            mode := .overflow
            surfaceRect := containedSurface
            bodyWindowOffset := { x := bodyRect.x - containedSurface.x, y := bodyRect.y - containedSurface.y }
            resolvedBodyPosition := { x := bodyRect.x, y := bodyRect.y }
            groundCorrection := corrected.correction
            effectiveFacing := preferredFacing
            scaleMultiplier := 1
            quality := .fullScale
            scale_pos := ofNat_pos trivial }
          return .layout layout
        else return .failure .sitDisplayFitInfeasible

/-- Whatever else an action shows, the body is drawn in its own window. -/
def planBody (bodyRect : Rect) (envelope : ProjectedActionEnvelope) (preferredFacing : PetFacing) (dpr : Rat) :
    Except PetError PetRenderLayoutResult := do
  let corrected := correctedBy envelope preferredFacing
  if corrected.contentBounds.y < 0 then return .failure .bodyVerticalInfeasible
  else if exceedsPhysicalResources bodyRect dpr then return .failure .physicalResourceLimitExceeded
  else
    let layout ← PetRenderLayout.make {
      mode := .body
      surfaceRect := bodyRect
      bodyWindowOffset := { x := 0, y := 0 }
      resolvedBodyPosition := { x := bodyRect.x, y := bodyRect.y }
      groundCorrection := corrected.correction
      effectiveFacing := preferredFacing
      scaleMultiplier := 1
      quality := .fullScale
      scale_pos := ofNat_pos trivial }
    return .layout layout

/-- The content reaches further below the body than it may. -/
def floorInfeasible (envelope : ProjectedActionEnvelope) (facing : PetFacing) : Bool :=
  maxSpecialEffectFloorLift + layoutScaleEpsilon
    < max 0 ((forFacing envelope facing).contentBounds.bottom - bodyHeight)

/-- The content neither fits as it is nor anywhere beside: it is scaled. -/
def planScaled (bodyRect workspace : Rect) (envelope : ProjectedActionEnvelope) (preferredFacing : PetFacing)
    (dpr : Rat) : Except PetError PetRenderLayoutResult := do
  let scaleOf := fun facing => viableScale (largestFeasibleScale bodyRect (correctedBy envelope facing) workspace)
  match selectScale preferredFacing (scaleOf .right) (scaleOf .left) with
  | none => return .failure .workspaceFitInfeasible
  | some (selected, scale) => successfulLayout bodyRect (correctedBy envelope selected) selected scale dpr

/-- All of the sampled bounds are shown: facing either way, displaced, or scaled. -/
def planFull (bodyRect workspace : Rect) (envelope : ProjectedActionEnvelope) (preferredFacing : PetFacing)
    (dpr : Rat) : Except PetError PetRenderLayoutResult := do
  let corrected := correctedBy envelope
  let alternateFacing := alternate preferredFacing
  if floorInfeasible envelope .right || floorInfeasible envelope .left then
    return .failure .specialEffectFloorInfeasible
  else if exceedsLogicalResources (surfaceFor bodyRect (corrected preferredFacing) .full) then
    return .failure .logicalResourceLimitExceeded
  else if visibleContentFits bodyRect (corrected preferredFacing) .full workspace then
    successfulLayout bodyRect (corrected preferredFacing) preferredFacing .full dpr
  else if visibleContentFits bodyRect (corrected alternateFacing) .full workspace then
    successfulLayout bodyRect (corrected alternateFacing) alternateFacing .full dpr
  else
    let avoidance := fun facing => horizontalAvoidance bodyRect (corrected facing) workspace
    let selected := selectAvoidanceFacing preferredFacing (avoidance .right) (avoidance .left)
    match avoidance selected with
    | some candidate =>
      let movedBody := { bodyRect with x := candidate.target.x }
      successfulLayout movedBody (corrected selected) selected .full dpr
    | none => planScaled bodyRect workspace envelope preferredFacing dpr

/-- Plan one immutable logical composition. -/
def planPetRenderLayout (bodyRect workspace : Rect) (envelope : ProjectedActionEnvelope) (preferredFacing : PetFacing)
    (policy : RenderContainmentPolicy) (devicePixelRatio : Rat) (display : Option Rect) :
    Except PetError PetRenderLayoutResult :=
  if devicePixelRatio ≤ 0 then .ok (.failure .invalidDpr)
  else
    match policy with
    | .sitFullSampledBounds => planSit bodyRect envelope preferredFacing devicePixelRatio display
    | .bodyPriority => planBody bodyRect envelope preferredFacing devicePixelRatio
    | .fullSampledBounds => planFull bodyRect workspace envelope preferredFacing devicePixelRatio

end RenderLayout

end ArkClaw.Pet
