import ArkClaw.Pet.RenderLayout
import Mathlib.Tactic.Linarith
import Mathlib.Tactic.Ring

/-!
# What the planner returns

The parts of every layout the planner builds agree, so none of its builds raises: `successfulLayout_eq` and its like
say what comes out instead. `Planned` lists the compositions a plan can return, each with the body it moves, the facing
it shows and the scale it uses.
-/

namespace ArkClaw.Pet

open ArkClaw.Library

namespace RenderLayout

/-! ## Building a layout -/

theorem isCloseWithin_self (absTol a : Rat) : isCloseWithin absTol a a = true := by
  simp [isCloseWithin]

/-- A scale the planner uses: not too small, and never larger than the sampled content. -/
def Reasonable (scale : Scale) : Prop := minEffectScaleMultiplier ≤ scale.val + layoutScaleEpsilon ∧ scale.val ≤ 1

theorem full_reasonable : Reasonable .full := by
  constructor <;> norm_num [Scale.full, minEffectScaleMultiplier, layoutScaleEpsilon]

/-- The quality a scale is tagged with. -/
def qualityOf (scale : Scale) : PetRenderLayoutQuality :=
  if isCloseWithin layoutScaleEpsilon scale.val 1 then .fullScale else .degradedFit

theorem degraded_scale {scale : Scale} (h : Reasonable scale)
    (hfar : isCloseWithin layoutScaleEpsilon scale.val 1 = false) : scale.val < 1 - layoutScaleEpsilon := by
  by_contra hnot
  rw [not_lt] at hnot
  have hclose : |scale.val - 1| ≤ layoutScaleEpsilon := by
    rw [abs_le]
    exact ⟨by linarith, by linarith [h.2, show (0 : Rat) ≤ layoutScaleEpsilon by norm_num [layoutScaleEpsilon]]⟩
  have htrue : isCloseWithin layoutScaleEpsilon scale.val 1 = true := by
    simp only [isCloseWithin, decide_eq_true_eq]
    exact le_max_of_le_right hclose
  rw [hfar] at htrue
  cases htrue

/-- A layout whose offset recovers its position, and which has none where the body draws itself, is built. -/
theorem make_eq {layout : PetRenderLayout} {scale : Scale} (hscale : Reasonable scale)
    (hmultiplier : layout.scaleMultiplier = scale.val) (hquality : layout.quality = qualityOf scale)
    (hx : layout.surfaceRect.x + layout.bodyWindowOffset.x = layout.resolvedBodyPosition.x)
    (hy : layout.surfaceRect.y + layout.bodyWindowOffset.y = layout.resolvedBodyPosition.y)
    (hbody : layout.mode = .body → layout.bodyWindowOffset = { x := 0, y := 0 }) : layout.make = .ok layout := by
  unfold PetRenderLayout.make
  have hfull : ¬(layout.quality = .fullScale ∧ (!isCloseWithin layoutScaleEpsilon layout.scaleMultiplier 1) = true) := by
    rintro ⟨hq, hfar⟩
    rw [hquality, qualityOf] at hq
    rw [hmultiplier] at hfar
    split at hq
    next hclose => simp [hclose] at hfar
    next => cases hq
  have hdegraded : ¬(layout.quality = .degradedFit
      ∧ ¬(minEffectScaleMultiplier ≤ layout.scaleMultiplier + layoutScaleEpsilon
        ∧ layout.scaleMultiplier < 1 - layoutScaleEpsilon)) := by
    rintro ⟨hq, hrange⟩
    rw [hquality, qualityOf] at hq
    rw [hmultiplier] at hrange
    split at hq
    next => cases hq
    next hfar => exact hrange ⟨hscale.1, degraded_scale hscale (by simpa using hfar)⟩
  have hcoincides : layout.mode = .body →
      layout.surfaceRect.x = layout.resolvedBodyPosition.x ∧ layout.surfaceRect.y = layout.resolvedBodyPosition.y := by
    intro hmode
    rw [hbody hmode] at hx hy
    exact ⟨by simpa using hx, by simpa using hy⟩
  simp only [if_neg hfull, if_neg hdegraded, hx, hy, isCloseWithin_self, Bool.and_self, Bool.not_true,
    Bool.false_eq_true, if_false]
  rw [if_neg fun h => h.2 (hbody h.1), if_neg]
  rintro ⟨hmode, hapart⟩
  rw [(hcoincides hmode).1, (hcoincides hmode).2] at hapart
  simp [isCloseWithin_self] at hapart

/-- A layout that is built is returned. -/
theorem made {layout : PetRenderLayout} (h : layout.make = .ok layout) :
    (do let built ← layout.make; return PetRenderLayoutResult.layout built : Except PetError PetRenderLayoutResult)
      = .ok (.layout layout) := by
  rw [h]
  rfl

/-! ## The compositions -/

/-- The content at a facing and a scale, on the body's own surface where that holds it. -/
def composed (body : Rect) (corrected : CorrectedFacing) (facing : PetFacing) (scale : Scale) : PetRenderLayout :=
  let surface := surfaceFor body corrected scale
  let actual := if contains body surface then body else surface
  { mode := if contains body surface then .body else .overflow
    surfaceRect := actual
    bodyWindowOffset := { x := body.x - actual.x, y := body.y - actual.y }
    resolvedBodyPosition := { x := body.x, y := body.y }
    groundCorrection := corrected.correction
    effectiveFacing := facing
    scaleMultiplier := scale.val
    quality := qualityOf scale
    scale_pos := scale.pos }

/-- The composition, where its surface stays within the limits. -/
def laidOut (body : Rect) (corrected : CorrectedFacing) (facing : PetFacing) (scale : Scale) (dpr : Rat) :
    PetRenderLayoutResult :=
  let surface := surfaceFor body corrected scale
  if exceedsLogicalResources surface then .failure .logicalResourceLimitExceeded
  else if exceedsPhysicalResources surface dpr then .failure .physicalResourceLimitExceeded
  else .layout (composed body corrected facing scale)

theorem successfulLayout_eq {scale : Scale} (hscale : Reasonable scale) (body : Rect) (corrected : CorrectedFacing)
    (facing : PetFacing) (dpr : Rat) :
    successfulLayout body corrected facing scale dpr = .ok (laidOut body corrected facing scale dpr) := by
  unfold laidOut
  unfold successfulLayout
  dsimp only
  split
  next => rfl
  next =>
    split
    next => rfl
    next =>
      have hmake : (composed body corrected facing scale).make = .ok (composed body corrected facing scale) := by
        refine make_eq hscale rfl rfl ?_ ?_ ?_
        · exact add_sub_cancel _ _
        · exact add_sub_cancel _ _
        · intro hmode
          have hcontains : contains body (surfaceFor body corrected scale) = true := by
            by_contra hnot
            simp [composed, hnot] at hmode
          simp [composed, hcontains]
      exact made hmake

/-- The body in its own window. -/
def bodyLayout (body : Rect) (corrected : CorrectedFacing) (facing : PetFacing) : PetRenderLayout where
  mode := .body
  surfaceRect := body
  bodyWindowOffset := { x := 0, y := 0 }
  resolvedBodyPosition := { x := body.x, y := body.y }
  groundCorrection := corrected.correction
  effectiveFacing := facing
  scaleMultiplier := 1
  quality := .fullScale
  scale_pos := ofNat_pos trivial

theorem fullScale_quality : qualityOf .full = .fullScale := by
  have hclose : isCloseWithin layoutScaleEpsilon Scale.full.val 1 = true := isCloseWithin_self _ 1
  rw [qualityOf, if_pos hclose]

theorem planBody_eq (body : Rect) (envelope : ProjectedActionEnvelope) (facing : PetFacing) (dpr : Rat) :
    planBody body envelope facing dpr
      = .ok (if (correctedBy envelope facing).contentBounds.y < 0 then .failure .bodyVerticalInfeasible
        else if exceedsPhysicalResources body dpr then .failure .physicalResourceLimitExceeded
        else .layout (bodyLayout body (correctedBy envelope facing) facing)) := by
  unfold planBody
  dsimp only
  split
  next => rfl
  next =>
    split
    next => rfl
    next =>
      have hmake : (bodyLayout body (correctedBy envelope facing) facing).make
          = .ok (bodyLayout body (correctedBy envelope facing) facing) :=
        make_eq full_reasonable rfl fullScale_quality.symm (add_zero _) (add_zero _) fun _ => rfl
      exact made hmake

/-- What of a surface is on the display. -/
def clippedSurface (display surface : Rect)
    (h : max display.x surface.x < min display.right surface.right
      ∧ max display.y surface.y < min display.bottom surface.bottom) : Rect where
  x := max display.x surface.x
  y := max display.y surface.y
  width := min display.right surface.right - max display.x surface.x
  height := min display.bottom surface.bottom - max display.y surface.y
  width_pos := sub_pos.mpr h.1
  height_pos := sub_pos.mpr h.2

/-- A composition on a surface that is cut off at the display. -/
def clippedLayout (body : Rect) (corrected : CorrectedFacing) (facing : PetFacing) (surface : Rect) :
    PetRenderLayout where
  mode := .overflow
  surfaceRect := surface
  bodyWindowOffset := { x := body.x - surface.x, y := body.y - surface.y }
  resolvedBodyPosition := { x := body.x, y := body.y }
  groundCorrection := corrected.correction
  effectiveFacing := facing
  scaleMultiplier := 1
  quality := .fullScale
  scale_pos := ofNat_pos trivial

/-- What a sitting pet is laid out as, within the limits. -/
def sitLayout (body : Rect) (corrected : CorrectedFacing) (facing : PetFacing) (display : Rect) :
    PetRenderLayoutResult :=
  let result := composed body corrected facing .full
  if contains display result.surfaceRect then .layout result
  else if !contains display body then .failure .sitDisplayFitInfeasible
  else if h : max display.x result.surfaceRect.x < min display.right result.surfaceRect.right
      ∧ max display.y result.surfaceRect.y < min display.bottom result.surfaceRect.bottom then
    .layout (clippedLayout body corrected facing (clippedSurface display result.surfaceRect h))
  else .failure .sitDisplayFitInfeasible

theorem planSit_eq (body : Rect) (envelope : ProjectedActionEnvelope) (facing : PetFacing) (dpr : Rat)
    (display : Rect) :
    planSit body envelope facing dpr (some display)
      = .ok (if exceedsLogicalResources (surfaceFor body (correctedBy envelope facing) .full) then
          .failure .logicalResourceLimitExceeded
        else if exceedsPhysicalResources (surfaceFor body (correctedBy envelope facing) .full) dpr then
          .failure .physicalResourceLimitExceeded
        else sitLayout body (correctedBy envelope facing) facing display) := by
  unfold planSit
  simp only [successfulLayout_eq full_reasonable, laidOut]
  split
  next => rfl
  next =>
    split
    next => rfl
    next =>
      simp only [bind, Except.bind, sitLayout]
      split
      next => rfl
      next =>
        split
        next => rfl
        next =>
          split
          next h =>
            have hmake : ∀ surface : Rect, (clippedLayout body (correctedBy envelope facing) facing surface).make
                = .ok (clippedLayout body (correctedBy envelope facing) facing surface) := fun surface =>
              make_eq full_reasonable rfl fullScale_quality.symm (add_sub_cancel _ _) (add_sub_cancel _ _)
                fun hmode => by cases hmode
            exact made (hmake (clippedSurface display _ h))
          next => rfl

/-- The planner lifts nothing. -/
theorem correctedBy_eq (envelope : ProjectedActionEnvelope) (facing : PetFacing) :
    correctedBy envelope facing
      = { contentBounds := (forFacing envelope facing).contentBounds
          bodyAnchor := (forFacing envelope facing).bodyAnchor
          correction := 0 } := by
  have hlift : ∀ needed : Rat, min (max 0 needed) 0 = 0 := fun needed => min_eq_right (le_max_left _ _)
  simp only [correctedBy, correct, hlift, translate, neg_zero, add_zero, sub_zero]

/-! ## Displacing and scaling -/

/-- Halving keeps the range below the full scale, and the content fits at its lower end, unless that is zero. -/
theorem narrowed_spec (fits : Scale → Bool) (n : Nat) (r : ScaleRange) (hle : r.low ≤ r.high) (hone : r.high ≤ 1)
    (hfits : ∀ h : 0 < r.low, fits ⟨r.low, h⟩ = true) :
    (r.narrowed fits n).low ≤ 1 ∧ ∀ h : 0 < (r.narrowed fits n).low, fits ⟨(r.narrowed fits n).low, h⟩ = true := by
  induction n generalizing r with
  | zero => exact ⟨hle.trans hone, hfits⟩
  | succ n ih =>
    have hlow : r.low ≤ r.middle.val := by
      simp only [ScaleRange.middle]
      linarith
    have hhigh : r.middle.val ≤ r.high := by
      simp only [ScaleRange.middle]
      linarith
    refine ih (r.narrow fits) ?_ ?_ ?_
    · unfold ScaleRange.narrow
      split
      next => exact hhigh
      next => exact hlow
    · unfold ScaleRange.narrow
      split
      next => exact hone
      next => exact hhigh.trans hone
    · unfold ScaleRange.narrow
      split
      next hmiddle => exact fun _ => hmiddle
      next => exact hfits

/-- A viable scale is reasonable, and the content fits at it. -/
theorem viableScale_spec {body workspace : Rect} {corrected : CorrectedFacing} {scale : Scale}
    (h : viableScale (largestFeasibleScale body corrected workspace) = some scale) :
    Reasonable scale ∧ visibleContentFits body corrected scale workspace = true := by
  have hlargest : ∀ value, largestFeasibleScale body corrected workspace = some value →
      value ≤ 1 ∧ ∀ hpos : 0 < value, visibleContentFits body corrected ⟨value, hpos⟩ workspace = true := by
    intro value hvalue
    unfold largestFeasibleScale at hvalue
    split at hvalue
    next hfull =>
      obtain rfl := Option.some.inj hvalue
      exact ⟨le_rfl, fun _ => hfull⟩
    next =>
      dsimp only at hvalue
      split at hvalue
      next => cases hvalue
      next =>
        obtain rfl := Option.some.inj hvalue
        exact narrowed_spec _ 64 _ (by norm_num) le_rfl fun hpos => absurd hpos (lt_irrefl 0)
  unfold viableScale at h
  split at h
  next => cases h
  next value hvalue =>
    split at h
    next hmin =>
      obtain rfl := Option.some.inj h
      obtain ⟨hone, hfits⟩ := hlargest value hvalue
      exact ⟨⟨hmin, hone⟩, hfits _⟩
    next => cases h

/-- The scale at which a facing is viable. -/
def scaleOf (body workspace : Rect) (envelope : ProjectedActionEnvelope) (facing : PetFacing) : Option Scale :=
  viableScale (largestFeasibleScale body (correctedBy envelope facing) workspace)

/-- The body, the facing and the scale at which the content is placed in the workspace. -/
def fullPlacement (body workspace : Rect) (envelope : ProjectedActionEnvelope) (preferredFacing : PetFacing) :
    Option (Rect × PetFacing × Scale) :=
  if visibleContentFits body (correctedBy envelope preferredFacing) .full workspace then
    some (body, preferredFacing, .full)
  else if visibleContentFits body (correctedBy envelope (alternate preferredFacing)) .full workspace then
    some (body, alternate preferredFacing, .full)
  else
    let avoidance := fun facing => horizontalAvoidance body (correctedBy envelope facing) workspace
    let selected := selectAvoidanceFacing preferredFacing (avoidance .right) (avoidance .left)
    match avoidance selected with
    | some candidate => some ({ body with x := candidate.target.x }, selected, .full)
    | none =>
      let scaleOf := scaleOf body workspace envelope
      (selectScale preferredFacing (scaleOf .right) (scaleOf .left)).map fun (selected, scale) => (body, selected, scale)

/-- A displaced body is where the content fits. -/
theorem horizontalAvoidance_fits {body workspace : Rect} {corrected : CorrectedFacing} {candidate : AvoidanceCandidate}
    (h : horizontalAvoidance body corrected workspace = some candidate) :
    visibleContentFits { body with x := candidate.target.x } corrected .full workspace = true := by
  unfold horizontalAvoidance at h
  simp only [Option.ite_none_left_eq_some, Option.some.injEq] at h
  obtain ⟨-, -, hfits, rfl⟩ := h
  simpa using hfits

/-- The selected scale is that of its facing. -/
theorem selectScale_spec {preferredFacing : PetFacing} {scaleOf : PetFacing → Option Scale} {facing : PetFacing}
    {scale : Scale} (h : selectScale preferredFacing (scaleOf .right) (scaleOf .left) = some (facing, scale)) :
    scaleOf facing = some scale := by
  unfold selectScale at h
  split at h
  next => cases h
  next hright left hleft => cases h; exact hleft
  next right hright hleft => cases h; exact hright
  next right left hright hleft =>
    dsimp only at h
    generalize (if |right.val - left.val| ≤ layoutScaleEpsilon then preferredFacing
      else if left.val < right.val then PetFacing.right else .left) = selected at h
    cases selected with
    | right => cases h; exact hright
    | left => cases h; exact hleft

/-- Content is placed beside the same foot line, at a reasonable scale, where it fits. -/
theorem fullPlacement_spec {body workspace placed : Rect} {envelope : ProjectedActionEnvelope}
    {preferredFacing facing : PetFacing} {scale : Scale}
    (h : fullPlacement body workspace envelope preferredFacing = some (placed, facing, scale)) :
    placed = { body with x := placed.x } ∧ Reasonable scale
      ∧ visibleContentFits placed (correctedBy envelope facing) scale workspace = true := by
  unfold fullPlacement at h
  split at h
  next hfits => cases h; exact ⟨rfl, full_reasonable, hfits⟩
  next =>
    split at h
    next hfits => cases h; exact ⟨rfl, full_reasonable, hfits⟩
    next =>
      dsimp only at h
      split at h
      next candidate hcandidate => cases h; exact ⟨rfl, full_reasonable, horizontalAvoidance_fits hcandidate⟩
      next =>
        obtain ⟨⟨selected, scale'⟩, hselected, hplaced⟩ := Option.map_eq_some_iff.mp h
        cases hplaced
        obtain ⟨hreasonable, hfits⟩ := viableScale_spec (@selectScale_spec _ (scaleOf body workspace envelope) _ _ hselected)
        exact ⟨rfl, hreasonable, hfits⟩

theorem planFull_eq (body workspace : Rect) (envelope : ProjectedActionEnvelope) (facing : PetFacing) (dpr : Rat) :
    planFull body workspace envelope facing dpr
      = .ok (if floorInfeasible envelope .right || floorInfeasible envelope .left then
          .failure .specialEffectFloorInfeasible
        else if exceedsLogicalResources (surfaceFor body (correctedBy envelope facing) .full) then
          .failure .logicalResourceLimitExceeded
        else match fullPlacement body workspace envelope facing with
          | none => .failure .workspaceFitInfeasible
          | some (placed, selected, scale) => laidOut placed (correctedBy envelope selected) selected scale dpr) := by
  unfold planFull
  dsimp only
  split
  next => rfl
  next =>
    split
    next => rfl
    next =>
      unfold fullPlacement
      split
      next => exact successfulLayout_eq full_reasonable _ _ _ _
      next =>
        split
        next => exact successfulLayout_eq full_reasonable _ _ _ _
        next =>
          dsimp only
          cases horizontalAvoidance body (correctedBy envelope (selectAvoidanceFacing facing
              (horizontalAvoidance body (correctedBy envelope .right) workspace)
              (horizontalAvoidance body (correctedBy envelope .left) workspace))) workspace with
          | some candidate => exact successfulLayout_eq full_reasonable _ _ _ _
          | none =>
            dsimp only [planScaled, scaleOf]
            generalize hselected : selectScale facing _ _ = selected
            cases selected with
            | none => rfl
            | some selected =>
              have hviable := @selectScale_spec _ (scaleOf body workspace envelope) _ _ hselected
              exact successfulLayout_eq (viableScale_spec hviable).1 _ _ _ _

/-! ## What a plan returns -/

/-- The compositions a plan can return: the body it places, the facing it shows and the scale it uses. -/
inductive Planned (bodyRect workspace : Rect) (envelope : ProjectedActionEnvelope) :
    RenderContainmentPolicy → PetRenderLayout → Prop where
  | body (facing : PetFacing) :
      Planned bodyRect workspace envelope .bodyPriority (bodyLayout bodyRect (correctedBy envelope facing) facing)
  | sitting (facing : PetFacing)
      (hlogical : exceedsLogicalResources (surfaceFor bodyRect (correctedBy envelope facing) .full) = false) :
      Planned bodyRect workspace envelope .sitFullSampledBounds
        (composed bodyRect (correctedBy envelope facing) facing .full)
  | clipped (facing : PetFacing) (display : Rect)
      (hlogical : exceedsLogicalResources (surfaceFor bodyRect (correctedBy envelope facing) .full) = false)
      (houtside : contains display (composed bodyRect (correctedBy envelope facing) facing .full).surfaceRect = false)
      (hbody : contains display bodyRect = true) (h) :
      Planned bodyRect workspace envelope .sitFullSampledBounds
        (clippedLayout bodyRect (correctedBy envelope facing) facing
          (clippedSurface display (composed bodyRect (correctedBy envelope facing) facing .full).surfaceRect h))
  | full (placed : Rect) (facing : PetFacing) (scale : Scale) (hplaced : placed = { bodyRect with x := placed.x })
      (hscale : Reasonable scale)
      (hfits : visibleContentFits placed (correctedBy envelope facing) scale workspace = true)
      (hlogical : exceedsLogicalResources (surfaceFor placed (correctedBy envelope facing) scale) = false) :
      Planned bodyRect workspace envelope .fullSampledBounds (composed placed (correctedBy envelope facing) facing scale)

theorem laidOut_layout {body : Rect} {corrected : CorrectedFacing} {facing : PetFacing} {scale : Scale} {dpr : Rat}
    {layout : PetRenderLayout} (h : laidOut body corrected facing scale dpr = .layout layout) :
    layout = composed body corrected facing scale
      ∧ exceedsLogicalResources (surfaceFor body corrected scale) = false := by
  unfold laidOut at h
  dsimp only at h
  split at h
  next => cases h
  next hlogical =>
    split at h
    next => cases h
    next => exact ⟨(PetRenderLayoutResult.layout.inj h).symm, by simpa using hlogical⟩

section

variable {bodyRect workspace : Rect} {envelope : ProjectedActionEnvelope} {facing : PetFacing} {dpr : Rat}
  {display : Option Rect} {layout : PetRenderLayout}

theorem plan_body_layout
    (h : planPetRenderLayout bodyRect workspace envelope facing .bodyPriority dpr display = .ok (.layout layout)) :
    layout = bodyLayout bodyRect (correctedBy envelope facing) facing := by
  unfold planPetRenderLayout at h
  split at h
  next => cases h
  next =>
    dsimp only at h
    rw [planBody_eq] at h
    have hresult := Except.ok.inj h
    split at hresult
    next => cases hresult
    next =>
      split at hresult
      next => cases hresult
      next =>
        cases hresult
        rfl

/-- A sitting pet is laid out within the limits, on a display. -/
theorem plan_sit_layout
    (h : planPetRenderLayout bodyRect workspace envelope facing .sitFullSampledBounds dpr display = .ok (.layout layout)) :
    ∃ desk, display = some desk
      ∧ exceedsLogicalResources (surfaceFor bodyRect (correctedBy envelope facing) .full) = false
      ∧ sitLayout bodyRect (correctedBy envelope facing) facing desk = .layout layout := by
  unfold planPetRenderLayout at h
  split at h
  next => cases h
  next =>
    cases display with
    | none => cases h
    | some desk =>
      dsimp only at h
      rw [planSit_eq] at h
      have hresult := Except.ok.inj h
      split at hresult
      next => cases hresult
      next hlogical =>
        split at hresult
        next => cases hresult
        next => exact ⟨desk, rfl, by simpa using hlogical, hresult⟩

/-- A full plan returns what it laid out, after its checks. -/
theorem plan_full_laidOut
    (h : planPetRenderLayout bodyRect workspace envelope facing .fullSampledBounds dpr display = .ok (.layout layout)) :
    0 < dpr ∧ (floorInfeasible envelope .right || floorInfeasible envelope .left) = false ∧
      ∃ placed selected scale, fullPlacement bodyRect workspace envelope facing = some (placed, selected, scale) ∧
        laidOut placed (correctedBy envelope selected) selected scale dpr = .layout layout := by
  unfold planPetRenderLayout at h
  split at h
  next => cases h
  next hdpr =>
    dsimp only at h
    rw [planFull_eq] at h
    have hresult := Except.ok.inj h
    split at hresult
    next => cases hresult
    next hfloor =>
      split at hresult
      next => cases hresult
      next =>
        split at hresult
        next => cases hresult
        next placed selected scale hplacement =>
          exact ⟨not_le.mp hdpr, Bool.eq_false_iff.mpr hfloor, placed, selected, scale, hplacement, hresult⟩

/-- All of the bounds are laid out where they are placed. -/
theorem plan_full_layout
    (h : planPetRenderLayout bodyRect workspace envelope facing .fullSampledBounds dpr display = .ok (.layout layout)) :
    ∃ placed selected scale, fullPlacement bodyRect workspace envelope facing = some (placed, selected, scale)
      ∧ exceedsLogicalResources (surfaceFor placed (correctedBy envelope selected) scale) = false
      ∧ layout = composed placed (correctedBy envelope selected) selected scale := by
  obtain ⟨-, -, placed, selected, scale, hplacement, hlaid⟩ := plan_full_laidOut h
  obtain ⟨rfl, hlogical⟩ := laidOut_layout hlaid
  exact ⟨placed, selected, scale, hplacement, hlogical, rfl⟩

theorem plan_planned {policy : RenderContainmentPolicy}
    (h : planPetRenderLayout bodyRect workspace envelope facing policy dpr display = .ok (.layout layout)) :
    Planned bodyRect workspace envelope policy layout := by
  cases policy with
  | bodyPriority =>
    rw [plan_body_layout h]
    exact .body facing
  | sitFullSampledBounds =>
    obtain ⟨desk, rfl, hlogical, hsit⟩ := plan_sit_layout h
    unfold sitLayout at hsit
    dsimp only at hsit
    split at hsit
    next => cases hsit; exact .sitting facing hlogical
    next houtside =>
      split at hsit
      next => cases hsit
      next hbody =>
        split at hsit
        next hpart =>
          cases hsit
          exact .clipped facing desk hlogical (by simpa using houtside) (by simpa using hbody) hpart
        next => cases hsit
  | fullSampledBounds =>
    obtain ⟨placed, selected, scale, hplacement, hlogical, rfl⟩ := plan_full_layout h
    obtain ⟨hplaced, hscale, hfits⟩ := fullPlacement_spec hplacement
    exact .full placed selected scale hplaced hscale hfits hlogical

end

end RenderLayout

end ArkClaw.Pet
