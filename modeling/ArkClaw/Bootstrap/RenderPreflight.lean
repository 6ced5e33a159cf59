import ArkClaw.Pet.RenderLayoutLaws
import ArkClaw.Presentation.Spine38Renderer

/-!
# Preflight of a render profile

Before a role pack is published, each of its sampled actions is planned once, in a workspace of its own, and a pack whose
plan fails for a static reason is refused. `Agreeable` says for which profiles this refuses exactly what would fail at
run time: the preflight plans every action but the special one as if it were drawn in the body's window, and it plans
at one position of the body only, so that the rounding of a surface is seen for that position alone.
-/

namespace ArkClaw.Pet

/-- The value of a reason. -/
def PetRenderLayoutFailureReason.value : PetRenderLayoutFailureReason → String
  | .bodyVerticalInfeasible => "body_vertical_infeasible"
  | .specialEffectFloorInfeasible => "special_effect_floor_infeasible"
  | .logicalResourceLimitExceeded => "logical_resource_limit_exceeded"
  | .invalidDpr => "invalid_dpr"
  | .physicalResourceLimitExceeded => "physical_resource_limit_exceeded"
  | .workspaceFitInfeasible => "workspace_fit_infeasible"
  | .sitDisplayGeometryRequired => "sit_display_geometry_required"
  | .sitDisplayFitInfeasible => "sit_display_fit_infeasible"

end ArkClaw.Pet

namespace ArkClaw.Bootstrap

open ArkClaw.Pet
open ArkClaw.Pet.RenderLayout
open ArkClaw.Presentation (Spine38PetRenderer)

namespace RenderPreflight

/-! ## The preflight -/

/-- The reasons that a candidate is refused for. -/
def staticFailures : List PetRenderLayoutFailureReason :=
  [.bodyVerticalInfeasible, .specialEffectFloorInfeasible, .logicalResourceLimitExceeded]

def preflightTransform (profile : RolePackRenderProfile) (framing : RolePackFraming) : PetBodyTransform :=
  let targetHeight := 162 * framing.scale
  let scale := targetHeight / profile.bodyBounds.height
  let centerX := profile.bodyBounds.x + profile.bodyBounds.width / 2
  { scale
    originX := 80 - centerX * scale + framing.xOffset
    originY := framing.footBaseline + profile.bodyBounds.y * scale
    mirrorAxisX := 80
    scale_pos := div_pos (mul_pos (by norm_num) framing.scale_pos) profile.bodyBounds.height_pos }

def bodyAt (x y : Rat) : Rect := { x, y, width := 160, height := 180, width_pos := ofNat_pos trivial, height_pos := ofNat_pos trivial }

def preflightWorkspace : Rect :=
  { x := -2048, y := -2048, width := 4096, height := 4096, width_pos := ofNat_pos trivial, height_pos := ofNat_pos trivial }

def preflightPolicy (action : PetRendererAction) : RenderContainmentPolicy :=
  if action = .special then .fullSampledBounds else .bodyPriority

/-- Plan one sampled action and raise on a static failure. -/
def preflightAction (transform : PetBodyTransform) (entry : PetRendererAction × Spine38Bounds) : Except PetError Unit := do
  let envelope := projectActionEnvelope entry.2 transform
  match ← planPetRenderLayout (bodyAt 0 0) preflightWorkspace envelope .right (preflightPolicy entry.1) 1 none with
  | .layout _ => return ()
  | .failure reason => if reason ∈ staticFailures then throw (.value reason.value)

/-- Reject only candidate-static layout failures before publication. -/
def preflightRenderProfile (profile : RolePackRenderProfile) (framing : RolePackFraming) : Except PetError Unit :=
  profile.sampledActionBounds.forM (preflightAction (preflightTransform profile framing))

/-- No plan of the renderer fails for a static reason, whatever is asked of it and wherever the body is. -/
def NeverStatic (profile : RolePackRenderProfile) (transform : Spine38ViewportTransform) : Prop :=
  ∀ (r : Spine38PetRenderer) (body workspace : Rect) (dpr : Rat) (display : Option Rect)
    (reason : PetRenderLayoutFailureReason),
    r.renderProfile = some profile → r.bodyTransform = some transform → body.width = 160 → body.height = 180 →
    r.planLayout body workspace dpr display = .ok (.failure reason) → reason ∉ staticFailures

/-! ## What is wrong with sampled bounds -/

section

variable (transform : PetBodyTransform) (sampled : Spine38Bounds)

/-- The content in the body's window, facing right. -/
def contentOf : Rect := (projectActionEnvelope sampled transform).right.contentBounds

/-- The content reaches over the top of the body's window. -/
def CutAbove : Prop := (contentOf transform sampled).y < 0

/-- The content reaches further below the body than it may. -/
def SinksBelow : Prop := maxSpecialEffectFloorLift + layoutScaleEpsilon < (contentOf transform sampled).bottom - bodyHeight

/-- At some position of the body the padded content, rounded outward, has more than 1024 pixels on a side. -/
def TooLarge : Prop := 1019 < (contentOf transform sampled).width ∨ 1019 < (contentOf transform sampled).height

instance : Decidable (CutAbove transform sampled) := inferInstanceAs (Decidable (_ < _))

instance : Decidable (SinksBelow transform sampled) := inferInstanceAs (Decidable (_ < _))

instance : Decidable (TooLarge transform sampled) := inferInstanceAs (Decidable (_ ∨ _))

/-- The surface is too large at the one position the preflight looks at, or at the scale that makes the content fit
there. -/
def LargeAtPreflight : Prop :=
  let envelope := projectActionEnvelope sampled transform
  exceedsLogicalResources (surfaceFor (bodyAt 0 0) (correctedBy envelope .right) .full) = true
    ∨ ∃ placed facing scale, fullPlacement (bodyAt 0 0) preflightWorkspace envelope .right = some (placed, facing, scale)
      ∧ exceedsLogicalResources (surfaceFor placed (correctedBy envelope facing) scale) = true

end

/-- The profiles that the preflight and the renderer judge alike: both reject an action that is cut above, and a special
action that sinks below the body or is too large for the preflight; otherwise the preflight refuses the profile for a
sitting action that is cut above, and the renderer for bounds that are too large, or for the fallback of a special
action that sinks below the body. -/
def Agreeable (profile : RolePackRenderProfile) (transform : PetBodyTransform) : Prop :=
  let shown (action : PetRendererAction) := profile.boundsOf action <|> profile.boundsOf .idle
  (∃ action, action ≠ .sitting ∧ action ≠ .special ∧ ∃ sampled, profile.boundsOf action = some sampled ∧ CutAbove transform sampled)
    ∨ (∃ sampled, profile.boundsOf .special = some sampled
      ∧ (SinksBelow transform sampled ∨ LargeAtPreflight transform sampled))
    ∨ ((∃ sampled, profile.boundsOf .sitting = some sampled ∧ CutAbove transform sampled)
      ↔ (∃ sampled, shown .sitting = some sampled ∧ TooLarge transform sampled)
        ∨ ∃ sampled, shown .special = some sampled ∧ (SinksBelow transform sampled ∨ TooLarge transform sampled))

/-! ## Sizes of surfaces -/

/-- Rounded outward, a padded side grows by less than two pixels more. -/
theorem rounded_le {start side : Rat} (h : side ≤ 1019) :
    (⌈start + side + clippingPadding⌉ : Int) - ⌊start - clippingPadding⌋ ≤ 1024 := by
  have hright := Int.ceil_lt_add_one (start + side + clippingPadding)
  have hleft := Int.sub_one_lt_floor (start - clippingPadding)
  have hlt : ((⌈start + side + clippingPadding⌉ - ⌊start - clippingPadding⌋ : Int) : Rat) < 1025 := by
    push_cast
    simp only [clippingPadding] at hright hleft ⊢
    linarith
  have : ⌈start + side + clippingPadding⌉ - ⌊start - clippingPadding⌋ < (1025 : Int) := by exact_mod_cast hlt
  omega

/-- A longer side grows past the limit, if it starts close enough below a whole pixel. -/
theorem lt_rounded {side : Rat} (h : 1019 < side) : ∃ shift : Rat, ∀ start : Rat, start = -shift →
      (1024 : Int) < ⌈start + side + clippingPadding⌉ - ⌊start - clippingPadding⌋ := by
  let shift := min (1 / 2) ((side - 1019) / 2)
  refine ⟨shift, ?_⟩
  rintro start rfl
  have hpos : 0 < shift := lt_min (by norm_num) (by linarith)
  have hslack : shift ≤ (side - 1019) / 2 := min_le_right _ _
  have hleft : ⌊-shift - clippingPadding⌋ < -2 := by
    rw [Int.floor_lt]
    push_cast
    simp only [clippingPadding]
    linarith
  have hright : 1021 < ⌈-shift + side + clippingPadding⌉ := by
    rw [Int.lt_ceil]
    push_cast
    simp only [clippingPadding]
    linarith
  omega

/-- A surface is too large as soon as one side of it is. -/
theorem exceedsLogical_eq_false {surface : Rect} (hwidth : surface.width ≤ 1024) (hheight : surface.height ≤ 1024) :
    exceedsLogicalResources surface = false := by
  have harea : surface.width * surface.height ≤ 1024 * 1024 :=
    mul_le_mul hwidth hheight surface.height_pos.le (by norm_num)
  apply decide_eq_false
  rw [not_or, not_or, not_lt, not_lt, not_lt]
  exact ⟨hwidth, hheight, harea.trans (by norm_num [maxLogicalArea])⟩

theorem exceedsLogical_of_side {surface : Rect} (h : 1024 < surface.width ∨ 1024 < surface.height) :
    exceedsLogicalResources surface = true := by
  apply decide_eq_true
  rcases h with h | h
  · exact .inl h
  · exact .inr (.inl h)

section

variable {transform : PetBodyTransform} {sampled : Spine38Bounds}

/-- Both facings show the content at the same height and in the same size. -/
theorem corrected_shape (facing : PetFacing) :
    let content := (correctedBy (projectActionEnvelope sampled transform) facing).contentBounds
    content.y = (contentOf transform sampled).y ∧ content.width = (contentOf transform sampled).width
      ∧ content.height = (contentOf transform sampled).height := by
  rw [correctedBy_eq]
  cases facing <;> exact ⟨rfl, rfl, rfl⟩

theorem floorInfeasible_iff (facing : PetFacing) :
    floorInfeasible (projectActionEnvelope sampled transform) facing = true ↔ SinksBelow transform sampled := by
  have hbottom : (forFacing (projectActionEnvelope sampled transform) facing).contentBounds.bottom
      = (contentOf transform sampled).bottom := by
    cases facing <;> rfl
  have hmin : (0 : Rat) ≤ maxSpecialEffectFloorLift + layoutScaleEpsilon := by
    norm_num [maxSpecialEffectFloorLift, layoutScaleEpsilon]
  simp only [floorInfeasible, decide_eq_true_eq, SinksBelow, hbottom, lt_max_iff, hmin.not_gt, false_or]

/-- Scaling the content scales its size. -/
theorem scaled_size (body : Rect) (corrected : CorrectedFacing) (scale : Scale) :
    (desktopScaledContent body corrected scale).width = scale.val * corrected.contentBounds.width
      ∧ (desktopScaledContent body corrected scale).height = scale.val * corrected.contentBounds.height := by
  simp only [desktopScaledContent, RenderLayout.translate, Rect.right, Rect.bottom]
  constructor <;> ring

/-- Content that is not too large has no surface that is, at no position, facing or scale. -/
theorem surface_within (h : ¬TooLarge transform sampled) (body : Rect) (facing : PetFacing) {scale : Scale}
    (hscale : scale.val ≤ 1) :
    exceedsLogicalResources (surfaceFor body (correctedBy (projectActionEnvelope sampled transform) facing) scale)
      = false := by
  simp only [TooLarge, not_or, not_lt] at h
  obtain ⟨-, hwidth, hheight⟩ := @corrected_shape transform sampled facing
  obtain ⟨hw, hh⟩ := scaled_size body (correctedBy (projectActionEnvelope sampled transform) facing) scale
  rw [hwidth] at hw
  rw [hheight] at hh
  have hshrinks : ∀ {side : Rat}, 0 < side → scale.val * side ≤ side := fun hside =>
    mul_le_of_le_one_left hside.le hscale
  have hw' := hshrinks (contentOf transform sampled).width_pos
  have hh' := hshrinks (contentOf transform sampled).height_pos
  apply exceedsLogical_eq_false
  · simp only [surfaceFor, Rect.right]
    exact_mod_cast rounded_le (hw.le.trans (hw'.trans h.1))
  · simp only [surfaceFor, Rect.bottom]
    exact_mod_cast rounded_le (hh.le.trans (hh'.trans h.2))

/-- Content that is too large has such a surface, at some position of the body. -/
theorem surface_exceeds (h : TooLarge transform sampled) (facing : PetFacing) : ∃ x y, exceedsLogicalResources
      (surfaceFor (bodyAt x y) (correctedBy (projectActionEnvelope sampled transform) facing) .full) = true := by
  obtain ⟨-, hwidth, hheight⟩ := @corrected_shape transform sampled facing
  generalize correctedBy (projectActionEnvelope sampled transform) facing = corrected at hwidth hheight ⊢
  -- at the full scale the content is where the body and its place in the window put it
  have hplace : ∀ x y, (desktopScaledContent (bodyAt x y) corrected .full).x = x + corrected.contentBounds.x
      ∧ (desktopScaledContent (bodyAt x y) corrected .full).y = y + corrected.contentBounds.y := by
    intro x y
    simp only [desktopScaledContent, RenderLayout.translate, Scale.full, bodyAt]
    constructor <;> ring
  have hsize : ∀ x y, (desktopScaledContent (bodyAt x y) corrected .full).width = corrected.contentBounds.width
      ∧ (desktopScaledContent (bodyAt x y) corrected .full).height = corrected.contentBounds.height := by
    intro x y
    obtain ⟨hw, hh⟩ := scaled_size (bodyAt x y) corrected .full
    exact ⟨hw.trans (one_mul _), hh.trans (one_mul _)⟩
  rcases h with h | h
  · obtain ⟨shift, hshift⟩ := lt_rounded (hwidth ▸ h)
    refine ⟨-shift - corrected.contentBounds.x, 0, exceedsLogical_of_side (.inl ?_)⟩
    have hx := (hplace (-shift - corrected.contentBounds.x) 0).1
    simp only [surfaceFor, Rect.right]
    rw [(hsize _ _).1]
    exact_mod_cast hshift _ (hx.trans (by ring))
  · obtain ⟨shift, hshift⟩ := lt_rounded (hheight ▸ h)
    refine ⟨0, -shift - corrected.contentBounds.y, exceedsLogical_of_side (.inr ?_)⟩
    have hy := (hplace 0 (-shift - corrected.contentBounds.y)).2
    simp only [surfaceFor, Rect.bottom]
    rw [(hsize _ _).2]
    exact_mod_cast hshift _ (hy.trans (by ring))

/-- What is too large for the preflight is too large at some position. -/
theorem largeAtPreflight_large (h : LargeAtPreflight transform sampled) : TooLarge transform sampled := by
  by_contra hsmall
  rcases h with h | ⟨placed, facing, scale, hplacement, h⟩
  · rw [surface_within hsmall _ _ le_rfl] at h
    cases h
  · obtain ⟨-, hreasonable, -⟩ := fullPlacement_spec hplacement
    rw [surface_within hsmall _ _ hreasonable.2] at h
    cases h

end

/-! ## Plans that fail for a static reason -/

/-- A plan fails for a static reason. -/
def StaticFailure (result : Except PetError PetRenderLayoutResult) : Prop :=
  ∃ reason ∈ staticFailures, result = .ok (.failure reason)

theorem staticFailure_failure {reason : PetRenderLayoutFailureReason} :
    StaticFailure (.ok (.failure reason)) ↔ reason ∈ staticFailures := by
  constructor
  · rintro ⟨reason', hstatic, heq⟩
    cases heq
    exact hstatic
  · exact fun hstatic => ⟨reason, hstatic, rfl⟩

theorem not_staticFailure {reason : PetRenderLayoutFailureReason} (h : reason ∉ staticFailures) :
    ¬StaticFailure (.ok (.failure reason)) := fun hstatic => h (staticFailure_failure.mp hstatic)

theorem not_staticFailure_layout {layout : PetRenderLayout} : ¬StaticFailure (.ok (.layout layout)) := by
  rintro ⟨reason, -, heq⟩
  cases heq

section

variable {transform : PetBodyTransform} {sampled : Spine38Bounds} {body workspace : Rect} {dpr : Rat}

/-- A ratio that is none fails no plan for a static reason. -/
theorem plan_dpr_pos {envelope : ProjectedActionEnvelope} {facing : PetFacing} {policy : RenderContainmentPolicy}
    {display : Option Rect}
    (h : StaticFailure (planPetRenderLayout body workspace envelope facing policy dpr display)) : 0 < dpr := by
  by_contra hdpr
  simp only [planPetRenderLayout, if_pos (not_lt.mp hdpr)] at h
  exact not_staticFailure (by decide) h

theorem planBody_static (hdpr : 0 < dpr) (facing : PetFacing) (display : Option Rect) :
    StaticFailure (planPetRenderLayout body workspace (projectActionEnvelope sampled transform) facing .bodyPriority dpr
      display) ↔ CutAbove transform sampled := by
  obtain ⟨htop, -, -⟩ := @corrected_shape transform sampled facing
  simp only [planPetRenderLayout, if_neg hdpr.not_ge, planBody_eq, htop]
  split
  next hcut => exact ⟨fun _ => hcut, fun _ => staticFailure_failure.mpr (by decide)⟩
  next hwhole =>
    refine ⟨fun h => ?_, fun hcut => absurd hcut hwhole⟩
    split at h
    next => exact absurd h (not_staticFailure (by decide))
    next => exact absurd h not_staticFailure_layout

theorem planSit_static (hdpr : 0 < dpr) (facing : PetFacing) (display : Rect) :
    StaticFailure (planPetRenderLayout body workspace (projectActionEnvelope sampled transform) facing
      .sitFullSampledBounds dpr (some display))
      ↔ exceedsLogicalResources
        (surfaceFor body (correctedBy (projectActionEnvelope sampled transform) facing) .full) = true := by
  simp only [planPetRenderLayout, if_neg hdpr.not_ge, planSit_eq]
  split
  next hlarge => exact ⟨fun _ => hlarge, fun _ => staticFailure_failure.mpr (by decide)⟩
  next hsmall =>
    refine ⟨fun h => ?_, fun hlarge => absurd hlarge hsmall⟩
    split at h
    next => exact absurd h (not_staticFailure (by decide))
    next =>
      unfold sitLayout at h
      dsimp only at h
      split at h
      next => exact absurd h not_staticFailure_layout
      next =>
        split at h
        next => exact absurd h (not_staticFailure (by decide))
        next =>
          split at h
          next => exact absurd h not_staticFailure_layout
          next => exact absurd h (not_staticFailure (by decide))

theorem laidOut_static {corrected : CorrectedFacing} {facing : PetFacing} {scale : Scale} :
    StaticFailure (.ok (laidOut body corrected facing scale dpr))
      ↔ exceedsLogicalResources (surfaceFor body corrected scale) = true := by
  unfold laidOut
  dsimp only
  split
  next hlarge => exact ⟨fun _ => hlarge, fun _ => staticFailure_failure.mpr (by decide)⟩
  next hsmall =>
    refine ⟨fun h => ?_, fun hlarge => absurd hlarge hsmall⟩
    split at h
    next => exact absurd h (not_staticFailure (by decide))
    next => exact absurd h not_staticFailure_layout

theorem planFull_static (hdpr : 0 < dpr) (facing : PetFacing) (display : Option Rect) :
    let envelope := projectActionEnvelope sampled transform
    StaticFailure (planPetRenderLayout body workspace envelope facing .fullSampledBounds dpr display)
      ↔ SinksBelow transform sampled
        ∨ exceedsLogicalResources (surfaceFor body (correctedBy envelope facing) .full) = true
        ∨ ∃ placed selected scale, fullPlacement body workspace envelope facing = some (placed, selected, scale)
          ∧ exceedsLogicalResources (surfaceFor placed (correctedBy envelope selected) scale) = true := by
  intro envelope
  simp only [planPetRenderLayout, if_neg hdpr.not_ge, planFull_eq]
  split
  next hfloor =>
    have hsinks : SinksBelow transform sampled := by
      rcases Bool.or_eq_true_iff.mp hfloor with h | h
      · exact (floorInfeasible_iff _).mp h
      · exact (floorInfeasible_iff _).mp h
    exact ⟨fun _ => .inl hsinks, fun _ => staticFailure_failure.mpr (by decide)⟩
  next hfloor =>
    have hsinks : ¬SinksBelow transform sampled := fun h =>
      hfloor (Bool.or_eq_true_iff.mpr (.inl ((floorInfeasible_iff _).mpr h)))
    split
    next hlarge => exact ⟨fun _ => .inr (.inl hlarge), fun _ => staticFailure_failure.mpr (by decide)⟩
    next hsmall =>
      cases hplacement : fullPlacement body workspace envelope facing with
      | none =>
        constructor
        · exact fun h => absurd h (not_staticFailure (by decide))
        · rintro (h | h | ⟨_, _, _, h, _⟩)
          · exact absurd h hsinks
          · exact absurd h hsmall
          · cases h
      | some placement =>
        obtain ⟨placed, selected, scale⟩ := placement
        constructor
        · exact fun h => .inr (.inr ⟨placed, selected, scale, rfl, laidOut_static.mp h⟩)
        · rintro (h | h | ⟨_, _, _, h, hlarge⟩)
          · exact absurd h hsinks
          · exact absurd h hsmall
          · cases h
            exact laidOut_static.mpr hlarge

/-! ## What the preflight refuses -/

/-- What the preflight refuses an action for. -/
def Refused (transform : PetBodyTransform) (action : PetRendererAction) (sampled : Spine38Bounds) : Prop :=
  if action = .special then SinksBelow transform sampled ∨ LargeAtPreflight transform sampled
  else CutAbove transform sampled

theorem preflightAction_ok (action : PetRendererAction) :
    preflightAction transform (action, sampled) = .ok () ↔ ¬Refused transform action sampled := by
  have hplan : StaticFailure (planPetRenderLayout (bodyAt 0 0) preflightWorkspace
      (projectActionEnvelope sampled transform) .right (preflightPolicy action) 1 none)
      ↔ Refused transform action sampled := by
    unfold Refused preflightPolicy
    split
    next => exact planFull_static one_pos .right none
    next => exact planBody_static one_pos .right none
  have hraises : ∀ error, planPetRenderLayout (bodyAt 0 0) preflightWorkspace (projectActionEnvelope sampled transform)
      .right (preflightPolicy action) 1 none ≠ .error error := by
    intro error
    unfold preflightPolicy
    have hdpr : ¬(1 : Rat) ≤ 0 := by norm_num
    split
    next => simp only [planPetRenderLayout, if_neg hdpr, planFull_eq, ne_eq, reduceCtorEq, not_false_eq_true]
    next => simp only [planPetRenderLayout, if_neg hdpr, planBody_eq, ne_eq, reduceCtorEq, not_false_eq_true]
  rw [← hplan]
  simp only [preflightAction, bind, Except.bind]
  split
  next error herror => exact absurd herror (hraises error)
  next result hresult =>
    rw [hresult]
    cases result with
    | layout layout => exact ⟨fun _ => not_staticFailure_layout, fun _ => rfl⟩
    | failure reason =>
      dsimp only
      split
      next hstatic => exact ⟨nofun, fun h => absurd (staticFailure_failure.mpr hstatic) h⟩
      next hother => exact ⟨fun _ => not_staticFailure hother, fun _ => rfl⟩

end

/-- What the profile has sampled for an action is one of its entries. -/
theorem boundsOf_eq_some {profile : RolePackRenderProfile} {action : PetRendererAction} {sampled : Spine38Bounds} :
    profile.boundsOf action = some sampled ↔ (action, sampled) ∈ profile.sampledActionBounds := by
  have hfind : ∀ {entries : List (PetRendererAction × Spine38Bounds)}, (entries.map Prod.fst).Nodup →
      ((entries.find? fun entry => decide (entry.1 = action)).map Prod.snd = some sampled
        ↔ (action, sampled) ∈ entries) := by
    intro entries
    induction entries with
    | nil => simp
    | cons entry rest ih =>
      intro hnodup
      rw [List.map_cons, List.nodup_cons] at hnodup
      by_cases hentry : entry.1 = action
      · subst hentry
        have habsent : (entry.1, sampled) ∉ rest := fun hmem => hnodup.1 (List.mem_map.mpr ⟨_, hmem, rfl⟩)
        simp [habsent, Prod.ext_iff, eq_comm]
      · have hne : (action, sampled) ≠ entry := fun h => hentry (by rw [← h])
        simp [hentry, hne, ih hnodup.2]
  exact hfind profile.actions_nodup

theorem preflight_ok (profile : RolePackRenderProfile) (framing : RolePackFraming) :
    preflightRenderProfile profile framing = .ok ()
      ↔ ∀ action sampled, profile.boundsOf action = some sampled →
        ¬Refused (preflightTransform profile framing) action sampled := by
  have hforM : ∀ (transform : PetBodyTransform) (entries : List (PetRendererAction × Spine38Bounds)),
      entries.forM (preflightAction transform) = .ok ()
        ↔ ∀ action sampled, (action, sampled) ∈ entries → ¬Refused transform action sampled := by
    intro transform entries
    induction entries with
    | nil => exact ⟨fun _ _ _ h => absurd h List.not_mem_nil, fun _ => rfl⟩
    | cons entry rest ih =>
      obtain ⟨action, sampled⟩ := entry
      have hcons : ((action, sampled) :: rest).forM (preflightAction transform)
          = (preflightAction transform (action, sampled) >>= fun _ => rest.forM (preflightAction transform)) := rfl
      simp only [hcons, bind, Except.bind, List.mem_cons]
      split
      next error herror =>
        refine ⟨nofun, fun h => ?_⟩
        rw [(preflightAction_ok action).mpr (h action sampled (.inl rfl))] at herror
        cases herror
      next hok =>
        rw [ih]
        constructor
        · rintro h action' sampled' (heq | hmem)
          · cases heq
            exact (preflightAction_ok action).mp hok
          · exact h action' sampled' hmem
        · exact fun h action' sampled' hmem => h action' sampled' (.inr hmem)
  simp only [boundsOf_eq_some]
  exact hforM _ _

/-! ## What the renderer fails for -/

/-- What some plan of an action fails for. -/
def Strained (transform : PetBodyTransform) (action : PetRendererAction) (sampled : Spine38Bounds) : Prop :=
  if action = .sitting then TooLarge transform sampled
  else if action = .special then SinksBelow transform sampled ∨ TooLarge transform sampled
  else CutAbove transform sampled

section

variable {transform : PetBodyTransform} {sampled : Spine38Bounds} {action : PetRendererAction}

instance : Decidable (Strained transform action sampled) := inferInstanceAs (Decidable (ite _ _ _))

/-- A static failure of a plan is one of the sampled bounds. -/
theorem strained_of_plan {body workspace : Rect} {facing : PetFacing} {dpr : Rat} {display : Option Rect}
    (h : StaticFailure (planPetRenderLayout body workspace (projectActionEnvelope sampled transform) facing
      (Spine38PetRenderer.policyFor action) dpr display)) : Strained transform action sampled := by
  have hdpr := plan_dpr_pos h
  unfold Strained
  unfold Spine38PetRenderer.policyFor at h
  split at h
  next hsitting =>
    rw [if_pos hsitting]
    cases display with
    | none =>
      simp only [planPetRenderLayout, if_neg hdpr.not_ge, planSit] at h
      exact absurd h (not_staticFailure (by decide))
    | some display =>
      by_contra hsmall
      rw [planSit_static hdpr, surface_within hsmall _ _ le_rfl] at h
      cases h
  next hstands =>
    rw [if_neg hstands]
    split at h
    next hspecial =>
      rw [if_pos hspecial]
      rcases (planFull_static hdpr facing display).mp h with h | h | ⟨placed, selected, scale, hplacement, h⟩
      · exact .inl h
      · by_contra hsmall
        rw [surface_within (fun hlarge => hsmall (.inr hlarge)) _ _ le_rfl] at h
        cases h
      · by_contra hsmall
        obtain ⟨-, hreasonable, -⟩ := fullPlacement_spec hplacement
        rw [surface_within (fun hlarge => hsmall (.inr hlarge)) _ _ hreasonable.2] at h
        cases h
    next hplain =>
      rw [if_neg hplain]
      exact (planBody_static hdpr facing display).mp h

/-- Strained bounds fail a plan at some position of the body. -/
theorem plan_of_strained (h : Strained transform action sampled) :
    ∃ x y, StaticFailure (planPetRenderLayout (bodyAt x y) preflightWorkspace (projectActionEnvelope sampled transform)
      .right (Spine38PetRenderer.policyFor action) 1 (some preflightWorkspace)) := by
  unfold Strained at h
  unfold Spine38PetRenderer.policyFor
  split at h
  next hsitting =>
    rw [if_pos hsitting]
    obtain ⟨x, y, hlarge⟩ := surface_exceeds h .right
    exact ⟨x, y, (planSit_static one_pos .right preflightWorkspace).mpr hlarge⟩
  next hstands =>
    rw [if_neg hstands]
    split at h
    next hspecial =>
      rw [if_pos hspecial]
      rcases h with h | h
      · exact ⟨0, 0, (planFull_static one_pos .right _).mpr (.inl h)⟩
      · obtain ⟨x, y, hlarge⟩ := surface_exceeds h .right
        exact ⟨x, y, (planFull_static one_pos .right _).mpr (.inr (.inl hlarge))⟩
    next hplain =>
      rw [if_neg hplain]
      exact ⟨0, 0, (planBody_static one_pos .right _).mpr h⟩

end

/-- The bounds an action is planned with. -/
def shownBounds (profile : RolePackRenderProfile) (action : PetRendererAction) : Option Spine38Bounds :=
  profile.boundsOf action <|> profile.boundsOf .idle

/-- A renderer that has been asked for an action. -/
def showing (profile : RolePackRenderProfile) (framing : RolePackFraming) (transform : Spine38ViewportTransform)
    (action : PetRendererAction) : Spine38PetRenderer where
  framing
  renderProfile := some profile
  request := { action, facing := .right, loop := true }
  bodyTransform := some transform

theorem neverStatic_iff (profile : RolePackRenderProfile) (framing : RolePackFraming)
    (transform : Spine38ViewportTransform) : NeverStatic profile transform
      ↔ ∀ action sampled, shownBounds profile action = some sampled →
        ¬Strained (Spine38PetRenderer.bodyTransformFor transform) action sampled := by
  constructor
  · intro hnever action sampled hshown hstrained
    obtain ⟨x, y, reason, hstatic, hplan⟩ := plan_of_strained hstrained
    have hresult : (showing profile framing transform action).planLayout (bodyAt x y) preflightWorkspace 1
        (some preflightWorkspace) = .ok (.failure reason) := by
      unfold shownBounds at hshown
      simp only [Spine38PetRenderer.planLayout, showing, Bool.false_eq_true, if_false, hshown, hplan]
    exact hnever (showing profile framing transform action) _ _ _ _ reason rfl rfl rfl rfl hresult hstatic
  · intro hshown r body workspace dpr display reason hprofile htransform _ _ hplan hstatic
    simp only [Spine38PetRenderer.planLayout, hprofile, htransform] at hplan
    split at hplan
    next => cases hplan
    next =>
      split at hplan
      next => cases hplan
      next sampled hsampled =>
        split at hplan
        next result hresult =>
          cases hplan
          exact hshown _ sampled hsampled (strained_of_plan ⟨reason, hstatic, hresult⟩)
        next => cases hplan

/-! ## Agreement -/

/-- The preflight projects as the renderer does. -/
theorem preflightTransform_eq {profile : RolePackRenderProfile} {framing : RolePackFraming}
    {transform : Spine38ViewportTransform}
    (h : Spine38PetRenderer.fixedTransform framing profile.bodyBounds Presentation.Spine38.viewport = .ok transform) :
    preflightTransform profile framing = Spine38PetRenderer.bodyTransformFor transform := by
  unfold Spine38PetRenderer.fixedTransform at h
  split at h
  next => cases h
  next =>
    dsimp only at h
    split at h
    next => cases h
    next =>
      split at h
      next => cases h
      next =>
        cases h
        simp only [preflightTransform, Spine38PetRenderer.bodyTransformFor, Presentation.Spine38.bodyTargetHeight,
          Presentation.Spine38.viewport, PetBodyTransform.mk.injEq]
        norm_num

/-- Two judges that share a reason to refuse, and whose other reasons are `refused` and `strained`, agree if the shared
reason is given, or one of the first that is one of the second too, or if both or neither have another. -/
theorem refusals_agree {shared refused own strained : Prop} (h : refused → strained) :
    (¬(shared ∨ refused ∨ own) ↔ ¬(shared ∨ strained)) ↔ shared ∨ refused ∨ (own ↔ strained) := by
  by_cases hshared : shared <;> by_cases hstrained : strained <;> by_cases hrefused : refused <;> simp_all

/-- The preflight accepts a profile exactly if no plan of the renderer fails for a static reason, for the agreeable
profiles and for no others. -/
theorem preflight_agrees_iff {profile : RolePackRenderProfile} {framing : RolePackFraming}
    {transform : Spine38ViewportTransform}
    (hfixed : Spine38PetRenderer.fixedTransform framing profile.bodyBounds Presentation.Spine38.viewport = .ok transform) :
    (preflightRenderProfile profile framing = .ok () ↔ NeverStatic profile transform)
      ↔ Agreeable profile (preflightTransform profile framing) := by
  rw [preflight_ok, neverStatic_iff profile framing, ← preflightTransform_eq hfixed]
  generalize preflightTransform profile framing = body
  -- the reasons that the preflight and the renderer share, and those that one of them has alone
  let plainCut := ∃ action, action ≠ .sitting ∧ action ≠ .special
    ∧ ∃ sampled, profile.boundsOf action = some sampled ∧ CutAbove body sampled
  let specialRefused := ∃ sampled, profile.boundsOf .special = some sampled
    ∧ (SinksBelow body sampled ∨ LargeAtPreflight body sampled)
  let sittingCut := ∃ sampled, profile.boundsOf .sitting = some sampled ∧ CutAbove body sampled
  let strained := (∃ sampled, shownBounds profile .sitting = some sampled ∧ TooLarge body sampled)
    ∨ ∃ sampled, shownBounds profile .special = some sampled ∧ (SinksBelow body sampled ∨ TooLarge body sampled)
  have hrefused : (∀ action sampled, profile.boundsOf action = some sampled → ¬Refused body action sampled)
      ↔ ¬(plainCut ∨ specialRefused ∨ sittingCut) := by
    constructor
    · rintro h (⟨action, hsitting, hspecial, sampled, hbounds, hcut⟩ | ⟨sampled, hbounds, hbad⟩ | ⟨sampled, hbounds, hcut⟩)
      · exact h action sampled hbounds (by rwa [Refused, if_neg hspecial])
      · exact h .special sampled hbounds (by rwa [Refused, if_pos rfl])
      · exact h .sitting sampled hbounds (by rwa [Refused, if_neg (by decide)])
    · intro h action sampled hbounds hbad
      unfold Refused at hbad
      split at hbad
      next hspecial => exact h (.inr (.inl ⟨sampled, hspecial ▸ hbounds, hbad⟩))
      next hspecial =>
        by_cases hsitting : action = .sitting
        · exact h (.inr (.inr ⟨sampled, hsitting ▸ hbounds, hbad⟩))
        · exact h (.inl ⟨action, hsitting, hspecial, sampled, hbounds, hbad⟩)
  have hrecorded : ∀ {action sampled}, profile.boundsOf action = some sampled → shownBounds profile action = some sampled :=
    fun h => by rw [shownBounds, h]; rfl
  have hstrained : (∀ action sampled, shownBounds profile action = some sampled → ¬Strained body action sampled)
      ↔ ¬(plainCut ∨ strained) := by
    constructor
    · rintro h (⟨action, hsitting, hspecial, sampled, hbounds, hcut⟩ | ⟨sampled, hshown, hbad⟩ | ⟨sampled, hshown, hbad⟩)
      · exact h action sampled (hrecorded hbounds) (by rwa [Strained, if_neg hsitting, if_neg hspecial])
      · exact h .sitting sampled hshown (by rwa [Strained, if_pos rfl])
      · exact h .special sampled hshown (by rwa [Strained, if_neg (by decide), if_pos rfl])
    · intro h action sampled hshown hbad
      unfold Strained at hbad
      split at hbad
      next hsitting => exact h (.inr (.inl ⟨sampled, hsitting ▸ hshown, hbad⟩))
      next hsitting =>
        split at hbad
        next hspecial => exact h (.inr (.inr ⟨sampled, hspecial ▸ hshown, hbad⟩))
        next hspecial =>
          -- an action that was not sampled is cut above with the idle one
          cases hbounds : profile.boundsOf action with
          | some recorded =>
            rw [hrecorded hbounds] at hshown
            cases hshown
            exact h (.inl ⟨action, hsitting, hspecial, sampled, hbounds, hbad⟩)
          | none =>
            rw [shownBounds, hbounds] at hshown
            exact h (.inl ⟨.idle, by decide, by decide, sampled, hshown, hbad⟩)
  have hshared : specialRefused → strained := by
    rintro ⟨sampled, hbounds, hbad⟩
    exact .inr ⟨sampled, hrecorded hbounds, hbad.imp_right largeAtPreflight_large⟩
  rw [hrefused, hstrained]
  exact refusals_agree hshared

/-- A framing that leaves the skeleton as it is. -/
def plainFraming : RolePackFraming := { scale := 1, xOffset := 0, footBaseline := 180, scale_pos := ofNat_pos trivial }

/-- A body that stands on the foot line, in the middle of its window. -/
def plainBounds : Spine38Bounds :=
  { x := -50, y := 0, width := 100, height := 162, width_pos := ofNat_pos trivial, height_pos := ofNat_pos trivial }

/-- A pet that stands plainly, and whose sitting has the given bounds. -/
def sittingProfile (sitting : Spine38Bounds) : RolePackRenderProfile where
  bodyBounds := plainBounds
  sampledActionBounds := [(.idle, plainBounds), (.sitting, sitting)]
  sampled := by simp
  actions_nodup := by simp

/-- The transform that fits it. -/
def plainTransform : Spine38ViewportTransform where
  scale := 1
  originX := 80
  originY := 180
  viewport := Presentation.Spine38.viewport
  footBaselineY := 180
  scale_pos := ofNat_pos trivial

def wideSitting : Spine38Bounds := { plainBounds with x := -1000, width := 2000, width_pos := ofNat_pos trivial }

def tallSitting : Spine38Bounds := { plainBounds with height := 300, height_pos := ofNat_pos trivial }

/-- A pet whose sitting is too wide is accepted, and fails as soon as it sits; one whose sitting reaches over the top of
the body's window is refused, although it never fails. -/
theorem sitting_disagrees :
    (Spine38PetRenderer.fixedTransform plainFraming plainBounds Presentation.Spine38.viewport = .ok plainTransform)
      ∧ ¬(preflightRenderProfile (sittingProfile wideSitting) plainFraming = .ok ()
        ↔ NeverStatic (sittingProfile wideSitting) plainTransform)
      ∧ ¬(preflightRenderProfile (sittingProfile tallSitting) plainFraming = .ok ()
        ↔ NeverStatic (sittingProfile tallSitting) plainTransform) := by
  have haccepted : preflightRenderProfile (sittingProfile wideSitting) plainFraming = .ok () := by
    decide +kernel
  have hfails : (showing (sittingProfile wideSitting) plainFraming plainTransform .sitting).planLayout (bodyAt 0 0)
      preflightWorkspace 1 (some preflightWorkspace) = .ok (.failure .logicalResourceLimitExceeded) := by
    decide +kernel
  have hrefused : preflightRenderProfile (sittingProfile tallSitting) plainFraming ≠ .ok () := by
    decide +kernel
  have hnever : NeverStatic (sittingProfile tallSitting) plainTransform := by
    rw [neverStatic_iff _ plainFraming]
    intro action
    cases action <;> decide +kernel
  refine ⟨by decide +kernel, fun h => ?_, fun h => hrefused (h.mpr hnever)⟩
  exact h.mp haccepted _ _ _ _ _ _ rfl rfl rfl rfl hfails (by decide)

/-- Where the sitting is neither, the preflight and the renderer agree. -/
theorem preflight_agrees_plain : preflightRenderProfile (sittingProfile plainBounds) plainFraming = .ok ()
      ↔ NeverStatic (sittingProfile plainBounds) plainTransform := by
  have hfixed : Spine38PetRenderer.fixedTransform plainFraming (sittingProfile plainBounds).bodyBounds
      Presentation.Spine38.viewport = .ok plainTransform := by
    decide +kernel
  refine (preflight_agrees_iff hfixed).mpr (.inr (.inr ⟨?_, ?_⟩))
  · rintro ⟨sampled, hbounds, hcut⟩
    obtain rfl : plainBounds = sampled := Option.some.inj hbounds
    exact absurd hcut (by decide +kernel)
  · rintro (⟨sampled, hshown, hlarge⟩ | ⟨sampled, hshown, hbad⟩)
    · obtain rfl : plainBounds = sampled := Option.some.inj hshown
      exact absurd hlarge (by decide +kernel)
    · obtain rfl : plainBounds = sampled := Option.some.inj hshown
      rcases hbad with h | h
      · exact absurd h (by decide +kernel)
      · exact absurd h (by decide +kernel)

end RenderPreflight

end ArkClaw.Bootstrap
