import ArkClaw.Pet.RenderLayoutLaws
import ArkClaw.Presentation.Spine38Renderer
import Mathlib.Algebra.Order.Ring.Star
import Mathlib.Data.Rat.Star
import Mathlib.Tactic.LinearCombination

/-!
# Where the renderer draws what the planner planned

The planner works with rectangles scaled about the body's foot, the renderer with one affine transform and a mirror.
`plannedPosition` says for a point of the skeleton what the planner's rectangles say for its bounds; the renderer
draws every point there.
-/

namespace ArkClaw.Presentation

open ArkClaw.Library
open ArkClaw.Pet (ofNat_pos Point Size Rect PetFacing PetError RenderContainmentPolicy PetBodyTransform Scale
  Spine38Bounds Spine38ViewportTransform Spine38Vertex Spine38DrawCommand PetMeshScene PetMeshVertex PetMeshDrawCommand
  PetMeshTextureData MeshFailure)
open ArkClaw.Pet.RenderLayout

namespace Spine38PetRenderer

/-! ## The planner's view of a point -/

/-- A point of the skeleton on the desktop: projected for the facing, lifted off the floor, placed with the body and
scaled about its foot. -/
def plannedPosition (transform : PetBodyTransform) (body : Point) (facing : PetFacing) (correction scale : Rat)
    (x y : Rat) : Point :=
  let facingX (right : Rat) : Rat := match facing with
    | .right => right
    | .left => 2 * transform.mirrorAxisX - right
  let projected : Point :=
    { x := facingX (transform.originX + x * transform.scale), y := transform.originY - y * transform.scale - correction }
  let pivot : Point := { x := body.x + facingX transform.originX, y := body.y + Pet.bodyHeight }
  { x := pivot.x + scale * (body.x + projected.x - pivot.x), y := pivot.y + scale * (body.y + projected.y - pivot.y) }

/-- A point within sampled bounds. -/
def Samples (bounds : Spine38Bounds) (x y : Rat) : Prop :=
  bounds.x ≤ x ∧ x ≤ bounds.x + bounds.width ∧ bounds.y ≤ y ∧ y ≤ bounds.y + bounds.height

/-- A point within a rectangle. -/
def Holds (rect : Rect) (point : Point) : Prop :=
  rect.x ≤ point.x ∧ point.x ≤ rect.right ∧ rect.y ≤ point.y ∧ point.y ≤ rect.bottom

section

variable {transform : PetBodyTransform} {bounds : Spine38Bounds} {body : Rect} {scale : Scale}

/-- The corners of the content are those of the bounds. -/
theorem content_corners (facing : PetFacing) :
    let content := desktopScaledContent body (correctedBy (projectActionEnvelope bounds transform) facing) scale
    let position := plannedPosition transform { x := body.x, y := body.y } facing 0 scale.val
    content.y = (position bounds.x (bounds.y + bounds.height)).y
      ∧ content.bottom = (position bounds.x bounds.y).y
      ∧ content.x = (position (match facing with | .right => bounds.x | .left => bounds.x + bounds.width) bounds.y).x
      ∧ content.right = (position (match facing with | .right => bounds.x + bounds.width | .left => bounds.x) bounds.y).x := by
  cases facing <;>
    simp only [desktopScaledContent, correctedBy_eq, forFacing, projectActionEnvelope, Pet.RenderLayout.translate,
      plannedPosition, Rect.right, Rect.bottom, Pet.bodyHeight] <;>
    refine ⟨?_, ?_, ?_, ?_⟩ <;> ring

/-- The points of the bounds are planned within the content. -/
theorem planned_in_content (facing : PetFacing) {x y : Rat} (h : Samples bounds x y) :
    Holds (desktopScaledContent body (correctedBy (projectActionEnvelope bounds transform) facing) scale)
      (plannedPosition transform { x := body.x, y := body.y } facing 0 scale.val x y) := by
  obtain ⟨htop, hbottom, hleft, hright⟩ := @content_corners transform bounds body scale facing
  obtain ⟨hxl, hxr, hyb, hyt⟩ := h
  have hpos := mul_pos scale.property transform.scale_pos
  have hx₁ := mul_le_mul_of_nonneg_left hxl hpos.le
  have hx₂ := mul_le_mul_of_nonneg_left hxr hpos.le
  have hy₁ := mul_le_mul_of_nonneg_left hyb hpos.le
  have hy₂ := mul_le_mul_of_nonneg_left hyt hpos.le
  unfold Holds
  rw [htop, hbottom, hleft, hright]
  cases facing <;>
    simp only [plannedPosition] <;>
    refine ⟨?_, ?_, ?_, ?_⟩ <;> linarith

end

/-! ## The renderer's view of a point -/

/-- Where the renderer draws a point of the skeleton on the surface of the layout it has installed. -/
def drawnPoint (base : Spine38ViewportTransform) (layout : Pet.PetRenderLayout) (x y : Rat) : Point :=
  let point := (transformForLayout base (surfaceSizeOf layout) layout).point x y
  if layout.effectiveFacing = .left then
    mirrorPoint (layout.bodyWindowOffset.x + Spine38.viewport.width / 2) point
  else point

/-- A point of a surface on the desktop. -/
def onDesktop (layout : Pet.PetRenderLayout) (point : Point) : Point :=
  { x := layout.surfaceRect.x + point.x, y := layout.surfaceRect.y + point.y }

/-- The vertices of a prepared scene are the drawn points of the native frame. -/
theorem prepareScene_drawn {r : Spine38PetRenderer} {base : Spine38ViewportTransform} {layout : Pet.PetRenderLayout}
    {texture : PetMeshTextureData} {commands : List Spine38DrawCommand} {scene : PetMeshScene}
    (hlayout : r.renderLayout = some layout) (hexplicit : r.layoutExplicit = true)
    (h : r.prepareScene (transformForLayout base (surfaceSizeOf layout) layout) texture commands = .ok scene) :
    scene.drawCommands.map (fun command => command.vertices.map PetMeshVertex.position)
      = commands.map fun command => command.vertices.map fun vertex => drawnPoint base layout vertex.x vertex.y := by
  have hmapM : ∀ (transform : Spine38ViewportTransform) (commands : List Spine38DrawCommand)
      (drawCommands : List PetMeshDrawCommand),
      commands.mapM (Pet.Spine38Runtime.meshCommand transform texture) = .ok drawCommands →
      drawCommands.map (fun command => command.vertices.map PetMeshVertex.position)
        = commands.map fun command => command.vertices.map fun vertex => transform.point vertex.x vertex.y := by
    intro transform commands
    induction commands with
    | nil =>
      intro drawCommands h
      cases h
      rfl
    | cons command rest ih =>
      intro drawCommands h
      rw [List.mapM_cons] at h
      simp only [Pet.Spine38Runtime.meshCommand, bind, Except.bind] at h
      split at h
      next => cases h
      next first hfirst =>
        split at hfirst
        next => cases hfirst
        next =>
          cases hfirst
          split at h
          next => cases h
          next rest' hrest =>
            cases h
            simp only [List.map_cons, ih rest' hrest, List.map_map]
            rfl
  have hscene : ∀ {transform : Spine38ViewportTransform} {scene : PetMeshScene},
      Pet.Spine38Runtime.meshScene commands transform texture = .ok scene →
      scene.drawCommands.map (fun command => command.vertices.map PetMeshVertex.position)
        = commands.map fun command => command.vertices.map fun vertex => transform.point vertex.x vertex.y := by
    intro transform scene h
    simp only [Pet.Spine38Runtime.meshScene, bind, Except.bind] at h
    split at h
    next => cases h
    next drawCommands hcommands =>
      split at h
      next => cases h
      next =>
        split at h
        next => cases h
        next =>
          split at h
          next => cases h
          next =>
            cases h
            exact hmapM transform commands drawCommands hcommands
  simp only [prepareScene, hlayout, hexplicit, if_true, bind, Except.bind] at h
  split at h
  next => cases h
  next scene' hscene' =>
    have hpoints := hscene hscene'
    split at h
    next hleft =>
      cases h
      have hmirror : (mirrorScene scene' (layout.bodyWindowOffset.x + Spine38.viewport.width / 2)).drawCommands.map
            (fun command => command.vertices.map PetMeshVertex.position)
          = (scene'.drawCommands.map (fun command => command.vertices.map PetMeshVertex.position)).map
              (·.map (mirrorPoint (layout.bodyWindowOffset.x + Spine38.viewport.width / 2))) := by
        simp only [mirrorScene, List.map_map, Function.comp_def]
      rw [hmirror, hpoints, List.map_map]
      refine List.map_congr_left fun command _ => ?_
      simp only [Function.comp_def, List.map_map, drawnPoint, if_pos hleft]
    next hright =>
      cases h
      rw [hpoints]
      simp only [drawnPoint, if_neg hright]

/-! ## Agreement -/

/-- Within the workspace, up to the planner's tolerance and the lift it allows below the floor. -/
def InWorkspace (workspace : Rect) (point : Point) : Prop :=
  workspace.x - Pet.layoutScaleEpsilon ≤ point.x ∧ point.x ≤ workspace.right + Pet.layoutScaleEpsilon
    ∧ workspace.y - Pet.layoutScaleEpsilon ≤ point.y
    ∧ point.y ≤ workspace.bottom + Pet.maxSpecialEffectFloorLift + Pet.layoutScaleEpsilon

section

variable {base : Spine38ViewportTransform} {bounds : Spine38Bounds} {layout : Pet.PetRenderLayout}

/-- What a layout owes the planner: its facing, its scale and its correction are those the content was planned with,
and the surface and the offset in it recover the position of the body. -/
structure Composes (layout : Pet.PetRenderLayout) : Prop where
  correction : layout.groundCorrection = 0
  offset_x : layout.surfaceRect.x + layout.bodyWindowOffset.x = layout.resolvedBodyPosition.x
  offset_y : layout.surfaceRect.y + layout.bodyWindowOffset.y = layout.resolvedBodyPosition.y

theorem composed_composes (body : Rect) (envelope : Pet.ProjectedActionEnvelope) (facing : PetFacing) (scale : Scale) :
    Composes (composed body (correctedBy envelope facing) facing scale) where
  correction := by
    simp only [composed, correctedBy_eq]
  offset_x := add_sub_cancel _ _
  offset_y := add_sub_cancel _ _

theorem planned_composes {bodyRect workspace : Rect} {envelope : Pet.ProjectedActionEnvelope}
    {policy : RenderContainmentPolicy} (h : Planned bodyRect workspace envelope policy layout) : Composes layout := by
  cases h with
  | body facing =>
    refine ⟨?_, add_zero _, add_zero _⟩
    simp only [bodyLayout, correctedBy_eq]
  | sitting facing => exact composed_composes bodyRect envelope facing .full
  | clipped facing display _ _ _ hpart =>
    refine ⟨?_, add_sub_cancel _ _, add_sub_cancel _ _⟩
    simp only [clippedLayout, correctedBy_eq]
  | full placed facing scale => exact composed_composes placed envelope facing scale

/-- One affine transform and a mirror do what projection, placement and scaling about the foot do. -/
theorem drawn_agrees (h : Composes layout) (x y : Rat) : onDesktop layout (drawnPoint base layout x y)
      = plannedPosition (bodyTransformFor base) layout.resolvedBodyPosition layout.effectiveFacing 0
        layout.scaleMultiplier x y := by
  have hx := h.offset_x
  have hy := h.offset_y
  have hcorrection := h.correction
  unfold onDesktop drawnPoint
  cases hfacing : layout.effectiveFacing with
  | right =>
    simp only [reduceCtorEq, if_false, transformForLayout, Spine38ViewportTransform.point, plannedPosition,
      bodyTransformFor, hcorrection, Spine38.footBaselineY, Pet.bodyHeight, Point.mk.injEq]
    constructor
    · linear_combination hx
    · linear_combination hy
  | left =>
    simp only [if_true, transformForLayout, Spine38ViewportTransform.point, mirrorPoint, plannedPosition,
      bodyTransformFor, hcorrection, Spine38.footBaselineY, Spine38.viewport, Pet.bodyHeight, Point.mk.injEq]
    constructor
    · linear_combination hx
    · linear_combination hy

/-- What the workspace holds of the content it holds of the drawn points. -/
theorem drawn_inside {workspace body : Rect} (h : Composes layout) (hx : layout.resolvedBodyPosition.x = body.x)
    (hy : layout.resolvedBodyPosition.y = body.y) (hfits : visibleContentFits body
      (correctedBy (projectActionEnvelope bounds (bodyTransformFor base)) layout.effectiveFacing)
      ⟨layout.scaleMultiplier, layout.scale_pos⟩ workspace = true)
    {x y : Rat} (hsamples : Samples bounds x y) : InWorkspace workspace (onDesktop layout (drawnPoint base layout x y)) := by
  have hposition : layout.resolvedBodyPosition = { x := body.x, y := body.y } := by
    rw [← hx, ← hy]
  rw [drawn_agrees h, hposition]
  have hholds : Holds
      (desktopScaledContent body (correctedBy (projectActionEnvelope bounds (bodyTransformFor base)) layout.effectiveFacing)
        ⟨layout.scaleMultiplier, layout.scale_pos⟩)
      (plannedPosition (bodyTransformFor base) { x := body.x, y := body.y } layout.effectiveFacing 0
        layout.scaleMultiplier x y) := planned_in_content layout.effectiveFacing hsamples
  obtain ⟨hl, hr, ht, hb⟩ := hholds
  simp only [visibleContentFits, decide_eq_true_eq] at hfits
  obtain ⟨hfl, hft, hfr, hfb⟩ := hfits
  exact ⟨hfl.trans hl, hr.trans hfr, hft.trans ht, hb.trans hfb⟩

/-- An installed layout is the one the next frame is drawn with. -/
theorem setRenderLayout_spec {r : Spine38PetRenderer} (hbase : r.bodyTransform = some base) (takes : Bool) :
    Wp (setRenderLayout layout takes)
      (fun _ r' => r' = { r with
        surfaceSize := surfaceSizeOf layout, renderLayout := some layout, layoutExplicit := true
        transform := some (transformForLayout base (surfaceSizeOf layout) layout) })
      (fun _ r' => r' = r) r := by
  simp only [setRenderLayout, requireOpen, wp_bind, wp_get]
  split
  next => rfl
  next =>
    simp only [wp_pure]
    split
    next => rfl
    next =>
      split
      next => rfl
      next => simp only [hbase, wp_bind, wp_set, wp_modify]

/-- An update that returns has prepared the scene of its frame. -/
theorem update_spec {r : Spine38PetRenderer} {transform : Spine38ViewportTransform} (htransform : r.transform = some transform)
    (hpaused : r.paused = false) (deltaSeconds : Rat) (io : FrameIo) : Wp (update deltaSeconds io)
      (fun _ r' => ∃ texture commands scene, r.texture = some texture ∧ io.commands = .ok commands
        ∧ r.prepareScene transform texture commands = .ok scene ∧ r' = { r with scene := some scene })
      (fun _ r' => r' = r) r := by
  simp only [update, requireOpen, wp_bind, wp_get]
  split
  next => rfl
  next =>
    simp only [wp_pure, hpaused, Bool.false_eq_true, if_false, htransform]
    cases htexture : r.texture with
    | none => rfl
    | some texture =>
      dsimp only
      split
      next => rfl
      next =>
        cases hcommands : io.commands with
        | error code => rfl
        | ok commands =>
          dsimp only
          cases hscene : r.prepareScene transform texture commands with
          | error failure => rfl
          | ok scene =>
            dsimp only
            split
            next => rfl
            next => exact ⟨texture, commands, scene, rfl, rfl, hscene, rfl⟩

end

/-- What the planner and the renderer agree on. -/
structure DrawnAsPlanned (base : Spine38ViewportTransform) (bounds : Spine38Bounds) (workspace : Rect)
    (policy : RenderContainmentPolicy) (layout : Pet.PetRenderLayout) : Prop where
  /-- Every point is drawn at the position the planner gives it. -/
  agrees : ∀ x y, onDesktop layout (drawnPoint base layout x y)
    = plannedPosition (bodyTransformFor base) layout.resolvedBodyPosition layout.effectiveFacing
      (correctedBy (projectActionEnvelope bounds (bodyTransformFor base)) layout.effectiveFacing).correction
      layout.scaleMultiplier x y
  /-- Every frame that is drawn in the layout draws its vertices there. -/
  frames : ∀ (r r₁ r₂ : Spine38PetRenderer) (takes : Bool) (deltaSeconds : Rat) (io : FrameIo),
    r.bodyTransform = some base → r.paused = false → (setRenderLayout layout takes).run r = .ok () r₁ →
    (update deltaSeconds io).run r₁ = .ok () r₂ →
    ∃ (commands : List Spine38DrawCommand) (scene : PetMeshScene), io.commands = .ok commands ∧ r₂.scene = some scene
      ∧ scene.drawCommands.map (fun command => command.vertices.map fun vertex => onDesktop layout vertex.position)
        = commands.map fun command => command.vertices.map fun vertex =>
            plannedPosition (bodyTransformFor base) layout.resolvedBodyPosition layout.effectiveFacing
              (correctedBy (projectActionEnvelope bounds (bodyTransformFor base)) layout.effectiveFacing).correction
              layout.scaleMultiplier vertex.x vertex.y
  /-- What the planner finds inside a workspace is drawn inside it. -/
  found : ∀ (body desk : Rect), layout.resolvedBodyPosition = { x := body.x, y := body.y } →
    visibleContentFits body (correctedBy (projectActionEnvelope bounds (bodyTransformFor base)) layout.effectiveFacing)
      ⟨layout.scaleMultiplier, layout.scale_pos⟩ desk = true →
    ∀ x y, Samples bounds x y → InWorkspace desk (onDesktop layout (drawnPoint base layout x y))
  /-- A layout that shows all of the bounds draws all of them inside the workspace. -/
  inside : policy = .fullSampledBounds →
    ∀ x y, Samples bounds x y → InWorkspace workspace (onDesktop layout (drawnPoint base layout x y))

/-- Whatever layout the planner returns, the renderer draws every point of the skeleton where the planner has it. -/
theorem drawn_as_planned {base : Spine38ViewportTransform} {bounds : Spine38Bounds} {bodyRect workspace : Rect}
    {facing : PetFacing} {policy : RenderContainmentPolicy} {dpr : Rat} {display : Option Rect} {layout : Pet.PetRenderLayout}
    (hplan : planPetRenderLayout bodyRect workspace (projectActionEnvelope bounds (bodyTransformFor base)) facing policy dpr
      display = .ok (.layout layout)) : DrawnAsPlanned base bounds workspace policy layout := by
  have hplanned := plan_planned hplan
  have hcomposes := planned_composes hplanned
  have hlift : ∀ facing, (correctedBy (projectActionEnvelope bounds (bodyTransformFor base)) facing).correction = 0 :=
    fun facing => by rw [correctedBy_eq]
  have hagrees : ∀ x y, onDesktop layout (drawnPoint base layout x y)
      = plannedPosition (bodyTransformFor base) layout.resolvedBodyPosition layout.effectiveFacing
        (correctedBy (projectActionEnvelope bounds (bodyTransformFor base)) layout.effectiveFacing).correction
        layout.scaleMultiplier x y := fun x y => by
    rw [hlift]
    exact drawn_agrees hcomposes x y
  have hfound : ∀ (body desk : Rect), layout.resolvedBodyPosition = { x := body.x, y := body.y } →
      visibleContentFits body (correctedBy (projectActionEnvelope bounds (bodyTransformFor base)) layout.effectiveFacing)
        ⟨layout.scaleMultiplier, layout.scale_pos⟩ desk = true →
      ∀ x y, Samples bounds x y → InWorkspace desk (onDesktop layout (drawnPoint base layout x y)) :=
    fun body desk hposition hfits x y hsamples =>
      drawn_inside hcomposes (by rw [hposition]) (by rw [hposition]) hfits hsamples
  refine ⟨hagrees, ?_, hfound, ?_⟩
  · intro r r₁ r₂ takes deltaSeconds io hbase hpaused hset hupdate
    have hr₁ := (setRenderLayout_spec hbase takes).of_run hset
    have hr₂ := (update_spec (r := r₁) (by rw [hr₁]) (by rw [hr₁]; exact hpaused) deltaSeconds io).of_run hupdate
    obtain ⟨texture, commands, scene, -, hcommands, hscene, rfl⟩ := hr₂
    have hdrawn := prepareScene_drawn (by rw [hr₁]) (by rw [hr₁]) hscene
    refine ⟨commands, scene, hcommands, rfl, ?_⟩
    have hpositions : scene.drawCommands.map (fun command => command.vertices.map fun vertex => onDesktop layout vertex.position)
        = (scene.drawCommands.map (fun command => command.vertices.map PetMeshVertex.position)).map
            (·.map (onDesktop layout)) := by
      simp only [List.map_map, Function.comp_def]
    rw [hpositions, hdrawn, List.map_map]
    refine List.map_congr_left fun command _ => ?_
    simp only [Function.comp_def, List.map_map, hagrees]
  · rintro rfl
    cases hplanned with
    | full placed selected scale _ _ hfits _ => exact hfound placed workspace rfl hfits

/-- A transform that draws a skeleton at a tenth of its size. -/
def tenthTransform : Spine38ViewportTransform where
  scale := 1 / 10
  originX := 80
  originY := 180
  viewport := Spine38.viewport
  footBaselineY := 180
  scale_pos := by norm_num

/-- Bounds that are wider than the body's window at that size. -/
def wideBounds : Spine38Bounds where
  x := -1000
  y := 0
  width := 2000
  height := 1600
  width_pos := ofNat_pos trivial
  height_pos := ofNat_pos trivial

/-- Bounds that reach over the body's window on both sides are drawn on a surface of their own, beside the body. -/
theorem drawn_as_planned_wide :
    let body : Rect := { x := -10, y := 100, width := 160, height := 180, width_pos := by norm_num, height_pos := by norm_num }
    let desk : Rect := { x := 0, y := 0, width := 1920, height := 1040, width_pos := by norm_num, height_pos := by norm_num }
    let envelope := projectActionEnvelope wideBounds (bodyTransformFor tenthTransform)
    let layout := composed { body with x := 20 } (correctedBy envelope .left) .left .full
    planPetRenderLayout body desk envelope .left .fullSampledBounds 1 none = .ok (.layout layout)
      ∧ DrawnAsPlanned tenthTransform wideBounds desk .fullSampledBounds layout := by
  intro body desk envelope layout
  have hplan : planPetRenderLayout body desk envelope .left .fullSampledBounds 1 none = .ok (.layout layout) := by
    decide +kernel
  exact ⟨hplan, drawn_as_planned hplan⟩

end Spine38PetRenderer

end ArkClaw.Presentation
