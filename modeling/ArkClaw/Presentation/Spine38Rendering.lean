import ArkClaw.Pet.RenderLayoutLaws
import ArkClaw.Presentation.Spine38Drawing

/-!
# Which planned layouts can be rendered

A scene is accepted on a surface of whole pixels that holds the body's foot line. Every surface the planner chooses has
whole pixels, but it is chosen around the content, and content that does not reach down to the foot line leaves the line
outside. `FootHeld` says when it does not.
-/

namespace ArkClaw.Presentation

open ArkClaw.Library
open ArkClaw.Pet (ofNat_pos Point Size Rect PetFacing RenderContainmentPolicy Scale Spine38Bounds
  Spine38ViewportTransform Spine38DrawCommand PetMeshScene PetMeshDrawCommand PetMeshTextureData MeshFailure
  RolePackFraming CorrectedFacing ProjectedActionEnvelope)
open ArkClaw.Pet.RenderLayout
open ArkClaw.Pet.Spine38Runtime

/-! ## Accepted scenes -/

/-- A native command that the runtime has no reason to reject. -/
structure WellFormed (command : Spine38DrawCommand) : Prop where
  page : command.texturePage = 0
  vertices : 3 ≤ command.vertices.length
  colors : ∀ vertex ∈ command.vertices, ∀ channel ∈ [vertex.r, vertex.g, vertex.b, vertex.a], 0 ≤ channel ∧ channel ≤ 255
  indices : PetMeshScene.validIndices command.indices command.vertices.length = true

/-- A whole number of pixels within the limit. -/
def WholePixels (value : Rat) : Prop := ∃ n : Int, value = n ∧ 0 < n ∧ n ≤ 4096

theorem logicalDimension_eq {n : Int} (hpos : 0 < n) (hle : n ≤ 4096) : logicalDimension n = .ok n := by
  simp [logicalDimension, hpos.not_ge, hle.not_gt]

section

variable {transform : Spine38ViewportTransform} {texture : PetMeshTextureData} {commands : List Spine38DrawCommand}

/-- A command of a frame, once it is placed in the viewport. -/
def placedCommand (transform : Spine38ViewportTransform) (texture : PetMeshTextureData) (command : Spine38DrawCommand) :
    PetMeshDrawCommand where
  textureId := texture.textureId
  vertices := command.vertices.map (meshVertex transform)
  triangleIndices := command.indices
  drawOrder := command.drawOrder
  blendMode := blendMode command.blendMode

theorem meshCommands_eq (h : ∀ command ∈ commands, WellFormed command) :
    commands.mapM (meshCommand transform texture) = .ok (commands.map (placedCommand transform texture)) := by
  induction commands with
  | nil => rfl
  | cons command rest ih =>
    have hfirst : meshCommand transform texture command = .ok (placedCommand transform texture command) := by
      simp only [meshCommand, (h command (by simp)).page, ne_eq, not_true_eq_false, if_false]
      rfl
    rw [List.mapM_cons, hfirst, ih fun c hc => h c (List.mem_cons_of_mem _ hc)]
    rfl

/-- A well-formed command is valid in a scene with the texture. -/
theorem validateCommand_ok {scene : PetMeshScene} (htextures : scene.textures = [texture]) {command : Spine38DrawCommand}
    (h : WellFormed command) : scene.validateCommand (placedCommand transform texture command) = .ok () := by
  have hcolors : ((placedCommand transform texture command).vertices.all
      fun vertex => PetMeshScene.validColor vertex.color) = true := by
    simp only [placedCommand, List.all_map, List.all_eq_true]
    intro vertex hvertex
    exact List.all_eq_true.mpr fun channel hchannel => decide_eq_true (h.colors vertex hvertex channel hchannel)
  have htexture : (placedCommand transform texture command).textureId ∈ scene.textures.map (·.textureId) := by
    rw [htextures]
    exact List.mem_singleton.mpr rfl
  have hlength : ¬(placedCommand transform texture command).vertices.length < 3 := by
    have := h.vertices
    simp only [placedCommand, List.length_map]
    omega
  have hindices : PetMeshScene.validIndices (placedCommand transform texture command).triangleIndices
      (placedCommand transform texture command).vertices.length = true := by
    simpa only [placedCommand, List.length_map] using h.indices
  simp only [PetMeshScene.validateCommand, not_not.mpr htexture, hlength, hcolors, hindices, if_false, Bool.not_true,
    Bool.false_eq_true]
  rfl

theorem validateCommands_ok {scene : PetMeshScene} (htextures : scene.textures = [texture])
    (h : ∀ command ∈ commands, WellFormed command) :
    (commands.map (placedCommand transform texture)).forM scene.validateCommand = .ok () := by
  induction commands with
  | nil => rfl
  | cons command rest ih =>
    have hcons : ((command :: rest).map (placedCommand transform texture)).forM scene.validateCommand
        = (scene.validateCommand (placedCommand transform texture command) >>=
          fun _ => (rest.map (placedCommand transform texture)).forM scene.validateCommand) := rfl
    rw [hcons, validateCommand_ok htextures (h command (by simp))]
    exact ih fun c hc => h c (List.mem_cons_of_mem _ hc)

/-- Well-formed commands make a scene in a viewport of whole pixels that holds the foot line. -/
theorem meshScene_accepts (h : ∀ command ∈ commands, WellFormed command) (hwidth : WholePixels transform.viewport.width)
    (hheight : WholePixels transform.viewport.height) (hfoot : 0 ≤ transform.footBaselineY)
    (hheld : transform.footBaselineY ≤ transform.viewport.height) :
    ∃ scene, meshScene commands transform texture = .ok scene := by
  obtain ⟨width, hw, hwpos, hwle⟩ := hwidth
  obtain ⟨height, hh, hhpos, hhle⟩ := hheight
  rw [hh] at hheld
  have hvalid : PetMeshScene.validate
      { width, height, footBaselineY := transform.footBaselineY, textures := [texture]
        drawCommands := commands.map (placedCommand transform texture) } = .ok () := by
    have hviewport : ¬(width ≤ 0 ∨ height ≤ 0 ∨ 4096 < width ∨ 4096 < height) := by
      omega
    simp only [PetMeshScene.validate, PetMeshScene.validateViewport, if_neg hviewport, hfoot, hheld, and_self,
      not_true_eq_false, if_false, bind, Except.bind]
    exact validateCommands_ok rfl h
  simp only [meshScene, meshCommands_eq h, hw, hh, logicalDimension_eq hwpos hwle, logicalDimension_eq hhpos hhle, bind,
    Except.bind, hvalid]
  exact ⟨_, rfl⟩

end

namespace Spine38PetRenderer

/-! ## Layouts that are rendered -/

/-- The foot line of a layout lies within its surface. -/
def FootWithin (layout : Pet.PetRenderLayout) : Prop :=
  0 ≤ layout.bodyWindowOffset.y + Spine38.footBaselineY
    ∧ layout.bodyWindowOffset.y + Spine38.footBaselineY ≤ layout.surfaceRect.height

/-- Every well-formed frame is accepted in the layout, and no update fails for its mesh once the layout is installed. -/
structure Rendered (base : Spine38ViewportTransform) (layout : Pet.PetRenderLayout) : Prop where
  whole : WholePixels layout.surfaceRect.width ∧ WholePixels layout.surfaceRect.height
  foot : FootWithin layout
  accepted : ∀ (texture : PetMeshTextureData) (commands : List Spine38DrawCommand),
    (∀ command ∈ commands, WellFormed command) →
    ∃ scene, meshScene commands (transformForLayout base (surfaceSizeOf layout) layout) texture = .ok scene
  updates : ∀ (r r₁ r₂ : Spine38PetRenderer) (takes : Bool) (deltaSeconds : Rat) (io : FrameIo)
    (code : Spine38RendererCode), r.bodyTransform = some base → (setRenderLayout layout takes).run r = .ok () r₁ →
    (∀ commands, io.commands = .ok commands → ∀ command ∈ commands, WellFormed command) →
    io.commands ≠ .error .meshInvalid → (update deltaSeconds io).run r₁ = .error code r₂ → code ≠ .meshInvalid

theorem prepareScene_accepts {r : Spine38PetRenderer} {transform : Spine38ViewportTransform} {texture : PetMeshTextureData}
    {commands : List Spine38DrawCommand} {scene : PetMeshScene} (h : meshScene commands transform texture = .ok scene) :
    ∃ prepared, r.prepareScene transform texture commands = .ok prepared := by
  have hchoice : ∀ {p : Prop} [Decidable p] (mirrored : PetMeshScene),
      ∃ prepared, (if p then pure mirrored else pure scene : Except MeshFailure PetMeshScene) = .ok prepared := by
    intro p _ mirrored
    split
    next => exact ⟨mirrored, rfl⟩
    next => exact ⟨scene, rfl⟩
  simp only [prepareScene, h, bind, Except.bind]
  exact hchoice _

theorem rendered_of_foot {base : Spine38ViewportTransform} {layout : Pet.PetRenderLayout}
    (hwhole : WholePixels layout.surfaceRect.width ∧ WholePixels layout.surfaceRect.height) (hfoot : FootWithin layout) :
    Rendered base layout := by
  have haccepted : ∀ (texture : PetMeshTextureData) (commands : List Spine38DrawCommand),
      (∀ command ∈ commands, WellFormed command) →
      ∃ scene, meshScene commands (transformForLayout base (surfaceSizeOf layout) layout) texture = .ok scene :=
    fun texture commands h => meshScene_accepts h hwhole.1 hwhole.2 hfoot.1 hfoot.2
  refine ⟨hwhole, hfoot, haccepted, ?_⟩
  intro r r₁ r₂ takes deltaSeconds io code hbase hset hframe hruntime hupdate
  obtain rfl := (setRenderLayout_spec hbase takes).of_run hset
  have hspec : Wp (update deltaSeconds io) (fun _ _ => True) (fun code _ => code ≠ .meshInvalid)
      { r with
        surfaceSize := surfaceSizeOf layout, renderLayout := some layout, layoutExplicit := true
        transform := some (transformForLayout base (surfaceSizeOf layout) layout) } := by
    simp only [update, requireOpen, wp_bind, wp_get]
    split
    next => exact fun hinvalid => by cases hinvalid
    next =>
      simp only [wp_pure]
      split
      next => trivial
      next =>
        cases htexture : r.texture with
        | none => exact fun hinvalid => by cases hinvalid
        | some texture =>
          dsimp only
          split
          next => exact fun hinvalid => by cases hinvalid
          next =>
            cases hcommands : io.commands with
            | error code' => exact fun h => hruntime (by rw [hcommands, h])
            | ok commands =>
              obtain ⟨scene, hscene⟩ := haccepted texture commands (hframe commands hcommands)
              obtain ⟨prepared, hprepared⟩ := prepareScene_accepts hscene
              dsimp only
              rw [hprepared]
              dsimp only
              split
              next => exact fun hinvalid => by cases hinvalid
              next => trivial
  exact hspec.of_raise hupdate

/-- Pixels of a surface that was rounded outward, within the logical limits. -/
theorem surfaceFor_whole {body : Rect} {corrected : CorrectedFacing} {scale : Scale}
    (h : exceedsLogicalResources (surfaceFor body corrected scale) = false) :
    WholePixels (surfaceFor body corrected scale).width ∧ WholePixels (surfaceFor body corrected scale).height := by
  have hlimits := of_decide_eq_false h
  rw [not_or, not_or, not_lt, not_lt] at hlimits
  obtain ⟨hwidth, hheight, -⟩ := hlimits
  simp only [Pet.maxLogicalDimension] at hwidth hheight
  have hrounded : ∀ {side : Rat} {n : Int}, side = n → 0 < side → side ≤ 1024 → WholePixels side := by
    rintro side n rfl hpos hle
    have hle' : n ≤ 1024 := by exact_mod_cast hle
    exact ⟨n, rfl, by exact_mod_cast hpos, by omega⟩
  exact ⟨hrounded (Int.cast_sub _ _).symm (surfaceFor body corrected scale).width_pos hwidth,
    hrounded (Int.cast_sub _ _).symm (surfaceFor body corrected scale).height_pos hheight⟩

/-! ## The foot line -/

/-- The content is drawn in the body's own window, or its padded extent, rounded outward, holds the foot line. -/
def FootInside (body : Rect) (corrected : CorrectedFacing) (scale : Scale) : Prop :=
  let surface := surfaceFor body corrected scale
  contains body surface = true ∨ (surface.y ≤ body.y + Pet.bodyHeight ∧ body.y + Pet.bodyHeight ≤ surface.bottom)

/-- The foot line stays on the surface: that of a body in its own window always does, that of a sitting pet has to be on
the display too, and that of a special action is looked for where its content is placed. -/
def FootHeld (body workspace : Rect) (envelope : ProjectedActionEnvelope) (facing : PetFacing)
    (policy : RenderContainmentPolicy) (display : Option Rect) : Prop :=
  match policy with
  | .bodyPriority => True
  | .sitFullSampledBounds =>
    let corrected := correctedBy envelope facing
    FootInside body corrected .full
      ∧ (contains body (surfaceFor body corrected .full) = true
        ∨ ∀ desk, display = some desk → body.y + Pet.bodyHeight ≤ desk.bottom)
  | .fullSampledBounds => ∀ placed selected scale, fullPlacement body workspace envelope facing = some (placed, selected, scale) →
    FootInside placed (correctedBy envelope selected) scale

/-- A rectangle whose edges are whole pixels. -/
def IntegerEdged (rect : Rect) : Prop :=
  ∃ left top right bottom : Int, rect.x = left ∧ rect.y = top ∧ rect.right = right ∧ rect.bottom = bottom

theorem surfaceFor_integerEdged (body : Rect) (corrected : CorrectedFacing) (scale : Scale) :
    IntegerEdged (surfaceFor body corrected scale) :=
  ⟨_, _, _, _, rfl, rfl, add_sub_cancel _ _, add_sub_cancel _ _⟩

/-- Whole pixels that are held up to the tolerance are held. -/
theorem contains_integerEdged {container content : Rect} (hcontainer : IntegerEdged container)
    (hcontent : IntegerEdged content) (h : contains container content = true) :
    container.x ≤ content.x ∧ container.y ≤ content.y ∧ content.right ≤ container.right
      ∧ content.bottom ≤ container.bottom := by
  obtain ⟨l, t, r, b, hl, ht, hr, hb⟩ := hcontainer
  obtain ⟨l', t', r', b', hl', ht', hr', hb'⟩ := hcontent
  have hround : ∀ {m n : Int}, (m : Rat) - Pet.layoutScaleEpsilon ≤ n → (m : Rat) ≤ n := by
    intro m n hle
    have hlt : (m : Rat) < ((n + 1 : Int) : Rat) := by
      push_cast
      simp only [Pet.layoutScaleEpsilon] at hle
      linarith
    have hlt' : m < n + 1 := by exact_mod_cast hlt
    exact_mod_cast Int.lt_add_one_iff.mp hlt'
  simp only [contains, decide_eq_true_eq, hl, ht, hr, hb, hl', ht', hr', hb'] at h ⊢
  obtain ⟨hleft, htop, hright, hbottom⟩ := h
  exact ⟨hround hleft, hround htop, hround (by linarith), hround (by linarith)⟩

section

variable {body : Rect} {corrected : CorrectedFacing} {facing : PetFacing}

theorem body_whole (hwidth : body.width = 160) (hheight : body.height = 180) :
    WholePixels body.width ∧ WholePixels body.height :=
  ⟨⟨160, by rw [hwidth]; rfl, by omega, by omega⟩, 180, by rw [hheight]; rfl, by omega, by omega⟩

theorem composed_whole (hwidth : body.width = 160) (hheight : body.height = 180) {scale : Scale}
    (h : exceedsLogicalResources (surfaceFor body corrected scale) = false) :
    WholePixels (composed body corrected facing scale).surfaceRect.width
      ∧ WholePixels (composed body corrected facing scale).surfaceRect.height := by
  simp only [composed]
  split
  next => exact body_whole hwidth hheight
  next => exact surfaceFor_whole h

/-- The composition holds the foot line where the content does, or the body's own window. -/
theorem composed_foot (hheight : body.height = 180) {scale : Scale} :
    FootWithin (composed body corrected facing scale) ↔ FootInside body corrected scale := by
  simp only [FootWithin, FootInside, composed, Spine38.footBaselineY, Pet.bodyHeight]
  split
  next hown =>
    refine ⟨fun _ => .inl hown, fun _ => ?_⟩
    rw [hheight]
    constructor <;> linarith
  next hown =>
    have hbottom : (surfaceFor body corrected scale).bottom
        = (surfaceFor body corrected scale).y + (surfaceFor body corrected scale).height := rfl
    rw [hbottom]
    constructor
    · rintro ⟨htop, hfoot⟩
      exact .inr ⟨by linarith, by linarith⟩
    · rintro (h | ⟨htop, hfoot⟩)
      · exact absurd h hown
      · exact ⟨by linarith, by linarith⟩

/-- What of a surface within the limits is on a display has whole pixels. -/
theorem clippedSurface_whole {desk : Rect} (hdesk : IntegerEdged desk)
    (hlogical : exceedsLogicalResources (surfaceFor body corrected .full) = false) (h) :
    WholePixels (clippedSurface desk (surfaceFor body corrected .full) h).width
      ∧ WholePixels (clippedSurface desk (surfaceFor body corrected .full) h).height := by
  obtain ⟨⟨width, hw, -, hwle⟩, height, hh, -, hhle⟩ := surfaceFor_whole hlogical
  obtain ⟨l, t, r, b, hl, ht, hr, hb⟩ := hdesk
  obtain ⟨l', t', r', b', hl', ht', hr', hb'⟩ := surfaceFor_integerEdged body corrected .full
  have hclip : ∀ {start start' stop stop' side : Int}, (stop' : Rat) = start' + side → side ≤ 4096 →
      (0 : Rat) < min (stop : Rat) stop' - max (start : Rat) start' →
      WholePixels (min (stop : Rat) stop' - max (start : Rat) start') := by
    intro start start' stop stop' side hside hle hpos
    have hcast : min (stop : Rat) stop' - max (start : Rat) start' = ((min stop stop' - max start start' : Int) : Rat) := by
      push_cast
      rfl
    have hside' : stop' = start' + side := by exact_mod_cast hside
    rw [hcast] at hpos ⊢
    have hpos' : 0 < min stop stop' - max start start' := by exact_mod_cast hpos
    exact ⟨_, rfl, hpos', by omega⟩
  have hright : (r' : Rat) = l' + width := by rw [← hr', ← hl', ← hw]; rfl
  have hbottom : (b' : Rat) = t' + height := by rw [← hb', ← ht', ← hh]; rfl
  have hwpos := (clippedSurface desk (surfaceFor body corrected .full) h).width_pos
  have hhpos := (clippedSurface desk (surfaceFor body corrected .full) h).height_pos
  simp only [clippedSurface, hl, ht, hr, hb, hl', ht', hr', hb'] at hwpos hhpos ⊢
  exact ⟨hclip hright hwle hwpos, hclip hbottom hhle hhpos⟩

/-- A sitting pet is laid out on whole pixels, that hold the foot line if its content and the display do. -/
theorem sitLayout_foot (hwidth : body.width = 160) (hheight : body.height = 180) {desk : Rect} {layout : Pet.PetRenderLayout}
    (hdesk : IntegerEdged desk) (hlogical : exceedsLogicalResources (surfaceFor body corrected .full) = false)
    (h : sitLayout body corrected facing desk = .layout layout) :
    (WholePixels layout.surfaceRect.width ∧ WholePixels layout.surfaceRect.height)
      ∧ (FootWithin layout ↔ FootInside body corrected .full
        ∧ (contains body (surfaceFor body corrected .full) = true ∨ body.y + Pet.bodyHeight ≤ desk.bottom)) := by
  have hwhole := @composed_whole body corrected facing hwidth hheight .full hlogical
  have hfoot := @composed_foot body corrected facing hheight .full
  unfold sitLayout at h
  dsimp only at h
  split at h
  next hinside =>
    -- the whole surface is on the display, and so is a foot line on it
    cases h
    refine ⟨hwhole, hfoot.trans ⟨fun hheld => ⟨hheld, ?_⟩, And.left⟩⟩
    by_cases hown : contains body (surfaceFor body corrected .full) = true
    · exact .inl hown
    · have hsurface : (composed body corrected facing .full).surfaceRect = surfaceFor body corrected .full := by
        simp only [composed, hown, if_false, Bool.false_eq_true]
      rw [hsurface] at hinside
      obtain ⟨-, -, -, hbottom⟩ := contains_integerEdged hdesk (surfaceFor_integerEdged body corrected .full) hinside
      exact .inr ((hheld.resolve_left hown).2.trans hbottom)
  next houtside =>
    split at h
    next => cases h
    next hbody =>
      split at h
      next hpart =>
        -- the surface is cut off at the display, which holds the body up to the tolerance
        cases h
        have hown : contains body (surfaceFor body corrected .full) ≠ true := by
          intro hown
          have hsurface : (composed body corrected facing .full).surfaceRect = body := by
            simp only [composed, hown, if_true]
          rw [hsurface] at houtside
          exact houtside (by simpa using hbody)
        have hsurface : (composed body corrected facing .full).surfaceRect = surfaceFor body corrected .full := by
          simp only [composed, hown, if_false, Bool.false_eq_true]
        have hclipped := @clippedSurface_whole body corrected desk hdesk hlogical
        simp only [hsurface] at hpart ⊢
        refine ⟨hclipped hpart, ?_⟩
        have hdesktop : desk.y - Pet.layoutScaleEpsilon ≤ body.y := by
          rw [Bool.not_eq_true', Bool.not_eq_false] at hbody
          exact (of_decide_eq_true hbody).2.1
        simp only [Pet.layoutScaleEpsilon] at hdesktop
        simp only [FootWithin, FootInside, clippedLayout, clippedSurface, Spine38.footBaselineY, Pet.bodyHeight, hown,
          Bool.false_eq_true, false_or]
        constructor
        · rintro ⟨htop, hfoot⟩
          have hmin : body.y + 180 ≤ min desk.bottom (surfaceFor body corrected .full).bottom := by linarith
          have hmax : max desk.y (surfaceFor body corrected .full).y ≤ body.y + 180 := by linarith
          exact ⟨⟨(le_max_right _ _).trans hmax, hmin.trans (min_le_right _ _)⟩, hmin.trans (min_le_left _ _)⟩
        · rintro ⟨⟨htop, hfoot⟩, hdisplay⟩
          have hmin : body.y + 180 ≤ min desk.bottom (surfaceFor body corrected .full).bottom := le_min hdisplay hfoot
          have hmax : max desk.y (surfaceFor body corrected .full).y ≤ body.y + 180 :=
            max_le (by linarith) htop
          constructor <;> linarith
      next => cases h

end

/-- A layout that the planner returns is rendered exactly if the foot line stays on its surface. -/
theorem rendered_iff {base : Spine38ViewportTransform} {bounds : Spine38Bounds} {bodyRect workspace : Rect}
    {facing : PetFacing} {policy : RenderContainmentPolicy} {dpr : Rat} {display : Option Rect} {layout : Pet.PetRenderLayout}
    (hwidth : bodyRect.width = 160) (hheight : bodyRect.height = 180)
    (hdisplay : ∀ desk, display = some desk → IntegerEdged desk)
    (hplan : planPetRenderLayout bodyRect workspace (projectActionEnvelope bounds (bodyTransformFor base)) facing policy dpr
      display = .ok (.layout layout)) : Rendered base layout
      ↔ FootHeld bodyRect workspace (projectActionEnvelope bounds (bodyTransformFor base)) facing policy display := by
  have hrendered : (WholePixels layout.surfaceRect.width ∧ WholePixels layout.surfaceRect.height) →
      (Rendered base layout ↔ FootWithin layout) := fun hwhole => ⟨Rendered.foot, rendered_of_foot hwhole⟩
  cases policy with
  | bodyPriority =>
    obtain rfl := plan_body_layout hplan
    refine ⟨fun _ => trivial, fun _ => rendered_of_foot (body_whole hwidth hheight) ?_⟩
    simp only [FootWithin, bodyLayout, Spine38.footBaselineY, hheight]
    norm_num
  | sitFullSampledBounds =>
    obtain ⟨desk, rfl, hlogical, hsit⟩ := plan_sit_layout hplan
    obtain ⟨hwhole, hfoot⟩ := sitLayout_foot hwidth hheight (hdisplay desk rfl) hlogical hsit
    rw [hrendered hwhole, hfoot]
    simp only [FootHeld, Option.some.injEq, forall_eq']
  | fullSampledBounds =>
    obtain ⟨placed, selected, scale, hplacement, hlogical, rfl⟩ := plan_full_layout hplan
    obtain ⟨hplaced, -, -⟩ := fullPlacement_spec hplacement
    have hwidth' : placed.width = 160 := by rw [hplaced]; exact hwidth
    have hheight' : placed.height = 180 := by rw [hplaced]; exact hheight
    rw [hrendered (composed_whole hwidth' hheight' hlogical), composed_foot hheight']
    simp only [FootHeld, hplacement, Option.some.injEq, Prod.mk.injEq]
    constructor
    · rintro hheld _ _ _ ⟨rfl, rfl, rfl⟩
      exact hheld
    · exact fun h => h placed selected scale ⟨rfl, rfl, rfl⟩

/-- A framing that leaves the skeleton as it is, and the transform that it gives a body of the target height. -/
def standingFraming : RolePackFraming := { scale := 1, xOffset := 0, footBaseline := 180, scale_pos := ofNat_pos trivial }

def standingBounds : Spine38Bounds :=
  { x := -50, y := 0, width := 100, height := 162, width_pos := ofNat_pos trivial, height_pos := ofNat_pos trivial }

def standingTransform : Spine38ViewportTransform where
  scale := 1
  originX := 80
  originY := 180
  viewport := Spine38.viewport
  footBaselineY := 180
  scale_pos := ofNat_pos trivial

/-- Bounds that are wider than the body's window and end fifty pixels above its foot. -/
def floatingBounds : Spine38Bounds :=
  { x := -100, y := 50, width := 200, height := 100, width_pos := ofNat_pos trivial, height_pos := ofNat_pos trivial }

def standingBody : Rect :=
  { x := 500, y := 500, width := 160, height := 180, width_pos := ofNat_pos trivial, height_pos := ofNat_pos trivial }

def standingDesk : Rect :=
  { x := 0, y := 0, width := 1920, height := 1080, width_pos := ofNat_pos trivial, height_pos := ofNat_pos trivial }

/-- A special action that floats above the foot is laid out, and every frame of it is rejected, an empty one too. -/
theorem floating_not_rendered :
    let envelope := projectActionEnvelope floatingBounds (bodyTransformFor standingTransform)
    let layout := composed standingBody (correctedBy envelope .right) .right .full
    fixedTransform standingFraming standingBounds Spine38.viewport = .ok standingTransform
      ∧ planPetRenderLayout standingBody standingDesk envelope .right .fullSampledBounds 1 (some standingDesk)
        = .ok (.layout layout)
      ∧ (∀ texture, meshScene [] (transformForLayout standingTransform (surfaceSizeOf layout) layout) texture
        = .error (.validation .invalidBaseline))
      ∧ ¬Rendered standingTransform layout := by
  intro envelope layout
  have hscene : ∀ texture, meshScene [] (transformForLayout standingTransform (surfaceSizeOf layout) layout) texture
      = .error (.validation .invalidBaseline) := by
    intro texture
    have hwidth : logicalDimension layout.surfaceRect.width = .ok 204 := by decide +kernel
    have hheight : logicalDimension layout.surfaceRect.height = .ok 104 := by decide +kernel
    have hbaseline : ¬(0 ≤ layout.bodyWindowOffset.y + Spine38.footBaselineY
        ∧ layout.bodyWindowOffset.y + Spine38.footBaselineY ≤ 104) := by
      decide +kernel
    simp only [meshScene, transformForLayout, surfaceSizeOf, hwidth, hheight, List.mapM_nil, bind, Except.bind, pure,
      Except.pure, PetMeshScene.validate, PetMeshScene.validateViewport]
    norm_num [hbaseline]
  refine ⟨by decide +kernel, by decide +kernel, hscene, fun hrendered => ?_⟩
  have hfoot : ¬FootWithin layout := by
    unfold FootWithin
    decide +kernel
  exact hfoot hrendered.foot

/-- A special action that stands on the floor is rendered. -/
theorem wide_rendered : let envelope := projectActionEnvelope wideBounds (bodyTransformFor tenthTransform)
    Rendered tenthTransform (composed standingBody (correctedBy envelope .right) .right .full) := by
  intro envelope
  have hdisplay : ∀ desk, some standingDesk = some desk → IntegerEdged desk := by
    rintro _ ⟨⟩
    exact ⟨0, 0, 1920, 1080, by decide +kernel, by decide +kernel, by decide +kernel, by decide +kernel⟩
  have hplan : planPetRenderLayout standingBody standingDesk envelope .right .fullSampledBounds 1 (some standingDesk)
      = .ok (.layout (composed standingBody (correctedBy envelope .right) .right .full)) := by
    decide +kernel
  have hplacement : fullPlacement standingBody standingDesk envelope .right = some (standingBody, .right, .full) := by
    decide +kernel
  refine (rendered_iff rfl rfl hdisplay hplan).mpr ?_
  intro placed selected scale hplaced
  obtain ⟨rfl, rfl, rfl⟩ : standingBody = placed ∧ PetFacing.right = selected ∧ Scale.full = scale := by
    simpa only [envelope, hplacement, Option.some.injEq, Prod.mk.injEq] using hplaced
  unfold FootInside
  decide +kernel

end Spine38PetRenderer

end ArkClaw.Presentation
