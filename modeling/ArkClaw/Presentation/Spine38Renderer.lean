import ArkClaw.Library.Program
import ArkClaw.Pet.MeshScene
import ArkClaw.Pet.RolePack

/-!
# The Spine renderer

The renderer projects the skeleton once, at its initialization, into the fixed body viewport. It plans layouts for the
action it shows, takes a planned layout over, and prepares the scene of a native frame in it. The drawing backend and
the native runtime are not part of it: how their calls end is handed to each operation.
-/

namespace ArkClaw.Presentation

open ArkClaw.Library
open ArkClaw.Pet (ofNat_pos Point Size Rect PetFacing PetError PetRendererAction RolePackRenderProfile RolePackFraming
  Spine38Bounds Spine38ViewportTransform PetBodyTransform RenderContainmentPolicy PetRenderLayoutResult MeshFailure
  PetMeshScene PetMeshVertex PetMeshDrawCommand PetMeshTextureData Spine38DrawCommand)

inductive Spine38RendererCode where
  | meshInvalid | openglFailed | closed | viewportInvalid | runtimeFailed
deriving DecidableEq, Repr

/-- What a plan raises: an error of the renderer, or one of the planner itself. -/
inductive PlanError where
  | renderer (code : Spine38RendererCode)
  | planner (error : PetError)
deriving DecidableEq, Repr

namespace Spine38

def viewport : Size := { width := 160, height := 180, width_pos := ofNat_pos trivial, height_pos := ofNat_pos trivial }
def footBaselineY : Rat := 180
def bodyTargetHeight : Rat := 162
def bodyMinHeight : Rat := 153
def bodyMaxHeight : Rat := 171

end Spine38

/-- What the renderer is asked to show: the action, its facing and whether it loops. -/
structure PetRendererActionRequest where
  action : PetRendererAction
  facing : PetFacing
  loop : Bool
deriving DecidableEq

/-- The renderer, once it is initialized. -/
structure Spine38PetRenderer where
  framing : RolePackFraming
  renderProfile : Option RolePackRenderProfile
  request : PetRendererActionRequest := { action := .idle, facing := .right, loop := true }
  facing : PetFacing := .right
  bodyTransform : Option Spine38ViewportTransform := none
  renderLayout : Option Pet.PetRenderLayout := none
  layoutExplicit : Bool := false
  surfaceSize : Size := Spine38.viewport
  transform : Option Spine38ViewportTransform := none
  texture : Option PetMeshTextureData := none
  hasBackend : Bool := false
  initialized : Bool := false
  paused : Bool := false
  closed : Bool := false
  renderGeneration : Nat := 0
  devicePixelRatio : Rat := 1
  /-- The scene the backend was last given. -/
  scene : Option PetMeshScene := none

namespace Spine38PetRenderer

abbrev RendererProgram (α : Type) := EStateM Spine38RendererCode Spine38PetRenderer α

def requireOpen : RendererProgram Unit := do
  if (← get).closed then throw .closed

/-! ## Transforms -/

/-- The transform that puts the body on the framing's foot line, in the middle of the viewport. -/
def fixedTransform (framing : RolePackFraming) (bounds : Spine38Bounds) (viewport : Size) :
    Except MeshFailure Spine38ViewportTransform :=
  if ¬(178 ≤ framing.footBaseline ∧ framing.footBaseline ≤ viewport.height) then .error .frame
  else
    let targetHeight := Spine38.bodyTargetHeight * framing.scale
    if ¬(Spine38.bodyMinHeight ≤ targetHeight ∧ targetHeight ≤ Spine38.bodyMaxHeight) then .error .frame
    else
      let scale := targetHeight / bounds.height
      let centerX := bounds.x + bounds.width / 2
      let originX := viewport.width / 2 - centerX * scale + framing.xOffset
      let left := originX + bounds.x * scale
      let right := left + bounds.width * scale
      let top := framing.footBaseline - targetHeight
      if left < 0 ∨ viewport.width < right ∨ top < 0 then .error .frame
      else .ok {
        scale, originX, originY := framing.footBaseline + bounds.y * scale, viewport
        footBaselineY := framing.footBaseline
        scale_pos := div_pos (mul_pos (by norm_num [Spine38.bodyTargetHeight]) framing.scale_pos) bounds.height_pos }

/-- The body's transform, moved and scaled as the layout says. -/
def transformForLayout (base : Spine38ViewportTransform) (surfaceSize : Size) (layout : Pet.PetRenderLayout) :
    Spine38ViewportTransform where
  scale := base.scale * layout.scaleMultiplier
  originX := layout.bodyWindowOffset.x + base.originX
  originY :=
    layout.bodyWindowOffset.y + Spine38.footBaselineY
      + layout.scaleMultiplier * (base.originY - layout.groundCorrection - Spine38.footBaselineY)
  viewport := surfaceSize
  footBaselineY := layout.bodyWindowOffset.y + Spine38.footBaselineY
  scale_pos := mul_pos base.scale_pos layout.scale_pos

def mirrorPoint (axis : Rat) (point : Point) : Point := { x := 2 * axis - point.x, y := point.y }

/-- Reflect the positions of a scene, and nothing else of it. -/
def mirrorScene (scene : PetMeshScene) (mirrorAxisX : Rat) : PetMeshScene :=
  { scene with
    drawCommands := scene.drawCommands.map fun (command : PetMeshDrawCommand) =>
      { command with
        vertices := command.vertices.map fun (vertex : PetMeshVertex) =>
          { vertex with position := mirrorPoint mirrorAxisX vertex.position }
        clipPolygon := command.clipPolygon.map (·.map (mirrorPoint mirrorAxisX)) } }

/-! ## Operations -/

/-- Take over the window's ratio, unless the backend refuses it. -/
def setDevicePixelRatio (value : Rat) (backendTakes : Bool) : RendererProgram Unit := do
  requireOpen
  let r ← get
  if value ≤ 0 then throw .viewportInvalid
  else if Pet.isCloseWithin 0 value r.devicePixelRatio then return ()
  else if r.hasBackend && !backendTakes then throw .openglFailed
  else set { r with devicePixelRatio := value }

def setState (request : PetRendererActionRequest) : RendererProgram Unit := do
  requireOpen
  modify fun r => { r with
    renderGeneration := if request ≠ r.request then r.renderGeneration + 1 else r.renderGeneration
    request, facing := request.facing }

/-- How an action is held in the workspace. -/
def policyFor (action : PetRendererAction) : RenderContainmentPolicy :=
  if action = .sitting then .sitFullSampledBounds
  else if action = .special then .fullSampledBounds
  else .bodyPriority

/-- The renderer's transform as the planner takes it. -/
def bodyTransformFor (transform : Spine38ViewportTransform) : PetBodyTransform where
  scale := transform.scale
  originX := transform.originX
  originY := transform.originY
  mirrorAxisX := Spine38.viewport.width / 2
  scale_pos := transform.scale_pos

/-- Plan the current action for one workspace. -/
def planLayout (r : Spine38PetRenderer) (bodyRect workspace : Rect) (devicePixelRatio : Rat) (display : Option Rect) :
    Except PlanError PetRenderLayoutResult :=
  if r.closed then .error (.renderer .closed)
  else
    match r.renderProfile, r.bodyTransform with
    | some profile, some transform =>
      match profile.boundsOf r.request.action <|> profile.boundsOf .idle with
      | none => .error (.renderer .runtimeFailed)
      | some sampled =>
        let envelope := Pet.RenderLayout.projectActionEnvelope sampled (bodyTransformFor transform)
        match Pet.RenderLayout.planPetRenderLayout bodyRect workspace envelope r.request.facing
            (policyFor r.request.action) devicePixelRatio display with
        | .ok result => .ok result
        | .error error => .error (.planner error)
    | _, _ => .error (.renderer .runtimeFailed)

/-- The size of a layout's surface. -/
def surfaceSizeOf (layout : Pet.PetRenderLayout) : Size where
  width := layout.surfaceRect.width
  height := layout.surfaceRect.height
  width_pos := layout.surfaceRect.width_pos
  height_pos := layout.surfaceRect.height_pos

/-- Install one already-planned composition; the backend may refuse the new size. -/
def setRenderLayout (layout : Pet.PetRenderLayout) (backendTakes : Bool) : RendererProgram Unit := do
  requireOpen
  let r ← get
  if !r.initialized || !r.hasBackend then throw .runtimeFailed
  else if surfaceSizeOf layout ≠ r.surfaceSize ∧ !backendTakes then throw .openglFailed
  else
    set { r with surfaceSize := surfaceSizeOf layout, renderLayout := some layout, layoutExplicit := true }
    match r.bodyTransform with
    | none => throw .runtimeFailed
    | some base =>
      modify fun r => { r with transform := some (transformForLayout base r.surfaceSize layout) }

/-- The scene of a native frame, mirrored about the body if the pet faces left. -/
def prepareScene (r : Spine38PetRenderer) (transform : Spine38ViewportTransform) (texture : PetMeshTextureData)
    (commands : List Spine38DrawCommand) : Except MeshFailure PetMeshScene := do
  let scene ← Pet.Spine38Runtime.meshScene commands transform texture
  let facing := match r.renderLayout with
    | some layout => if r.layoutExplicit then layout.effectiveFacing else r.facing
    | none => r.facing
  if facing = .left then
    let mirrorAxis := match r.renderLayout with
      | none => Spine38.viewport.width / 2
      | some layout => layout.bodyWindowOffset.x + Spine38.viewport.width / 2
    return mirrorScene scene mirrorAxis
  else return scene

/-- How the calls of one update end: the runtime's frame or what it raises instead, and whether the backend takes the
scene. -/
structure FrameIo where
  commands : Except Spine38RendererCode (List Spine38DrawCommand)
  backendTakes : Bool := true

def update (deltaSeconds : Rat) (io : FrameIo) : RendererProgram Unit := do
  requireOpen
  let r ← get
  if r.paused then return ()
  else
    match r.transform, r.texture with
    | some transform, some texture =>
      if !r.initialized || !r.hasBackend || decide (deltaSeconds < 0) then throw .runtimeFailed
      else
        match io.commands with
        | .error code => throw code
        | .ok commands =>
          match r.prepareScene transform texture commands with
          | .error _ => throw .meshInvalid
          | .ok scene =>
            if !io.backendTakes then throw .openglFailed
            else set { r with scene := some scene }
    | _, _ => throw .runtimeFailed

/-- Paint the body's window: the scene is painted there unless its layout overflows. -/
def render (backendPaints : Bool) : RendererProgram Unit := do
  requireOpen
  let r ← get
  if !r.initialized || !r.hasBackend then throw .openglFailed
  else if r.renderLayout.any fun layout => decide (layout.mode = .overflow) then return ()
  else if !backendPaints then throw .openglFailed
  else return ()

/-- Give the renderer and its backend up. -/
def close (r : Spine38PetRenderer) : Spine38PetRenderer := { r with closed := true, hasBackend := false }

end Spine38PetRenderer

end ArkClaw.Presentation
