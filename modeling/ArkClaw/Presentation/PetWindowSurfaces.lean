import ArkClaw.Presentation.EffectOverlay
import ArkClaw.Presentation.Spine38Renderer

/-!
# The surfaces of the pet window

The window draws the pet itself, or lets its overlay draw it: a tick advances the engine, plans a layout for the action
of the new frame, installs it in the renderer, moves the window and publishes the surface that owns the layout. What the
clock, the screens, the playback source and the drawing backend answer is handed to each tick.
-/

namespace ArkClaw.Presentation

open ArkClaw.Library
open ArkClaw.Pet

/-- What the renderer was given up for. -/
inductive PetRendererSafeCode where
  | none | viewportFailed | stateFailed | updateFailed | renderFailed
deriving DecidableEq, Repr

/-- The pet window with its two surfaces. The overflow renderer is the renderer the window draws with, until that is
replaced by the placeholder. -/
structure PetSurfaces where
  window : PetWindow
  overlay : PetEffectOverlay := {}
  renderer : Spine38PetRenderer
  safeCode : PetRendererSafeCode := .none
  visible : Bool := true
  alwaysOnTop : Bool := true
  lastTick : Rat := 0
  lastDevicePixelRatio : Rat := 1
  hasPlaybackEventSource : Bool := true
  activeRenderLayout : Option Pet.PetRenderLayout := none
  activeLayoutWorkspace : Option Rect := none
  activeLayoutAction : Option PetRendererAction := none
  specialCompletionFacing : Option PetFacing := none

/-- What a tick meets. The playback source reports none where its update raises. -/
structure SurfaceTick where
  devicePixelRatio : Rat := 1
  now : Rat := 0
  workspaces : List Rect
  workspaceDisplayPairs : List (Rect × Rect)
  playbackEvents : Option (List PlaybackEvent) := some []
  ratioTaken : Bool := true
  viewportTaken : Bool := true
  frame : Spine38PetRenderer.FrameIo
  bodyPainted : Bool := true

namespace PetSurfaces

/-! ## Programs of the parts -/

def onWindow {α : Type} (c : Program PetWindow α) : Program PetSurfaces α :=
  onPart (·.window) (fun s window => { s with window }) c

def onAnimation {α : Type} (c : Program PetAnimationEngine α) : Program PetSurfaces α := onWindow (PetWindow.onAnimation c)

def onMotion {α : Type} (c : Program PetMotionModel α) : Program PetSurfaces α := onAnimation (PetAnimationEngine.onMotion c)

/-- The window under its overlay, as the pointer meets them. -/
def desk (s : PetSurfaces) : PetDesk :=
  { window := s.window, overlay := s.overlay, renderGeneration := s.renderer.renderGeneration }

def onDesk {α : Type} (c : Program PetDesk α) : Program PetSurfaces α :=
  onPart desk (fun s d => { s with window := d.window, overlay := d.overlay }) c

/-- Call the renderer; a call that raises replaces it by the placeholder, which none makes raise. -/
def safely (failure : PetRendererSafeCode) (call : Spine38PetRenderer.RendererProgram Unit) : Program PetSurfaces Unit := do
  let s ← get
  if s.safeCode ≠ .none then return ()
  else
    match call.run s.renderer with
    | .ok _ renderer => set { s with renderer }
    | .error _ renderer => set { s with renderer := renderer.close, safeCode := failure }

/-- Call the overflow renderer itself; what it raises is raised. -/
def onRenderer (call : Spine38PetRenderer.RendererProgram Unit) : Program PetSurfaces Unit := do
  let s ← get
  match call.run s.renderer with
  | .ok _ renderer => set { s with renderer }
  | .error _ renderer =>
    set { s with renderer }
    throw (.runtime "The Spine pet renderer failed safely.")

/-- Map the layered state to one renderer-neutral action. -/
def actionFor (state : PetLayeredState) : PetRendererAction :=
  if state.lifecycle = .closing then .closing
  else if state.lifecycle = .paused then .paused
  else if state.motion = .dragging then .dragStruggle
  else if state.motion = .falling then .falling
  else if state.motion = .landing then .landing
  else if state.activity = .sitting then .sitting
  else if state.activity = .sleeping then .sleep
  else if state.activity = .special then .special
  else if state.activity = .interact then .interact
  else if state.behaviors.reminding then .reminding
  else if state.motion = .walkingLeft then .walkLeft
  else if state.motion = .walkingRight then .walkRight
  else if state.behaviors.thinking then .thinking
  else .idle

def actionRequestForFrame (state : PetLayeredState) : PetRendererActionRequest where
  action := actionFor state
  facing := state.facing
  loop := decide (state.motion = .idle ∨ state.motion = .walkingLeft ∨ state.motion = .walkingRight)

/-- Hand the renderer the frame of the layered state. -/
def syncRendererState : Program PetSurfaces Unit := do
  let state ← onMotion PetMotionModel.state
  safely .stateFailed (Spine38PetRenderer.setState (actionRequestForFrame state))

def hideEffectOverlay : Program PetSurfaces Unit := modify fun s => { s with overlay := s.overlay.hideSurface }

/-- Select an available and full geometry pair without crossing screens. -/
def selectWorkspaceDisplayPair (position : Point) (windowSize : Size) (pairs : List (Rect × Rect)) :
    Except PetError (Rect × Rect) :=
  match pairs with
  | [] =>
    let fallback : Rect :=
      { x := 0, y := 0, width := 1920, height := 1080, width_pos := ofNat_pos trivial, height_pos := ofNat_pos trivial }
    .ok (fallback, fallback)
  | first :: _ => do
    let selected ← selectWorkspace position windowSize (pairs.map Prod.fst)
    return (pairs.find? fun pair => decide (pair.1 = selected)).getD first

variable (env : OverlayEnv)

/-! ## Planning -/

/-- Contain what the planner failed for: nothing is shown beside the body. -/
def refuseLayout : Program PetSurfaces (Option Pet.PetRenderLayout) := do
  let _ ← onAnimation (PetAnimationEngine.containRendererFailure env.window.engine)
  hideEffectOverlay
  return none

/-- Plan the layout, and move the body where it has been resolved to. -/
def planAndPlace (bodyRect workspace : Rect) (display : Option Rect) : Program PetSurfaces (Option Pet.PetRenderLayout) := do
  let s ← get
  match s.renderer.planLayout bodyRect workspace s.lastDevicePixelRatio display with
  | .error _ => throw (.runtime "The Spine pet renderer failed safely.")
  | .ok (.failure _) => refuseLayout env
  | .ok (.layout result) =>
    let resolved := result.resolvedBodyPosition
    if PetMotionModel.isClose resolved.x bodyRect.x && PetMotionModel.isClose resolved.y bodyRect.y then return some result
    else
      let placed : Except PetError PetMotionSnapshot ←
        attempt (onMotion (PetMotionModel.placeForRenderLayout resolved workspace))
      match placed with
      | .ok _ => return some result
      | .error .stateTransition => refuseLayout env
      | .error (.value _) => refuseLayout env
      | .error error => throw error

/-- Plan for the request and remember the layout as the active one. -/
def planRenderLayout (request : PetRendererActionRequest) (bodyRect workspace : Rect) (display : Option Rect) :
    Program PetSurfaces (Option Pet.PetRenderLayout) := do
  let planned : Except PetError (Option Pet.PetRenderLayout) ← attempt (planAndPlace env bodyRect workspace display)
  match planned with
  | .error _ => refuseLayout env
  | .ok none => return none
  | .ok (some result) =>
    modify fun s => { s with
      activeRenderLayout := some result
      activeLayoutWorkspace := some workspace
      activeLayoutAction := some request.action
      specialCompletionFacing :=
        if request.action = .special ∧ result.effectiveFacing ≠ request.facing then some result.effectiveFacing else none }
    return some result

/-- End a special action whose workspace has changed, and ask for what comes next. -/
def endSpecial : Program PetSurfaces PetRendererActionRequest := do
  let _ ← onAnimation (PetAnimationEngine.containRendererFailure env.window.engine)
  let _ ← onAnimation (PetAnimationEngine.startAutonomous env.window.engine)
  let state ← onMotion PetMotionModel.state
  let request := actionRequestForFrame state
  safely .stateFailed (Spine38PetRenderer.setState request)
  hideEffectOverlay
  return request

/-- The body's place, and the workspace of a request; a sitting pet also gets its display. -/
def selectPlace (request : PetRendererActionRequest) (tick : SurfaceTick) :
    Program PetSurfaces (Rect × Rect × Option Rect) := do
  let motion ← onMotion PetMotionModel.snapshot
  let windowSize := (← get).window.animation.motion.windowSize
  let bodyRect : Rect := {
    x := motion.position.x, y := motion.position.y, width := windowSize.width, height := windowSize.height
    width_pos := windowSize.width_pos, height_pos := windowSize.height_pos }
  let place ← getOrRaise (
    if request.action = .sitting then
      (selectWorkspaceDisplayPair motion.position windowSize tick.workspaceDisplayPairs).map fun pair => (pair.1, some pair.2)
    else (selectWorkspace motion.position windowSize tick.workspaces).map fun workspace => (workspace, none))
  return (bodyRect, place)

/-- The layout of a request. A special action keeps the layout it was given, as long as its workspace stays. -/
def prepareRenderLayout (request : PetRendererActionRequest) (tick : SurfaceTick) :
    Program PetSurfaces (Option Pet.PetRenderLayout) := do
  let (bodyRect, workspace, display) ← selectPlace request tick
  let s ← get
  if request.action = .special ∧ s.activeLayoutAction = some .special ∧ s.activeRenderLayout.isSome then
    if s.activeLayoutWorkspace = some workspace then return s.activeRenderLayout
    else
      let next ← endSpecial env
      planRenderLayout env next bodyRect workspace display
  else planRenderLayout env request bodyRect workspace display

/-! ## The tick -/

def deliver (events : List PlaybackEvent) : Program PetSurfaces Unit := do
  match events with
  | [] => return ()
  | event :: rest =>
    let facing := (← get).specialCompletionFacing
    let _ ← onAnimation (PetAnimationEngine.handlePlaybackEvent env.window.engine event facing)
    deliver rest

/-- Contain a failure of what plays, and leave no action to ask for. -/
def losePlayback : Program PetSurfaces Unit := do
  let _ ← onAnimation (PetAnimationEngine.containRendererFailure env.window.engine)
  modify fun s => { s with
    hasPlaybackEventSource := false, window := { s.window with availableProductionActions := [] } }

def updatePlayback (playbackEvents : Option (List PlaybackEvent)) : Program PetSurfaces Unit := do
  if (← get).hasPlaybackEventSource then
    let update : Program PetSurfaces Unit :=
      match playbackEvents with
      | none => throw (.runtime "the playback source failed")
      | some events => deliver env events
    let handled : Except PetError Unit ← attempt update
    match handled with
    | .ok () => return ()
    | .error _ => losePlayback env

/-- Hand the renderer the window's ratio, once it has changed. -/
def followDevicePixelRatio (tick : SurfaceTick) : Program PetSurfaces Unit := do
  if !PetMotionModel.isClose tick.devicePixelRatio (← get).lastDevicePixelRatio then
    safely .viewportFailed (Spine38PetRenderer.setDevicePixelRatio tick.devicePixelRatio tick.ratioTaken)
    modify fun s => { s with lastDevicePixelRatio := tick.devicePixelRatio }

/-- The engine advances, the playback source is heard, and the renderer gets the action of the new frame. -/
def advanceFrame (tick : SurfaceTick) : Program PetSurfaces PetRendererActionRequest := do
  followDevicePixelRatio tick
  let elapsed := max 0 (tick.now - (← get).lastTick)
  modify fun s => { s with lastTick := tick.now }
  let snapshot ← onAnimation (PetAnimationEngine.advance env.window.engine elapsed tick.workspaces)
  updatePlayback env tick.playbackEvents
  let request := actionRequestForFrame snapshot.state
  safely .stateFailed (Spine38PetRenderer.setState request)
  return request

/-- The overlay shows an overflowing layout; the window repaints itself before the overlay gives its layout up. -/
def publishSurfaceOwner (layout : Option Pet.PetRenderLayout) (bodyPainted : Bool) : Program PetSurfaces Unit := do
  match layout with
  | none => return ()
  | some layout =>
    if layout.mode = .overflow then
      let s ← get
      let overlay ← getOrRaise (s.overlay.showLayout
        { mode := .overflow, surfaceRect := layout.surfaceRect, bodyWindowOffset := layout.bodyWindowOffset } s.alwaysOnTop
        s.renderer.renderGeneration s.window.animation.motion.windowSize)
      set { s with overlay }
    else
      if (← get).visible then safely .renderFailed (Spine38PetRenderer.render bodyPainted)
      modify fun s => { s with overlay := s.overlay.retireSurface }

/-- Install the layout in the renderer. -/
def installLayout (layout : Option Pet.PetRenderLayout) (viewportTaken : Bool) : Program PetSurfaces Unit := do
  match layout with
  | none => return ()
  | some layout => onRenderer (Spine38PetRenderer.setRenderLayout layout viewportTaken)

/-- Draw the frame and publish its surface; a pet that loses its renderer loses its overlay. -/
def showFrame (layout : Option Pet.PetRenderLayout) (tick : SurfaceTick) : Program PetSurfaces Unit := do
  let applied := (← get).window.animation.lastAppliedDelta
  safely .updateFailed (Spine38PetRenderer.update applied tick.frame)
  let s ← get
  if s.window.availableProductionActions ≠ [] ∧ s.safeCode ≠ .none then
    losePlayback env
    syncRendererState
    hideEffectOverlay
  else publishSurfaceOwner layout tick.bodyPainted

/-- One tick of the window's timer. -/
def advanceAnimation (tick : SurfaceTick) : Program PetSurfaces Unit := do
  let request ← advanceFrame env tick
  let layout ← prepareRenderLayout env request tick
  let position := (← get).window.animation.motion.position
  onWindow (PetWindow.moveTo position)
  installLayout layout tick.viewportTaken
  showFrame env layout tick

/-! ## What happens to the window -/

/-- A tick, an event of the pointer on the overlay, what happens to the window itself, a paint of the overlay, and the
window being hidden and shown. -/
inductive Operation where
  | tick (tick : SurfaceTick)
  | overlayMouse (type : MouseEventType) (event : MouseEvent) (workspaces : List Rect)
  | window (op : PetDesk.WindowOperation)
  | paintOverlay (image : Option PetSurfaceHitFrame)
  | paintBody (painted : Bool)
  | hideWindow (workspaces : List Rect)
  | showWindow

/-- The window gives a gesture up and hides its overlay; it is hidden even if the gesture's end raises. -/
def hideEvent (workspaces : List Rect) : Program PetSurfaces Unit := do
  modify fun s => { s with visible := false }
  onWindow (PetWindow.cancelPointerGesture env.window .windowHidden workspaces)
  hideEffectOverlay

def Operation.program : Operation → Program PetSurfaces Unit
  | .tick t => advanceAnimation env t
  | .overlayMouse type event workspaces => onDesk ((PetDesk.Operation.mouse type event workspaces).program env)
  | .window op => onDesk ((PetDesk.Operation.window op).program env)
  | .paintOverlay image => onDesk ((PetDesk.Operation.paint image).program env)
  | .paintBody painted => safely .renderFailed (Spine38PetRenderer.render painted)
  | .hideWindow workspaces => hideEvent env workspaces
  | .showWindow => modify fun s => { s with visible := true }

/-- The state an operation leaves behind. -/
def operate (s : PetSurfaces) (op : Operation) : PetSurfaces := stateAfter (op.program env) s

end PetSurfaces

end ArkClaw.Presentation
