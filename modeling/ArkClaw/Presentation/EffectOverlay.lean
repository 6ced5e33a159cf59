import ArkClaw.Presentation.PetWindowPointer

/-!
# The effect overlay

Effects that outgrow the pet window are drawn on an overlay above it. The overlay hands the window what the pointer
does on the pet: a press on the body, and the moves and releases that follow it while its proxy flag is up. Here
are the overlay, the surface it shows, and the forwarding; what becomes of a gesture over a run is the next module's.
-/

namespace ArkClaw.Presentation

open ArkClaw.Library
open ArkClaw.Pet

/-- Compact physical-pixel hit mask for one logical surface generation. -/
structure PetSurfaceHitFrame where
  width : Nat
  height : Nat
  logicalWidth : Rat
  logicalHeight : Rat
  devicePixelRatio : Rat
  alphaMask : List Nat
  generation : Nat
deriving DecidableEq

namespace PetSurfaceHitFrame

/-- The pixel under a logical point is opaque enough to be hit. -/
def containsLogical (f : PetSurfaceHitFrame) (x y : Rat) : Bool :=
  if x < 0 ∨ y < 0 ∨ f.logicalWidth ≤ x ∨ f.logicalHeight ≤ y then false
  else
    let physicalX := (x * f.devicePixelRatio).floor
    let physicalY := (y * f.devicePixelRatio).floor
    if physicalX < 0 ∨ (f.width : Int) ≤ physicalX ∨ physicalY < 0 ∨ (f.height : Int) ≤ physicalY then false
    else
      let maskStride := (f.width + 7) / 8
      let byteIndex := physicalY.toNat * maskStride + physicalX.toNat / 8
      (f.alphaMask.getD byteIndex 0).testBit (physicalX.toNat % 8)

end PetSurfaceHitFrame

inductive PetRenderSurfaceMode where
  | body | overflow
deriving DecidableEq, Repr

/-- What of a render layout the overlay reads. -/
structure PetRenderLayout where
  mode : PetRenderSurfaceMode
  surfaceRect : Rect
  bodyWindowOffset : Point
deriving DecidableEq

/-- A widget's geometry, in whole pixels. -/
structure WidgetGeometry where
  x : Int
  y : Int
  width : Int
  height : Int
deriving DecidableEq

/-- Overflow surface that proxies body input to the authoritative window. -/
structure PetEffectOverlay where
  bodyInputRect : Option Rect := none
  publishedHitFrame : Option PetSurfaceHitFrame := none
  expectedRenderGeneration : Option Nat := none
  proxyPointerActive : Bool := false
  surfaceRetired : Bool := false
  appliedAlwaysOnTop : Option Bool := none
  appliedGeometry : Option WidgetGeometry := none
  visible : Bool := false

namespace PetEffectOverlay

/-- The size of the window the overlay proxies for. -/
def bodyRect (offset : Point) (targetSize : Size) : Rect where
  x := offset.x
  y := offset.y
  width := targetSize.width
  height := targetSize.height
  width_pos := targetSize.width_pos
  height_pos := targetSize.height_pos

variable (o : PetEffectOverlay)

/-- Show a layout that overflows the body; new window flags hide the widget until it is shown again. -/
def showLayout (layout : PetRenderLayout) (alwaysOnTop : Bool) (generation : Nat)
    (targetSize : Size) : Except PetError PetEffectOverlay :=
  if layout.mode ≠ .overflow then .error (.value "overlay requires overflow layout")
  else
    let renewed := decide (o.expectedRenderGeneration ≠ some generation)
    let rect := layout.surfaceRect
    .ok { o with
      surfaceRetired := false
      publishedHitFrame := if renewed then none else o.publishedHitFrame
      expectedRenderGeneration := some generation
      appliedAlwaysOnTop := some alwaysOnTop
      appliedGeometry := some {
        x := PetWindow.pyRound rect.x, y := PetWindow.pyRound rect.y
        width := PetWindow.pyRound rect.width, height := PetWindow.pyRound rect.height }
      bodyInputRect := some (bodyRect layout.bodyWindowOffset targetSize)
      visible := true }

def hideSurface : PetEffectOverlay :=
  { o with
    proxyPointerActive := false, surfaceRetired := false, publishedHitFrame := none
    expectedRenderGeneration := none, visible := false }

/-- Clear the scene but preserve an active proxy gesture until release. -/
def retireSurface : PetEffectOverlay :=
  let retired := { o with surfaceRetired := true, publishedHitFrame := none }
  if o.proxyPointerActive then retired else retired.hideSurface

/-- Draw the surface and publish the hit frame of what was drawn, if it is of the expected generation. -/
def paint (image : Option PetSurfaceHitFrame) (generation : Nat) : PetEffectOverlay :=
  if o.surfaceRetired then o
  else
    match image with
    | none => { o with publishedHitFrame := none }
    | some frame =>
      { o with
        publishedHitFrame := if o.expectedRenderGeneration = some generation then some { frame with generation } else none }

/-- A rectangle holds its edges. -/
def rectContains (rect : Rect) (x y : Rat) : Bool :=
  rect.x ≤ x ∧ x ≤ rect.right ∧ rect.y ≤ y ∧ y ≤ rect.bottom

def containsLocalPoint (generation : Nat) (localX localY : Rat) : Bool :=
  o.bodyInputRect.any (rectContains · localX localY)
    || o.publishedHitFrame.any fun frame =>
      decide (o.expectedRenderGeneration = some frame.generation) && decide (frame.generation = generation)
        && frame.containsLogical localX localY

/-- The overlay's place on the screen. -/
def pos : Point :=
  match o.appliedGeometry with
  | none => { x := 0, y := 0 }
  | some geometry => { x := geometry.x, y := geometry.y }

def containsGlobalPoint (generation : Nat) (screen : Point) : Bool :=
  o.containsLocalPoint generation (screen.x - o.pos.x) (screen.y - o.pos.y)

end PetEffectOverlay

/-! ## Forwarding -/

/-- The window's environment, and whether an exception of an event handler comes out of the call that sent the event. -/
structure OverlayEnv where
  window : PetWindowEnv
  handlerRaises : Bool

/-- The pet window under its overlay. The render generation is the overflow renderer's. -/
structure PetDesk where
  window : PetWindow
  overlay : PetEffectOverlay := {}
  renderGeneration : Nat := 0

namespace PetDesk

def onWindow {α : Type} (c : Program PetWindow α) : Program PetDesk α :=
  onPart (·.window) (fun d window => { d with window }) c

def modifyOverlay (f : PetEffectOverlay → PetEffectOverlay) : Program PetDesk Unit :=
  modify fun d => { d with overlay := f d.overlay }

/-- Round to the nearest integer, a half away from zero. -/
def qRound (x : Rat) : Int := if 0 ≤ x then (x + 1 / 2).floor else (x - 1 / 2).ceil

/-- A screen position in the window's own coordinates. -/
def mapFromGlobal (w : PetWindow) (screen : Point) : Point :=
  { x := qRound screen.x - w.pos.x, y := qRound screen.y - w.pos.y }

variable (env : OverlayEnv)

/-- Send the window an event and tell whether it accepted it: an event nobody has judged is accepted. -/
def sendEvent (type : MouseEventType) (event : MouseEvent) (workspaces : List Rect) : Program PetDesk Bool := do
  let handler := onWindow (PetWindow.mouseEvent env.window type event workspaces)
  if env.handlerRaises then handler
  else
    let answered : Except PetError Bool ← attempt handler
    match answered with
    | .ok accepted => return accepted
    | .error _ => return true

/-- The event as the window receives it. -/
def forwarded (d : PetDesk) (event : MouseEvent) : MouseEvent :=
  { event with position := mapFromGlobal d.window event.globalPosition }

def forwardMouseEvent (type : MouseEventType) (event : MouseEvent) (workspaces : List Rect) (requireBodyHit : Bool) :
    Program PetDesk Bool := do
  let d ← get
  if requireBodyHit && !d.overlay.containsGlobalPoint d.renderGeneration event.globalPosition then return false
  else sendEvent env type (d.forwarded event) workspaces

def mousePressEvent (event : MouseEvent) (workspaces : List Rect) : Program PetDesk Bool := do
  let accepted ← forwardMouseEvent env .press event workspaces true
  modifyOverlay fun o => { o with proxyPointerActive := decide (event.button = some .left) && accepted }
  return accepted

def mouseMoveEvent (event : MouseEvent) (workspaces : List Rect) : Program PetDesk Bool := do
  if !(← get).overlay.proxyPointerActive then return false
  else forwardMouseEvent env .move event workspaces false

def mouseReleaseEvent (event : MouseEvent) (workspaces : List Rect) : Program PetDesk Bool := do
  if !(← get).overlay.proxyPointerActive then return false
  else
    let accepted ← forwardMouseEvent env .release event workspaces false
    if event.button = some .left then
      modifyOverlay fun o => { o with proxyPointerActive := false }
      if (← get).overlay.surfaceRetired then modifyOverlay (·.hideSurface)
    return accepted

/-- The overlay's handler of a mouse event. -/
def mouseEvent (type : MouseEventType) (event : MouseEvent) (workspaces : List Rect) : Program PetDesk Bool :=
  match type with
  | .press => mousePressEvent env event workspaces
  | .move => mouseMoveEvent env event workspaces
  | .release => mouseReleaseEvent env event workspaces

/-! ## What happens on the desk -/

/-- What happens to the window itself: an event on its own surface, a gesture given up, a call of its engine. -/
inductive WindowOperation where
  | mouse (type : MouseEventType) (event : MouseEvent) (workspaces : List Rect)
  | cancelPointerGesture (reason : GestureCancelReason) (workspaces : List Rect)
  | engine (op : PetAnimationEngine.Operation)

def WindowOperation.program (env : PetWindowEnv) : WindowOperation → Program PetWindow Unit
  | .mouse type event workspaces => (fun _ => ()) <$> PetWindow.mouseEvent env type event workspaces
  | .cancelPointerGesture reason workspaces => PetWindow.cancelPointerGesture env reason workspaces
  | .engine op => PetWindow.onAnimation (op.program env.engine)

/-- One step: a mouse event on the overlay, a call of the overlay, or something that happens to the window. -/
inductive Operation where
  | mouse (type : MouseEventType) (event : MouseEvent) (workspaces : List Rect)
  | showLayout (layout : PetRenderLayout) (alwaysOnTop : Bool)
  | hideSurface
  | retireSurface
  | paint (image : Option PetSurfaceHitFrame)
  | setState (renderGeneration : Nat)
  | window (op : WindowOperation)

def Operation.program : Operation → Program PetDesk Unit
  | .mouse type event workspaces => (fun _ => ()) <$> PetDesk.mouseEvent env type event workspaces
  | .showLayout layout alwaysOnTop => do
    let d ← get
    let overlay ← getOrRaise
      (d.overlay.showLayout layout alwaysOnTop d.renderGeneration d.window.animation.motion.windowSize)
    set { d with overlay }
  | .hideSurface => modifyOverlay (·.hideSurface)
  | .retireSurface => modifyOverlay (·.retireSurface)
  | .paint image => do
    let d ← get
    set { d with overlay := d.overlay.paint image d.renderGeneration }
  | .setState renderGeneration => modify fun d => { d with renderGeneration }
  | .window op => onWindow (op.program env.window)

/-- The state an operation leaves behind. -/
def operate (d : PetDesk) (op : Operation) : PetDesk := stateAfter (op.program env) d

end PetDesk

end ArkClaw.Presentation
