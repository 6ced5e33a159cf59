import ArkClaw.Pet.EngineOperations
import ArkClaw.Presentation.PointerGesture

/-!
# The pet window under the pointer

The window turns mouse events into a gesture and the gesture into calls of the animation engine: a drag that begins,
follows and is released, a click that asks for an interaction, a right click that opens the palette. Whatever
interrupts the pet cancels the gesture first.
-/

namespace ArkClaw.Presentation

open ArkClaw.Library
open ArkClaw.Pet

inductive MouseButton where
  | left | right | middle | other
deriving DecidableEq, Repr

inductive MouseEventType where
  | press | move | release
deriving DecidableEq, Repr

/-- A mouse event: the button it is about, where it is about one, and the buttons held. -/
structure MouseEvent where
  button : Option MouseButton
  buttons : List MouseButton
  position : Point
  globalPosition : Point
deriving DecidableEq

inductive PetWindowSignal where
  | presentationStateChanged | actionPaletteRequested | safeExitRequested
deriving DecidableEq, Repr

/-- What a window is built with: its engine's environment, and the distance at which the system starts a drag. -/
structure PetWindowEnv where
  engine : EngineEnv
  startDragDistance : Rat

/-- What of the pet window the pointer reads and writes. The renderer only shows what the engine has decided. -/
structure PetWindow where
  animation : PetAnimationEngine
  pointerGesture : PetPointerGesture := {}
  dragOffset : Option Point := none
  rightPressPos : Option Point := none
  availableProductionActions : List ProductionAction := []
  pos : Point
  exitEmitted : Bool := false
  signals : List PetWindowSignal := []

namespace PetWindow

/-! ## Programs of the parts -/

def onAnimation {α : Type} (c : Program PetAnimationEngine α) : Program PetWindow α :=
  onPart (·.animation) (fun w animation => { w with animation }) c

/-- Answer a pointer event by the gesture. -/
def onGesture (answer : PetPointerGesture → GestureDecision × PetPointerGesture) : Program PetWindow GestureDecision := do
  let w ← get
  set { w with pointerGesture := (answer w.pointerGesture).2 }
  return (answer w.pointerGesture).1

def layeredState : Program PetWindow PetLayeredState := onAnimation (PetAnimationEngine.onMotion PetMotionModel.state)

def acceptsInteraction : Program PetWindow Bool := do
  return (← layeredState).lifecycle ≠ .closing

def emit (signal : PetWindowSignal) : Program PetWindow Unit :=
  modify fun w => { w with signals := w.signals ++ [signal] }

/-- The renderer is handed a frame of the layered state. -/
def syncRendererState : Program PetWindow Unit := do
  let _ ← layeredState

/-- Round to the nearest integer, a half to the even one. -/
def pyRound (x : Rat) : Int :=
  let fraction := x - x.floor
  if fraction < 1 / 2 then x.floor
  else if 1 / 2 < fraction then x.floor + 1
  else if x.floor % 2 = 0 then x.floor else x.floor + 1

/-- Put the widget where the motion model has the pet. -/
def moveTo (position : Point) : Program PetWindow Unit :=
  modify fun w => { w with pos := { x := pyRound position.x, y := pyRound position.y } }

variable (env : PetWindowEnv)

/-! ## Requests -/

/-- Submit an action of the pet's own menu or of the tray. -/
def requestPetAction (action : ProductionAction) (source : ActionSource) : Program PetWindow ActionOutcome := do
  if (← layeredState).lifecycle = .closing ∨ action ∉ (← get).availableProductionActions then return .invalidSequence
  else
    let outcome ← onAnimation (PetAnimationEngine.requestAction env.engine action source)
    syncRendererState
    emit .presentationStateChanged
    return outcome

def requestUserPetAction (action : ProductionAction) : Program PetWindow ActionOutcome :=
  requestPetAction env action .user

/-! ## The mouse -/

def mousePressEvent (event : MouseEvent) : Program PetWindow Bool := do
  if event.button = some .left then
    if ← acceptsInteraction then
      let w ← get
      match w.pointerGesture.press event.position event.globalPosition env.startDragDistance with
      | .error _ => return false
      | .ok (_, pointerGesture) =>
        set { w with pointerGesture, dragOffset := some event.position }
        return true
    else return false
  else if event.button = some .right then
    if ← acceptsInteraction then
      modify fun w => { w with rightPressPos := some event.globalPosition }
      return true
    else return false
  else return false

/-- The window follows the pointer from where it was pressed. -/
def followPointer (globalPosition : Point) (workspaces : List Rect) : Program PetWindow Bool := do
  match (← get).dragOffset with
  | none => return false
  | some offset =>
    let target : Point := { x := globalPosition.x - offset.x, y := globalPosition.y - offset.y }
    let snapshot ← onAnimation (PetAnimationEngine.onMotion (PetMotionModel.dragTo target workspaces))
    moveTo snapshot.position
    return true

/-- The engine starts to drag; where it does not, the gesture is given up. -/
def beginDrag : Program PetWindow Bool := do
  let started : Except PetError ActionOutcome ← attempt (onAnimation (PetAnimationEngine.startDragging env.engine))
  match started with
  | .error .stateTransition =>
    let _ ← onGesture (·.cancel .closing)
    return false
  | .error error => throw error
  | .ok outcome =>
    if outcome ≠ .accepted ∧ outcome ≠ .legacyDirect then
      let _ ← onGesture (·.cancel .playbackDegraded)
      return false
    else
      syncRendererState
      return true

def mouseMoveEvent (event : MouseEvent) (workspaces : List Rect) : Program PetWindow Bool := do
  if .left ∉ event.buttons then return false
  else
    match ← onGesture (·.move event.globalPosition) with
    | .beginDrag => if ← beginDrag env then followPointer event.globalPosition workspaces else return false
    | .drag => followPointer event.globalPosition workspaces
    | _ => return true

/-- A right release close to its press asks for the palette. -/
def releaseRight (event : MouseEvent) : Program PetWindow Bool := do
  let pressPos := (← get).rightPressPos
  modify fun w => { w with rightPressPos := none }
  match pressPos with
  | none => return false
  | some pressPos =>
    if (← acceptsInteraction) ∧ PetPointerGesture.distance event.globalPosition pressPos ≤ env.startDragDistance then
      emit .actionPaletteRequested
      return true
    else return false

def mouseReleaseEvent (event : MouseEvent) (workspaces : List Rect) : Program PetWindow Bool := do
  if event.button = some .left then
    let decision ← onGesture (·.release event.globalPosition)
    modify fun w => { w with dragOffset := none }
    match decision with
    | .releaseActiveDrag =>
      let _ ← onAnimation (PetAnimationEngine.releaseDrag env.engine (some workspaces))
      syncRendererState
      return true
    | .click =>
      let _ ← requestUserPetAction env .interact
      return true
    | _ => return false
  else if event.button = some .right then releaseRight env event
  else return false

/-- The handler of a mouse event. -/
def mouseEvent (type : MouseEventType) (event : MouseEvent) (workspaces : List Rect) : Program PetWindow Bool :=
  match type with
  | .press => mousePressEvent env event
  | .move => mouseMoveEvent env event workspaces
  | .release => mouseReleaseEvent env event workspaces

/-- Give the gesture up, and end the drag it may have begun. -/
def cancelPointerGesture (reason : GestureCancelReason) (workspaces : List Rect) : Program PetWindow Unit := do
  modify fun w => { w with rightPressPos := none }
  let decision ← onGesture (·.cancel reason)
  modify fun w => { w with dragOffset := none }
  match decision with
  | .releaseActiveDrag =>
    let released : Except PetError ActionOutcome ←
      attempt (onAnimation (PetAnimationEngine.releaseDrag env.engine (some workspaces)))
    match released with
    | .error .stateTransition => pure ()
    | .error error => throw error
    | .ok _ => pure ()
  | .abortActiveDrag =>
    let _ ← onAnimation (PetAnimationEngine.containRendererFailure env.engine)
  | _ => pure ()

end PetWindow

end ArkClaw.Presentation
