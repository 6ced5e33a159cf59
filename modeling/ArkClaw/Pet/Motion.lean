import ArkClaw.Pet.Geometry

/-!
# The motion model

Dragging, falling, landing, walking, pause, and close over the layered machine, independent of any timer.
An operation is a program that may raise; what it assigned before raising stays assigned, as in the source.
-/

namespace ArkClaw.Pet

open ArkClaw.Library

structure PetMotionConfig where
  gravity : Rat := 1800
  landingDurationSeconds : Rat := 18 / 100
  walkingStridePixels : Rat := 24
  walkingCycleSeconds : Rat := 8 / 10
  gravity_pos : 0 < gravity := by norm_num
  landing_nonneg : 0 ≤ landingDurationSeconds := by norm_num
  stride_pos : 0 < walkingStridePixels := by norm_num
  cycle_pos : 0 < walkingCycleSeconds := by norm_num

/-- The configuration of a model that is given none. -/
def PetMotionConfig.standard : PetMotionConfig := {}

/-- Pixels a second of walking covers. -/
def PetMotionConfig.walkingSpeed (config : PetMotionConfig) : Rat :=
  config.walkingStridePixels / config.walkingCycleSeconds

structure PetMotionSnapshot where
  state : PetLayeredState
  position : Point
  verticalVelocity : Rat
  horizontalVelocity : Rat

/-- The motion model: a position, the layered machine, and the motion-local facts. -/
structure PetMotionModel where
  position : Point
  windowSize : Size
  config : PetMotionConfig := .standard
  states : PetLayeredStateMachine := {}
  verticalVelocity : Rat := 0
  horizontalVelocity : Rat := 0
  landingElapsed : Rat := 0
  pendingDirectionTurn : Option PetFacing := none

namespace PetMotionModel

/-- Read the layered state; a combination that is not permitted raises. -/
def state : Program PetMotionModel PetLayeredState := do
  getOrRaise (← get).states.snapshot

def snapshot : Program PetMotionModel PetMotionSnapshot := do
  let state ← state
  let m ← get
  return {
    state, position := m.position, verticalVelocity := m.verticalVelocity
    horizontalVelocity := m.horizontalVelocity }

/-- Apply one transition of the layered machine. -/
def onStates (transition : PetLayeredStateMachine → Except PetError PetLayeredStateMachine) :
    Program PetMotionModel Unit := do
  let m ← get
  let states ← getOrRaise (transition m.states)
  set { m with states }

/-- The horizontal velocity a committed motion starts with. -/
def walkingVelocity (config : PetMotionConfig) : PetMotionState → Rat
  | .walkingLeft => -config.walkingSpeed
  | .walkingRight => config.walkingSpeed
  | _ => 0

/-- Commit state authority output and synchronize motion-local facts. -/
def commitStateTransition (proposal : ProposedStateTransition) : Program PetMotionModel Unit := do
  onStates (·.commit proposal)
  let target := proposal.targetState
  modify fun m => { m with horizontalVelocity := walkingVelocity m.config target.motion }
  if target.lifecycle ≠ .active ∨ target.motion ∈ [PetMotionState.dragging, .falling] then
    modify fun m => { m with verticalVelocity := 0, landingElapsed := 0 }

variable (m : PetMotionModel)

/-- The ground of a workspace for this window. -/
def groundY (workspace : Rect) : Rat :=
  max workspace.y (workspace.bottom - m.windowSize.height)

def startDragging : Program PetMotionModel Unit := do
  if (← state).lifecycle = .closing then throw .stateTransition
  onStates (·.startDragging)
  modify fun m => { m with verticalVelocity := 0, horizontalVelocity := 0, landingElapsed := 0 }

def dragTo (position : Point) (workspaces : List Rect) : Program PetMotionModel PetMotionSnapshot := do
  if (← state).motion ≠ .dragging then throw .stateTransition
  let m ← get
  let workspace ← getOrRaise (selectWorkspace position m.windowSize workspaces)
  let position ← getOrRaise (clampDragPosition position m.windowSize workspace)
  set { m with position }
  snapshot

/-- Where a released window is put: inside the workspace, on its ground if it reaches the floor. -/
def releasedPosition (lifecycle : PetLifecycleState) (workspace : Rect) : Point :=
  let maximumX := max workspace.x (workspace.right - m.windowSize.width)
  let releasedX := min (max m.position.x workspace.x) maximumX
  if lifecycle = .paused then
    clampWindowPosition { x := releasedX, y := m.position.y } m.windowSize workspace
  else
    { x := releasedX
      y :=
        if workspace.bottom ≤ m.position.y + m.windowSize.height then m.groundY workspace
        else m.position.y }

/-- The released window touches the floor of the workspace. -/
def touchesFloor (workspace : Rect) : Prop :=
  workspace.bottom ≤ m.position.y + m.windowSize.height

instance (m : PetMotionModel) (workspace : Rect) : Decidable (m.touchesFloor workspace) :=
  inferInstanceAs (Decidable (_ ≤ _))

/-- The window stands where it was released; on a known floor it has landed already. -/
def settleRelease (workspace : Option Rect) : Program PetMotionModel PetMotionSnapshot := do
  onStates (·.releaseDrag)
  modify fun m => { m with verticalVelocity := 0, horizontalVelocity := 0, landingElapsed := 0 }
  match workspace with
  | none => snapshot
  | some workspace =>
    if (← state).lifecycle = .active ∧ (← get).touchesFloor workspace then
      onStates (·.land)
    snapshot

def releaseDrag (workspaces : Option (List Rect)) : Program PetMotionModel PetMotionSnapshot := do
  match workspaces with
  | none => settleRelease none
  | some workspaces =>
    let m ← get
    let workspace ← getOrRaise (selectWorkspace m.position m.windowSize workspaces)
    let lifecycle := (← state).lifecycle
    set { m with position := m.releasedPosition lifecycle workspace }
    settleRelease (some workspace)

def startFalling : Program PetMotionModel Unit := do
  onStates (·.startFalling)
  modify fun m => { m with verticalVelocity := 0, horizontalVelocity := 0 }

def pause : Program PetMotionModel Unit := do
  onStates (·.pause)
  modify fun m => { m with verticalVelocity := 0, horizontalVelocity := 0 }

def resume : Program PetMotionModel Unit := onStates (·.resume)

def beginClosing : Program PetMotionModel Unit :=
  modify fun m => { m with states := m.states.beginClosing, verticalVelocity := 0, horizontalVelocity := 0 }

def recoverFailedClose : Program PetMotionModel Unit := onStates (·.recoverFailedClose)

def startWalking (direction : PetFacing) : Program PetMotionModel Unit := do
  onStates (·.startWalking direction)
  modify fun m => { m with
    horizontalVelocity := if direction = .left then -m.config.walkingSpeed else m.config.walkingSpeed }

def stopWalking : Program PetMotionModel Unit := do
  onStates (·.stopWalking)
  modify fun m => { m with horizontalVelocity := 0 }

/-- Consume one contained workspace-boundary direction proposal. -/
def takePendingDirectionTurn : Program PetMotionModel (Option PetFacing) := do
  let m ← get
  set { m with pendingDirectionTurn := none }
  return m.pendingDirectionTurn

/-- Keep the window in its workspace; an active idle pet stands on the ground. -/
def constrain (workspaces : List Rect) : Program PetMotionModel PetMotionSnapshot := do
  let m ← get
  let workspace ← getOrRaise (selectWorkspace m.position m.windowSize workspaces)
  let clamped := clampWindowPosition m.position m.windowSize workspace
  let state ← state
  let position :=
    if state.lifecycle = .active ∧ state.motion = .idle then { x := clamped.x, y := m.groundY workspace }
    else clamped
  set { m with position }
  snapshot

/-- Python's default closeness of two numbers: within 1e-9 of the larger magnitude. -/
def isClose (a b : Rat) : Bool := |a - b| ≤ 1 / 1000000000 * max |a| |b|

/-- Commit one render-layout target position without touching state. -/
def placeForRenderLayout (position : Point) (workspace : Rect) : Program PetMotionModel PetMotionSnapshot := do
  let state ← state
  if state.lifecycle ≠ .active ∨ state.motion ≠ .idle then throw .stateTransition
  let m ← get
  if !isClose position.y m.position.y then
    throw (.value "Render-layout placement must not change the vertical position.")
  if position.x < workspace.x ∨ workspace.right < position.x + m.windowSize.width
      ∨ position.y < workspace.y ∨ workspace.bottom < position.y + m.windowSize.height then
    throw (.value "Render-layout placement must keep the window inside the workspace.")
  set { m with position }
  snapshot

/-- Restore and constrain a persisted position without changing state. -/
def restorePosition (position : Point) (workspaces : List Rect) : Program PetMotionModel PetMotionSnapshot := do
  let m ← get
  let workspace ← getOrRaise (selectWorkspace position m.windowSize workspaces)
  let clamped := clampWindowPosition position m.windowSize workspace
  set { m with
    position := { x := clamped.x, y := m.groundY workspace }
    verticalVelocity := 0, horizontalVelocity := 0, landingElapsed := 0 }
  snapshot

/-! ## One tick of physics -/

/-- Where a walking step would end without a workspace. -/
def walkingCandidate (elapsed : Rat) : Point :=
  { x := m.position.x + m.horizontalVelocity * elapsed, y := m.position.y }

def updateWalking (elapsed : Rat) (workspaces : List Rect) : Program PetMotionModel PetMotionSnapshot := do
  let m ← get
  let workspace ← getOrRaise (selectWorkspace m.position m.windowSize workspaces)
  let movingLeft := (← state).motion = .walkingLeft
  let candidate := m.walkingCandidate elapsed
  let clamped := clampWindowPosition candidate m.windowSize workspace
  set { m with position := clamped }
  if clamped.x ≠ candidate.x then
    modify fun m => { m with
      horizontalVelocity := 0
      pendingDirectionTurn := some (if movingLeft then .right else .left) }
  snapshot

def updateLanding (elapsed : Rat) : Program PetMotionModel PetMotionSnapshot := do
  modify fun m => { m with landingElapsed := m.landingElapsed + elapsed }
  let m ← get
  if m.config.landingDurationSeconds ≤ m.landingElapsed then
    onStates (·.finishLanding)
    modify fun m => { m with landingElapsed := 0 }
  snapshot

/-- Where a falling step would end without a workspace, at the speed the step ends with. -/
def fallingCandidate (elapsed : Rat) : Point :=
  { x := m.position.x
    y := m.position.y + (m.verticalVelocity + m.config.gravity * elapsed) * elapsed }

def updateFalling (elapsed : Rat) (workspaces : List Rect) : Program PetMotionModel PetMotionSnapshot := do
  let m ← get
  let workspace ← getOrRaise (selectWorkspace m.position m.windowSize workspaces)
  let candidate := m.fallingCandidate elapsed
  let clamped := clampWindowPosition candidate m.windowSize workspace
  let groundY := m.groundY workspace
  set { m with
    position := clamped, verticalVelocity := m.verticalVelocity + m.config.gravity * elapsed }
  if groundY ≤ candidate.y then
    modify fun m => { m with
      position := { x := clamped.x, y := groundY }, verticalVelocity := 0, landingElapsed := 0 }
    onStates (·.land)
  snapshot

/-- What moves depends on the motion the state is in. -/
def moveByState (elapsed : Rat) (workspaces : List Rect) : Program PetMotionModel PetMotionSnapshot := do
  let state ← state
  if state.lifecycle ≠ .active then constrain workspaces
  else
    match state.motion with
    | .idle => constrain workspaces
    | .dragging => snapshot
    | .walkingLeft | .walkingRight => updateWalking elapsed workspaces
    | .landing => updateLanding elapsed
    | .falling | .runningLeft | .runningRight => updateFalling elapsed workspaces

/-- One physical step. -/
def update (elapsed : Rat) (workspaces : List Rect) : Program PetMotionModel PetMotionSnapshot :=
  if elapsed < 0 then throw (.value "Elapsed time must not be negative.")
  else moveByState elapsed workspaces

end PetMotionModel

end ArkClaw.Pet
