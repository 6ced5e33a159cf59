import ArkClaw.Pet.State

/-!
# Production actions and who may ask for them

The seven content-free production actions, the authority under which one is requested, and the semantic
target each stands for. An intent whose source does not go with its origin cannot be built.
-/

namespace ArkClaw.Pet

inductive ProductionAction where
  | relax | moveLeft | moveRight | sit | sleep | special | interact
deriving DecidableEq, Repr

inductive ActionOrigin where
  | system | explicit | autonomous
deriving DecidableEq, Repr

inductive ActionSource where
  | tray | user | agent | scheduler | motion | lifecycle
deriving DecidableEq, Repr

inductive AutonomousExecutionMode where
  | autonomous | explicitHold | suspended
deriving DecidableEq, Repr

/-- The identity of a Python object: one handed in by a caller, or one the engine makes for itself. -/
inductive ObjectId where
  | given (n : Nat)
  | fresh (n : Nat)
deriving DecidableEq, Repr

/-- The sources that may speak for an origin. -/
def sourcesByOrigin : ActionOrigin → List ActionSource
  | .system => [.motion, .lifecycle]
  | .explicit => [.tray, .user, .agent]
  | .autonomous => [.scheduler]

theorem scheduler_authority : ActionSource.scheduler ∈ sourcesByOrigin .autonomous := by decide

theorem motion_authority : ActionSource.motion ∈ sourcesByOrigin .system := by decide

/-- A production action somebody with the authority for it asks for. -/
structure ActionIntent where
  action : ProductionAction
  origin : ActionOrigin
  source : ActionSource
  requestToken : ObjectId
  authority : source ∈ sourcesByOrigin origin
deriving DecidableEq

/-- An explicit intent that waits for the protected playback to end. -/
structure PendingExplicitIntent where
  action : ProductionAction
  source : ActionSource
  requestToken : ObjectId
  explicit_source : source ∈ sourcesByOrigin .explicit
deriving DecidableEq

/-- The intent a pending one becomes. -/
def PendingExplicitIntent.intent (pending : PendingExplicitIntent) : ActionIntent :=
  { action := pending.action, origin := .explicit, source := pending.source
    requestToken := pending.requestToken, authority := pending.explicit_source }

structure SemanticActionTarget where
  motion : PetMotionState
  activity : PetActivityState
  facing : Option PetFacing := none

/-- The semantic state a production action stands for. -/
def semanticTarget : ProductionAction → SemanticActionTarget
  | .relax => { motion := .idle, activity := .none }
  | .moveLeft => { motion := .walkingLeft, activity := .none, facing := some .left }
  | .moveRight => { motion := .walkingRight, activity := .none, facing := some .right }
  | .sit => { motion := .idle, activity := .sitting }
  | .sleep => { motion := .idle, activity := .sleeping }
  | .special => { motion := .idle, activity := .special }
  | .interact => { motion := .idle, activity := .interact }

/-- The sequence that plays a production action. -/
def productionSequenceByAction : ProductionAction → SequenceName
  | .relax => .productionRelax
  | .moveLeft => .productionMoveLeft
  | .moveRight => .productionMoveRight
  | .sit => .productionSit
  | .sleep => .productionSleep
  | .special => .productionSpecial
  | .interact => .productionInteract

/-- The Track 0 handle of a production action. -/
def productionTrack0Action : ProductionAction → PetActionName
  | .relax => .idle
  | .moveLeft => .walkLeft
  | .moveRight => .walkRight
  | .sit => .sitIdle
  | .sleep => .sleepLoop
  | .special => .wave
  | .interact => .happy

/-- The production actions that play once, uninterrupted. -/
def ProductionAction.isProtected : ProductionAction → Bool
  | .special | .interact => true
  | _ => false

/-- The production actions that loop until something replaces them. -/
def ProductionAction.isLoop (action : ProductionAction) : Bool := !action.isProtected

/-- The semantic target of an action permits its Track 0 handle. -/
theorem semanticTarget_permits (action : ProductionAction) : productionTrack0Action action ∈
      stateActionCompatibility (semanticTarget action).motion (semanticTarget action).activity := by
  cases action <;> decide

end ArkClaw.Pet
