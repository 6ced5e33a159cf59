import ArkClaw.Pet.Motion
import ArkClaw.Pet.Scheduler
import ArkClaw.Pet.Track0

/-!
# The animation engine: intents and semantic events

The engine coordinates the layered state with Track 0. A production intent or a semantic event proposes a
state, asks Track 0 to admit its request, and only then commits the proposal and plays. An operation is a
program over the engine's state; what it assigned before it raised stays assigned.

Identities of objects the source creates with `object()` and draws of the random source are numbered in the
state. The rendered frame is left out: nothing the engine decides reads it.
-/

namespace ArkClaw.Pet

open ArkClaw.Library

inductive PetAnimationEventType where
  | startReading | startFalling | startWalking | startThinking | startReminding | startDragging
  | releaseDrag | pause | resume | beginClosing
deriving DecidableEq, Repr

/-- The events that interrupt whatever the engine is doing. -/
def PetAnimationEventType.isMandatoryInterruption : PetAnimationEventType → Bool
  | .startFalling | .startDragging | .pause | .beginClosing => true
  | _ => false

/-- Content-free transaction input. -/
structure PetAnimationEvent where
  eventType : PetAnimationEventType
  requestToken : ObjectId
  facing : Option PetFacing := none
  inputSessionToken : Option ObjectId := none
deriving DecidableEq

structure PetAnimationConfig where
  maximumDeltaSeconds : Rat := 1 / 10
  blinkingDurationSeconds : Rat := 14 / 100
  blinkingIntervalMinSeconds : Rat := 2
  blinkingIntervalMaxSeconds : Rat := 5
  walkingDurationSeconds : Rat := 24 / 10
  thinkingDurationSeconds : Rat := 12 / 10
  reminderDurationSeconds : Rat := 9 / 10
  randomActionIntervalMinSeconds : Rat := 4
  randomActionIntervalMaxSeconds : Rat := 8
  all_pos : 0 < maximumDeltaSeconds ∧ 0 < blinkingDurationSeconds ∧ 0 < blinkingIntervalMinSeconds
    ∧ 0 < blinkingIntervalMaxSeconds ∧ 0 < walkingDurationSeconds ∧ 0 < thinkingDurationSeconds
    ∧ 0 < reminderDurationSeconds ∧ 0 < randomActionIntervalMinSeconds
    ∧ 0 < randomActionIntervalMaxSeconds := by norm_num
  bounds : blinkingIntervalMinSeconds ≤ blinkingIntervalMaxSeconds
    ∧ randomActionIntervalMinSeconds ≤ randomActionIntervalMaxSeconds := by norm_num

/-- What an engine is built with: the controller's environment where one is attached, whether it has a
scheduler, its random source, and its own clock, read by number. -/
structure EngineEnv where
  track0 : Option Track0Env
  hasScheduler : Bool
  rng : RandomSource
  config : PetAnimationConfig := {}
  clock : Nat → Rat
  useRelaxMotionFallback : Bool

/-- The engine's own state. -/
structure PetAnimationEngine where
  motion : PetMotionModel
  track0 : PetTrack0Controller := {}
  autonomousSchedulerState : Option AutonomousSchedulerState := none
  autonomousResumeAction : Option ProductionAction := none
  executionMode : AutonomousExecutionMode := .autonomous
  pendingExplicitAction : Option PendingExplicitIntent := none
  resumeAfterProtected : Bool := false
  activeProductionAction : Option ProductionAction := none
  blinkElapsed : Rat := 0
  actionRemaining : Rat := 0
  nextBlink : Rat
  nextRandomAction : Rat
  lastAppliedDelta : Rat := 0
  dragSessionToken : Option ObjectId := none
  draws : Nat
  objects : Nat := 0
  clockReadings : Nat := 0

namespace PetAnimationEngine

/-! ## Programs of the parts -/

def onMotion {α : Type} (c : Program PetMotionModel α) : Program PetAnimationEngine α :=
  onPart (·.motion) (fun e motion => { e with motion }) c

def onTrack0 {α : Type} (c : Program PetTrack0Controller α) : Program PetAnimationEngine α :=
  onPart (·.track0) (fun e track0 => { e with track0 }) c

def onRandom {α : Type} (c : Program Nat α) : Program PetAnimationEngine α :=
  onPart (·.draws) (fun e draws => { e with draws }) c

/-- A new object, different from every other. -/
def newObject : Program PetAnimationEngine ObjectId := do
  let e ← get
  set { e with objects := e.objects + 1 }
  return .fresh e.objects

variable (env : EngineEnv)

def readClock : Program PetAnimationEngine Rat := do
  let e ← get
  set { e with clockReadings := e.clockReadings + 1 }
  return env.clock e.clockReadings

def newBlinkInterval : Program PetAnimationEngine Rat :=
  onRandom (env.rng.drawUniform env.config.blinkingIntervalMinSeconds env.config.blinkingIntervalMaxSeconds)

def newRandomActionInterval : Program PetAnimationEngine Rat :=
  onRandom (env.rng.drawUniform env.config.randomActionIntervalMinSeconds
    env.config.randomActionIntervalMaxSeconds)

/-- The engine as it is built around a motion model: the first two draws are its intervals. -/
def build (motion : PetMotionModel) : PetAnimationEngine where
  motion
  nextBlink := env.rng.uniform 0 env.config.blinkingIntervalMinSeconds env.config.blinkingIntervalMaxSeconds
  nextRandomAction := env.rng.uniform 1 env.config.randomActionIntervalMinSeconds
    env.config.randomActionIntervalMaxSeconds
  draws := 2

/-- Track 0 is attached and its player meets the sequencing contract. -/
def productionSequencingEnabled : Bool :=
  match env.track0 with
  | none => false
  | some t0 => sequencingEnabled t0.player.capabilities

def propose (change : StateChange) : Program PetAnimationEngine ProposedStateTransition := do
  getOrRaise ((← get).motion.states.propose change)

def commit (proposal : ProposedStateTransition) : Program PetAnimationEngine Unit :=
  onMotion (PetMotionModel.commitStateTransition proposal)

/-! ## Bookkeeping -/

def clearProtectedContinuation : Program PetAnimationEngine Unit :=
  modify fun e => { e with pendingExplicitAction := none, resumeAfterProtected := false }

def setMode (mode : AutonomousExecutionMode) : Program PetAnimationEngine Unit :=
  modify fun e => { e with executionMode := mode }

/-- Stop whatever the engine is doing: nothing pending, suspended, no production action. -/
def interrupt : Program PetAnimationEngine Unit := do
  clearProtectedContinuation
  modify fun e => { e with executionMode := .suspended, activeProductionAction := none }

def activeRequestIsProtected (e : PetAnimationEngine) : Bool :=
  e.track0.activeRequest.any (·.isProtected)

/-- Raise unless the layered state permits what Track 0 desires. -/
def assertTransactionCompatible : Program PetAnimationEngine Unit := do
  let state ← onMotion PetMotionModel.state
  let c := (← get).track0
  getOrRaise (assertAnimationCompatible state c.state.desiredAction c.state.health)

/-- The facts arbitration needs from a controller under a layered state. -/
def contextOf (state : PetLayeredState) (c : PetTrack0Controller) : ArbitrationContext where
  incomingMode := .replace
  playbackHealth := c.state.health
  confirmedSemanticEpoch := if c.state.confirmedEpoch.isSome then c.activeRequest.map (·.semanticEpoch) else none
  activeActionCompatible := decide (AnimationCompatible state c.state.desiredAction c.state.health)

def arbitrationContext : Program PetAnimationEngine ArbitrationContext := do
  let state ← onMotion PetMotionModel.state
  return contextOf state (← get).track0

/-- Play on a free track, else apply the decided cancellation mode. -/
def playOrCancel (t0 : Track0Env) (reason : CancelReason) (mode : Option CancellationMode)
    (request : ActionRequest) : Program PetAnimationEngine ActionOutcome := do
  if (← get).track0.activeRequest.isNone then onTrack0 (PetTrack0Controller.play t0 request)
  else
    match mode with
    | none => return .accepted
    | some mode => onTrack0 (PetTrack0Controller.cancel t0 reason mode (some request))

/-- Enter the autonomous mode, and the scheduler with the confirmed playback. -/
def activateAutonomous (action : ProductionAction) : Program PetAnimationEngine Unit := do
  match (← get).track0.state.confirmedEpoch with
  | none =>
    modify fun e => { e with executionMode := .suspended, autonomousSchedulerState := none }
  | some confirmed =>
    setMode .autonomous
    if !action.isProtected then modify fun e => { e with autonomousResumeAction := some action }
    if !env.hasScheduler then modify fun e => { e with autonomousSchedulerState := none }
    else
      let state ← getOrRaise (autonomousStateForAction action)
      let enteredAt ← readClock env
      let entered ← onRandom (AutonomousActionScheduler.enter env.rng state enteredAt
        (some confirmed.generation) (some confirmed.playbackToken))
      modify fun e => { e with autonomousSchedulerState := some entered }

/-! ## Production intents -/

/-- The semantic change a production action proposes. -/
def intentChange (action : ProductionAction) (facingOverride : Option PetFacing) : StateChange :=
  let target := semanticTarget action
  { motion := some target.motion, activity := some target.activity, facing := facingOverride <|> target.facing }

def proposeRelax : Program PetAnimationEngine ProposedStateTransition := propose (intentChange .relax none)

/-- The player refused an admitted intent: suspend, and stop a walk that would have no animation. -/
def failIntent (intent : ActionIntent) (outcome : ActionOutcome) : Program PetAnimationEngine ActionOutcome := do
  modify fun e => { e with executionMode := .suspended, activeProductionAction := none }
  if intent.action = .moveLeft ∨ intent.action = .moveRight then
    commit (← proposeRelax)
  assertTransactionCompatible
  return outcome

/-- An admitted intent plays: record whose playback it is. -/
def settleIntent (intent : ActionIntent) : Program PetAnimationEngine ActionOutcome := do
  modify fun e => { e with activeProductionAction := some intent.action }
  if intent.action.isProtected then setMode .suspended
  else if intent.origin = .explicit then setMode .explicitHold
  else
    modify fun e => { e with executionMode := .autonomous, autonomousResumeAction := some intent.action }
  assertTransactionCompatible
  return .accepted

/-- Commit an admitted intent and play it. -/
def carryOutIntent (t0 : Track0Env) (intent : ActionIntent) (proposal : ProposedStateTransition)
    (request : ActionRequest) (mode : Option CancellationMode) : Program PetAnimationEngine ActionOutcome := do
  if intent.origin = .explicit then clearProtectedContinuation
  commit proposal
  let outcome ← playOrCancel t0 .userInterrupt mode request
  if outcome ≠ .accepted then failIntent intent outcome else settleIntent intent

/-- Propose an intent and ask Track 0 to admit it. A human interface overrides arbitration. -/
def admitIntent (t0 : Track0Env) (intent : ActionIntent) (facingOverride : Option PetFacing)
    (override : Bool) : Program PetAnimationEngine ActionOutcome := do
  let proposal ← propose (intentChange intent.action facingOverride)
  let name := productionSequenceByAction intent.action
  let entry := sequenceCatalog name
  let request ← getOrRaise (ActionRequest.make name entry.interruptionClass entry.isProtected
    intent.requestToken proposal.targetEpoch none intent.origin intent.source)
  let health := (← get).track0.state.health
  if ¬AnimationCompatible proposal.targetState (some (productionTrack0Action intent.action)) health then
    return .rejectedIncompatibleState
  else
    let preflight := PetTrack0Controller.preflight t0 request
    if preflight.outcome ≠ .accepted then return preflight.outcome
    else if override then carryOutIntent t0 intent proposal request (some .replace)
    else
      let context ← arbitrationContext
      let decision := (← get).track0.arbitrate request context
      if decision.outcome ≠ .accepted then return decision.outcome
      else carryOutIntent t0 intent proposal request decision.mode

/-- Behind a protected playback an explicit intent waits and any other is refused. -/
def queueIntent (intent : ActionIntent) : Program PetAnimationEngine ActionOutcome :=
  if h : intent.origin = .explicit then do
    modify fun e => { e with
      pendingExplicitAction := some
        { action := intent.action, source := intent.source, requestToken := intent.requestToken
          explicit_source := h ▸ intent.authority }
      resumeAfterProtected := false, executionMode := .suspended }
    return .accepted
  else return .rejectedPriority

/-- Submit one typed production intent through Track 0. -/
def submitProductionIntent (t0 : Track0Env) (intent : ActionIntent)
    (facingOverride : Option PetFacing := none) : Program PetAnimationEngine ActionOutcome := do
  let e ← get
  let isProtected := e.activeRequestIsProtected
  let override : Bool :=
    isProtected ∧ intent.origin = .explicit ∧ (intent.source = .user ∨ intent.source = .tray)
  let plays : Bool :=
    e.activeProductionAction = some intent.action ∧ e.track0.state.confirmedEpoch.isSome
  if override ∧ plays then
    clearProtectedContinuation
    return .accepted
  else if isProtected ∧ !override then queueIntent intent
  else if intent.origin = .explicit ∧ intent.action.isLoop ∧ e.executionMode = .explicitHold ∧ plays then
    modify fun e => { e with resumeAfterProtected := false }
    return .accepted
  else admitIntent t0 intent facingOverride override

/-- A played autonomous action enters autonomy; one that does not play suspends it. -/
def settleAutonomous (action : ProductionAction) (outcome : ActionOutcome) : Program PetAnimationEngine Unit :=
  if outcome = .accepted then activateAutonomous env action else setMode .suspended

/-- Return to the autonomous Relax, turned to a facing where one is given. -/
def recoverAutonomousRelax (t0 : Track0Env) (facing : Option PetFacing := none) :
    Program PetAnimationEngine ActionOutcome := do
  let requestToken ← newObject
  let outcome ← submitProductionIntent t0
    { action := .relax, origin := .autonomous, source := .scheduler, requestToken, authority := scheduler_authority }
    facing
  settleAutonomous env .relax outcome
  return outcome

/-! ## Semantic events -/

/-- The sequence that plays while the pet is dragged. -/
def dragSequence : SequenceName := if env.useRelaxMotionFallback then .productionMotionFallback else .dragHold

/-- The change, the sequence, and the cancel reason of an event; no sequence clears the track. -/
def eventChange (event : PetAnimationEvent) :
    Except PetError (StateChange × Option SequenceName × CancelReason) :=
  match event.eventType with
  | .startReading => .ok ({ activity := some .reading }, some .read, .userInterrupt)
  | .startFalling =>
    .ok ({ motion := some .falling, mandatoryForSafety := true }, some .fallRecovery, .motionOverride)
  | .startWalking =>
    match event.facing with
    | none => .error (.value "walking event requires a facing direction")
    | some .left =>
      .ok ({ motion := some .walkingLeft, facing := some .left }, some .walkLeft, .userInterrupt)
    | some .right =>
      .ok ({ motion := some .walkingRight, facing := some .right }, some .walkRight, .userInterrupt)
  | .startThinking =>
    .ok ({ motion := some .idle, activity := some .thinking }, some .think, .userInterrupt)
  | .startReminding =>
    .ok ({ motion := some .idle, activity := some .reminding }, some .remind, .userInterrupt)
  | .startDragging => .ok ({ motion := some .dragging }, some (dragSequence env), .userInterrupt)
  | .releaseDrag => .ok ({ motion := some .falling }, some .dragRelease, .motionOverride)
  | .pause => .ok ({ lifecycle := some .paused, mandatoryForSafety := true }, none, .pause)
  | .resume =>
    .ok ({ lifecycle := some .active, motion := some .idle, activity := some .none }, some .productionRelax,
      .userInterrupt)
  | .beginClosing =>
    .ok ({ lifecycle := some .closing, mandatoryForSafety := true }, none, .systemShutdown)

def proposeEvent (event : PetAnimationEvent) :
    Program PetAnimationEngine (ProposedStateTransition × Option SequenceName × CancelReason) := do
  let (change, sequenceName, reason) ← getOrRaise (eventChange env event)
  let proposal ← propose change
  return (proposal, sequenceName, reason)

def eventOrigin (event : PetAnimationEvent) : ActionOrigin :=
  match event.eventType with
  | .startFalling | .pause | .resume | .beginClosing => .system
  | _ => .explicit

def eventSource (event : PetAnimationEvent) : ActionSource :=
  match event.eventType with
  | .startFalling => .motion
  | .pause | .resume | .beginClosing => .lifecycle
  | _ => .user

/-- A mandatory proposal that cannot play is committed all the same, over a cleared track. -/
def containMandatoryProposal (t0 : Track0Env) (proposal : ProposedStateTransition) (reason : CancelReason) :
    Program PetAnimationEngine ActionOutcome := do
  commit proposal
  let outcome ← onTrack0 (PetTrack0Controller.containPreflightFailure t0 reason)
  assertTransactionCompatible
  return outcome

/-- A resumed pet relaxes autonomously if its Relax plays; no other event sets the mode here. -/
def settleEvent (event : PetAnimationEvent) (outcome : ActionOutcome) : Program PetAnimationEngine Unit :=
  if event.eventType ≠ .resume then pure ()
  else if outcome ≠ .accepted then setMode .suspended
  else do
    modify fun e => { e with activeProductionAction := some .relax }
    activateAutonomous env .relax

/-- Commit an admitted event and play its sequence. -/
def carryOutEvent (t0 : Track0Env) (event : PetAnimationEvent) (proposal : ProposedStateTransition)
    (reason : CancelReason) (request : ActionRequest) (mode : Option CancellationMode) :
    Program PetAnimationEngine ActionOutcome := do
  commit proposal
  let outcome ← playOrCancel t0 reason mode request
  settleEvent env event outcome
  assertTransactionCompatible
  return outcome

/-- Ask Track 0 to admit a proposed event. -/
def submitEvent (t0 : Track0Env) (event : PetAnimationEvent) (proposal : ProposedStateTransition)
    (sequenceName : SequenceName) (reason : CancelReason) : Program PetAnimationEngine ActionOutcome := do
  let entry := sequenceCatalog sequenceName
  let request ← getOrRaise (ActionRequest.make sequenceName entry.interruptionClass entry.isProtected
    event.requestToken proposal.targetEpoch event.inputSessionToken (eventOrigin event) (eventSource event))
  let targetAction := (RunnerProgress.first entry.sequence).step.action
  let health := (← get).track0.state.health
  if ¬AnimationCompatible proposal.targetState (some targetAction) health then
    if proposal.mandatoryForSafety then containMandatoryProposal t0 proposal reason
    else return .rejectedIncompatibleState
  else
    let preflight := PetTrack0Controller.preflight t0 request
    if preflight.outcome ≠ .accepted then
      if proposal.mandatoryForSafety then containMandatoryProposal t0 proposal reason
      else return preflight.outcome
    else
      let context ← arbitrationContext
      let decision := (← get).track0.arbitrate request context
      if decision.outcome ≠ .accepted then return decision.outcome
      else carryOutEvent env t0 event proposal reason request decision.mode

/-- A mandatory interruption stops the engine before anything is decided about the event. -/
def interruptFor (event : PetAnimationEvent) : Program PetAnimationEngine Unit :=
  if event.eventType.isMandatoryInterruption then interrupt else pure ()

/-- Coordinate one semantic event with Track 0. -/
def handleEvent (event : PetAnimationEvent) : Program PetAnimationEngine ActionOutcome := do
  interruptFor event
  match env.track0 with
  | none => return .legacyDirect
  | some t0 =>
    let (proposal, sequenceName, reason) ← proposeEvent env event
    match sequenceName with
    | none =>
      commit proposal
      let outcome ← onTrack0 (PetTrack0Controller.clear t0 reason)
      assertTransactionCompatible
      return outcome
    | some sequenceName => submitEvent env t0 event proposal sequenceName reason

end PetAnimationEngine

end ArkClaw.Pet
