import ArkClaw.Pet.Engine

/-!
# The animation engine: callbacks, ticks, and operations

A renderer callback advances the running sequence, hands a loop boundary to the scheduler, or ends a
playback and starts what follows it. A tick moves the physical model and may turn a walk, land a fall, or
let the random source start a walk or a thought. `Operation` lists what a caller can ask of an engine.
-/

namespace ArkClaw.Pet

open ArkClaw.Library

namespace PetAnimationEngine

variable (env : EngineEnv)
variable (e : PetAnimationEngine)

/-! ## Callbacks -/

/-- The callback is that of the playback the runner waits for. -/
def callbackMatchesSnapshot (event : PlaybackEvent) : Bool :=
  e.track0.runner.eventMatchesCurrentEpoch event

/-- The action the callback makes the runner play next. -/
def nextActionForCallback (event : PlaybackEvent) : Option PetActionName :=
  match e.track0.runner.progress with
  | none => none
  | some p =>
    if p.step.loop then
      if !event.loopBoundary || !e.track0.runner.pendingGracefulExit then none
      else
        match p.sequence.loopExitIndex with
        | none => none
        | some exitIndex => p.sequence.steps[exitIndex]?.map (·.action)
    else if event.loopBoundary then none
    else p.sequence.steps[p.currentIndex + 1]?.map (·.action)

/-- The callback completes the last step of a sequence that returns to idle. -/
def callbackReachesIdleTerminal (event : PlaybackEvent) : Bool :=
  match e.track0.runner.progress with
  | none => false
  | some p =>
    !p.step.loop && !event.loopBoundary && decide (p.currentIndex + 1 = p.sequence.steps.length)
      && decide (p.sequence.terminal = .idle)

/-- The callback completes a protected production playback. -/
def completesProductionProtected (event : PlaybackEvent) : Bool :=
  !event.loopBoundary && e.activeProductionAction.any (·.isProtected) && e.activeRequestIsProtected

/-- The callback completes a release, a fall, or a landing. -/
def completesMandatoryRecovery (event : PlaybackEvent) : Bool :=
  !event.loopBoundary && e.track0.activeRequest.any fun request =>
    decide (request.sequenceName ∈ [SequenceName.dragRelease, .fallRecovery, .landing])

/-- Idle follows a sequence that returned to it; a registry that cannot play it is contained. -/
def startIdleAfterTerminal (t0 : Track0Env) : Program PetAnimationEngine ActionOutcome := do
  let entry := sequenceCatalog .idle
  let requestToken ← newObject
  let request ← getOrRaise (ActionRequest.make .idle entry.interruptionClass entry.isProtected requestToken
    (← get).motion.states.epoch none .system .lifecycle)
  if (PetTrack0Controller.preflight t0 request).outcome ≠ .accepted then
    onTrack0 (PetTrack0Controller.containPreflightFailure t0 .rendererFailure)
  else onTrack0 (PetTrack0Controller.play t0 request)

/-- Submit what the scheduler proposed and tell it how that ended. -/
def submitProposal (t0 : Track0Env) (decision : AutonomousSchedulerDecision) (intent : ActionIntent)
    (now : Rat) : Program PetAnimationEngine ActionOutcome := do
  let outcome ← submitProductionIntent t0 intent
  let next : Program Nat AutonomousSchedulerState :=
    match outcome, (← get).track0.state.confirmedEpoch with
    | .accepted, some confirmed =>
      AutonomousActionScheduler.commitAccepted env.rng decision now confirmed.generation
        confirmed.playbackToken
    | _, _ => AutonomousActionScheduler.reject env.rng decision now
  let state ← onRandom next
  modify fun e => { e with autonomousSchedulerState := some state }
  return outcome

/-- Hand a numbered loop boundary to the scheduler; `none` where there is none to hand it to. -/
def handleAutonomousBoundary (t0 : Track0Env) (event : PlaybackEvent) (boundaryIndex : Int) :
    Program PetAnimationEngine (Option ActionOutcome) := do
  match (← get).autonomousSchedulerState with
  | none => return none
  | some state =>
    if !env.hasScheduler then return none
    else
      let now ← readClock env
      let boundary ← getOrRaise
        (AutonomousBoundaryEvent.make event.generation event.playbackToken boundaryIndex now)
      let requestToken ← newObject
      let e ← get
      let snapshot : AutonomousRuntimeSnapshot :=
        { now, executionMode := e.executionMode
          capabilities := [.relax, .moveLeft, .moveRight, .sit, .sleep, .special, .interact] }
      let decision ← onRandom
        (AutonomousActionScheduler.evaluate env.rng state snapshot (some boundary) requestToken)
      modify fun e => { e with autonomousSchedulerState := some decision.state }
      match decision.intent with
      | none => some <$> onTrack0 (PetTrack0Controller.handleCompletion t0 event)
      | some intent => some <$> submitProposal env t0 decision intent now

/-- What follows a protected playback: the explicit intent that waited, or the autonomous Relax. -/
def continueAfterProtected (t0 : Track0Env) (facing : Option PetFacing) :
    Program PetAnimationEngine ActionOutcome := do
  let pending := (← get).pendingExplicitAction
  clearProtectedContinuation
  modify fun e => { e with activeProductionAction := none }
  match pending with
  | some pending => submitProductionIntent t0 pending.intent
  | none => recoverAutonomousRelax env t0 facing

/-- What follows a release, a fall, or a landing: the track is cleared for the autonomous Relax. -/
def continueAfterRecovery (t0 : Track0Env) : Program PetAnimationEngine ActionOutcome := do
  let answer ← onTrack0 (PetTrack0Controller.clear t0 .motionOverride)
  if answer = .cleared then recoverAutonomousRelax env t0
  else
    setMode .suspended
    return answer

/-- Where the callback makes the runner return to idle, commit idle first: the request goes on under its
epoch. -/
def commitReturnIdle (event : PlaybackEvent) : Program PetAnimationEngine (Option (Option ActionRequest)) := do
  let e ← get
  if e.nextActionForCallback event ≠ some .returnIdle then return some none
  else
    let proposal ← propose { motion := some .idle, activity := some .none }
    getOrRaise (assertAnimationCompatible proposal.targetState (some .returnIdle) e.track0.state.health)
    match e.track0.activeRequest with
    | none => return none
    | some active =>
      commit proposal
      return some (some { active with semanticEpoch := proposal.targetEpoch })

/-- What follows a callback the controller accepted: the playback that ended may have been protected, a
recovery, or a sequence that returned to idle. -/
def followCompletion (t0 : Track0Env) (completesProtected completesRecovery reachesIdle : Bool)
    (facing : Option PetFacing) (completed : ActionOutcome) : Program PetAnimationEngine ActionOutcome := do
  let outcome ←
    if completed = .accepted ∧ completesProtected then continueAfterProtected env t0 facing
    else if completed = .accepted ∧ completesRecovery then continueAfterRecovery env t0
    else pure completed
  if outcome = .accepted ∧ reachesIdle then startIdleAfterTerminal t0 else pure outcome

/-- Advance the running sequence by a matching callback and start what follows its end. -/
def advanceSequence (t0 : Track0Env) (event : PlaybackEvent) (specialCompletionFacing : Option PetFacing) :
    Program PetAnimationEngine ActionOutcome := do
  let e ← get
  let completesProtected := e.completesProductionProtected event
  let facing :=
    if completesProtected ∧ e.activeProductionAction = some .special then specialCompletionFacing else none
  let completesRecovery := e.completesMandatoryRecovery event
  match ← commitReturnIdle event with
  | none => return .invalidSequence
  | some continuation =>
    let reachesIdle := (← get).callbackReachesIdleTerminal event
    let completed ← onTrack0 (PetTrack0Controller.handleCompletion t0 event continuation)
    let outcome ← followCompletion env t0 completesProtected completesRecovery reachesIdle facing completed
    assertTransactionCompatible
    return outcome

/-- Apply one renderer callback. -/
def handlePlaybackEvent (event : PlaybackEvent) (specialCompletionFacing : Option PetFacing := none) :
    Program PetAnimationEngine ActionOutcome := do
  match env.track0 with
  | none => return .legacyDirect
  | some t0 =>
    if !(← get).callbackMatchesSnapshot event then
      let outcome ← onTrack0 (PetTrack0Controller.handleCompletion t0 event)
      assertTransactionCompatible
      return outcome
    else
      let handled ←
        match event.loopBoundary, event.boundaryIndex with
        | true, some boundaryIndex => handleAutonomousBoundary env t0 event boundaryIndex
        | _, _ => pure none
      match handled with
      | some outcome =>
        assertTransactionCompatible
        return outcome
      | none => advanceSequence env t0 event specialCompletionFacing

/-! ## Other operations on the running playback -/

/-- Submit one typed explicit production action. -/
def requestAction (action : ProductionAction) (source : ActionSource) :
    Program PetAnimationEngine ActionOutcome := do
  let requestToken ← newObject
  if authority : source ∈ sourcesByOrigin .explicit then
    match env.track0 with
    | none => return .legacyDirect
    | some t0 =>
      submitProductionIntent t0 { action, origin := .explicit, source, requestToken, authority }
  else throw (.value "action origin and source are incompatible")

/-- Establish the initial autonomous Relax. -/
def startAutonomous : Program PetAnimationEngine ActionOutcome := do
  match env.track0 with
  | none => return .legacyDirect
  | some t0 =>
    if (← get).track0.activeRequest.isSome then return .rejectedDuplicate
    else recoverAutonomousRelax env t0

/-- The action autonomy resumes with, on a track that was just freed. -/
def restartAutonomous (t0 : Track0Env) (resumeAction : Option ProductionAction) :
    Program PetAnimationEngine ActionOutcome := do
  match resumeAction with
  | none => startAutonomous env
  | some action =>
    let requestToken ← newObject
    let outcome ← submitProductionIntent t0
      { action, origin := .autonomous, source := .scheduler, requestToken, authority := scheduler_authority }
    settleAutonomous env action outcome
    return outcome

/-- Return the track to the autonomous controller immediately. -/
def resumeAutonomous (_source : ActionSource) : Program PetAnimationEngine ActionOutcome := do
  match env.track0 with
  | none => return .legacyDirect
  | some t0 =>
    let resumeAction := (← get).autonomousResumeAction
    interrupt
    if (← get).track0.activeRequest.isNone then restartAutonomous env t0 resumeAction
    else
      let answer ← onTrack0 (PetTrack0Controller.clear t0 .userInterrupt)
      if answer ≠ .cleared then
        assertTransactionCompatible
        return answer
      else restartAutonomous env t0 resumeAction

/-- Stop motion and autonomy after the playback event boundary fails. -/
def containRendererFailure : Program PetAnimationEngine ActionOutcome := do
  interrupt
  commit (← proposeRelax)
  match env.track0 with
  | none => return .legacyDirect
  | some t0 => onTrack0 (PetTrack0Controller.clear t0 .rendererFailure)

/-- Ask the running sequence to leave its loop. -/
def requestGracefulExit : Program PetAnimationEngine ActionOutcome :=
  match env.track0 with
  | none => return .legacyDirect
  | some t0 =>
    if !sequencingEnabled t0.player.capabilities then return .legacyDirect
    else onTrack0 (PetTrack0Controller.cancel t0 .userInterrupt .gracefulExit)

/-! ## Events under their own method -/

/-- Handle an event that carries a new request token. -/
def submitNewEvent (eventType : PetAnimationEventType) (facing : Option PetFacing := none)
    (inputSessionToken : Option ObjectId := none) : Program PetAnimationEngine ActionOutcome := do
  let requestToken ← newObject
  handleEvent env { eventType, requestToken, facing, inputSessionToken }

def requestWalk (direction : PetFacing) : Program PetAnimationEngine ActionOutcome := do
  if productionSequencingEnabled env then submitNewEvent env .startWalking (some direction)
  else
    onMotion (PetMotionModel.startWalking direction)
    modify fun e => { e with actionRemaining := env.config.walkingDurationSeconds }
    return .legacyDirect

def requestThinkingAnimation : Program PetAnimationEngine ActionOutcome := do
  if productionSequencingEnabled env then submitNewEvent env .startThinking
  else
    let state ← onMotion PetMotionModel.state
    if state.motion ∈ [PetMotionState.walkingLeft, .walkingRight] then onMotion PetMotionModel.stopWalking
    onMotion (PetMotionModel.onStates (·.startThinking))
    modify fun e => { e with actionRemaining := env.config.thinkingDurationSeconds }
    return .legacyDirect

def requestReminderAnimation : Program PetAnimationEngine ActionOutcome := do
  if productionSequencingEnabled env then submitNewEvent env .startReminding
  else
    onMotion (PetMotionModel.onStates (·.startReminding))
    modify fun e => { e with actionRemaining := env.config.reminderDurationSeconds }
    return .legacyDirect

def startDragging : Program PetAnimationEngine ActionOutcome := do
  if productionSequencingEnabled env then
    let sessionToken ← newObject
    let outcome ← submitNewEvent env .startDragging none (some sessionToken)
    if outcome = .accepted then
      modify fun e => { e with dragSessionToken := some sessionToken, actionRemaining := 0 }
    return outcome
  else
    modify fun e => { e with actionRemaining := 0 }
    onMotion PetMotionModel.startDragging
    return .legacyDirect

/-- The confirmed playback is the looping Relax of a healthy renderer. -/
def relaxes (c : PetTrack0Controller) : Bool :=
  c.state.health = .healthy ∧ c.state.confirmedEpoch.isSome ∧ c.state.desiredAction = some .idle

/-- A release while Relax stands in for the drag animations: only the physical model moves. -/
def releaseDragInRelax (workspaces : Option (List Rect)) : Program PetAnimationEngine ActionOutcome := do
  modify fun e => { e with
    dragSessionToken := none, executionMode := .suspended, activeProductionAction := none }
  let _ ← onMotion (PetMotionModel.releaseDrag workspaces)
  if !relaxes (← get).track0 then return .playbackDegraded
  else
    assertTransactionCompatible
    return .accepted

def releaseDrag (workspaces : Option (List Rect)) : Program PetAnimationEngine ActionOutcome := do
  if productionSequencingEnabled env then
    match (← get).dragSessionToken with
    | none => throw .stateTransition
    | some sessionToken =>
      if env.useRelaxMotionFallback then releaseDragInRelax workspaces
      else
        let outcome ← submitNewEvent env .releaseDrag none (some sessionToken)
        if outcome = .accepted then modify fun e => { e with dragSessionToken := none }
        return outcome
  else
    let _ ← onMotion (PetMotionModel.releaseDrag none)
    return .legacyDirect

def pause : Program PetAnimationEngine ActionOutcome := do
  if productionSequencingEnabled env then submitNewEvent env .pause
  else
    onMotion PetMotionModel.pause
    return .legacyDirect

def resume : Program PetAnimationEngine ActionOutcome := do
  if productionSequencingEnabled env then submitNewEvent env .resume
  else
    onMotion PetMotionModel.resume
    return .legacyDirect

def beginClosing : Program PetAnimationEngine ActionOutcome := do
  modify fun e => { e with actionRemaining := 0 }
  if productionSequencingEnabled env then submitNewEvent env .beginClosing
  else
    onMotion PetMotionModel.beginClosing
    return .legacyDirect

def recoverFailedClose : Program PetAnimationEngine Unit := onMotion PetMotionModel.recoverFailedClose

/-! ## The tick -/

/-- End a timed legacy action: the walk, the thought, or the reminder. -/
def finishTimedAction (state : PetLayeredState) : Program PetMotionModel Unit :=
  if state.motion ∈ [PetMotionState.walkingLeft, .walkingRight] then PetMotionModel.stopWalking
  else if state.behaviors.thinking then PetMotionModel.onStates (·.finishThinking)
  else if state.behaviors.reminding then PetMotionModel.onStates (·.finishReminding)
  else pure ()

def advanceAction (elapsed : Rat) : Program PetAnimationEngine Unit := do
  let e ← get
  if e.actionRemaining ≤ 0 then return ()
  else
    set { e with actionRemaining := max 0 (e.actionRemaining - elapsed) }
    if 0 < max 0 (e.actionRemaining - elapsed) then return ()
    else
      let state ← onMotion PetMotionModel.state
      let ended ← (do onMotion (finishTimedAction state); return true) <|> return false
      if ended then
        let interval ← newRandomActionInterval env
        modify fun e => { e with nextRandomAction := interval }

/-- The blink runs or starts. A pet that may not blink now waits for another interval. -/
def advanceBlink (elapsed : Rat) : Program PetAnimationEngine Unit := do
  let state ← onMotion PetMotionModel.state
  let e ← get
  if state.behaviors.blinking then
    set { e with blinkElapsed := e.blinkElapsed + elapsed }
    if env.config.blinkingDurationSeconds ≤ e.blinkElapsed + elapsed then
      onMotion (PetMotionModel.onStates fun m => .ok m.finishBlinking)
      let interval ← newBlinkInterval env
      modify fun e => { e with blinkElapsed := 0, nextBlink := interval }
  else
    set { e with nextBlink := e.nextBlink - elapsed }
    if e.nextBlink - elapsed ≤ 0 then
      onMotion (PetMotionModel.onStates (·.startBlinking))
      let state ← onMotion PetMotionModel.state
      if state.behaviors.blinking then modify fun e => { e with blinkElapsed := 0 }
      else
        let interval ← newBlinkInterval env
        modify fun e => { e with nextBlink := interval }

/-- Ask for the random action a draw selects. -/
def requestRandomAction : Program PetAnimationEngine Unit := do
  let selection ← onRandom (env.rng.drawRandrange 3)
  if selection = 0 then
    let _ ← requestWalk env .left
  else if selection = 1 then
    let _ ← requestWalk env .right
  else
    let _ ← requestThinkingAnimation env

/-- An idle pet that only breathes acts at random once its interval is over. -/
def advanceRandomAction (elapsed : Rat) : Program PetAnimationEngine Unit := do
  let state ← onMotion PetMotionModel.state
  let e ← get
  if 0 < e.actionRemaining ∨ state.motion ≠ .idle ∨ state.behaviors ≠ { breathing := true } then return ()
  else
    set { e with nextRandomAction := e.nextRandomAction - elapsed }
    if 0 < e.nextRandomAction - elapsed then return ()
    else requestRandomAction env

/-- The pet has landed while Relax stood in for the fall: adopt the running loop as autonomous Relax. -/
def finishRelaxMotionRecovery (t0 : Track0Env) : Program PetAnimationEngine ActionOutcome := do
  let e ← get
  if !relaxes e.track0 then
    setMode .suspended
    return .playbackDegraded
  else
    let entry := sequenceCatalog .productionRelax
    let requestToken ← newObject
    let request ← getOrRaise (ActionRequest.make .productionRelax entry.interruptionClass entry.isProtected
      requestToken e.motion.states.epoch none .autonomous .scheduler)
    let adopted ← onTrack0 (PetTrack0Controller.adoptActivePlayback t0 request)
    if adopted ≠ .accepted then
      setMode .suspended
      return adopted
    else
      modify fun e => { e with activeProductionAction := some .relax }
      activateAutonomous env .relax
      assertTransactionCompatible
      return .accepted

/-- An explicit walk that reached the edge gives way to the autonomous Relax. -/
def recoverExplicitBoundary (t0 : Track0Env) : Program PetAnimationEngine ActionOutcome := do
  interrupt
  let answer ← onTrack0 (PetTrack0Controller.clear t0 .motionOverride)
  if answer ≠ .cleared then return answer else recoverAutonomousRelax env t0

/-- An autonomous walk that reached the edge turns round. -/
def commitWorkspaceBoundaryTurn (t0 : Track0Env) (direction : PetFacing) : Program PetAnimationEngine Unit := do
  clearProtectedContinuation
  setMode .suspended
  let action : ProductionAction := if direction = .left then .moveLeft else .moveRight
  let requestToken ← newObject
  let outcome ← submitProductionIntent t0
    { action, origin := .system, source := .motion, requestToken, authority := motion_authority }
  if outcome = .accepted then activateAutonomous env action

/-- The walk reached the edge of the workspace. -/
def turnAtBoundary (direction : PetFacing) : Program PetAnimationEngine Unit := do
  let e ← get
  if e.activeProductionAction = some .moveLeft ∨ e.activeProductionAction = some .moveRight then
    match env.track0 with
    | none =>
      if e.executionMode = .explicitHold then interrupt
      else
        clearProtectedContinuation
        setMode .suspended
    | some t0 =>
      if e.executionMode = .explicitHold then
        let _ ← recoverExplicitBoundary env t0
      else commitWorkspaceBoundaryTurn env t0 direction
  else onMotion (PetMotionModel.startWalking direction)

/-- A landing that ended while Relax stood in for the drag animations. -/
def recoverLanding (previousMotion motion : PetMotionState) : Program PetAnimationEngine Unit :=
  if env.useRelaxMotionFallback ∧ previousMotion = .landing ∧ motion = .idle then
    match env.track0 with
    | none => pure ()
    | some t0 => (fun _ => ()) <$> finishRelaxMotionRecovery env t0
  else pure ()

/-- The turn the physical step asked for, if it asked for one. -/
def takeTurn : Program PetAnimationEngine Unit := do
  match ← onMotion PetMotionModel.takePendingDirectionTurn with
  | none => pure ()
  | some direction => turnAtBoundary env direction

/-- The physical step of a tick, and what the engine makes of it. -/
def advancePhysics (elapsed : Rat) (workspaces : List Rect) : Program PetAnimationEngine PetMotionSnapshot := do
  let previous ← onMotion PetMotionModel.state
  let moved ← onMotion (PetMotionModel.update elapsed workspaces)
  recoverLanding env previous.motion moved.state.motion
  takeTurn env
  onMotion PetMotionModel.snapshot

/-- One tick. Outside the active lifecycle only the window is kept in its workspace. -/
def advance (elapsedSeconds : Rat) (workspaces : List Rect) : Program PetAnimationEngine PetMotionSnapshot := do
  if elapsedSeconds < 0 then throw (.value "Elapsed animation time must not be negative.")
  else
    let state ← onMotion PetMotionModel.state
    if state.lifecycle ≠ .active then
      modify fun e => { e with lastAppliedDelta := 0 }
      onMotion (PetMotionModel.update 0 workspaces)
    else
      let applied := min elapsedSeconds env.config.maximumDeltaSeconds
      modify fun e => { e with lastAppliedDelta := applied }
      advanceAction env applied
      advanceBlink env applied
      advanceRandomAction env applied
      advancePhysics env applied workspaces

/-! ## Operations -/

/-- What a caller can ask of an engine, with the motion model's own calls a window makes. -/
inductive Operation where
  | handleEvent (event : PetAnimationEvent)
  | requestAction (action : ProductionAction) (source : ActionSource)
  | resumeAutonomous (source : ActionSource)
  | startAutonomous
  | requestWalk (direction : PetFacing)
  | requestThinkingAnimation
  | requestReminderAnimation
  | startDragging
  | releaseDrag (workspaces : Option (List Rect))
  | pause
  | resume
  | beginClosing
  | recoverFailedClose
  | requestGracefulExit
  | advance (elapsedSeconds : Rat) (workspaces : List Rect)
  | containRendererFailure
  | handlePlaybackEvent (event : PlaybackEvent) (specialCompletionFacing : Option PetFacing)
  | dragTo (position : Point) (workspaces : List Rect)
  | constrain (workspaces : List Rect)
  | placeForRenderLayout (position : Point) (workspace : Rect)
  | restorePosition (position : Point) (workspaces : List Rect)

/-- An operation as a program, its result dropped. -/
def Operation.program : Operation → Program PetAnimationEngine Unit
  | .handleEvent event => (fun _ => ()) <$> PetAnimationEngine.handleEvent env event
  | .requestAction action source => (fun _ => ()) <$> PetAnimationEngine.requestAction env action source
  | .resumeAutonomous source => (fun _ => ()) <$> PetAnimationEngine.resumeAutonomous env source
  | .startAutonomous => (fun _ => ()) <$> PetAnimationEngine.startAutonomous env
  | .requestWalk direction => (fun _ => ()) <$> PetAnimationEngine.requestWalk env direction
  | .requestThinkingAnimation => (fun _ => ()) <$> PetAnimationEngine.requestThinkingAnimation env
  | .requestReminderAnimation => (fun _ => ()) <$> PetAnimationEngine.requestReminderAnimation env
  | .startDragging => (fun _ => ()) <$> PetAnimationEngine.startDragging env
  | .releaseDrag workspaces => (fun _ => ()) <$> PetAnimationEngine.releaseDrag env workspaces
  | .pause => (fun _ => ()) <$> PetAnimationEngine.pause env
  | .resume => (fun _ => ()) <$> PetAnimationEngine.resume env
  | .beginClosing => (fun _ => ()) <$> PetAnimationEngine.beginClosing env
  | .recoverFailedClose => PetAnimationEngine.recoverFailedClose
  | .requestGracefulExit => (fun _ => ()) <$> PetAnimationEngine.requestGracefulExit env
  | .advance elapsed workspaces => (fun _ => ()) <$> PetAnimationEngine.advance env elapsed workspaces
  | .containRendererFailure => (fun _ => ()) <$> PetAnimationEngine.containRendererFailure env
  | .handlePlaybackEvent event facing =>
    (fun _ => ()) <$> PetAnimationEngine.handlePlaybackEvent env event facing
  | .dragTo position workspaces => (fun _ => ()) <$> onMotion (PetMotionModel.dragTo position workspaces)
  | .constrain workspaces => (fun _ => ()) <$> onMotion (PetMotionModel.constrain workspaces)
  | .placeForRenderLayout position workspace =>
    (fun _ => ()) <$> onMotion (PetMotionModel.placeForRenderLayout position workspace)
  | .restorePosition position workspaces =>
    (fun _ => ()) <$> onMotion (PetMotionModel.restorePosition position workspaces)

/-- The state an operation leaves behind. -/
def operate (op : Operation) : PetAnimationEngine := stateAfter (op.program env) e

/-- An engine as it is built around a new motion model. -/
def Built : Prop :=
  ∃ position windowSize config, e = build env { position, windowSize, config }

/-- An engine whose player, clock, and random source are as plain as they can be, with a duration of one
second for each of the given actions. -/
def steadyEnv (actions : List PetActionName) : EngineEnv where
  track0 := some (Track0Env.steady (secondsRegistry actions))
  hasScheduler := true
  rng := .lowest
  clock _ := 0
  useRelaxMotionFallback := false

/-- Such an engine as it is built, its window in the origin. -/
def steadyEngine (actions : List PetActionName) : PetAnimationEngine :=
  build (steadyEnv actions)
    { position := { x := 0, y := 0 }
      windowSize := { width := 100, height := 100, width_pos := ofNat_pos trivial, height_pos := ofNat_pos trivial } }

theorem steadyEngine_built (actions : List PetActionName) : Built (steadyEnv actions) (steadyEngine actions) :=
  ⟨_, _, _, rfl⟩

end PetAnimationEngine

end ArkClaw.Pet
