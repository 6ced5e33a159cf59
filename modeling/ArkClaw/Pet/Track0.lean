import ArkClaw.Pet.ProductionActions

/-!
# Track 0: arbitration, sequencing, and playback

The deterministic arbiter of requests, the runner that advances one sequence on matching callbacks, and
the controller that turns their decisions into player commands. The player, the registry, the watchdog
policy, and the clock are the controller's environment. The player may refuse any command: `play` answers
each request, told apart by its generation, with a token or a failure, `clear` with success or failure.
-/

namespace ArkClaw.Pet

open ArkClaw.Library

/-- Why an accepted request must stop or replace current playback. -/
inductive CancelReason where
  | userInterrupt | systemShutdown | motionOverride | pause | rendererFailure | callbackTimeout
deriving DecidableEq, Repr

/-- How the controller applies a cancellation. -/
inductive CancellationMode where
  | gracefulExit | immediateClear | replace
deriving DecidableEq, Repr

/-- Outcomes shared by arbitration and the engine boundary. -/
inductive ActionOutcome where
  | accepted | rejectedPriority | rejectedDuplicate | rejectedIncompatibleState | staleCompletion
  | invalidSequence | registryMismatch | playerFailure | callbackTimeout | cleared | playbackDegraded
  | rendererStateUnknown | sequencingDisabledCapability | legacyDirect
deriving DecidableEq, Repr

/-- Immutable request passed into the arbiter. -/
@[ext] structure ActionRequest where
  sequenceName : SequenceName
  interruptionClass : InterruptClass
  isProtected : Bool
  requestToken : ObjectId
  semanticEpoch : Nat
  inputSessionToken : Option ObjectId := none
  origin : ActionOrigin := .system
  source : ActionSource := .lifecycle
  authority : source ∈ sourcesByOrigin origin := by decide
  strict_protected : interruptionClass = .strictAction → isProtected = true
  user_session : interruptionClass = .userInteraction → inputSessionToken.isSome = true

instance : DecidableEq ActionRequest := fun _ _ => decidable_of_iff _ ActionRequest.ext_iff.symm

/-- The constructor of a request, with the errors it raises. -/
def ActionRequest.make (sequenceName : SequenceName) (interruptionClass : InterruptClass)
    (isProtected : Bool) (requestToken : ObjectId) (semanticEpoch : Nat)
    (inputSessionToken : Option ObjectId) (origin : ActionOrigin) (source : ActionSource) :
    Except PetError ActionRequest :=
  if authority : source ∈ sourcesByOrigin origin then
    if strict : interruptionClass = .strictAction → isProtected = true then
      if session : interruptionClass = .userInteraction → inputSessionToken.isSome = true then
        .ok {
          sequenceName, interruptionClass, isProtected, requestToken, semanticEpoch, inputSessionToken
          origin, source, authority, strict_protected := strict, user_session := session }
      else .error (.value "user interaction requests require an input session")
    else .error (.value "strict requests must be protected")
  else .error (.value "action origin and source are incompatible")

/-! ## The arbiter -/

/-- State facts supplied by authorities outside the arbiter. -/
structure ArbitrationContext where
  incomingMode : CancellationMode := .replace
  runnerAuthorizedContinuation : Bool := false
  playbackHealth : PlaybackHealth := .healthy
  confirmedSemanticEpoch : Option Nat := none
  activeActionCompatible : Bool := true

/-- An outcome and an optional command for replacing active playback. -/
structure ArbitrationDecision where
  outcome : ActionOutcome
  mode : Option CancellationMode
deriving DecidableEq

namespace PetActionArbiter

/-- A safety request replaces what is stale, or what an older semantic epoch asked for. -/
def decideMotionSafety (incoming active : ActionRequest) (context : ArbitrationContext) : ArbitrationDecision :=
  let activeIsStale :=
    context.playbackHealth ≠ .healthy ∨ context.confirmedSemanticEpoch ≠ some active.semanticEpoch
      ∨ !context.activeActionCompatible
  let proposedEpochIsNew := incoming.semanticEpoch ≠ active.semanticEpoch
  if activeIsStale ∨ proposedEpochIsNew then { outcome := .accepted, mode := some .replace }
  else { outcome := .rejectedDuplicate, mode := none }

/-- A new input session replaces the old one; within one session only a release replaces a hold. -/
def decideUserInteraction (incoming active : ActionRequest) : ArbitrationDecision :=
  if incoming.inputSessionToken ≠ active.inputSessionToken then
    { outcome := .accepted, mode := some .replace }
  else if incoming.sequenceName = active.sequenceName then
    { outcome := .rejectedDuplicate, mode := none }
  else if active.sequenceName = .dragHold ∧ incoming.sequenceName = .dragRelease then
    { outcome := .accepted, mode := some .replace }
  else { outcome := .rejectedPriority, mode := none }

/-- Explicit requests replace autonomous ones, never the other way round. -/
def decideNormalAction (incoming active : ActionRequest) : ArbitrationDecision :=
  if incoming.origin = .explicit ∧ active.origin = .autonomous then
    { outcome := .accepted, mode := some .replace }
  else if incoming.origin = .autonomous ∧ active.origin = .explicit then
    { outcome := .rejectedPriority, mode := none }
  else if incoming.sequenceName ≠ active.sequenceName ∧ !active.isProtected then
    { outcome := .accepted, mode := some .replace }
  else { outcome := .rejectedPriority, mode := none }

def decideEqualClass (incoming active : ActionRequest) (context : ArbitrationContext) : ArbitrationDecision :=
  match incoming.interruptionClass with
  | .motionSafety => decideMotionSafety incoming active context
  | .userInteraction => decideUserInteraction incoming active
  | .strictAction => { outcome := .rejectedPriority, mode := none }
  | .normalAction => decideNormalAction incoming active
  | .idle => { outcome := .rejectedDuplicate, mode := none }
  | .systemShutdown => { outcome := .accepted, mode := none }

/-- A deterministic decision; nothing is mutated. -/
def decide (incoming : ActionRequest) (active : Option ActionRequest) (context : ArbitrationContext) :
    ArbitrationDecision :=
  match active with
  | none => { outcome := .accepted, mode := none }
  | some active =>
    if incoming.interruptionClass = .systemShutdown then
      { outcome := .accepted
        mode := if active.interruptionClass = .systemShutdown then none else some .immediateClear }
    else if active.interruptionClass.rank < incoming.interruptionClass.rank then
      { outcome := .accepted, mode := some context.incomingMode }
    else if incoming.interruptionClass.rank < active.interruptionClass.rank then
      { outcome := .rejectedPriority, mode := none }
    else if context.runnerAuthorizedContinuation then { outcome := .accepted, mode := none }
    else if incoming.sequenceName = active.sequenceName ∧ incoming.requestToken = active.requestToken then
      { outcome := .rejectedDuplicate, mode := none }
    else decideEqualClass incoming active context

end PetActionArbiter

/-! ## The runner -/

/-- One player-confirmed physical playback command epoch. -/
structure ConfirmedPlaybackEpoch where
  generation : Nat
  logicalAction : PetActionName
  physicalName : String
  playbackToken : ObjectId
  physical_nonempty : physicalName ≠ ""
deriving DecidableEq

/-- Completion or loop-boundary event reported by the player. -/
structure PlaybackEvent where
  generation : Int
  logicalAction : PetActionName
  physicalName : String
  playbackToken : ObjectId
  loopBoundary : Bool := false
  boundaryIndex : Option Int := none
deriving DecidableEq

/-- Runner result for the controller to translate into player commands. -/
structure RunnerDirective where
  outcome : ActionOutcome
  nextIndex : Option Nat := none
  step : Option PetActionStep := none
  terminal : Option SequenceTerminal := none

/-- A sequence and the step it is at. -/
structure RunnerProgress where
  sequence : PetActionSequence
  currentIndex : Nat
  in_range : currentIndex < sequence.steps.length

namespace RunnerProgress

def step (p : RunnerProgress) : PetActionStep := p.sequence.steps.get ⟨p.currentIndex, p.in_range⟩

/-- The first step of a sequence. -/
def first (sequence : PetActionSequence) : RunnerProgress :=
  { sequence, currentIndex := 0, in_range := sequence.steps_nonempty }

end RunnerProgress

/-- Runner-local sequencing progress. -/
structure PetSequenceRunner where
  progress : Option RunnerProgress := none
  pendingGracefulExit : Bool := false
  confirmedEpoch : Option ConfirmedPlaybackEpoch := none

namespace PetSequenceRunner

variable (r : PetSequenceRunner)

/-- Replace runner-local progress and select the sequence's first step. -/
def start (sequence : PetActionSequence) : RunnerDirective × PetSequenceRunner :=
  let p := RunnerProgress.first sequence
  ({ outcome := .accepted, nextIndex := some 0, step := some p.step }, { progress := some p })

/-- Record player confirmation for exactly the selected current step. -/
def acceptPlayback (generation : Nat) (logicalAction : PetActionName) (physicalName : String)
    (playbackToken : ObjectId) : Except PetError (ConfirmedPlaybackEpoch × PetSequenceRunner) :=
  match r.progress with
  | none => .error (.runtime "no active sequence")
  | some p =>
    if logicalAction ≠ p.step.action then
      .error (.value "playback action does not match the current step")
    else if h : physicalName ≠ "" then
      let epoch : ConfirmedPlaybackEpoch :=
        { generation, logicalAction, physicalName, playbackToken, physical_nonempty := h }
      .ok (epoch, { r with confirmedEpoch := some epoch })
    else .error (.value "physical_name must not be empty")

/-- Every identity field of the callback is that of the confirmed epoch of the current step. -/
def eventMatchesCurrentEpoch (event : PlaybackEvent) : Bool :=
  match r.confirmedEpoch, r.progress with
  | some epoch, some p =>
    event.generation = epoch.generation ∧ event.logicalAction = epoch.logicalAction
      ∧ event.logicalAction = p.step.action ∧ event.physicalName = epoch.physicalName
      ∧ event.playbackToken = epoch.playbackToken
  | _, _ => false

/-- Clear only runner-local state. -/
def reset : PetSequenceRunner := {}

/-- Leave a loop step through the sequence's exit; only a graceful exit asked for earlier does. -/
def leaveLoop (p : RunnerProgress) : RunnerDirective × PetSequenceRunner :=
  match h : p.sequence.loopExitIndex with
  | none => ({ outcome := .invalidSequence }, r)
  | some exitIndex =>
    let next : RunnerProgress :=
      { p with currentIndex := exitIndex, in_range := p.sequence.exit_in_range exitIndex h }
    ({ outcome := .accepted, nextIndex := some exitIndex, step := some next.step }, { progress := some next })

/-- Go to the next step, or finish the sequence. -/
def nextStep (p : RunnerProgress) : RunnerDirective × PetSequenceRunner :=
  if h : p.currentIndex + 1 < p.sequence.steps.length then
    let next : RunnerProgress := { p with currentIndex := p.currentIndex + 1, in_range := h }
    ({ outcome := .accepted, nextIndex := some (p.currentIndex + 1), step := some next.step },
      { r with progress := some next, confirmedEpoch := none })
  else ({ outcome := .accepted, terminal := some p.sequence.terminal }, reset)

/-- Advance only when every callback identity field matches. A loop that goes on gives no directive. -/
def handleCompletion (event : PlaybackEvent) : Option RunnerDirective × PetSequenceRunner :=
  match r.progress with
  | none => (some { outcome := .staleCompletion }, r)
  | some p =>
    if !r.eventMatchesCurrentEpoch event then (some { outcome := .staleCompletion }, r)
    else if p.step.loop then
      if !event.loopBoundary then (some { outcome := .staleCompletion }, r)
      else if !r.pendingGracefulExit then (none, r)
      else
        let (directive, runner) := r.leaveLoop p
        (some directive, runner)
    else if event.loopBoundary then (some { outcome := .staleCompletion }, r)
    else
      let (directive, runner) := r.nextStep p
      (some directive, runner)

/-- Arm the next matching loop boundary when this sequence has an exit. -/
def requestGracefulExit : ActionOutcome × PetSequenceRunner :=
  match r.progress with
  | none => (.invalidSequence, r)
  | some p =>
    match p.sequence.loopIndex, p.sequence.loopExitIndex with
    | some loopIndex, some _ =>
      if loopIndex < p.currentIndex then (.invalidSequence, r)
      else if r.pendingGracefulExit then (.rejectedDuplicate, r)
      else (.accepted, { r with pendingGracefulExit := true })
    | _, _ => (.invalidSequence, r)

end PetSequenceRunner

/-! ## The controller -/

/-- Capabilities required before completion-driven sequencing is enabled. -/
structure AnimationPlayerCapabilities where
  completionCallbacks : Bool
  loopBoundaryCallbacks : Bool
  durationMetadata : Bool
  livenessReporting : Bool

/-- The complete callback, duration, and liveness contract. -/
def sequencingEnabled (capabilities : AnimationPlayerCapabilities) : Bool :=
  capabilities.completionCallbacks && capabilities.loopBoundaryCallbacks
    && capabilities.durationMetadata && capabilities.livenessReporting

/-- Bounded completion/boundary timeout tolerance. -/
structure WatchdogPolicy where
  toleranceRatio : Rat := 1 / 4
  minimumToleranceSeconds : Rat := 1 / 4
  maximumToleranceSeconds : Rat := 1
  ratio_nonneg : 0 ≤ toleranceRatio := by norm_num
  minimum_nonneg : 0 ≤ minimumToleranceSeconds := by norm_num
  bounds : minimumToleranceSeconds ≤ maximumToleranceSeconds := by norm_num

/-- When a callback that must come is overdue. -/
def WatchdogPolicy.deadline (policy : WatchdogPolicy) (start sourceDuration speed : Rat) :
    Except PetError Rat :=
  if sourceDuration ≤ 0 then .error (.value "source_duration must be positive")
  else if speed ≤ 0 then .error (.value "speed must be positive")
  else
    let effectiveDuration := sourceDuration / speed
    let tolerance := min policy.maximumToleranceSeconds
      (max policy.minimumToleranceSeconds (policy.toleranceRatio * effectiveDuration))
    .ok (start + effectiveDuration + tolerance)

/-- One concrete logical-to-physical player command. -/
structure PlaybackRequest where
  generation : Nat
  track : Fin 3
  logicalAction : PetActionName
  physicalName : String
  loop : Bool
  speed : Rat
  mixSeconds : Rat
  physical_nonempty : physicalName ≠ ""
  speed_pos : 0 < speed
  mix_nonneg : 0 ≤ mixSeconds

/-- The renderer: its capabilities, and how each command of each generation ends. -/
structure AnimationPlayer where
  capabilities : AnimationPlayerCapabilities
  play : PlaybackRequest → Option ObjectId
  clear : Nat → Fin 3 → Rat → Bool

/-- What a controller is built with. The clock is read by number: its `n`-th reading is `clock n`. -/
structure Track0Env where
  player : AnimationPlayer
  registry : AnimationRegistry
  watchdogPolicy : WatchdogPolicy := {}
  clock : Nat → Rat
  clock_monotone : Monotone clock

/-- A player with every capability that obeys every command. -/
def AnimationPlayer.obedient : AnimationPlayer where
  capabilities :=
    { completionCallbacks := true, loopBoundaryCallbacks := true, durationMetadata := true
      livenessReporting := true }
  play request := some (.given request.generation)
  clear _ _ _ := true

/-- An obedient player on a registry, at a standing clock. -/
def Track0Env.steady (registry : AnimationRegistry) : Track0Env where
  player := .obedient
  registry
  clock _ := 0
  clock_monotone := monotone_const

/-- Desired intent, confirmed player epoch, and renderer health. -/
structure Track0PlaybackState where
  desiredAction : Option PetActionName := none
  confirmedEpoch : Option ConfirmedPlaybackEpoch := none
  health : PlaybackHealth := .healthy
deriving DecidableEq

/-- Read-only validation result produced before any mutation. -/
structure ControllerPreflight where
  outcome : ActionOutcome
  entry : Option SequenceCatalogEntry := none

/-- A command the player was given, with how it ended. -/
inductive PlayerCommand where
  | play (request : PlaybackRequest) (token : Option ObjectId)
  | clear (generation : Nat) (done : Bool)

/-- The generation allocated for a command. -/
def PlayerCommand.generation : PlayerCommand → Nat
  | .play request _ => request.generation
  | .clear generation _ => generation

/-- The controller's own state. -/
structure PetTrack0Controller where
  runner : PetSequenceRunner := {}
  watchdogDeadline : Option Rat := none
  generation : Nat := 0
  activeRequest : Option ActionRequest := none
  state : Track0PlaybackState := {}
  clockReadings : Nat := 0
  /-- The commands the player was given so far. -/
  commands : List PlayerCommand := []

namespace PetTrack0Controller

variable (env : Track0Env)

/-- Validate catalog and registry facts without changing any state. -/
def preflight (request : ActionRequest) : ControllerPreflight :=
  let entry := sequenceCatalog request.sequenceName
  if entry.track ≠ 0 then { outcome := .invalidSequence }
  else if request.interruptionClass ≠ entry.interruptionClass
      ∨ request.isProtected ≠ entry.isProtected then
    { outcome := .invalidSequence }
  else if !sequencingEnabled env.player.capabilities then { outcome := .sequencingDisabledCapability }
  else
    match env.registry.validateSequence entry true with
    | .error _ => { outcome := .registryMismatch }
    | .ok () => { outcome := .accepted, entry := some entry }

/-- Decide against the current request without mutating playback. -/
def arbitrate (c : PetTrack0Controller) (request : ActionRequest) (context : ArbitrationContext) :
    ArbitrationDecision := PetActionArbiter.decide request c.activeRequest context

/-- Read the clock once. -/
def readClock : Program PetTrack0Controller Rat := do
  let c ← get
  set { c with clockReadings := c.clockReadings + 1 }
  return env.clock c.clockReadings

def allocateGeneration : Program PetTrack0Controller Nat := do
  modify fun c => { c with generation := c.generation + 1 }
  return (← get).generation

/-- Invalidate the playback and ask the player to clear Track 0. The health afterwards is `onCleared`,
or unknown where the player raises. -/
def invalidate (onCleared : PlaybackHealth) : Program PetTrack0Controller Bool := do
  modify fun c => { c with watchdogDeadline := none }
  let generation ← allocateGeneration
  let cleared := env.player.clear generation 0 0
  modify fun c => { c with
    runner := PetSequenceRunner.reset, activeRequest := none
    state := { health := if cleared then onCleared else .unknown }
    commands := c.commands ++ [.clear generation cleared] }
  return cleared

/-- Unconditionally invalidate and clear Track 0 without playing idle. -/
def clear (_reason : CancelReason) : Program PetTrack0Controller ActionOutcome := do
  let priorHealth := (← get).state.health
  let cleared ← invalidate env priorHealth
  return if cleared then .cleared else .rendererStateUnknown

/-- Invalidate old playback after a mandatory proposal cannot play. -/
def containPreflightFailure (_reason : CancelReason) : Program PetTrack0Controller ActionOutcome := do
  let cleared ← invalidate env .degraded
  return if cleared then .playbackDegraded else .rendererStateUnknown

def containFailedPlay : Program PetTrack0Controller ActionOutcome := do
  let cleared ← invalidate env .degraded
  return if cleared then .playbackDegraded else .rendererStateUnknown

def deadlineForStep (step : PetActionStep) : Program PetTrack0Controller Rat := do
  match (env.registry.resolve step.action).sourceDurationSeconds with
  | none => throw (.runtime "preflighted playback is missing duration metadata")
  | some sourceDuration =>
    let start ← readClock env
    getOrRaise (env.watchdogPolicy.deadline start sourceDuration step.speed)

def armAfterSuccessfulPlay (step : PetActionStep) : Program PetTrack0Controller Unit := do
  if step.loop then modify fun c => { c with watchdogDeadline := none }
  else
    let deadline ← deadlineForStep env step
    modify fun c => { c with watchdogDeadline := some deadline }

def armCurrentLoopBoundaryWatchdog : Program PetTrack0Controller Unit := do
  match (← get).runner.progress with
  | none => modify fun c => { c with watchdogDeadline := none }
  | some p =>
    if !p.step.loop then modify fun c => { c with watchdogDeadline := none }
    else
      let deadline ← deadlineForStep env p.step
      modify fun c => { c with watchdogDeadline := some deadline }

/-- The player command for a step. -/
def playbackRequest (generation : Nat) (step : PetActionStep) : PlaybackRequest :=
  let binding := env.registry.resolve step.action
  { generation, track := binding.track, logicalAction := step.action
    physicalName := binding.physicalName, loop := step.loop, speed := step.speed
    mixSeconds := step.mixSeconds.getD 0
    physical_nonempty := binding.physical_nonempty, speed_pos := step.speed_pos
    mix_nonneg := by
      cases h : step.mixSeconds with
      | none => exact le_refl _
      | some m => exact step.mix_nonneg m h }

/-- Play one step; a refusal of the player is contained. -/
def playStep (request : ActionRequest) (step : PetActionStep) : Program PetTrack0Controller ActionOutcome := do
  let generation ← allocateGeneration
  let command := playbackRequest env generation step
  let answer := env.player.play command
  modify fun c => { c with commands := c.commands ++ [.play command answer] }
  match answer with
  | none => containFailedPlay env
  | some token =>
    match (← get).runner.acceptPlayback generation step.action command.physicalName token with
    | .error _ => containFailedPlay env
    | .ok (epoch, runner) =>
      modify fun c => { c with
        runner, activeRequest := some request
        state := { desiredAction := some step.action, confirmedEpoch := some epoch, health := .healthy } }
      armAfterSuccessfulPlay env step
      return .accepted

def playDirective (request : ActionRequest) (directive : RunnerDirective) :
    Program PetTrack0Controller ActionOutcome :=
  match directive.outcome, directive.step with
  | .accepted, some step => playStep env request step
  | _, _ => return .invalidSequence

/-- Start a preflighted sequence and attempt its first physical play. -/
def play (request : ActionRequest) : Program PetTrack0Controller ActionOutcome := do
  if (← get).activeRequest.isSome then return .rejectedPriority
  else
    let preflight := preflight env request
    match preflight.outcome, preflight.entry with
    | .accepted, some entry =>
      let (directive, runner) := PetSequenceRunner.start entry.sequence
      modify fun c => { c with runner }
      playDirective env request directive
    | .accepted, none => return .invalidSequence
    | outcome, _ => return outcome

/-- Stop what plays and play the replacement, which must pass its preflight first. -/
def replacePlayback (replacement : Option ActionRequest) : Program PetTrack0Controller ActionOutcome :=
  match replacement with
  | none => return .invalidSequence
  | some replacement => do
    let preflight := preflight env replacement
    if preflight.outcome ≠ .accepted then return preflight.outcome
    else
      modify fun c => { c with
        watchdogDeadline := none, runner := PetSequenceRunner.reset, activeRequest := none
        state := { health := c.state.health } }
      play env replacement

/-- Ask the running sequence to leave its loop at the next boundary. -/
def cancelGracefully : Program PetTrack0Controller ActionOutcome := do
  let (outcome, runner) := (← get).runner.requestGracefulExit
  modify fun c => { c with runner }
  if outcome = .accepted then
    armCurrentLoopBoundaryWatchdog env
    return outcome
  else return outcome

/-- Apply one explicit cancellation mode; never synthesize fallback idle. -/
def cancel (reason : CancelReason) (mode : CancellationMode) (replacement : Option ActionRequest := none) :
    Program PetTrack0Controller ActionOutcome :=
  match mode with
  | .gracefulExit => cancelGracefully env
  | .immediateClear => clear env reason
  | .replace => replacePlayback env replacement

/-- The request's only step is the very step that plays now. -/
def adopts (c : PetTrack0Controller) (entry : SequenceCatalogEntry) : Bool :=
  match c.activeRequest, c.state.confirmedEpoch, c.runner.progress, entry.sequence.steps with
  | some _, some confirmed, some p, [adoptedStep] =>
    p.step.action = adoptedStep.action ∧ p.step.loop = adoptedStep.loop
      ∧ confirmed.logicalAction = adoptedStep.action
      ∧ confirmed.physicalName = (env.registry.resolve adoptedStep.action).physicalName
  | _, _, _, _ => false

/-- Change request ownership without restarting identical playback. -/
def adoptActivePlayback (request : ActionRequest) : Program PetTrack0Controller ActionOutcome := do
  let preflight := preflight env request
  match preflight.outcome, preflight.entry with
  | .accepted, some entry =>
    if adopts env (← get) entry then
      modify fun c => { c with activeRequest := some request }
      return .accepted
    else return .rejectedIncompatibleState
  | .accepted, none => return .rejectedIncompatibleState
  | outcome, _ => return outcome

/-- A finished sequence frees the track unless its terminal holds the last pose. -/
def finishSequence (terminal : Option SequenceTerminal) : Program PetTrack0Controller Unit := do
  modify fun c => { c with watchdogDeadline := none }
  if terminal = some .complete ∨ terminal = some .idle then
    modify fun c => { c with activeRequest := none, state := { health := .healthy } }

/-- Translate a runner directive into at most one next-step play. -/
def handleCompletion (event : PlaybackEvent) (continuationRequest : Option ActionRequest := none) :
    Program PetTrack0Controller ActionOutcome := do
  let (directive, runner) := (← get).runner.handleCompletion event
  modify fun c => { c with runner }
  match directive with
  | none => return .accepted
  | some directive =>
    if directive.outcome ≠ .accepted then return directive.outcome
    else if directive.step.isNone then
      finishSequence directive.terminal
      return .accepted
    else
      match continuationRequest <|> (← get).activeRequest with
      | none => return .invalidSequence
      | some request => playDirective env request directive

/-- Contain a missing completion/boundary callback at its exact deadline. -/
def pollWatchdog : Program PetTrack0Controller (Option ActionOutcome) := do
  match (← get).watchdogDeadline with
  | none => return none
  | some deadline =>
    let now ← readClock env
    if now < deadline then return none
    else
      let _ ← invalidate env .degraded
      return some .callbackTimeout

end PetTrack0Controller

end ArkClaw.Pet
