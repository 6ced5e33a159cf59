import ArkClaw.Presentation.RuntimeThread

/-!
# The runtime bridge

The bridge is the GUI's end of the runtime thread. Each of its methods returns the id of a new command, and each
command is answered by `command_completed` or `command_failed`. The signals of the thread are queued; the event loop
hands them to the bridge, one at a time.

`uuid4` is taken to return a new id each time. A record in the journal of the autostart operations may raise: `Journal`
says which. `emitted` is the history of the bridge's own signals.
-/

namespace ArkClaw.Presentation.Runtime

open ArkClaw.Library ArkClaw.Autostart
open ArkClaw.Provider.ProfileService (ActiveTurnHandling ProviderActivationOptions)

inductive BridgeState where
  | new | starting | ready | closing | closed | failed
deriving DecidableEq, Repr

/-- Non-sensitive identifiers shared across every operation boundary. -/
structure AutostartOperationContext where
  operationId : Text := []
  commandId : Option CommandId := none
  origin : AutostartOperationOrigin := .unknown
  requestedEnabled : Option Bool := none
  controllerRevision : Nat := 0
deriving DecidableEq

inductive BridgeSignal where
  | runtimeReady
  | runtimeStateChanged
  | providerLifecycleChanged
  | turnStarted (turnId : Text)
  | agentStateChanged (turnId state : Text)
  | textDelta (turnId text : Text)
  | turnCompleted (turnId text : Text)
  | turnCancelled (turnId : Text)
  | turnFailed (turnId : Text) (safeCode safeMessage : String)
  | commandCompleted (commandId : CommandId)
  | commandFailed (commandId : CommandId) (safeCode safeMessage : String)
  | providerSettingsChanged (commandId : CommandId)
  | autostartStateChanged (commandId : CommandId) (snapshot : AutostartSnapshot)
  | runtimeClosing
  | shutdownFinished (success : Bool) (safeCode : String)
deriving DecidableEq, Repr

/-- Which records of a command the journal takes. -/
abbrev Journal := AutostartOperationEvent → CommandId → Bool

structure QtRuntimeBridge where
  thread : RuntimeThread
  hasJournal : Bool := false
  autostartContexts : List (CommandId × AutostartOperationContext) := []
  state : BridgeState := .new
  startCommandId : Option CommandId := none
  shutdownCommandId : Option CommandId := none
  shutdownOutcome : Option ThreadExitOutcome := none
  pendingCommandIds : List CommandId := []
  protocolFailure : Option (String × String) := none
  nextId : Nat := 0
  nextInternalId : Nat := 0
  emitted : List BridgeSignal := []

namespace QtRuntimeBridge

variable (s : QtRuntimeBridge)
variable (j : Journal)

def emit (signal : BridgeSignal) : QtRuntimeBridge := { s with emitted := s.emitted ++ [signal] }

/-! ## Commands -/

def acceptingCommands : Bool := s.state = .ready

def isCommandPending (commandId : CommandId) : Bool := commandId ∈ s.pendingCommandIds

def newCommandId : CommandId × QtRuntimeBridge :=
  (.issued s.nextId,
    { s with nextId := s.nextId + 1, pendingCommandIds := s.pendingCommandIds ++ [.issued s.nextId] })

def hasContext (commandId : CommandId) : Bool := s.autostartContexts.any fun entry => entry.1 = commandId

/-- `_record_autostart`, for a command that has a context. -/
def recordAutostart (event : AutostartOperationEvent) (commandId : CommandId) : Bool :=
  !s.hasJournal || j event commandId

/-- A command is pending no more. -/
def forget (commandId : CommandId) : QtRuntimeBridge :=
  { s with
    pendingCommandIds := s.pendingCommandIds.filter (· ≠ commandId)
    autostartContexts := s.autostartContexts.filter fun entry => entry.1 ≠ commandId }

def completeCommand (commandId : CommandId) : QtRuntimeBridge :=
  if commandId ∉ s.pendingCommandIds then s
  else if s.hasContext commandId && !s.recordAutostart j .commandCompleted commandId then
    (s.forget commandId).emit
      (.commandFailed commandId "autostart_diagnostic_journal_failed" "The autostart diagnostic journal failed safely.")
  else (s.forget commandId).emit (.commandCompleted commandId)

/-- The failure is recorded, but whether the record fails makes no difference. -/
def failCommand (commandId : CommandId) (safeCode safeMessage : String) : QtRuntimeBridge :=
  if commandId ∉ s.pendingCommandIds then s
  else (s.forget commandId).emit (.commandFailed commandId safeCode safeMessage)

/-- The pending commands, in some order, fail. -/
def failAllPending (safeCode safeMessage : String) : QtRuntimeBridge :=
  s.pendingCommandIds.foldl (fun s commandId => s.failCommand commandId safeCode safeMessage) s

def completeStart : QtRuntimeBridge :=
  match s.startCommandId with
  | none => s
  | some commandId => { s.completeCommand j commandId with startCommandId := none }

def failStart (safeCode safeMessage : String) : QtRuntimeBridge :=
  match s.startCommandId with
  | none => s
  | some commandId => { s.failCommand commandId safeCode safeMessage with startCommandId := none }

def submit (command : RuntimeThreadCommand) : QtRuntimeBridge :=
  match s.state with
  | .starting =>
    s.failCommand command.commandId "runtime_not_ready" "Wait for runtime_ready before sending commands."
  | .closing => s.failCommand command.commandId "runtime_closing" "The runtime is closing."
  | .closed | .failed => s.failCommand command.commandId "runtime_closed" "The runtime is closed."
  | .new => s.failCommand command.commandId "runtime_not_ready" "The runtime is not ready."
  | .ready =>
    if s.hasContext command.commandId && !s.recordAutostart j .commandSubmitted command.commandId then
      s.failCommand command.commandId "autostart_diagnostic_journal_failed"
        "The autostart diagnostic journal failed safely."
    else if !(s.thread.submit command).1 then
      s.failCommand command.commandId "runtime_not_ready" "The runtime cannot accept commands."
    else { s with thread := (s.thread.submit command).2 }

/-! ## Methods -/

/-- Submit a command under a new id. -/
def send (command : CommandId → RuntimeThreadCommand) : CommandId × QtRuntimeBridge :=
  let (commandId, s) := s.newCommandId
  (commandId, s.submit j (command commandId))

/-- Submit a command under a new id, unless one of the texts is blank. -/
def sendChecked (texts : List Text) (message : String) (command : CommandId → RuntimeThreadCommand) :
    CommandId × QtRuntimeBridge :=
  let (commandId, s) := s.newCommandId
  if texts.any fun text => text.strip = [] then (commandId, s.failCommand commandId "invalid_command" message)
  else (commandId, s.submit j (command commandId))

/-- Submit a command of the autostart settings, under the context of its operation. -/
def sendAutostart (operationId : Text) (origin : AutostartOperationOrigin) (requested : Option Bool)
    (controllerRevision : Nat) (command : CommandId → RuntimeThreadCommand) : CommandId × QtRuntimeBridge :=
  let (commandId, s) := s.newCommandId
  let context : AutostartOperationContext :=
    { operationId, commandId := some commandId, origin, requestedEnabled := requested, controllerRevision }
  (commandId,
    { s with autostartContexts := s.autostartContexts ++ [(commandId, context)] }.submit j (command commandId))

/-- `raises`: the thread cannot be started. -/
def startRuntime (raises : Bool) : CommandId × QtRuntimeBridge :=
  let (commandId, s) := s.newCommandId
  if s.state ≠ .new then
    (commandId, s.failCommand commandId "runtime_already_started" "The runtime has already been started.")
  else if raises then
    (commandId,
      { s with state := .failed, startCommandId := none }.failCommand commandId "runtime_start_failed"
        "The runtime thread could not be started safely.")
  else (commandId, { s with state := .starting, startCommandId := some commandId, thread := s.thread.start })

def activateProfile (profileId : Text) (options : ProviderActivationOptions)
    (turnHandling : Option ActiveTurnHandling) : CommandId × QtRuntimeBridge :=
  s.sendChecked j [profileId] "The Provider profile identifier must not be blank." fun commandId =>
    { commandId, type := .activateProfile, profileId := profileId.strip, options := some options, turnHandling }

def sendMessage (content sessionId : Text) : CommandId × QtRuntimeBridge :=
  s.sendChecked j [content, sessionId] "Message content and session identifier must not be blank." fun commandId =>
    { commandId, type := .sendMessage, content := content.strip, sessionId := sessionId.strip }

def cancelActiveTurn : CommandId × QtRuntimeBridge :=
  s.send j fun commandId => { commandId, type := .cancelActiveTurn }

def requestSnapshot : CommandId × QtRuntimeBridge :=
  s.send j fun commandId => { commandId, type := .requestSnapshot }

def requestProviderSettings : CommandId × QtRuntimeBridge :=
  s.send j fun commandId => { commandId, type := .requestProviderSettings }

def requestAutostart (operationId : Text) (origin : AutostartOperationOrigin)
    (controllerRevision : Nat) : CommandId × QtRuntimeBridge :=
  s.sendAutostart j operationId origin none controllerRevision fun commandId =>
    { commandId, type := .requestAutostart, operationId, autostartOrigin := origin, controllerRevision }

def setAutostartEnabled (enabled : Bool) (operationId : Text) (origin : AutostartOperationOrigin)
    (controllerRevision : Nat) : CommandId × QtRuntimeBridge :=
  s.sendAutostart j operationId origin (some enabled) controllerRevision fun commandId =>
    { commandId, type := .setAutostart, enabled, operationId, autostartOrigin := origin, controllerRevision }

def createProviderProfile (providerId displayName model : Text) (credentialId : Option Text) :
    CommandId × QtRuntimeBridge :=
  s.sendChecked j [providerId, displayName, model] "Provider, display name, and model are required." fun commandId =>
    { commandId
      type := .createProviderProfile
      providerId := providerId.strip
      displayName := displayName.strip
      model := model.strip
      credentialId := (credentialId.map Text.strip).getD [] }

def updateProviderProfile (profileId displayName model : Text) (credentialId : Option Text) :
    CommandId × QtRuntimeBridge :=
  s.sendChecked j [profileId, displayName, model] "Profile, display name, and model are required." fun commandId =>
    { commandId
      type := .updateProviderProfile
      profileId := profileId.strip
      displayName := displayName.strip
      model := model.strip
      credentialId := (credentialId.map Text.strip).getD [] }

def deleteProviderProfile (profileId : Text) : CommandId × QtRuntimeBridge :=
  s.sendChecked j [profileId] "The Provider profile identifier is required." fun commandId =>
    { commandId, type := .deleteProviderProfile, profileId := profileId.strip }

def saveProviderCredential (credentialId secret : Text) : CommandId × QtRuntimeBridge :=
  s.sendChecked j [credentialId, secret] "Credential identifier and value are required." fun commandId =>
    { commandId, type := .saveProviderCredential, credentialId := credentialId.strip, secret }

def deleteProviderCredential (credentialId : Text) : CommandId × QtRuntimeBridge :=
  s.sendChecked j [credentialId] "The credential identifier is required." fun commandId =>
    { commandId, type := .deleteProviderCredential, credentialId := credentialId.strip }

/-- What the thread answers to the request is not looked at. -/
def requestThreadShutdown (command : RuntimeThreadCommand) : QtRuntimeBridge :=
  { s with thread := (s.thread.requestShutdown command).2 }

/-- A shutdown under the id that was given out for it. -/
def shutdownAs (commandId : CommandId) (cancelActive : Bool) : QtRuntimeBridge :=
  match s.state with
  | .new => ({ s with state := .closed }.completeCommand j commandId).emit (.shutdownFinished true "none")
  | .closed => (s.completeCommand j commandId).emit (.shutdownFinished true "runtime_already_closed")
  | .failed => s.failCommand commandId "runtime_failed" "The runtime has already failed."
  | .starting | .ready | .closing =>
    if s.shutdownCommandId ≠ none then
      s.failCommand commandId "shutdown_in_progress" "Runtime shutdown is already in progress."
    else
      { s.emit .runtimeClosing with state := .closing, shutdownCommandId := some commandId }.requestThreadShutdown
        { commandId, type := .shutdown, cancelActive }

def shutdown (cancelActive : Bool) : CommandId × QtRuntimeBridge :=
  let (commandId, s) := s.newCommandId
  (commandId, s.shutdownAs j commandId cancelActive)

/-! ## Signals of the thread -/

/-- The first snapshot is no snapshot: the start fails, and the runtime is shut down. -/
def rejectWorker (failure : String × String) : QtRuntimeBridge :=
  { { s with
      state := .closing
      protocolFailure := some failure }.failStart failure.1 failure.2 with
    nextInternalId := s.nextInternalId + 1 }.requestThreadShutdown
    { commandId := .internal s.nextInternalId, type := .shutdown }

def onWorkerReady (snapshot : Payload) : QtRuntimeBridge :=
  if snapshot ≠ .runtimeSnapshot then
    s.rejectWorker ("runtime_bootstrap_failed", "The runtime returned an invalid startup snapshot.")
  else if s.state = .starting then
    (((({ s with state := .ready }.emit .runtimeReady).emit .runtimeStateChanged).emit
      .providerLifecycleChanged)).completeStart j
  else s

def relayRuntimeEvent (value : Option RuntimeEvent) : QtRuntimeBridge :=
  match value with
  | none => s
  | some event => match event.type with
    | .turnStarted => s.emit (.turnStarted event.turnId)
    | .agentStateChanged => s.emit (.agentStateChanged event.turnId event.state)
    | .textDelta => s.emit (.textDelta event.turnId event.text)
    | .turnCompleted => s.emit (.turnCompleted event.turnId event.text)
    | .turnCancelled => s.emit (.turnCancelled event.turnId)
    | .turnFailed => s.emit (.turnFailed event.turnId event.safeCode event.safeMessage)
    | .turnSettled => s

def relaySnapshot (value : Payload) : QtRuntimeBridge :=
  if value ≠ .runtimeSnapshot then s else (s.emit .runtimeStateChanged).emit .providerLifecycleChanged

def relayProviderSettings (commandId : CommandId) (value : Payload) : QtRuntimeBridge :=
  if commandId ∉ s.pendingCommandIds ∨ value ≠ .providerSettings then s
  else s.emit (.providerSettingsChanged commandId)

def relayAutostartState (commandId : CommandId) (value : Payload) : QtRuntimeBridge :=
  if commandId ∉ s.pendingCommandIds then s
  else match value with
    | .autostart snapshot => s.emit (.autostartStateChanged commandId snapshot)
    | _ => s

def onCommandResult (commandId : CommandId) (success : Bool) (safeCode safeMessage : String) :
    QtRuntimeBridge :=
  if commandId ∉ s.pendingCommandIds then s
  else if success then s.completeCommand j commandId
  else if s.shutdownCommandId = some commandId then
    ({ s with shutdownCommandId := none }.emit (.shutdownFinished false safeCode)).failCommand commandId safeCode
      safeMessage
  else s.failCommand commandId safeCode safeMessage

def onShutdownOutcome (outcome : ThreadExitOutcome) : QtRuntimeBridge := { s with shutdownOutcome := some outcome }

/-- The thread is gone: every command still pending fails. -/
def fail (safeCode safeMessage : String) : QtRuntimeBridge :=
  ({ { s with state := .failed }.failAllPending safeCode safeMessage with
    startCommandId := none, shutdownCommandId := none }).emit (.shutdownFinished false safeCode)

/-- The commands named by the outcome are answered, then the others that are pending. -/
def answerOutcome (outcome : ThreadExitOutcome) : QtRuntimeBridge :=
  if outcome.success then
    ((outcome.commandId.elim s fun commandId => s.completeCommand j commandId)).failAllPending "runtime_closed"
      "The runtime closed before the command was processed."
  else
    let s := outcome.commandId.elim s fun commandId => s.failCommand commandId outcome.safeCode outcome.safeMessage
    if outcome.safeCode ∈ ["runtime_command_cancelled", "runtime_shutdown_cancelled", "runtime_thread_cancelled"] then
      s.failAllPending "runtime_thread_cancelled" "The runtime thread was cancelled safely."
    else s.failAllPending "runtime_thread_stopped_unexpectedly" "The runtime thread stopped unexpectedly."

/-- The outcome decides how the bridge ends. -/
def endWith (outcome : ThreadExitOutcome) : QtRuntimeBridge :=
  { s with
    state := if outcome.success then .closed else .failed
    shutdownCommandId := none }.emit (.shutdownFinished outcome.success outcome.safeCode)

def finish (outcome : ThreadExitOutcome) : QtRuntimeBridge :=
  if outcome.safeCode = "runtime_bootstrap_failed" then
    { { s with state := .failed }.failAllPending outcome.safeCode outcome.safeMessage with
      startCommandId := none }.endWith outcome
  else ((s.completeStart j).answerOutcome j outcome).endWith outcome

def onThreadFinished : QtRuntimeBridge :=
  let quiet := { s with shutdownOutcome := none, protocolFailure := none }
  match s.protocolFailure, s.shutdownOutcome with
  | some (safeCode, safeMessage), _ => quiet.fail safeCode safeMessage
  | none, none =>
    quiet.fail "runtime_thread_stopped_unexpectedly" "The runtime thread stopped unexpectedly."
  | none, some outcome => quiet.finish j outcome

def handle : Signal → QtRuntimeBridge
  | .workerReady snapshot => s.onWorkerReady j snapshot
  | .runtimeEvent value => s.relayRuntimeEvent value
  | .snapshot value => s.relaySnapshot value
  | .providerSettings commandId value => s.relayProviderSettings commandId value
  | .autostartState commandId value => s.relayAutostartState commandId value
  | .commandResult commandId success safeCode safeMessage => s.onCommandResult j commandId success safeCode safeMessage
  | .shutdownOutcome outcome => s.onShutdownOutcome outcome
  | .finished => s.onThreadFinished j

/-! ## Steps -/

inductive Call where
  | startRuntime (raises : Bool)
  | activateProfile (profileId : Text) (options : ProviderActivationOptions) (turnHandling : Option ActiveTurnHandling)
  | sendMessage (content sessionId : Text)
  | cancelActiveTurn
  | requestSnapshot
  | requestProviderSettings
  | requestAutostart (operationId : Text) (origin : AutostartOperationOrigin) (controllerRevision : Nat)
  | setAutostartEnabled (enabled : Bool) (operationId : Text) (origin : AutostartOperationOrigin)
      (controllerRevision : Nat)
  | createProviderProfile (providerId displayName model : Text) (credentialId : Option Text)
  | updateProviderProfile (profileId displayName model : Text) (credentialId : Option Text)
  | deleteProviderProfile (profileId : Text)
  | saveProviderCredential (credentialId secret : Text)
  | deleteProviderCredential (credentialId : Text)
  | shutdown (cancelActive : Bool)

def call : Call → CommandId × QtRuntimeBridge
  | .startRuntime raises => s.startRuntime raises
  | .activateProfile profileId options turnHandling => s.activateProfile j profileId options turnHandling
  | .sendMessage content sessionId => s.sendMessage j content sessionId
  | .cancelActiveTurn => s.cancelActiveTurn j
  | .requestSnapshot => s.requestSnapshot j
  | .requestProviderSettings => s.requestProviderSettings j
  | .requestAutostart operationId origin revision => s.requestAutostart j operationId origin revision
  | .setAutostartEnabled enabled operationId origin revision =>
    s.setAutostartEnabled j enabled operationId origin revision
  | .createProviderProfile providerId displayName model credentialId =>
    s.createProviderProfile j providerId displayName model credentialId
  | .updateProviderProfile profileId displayName model credentialId =>
    s.updateProviderProfile j profileId displayName model credentialId
  | .deleteProviderProfile profileId => s.deleteProviderProfile j profileId
  | .saveProviderCredential credentialId secret => s.saveProviderCredential j credentialId secret
  | .deleteProviderCredential credentialId => s.deleteProviderCredential j credentialId
  | .shutdown cancelActive => s.shutdown j cancelActive

inductive BridgeEvent where
  | call (j : Journal) (c : Call)
  | handle (j : Journal) (signal : Signal)
  /-- The thread makes a step of its own. -/
  | thread (a : Answer)

def step : BridgeEvent → QtRuntimeBridge
  | .call j c => (s.call j c).2
  | .handle j signal => s.handle j signal
  | .thread a => { s with thread := s.thread.work a }

end QtRuntimeBridge

end ArkClaw.Presentation.Runtime
