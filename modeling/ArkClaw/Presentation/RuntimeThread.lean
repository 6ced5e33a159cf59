import ArkClaw.Library.Runs
import ArkClaw.Autostart.AutostartService
import ArkClaw.Provider.ProviderProfileService

/-!
# The runtime thread

A worker thread owns one event loop and one runtime. Other threads submit commands or request a shutdown; the worker
executes what was accepted, one command after the other, and reports each result by a signal. The thread ends after a
shutdown that succeeded, or on an exception, and then reports how it ended.

`advance` is the worker from one section under the lock to the next: `Stage` says where it stands, and the answer what
the outside did meanwhile. An event loop is closed only after it was taken out of the thread under the lock, so that
no submission can find it closed. `accepted`, `executed` and `signals` are the history that the statements speak of.
What the cleanup of a controller emits when bootstrapping fails is left out of them.
-/

namespace ArkClaw.Presentation.Runtime

open ArkClaw.Library ArkClaw.Domain ArkClaw.Autostart
open ArkClaw.Provider.ProfileService (ActiveTurnHandling ProviderActivationOptions)

/-! ## Commands and signals -/

/-- The id of a command: a random one, or one of the bridge's own. -/
inductive CommandId where
  | issued (n : Nat)
  | internal (n : Nat)
deriving DecidableEq, Repr

inductive RuntimeThreadCommandType where
  | activateProfile | sendMessage | cancelActiveTurn | requestSnapshot | requestProviderSettings
  | createProviderProfile | updateProviderProfile | deleteProviderProfile | saveProviderCredential
  | deleteProviderCredential | requestAutostart | setAutostart | shutdown
deriving DecidableEq, Repr

inductive AutostartOperationOrigin where
  | settingsCheckbox | trayAction | petMenuAction | startupQuery | stateRefresh | shutdown | unknown
deriving DecidableEq, Repr

structure RuntimeThreadCommand where
  commandId : CommandId
  type : RuntimeThreadCommandType
  profileId : Text := []
  options : Option ProviderActivationOptions := none
  turnHandling : Option ActiveTurnHandling := none
  content : Text := []
  sessionId : Text := []
  cancelActive : Bool := true
  providerId : Text := []
  displayName : Text := []
  model : Text := []
  credentialId : Text := []
  enabled : Bool := false
  operationId : Text := []
  autostartOrigin : AutostartOperationOrigin := .unknown
  controllerRevision : Nat := 0
  secret : Text := []
deriving DecidableEq

/-- Release the command's secret after it was processed. -/
def RuntimeThreadCommand.clearSensitive (c : RuntimeThreadCommand) : RuntimeThreadCommand := { c with secret := [] }

/-- An object that a signal carries. The contents of the first two are not looked at. -/
inductive Payload where
  | runtimeSnapshot
  | providerSettings
  | autostart (snapshot : AutostartSnapshot)
  | other
deriving DecidableEq, Repr

inductive RuntimeEventType where
  | turnStarted | agentStateChanged | textDelta | turnCompleted | turnCancelled | turnFailed | turnSettled
deriving DecidableEq, Repr

structure RuntimeEvent where
  type : RuntimeEventType
  turnId : Text
  state : Text := []
  text : Text := []
  safeCode : String := ""
  safeMessage : String := ""
deriving DecidableEq, Repr

/-- How the thread ended. No command is the empty id. -/
structure ThreadExitOutcome where
  commandId : Option CommandId
  success : Bool
  safeCode : String
  safeMessage : String
deriving DecidableEq, Repr

/-- The signals of the thread; the last is Qt's own. -/
inductive Signal where
  | workerReady (snapshot : Payload)
  | runtimeEvent (value : Option RuntimeEvent)
  | snapshot (value : Payload)
  | providerSettings (commandId : CommandId) (value : Payload)
  | autostartState (commandId : CommandId) (value : Payload)
  | commandResult (commandId : CommandId) (success : Bool) (safeCode safeMessage : String)
  | shutdownOutcome (outcome : ThreadExitOutcome)
  | finished
deriving DecidableEq, Repr

structure RuntimeCommandResult where
  success : Bool
  safeCode : String
  safeMessage : String
deriving DecidableEq, Repr

namespace RuntimeCommandResult

def ok : RuntimeCommandResult := ⟨true, "none", ""⟩

def failure (safeCode safeMessage : String) : RuntimeCommandResult := ⟨false, safeCode, safeMessage⟩

end RuntimeCommandResult

/-! ## The thread -/

inductive Stage where
  /-- Not started. -/
  | idle
  /-- Before `asyncio.new_event_loop`. -/
  | opening
  /-- Before `asyncio.set_event_loop`. -/
  | attaching
  /-- The factories run. -/
  | bootstrapping
  /-- Before `worker_ready` is emitted. -/
  | publishing
  /-- `queue.get()`. -/
  | waiting
  | executing (command : RuntimeThreadCommand) (startup : Bool)
  /-- A failed shutdown is reported; the next one is not allowed yet. -/
  | retrying
  /-- A shutdown succeeded: `_stop_accepting` in the dispatcher. -/
  | leaving (outcome : ThreadExitOutcome)
  /-- `_stop_accepting` on the way out, with or without an event loop. -/
  | stopping (outcome : ThreadExitOutcome) (hasLoop : Bool)
  | finalizing (outcome : ThreadExitOutcome)
  | reporting (outcome : ThreadExitOutcome)
  /-- `run` has reported the outcome. -/
  | returning
  | finished
deriving DecidableEq

structure RuntimeThread where
  autostartService : AutostartService
  stage : Stage := .idle
  /-- The loop and its queue are there. -/
  hasLoop : Bool := false
  /-- What the queue holds, and what the loop has been asked to put into it. -/
  queue : List RuntimeThreadCommand := []
  ready : Bool := false
  acceptingSubmissions : Bool := false
  closing : Bool := false
  shutdownInFlight : Bool := false
  startupShutdown : Option RuntimeThreadCommand := none
  activeCommand : Option RuntimeThreadCommand := none
  outcomeEmitted : Bool := false
  accepted : List RuntimeThreadCommand := []
  executed : List RuntimeThreadCommand := []
  signals : List Signal := []

/-- The exceptions that leave a handler or a call to the outside. -/
inductive Raised where
  | cancelled | fatal
deriving DecidableEq, Repr

inductive HandlerError where
  | escapes (raised : Raised)
  | providerSettings (safeCode safeMessage : String)
  | journal
  | ordinary
deriving DecidableEq, Repr

/-- The events that the thread, the bridge and the controller of the settings record in the journal. -/
inductive AutostartOperationEvent where
  | uiRequestAccepted | uiRequestRejected | commandSubmitted | runtimeCommandAccepted | commandCompleted
  | commandFailed | snapshotPublished | staleResultIgnored | controllerClosing
deriving DecidableEq, Repr

/-- What the outside does while a command runs: how the call of the controller or of the settings service ends, which
records the journal takes, and the accesses of the autostart service. -/
structure Handling where
  call : Except HandlerError RuntimeCommandResult := .ok .ok
  records : AutostartOperationEvent → Bool := fun _ => true
  io : OperationIo := { executable := none }

/-- What the outside does in one step of the worker. -/
structure Answer where
  /-- The events of the runtime before the step, and what `controller.snapshot()` returns after each. -/
  events : List (RuntimeEvent × Payload) := []
  raises : Option Raised := none
  handling : Handling := {}
  /-- What `controller.snapshot()` returns. -/
  snapshot : Payload := .runtimeSnapshot
  cleanupFailure : Option RuntimeCommandResult := none

namespace RuntimeThread

variable (t : RuntimeThread)

def emit (signal : Signal) : RuntimeThread := { t with signals := t.signals ++ [signal] }

/-! ## Calls of other threads -/

/-- Submit without blocking the GUI thread. -/
def submit (command : RuntimeThreadCommand) : Bool × RuntimeThread :=
  if !t.hasLoop || !t.ready || !t.acceptingSubmissions || t.closing then (false, t)
  else (true, { t with queue := t.queue ++ [command], accepted := t.accepted ++ [command] })

/-- Record or enqueue one shutdown intent without a startup race. -/
def requestShutdown (command : RuntimeThreadCommand) : Bool × RuntimeThread :=
  if command.type ≠ .shutdown then (false, t)
  else if t.shutdownInFlight then (false, t)
  else if !t.hasLoop then
    if t.closing then (false, t)
    else (true,
      { t with
        startupShutdown := some command
        shutdownInFlight := true
        closing := true
        acceptingSubmissions := false
        accepted := t.accepted ++ [command] })
  else if !t.ready then (false, t)
  else (true,
    { t with
      shutdownInFlight := true
      closing := true
      acceptingSubmissions := false
      queue := t.queue ++ [command]
      accepted := t.accepted ++ [command] })

/-! ## Sections under the lock -/

def stopAccepting : RuntimeThread :=
  { t with ready := false, acceptingSubmissions := false, closing := true, shutdownInFlight := true }

def allowShutdownRetry : RuntimeThread :=
  { t with shutdownInFlight := false, closing := true, acceptingSubmissions := false }

/-- The runtime is there: publish the loop, and take a shutdown that was requested before. -/
def enter : RuntimeThread :=
  { t with
    hasLoop := true
    ready := true
    acceptingSubmissions := t.acceptingSubmissions || t.startupShutdown.isNone && !t.closing
    startupShutdown := none
    activeCommand := t.startupShutdown
    executed := t.executed ++ t.startupShutdown.toList
    stage := match t.startupShutdown with
      | none => .publishing
      | some command => .executing command true }

/-- The last part of `_finalize_event_loop`. -/
def detach : RuntimeThread :=
  { t with ready := false, acceptingSubmissions := false, hasLoop := false, queue := [], startupShutdown := none }

/-! ## Outcomes -/

def bootstrapFailed : ThreadExitOutcome :=
  ⟨none, false, "runtime_bootstrap_failed", "The runtime thread failed to start safely."⟩

def threadFailed : ThreadExitOutcome :=
  ⟨none, false, "runtime_thread_failed", "The runtime thread stopped unexpectedly."⟩

def succeeded (command : RuntimeThreadCommand) (result : RuntimeCommandResult) : ThreadExitOutcome :=
  ⟨some command.commandId, true, result.safeCode, result.safeMessage⟩

def cancelledExitOutcome : ThreadExitOutcome :=
  match t.activeCommand with
  | none => ⟨none, false, "runtime_thread_cancelled", "The runtime thread was cancelled safely."⟩
  | some command =>
    if command.type = .shutdown then
      ⟨some command.commandId, false, "runtime_shutdown_cancelled", "Runtime shutdown was cancelled safely."⟩
    else
      ⟨some command.commandId, false, "runtime_command_cancelled", "The runtime command was cancelled safely."⟩

/-- An exception in `run` before `_run_owned_runtime` is under its own handlers. -/
def recoverFinalBoundary (raised : Raised) (hasLoop : Bool) : RuntimeThread :=
  let failed : ThreadExitOutcome :=
    ⟨t.activeCommand.map (·.commandId), false, "runtime_thread_boundary_failed",
      "The runtime thread stopped at its safety boundary."⟩
  { t with stage := .stopping (if raised = .cancelled then t.cancelledExitOutcome else failed) hasLoop }

/-- An exception in `_run_owned_runtime`: the outcome is `exit_outcome` as it stands, unless it is a cancellation. -/
def escape (raised : Raised) (exitOutcome : ThreadExitOutcome) : RuntimeThread :=
  { t with stage := .stopping (if raised = .cancelled then t.cancelledExitOutcome else exitOutcome) true }

/-- A failure of the cleanup takes the place of a success. -/
def afterCleanup (outcome : ThreadExitOutcome) : Option RuntimeCommandResult → ThreadExitOutcome
  | none => outcome
  | some failure =>
    if outcome.success then ⟨outcome.commandId, false, failure.safeCode, failure.safeMessage⟩ else outcome

/-! ## Executing a command -/

/-- `_publish_provider_settings`, after the call of the settings service. -/
def publishProviderSettings (command : RuntimeThreadCommand) (h : Handling) :
    RuntimeThread × Except HandlerError RuntimeCommandResult :=
  match h.call with
  | .error e => (t, .error e)
  | .ok _ => (t.emit (.providerSettings command.commandId .providerSettings), .ok .ok)

/-- Publish the autostart service's snapshot, and record that it was published. -/
def publishAutostart (command : RuntimeThreadCommand) (snapshot : AutostartSnapshot) (result : RuntimeCommandResult)
    (h : Handling) : RuntimeThread × Except HandlerError RuntimeCommandResult :=
  (t.emit (.autostartState command.commandId (.autostart snapshot)),
    if h.records .snapshotPublished then .ok result else .error .journal)

def requestAutostart (command : RuntimeThreadCommand) (h : Handling) :
    RuntimeThread × Except HandlerError RuntimeCommandResult :=
  if !h.records .runtimeCommandAccepted then (t, .error .journal)
  else
    let service := t.autostartService.query h.io
    { t with autostartService := service }.publishAutostart command service.snapshot .ok h

def setAutostart (command : RuntimeThreadCommand) (h : Handling) :
    RuntimeThread × Except HandlerError RuntimeCommandResult :=
  if !h.records .runtimeCommandAccepted then (t, .error .journal)
  else
    let (result, service) := t.autostartService.setEnabled command.enabled h.io
    { t with autostartService := service }.publishAutostart command result.snapshot
      (if result.success then .ok else .failure result.safeCode result.safeMessage) h

def executeCommand (command : RuntimeThreadCommand) (h : Handling) :
    RuntimeThread × Except HandlerError RuntimeCommandResult :=
  match command.type with
  | .activateProfile =>
    if command.options = none then
      (t, .ok (.failure "invalid_command" "Provider activation options are required."))
    else if !validateOpaqueId command.profileId reservedProfileIds then
      (t, .ok (.failure "invalid_command" "The Provider profile identifier is invalid."))
    else (t, h.call)
  | .sendMessage | .cancelActiveTurn | .shutdown => (t, h.call)
  | .requestSnapshot => (t, .ok .ok)
  | .requestProviderSettings | .createProviderProfile | .updateProviderProfile | .deleteProviderProfile
  | .saveProviderCredential | .deleteProviderCredential => t.publishProviderSettings command h
  | .requestAutostart => t.requestAutostart command h
  | .setAutostart => t.setAutostart command h

/-- Ordinary exceptions of a handler are failures of its command. -/
def safely : Except HandlerError RuntimeCommandResult → Except Raised RuntimeCommandResult
  | .ok result => .ok result
  | .error (.escapes raised) => .error raised
  | .error (.providerSettings safeCode safeMessage) => .ok (.failure safeCode safeMessage)
  | .error .journal =>
    .ok (.failure "autostart_diagnostic_journal_failed" "The autostart diagnostic journal failed safely.")
  | .error .ordinary => .ok (.failure "runtime_command_failed" "The runtime command failed safely.")

def executeCommandSafely (command : RuntimeThreadCommand) (h : Handling) :
    RuntimeThread × Except Raised RuntimeCommandResult :=
  let (t, ended) := t.executeCommand command h
  (t, safely ended)

/-- The result of a command that was executed: a shutdown that succeeded ends the dispatcher, any other is reported. -/
def settle (command : RuntimeThreadCommand) (startup : Bool) (result : RuntimeCommandResult) : RuntimeThread :=
  if startup then
    if result.success then { t with stage := .stopping (succeeded command result) true }
    else
      { t.emit (.commandResult command.commandId false result.safeCode result.safeMessage) with stage := .retrying }
  else if command.type = .shutdown then
    if result.success then { t with activeCommand := none, stage := .leaving (succeeded command result) }
    else
      { t.emit (.commandResult command.commandId false result.safeCode result.safeMessage) with stage := .retrying }
  else
    { t.emit (.commandResult command.commandId result.success result.safeCode result.safeMessage) with
      activeCommand := none, stage := .waiting }

/-- The dispatcher clears the secret of its command, however the command ended. -/
def release (startup : Bool) : RuntimeThread :=
  { t with activeCommand := if startup then t.activeCommand else t.activeCommand.map (·.clearSensitive) }

/-- The result of the active command. A shutdown at startup is not active any more when the snapshot is emitted. -/
def conclude (command : RuntimeThreadCommand) (startup : Bool) (result : RuntimeCommandResult) (a : Answer) :
    RuntimeThread :=
  let t := { t with activeCommand := if startup then none else t.activeCommand }
  match a.raises with
  | some raised => t.escape raised threadFailed
  | none => (t.emit (.snapshot a.snapshot)).settle command startup result

/-- The active command is executed. -/
def execute (command : RuntimeThreadCommand) (startup : Bool) (a : Answer) : RuntimeThread :=
  let (t, ended) := t.executeCommandSafely command a.handling
  match ended with
  | .error raised => (t.release startup).escape raised threadFailed
  | .ok result => (t.release startup).conclude command startup result a

/-- The next command is taken from the queue. -/
def take : RuntimeThread :=
  match t.queue with
  | [] => t
  | command :: rest =>
    { t with
      queue := rest
      activeCommand := some command
      executed := t.executed ++ [command]
      stage := .executing command false }

/-! ## The worker -/

/-- `event_sink`, for the events of a runtime that is there. -/
def observe (events : List (RuntimeEvent × Payload)) : RuntimeThread :=
  if t.hasLoop then
    { t with signals := t.signals ++ events.flatMap fun (event, value) => [.runtimeEvent (some event), .snapshot value] }
  else t

/-- The worker, from one section under the lock to the next. -/
def advance (a : Answer) : RuntimeThread :=
  match t.stage with
  | .idle | .finished => t
  | .opening => match a.raises with
    | none => { t with stage := .attaching }
    | some raised => t.recoverFinalBoundary raised false
  | .attaching => match a.raises with
    | none => { t with stage := .bootstrapping }
    | some raised => t.recoverFinalBoundary raised true
  | .bootstrapping => match a.raises with
    | none => t.enter
    | some raised => t.escape raised bootstrapFailed
  | .publishing => match a.raises with
    | none => { t.emit (.workerReady a.snapshot) with stage := .waiting }
    | some raised => t.escape raised threadFailed
  | .waiting => match a.raises with
    | none => t.take
    | some raised => t.escape raised threadFailed
  | .executing command startup => t.execute command startup a
  | .retrying => { t.allowShutdownRetry with activeCommand := none, stage := .waiting }
  | .leaving outcome => { t.stopAccepting with stage := .stopping outcome true }
  | .stopping outcome hasLoop => { t.stopAccepting with stage := if hasLoop then .finalizing outcome else .reporting outcome }
  | .finalizing outcome => { t.detach with stage := .reporting (afterCleanup outcome a.cleanupFailure) }
  | .reporting outcome =>
    { t.emit (.shutdownOutcome outcome) with outcomeEmitted := true, activeCommand := none, stage := .returning }
  | .returning => { t.emit .finished with stage := .finished }

def work (a : Answer) : RuntimeThread := (t.observe a.events).advance a

inductive Event where
  /-- `QThread.start`. -/
  | start
  | submit (command : RuntimeThreadCommand)
  | requestShutdown (command : RuntimeThreadCommand)
  | work (a : Answer)

def start : RuntimeThread := if t.stage = .idle then { t with stage := .opening } else t

def step : Event → RuntimeThread
  | .start => t.start
  | .submit command => (t.submit command).2
  | .requestShutdown command => (t.requestShutdown command).2
  | .work a => t.work a

end RuntimeThread

end ArkClaw.Presentation.Runtime
