import ArkClaw.Autostart.AutostartRuns
import ArkClaw.Presentation.RuntimeShutdown

/-!
# The shared autostart state

One controller on the GUI thread holds the autostart state that every view shows. It numbers its requests, sends them
to the bridge and waits for their results: a query, or a mutation of the setting. `AutostartUi` is the controller with
the platform under it.

The controller's slots run while the bridge emits. None of them calls the bridge, so that what the bridge emits in a
step is heard after it, in order. The runs start when the runtime is ready: the query of `runtime_ready` is their first
`refresh`. `history` is what the statements about revisions speak of.
-/

namespace ArkClaw.Presentation.Runtime

open ArkClaw.Library ArkClaw.Autostart

structure PendingAutostartOperation where
  context : AutostartOperationContext
  mutation : Bool
deriving DecidableEq

inductive AutostartUiSignal where
  | stateChanged (snapshot : AutostartSnapshot)
  | operationFailed (safeCode safeMessage : String)
deriving DecidableEq, Repr

/-- A mutation is requested, or a snapshot becomes the one shown. -/
inductive RevisionEntry where
  | requested (revision : Nat)
  | applied (revision : Nat) (mutation : Bool)
deriving DecidableEq, Repr

/-- Which records of the controller the journal takes. -/
abbrev UiJournal := AutostartOperationEvent → Bool

/-- Keep one shared, revision-ordered state for every autostart UI. -/
structure AutostartUiController where
  hasJournal : Bool := false
  snapshot : AutostartSnapshot := .forStatus .unavailable
  busy : Bool := false
  closing : Bool := false
  lastError : Option (String × String) := none
  pending : List (CommandId × PendingAutostartOperation) := []
  revision : Nat := 0
  latestMutationRevision : Nat := 0
  latestAppliedRevision : Nat := 0
  emitted : List AutostartUiSignal := []
  history : List RevisionEntry := []

namespace AutostartUiController

variable (c : AutostartUiController)

def emit (signal : AutostartUiSignal) : AutostartUiController := { c with emitted := c.emitted ++ [signal] }

def userToggleAllowed (acceptingCommands : Bool) : Bool :=
  c.snapshot.userToggleAllowed && !c.busy && !c.closing && acceptingCommands

def displayMessage : String := match c.lastError with
  | some (_, safeMessage) => safeMessage
  | none => c.snapshot.safeMessage

/-- The context of a new operation has the next revision. -/
def newContext (operationId : Text) (origin : AutostartOperationOrigin) (requestedEnabled : Option Bool) :
    AutostartOperationContext × AutostartUiController :=
  ({ operationId, origin, requestedEnabled, controllerRevision := c.revision + 1 },
    { c with revision := c.revision + 1 })

def record (j : UiJournal) (event : AutostartOperationEvent) : Bool := !c.hasJournal || j event

/-- The context of the record takes a revision; whether the record fails makes no difference. -/
def recordRejection : AutostartUiController := if c.hasJournal then { c with revision := c.revision + 1 } else c

/-- The last error is shown, next to the snapshot as it is. -/
def showError (safeCode safeMessage : String) : AutostartUiController :=
  ({ c with lastError := some (safeCode, safeMessage) }.emit (.stateChanged c.snapshot)).emit
    (.operationFailed safeCode safeMessage)

def journalFailure : AutostartUiController :=
  c.showError "autostart_diagnostic_journal_failed" "The autostart diagnostic journal failed safely."

/-- The controller is busy with a new mutation. -/
def beginMutation (revision : Nat) : AutostartUiController :=
  { c with
    lastError := none
    busy := true
    latestMutationRevision := revision
    history := c.history ++ [.requested revision] }

/-- The bridge has failed the mutation already. -/
def refuseMutation : AutostartUiController :=
  { c with busy := false }.showError "autostart_runtime_unavailable"
    "The autostart setting cannot change while runtime is closing."

/-- The operation is pending, under the id of its command. -/
def await (commandId : CommandId) (context : AutostartOperationContext) (mutation : Bool) : AutostartUiController :=
  { c with pending := c.pending ++ [(commandId, { context := { context with commandId := some commandId }, mutation })] }

def pendingOperation (commandId : CommandId) : Option PendingAutostartOperation :=
  (c.pending.find? fun entry => entry.1 = commandId).map (·.2)

def pop (commandId : CommandId) : AutostartUiController :=
  { c with pending := c.pending.filter fun entry => entry.1 ≠ commandId }

/-! ## Slots -/

/-- Here too the record takes a revision. -/
def beginClosing : AutostartUiController :=
  if c.closing then c
  else { c with closing := true, revision := c.revision + 1 }.emit (.stateChanged c.snapshot)

/-- A result is stale that is older than the last one applied, or that of a query older than the last mutation. -/
def stale (operation : PendingAutostartOperation) : Bool :=
  operation.context.controllerRevision < c.latestAppliedRevision ||
    !operation.mutation && operation.context.controllerRevision < c.latestMutationRevision

def onStateChanged (commandId : CommandId) (value : AutostartSnapshot) : AutostartUiController :=
  match c.pendingOperation commandId with
  | none => c
  | some operation =>
    if c.stale operation then c
    else { c with
      latestAppliedRevision := operation.context.controllerRevision
      snapshot := value
      history := c.history ++ [RevisionEntry.applied operation.context.controllerRevision operation.mutation] }.emit
        (.stateChanged value)

def onCommandCompleted (commandId : CommandId) : AutostartUiController :=
  match c.pendingOperation commandId with
  | none => c
  | some operation =>
    if operation.mutation then { c.pop commandId with busy := false, lastError := none }.emit (.stateChanged c.snapshot)
    else c.pop commandId

def onCommandFailed (commandId : CommandId) (safeCode safeMessage : String) : AutostartUiController :=
  match c.pendingOperation commandId with
  | none => c
  | some operation =>
    if operation.mutation then { c.pop commandId with busy := false }.showError safeCode safeMessage
    else (c.pop commandId).emit (.operationFailed safeCode safeMessage)

def hear : BridgeSignal → AutostartUiController
  | .runtimeClosing => c.beginClosing
  | .autostartStateChanged commandId snapshot => c.onStateChanged commandId snapshot
  | .commandCompleted commandId => c.onCommandCompleted commandId
  | .commandFailed commandId safeCode safeMessage => c.onCommandFailed commandId safeCode safeMessage
  | _ => c

end AutostartUiController

/-! ## The controller over the platform -/

structure AutostartUi where
  controller : AutostartUiController
  platform : Platform

namespace AutostartUi

variable (s : AutostartUi)

/-- The service of the runtime thread. -/
def service : AutostartService := s.platform.bridge.thread.autostartService

/-- The controller hears what the bridge has emitted since. -/
def moved (platform : Platform) : AutostartUi where
  controller := (platform.bridge.emitted.drop s.platform.bridge.emitted.length).foldl (·.hear ·) s.controller
  platform := platform

def withController (controller : AutostartUiController) : AutostartUi := { s with controller }

def refresh (u : UiJournal) (j : Journal) (operationId : Text) (origin : AutostartOperationOrigin) :
    Option CommandId × AutostartUi :=
  if s.controller.closing || !s.platform.bridge.acceptingCommands then
    (none, s.withController s.controller.recordRejection)
  else
    let (context, c) := s.controller.newContext operationId origin none
    if !c.record u .uiRequestAccepted then (none, s.withController c.journalFailure)
    else
      let (commandId, bridge) := s.platform.bridge.requestAutostart j operationId origin context.controllerRevision
      let s := (s.withController c).moved { s.platform with bridge }
      if !bridge.isCommandPending commandId then (none, s)
      else (some commandId, s.withController (s.controller.await commandId context false))

def setEnabled (u : UiJournal) (j : Journal) (enabled : Bool) (operationId : Text)
    (origin : AutostartOperationOrigin) : Option CommandId × AutostartUi :=
  if !s.controller.userToggleAllowed s.platform.bridge.acceptingCommands || enabled = s.controller.snapshot.enabled then
    (none, s.withController s.controller.recordRejection)
  else
    let (context, c) := s.controller.newContext operationId origin (some enabled)
    if !c.record u .uiRequestAccepted then (none, s.withController c.journalFailure)
    else
      let c := c.beginMutation context.controllerRevision
      let (commandId, bridge) :=
        s.platform.bridge.setAutostartEnabled j enabled operationId origin context.controllerRevision
      let s := (s.withController c).moved { s.platform with bridge }
      if !bridge.isCommandPending commandId then
        (none, s.withController s.controller.refuseMutation)
      else
        (some commandId,
          s.withController ((s.controller.await commandId context true).emit (.stateChanged s.controller.snapshot)))

inductive AutostartUiEvent where
  | refresh (u : UiJournal) (j : Journal) (operationId : Text) (origin : AutostartOperationOrigin)
  | setEnabled (u : UiJournal) (j : Journal) (enabled : Bool) (operationId : Text) (origin : AutostartOperationOrigin)
  | platform (e : Platform.PlatformEvent)

def step : AutostartUiEvent → AutostartUi
  | .refresh u j operationId origin => (s.refresh u j operationId origin).2
  | .setEnabled u j enabled operationId origin => (s.setEnabled u j enabled operationId origin).2
  | .platform e => s.moved (s.platform.step e)

/-- The runtime is started and its first snapshot is handled. -/
def starting : List Platform.PlatformEvent :=
  [.call (fun _ _ => true) (.startRuntime false), .work {}, .work {}, .work {}, .work {}, .handleNext fun _ _ => true]

/-- A controller over a runtime that is ready, each with a journal or none. -/
def running (available serviceJournal bridgeJournal hasJournal : Bool) : AutostartUi where
  controller := { hasJournal }
  platform := run Platform.step (Platform.unstarted { available, hasJournal := serviceJournal } bridgeJournal) starting

/-! ## Conditions on the steps -/

/-- The runtime thread is running: nobody requests a shutdown and no exception ends the thread. The controller alone
sends commands of the autostart setting. -/
def Runs (_ : AutostartUi) : AutostartUiEvent → Prop
  | .platform (.call _ (.shutdown _)) => False
  | .platform (.call _ (.requestAutostart _ _ _)) => False
  | .platform (.call _ (.setAutostartEnabled _ _ _ _)) => False
  | .platform (.work a) => a.raises = none ∧ ∀ raised, a.handling.call ≠ .error (.escapes raised)
  | _ => True

/-- No record fails that stands between the request of a mutation and its result. -/
def Recorded : AutostartUiEvent → Prop
  | .setEnabled _ j _ _ _ =>
    s.platform.bridge.recordAutostart j .commandSubmitted (.issued s.platform.bridge.nextId) = true
  | .platform (.work a) => ∀ command startup, s.platform.bridge.thread.stage = .executing command startup →
    command.type = .setAutostart →
      a.handling.records .runtimeCommandAccepted = true ∧ s.service.Recorded a.handling.io
  | _ => True

end AutostartUi

end ArkClaw.Presentation.Runtime
