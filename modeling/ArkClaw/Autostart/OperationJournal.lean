import ArkClaw.Library.JsonRoundTrip
import ArkClaw.Library.Runs

/-!
# The journal of autostart operations

The journal keeps the lines of its records in memory. A record adds one and writes them all to a part file, which then
replaces the journal file. The directory holds these two files; what the file system answers to a record is its
`FileAnswers`. A record that cannot be written is taken out of the memory again, and the journal has failed.
-/

namespace ArkClaw.Autostart

open ArkClaw.Library

/-- Fixed origins that never contain widget or path details. -/
inductive AutostartOperationOrigin where
  | settingsCheckbox | trayAction | petMenuAction | startupQuery | stateRefresh | shutdown | unknown
deriving DecidableEq, Repr

def AutostartOperationOrigin.value : AutostartOperationOrigin → String
  | .settingsCheckbox => "settings_checkbox"
  | .trayAction => "tray_action"
  | .petMenuAction => "pet_menu_action"
  | .startupQuery => "startup_query"
  | .stateRefresh => "state_refresh"
  | .shutdown => "shutdown"
  | .unknown => "unknown"

/-- Fixed causal events permitted in the diagnostic journal. -/
inductive AutostartOperationEvent where
  | uiRequestAccepted | uiRequestRejected | commandSubmitted | runtimeCommandAccepted | serviceEnableEntered
  | serviceDisableEntered | backendReadEntered | backendWriteEntered | backendWriteCompleted | backendDeleteEntered
  | backendDeleteCompleted | readbackCompleted | commandCompleted | commandFailed | snapshotPublished
  | staleResultIgnored | controllerClosing | applicationClosing
deriving DecidableEq, Repr

def AutostartOperationEvent.value : AutostartOperationEvent → String
  | .uiRequestAccepted => "ui_request_accepted"
  | .uiRequestRejected => "ui_request_rejected"
  | .commandSubmitted => "command_submitted"
  | .runtimeCommandAccepted => "runtime_command_accepted"
  | .serviceEnableEntered => "service_enable_entered"
  | .serviceDisableEntered => "service_disable_entered"
  | .backendReadEntered => "backend_read_entered"
  | .backendWriteEntered => "backend_write_entered"
  | .backendWriteCompleted => "backend_write_completed"
  | .backendDeleteEntered => "backend_delete_entered"
  | .backendDeleteCompleted => "backend_delete_completed"
  | .readbackCompleted => "readback_completed"
  | .commandCompleted => "command_completed"
  | .commandFailed => "command_failed"
  | .snapshotPublished => "snapshot_published"
  | .staleResultIgnored => "stale_result_ignored"
  | .controllerClosing => "controller_closing"
  | .applicationClosing => "application_closing"

/-- Coarse fixed execution boundaries safe for evidence. -/
inductive AutostartOperationRuntimeState where
  | gui | runtimeReady | runtimeClosing | runtimeThread | service | application | unknown
deriving DecidableEq, Repr

def AutostartOperationRuntimeState.value : AutostartOperationRuntimeState → String
  | .gui => "gui"
  | .runtimeReady => "runtime_ready"
  | .runtimeClosing => "runtime_closing"
  | .runtimeThread => "runtime_thread"
  | .service => "service"
  | .application => "application"
  | .unknown => "unknown"

/-- Non-sensitive identifiers shared across every operation boundary. -/
structure AutostartOperationContext where
  operationId : Text := []
  commandId : Text := []
  origin : AutostartOperationOrigin := .unknown
  requestedEnabled : Option Bool := none
  controllerRevision : Int := 0
deriving DecidableEq

/-- What the file system answers while the journal is written; an answer that is no raises. -/
structure FileAnswers where
  opens : Bool := true
  /-- Whether the line of this index is written. -/
  writes : Nat → Bool := fun _ => true
  flushes : Bool := true
  syncs : Bool := true
  closes : Bool := true
  /-- What a part file holds that was not written to its end. -/
  left : Bytes := []
  replaces : Bool := true
  removes : Bool := true

/-- The journal file and the part file beside it. -/
structure JournalDirectory where
  journal : Option Bytes := none
  part : Option Bytes := none
deriving DecidableEq

/-- A call of `record`, with what the file system answers to it. -/
structure RecordCall where
  event : AutostartOperationEvent
  context : Option AutostartOperationContext := none
  runtimeState : AutostartOperationRuntimeState := .unknown
  resultCode : Text := lit "none"
  answers : FileAnswers := {}

/-- What a call of `record` raises. -/
inductive RecordError where
  /-- Fixed exception raised when durable diagnostic evidence fails. -/
  | autostartOperationJournal
  /-- A number with too many digits has no text. -/
  | value
deriving DecidableEq, Repr

structure AutostartOperationJournal where
  nonce : Text
  events : List Bytes := []
  failed : Bool := false
deriving DecidableEq

/-- A journal and the directory of its path. -/
structure JournalState where
  journal : AutostartOperationJournal
  directory : JournalDirectory := {}
deriving DecidableEq

/-- The document of a record. -/
def recordDocument (nonce : Text) (sequence : Nat) (c : RecordCall) : Json.Members :=
  let actualContext := c.context.getD {}
  [(lit "schema_version", .int 1), (lit "sequence", .int sequence), (lit "nonce", .str nonce),
    (lit "event", .str (lit c.event.value)), (lit "operation_id", .str actualContext.operationId),
    (lit "command_id", .str actualContext.commandId), (lit "origin", .str (lit actualContext.origin.value)),
    (lit "requested_enabled", match actualContext.requestedEnabled with
      | none => .null
      | some enabled => .bool enabled),
    (lit "controller_revision", .int actualContext.controllerRevision),
    (lit "runtime_state", .str (lit c.runtimeState.value)), (lit "result_code", .str c.resultCode)]

/-- The number has few enough digits to be written. -/
def Printable (n : Int) : Prop := (Json.decimalText n.natAbs).length ≤ Text.maxDigits

instance (n : Int) : Decidable (Printable n) := inferInstanceAs (Decidable (_ ≤ _))

/-- The line of a record. The sequence is the length of a list and always has few enough digits. -/
def recordLine (nonce : Text) (sequence : Nat) (c : RecordCall) : Except RecordError Bytes :=
  if Printable (c.context.getD {}).controllerRevision then
    match (Json.dumpsCompact (Json.dict (recordDocument nonce sequence c))).encodeUtf8 with
    | some line => .ok (line ++ [0x0A])
    | none => .error .value
  else .error .value

/-- The part file is written to its end: each of its lines, and then it is flushed, synced and closed. -/
def FileAnswers.fills (answers : FileAnswers) (lines : Nat) : Bool :=
  (List.range lines).all answers.writes && answers.flushes && answers.syncs && answers.closes

/-- `_write_all`: whether it returns, and what it leaves. -/
def writeAll (answers : FileAnswers) (events : List Bytes) (d : JournalDirectory) : Bool × JournalDirectory :=
  if d.part.isSome || !answers.opens then (false, d)
  else if !answers.fills events.length then (false, { d with part := some answers.left })
  else if answers.replaces then (true, { journal := some events.flatten, part := none })
  else (false, { d with part := if answers.removes then none else some events.flatten })

namespace JournalState

/-- Persist one fixed-schema event before returning to the caller. -/
def record (s : JournalState) (c : RecordCall) : Except RecordError Unit × JournalState :=
  if s.journal.failed then (.error .autostartOperationJournal, s)
  else
    match recordLine s.journal.nonce (s.journal.events.length + 1) c with
    | .error e => (.error e, s)
    | .ok line =>
      match writeAll c.answers (s.journal.events ++ [line]) s.directory with
      | (true, directory) => (.ok (), { journal := { s.journal with events := s.journal.events ++ [line] }, directory })
      | (false, directory) =>
        (.error .autostartOperationJournal, { journal := { s.journal with failed := true }, directory })

/-- A record, what it returns dropped. -/
def step (s : JournalState) (c : RecordCall) : JournalState := (s.record c).2

/-- A journal opened on the path of a directory. -/
def opened (nonce : Text) (directory : JournalDirectory) : JournalState := { journal := { nonce }, directory }

/-- The record raises. -/
def Raises (s : JournalState) (c : RecordCall) : Prop := ∃ e, (s.record c).1 = .error e

end JournalState

/-! ## The line of a record -/

theorem recordDocument_scalar (nonce : Text) (sequence : Nat) (c : RecordCall) :
    ∀ m ∈ recordDocument nonce sequence c, Json.Scalar m.2 := by
  simp only [recordDocument, List.forall_mem_cons, Json.Scalar, true_and]
  refine ⟨?_, nofun⟩
  cases (c.context.getD {}).requestedEnabled with
  | none => trivial
  | some enabled => trivial

variable {nonce : Text} {sequence : Nat} {c : RecordCall}

/-- The text of a record is ASCII whatever it says, so that it can be encoded. -/
theorem recordLine_eq_ok (h : Printable (c.context.getD {}).controllerRevision) :
    ∃ line, recordLine nonce sequence c = .ok line := by
  have hencodes := (Json.isAscii_dict (recordDocument_scalar nonce sequence c)).encodable
  exact ⟨_, by rw [recordLine, if_pos h, Text.encodeUtf8, if_pos hencodes]⟩

theorem recordLine_eq_error (h : ¬Printable (c.context.getD {}).controllerRevision) :
    recordLine nonce sequence c = .error .value := if_neg h

end ArkClaw.Autostart
