import ArkClaw.Library.Runs
import ArkClaw.Library.Text

/-!
# The autostart service

The service owns one registry value: it queries it, writes its command and deletes it. Others may change the value
at any time, so every read may return anything; the answers of an operation's accesses are its `OperationIo`. The
accesses an operation made are recorded in `accesses`, with what they returned.
-/

namespace ArkClaw.Autostart

open ArkClaw.Library

/-- Safe UI-visible state of the fixed startup registration. -/
inductive AutostartStatus where
  | unavailable | disabled | enabled | occupied | ownershipLost | invalidExecutable | error
deriving DecidableEq, Repr

def statusDetails : AutostartStatus → String × String
  | .unavailable => ("autostart_unavailable", "Autostart is unavailable on this platform or runtime.")
  | .disabled => ("autostart_disabled", "ArkClaw is not registered to start when you sign in.")
  | .enabled => ("autostart_enabled", "ArkClaw is registered to start when you sign in.")
  | .occupied => ("autostart_entry_occupied", "The ArkClaw startup entry is occupied by another value.")
  | .ownershipLost => ("autostart_ownership_lost", "The ArkClaw startup entry changed outside this application.")
  | .invalidExecutable =>
    ("autostart_invalid_executable", "Autostart is available only from the packaged ArkClaw executable.")
  | .error => ("autostart_backend_error", "The autostart setting could not be accessed safely.")

/-- Non-sensitive state safe to send to widgets. -/
structure AutostartSnapshot where
  status : AutostartStatus
  safeCode : String
  safeMessage : String
deriving DecidableEq, Repr

def AutostartSnapshot.forStatus (status : AutostartStatus) : AutostartSnapshot :=
  ⟨status, (statusDetails status).1, (statusDetails status).2⟩

def AutostartSnapshot.enabled (s : AutostartSnapshot) : Bool := s.status = .enabled

def AutostartSnapshot.userToggleAllowed (s : AutostartSnapshot) : Bool := s.status ∈ [.disabled, .enabled]

/-- Internal registry value. -/
structure AutostartStoredValue where
  valueType : Int
  command : Option Text
deriving DecidableEq

/-- Result retaining the last safe UI state on backend failure. -/
structure AutostartOperationResult where
  success : Bool
  snapshot : AutostartSnapshot
  safeCode : String
  safeMessage : String
deriving DecidableEq, Repr

namespace AutostartOperationResult

def completed (snapshot : AutostartSnapshot) : AutostartOperationResult := ⟨true, snapshot, "none", ""⟩

def failed (snapshot : AutostartSnapshot) (safeCode safeMessage : String) : AutostartOperationResult :=
  ⟨false, snapshot, safeCode, safeMessage⟩

/-- The operation failed as the snapshot says. -/
def refused (snapshot : AutostartSnapshot) : AutostartOperationResult :=
  failed snapshot snapshot.safeCode snapshot.safeMessage

end AutostartOperationResult

/-- The points at which an operation records an event. Both reads record that the backend is read. -/
inductive JournalPoint where
  | serviceEnableEntered | serviceDisableEntered | backendReadEntered | backendWriteEntered | backendWriteCompleted
  | backendDeleteEntered | backendDeleteCompleted | readbackEntered | readbackCompleted
deriving DecidableEq, Repr

/-- How the accesses of one operation end. A read returns what is then stored, or raises. -/
structure OperationIo where
  /-- The resolved path of the executable, if it is eligible. -/
  executable : Option Text
  records : JournalPoint → Bool := fun _ => true
  read : Option (Option AutostartStoredValue) := none
  write : Bool := true
  delete : Bool := true
  readback : Option (Option AutostartStoredValue) := none

/-- An access to the registry, with how it ended. -/
inductive Access where
  | read (value : Option (Option AutostartStoredValue))
  | write (command : Text) (done : Bool)
  | delete (done : Bool)
deriving DecidableEq

def registryStringValueType : Int := 1

/-- Own and verify one fixed per-user startup registration. -/
structure AutostartService where
  /-- The platform is supported and there is a backend. -/
  available : Bool
  hasJournal : Bool
  journalFailed : Bool := false
  ownershipConfirmed : Bool := false
  ownershipLost : Bool := false
  snapshot : AutostartSnapshot := .forStatus .unavailable
  /-- The accesses of the last operation. -/
  accesses : List Access := []

/-- What a read came to. -/
inductive ReadResult where
  | stored (value : Option AutostartStoredValue)
  | backendFailure
  | journalFailure

namespace AutostartService

variable (s : AutostartService)

def withStatus (status : AutostartStatus) : AutostartService := { s with snapshot := .forStatus status }

def withSnapshot (snapshot : AutostartSnapshot) : AutostartService := { s with snapshot }

def access (a : Access) : AutostartService := { s with accesses := s.accesses ++ [a] }

/-- Ownership is lost, for good. -/
def lose : AutostartService := { s with ownershipLost := true, snapshot := .forStatus .ownershipLost }

/-- Record an event in the journal; once the journal has failed it fails for good. -/
def record (io : OperationIo) (point : JournalPoint) : Bool × AutostartService :=
  if !s.hasJournal then (true, s)
  else if !s.journalFailed && io.records point then (true, s)
  else (false, { s with journalFailed := true, snapshot := .forStatus .error })

def journalFailure (previous : AutostartSnapshot) : AutostartOperationResult :=
  .failed previous "autostart_diagnostic_journal_failed" "The autostart diagnostic journal failed safely."

/-- The command of the running executable; without one the snapshot says why. -/
def expectedCommand (io : OperationIo) : Option Text × AutostartService :=
  if !s.available then (none, s.withStatus .unavailable)
  else match io.executable with
  | none => (none, s.withStatus .invalidExecutable)
  | some resolved => (some (lit "\"" ++ resolved ++ lit "\" --startup"), s)

/-- A read under its event in the journal: `answer` is what it returns. -/
def readValue (io : OperationIo) (point : JournalPoint) (answer : Option (Option AutostartStoredValue)) :
    ReadResult × AutostartService :=
  let (recorded, s) := s.record io point
  if !recorded then (.journalFailure, s)
  else match answer with
  | none => (.backendFailure, (s.access (.read none)).withStatus .error)
  | some value => (.stored value, s.access (.read (some value)))

/-- The value is the service's own. -/
def Owns (expected : Text) (value : Option AutostartStoredValue) : Prop :=
  value = some { valueType := registryStringValueType, command := some expected }

instance (expected : Text) (value : Option AutostartStoredValue) : Decidable (Owns expected value) :=
  inferInstanceAs (Decidable (_ = _))

def classify (stored : Option AutostartStoredValue) (expected : Text) : AutostartService :=
  if s.ownershipLost then s.withStatus .ownershipLost
  else if stored = none then if s.ownershipConfirmed then s.lose else s.withStatus .disabled
  else if Owns expected stored then { s with ownershipConfirmed := true, snapshot := .forStatus .enabled }
  else if s.ownershipConfirmed then s.lose
  else s.withStatus .occupied

/-- Read and classify the fixed value without writing anything. -/
def query (io : OperationIo) : AutostartService :=
  let (expected, s) := s.expectedCommand io
  match expected with
  | none => s
  | some expected =>
    match s.readValue io .backendReadEntered io.read with
    | (.stored value, s) => s.classify value expected
    | (_, s) => s

/-- The last part of an enabling: the value is read back. -/
def verifyWrite (previous : AutostartSnapshot) (expected : Text) (io : OperationIo) :
    AutostartOperationResult × AutostartService :=
  let failedSafely := "autostart_write_verification_failed"
  let message := "The autostart setting could not be verified safely."
  match s.readValue io .readbackEntered io.readback with
  | (.journalFailure, s) => (journalFailure previous, s)
  | (.backendFailure, s) => (.failed previous failedSafely message, s.withSnapshot previous)
  | (.stored verified, s) =>
    let (recorded, s) := s.record io .readbackCompleted
    if !recorded then (journalFailure previous, s)
    else
      let s := s.classify verified expected
      if s.snapshot.status ≠ .enabled then (.failed s.snapshot failedSafely message, s)
      else (.completed s.snapshot, s)

def enable (previous : AutostartSnapshot) (stored : Option AutostartStoredValue) (expected : Text) (io : OperationIo) :
    AutostartOperationResult × AutostartService :=
  if stored ≠ none then
    let s := s.classify stored expected
    (if s.snapshot.status = .enabled then .completed s.snapshot else .refused s.snapshot, s)
  else
    let (recorded, s) := s.record io .backendWriteEntered
    if !recorded then (journalFailure previous, s)
    else
      let s := s.access (.write expected io.write)
      if !io.write then
        (.failed previous "autostart_write_failed" "The autostart setting could not be enabled safely.",
          s.withSnapshot previous)
      else
        let (recorded, s) := s.record io .backendWriteCompleted
        if !recorded then (journalFailure previous, s)
        else { s with ownershipConfirmed := true }.verifyWrite previous expected io

/-- The last part of a disabling: the value is read back. -/
def verifyDelete (previous : AutostartSnapshot) (expected : Text) (io : OperationIo) :
    AutostartOperationResult × AutostartService :=
  match s.readValue io .readbackEntered io.readback with
  | (.journalFailure, s) => (journalFailure previous, s)
  | (.backendFailure, s) =>
    (.failed previous "autostart_delete_verification_failed" "The autostart setting could not be verified safely.",
      s.withSnapshot previous)
  | (.stored verified, s) =>
    let (recorded, s) := s.record io .readbackCompleted
    if !recorded then (journalFailure previous, s)
    else if verified ≠ none then (.refused (AutostartSnapshot.forStatus .ownershipLost), s.lose)
    else
      let s := { s with ownershipConfirmed := false, ownershipLost := false }.classify none expected
      (.completed s.snapshot, s)

def disable (previous : AutostartSnapshot) (stored : Option AutostartStoredValue) (expected : Text)
    (io : OperationIo) : AutostartOperationResult × AutostartService :=
  if stored = none then
    let s := s.classify none expected
    (if s.snapshot.status = .ownershipLost then .refused s.snapshot else .completed s.snapshot, s)
  else if ¬Owns expected stored then (.refused (AutostartSnapshot.forStatus .ownershipLost), s.lose)
  else
    let (recorded, s) := s.record io .backendDeleteEntered
    if !recorded then (journalFailure previous, s)
    else
      let s := s.access (.delete io.delete)
      if !io.delete then
        (.failed previous "autostart_delete_failed" "The autostart setting could not be disabled safely.",
          s.withSnapshot previous)
      else
        let (recorded, s) := s.record io .backendDeleteCompleted
        if !recorded then (journalFailure previous, s) else s.verifyDelete previous expected io

/-- Apply one explicit user choice and verify the resulting value. -/
def setEnabled (enabled : Bool) (io : OperationIo) : AutostartOperationResult × AutostartService :=
  let previous := s.snapshot
  let (recorded, s) := s.record io (if enabled then .serviceEnableEntered else .serviceDisableEntered)
  if !recorded then (journalFailure previous, s)
  else
    let (expected, s) := s.expectedCommand io
    match expected with
    | none => (.refused s.snapshot, s)
    | some expected =>
      if s.ownershipLost then
        let s := s.withStatus .ownershipLost
        (.refused s.snapshot, s)
      else
        match s.readValue io .backendReadEntered io.read with
        | (.journalFailure, s) => (journalFailure previous, s)
        | (.backendFailure, s) =>
          (.failed previous "autostart_backend_error" "The autostart setting could not be accessed safely.",
            s.withSnapshot previous)
        | (.stored stored, s) =>
          if enabled then s.enable previous stored expected io else s.disable previous stored expected io

/-! ## The operations -/

inductive OperationKind where
  | query | enable | disable
deriving DecidableEq, Repr

structure Operation where
  kind : OperationKind
  io : OperationIo

def step (op : Operation) : AutostartService :=
  let s := { s with accesses := [] }
  match op.kind with
  | .query => s.query op.io
  | .enable => (s.setEnabled true op.io).2
  | .disable => (s.setEnabled false op.io).2

end AutostartService

end ArkClaw.Autostart
