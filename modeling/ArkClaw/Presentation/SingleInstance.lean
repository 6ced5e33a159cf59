import ArkClaw.Library.Program
import ArkClaw.Library.Runs

/-!
# The single-instance manager

The process that holds the instance lock serves one fixed command on a local socket: bring the pet to the front. The
manager tracks a session for each client, answers it once, and cleans up its timer and its socket. Every call to a
socket, a timer, the server or the lock may raise; writing to a socket, disconnecting and aborting it may also emit
signals, whose slots run before the call returns. `handle` runs such a slot, with a bound on how deep they nest.

What the manager asks of the outside is answered from `answers`, in order. `log` is the history that the statements
about it speak of; no slot reads it.
-/

namespace ArkClaw.Presentation.SingleInstance

open ArkClaw.Library

/-- The bytes `ACTIVATE_PET_V1` and a line feed. -/
def activateMessage : List UInt8 := [65, 67, 84, 73, 86, 65, 84, 69, 95, 80, 69, 84, 95, 86, 49, 10]

def maxMessageBytes : Nat := 64

inductive ActivationMessageStatus where
  | incomplete | activate | reject
deriving DecidableEq, Repr

/-- Classify a bounded, newline-terminated, fixed ASCII command. -/
def classifyActivationMessage (payload : List UInt8) (disconnected : Bool) : ActivationMessageStatus :=
  if maxMessageBytes < payload.length then .reject
  else if 10 ∉ payload then if disconnected then .reject else .incomplete
  else if payload.count 10 ≠ 1 ∨ payload.getLast? ≠ some 10 then .reject
  else if payload.any fun byte => decide (128 ≤ byte) then .reject
  else if payload = activateMessage then .activate
  else .reject

/-- The fixed answers to a client. -/
inductive Response where
  | ack | busy | reject
deriving DecidableEq, Repr

/-- A socket; each connection brings a new one. -/
abbrev Socket := Nat

structure ClientSession where
  buffer : List UInt8 := []
  terminal : Bool := false
  cleanupInProgress : Bool := false
  timerCleaned : Bool := false
  socketCleaned : Bool := false
deriving DecidableEq

/-- The signals of a client's socket. -/
inductive ClientSignal where
  | readyRead | disconnected
deriving DecidableEq, Repr

/-- What a call to the outside does: whether it raises, what it returns, and the signals it emits before. -/
structure Answer where
  raises : Bool := false
  value : Bool := false
  data : List UInt8 := []
  signals : List (ClientSignal × Socket) := []

/-- What the event loop has been asked to call. -/
inductive Callback where
  | finishClient (socket : Socket)
  | activationRequested (socket : Socket)
deriving DecidableEq

inductive Record where
  | tracked (clients : Nat)
  | answered (socket : Socket)
  | activationRequested (socket : Socket)
  | ended (socket : Socket)
  | cleanupRaised (socket : Socket)
  | cleanedUp (socket : Socket)
  | unlocking (serverOpen : Bool) (clients : Nat)
deriving DecidableEq

inductive QtError where
  | raised

structure Manager where
  maxActiveClients : Nat
  serverOpen : Bool
  lockHeld : Bool
  closing : Bool := false
  closed : Bool := false
  /-- The sessions there have been; a session's socket is its index. -/
  sessions : List ClientSession := []
  /-- The sockets of the tracked sessions. -/
  clients : List Socket := []
  lastIpcSafeCode : String := "none"
  cleanupSafeCode : String := "none"
  pending : List Callback := []
  answers : List Answer := []
  log : List Record := []

/-- A slot of the manager. -/
abbrev Slot (α : Type) := EStateM QtError Manager α

namespace Manager

variable (s : Manager)

def modifySession (socket : Socket) (f : ClientSession → ClientSession) : Manager :=
  { s with sessions := s.sessions.modify socket f }

def record (r : Record) : Manager := { s with log := s.log ++ [r] }

/-- Forget a client that is cleaned up, and let its cleanup be tried again. -/
def cleanupDone (socket : Socket) (failed : Bool) : Manager :=
  let cleaned := s.sessions[socket]?.any fun x => x.timerCleaned && x.socketCleaned
  { s with
    clients := if cleaned then s.clients.filter (· ≠ socket) else s.clients
    sessions := s.sessions.modify socket fun x => { x with cleanupInProgress := false }
    cleanupSafeCode := if failed then "single_instance_cleanup_failed" else s.cleanupSafeCode
    log := s.log ++ [if failed then .cleanupRaised socket else .cleanedUp socket] }

/-- Give a connection its session. -/
def track : Manager :=
  { s with
    sessions := s.sessions ++ [({} : ClientSession)]
    clients := s.clients ++ [s.sessions.length]
    log := s.log ++ [Record.tracked (s.clients.length + 1)] }

/-- A client has disconnected in the middle of its message. -/
def noteTruncated (session : ClientSession) : Manager :=
  let truncated := session.buffer ≠ [] ∧ !session.terminal ∧ classifyActivationMessage session.buffer true = .reject
  { s with lastIpcSafeCode := if truncated then "single_instance_message_truncated" else s.lastIpcSafeCode }

/-- The session of a tracked client. -/
def clientOf (socket : Socket) : Option ClientSession :=
  if socket ∈ s.clients then s.sessions[socket]? else none

end Manager

open Manager

/-! ## Calls to the outside -/

/-- The next answer from the outside. -/
def nextAnswer : Slot Answer := do
  let s ← get
  match s.answers with
  | [] => return {}
  | answer :: rest =>
    set { s with answers := rest }
    return answer

/-- A call that emits nothing. -/
def call : Slot Answer := do
  let answer ← nextAnswer
  if answer.raises then throw .raised
  return answer

/-- A call to a socket that may emit signals. What a slot raises does not reach the call. -/
def socketCall (emit : ClientSignal → Socket → Slot Unit) : Slot Unit := do
  let answer ← nextAnswer
  answer.signals.forM fun signal => do
    let _ ← attempt (emit signal.1 signal.2)
  if answer.raises then throw .raised

/-! ## The slots of a client -/

section

variable (emit : ClientSignal → Socket → Slot Unit)

/-- Write the response, flush it and disconnect. -/
def respond : Slot Unit := do
  socketCall emit
  socketCall emit
  socketCall emit

/-- Stop the timer and delete it, unless that is done; the result says whether it failed. -/
def cleanTimer (socket : Socket) (cleaned : Bool) : Slot Bool :=
  if cleaned then return false
  else do
    let stopped : Except QtError Unit ← attempt do
      let _ ← call
      let _ ← call
    match stopped with
    | .error _ => return true
    | .ok _ =>
      modify (·.modifySession socket fun x => { x with timerCleaned := true })
      return false

def cleanSocket (socket : Socket) (cleaned abortSocket : Bool) : Slot Bool :=
  if cleaned then return false
  else do
    let deleted : Except QtError Unit ← attempt do
      if abortSocket then socketCall emit
      let _ ← call
    match deleted with
    | .error _ => return true
    | .ok _ =>
      modify (·.modifySession socket fun x => { x with socketCleaned := true })
      return false

/-- Clean up what of a session is not cleaned up yet, unless that is in progress; the result says whether nothing failed. -/
def cleanupClientSession (socket : Socket) (abortSocket : Bool) : Slot Bool := do
  let s ← get
  match s.sessions[socket]? with
  | none => return true
  | some session =>
    if session.cleanupInProgress then return true
    else
      modify (·.modifySession socket fun x => { x with cleanupInProgress := true })
      let timerFailed ← cleanTimer socket session.timerCleaned
      let socketFailed ← cleanSocket emit socket session.socketCleaned abortSocket
      modify (·.cleanupDone socket (timerFailed || socketFailed))
      return !(timerFailed || socketFailed)

/-- Answer a client; the result says whether it is to be aborted. -/
def respondOrAbort (socket : Socket) (response : Option Response) (abortSocket : Bool) : Slot Bool := do
  match response with
  | none => return abortSocket
  | some _ =>
    modify (·.record (.answered socket))
    let responded : Except QtError Unit ← attempt (respond emit)
    match responded with
    | .ok _ => return abortSocket
    | .error _ =>
      modify fun s => { s with cleanupSafeCode := "single_instance_cleanup_failed" }
      return true

def finishClient (socket : Socket) (response : Option Response) (abortSocket : Bool) : Slot Unit := do
  let s ← get
  match s.clientOf socket with
  | none => return ()
  | some _ =>
    modify fun s => (s.modifySession socket fun x => { x with terminal := true }).record (.ended socket)
    let abort ← respondOrAbort emit socket response abortSocket
    let _ ← cleanupClientSession emit socket abort

/-- Answer a client that asks for the pet; the activation is reported by the event loop. -/
def answerActivation (socket : Socket) (closing : Bool) : Slot Unit :=
  if closing then do
    modify fun s => { s with lastIpcSafeCode := "single_instance_owner_busy" }
    finishClient emit socket (some .busy) false
  else do
    modify fun s => { s with lastIpcSafeCode := "none" }
    finishClient emit socket (some .ack) false
    let _ ← call
    modify fun s => { s with pending := s.pending ++ [.activationRequested socket] }

def answerMessage (socket : Socket) : ActivationMessageStatus → Slot Unit
  | .incomplete => return ()
  | .reject => do
    modify fun s => { s with lastIpcSafeCode := "single_instance_activation_rejected" }
    finishClient emit socket (some .reject) false
  | .activate => do
    let closing : Except QtError Answer ← attempt call
    answerActivation emit socket (closing.toOption.all (·.value))

/-- Read what has come, and answer it once it is a message. -/
def readClient (socket : Socket) : Slot Unit := do
  let s ← get
  match s.clientOf socket with
  | none => return ()
  | some session =>
    if session.terminal then return ()
    else
      let read ← call
      let buffer := session.buffer ++ read.data
      modify (·.modifySession socket fun x => { x with buffer })
      answerMessage emit socket (classifyActivationMessage buffer false)

/-- A client that has disconnected is cleaned up as it is. -/
def dropClient (socket : Socket) : Slot Unit := do
  let s ← get
  match s.clientOf socket with
  | none => return ()
  | some session =>
    modify fun s => (s.record (.ended socket)).noteTruncated session
    let _ ← cleanupClientSession emit socket false

end

/-- Run the slot of a client's signal, where no more than so many signals are nested. -/
def handle : Nat → ClientSignal → Socket → Slot Unit
  | 0, _, _ => return ()
  | depth + 1, .readyRead, socket => readClient (handle depth) socket
  | depth + 1, .disconnected, socket => dropClient (handle depth) socket

/-! ## The slots of the manager -/

/-- A client that was not answered in time is finished by the event loop. -/
def expireClient (socket : Socket) : Slot Unit := do
  let s ← get
  match s.clientOf socket with
  | none => return ()
  | some session =>
    if session.terminal then return ()
    else
      modify (·.modifySession socket fun x => { x with terminal := true })
      let _ ← call
      modify fun s => { s with lastIpcSafeCode := "single_instance_client_timeout" }
      let _ ← call
      modify fun s => { s with pending := s.pending ++ [.finishClient socket] }

section

variable (emit : ClientSignal → Socket → Slot Unit)

def noteCleanup {α : Type} : Except QtError α → Slot Unit
  | .ok _ => return ()
  | .error _ => modify fun s => { s with cleanupSafeCode := "single_instance_cleanup_failed" }

/-- A client that cannot be answered is aborted. -/
def abortUntracked : Except QtError Unit → Slot Unit
  | .ok _ => return ()
  | .error _ => do
    let aborted : Except QtError Unit ← attempt (socketCall emit)
    noteCleanup aborted

/-- A client above the limit gets no session. -/
def rejectUntrackedClient : Slot Unit := do
  let responded : Except QtError Unit ← attempt (respond emit)
  abortUntracked emit responded
  let deleted : Except QtError Answer ← attempt call
  noteCleanup deleted

/-- Track a client, then connect its signals and read what it has sent already. -/
def trackClient : Slot Unit := do
  let s ← get
  set s.track
  let _ ← call
  let _ ← call
  let _ ← call
  let _ ← call
  let available ← call
  if available.value then readClient emit s.sessions.length

/-- Give a connection its session, if the limit allows one. -/
def acceptClient : Slot Unit := do
  let s ← get
  if s.maxActiveClients ≤ s.clients.length then
    modify fun s => { s with lastIpcSafeCode := "single_instance_client_limit_reached" }
    rejectUntrackedClient emit
  else
    let _ ← call
    let _ ← call
    let _ ← call
    trackClient emit

/-- Accept the connections that are pending: so many, until one of the calls raises. -/
def acceptPending : Nat → Slot Unit
  | 0 => do
    let _ ← call
  | arrivals + 1 => do
    let _ ← call
    let _ ← call
    acceptClient emit
    acceptPending arrivals

def acceptConnections (arrivals : Nat) : Slot Unit := do
  let s ← get
  if !s.serverOpen || s.closing then return ()
  else acceptPending emit arrivals

/-- Clean up every session that is tracked now; the result says whether one failed. -/
def cleanupClients : List Socket → Bool → Slot Bool
  | [], failed => return failed
  | socket :: rest, failed => do
    modify (·.record (.ended socket))
    let cleaned ← cleanupClientSession emit socket true
    cleanupClients rest (failed || !cleaned)

/-- Release the lock, if nothing is open any more. -/
def releaseLock : Slot Bool := do
  let s ← get
  if !s.serverOpen && s.clients.isEmpty && s.lockHeld then
    modify (·.record (.unlocking s.serverOpen s.clients.length))
    let unlocked : Except QtError Answer ← attempt call
    match unlocked with
    | .error _ => return true
    | .ok _ =>
      modify fun s => { s with lockHeld := false }
      return false
  else return false

def closeServer : Slot Bool := do
  let s ← get
  if s.serverOpen then
    let stopped : Except QtError Answer ← attempt call
    match stopped with
    | .error _ => return true
    | .ok _ =>
      modify fun s => { s with serverOpen := false }
      return false
  else return false

def close : Slot Unit := do
  let s ← get
  if s.closed then return ()
  else
    modify fun s => { s with closing := true }
    let serverFailed ← closeServer
    let s ← get
    let clientsFailed ← cleanupClients emit s.clients serverFailed
    let lockFailed ← releaseLock
    modify fun s =>
      let closed := !s.serverOpen && s.clients.isEmpty && !s.lockHeld
      { s with
        closed
        cleanupSafeCode := if (clientsFailed || lockFailed) || !closed then "single_instance_cleanup_failed" else "none" }

/-- Make the call of the event loop at an index. -/
def runPending (index : Nat) : Slot Unit := do
  let s ← get
  match s.pending[index]? with
  | none => return ()
  | some callback =>
    modify fun s => { s with pending := s.pending.eraseIdx index }
    match callback with
    | .finishClient socket => finishClient emit socket none true
    | .activationRequested socket => modify (·.record (.activationRequested socket))

end

/-! ## Runs -/

inductive Trigger where
  | newConnection (arrivals : Nat)
  | readyRead (socket : Socket)
  | disconnected (socket : Socket)
  | timeout (socket : Socket)
  | pending (index : Nat)
  | close

/-- Something that happens to the manager, with what the outside will answer. -/
structure Event where
  trigger : Trigger
  depth : Nat
  answers : List Answer

def slotOf (depth : Nat) : Trigger → Slot Unit
  | .newConnection arrivals => acceptConnections (handle depth) arrivals
  | .readyRead socket => readClient (handle depth) socket
  | .disconnected socket => dropClient (handle depth) socket
  | .timeout socket => expireClient socket
  | .pending index => runPending (handle depth) index
  | .close => close (handle depth)

def step (s : Manager) (e : Event) : Manager := stateAfter (slotOf e.depth e.trigger) { s with answers := e.answers }

/-- A manager that has no client yet: it holds the lock, or it has no server. -/
structure Manager.Initial (s : Manager) : Prop where
  clients : s.clients = []
  sessions : s.sessions = []
  pending : s.pending = []
  log : s.log = []
  owner : s.lockHeld = false → s.serverOpen = false

end ArkClaw.Presentation.SingleInstance
