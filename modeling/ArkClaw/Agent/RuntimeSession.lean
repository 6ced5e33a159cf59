import ArkClaw.Library.Component
import ArkClaw.Agent.AgentLoopRuns
import ArkClaw.Provider.ProviderProfileService

/-!
# The runtime session controller

The controller owns the activation of a provider, one turn at a time, the histories and the safe shutdown. Its turns run
as tasks of their own; `runTurn` consumes the events of the agent loop, commits a completed turn and reports each
event to the sink. Its commands interleave with the turn and with each other: those that switch or close the provider
hold the lock of the provider service across their awaits, and wait for the active turn by way of the coordinator.

A turn's place in `turns` is its identity: the task, its token and its record of the coordinator are one entry there.
What the agent loop over a provider does is a parameter `loops`; it sees the session, so it may do something else in
each turn. An `agent_loop_factory` that raises is left out: the activation would answer with a failure, and the loop over
the provider before would stay, beside the new active provider.
-/

namespace ArkClaw.Domain

open ArkClaw.Library

def AgentState.value : AgentState → Text
  | .idle => lit "idle"
  | .listening => lit "listening"
  | .thinking => lit "thinking"
  | .speaking => lit "speaking"
  | .error => lit "error"
  | .reminding => lit "reminding"

end ArkClaw.Domain

namespace ArkClaw.Agent.RuntimeSession

open ArkClaw.Library ArkClaw.Domain ArkClaw.Provider
open ArkClaw.Provider.ProfileService (ActiveTurnHandling Activation Answer Failure Mutation)

/-! ## Data -/

inductive RuntimeState where
  | ready | closing | closed
deriving DecidableEq, Repr

inductive RuntimeEventType where
  | turnStarted | agentStateChanged | textDelta | turnCompleted | turnCancelled | turnFailed | turnSettled
deriving DecidableEq, Repr

/-- An event for the user interface; it never holds a continuation. -/
structure RuntimeEvent where
  type : RuntimeEventType
  turnId : Text
  state : Text := []
  text : Text := []
  safeCode : Text := []
  safeMessage : Text := []
deriving DecidableEq

structure RuntimeCommandResult where
  success : Bool
  safeCode : String
  safeMessage : String
deriving DecidableEq, Repr

namespace RuntimeCommandResult

def ok : RuntimeCommandResult := ⟨true, "none", ""⟩

def failure (safeCode safeMessage : String) : RuntimeCommandResult := ⟨false, safeCode, safeMessage⟩

end RuntimeCommandResult

/-- How a turn task is done. -/
inductive TurnOutcome where
  | finished | cancelled
deriving DecidableEq, Repr

/-- A turn: what the coordinator records of it, its token, the local `terminal_event` of its task, and how the task
was done. -/
structure ActiveTurnRecord where
  command : UserMessageCommand
  profileId : ProfileId
  provider : ProviderRef
  cancelled : Bool := false
  terminal : Bool := false
  terminalEvent : Bool := false
  outcome : Option TurnOutcome := none

/-- The place of a turn in the list of turns. -/
abbrev TurnRef := Nat

/-- The controller with its coordinator, everything that the agent loops yielded, each event with its turn, and everything
that was given to the sink. -/
structure Session where
  state : RuntimeState := .ready
  acceptingCommands : Bool := true
  /-- The provider that the agent loop was built over. -/
  agentLoop : Option ProviderRef := none
  activeTurnTask : Option TurnRef := none
  turnIdle : Bool := true
  histories : Text → List ChatMessage := fun _ => []
  continuations : Text → ProfileId → Option ProviderContinuation := fun _ _ => none
  agentState : AgentState := .idle
  /-- The record of the coordinator. -/
  record : Option TurnRef := none
  turns : List ActiveTurnRecord := []
  yielded : List (TurnRef × AgentEvent) := []
  emitted : List RuntimeEvent := []

/-- The session, the provider service that it owns, and what is left of the turn task. -/
structure Runtime where
  service : ProfileService.ProviderProfileService
  session : Session := {}
  task : Option (TurnRef × Loop Session Unit) := none

namespace Session

variable (s : Session)

def onTurn (turn : TurnRef) (f : ActiveTurnRecord → ActiveTurnRecord) : Session :=
  { s with turns := s.turns.modify turn f }

/-- `_emit`; an exception of the sink is dropped. -/
def emit (event : RuntimeEvent) : Session := { s with emitted := s.emitted ++ [event] }

/-! ## The coordinator -/

def hasActiveTurn : Bool := s.record.isSome

def currentRecord : Option ActiveTurnRecord := s.record.bind fun turn => s.turns[turn]?

def currentTurnId : Option Text := s.currentRecord.map (·.command.turnId)

def currentProfileId : Option ProfileId := s.currentRecord.map (·.profileId)

def isCancelled (turn : TurnRef) : Bool := (s.turns[turn]?).any (·.cancelled)

def outcome (turn : TurnRef) : Option TurnOutcome := (s.turns[turn]?).bind (·.outcome)

def markTerminal (turnId : Text) : Session :=
  match s.record with
  | some turn => s.onTurn turn fun r => if r.command.turnId = turnId then { r with terminal := true } else r
  | none => s

def releaseFinishedTurn (turn : TurnRef) : Session :=
  if s.record = some turn ∧ s.outcome turn ≠ none then { s with record := none } else s

/-- What `prepare_for_provider_switch` comes to: an answer, or the wait for a turn. -/
inductive Coordination where
  | answers (answer : Answer)
  | waits (turn : TurnRef)

/-- The part behind the wait: the turn must be done and have reached its terminal event. -/
def awaited (turn : TurnRef) : Answer → Answer
  | .returned =>
    if s.outcome turn ≠ none ∧ (s.turns[turn]?).any (·.terminal) = true then .returned else .raised
  | answer => answer

/-- The part of `prepare_for_provider_switch` up to its wait; there is none for a task that is done. -/
def prepareForProviderSwitch (oldProfileId : ProfileId) (handling : ActiveTurnHandling) : Coordination × Session :=
  match s.record with
  | none => (.answers .returned, s)
  | some turn =>
    if (s.turns[turn]?).all fun r => r.profileId ≠ oldProfileId then (.answers .raised, s)
    else
      let s := if handling = .cancelActive then s.onTurn turn fun r => { r with cancelled := true } else s
      match s.outcome turn with
      | none => (.waits turn, s)
      | some .cancelled => (.answers .cancelled, s)
      | some .finished => (.answers (s.awaited turn .returned), s)

/-! ## A turn -/

/-- `_commit_completed_turn`: both messages are made before the history grows. -/
def commitCompletedTurn (command : UserMessageCommand) (profileId : ProfileId) (event : AgentEvent) :
    EStateM LoopError Session Unit :=
  match ChatMessage.create? .assistant event.text with
  | none => throw .other
  | some answer => modify fun s =>
    { s with
      histories := Function.update s.histories command.sessionId
        (s.histories command.sessionId ++ [command.message, answer])
      continuations := Function.update s.continuations command.sessionId
        (Function.update (s.continuations command.sessionId) profileId event.continuation) }

/-- What the sink is told of an agent event. -/
def relay (event : AgentEvent) : Option RuntimeEvent :=
  match event.type with
  | .turnStarted => some { type := .turnStarted, turnId := event.turnId }
  | .stateChanged =>
    some { type := .agentStateChanged, turnId := event.turnId, state := (event.state.getD .error).value }
  | .textDelta => some { type := .textDelta, turnId := event.turnId, text := event.text }
  | .turnCompleted => some { type := .turnCompleted, turnId := event.turnId, text := event.text }
  | .turnCancelled => some { type := .turnCancelled, turnId := event.turnId }
  | .turnFailed =>
    some { type := .turnFailed, turnId := event.turnId, safeCode := event.errorCode, safeMessage := event.errorMessage }
  | .approvalRequired | .toolStarted | .toolFinished => none

/-- `_process_agent_event`. -/
def processAgentEvent (event : AgentEvent) : Session :=
  { s with
    agentState := if event.type = .stateChanged then event.state.getD .error else s.agentState
    emitted := s.emitted ++ (relay event).toList }

/-- The body of the loop over the agent events. -/
def takeEvent (turn : TurnRef) (command : UserMessageCommand) (profileId : ProfileId) (event : AgentEvent) :
    EStateM LoopError Session Unit := do
  modify fun s => { s with yielded := s.yielded ++ [(turn, event)] }
  if event.type = .turnCompleted then commitCompletedTurn command profileId event
  modify fun s => s.processAgentEvent event
  if terminal event.type then
    modify fun s => (s.onTurn turn fun r => { r with terminalEvent := true }).markTerminal command.turnId

/-- What is yielded is taken; the other awaits of the loop stay. -/
def takes (turn : TurnRef) (command : UserMessageCommand) (profileId : ProfileId) :
    LoopPoint → LoopPoint ⊕ EStateM LoopError Session WakeUp
  | .yields event => .inr do
    takeEvent turn command profileId event
    return .arrives
  | point => .inl point

def fail (command : UserMessageCommand) (safeCode safeMessage : Text) : Session :=
  (s.emit { type := .turnFailed, turnId := command.turnId, safeCode, safeMessage }).markTerminal command.turnId

end Session

/-- The task of a turn. -/
def runTurn (loop : AgentLoop Session) (turn : TurnRef) (command : UserMessageCommand) (profileId : ProfileId) :
    Loop Session Unit := do
  let s ← get
  let input : AgentLoop.RunInput :=
    { history := s.histories command.sessionId, continuation := s.continuations command.sessionId profileId }
  match ← ((loop.run (·.isCancelled turn) command input).serve (Session.takes turn command profileId)).attempt with
  | .ok () =>
    if (((← get).turns)[turn]?).all fun r => !r.terminalEvent then
      modify fun s => s.fail command (lit "invalid_agent_result")
        (lit "The Agent turn ended without a terminal result.")
  | .error .cancelled => Coroutine.raise .cancelled
  | .error _ => modify fun s => s.fail command (lit "runtime_turn_failed") (lit "The Agent turn failed safely.")

namespace Session

variable (s : Session)

/-- `_on_turn_done`, the callback of a task that is done. -/
def onTurnDone (turn : TurnRef) : Session :=
  let released := s.releaseFinishedTurn turn
  let settled : Session :=
    { released with
      activeTurnTask := if released.activeTurnTask = some turn then none else released.activeTurnTask
      turnIdle := true }
  match s.currentTurnId with
  | none => settled
  | some turnId => settled.emit { type := .turnSettled, turnId }

/-! ## The commands -/

def requireReady : Option RuntimeCommandResult :=
  match s.state with
  | .closing => some (.failure "runtime_closing" "The runtime is closing and cannot accept this command.")
  | .closed => some (.failure "runtime_closed" "The runtime is closed.")
  | .ready =>
    if s.acceptingCommands then none
    else some (.failure "runtime_not_ready" "The runtime is not accepting commands.")

/-- The part of `shutdown` that nothing takes back. -/
def beginShutdown : Session := { s with state := .closing, acceptingCommands := false }

end Session

/-- The identifier of a turn, which is a random UUID. -/
abbrev TurnId := { turnId : Text // turnId ≠ [] }

namespace Runtime

variable (s : Runtime)

/-- The turn is bound and its task created. -/
def bindTurn (loops : ProviderRef → AgentLoop Session) (command : UserMessageCommand) (profileId : ProfileId)
    (provider : ProviderRef) : Runtime :=
  let turn := s.session.turns.length
  { s with
    session := { s.session with
      turns := s.session.turns ++ [{ command, profileId, provider }]
      record := some turn
      activeTurnTask := some turn
      turnIdle := false }
    task := some (turn, runTurn (loops provider) turn command profileId) }

def startTurn (loops : ProviderRef → AgentLoop Session) (content sessionId : Text) (turnId : TurnId) :
    RuntimeCommandResult × Runtime :=
  match s.session.requireReady with
  | some unavailable => (unavailable, s)
  | none =>
    if h : content.strip = [] ∨ sessionId.strip = [] then
      (.failure "invalid_command" "Message content and session identifier must not be blank.", s)
    else if s.session.hasActiveTurn then (.failure "turn_already_running" "An Agent turn is already running.", s)
    else if s.service.lifecycleState = .cleanupPending then
      (.failure "provider_cleanup_pending" "Provider cleanup must complete before starting a turn.", s)
    else match s.service.runtimeProfileId, s.session.agentLoop, s.service.activeProvider with
    | some profileId, some provider, some _ =>
      let command : UserMessageCommand :=
        { turnId := turnId.val, sessionId := sessionId.strip, content := content.strip, turnId_ne := turnId.property
          sessionId_ne := fun hblank => h (.inr hblank)
          nonblank := fun hblank => h (.inl ((Text.strip_strip content).symm.trans hblank)) }
      (.ok, s.bindTurn loops command profileId provider)
    | _, _, _ => (.failure "provider_not_active" "Activate a Provider profile before sending a message.", s)

/-- The turn task runs on to its next await, or is done. -/
def advanceTurn (wake : WakeUp) : Runtime :=
  match s.task with
  | none => s
  | some (turn, c) =>
    match (c.proceed wake).advance s.session with
    | (.returns (), session) =>
      { s with session := session.onTurn turn fun r => { r with outcome := some .finished }, task := none }
    | (.raises _, session) =>
      { s with session := session.onTurn turn fun r => { r with outcome := some .cancelled }, task := none }
    | (c, session) => { s with session, task := some (turn, c) }

/-- The callback of the turn task, once the task is done. -/
def settleTurn : Runtime :=
  match s.task, s.session.activeTurnTask with
  | none, some turn => { s with session := s.session.onTurnDone turn }
  | _, _ => s

end Runtime

/-! ## Behind the lock of the provider service -/

/-- Where a command is suspended: in the wait for a turn, or in the `aclose` of a delegate. -/
inductive RuntimeAwait where
  | waiting (turn : TurnRef)
  | closing (provider : ProviderRef) (profile : Option ProviderProfile)

/-- A command that holds the lock of the provider service. -/
abbrev Command (α : Type) := Coroutine RuntimeAwait Answer Runtime Failure α

/-- `prepare_for_provider_switch`. -/
def prepareForProviderSwitch (oldProfileId : ProfileId) (handling : ActiveTurnHandling) :
    Coroutine RuntimeAwait Answer Runtime Empty Answer := do
  let s ← get
  modify fun s => { s with session := (s.session.prepareForProviderSwitch oldProfileId handling).2 }
  match (s.session.prepareForProviderSwitch oldProfileId handling).1 with
  | .answers answer => return answer
  | .waits turn => do
    let answer ← Coroutine.await (RuntimeAwait.waiting turn)
    return (← get).session.awaited turn answer

/-- The awaits of the provider service: the coordinator is the controller's own. -/
def serviceAwait : ProfileService.Await → Coroutine RuntimeAwait Answer Runtime Empty Answer
  | .coordinating oldProfileId _ handling _ => prepareForProviderSwitch oldProfileId handling
  | .closing provider profile => Coroutine.await (RuntimeAwait.closing provider profile)

/-- An operation of the provider service. -/
def onService {α : Type} (c : ProfileService.Operation α) : Command α :=
  c.within Runtime.service (fun s service => { s with service }) serviceAwait

/-- The part of `activate_profile` behind its checks. -/
def activateProfile (a : Activation) : Command RuntimeCommandResult := do
  match ← (onService (ProfileService.activateProfile a)).attempt with
  | .ok provider => do
    modify fun s => { s with session := { s.session with agentLoop := some provider } }
    return .ok
  | .error .cancelled => Coroutine.raise .cancelled
  | .error _ => return .failure "provider_activation_failed" "The selected Provider could not be activated safely."

/-- The part of `shutdown` behind the wait for the active turn. -/
def closeProviders : Command RuntimeCommandResult := do
  match ← (onService ProfileService.aclose).attempt with
  | .ok () => do
    modify fun s => { s with session := { s.session with agentLoop := none, state := .closed, agentState := .idle } }
    return .ok
  | .error .cancelled => Coroutine.raise .cancelled
  | .error _ => return .failure "shutdown_provider_cleanup_failed" "Provider cleanup did not complete safely."

/-- The commands that take the lock. -/
inductive RuntimeCall where
  | activateProfile (a : Activation)
  | shutdown

def RuntimeCall.body : RuntimeCall → Command RuntimeCommandResult
  | .activateProfile a => RuntimeSession.activateProfile a
  | .shutdown => closeProviders

/-! ## The system -/

/-- A command that waits for the active turn without the lock. -/
inductive Pending where
  | cancelling (turn : TurnRef)
  | closing (turn : TurnRef)
deriving DecidableEq, Repr

abbrev Shared := Locked RuntimeCall RuntimeAwait Answer Runtime Failure RuntimeCommandResult

abbrev SharedEvent := LockEvent RuntimeCall Answer (Runtime → Runtime)

def Shared.step : Shared → SharedEvent → Shared := Locked.step RuntimeCall.body fun f s => f s

/-- The runtime behind its lock, the commands that wait without it, and how the commands ended that never took it. -/
structure System where
  locked : Shared
  pending : List Pending := []
  answered : List (Except Failure RuntimeCommandResult) := []

/-- What may happen next: a command is called or goes on, the turn task goes on, or its callback runs. -/
inductive Event where
  | startTurn (content sessionId : Text) (turnId : TurnId)
  | activateProfile (a : Activation)
  | cancelActiveTurn
  | shutdown (cancelActive : Bool)
  | wake (i : Nat) (answer : Answer)
  | turn (wake : WakeUp)
  | turnDone
  | metadata (m : Mutation)
  | acquire (i : Nat)
  | abandon (i : Nat)
  | resume (answer : Answer)

namespace System

variable (s : System)

def shared : Runtime := s.locked.shared

def lock (event : SharedEvent) : System := { s with locked := s.locked.step event }

def mutate (f : Runtime → Runtime) : System := s.lock (.mutate f)

def answer (result : Except Failure RuntimeCommandResult) : System := { s with answered := s.answered ++ [result] }

/-- The checks of `activate_profile`, and the turn handling that it asks for. -/
def activateProfile (a : Activation) : System :=
  match s.shared.session.requireReady with
  | some unavailable => s.answer (.ok unavailable)
  | none =>
    if s.shared.session.hasActiveTurn = true ∧ a.turnHandling = none then
      s.answer (.ok (.failure "switch_requires_turn_decision" "Choose whether to cancel or wait for the active turn."))
    else
      let turnHandling :=
        if a.turnHandling = none ∧ s.shared.service.activeProvider ≠ none then some .waitForActive else a.turnHandling
      s.lock (.call (.activateProfile { a with turnHandling, continuation := none }))

/-- `cancel_active_turn` once the coordinator has answered. -/
def cancelled (answer : Answer) : System :=
  s.answer (match answer with
    | .returned => .ok .ok
    | .raised => .ok (.failure "turn_cancel_failed" "The active Agent turn could not be cancelled safely.")
    | .cancelled => .error .cancelled)

/-- `shutdown` once the coordinator has answered. -/
def quiesced : Answer → System
  | .returned => s.lock (.call .shutdown)
  | .raised =>
    s.answer (.ok (.failure "shutdown_turn_cleanup_failed" "The active turn could not be quiesced safely."))
  | .cancelled => s.answer (.error .cancelled)

def coordinate (oldProfileId : ProfileId) (handling : ActiveTurnHandling) : System :=
  s.mutate fun t => { t with session := (t.session.prepareForProviderSwitch oldProfileId handling).2 }

def cancelActiveTurn : System :=
  match s.shared.session.requireReady with
  | some unavailable => s.answer (.ok unavailable)
  | none => match s.shared.session.currentProfileId with
    | none => s.answer (.ok (.failure "no_active_turn" "There is no active Agent turn to cancel."))
    | some profileId =>
      match (s.shared.session.prepareForProviderSwitch profileId .cancelActive).1 with
      | .answers answer => (s.coordinate profileId .cancelActive).cancelled answer
      | .waits turn =>
        { s.coordinate profileId .cancelActive with pending := s.pending ++ [.cancelling turn] }

def shutdown (cancelActive : Bool) : System :=
  if s.shared.session.state = .closed then s.answer (.ok .ok)
  else
    let s := s.mutate fun t => { t with session := t.session.beginShutdown }
    match s.shared.session.currentProfileId with
    | none => s.lock (.call .shutdown)
    | some profileId =>
      let handling : ActiveTurnHandling := if cancelActive then .cancelActive else .waitForActive
      match (s.shared.session.prepareForProviderSwitch profileId handling).1 with
      | .answers answer => (s.coordinate profileId handling).quiesced answer
      | .waits turn => { s.coordinate profileId handling with pending := s.pending ++ [.closing turn] }

/-- A command that waits for a turn goes on. -/
def wake (i : Nat) (answer : Answer) : System :=
  match s.pending[i]? with
  | none => s
  | some (.cancelling turn) =>
    { s with pending := s.pending.eraseIdx i }.cancelled (s.shared.session.awaited turn answer)
  | some (.closing turn) =>
    { s with pending := s.pending.eraseIdx i }.quiesced (s.shared.session.awaited turn answer)

variable (loops : ProviderRef → AgentLoop Session)

/-- One event; an event that cannot happen changes nothing. -/
def step (s : System) : Event → System
  | .startTurn content sessionId turnId =>
    (s.mutate fun t => (t.startTurn loops content sessionId turnId).2).answer
      (.ok (s.shared.startTurn loops content sessionId turnId).1)
  | .activateProfile a => s.activateProfile a
  | .cancelActiveTurn => s.cancelActiveTurn
  | .shutdown cancelActive => s.shutdown cancelActive
  | .wake i answer => s.wake i answer
  | .turn wake => s.mutate fun t => t.advanceTurn wake
  | .turnDone => s.mutate Runtime.settleTurn
  | .metadata m => s.mutate fun t => { t with service := m.apply t.service }
  | .acquire i => s.lock (.acquire i)
  | .abandon i => s.lock (.abandon i)
  | .resume answer => s.lock (.resume answer)

/-- The runtime as it is constructed. -/
def Initial (s : System) : Prop :=
  ∃ repository, s = { locked := { shared := { service := { repository, hasTurnCoordinator := true } } } }

end System

end ArkClaw.Agent.RuntimeSession
