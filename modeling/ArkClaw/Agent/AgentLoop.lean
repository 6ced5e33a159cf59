import ArkClaw.Library.Coroutine
import ArkClaw.Agent.ContextManager

/-!
# The agent loop

`run` is an asynchronous generator: it yields agent events to its consumer and is suspended while it waits for the
provider stream or for a tool. The state `σ` is what others share with the turn; the loop only asks it whether the
turn is cancelled, and hands it to the provider stream when that is first read.
-/

namespace ArkClaw.Agent

open ArkClaw.Library ArkClaw.Domain

/-- What the loop, the provider stream and the tools raise. -/
inductive LoopError where
  | cancelled
  | timeout
  | contextBudget (message : Text)
  | provider (code message : Text)
  | other
deriving DecidableEq

/-- Where the provider stream is when it is closed: between two events, in a read that was cancelled, or past its
end. -/
inductive StreamState where
  | suspended | interrupted | ended
deriving DecidableEq, Repr

/-- What a provider stream does: the events it yields, how it ends after them, and how its `aclose` ends. -/
structure ProviderStream where
  events : List (Option LLMEvent)
  ending : Except LoopError Unit
  close : StreamState → Except LoopError Unit

/-- A registered local capability. -/
structure Tool where
  spec : ToolSpec
  execute : Json.Members → ExecutionContext → Except LoopError ToolResult

structure ToolRegistry where
  contains : Text → Bool
  get : Text → Option Tool
  listSpecs : List ToolSpec

structure AgentLoop (σ : Type) where
  providerName : Text
  /-- `generate_stream`; the stream it returns does nothing before it is read. -/
  generateStream : LLMRequest → Except LoopError (σ → ProviderStream)
  contextManager : ContextManager
  /-- The limit of a turn as its message shows it. -/
  maxTurnSeconds : Text
  toolRegistry : Option ToolRegistry := none
  toolPolicy : ToolSpec → ToolCall → ExecutionContext → Except LoopError PolicyDecision

/-- Where the generator is suspended. -/
inductive LoopPoint where
  | yields (event : AgentEvent)
  | starting
  | reading
  | executing
  | closing

/-- How a wait ends: what it waited for is there, the turn was cancelled, or its time is up. -/
inductive WakeUp where
  | arrives | cancelled | timeout
deriving DecidableEq, Inhabited, Repr

abbrev Loop (σ α : Type) := Coroutine LoopPoint WakeUp σ LoopError α

def invalidProviderStream : LoopError :=
  .provider (lit "invalid_provider_stream") (lit "The provider returned an invalid event stream.")

/-- The local variables of the read loop. -/
structure ReadState where
  textParts : List Text := []
  speaking : Bool := false
  toolExecuted : Bool := false
  terminalType : Option LLMEventType := none
  providerFailure : Option (Text × Text) := none
  completedContinuation : Option ProviderContinuation := none

/-- How the read loop is left without an exception. -/
inductive LoopExit where
  | finished (st : ReadState)
  | cancelled
  | returned

namespace AgentLoop

variable {σ : Type}

/-- Yield an event to the consumer. -/
def emit (event : AgentEvent) : Loop σ Unit := do
  let _ ← Coroutine.await (LoopPoint.yields event)

section

variable (loop : AgentLoop σ) (isCancelled : σ → Bool) (turnId : Text)

/-- The tool that a call asks for, if it is registered. -/
def registeredTool (name : Text) : Option Tool :=
  match loop.toolRegistry with
  | some registry => if registry.contains name then registry.get name else none
  | none => none

/-- Execute an allowed tool; its result becomes a part of the text. -/
def executeTool (tool : Tool) (call : ToolCall) (context : ExecutionContext) (st : ReadState) :
    Loop σ (Except LoopError (ReadState ⊕ Unit)) := do
  let answer ← Coroutine.await LoopPoint.executing
  if answer = .timeout then return .error .timeout
  else match tool.execute call.arguments context with
  | .error e => return .error e
  | .ok result => do
    emit (.toolFinished turnId call result.content)
    let deltaText := lit "\n[Result: " ++ result.content ++ lit "]\n"
    emit (.delta turnId deltaText)
    return .ok (.inl { st with textParts := st.textParts ++ [deltaText], toolExecuted := true })

/-- A tool call of the provider: the tool is executed if the policy allows it, and in every other case the turn
ends here. -/
def handleToolCall (call : ToolCall) (st : ReadState) : Loop σ (Except LoopError (ReadState ⊕ Unit)) := do
  match loop.registeredTool call.name with
  | none => do
    emit (.stateChanged turnId .error)
    emit (.failed turnId (lit "tool_execution_not_configured")
      (lit "Tool execution is disabled until ToolService and user approval are connected."))
    emit (.stateChanged turnId .idle)
    return .ok (.inr ())
  | some tool =>
    let context : ExecutionContext := { turnId, sessionId := turnId, approved := true }
    match loop.toolPolicy tool.spec call context with
    | .error e => return .error e
    | .ok decision => do
      emit (.toolStarted turnId call)
      match decision.outcome with
      | .allow => executeTool turnId tool call context st
      | .requireApproval => do
        emit (.approvalRequired turnId call)
        emit (.completed turnId (lit "Action paused: '" ++ call.name ++ lit "' requires approval."))
        emit (.stateChanged turnId .idle)
        return .ok (.inr ())
      | .deny => do
        emit (.toolFinished turnId call (lit "Denied: " ++ decision.reason))
        emit (.failed turnId (lit "tool_denied") decision.reason)
        emit (.stateChanged turnId .idle)
        return .ok (.inr ())

/-- One event of the provider stream; the loop goes on, or the turn ends. -/
def handleEvent (event : Option LLMEvent) (st : ReadState) : Loop σ (Except LoopError (ReadState ⊕ Unit)) := do
  match event with
  | none => return .error invalidProviderStream
  | some event =>
    if st.terminalType ≠ none ∨ (event.continuation ≠ none ∧ event.type ≠ .completed) then
      return .error invalidProviderStream
    else match event.type with
    | .textDelta =>
      if event.text = [] then return .error invalidProviderStream
      else do
        if !st.speaking then emit (.stateChanged turnId .speaking)
        emit (.delta turnId event.text)
        return .ok (.inl { st with speaking := true, textParts := st.textParts ++ [event.text] })
    | .toolCall =>
      match event.toolCall with
      | none => return .error invalidProviderStream
      | some call => loop.handleToolCall turnId call st
    | .error =>
      if event.errorCode = [] ∨ event.errorMessage = [] then return .error invalidProviderStream
      else return .ok (.inl { st with terminalType := some .error
                                      providerFailure := some (event.errorCode, event.errorMessage) })
    | .completed =>
      if ∃ c ∈ event.continuation, c.providerName ≠ loop.providerName then
        return .error (.provider (lit "provider_continuation_mismatch")
          (lit "The provider returned continuation state for a different provider."))
      else return .ok (.inl { st with terminalType := some .completed, completedContinuation := event.continuation })

/-- Read the stream until it ends, the turn ends in it, or the wait is interrupted. The result says where the
stream is left, and how. -/
def readLoop (ending : Except LoopError Unit) :
    List (Option LLMEvent) → ReadState → Loop σ (StreamState × Except LoopError LoopExit)
  | events, st => do
    let answer ← Coroutine.await LoopPoint.reading
    if answer = .timeout then return (.interrupted, .error .timeout)
    -- the cancellation is looked at before the read
    else if answer = .cancelled ∧ isCancelled (← get) = true then return (.interrupted, .ok .cancelled)
    else match events with
    | [] => return (.ended, ending.map fun _ => .finished st)
    | event :: rest => do
      match ← loop.handleEvent turnId event st with
      | .error e => return (.suspended, .error e)
      | .ok (.inr ()) => return (.suspended, .ok .returned)
      | .ok (.inl st) => readLoop ending rest st

/-- The `try` of the read loop with its `finally`: the stream is closed, and an exception of that replaces the
result. -/
def readStream (opens : σ → ProviderStream) : Loop σ (Except LoopError LoopExit) := do
  let _ ← Coroutine.await LoopPoint.starting
  let stream := opens (← get)
  let (left, result) ← loop.readLoop isCancelled turnId stream.ending stream.events {}
  let _ ← Coroutine.await LoopPoint.closing
  return match stream.close left with
    | .error e => .error e
    | .ok () => result

/-- The arguments of a run besides its command. -/
structure RunInput where
  history : List ChatMessage := []
  memories : List MemoryRecord := []
  tools : List ToolSpec := []
  continuation : Option ProviderContinuation := none

/-- The request of a turn. -/
def prepareRequest (command : UserMessageCommand) (input : RunInput) : Except LoopError LLMRequest :=
  if ∃ c ∈ input.continuation, c.providerName ≠ loop.providerName then
    .error (.provider (lit "provider_continuation_mismatch")
      (lit "The continuation does not belong to the selected provider."))
  else
    let tools := match input.tools, loop.toolRegistry with
      | [], some registry => registry.listSpecs
      | tools, _ => tools
    match loop.contextManager.buildRequest command input.history input.memories tools input.continuation with
    | none => .error (.contextBudget
        (lit "The system instructions and current user message exceed the context budget."))
    | some request => .ok request

/-- How a turn ends once the stream has been left. -/
def conclude (st : ReadState) : Loop σ (Except LoopError Unit) := do
  if isCancelled (← get) then do
    emit (.cancelled turnId)
    emit (.stateChanged turnId .idle)
    return .ok ()
  else
    let terminalType := if st.terminalType = none ∧ st.toolExecuted = true then some .completed else st.terminalType
    match terminalType, st.providerFailure with
    | some .error, some (code, message) => return .error (.provider code message)
    | none, _ | some .error, none => return .error invalidProviderStream
    | some _, _ => do
      emit (.stateChanged turnId .idle)
      emit (.completed turnId st.textParts.flatten st.completedContinuation)
      return .ok ()

/-- The body of the outer `try`. -/
def attemptTurn (command : UserMessageCommand) (input : RunInput) : Loop σ (Except LoopError Unit) := do
  if isCancelled (← get) then do
    emit (.cancelled command.turnId)
    emit (.stateChanged command.turnId .idle)
    return .ok ()
  else match loop.prepareRequest command input with
  | .error e => return .error e
  | .ok request => do
    emit (.stateChanged command.turnId .thinking)
    match loop.generateStream request with
    | .error e => return .error e
    | .ok opens => do
      match ← loop.readStream isCancelled command.turnId opens with
      | .error e => return .error e
      | .ok .returned => return .ok ()
      | .ok .cancelled => do
        emit (.cancelled command.turnId)
        emit (.stateChanged command.turnId .idle)
        return .ok ()
      | .ok (.finished st) => conclude isCancelled command.turnId st

/-- The error code and the message a failure is reported under. -/
def report : LoopError → Text × Text
  | .timeout => (lit "turn_timeout", lit "The Agent turn exceeded " ++ loop.maxTurnSeconds ++ lit " seconds.")
  | .contextBudget message => (lit "context_budget_exceeded", message)
  | .provider code message => (code, message)
  | .cancelled | .other => (lit "unexpected_agent_error", lit "The Agent turn failed unexpectedly.")

/-- Run one user turn and stream events to the caller. -/
def run (command : UserMessageCommand) (input : RunInput) : Loop σ Unit := do
  emit (.started command.turnId)
  emit (.stateChanged command.turnId .listening)
  match ← loop.attemptTurn isCancelled command input with
  | .ok () => return ()
  | .error .cancelled => Coroutine.raise .cancelled
  | .error e => do
    emit (.stateChanged command.turnId .error)
    emit (.failed command.turnId (loop.report e).1 (loop.report e).2)
    emit (.stateChanged command.turnId .idle)

end

end AgentLoop

end ArkClaw.Agent
