import ArkClaw.Domain.ProviderProfiles
import ArkClaw.Provider.OpenAIContinuation

/-!
# The stream of the OpenAI adapter

`generateStream` is the generator of a turn: it prepares the request, opens a stream, turns what the stream gives into
events, closes it and ends with one event that says how the turn went. The network is an `Exchange`: it says whether a
stream could be opened, what it gives, how it ends and how it is closed. What is sent is left out.
-/

namespace ArkClaw.Provider.OpenAI

open ArkClaw.Library ArkClaw.Domain

/-! ## Failures -/

/-- `_ERROR_MESSAGES`. -/
def errorMessages : List (Text × Text) :=
  [(lit "missing_api_key", lit "No OpenAI API key is available."),
    (lit "credential_unavailable", lit "The OpenAI credential could not be read safely."),
    (lit "invalid_api_key", lit "The OpenAI API key was rejected."),
    (lit "permission_denied", lit "OpenAI denied access to the requested operation."),
    (lit "request_timeout", lit "The OpenAI request timed out."),
    (lit "network_unavailable", lit "The OpenAI service could not be reached."),
    (lit "rate_limited", lit "OpenAI rate-limited the request."),
    (lit "model_not_found", lit "The configured OpenAI model is unavailable."),
    (lit "invalid_request", lit "OpenAI rejected the request parameters."),
    (lit "output_budget_exhausted", lit "The OpenAI response exhausted its configured output budget."),
    (lit "provider_unavailable", lit "The OpenAI service is unavailable."),
    (lit "invalid_response", lit "OpenAI returned an invalid response stream."),
    (lit "provider_closed", lit "The provider has already been closed."),
    (lit "invalid_continuation", lit "The OpenAI continuation state is invalid."),
    (lit "credential_changed", lit "The OpenAI credential changed during the request."),
    (lit "unsupported_capability", lit "The request uses a capability disabled by the OpenAI profile.")]

/-- `_known_error_code`. -/
def knownErrorCode (code : Text) : Text :=
  if code ∈ errorMessages.map Prod.fst then code else lit "provider_unavailable"

/-- `_failure`. -/
def failure (code : Text) : LLMEvent :=
  .failure (knownErrorCode code) ((errorMessages.lookup (knownErrorCode code)).getD [])

/-! ## The request -/

/-- What is kept of a prepared request for the continuation. -/
structure PreparedRequest where
  continuationHistory : List Json
  messageFingerprints : List Text

/-- A message as an item. -/
def messageItem (message : ChatMessage) : Json :=
  .dict [(lit "content", .str message.content), (lit "role", .str message.role.value)]

section

variable (p : Primitives)

/-- The number of messages a continuation covers, unless they are not those it was made with. -/
def coveredMessages (messages : List ChatMessage) (fingerprints : List Text) (state : ContinuationState) : Option Nat :=
  let expected := state.messageFingerprints
  if fingerprints.length < expected.length ∨ fingerprints.take expected.length ≠ expected then none
  else
    match state.assistantFingerprint with
    | none => some expected.length
    | some assistantFingerprint =>
      match messages[expected.length]?, fingerprints[expected.length]? with
      | some message, some fingerprint =>
        if message.role = .assistant ∧ fingerprint = assistantFingerprint then some (expected.length + 1) else none
      | _, _ => none

/-- The state a request goes on from, or why it cannot. -/
def continuationState (request : LLMRequest) (continuationHmacKey : Bytes) :
    Sanitizer (Except Text (Option ContinuationState)) :=
  match request.continuation with
  | none => .ok (.ok none)
  | some continuation =>
    match decodeContinuation p continuation continuationHmacKey with
    | .ok state => .ok (.ok (some state))
    | .error .rejected => .ok (.error (lit "invalid_continuation"))
    | .error .unhashable => .error .unhashable

def fingerprintMessages (messages : List ChatMessage) : Except Text (List Text) :=
  match messages.mapM fun message => fingerprintMessage p message.role message.content with
  | .ok fingerprints => .ok fingerprints
  | .error _ => .error (lit "invalid_request")

/-- The messages behind those that the state covers. -/
def newMessages (request : LLMRequest) (fingerprints : List Text) (state : Option ContinuationState) :
    Except Text (List ChatMessage) :=
  match state with
  | none => .ok request.messages
  | some state =>
    match coveredMessages request.messages fingerprints state with
    | some covered => .ok (request.messages.drop covered)
    | none => .error (lit "invalid_continuation")

def permit (permitted : Bool) : Except Text Unit := if permitted then .ok () else .error (lit "invalid_request")

/-- `_prepare_request` behind the continuation. -/
def prepareMessages (request : LLMRequest) (state : Option ContinuationState) : Except Text PreparedRequest := do
  let messageFingerprints ← fingerprintMessages p request.messages
  let messages ← newMessages request messageFingerprints state
  permit (messages.all fun message => message.role ≠ .tool)
  permit (request.tools.all fun tool => isDomainJson 0 (.obj tool.inputSchema))
  return { continuationHistory := ((state.map (·.historyItems)).getD []) ++ messages.map messageItem
           messageFingerprints }

/-- `_prepare_request`: it raises only what decoding the continuation raises. -/
def prepareRequest (request : LLMRequest) (continuationHmacKey : Bytes) : Sanitizer (Except Text PreparedRequest) := do
  return (← continuationState p request continuationHmacKey) >>= prepareMessages p request

end

/-! ## The events of a response -/

inductive ResponseEventKind where
  | metadata | textDelta | toolAdded | toolArgumentsDelta | toolArgumentsDone | completed | failed
deriving DecidableEq, Repr

structure ResponseEvent where
  kind : ResponseEventKind
  rawType : Text
  text : Text := []
  outputIndex : Option Int := none
  itemId : Text := []
  callId : Text := []
  name : Text := []
  arguments : Text := []
  outputItems : List Json := []
  failureCode : Option Text := none

/-- `_looks_terminal_or_error`. -/
def looksTerminalOrError (rawType : Text) : Bool :=
  decide (rawType = lit "error") || (lit ".failed").isSuffixOf rawType || (lit ".incomplete").isSuffixOf rawType
    || (lit ".cancelled").isSuffixOf rawType

def maxToolArgumentBytes : Nat := 1048576

def maxToolArgumentParts : Nat := 4096

structure ToolAssembly where
  itemId : Text
  callId : Text
  name : Text
  argumentParts : List Text := []
  argumentBytes : Nat := 0
  completed : Bool := false

/-- The tools that are being assembled, by their place in the output. -/
abbrev Tools := List (Int × ToolAssembly)

def Tools.set (tools : Tools) (index : Int) (assembly : ToolAssembly) : Tools :=
  tools.map fun entry => if entry.1 = index then (index, assembly) else entry

/-- `_start_tool`, unless it refuses. -/
def startTool (tools : Tools) (event : ResponseEvent) : Option Tools := do
  let index ← event.outputIndex
  if (tools.lookup index).isSome ∨ event.itemId = [] ∨ event.callId = [] ∨ event.name = [] then none
  else some (tools ++ [(index, { itemId := event.itemId, callId := event.callId, name := event.name })])

/-- `_append_tool_arguments`, unless it refuses. -/
def appendToolArguments (tools : Tools) (event : ResponseEvent) : Option Tools := do
  let index ← event.outputIndex
  let assembly ← tools.lookup index
  if assembly.completed ∨ assembly.itemId ≠ event.itemId then none
  else if ¬event.arguments.Encodable then none
  else if assembly.argumentBytes + event.arguments.utf8Length > maxToolArgumentBytes then none
  else if event.arguments = [] then some tools
  else if assembly.argumentParts.length ≥ maxToolArgumentParts then none
  else
    some (tools.set index { assembly with
      argumentBytes := assembly.argumentBytes + event.arguments.utf8Length
      argumentParts := assembly.argumentParts ++ [event.arguments] })

section

variable (p : Primitives)

/-- `_finish_tool`, unless it refuses. -/
def finishTool (tools : Tools) (event : ResponseEvent) : Option (Tools × ToolCall) := do
  let index ← event.outputIndex
  let assembly ← tools.lookup index
  if assembly.completed ∨ assembly.itemId ≠ event.itemId ∨ assembly.name ≠ event.name then none
  else if assembly.argumentParts ≠ [] ∧ assembly.argumentParts.flatten ≠ event.arguments then none
  else
    let arguments ← (strictJsonObject p event.arguments maxToolArgumentBytes).toOption
    some (tools.set index { assembly with completed := true },
      { callId := assembly.callId, name := assembly.name, arguments })

/-! ## Receiving a response -/

/-- The local variables of the generator. -/
structure Reception where
  failureCode : Option Text := none
  terminalKind : Option ResponseEventKind := none
  completionOutput : List Json := []
  outputSeen : Bool := false
  textParts : List Text := []
  tools : Tools := []

/-- What an event leads to: what is yielded, and whether the loop goes on. -/
structure Received where
  state : Reception
  yielded : Option LLMEvent := none
  goesOn : Bool := true

/-- The response breaks the rules of the stream. -/
def breaks (state : Reception) : Received where
  state := { state with failureCode := some (lit "invalid_response") }
  goesOn := false

/-- The body of the loop. -/
def receive (state : Reception) (event : ResponseEvent) : Received :=
  if state.terminalKind.isSome then
    if event.kind ≠ .metadata ∨ looksTerminalOrError event.rawType = true then breaks state else { state }
  else
    match event.kind with
    | .metadata =>
      if event.rawType = lit "response.output_item.added" then { state := { state with outputSeen := true } }
      else if looksTerminalOrError event.rawType then { state := { state with terminalKind := some .failed } }
      else { state }
    | .textDelta =>
      if event.text = [] then { state }
      else
        { state := { state with outputSeen := true, textParts := state.textParts ++ [event.text] }
          yielded := some (.textDelta event.text) }
    | .toolAdded =>
      match startTool state.tools event with
      | some tools => { state := { state with tools } }
      | none => breaks state
    | .toolArgumentsDelta =>
      match appendToolArguments state.tools event with
      | some tools => { state := { state with tools } }
      | none => breaks state
    | .toolArgumentsDone =>
      match finishTool p state.tools event with
      | some (tools, call) =>
        { state := { state with tools, outputSeen := true }, yielded := some (.callTool call) }
      | none => breaks state
    | .failed =>
      { state := { state with
          terminalKind := some .failed
          failureCode := some (event.failureCode.getD (lit "provider_unavailable")) } }
    | .completed =>
      { state := { state with terminalKind := some .completed, completionOutput := event.outputItems } }

/-- The loop: where it leaves the variables, what it yields, and whether it came to the end of the stream. -/
def receiveAll (state : Reception) : List ResponseEvent → Reception × List LLMEvent × Bool
  | [] => (state, [], true)
  | event :: rest =>
    let received := receive p state event
    if received.goesOn then
      let (final, yielded, ended) := receiveAll received.state rest
      (final, received.yielded.toList ++ yielded, ended)
    else (received.state, received.yielded.toList, false)

/-- How a stream ends, or a wait for it. -/
inductive Ending where
  | done
  | sdkError (code : Text)
  | raised
  | cancelled
deriving DecidableEq, Repr

/-- What the network does during a turn. -/
structure Exchange where
  /-- Why no stream is read: the credential, a closed provider, a stream that could not be registered. -/
  refusal : Option Text := none
  /-- What the stream gives, nothing if it could not be opened. -/
  events : List ResponseEvent := []
  ending : Ending := .done
  /-- Whether the stream is closed; `done` also stands for no stream. -/
  closing : Ending := .done

/-- How the generator ends, after what it has yielded. -/
inductive Completion where
  | returned | cancelled | raised
deriving DecidableEq, Repr

structure Generated where
  yielded : List LLMEvent
  completion : Completion

/-- The variables behind the `try`, with what was yielded, unless it was cancelled. -/
def exchangeAll (exchange : Exchange) : Reception × List LLMEvent × Bool :=
  match exchange.refusal with
  | some code => ({ failureCode := some code }, [], exchange.closing ≠ .cancelled)
  | none =>
    let (state, yielded, ended) := receiveAll p {} exchange.events
    let state := if ended then
        match exchange.ending with
        | .sdkError code => { state with failureCode := some (knownErrorCode code) }
        | .raised => { state with failureCode := some (lit "provider_unavailable") }
        | _ => state
      else state
    let cancelled := ended && decide (exchange.ending = .cancelled)
    let state := if exchange.closing ≠ .done ∧ state.failureCode.isNone then
        { state with failureCode := some (lit "provider_unavailable") }
      else state
    (state, yielded, !cancelled && decide (exchange.closing ≠ .cancelled))

/-- What the continuation of the turn is made of. -/
def turnCreation (prepared : PreparedRequest) (continuationHmacKey : Bytes) (state : Reception) : Creation where
  history := prepared.continuationHistory ++ state.completionOutput
  messageFingerprints := prepared.messageFingerprints
  assistantText := state.textParts.flatten
  continuationHmacKey := continuationHmacKey

/-- The last event of the generator. -/
def conclude (prepared : PreparedRequest) (continuationHmacKey : Bytes) (state : Reception) : Sanitizer LLMEvent :=
  match state.failureCode with
  | some code => .ok (failure code)
  | none =>
    if state.terminalKind = none then .ok (failure (lit "invalid_response"))
    else if state.terminalKind = some .failed then .ok (failure (lit "provider_unavailable"))
    else if state.tools.any (fun entry => !entry.2.completed) then .ok (failure (lit "invalid_response"))
    else if state.outputSeen = false ∧ state.completionOutput = [] then .ok (failure (lit "invalid_response"))
    else
      match createContinuation p (turnCreation prepared continuationHmacKey state) with
      | .ok continuation => .ok (.completed (some continuation))
      | .error .rejected => .ok (failure (lit "invalid_response"))
      | .error .unhashable => .error .unhashable

/-- What the adapter is when it is asked. -/
structure Adapter where
  capabilities : ProviderCapabilities
  closed : Bool
  /-- None once it is closed. -/
  continuationHmacKey : Option Bytes

/-- `generate_stream`, read to its end. -/
def generateStream (adapter : Adapter) (request : LLMRequest) (exchange : Exchange) : Generated :=
  if request.tools ≠ [] ∧ adapter.capabilities.tools = false then ⟨[failure (lit "unsupported_capability")], .returned⟩
  else if request.continuation.isSome ∧ adapter.capabilities.continuationMode = .none then
    ⟨[failure (lit "unsupported_capability")], .returned⟩
  else
    match adapter.closed, adapter.continuationHmacKey with
    | false, some key =>
      match prepareRequest p request key with
      | .error _ => ⟨[], .raised⟩
      | .ok (.error code) => ⟨[failure code], .returned⟩
      | .ok (.ok prepared) =>
        let (state, yielded, finishes) := exchangeAll p exchange
        if finishes then
          match conclude p prepared key state with
          | .ok event => ⟨yielded ++ [event], .returned⟩
          | .error _ => ⟨yielded, .raised⟩
        else ⟨yielded, .cancelled⟩
    | _, _ => ⟨[failure (lit "provider_closed")], .returned⟩

end

end ArkClaw.Provider.OpenAI
