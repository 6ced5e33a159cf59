import ArkClaw.Domain.Identifiers
import ArkClaw.Library.Json

/-!
# The models shared by the agent and the provider adapters

Messages, commands, continuations, tools and memories, as the agent loop passes them to a provider, and the
normalized events of both sides. A value that the source validates on construction carries what was validated.
-/

namespace ArkClaw.Domain

open ArkClaw.Library

/-! ## Enumerations -/

/-- Roles accepted by the normalized provider request. -/
inductive MessageRole where
  | system | user | assistant | tool
deriving DecidableEq, Repr

/-- Runtime states exposed to the user interface. -/
inductive AgentState where
  | idle | listening | thinking | speaking | error | reminding
deriving DecidableEq, Repr

inductive MemoryKind where
  | episodic | semantic | pinned
deriving DecidableEq, Repr

/-- Explicit long-term memory lifecycle. -/
inductive MemoryStatus where
  | candidate | active | superseded | deleted
deriving DecidableEq, Repr

/-- Permission levels enforced outside the language model. -/
inductive ToolRisk where
  | safe | sensitiveRead | sideEffect | destructive
deriving DecidableEq, Repr

/-- A tool policy decision. -/
inductive PolicyOutcome where
  | allow | requireApproval | deny
deriving DecidableEq, Repr

/-! ## Messages -/

/-- A normalized conversation message; its content is never blank. -/
structure ChatMessage where
  role : MessageRole
  content : Text
  nonblank : ¬content.Blank
deriving DecidableEq

/-- The message, unless its content is blank. -/
def ChatMessage.create? (role : MessageRole) (content : Text) : Option ChatMessage :=
  if h : content.Blank then none else some ⟨role, content, h⟩

/-- A typed command sent from the user interface to the agent. -/
structure UserMessageCommand where
  turnId : Text
  sessionId : Text
  content : Text
  turnId_ne : turnId ≠ []
  sessionId_ne : sessionId ≠ []
  nonblank : ¬content.Blank
deriving DecidableEq

/-- The message a command asks to send. -/
def UserMessageCommand.message (command : UserMessageCommand) : ChatMessage :=
  ⟨.user, command.content, command.nonblank⟩

/-- Opaque in-memory state that is meaningful only to its provider. -/
structure ProviderContinuation where
  providerName : Text
  state : List UInt8
  version : Option Text := none
  profileId : Option ProfileId := none
deriving DecidableEq

/-! ## Tools -/

/-- A tool definition visible to the language model. -/
structure ToolSpec where
  name : Text
  description : Text
  inputSchema : Json.Members
  risk : ToolRisk

/-- A normalized tool call emitted by a provider. -/
structure ToolCall where
  callId : Text
  name : Text
  arguments : Json.Members

/-- A bounded observation returned to the agent loop. -/
structure ToolResult where
  callId : Text
  success : Bool
  content : Text
  errorCode : Text := []

/-- Tool permission result produced outside the language model. -/
structure PolicyDecision where
  outcome : PolicyOutcome
  reason : Text
  allowForSession : Bool := false

/-- Trusted context passed to a tool implementation. -/
structure ExecutionContext where
  turnId : Text
  sessionId : Text
  approved : Bool := false

/-! ## Memories and requests -/

/-- A user-controlled long-term memory record. -/
structure MemoryRecord where
  id : Text
  kind : MemoryKind
  content : Text
  status : MemoryStatus
  sourceSessionId : Text
  pinned : Bool := false
  updatedAt : Int

/-- Whether this record may enter a request. -/
def MemoryRecord.isRetrievable (r : MemoryRecord) : Bool := decide (r.status = .active)

/-- Low-trust memory data carried separately from system instructions. -/
structure MemoryContext where
  memoryId : Text
  kind : MemoryKind
  content : Text
  status : MemoryStatus
  sourceSessionId : Text
  boundary : Text := lit "untrusted_memory_data"

def MemoryContext.fromRecord (r : MemoryRecord) : MemoryContext where
  memoryId := r.id
  kind := r.kind
  content := r.content
  status := r.status
  sourceSessionId := r.sourceSessionId

/-- Provider-independent request consumed by a provider. -/
structure LLMRequest where
  instructions : Text
  messages : List ChatMessage
  tools : List ToolSpec := []
  store : Bool := false
  maxOutputTokens : Nat := 1024
  memoryContext : List MemoryContext := []
  continuation : Option ProviderContinuation := none

/-! ## Events -/

/-- Events emitted by a provider. -/
inductive LLMEventType where
  | textDelta | toolCall | completed | error
deriving DecidableEq, Repr

/-- One normalized event in a provider stream. -/
structure LLMEvent where
  type : LLMEventType
  text : Text := []
  toolCall : Option ToolCall := none
  errorCode : Text := []
  errorMessage : Text := []
  continuation : Option ProviderContinuation := none

namespace LLMEvent

def textDelta (text : Text) : LLMEvent := { type := .textDelta, text }
def callTool (call : ToolCall) : LLMEvent := { type := .toolCall, toolCall := some call }
def completed (continuation : Option ProviderContinuation := none) : LLMEvent := { type := .completed, continuation }
def failure (code message : Text) : LLMEvent := { type := .error, errorCode := code, errorMessage := message }

end LLMEvent

/-- Events sent from the agent to the user interface. -/
inductive AgentEventType where
  | turnStarted | stateChanged | textDelta | approvalRequired | toolStarted | toolFinished
  | turnCompleted | turnCancelled | turnFailed
deriving DecidableEq, Repr

/-- A typed event emitted by the agent loop. -/
structure AgentEvent where
  type : AgentEventType
  turnId : Text
  state : Option AgentState := none
  text : Text := []
  toolCall : Option ToolCall := none
  errorCode : Text := []
  errorMessage : Text := []
  continuation : Option ProviderContinuation := none

namespace AgentEvent

def started (turnId : Text) : AgentEvent := { type := .turnStarted, turnId }

def stateChanged (turnId : Text) (state : AgentState) : AgentEvent :=
  { type := .stateChanged, turnId, state := some state }

def delta (turnId text : Text) : AgentEvent := { type := .textDelta, turnId, text }

def completed (turnId text : Text) (continuation : Option ProviderContinuation := none) : AgentEvent :=
  { type := .turnCompleted, turnId, text, continuation }

def cancelled (turnId : Text) : AgentEvent := { type := .turnCancelled, turnId }

def toolStarted (turnId : Text) (call : ToolCall) : AgentEvent := { type := .toolStarted, turnId, toolCall := some call }

def toolFinished (turnId : Text) (call : ToolCall) (text : Text := []) : AgentEvent :=
  { type := .toolFinished, turnId, toolCall := some call, text }

def approvalRequired (turnId : Text) (call : ToolCall) : AgentEvent :=
  { type := .approvalRequired, turnId, toolCall := some call }

def failed (turnId code message : Text) : AgentEvent :=
  { type := .turnFailed, turnId, errorCode := code, errorMessage := message }

end AgentEvent

end ArkClaw.Domain
