import ArkClaw.Library.JsonLoading
import ArkClaw.Provider.AdapterCleanup
import ArkClaw.Provider.JsonProfileRepository
import ArkClaw.Provider.OpenAIContinuation
import ArkClaw.Provider.ProviderSettingsService

/-!
# The stream of the DeepSeek adapter

`generateStream` is the generator of a turn: it checks the request, takes a client and a stream under the lifecycle
lock, passes the texts of the stream on, closes it and ends with one event that says how the turn went. What is outside
the adapter is an `Outside`: the client factory, the SDK with its streams and its close calls, and what other tasks make
of the adapter while a stream is read. Any of it may raise an ordinary exception, as the credential store may; that the
task is cancelled is left out.

The continuation of a turn is a JSON object of three texts. `preflightError` reads it back with `json.loads`, and of what
that raises it catches malformed texts only.
-/

namespace ArkClaw.Provider

open ArkClaw.Library ArkClaw.Domain

/-! ## Capabilities -/

/-- `restrict_capabilities`. -/
def restrictCapabilities (maximum requested : ProviderCapabilities) : Except String ProviderCapabilities :=
  if requested.protocol ≠ maximum.protocol then .error "The capability protocol does not match the adapter."
  else if requested.streaming ≠ maximum.streaming then
    .error "The profile cannot change the adapter streaming capability."
  else if requested.tools ∧ ¬maximum.tools then .error "The profile requests unsupported tools."
  else if requested.embeddings ∧ ¬maximum.embeddings then .error "The profile requests unsupported embeddings."
  else if requested.continuationMode ≠ .none ∧ requested.continuationMode ≠ maximum.continuationMode then
    .error "The profile requests an unsupported continuation mode."
  else
    .ok
      { streaming := maximum.streaming
        tools := maximum.tools && requested.tools
        embeddings := maximum.embeddings && requested.embeddings
        continuationMode := requested.continuationMode
        protocol := maximum.protocol }

/-! ## The SDK -/

/-- A request of the SDK; `max_tokens` is positive. -/
structure DeepSeekRequest where
  model : Text
  /-- The role and the content of each. -/
  messages : List (Text × Text)
  maxTokens : Nat
  positive : 0 < maxTokens

inductive DeepSeekEventKind where
  | metadata | textDelta | completed | failed
deriving DecidableEq, Repr

structure DeepSeekEvent where
  kind : DeepSeekEventKind
  text : Text := []
  failureCode : Option Text := none
deriving DecidableEq

/-- What a call of the SDK raises. -/
inductive Raised where
  | sdkError (code : Text)
  | ordinary
deriving DecidableEq

/-- A stream of the SDK: what it gives, and what it raises behind that unless it ends. -/
structure DeepSeekStream where
  id : ResourceId
  events : List DeepSeekEvent
  ending : Option Raised := none
deriving DecidableEq

/-- `get_secret` of a credential store. -/
abbrev SecretReader := CredentialId → Except Unit (Option ProfileService.SecretValue)

namespace DeepSeekProvider

/-- What the adapter changes: its credential store, which it drops when it is closed, and what it holds of the SDK. -/
structure Connections where
  secretStore : Option SecretReader
  resources : ProviderResources := {}
  credentialFingerprint : Option Bytes := none

/-- What is outside the adapter during a turn. -/
structure Outside where
  sha256 : Bytes → Bytes
  /-- The client factory, by the key. -/
  createClient : Text → Except Unit ResourceId
  /-- `create` of a client. -/
  createStream : ResourceId → DeepSeekRequest → Except Raised DeepSeekStream
  /-- Whether a close call closes its resource, by its number. -/
  closes : Nat → Bool
  /-- What other tasks make of the adapter while the stream is read. -/
  meanwhile : Connections → Connections

/-- How the close calls end: those that do not close raise. -/
def Outside.sdk (outside : Outside) : SdkEnv where
  close n := if outside.closes n then .closed else .raised

end DeepSeekProvider

/-- The adapter, but for what it changes. -/
structure DeepSeekProvider where
  profile : ProviderProfile
  capabilities : ProviderCapabilities
  streamEnabled : Bool

namespace DeepSeekProvider

def adapterVersion : Text := lit "1"

/-- `DEEPSEEK_MAXIMUM_CAPABILITIES`. -/
def maximumCapabilities : ProviderCapabilities where
  streaming := true
  tools := false
  embeddings := false
  continuationMode := .replayMessages
  protocol := .chatCompletions

def checkProfile (profile : ProviderProfile) : Except String Unit :=
  if profile.providerId.value ≠ lit "deepseek" ∨ profile.protocol ≠ .chatCompletions ∨
      profile.baseUrl ≠ some deepseekOfficialBaseUrl ∨ profile.credentialId = none then
    .error "invalid built-in DeepSeek profile"
  else .ok ()

/-- `__init__`, without the settings that only the client factory reads. -/
def init (profile : ProviderProfile) (stream : Bool) (capabilities : Option ProviderCapabilities) :
    Except String DeepSeekProvider := do
  checkProfile profile
  let effective ← restrictCapabilities maximumCapabilities (capabilities.getD profile.capabilities)
  return { profile, capabilities := effective, streamEnabled := stream }

/-- `_DeepSeekBuilder.build`, behind the check of the credential binding. -/
def build (profile : ProviderProfile) (stream : Bool) : Except String DeepSeekProvider := do
  checkProfile profile
  let effective ← restrictCapabilities maximumCapabilities profile.capabilities
  init profile stream (some effective)

/-! ## Failures -/

/-- `_ERROR_MESSAGES`. -/
def errorMessages : List (Text × Text) :=
  [(lit "missing_api_key", lit "No DeepSeek API key is available."),
    (lit "credential_unavailable", lit "The DeepSeek credential could not be read safely."),
    (lit "invalid_api_key", lit "The DeepSeek API key was rejected."),
    (lit "permission_denied", lit "DeepSeek denied access to the requested operation."),
    (lit "request_timeout", lit "The DeepSeek request timed out."),
    (lit "network_unavailable", lit "The DeepSeek service could not be reached."),
    (lit "rate_limited", lit "DeepSeek rate-limited the request."),
    (lit "model_not_found", lit "The configured DeepSeek model is unavailable."),
    (lit "invalid_request", lit "DeepSeek rejected the request parameters."),
    (lit "provider_unavailable", lit "The DeepSeek service is unavailable."),
    (lit "invalid_response", lit "DeepSeek returned an invalid response stream."),
    (lit "provider_closed", lit "The provider has already been closed."),
    (lit "invalid_continuation", lit "The DeepSeek continuation state is invalid."),
    (lit "unsupported_capability", lit "The request uses an unsupported DeepSeek capability."),
    (lit "output_budget_exhausted", lit "The DeepSeek response exhausted its output budget."),
    (lit "content_filtered", lit "DeepSeek filtered the requested response.")]

/-- `_known_error_code`. -/
def knownErrorCode (code : Text) : Text :=
  if code ∈ errorMessages.map Prod.fst then code else lit "provider_unavailable"

/-- `_failure`. -/
def failure (code : Text) : LLMEvent :=
  .failure (knownErrorCode code) ((errorMessages.lookup (knownErrorCode code)).getD [])

/-! ## The request -/

/-- `_memory_messages`. -/
def memoryMessages (memories : List MemoryContext) : List (Text × Text) :=
  memories.map fun memory =>
    (lit "user", lit "[untrusted_memory_data]\nsource=" ++ memory.sourceSessionId ++ lit "\ncontent=" ++ memory.content)

/-- `_chat_messages`. -/
def chatMessages (messages : List ChatMessage) : List (Text × Text) :=
  messages.map fun message => (message.role.value, message.content)

/-- `_prepare_request`, unless it raises. -/
def prepareRequest (request : LLMRequest) (model : Text) : Option DeepSeekRequest :=
  let system := if request.instructions.strip = [] then [] else [(lit "system", request.instructions)]
  if h : 0 < request.maxOutputTokens then
    some
      { model
        messages := system ++ memoryMessages request.memoryContext ++ chatMessages request.messages
        maxTokens := request.maxOutputTokens
        positive := h }
  else none

/-! ## Continuations -/

/-- The members of a continuation, in the order of their keys. -/
def continuationMembers (profile : ProviderProfile) : List (Text × Text) :=
  [(lit "adapter_version", adapterVersion), (lit "profile_id", profile.profileId.value),
    (lit "protocol", protocolValue profile.protocol)]

def continuationJson (profile : ProviderProfile) : Json :=
  .obj ((continuationMembers profile).map fun m => (m.1, .str m.2))

/-- `_continuation`. -/
def continuation (profile : ProviderProfile) : ProviderContinuation where
  providerName := lit "deepseek"
  state := OpenAI.canonicalJsonBytes (continuationJson profile)
  version := some adapterVersion

/-- The value is this text. -/
def isText (expected : Text) : Option Json → Bool
  | some (.str value) => decide (value = expected)
  | _ => false

/-- The value is a dictionary with these members and no others. -/
def isDictOf (expected : List (Text × Text)) : Json → Bool
  | .obj members =>
    members.all (fun m => decide (m.1 ∈ expected.map Prod.fst)) &&
      expected.all fun m => isText m.2 (Json.Members.get? members m.1)
  | _ => false

/-- The request uses tools in a way the adapter does not. -/
def UsesTools (request : LLMRequest) (capabilities : ProviderCapabilities) : Prop :=
  request.tools ≠ [] ∧ capabilities.tools = false ∨ ∃ message ∈ request.messages, message.role = .tool

instance (request : LLMRequest) (capabilities : ProviderCapabilities) : Decidable (UsesTools request capabilities) :=
  inferInstanceAs (Decidable (_ ∨ _))

section

variable (limit : Nat)

/-- `_preflight_error`; it raises what `json.loads` raises of a text that is not malformed. -/
def preflightError (request : LLMRequest) (profile : ProviderProfile) (capabilities : ProviderCapabilities) :
    Except Json.LoadsError (Option Text) :=
  if UsesTools request capabilities then .ok (some (lit "unsupported_capability"))
  else
    match request.continuation with
    | none => .ok none
    | some continuation =>
      if capabilities.continuationMode = .none then .ok (some (lit "unsupported_capability"))
      else if continuation.providerName ≠ lit "deepseek" ∨ continuation.version ≠ some adapterVersion then
        .ok (some (lit "invalid_continuation"))
      else
        match Bytes.decodeUtf8 continuation.state with
        | none => .ok (some (lit "invalid_continuation"))
        | some text =>
          match Json.jsonLoads limit text with
          | .error .decode => .ok (some (lit "invalid_continuation"))
          | .error e => .error e
          | .ok raw =>
            if isDictOf (continuationMembers profile) raw then .ok none
            else .ok (some (lit "invalid_continuation"))

end

/-! ## The client and the stream -/

/-- A program of the adapter. -/
abbrev Work (α : Type) := EStateM TaskError Connections α

/-- Run a program over what is held of the SDK. -/
def onResources {α : Type} (c : ProviderResources.Cleanup α) : Work α :=
  onPart Connections.resources (fun s resources => { s with resources }) c

/-- `_isolate_current_resources`. -/
def Connections.isolate (s : Connections) : Connections :=
  { s with resources := s.resources.isolateCurrentResources, credentialFingerprint := none }

section

variable (outside : Outside) (provider : DeepSeekProvider)

/-- `_retry_pending_cleanup_locked`. -/
def retryCleanup : Work Bool := onResources (retryPendingCleanupLocked outside.sdk)

def invalidateClientLocked : Work Bool := do
  modify Connections.isolate
  retryCleanup outside

/-- Refuse, and let go of what was connected. -/
def disconnect (code : Text) : Work (Except Text ResourceId) := do
  let _ ← invalidateClientLocked outside
  return .error code

/-- A client for the key, once the one before is gone. -/
def replaceClient (key : Text) (fingerprint : Bytes) : Work (Except Text ResourceId) := do
  modify Connections.isolate
  if ¬(← invalidateClientLocked outside) then return .error (lit "provider_unavailable")
  else
    match outside.createClient key with
    | .error _ => return .error (lit "provider_unavailable")
    | .ok client =>
      if (← get).resources.closed then
        modify fun s => { s with resources.clients.pending := insertKey s.resources.clients.pending client }
        let _ ← retryCleanup outside
        return .error (lit "provider_closed")
      else
        modify fun s => { s with resources.client := some client, credentialFingerprint := some fingerprint }
        return .ok client

/-- The client for the key, the one there is if it was made for it. -/
def connect (key : Text) (fingerprint : Bytes) : Work (Except Text ResourceId) := do
  let s ← get
  if s.resources.closed then return .error (lit "provider_closed")
  else
    match s.resources.client.filter fun _ => decide (s.credentialFingerprint = some fingerprint) with
    | some client => return .ok client
    | none => replaceClient outside key fingerprint

/-- `_client_locked`: the client, or why there is none. -/
def clientLocked : Work (Except Text ResourceId) := do
  if ¬(← retryCleanup outside) then return .error (lit "provider_unavailable")
  else
    match (← get).secretStore with
    | none => disconnect outside (lit "missing_api_key")
    | some getSecret =>
      match provider.profile.credentialId with
      | none => return .error (lit "missing_api_key")
      | some credentialId =>
        match getSecret credentialId with
        | .error _ => disconnect outside (lit "credential_unavailable")
        | .ok none => disconnect outside (lit "missing_api_key")
        | .ok (some secret) =>
          match secret.value.encodeUtf8 with
          | none => disconnect outside (lit "credential_unavailable")
          | some key => connect outside secret.value (outside.sha256 key)

/-- `_register_stream`: why the stream is not registered. -/
def registerStream (client : ResourceId) (stream : DeepSeekStream) : Work (Option Text) := do
  let s ← get
  if s.resources.closed then return some (lit "provider_closed")
  else if s.resources.client ≠ some client then return some (lit "provider_unavailable")
  else
    set { s with resources.activeStreams := insertKey s.resources.activeStreams stream.id }
    return none

/-- `_retire_stream`: whether the stream is closed. -/
def retireStream (stream : DeepSeekStream) (registered : Bool) : Work Bool := do
  modify fun s => { s with
    resources.activeStreams :=
      if registered then popKey s.resources.activeStreams stream.id else s.resources.activeStreams
    resources.streams.pending := insertKey s.resources.streams.pending stream.id }
  onResources (ProviderResources.closePendingLocked outside.sdk .stream stream.id)

/-- What the generator has when it leaves the lifecycle lock. -/
structure Opened where
  failureCode : Option Text := none
  stream : Option DeepSeekStream := none
  registered : Bool := false

/-- The code of what was raised. -/
def Raised.code : Raised → Text
  | .sdkError code => knownErrorCode code
  | .ordinary => lit "provider_unavailable"

/-- What the generator does under the lifecycle lock. -/
def openStream (request : LLMRequest) : Work Opened := do
  match ← clientLocked outside provider with
  | .error code => return { failureCode := some code }
  | .ok client =>
    match prepareRequest request provider.profile.model with
    | none => return { failureCode := some (lit "provider_unavailable") }
    | some sdkRequest =>
      match outside.createStream client sdkRequest with
      | .error raised => return { failureCode := some (Raised.code raised) }
      | .ok stream =>
        match ← registerStream client stream with
        | some code => return { failureCode := some code, stream := some stream }
        | none => return { stream := some stream, registered := true }

/-! ## Reading the stream -/

/-- The local variables of the generator. -/
structure Reception where
  failureCode : Option Text := none
  terminalKind : Option DeepSeekEventKind := none
  textSeen : Bool := false

/-- The loop: where it leaves the variables, what it yields, and whether it came to the end of the stream. -/
def receiveAll (state : Reception) : List DeepSeekEvent → Reception × List LLMEvent × Bool
  | [] => (state, [], true)
  | event :: rest =>
    match event.kind, state.terminalKind with
    | .metadata, _ => receiveAll state rest
    | _, some _ => ({ state with failureCode := some (lit "invalid_response") }, [], false)
    | .textDelta, none =>
      if event.text = [] then receiveAll state rest
      else
        let (final, yielded, ended) := receiveAll { state with textSeen := true } rest
        (final, .textDelta event.text :: yielded, ended)
    | .completed, none => receiveAll { state with terminalKind := some .completed } rest
    | .failed, none =>
      -- an empty code counts as none
      let code := (event.failureCode.filter (· ≠ [])).getD (lit "provider_unavailable")
      receiveAll { state with terminalKind := some .failed, failureCode := some code } rest

/-- The stream read, with what it raises at its end. -/
def readStream (stream : DeepSeekStream) : Reception × List LLMEvent :=
  let (state, yielded, ended) := receiveAll {} stream.events
  match stream.ending with
  | some raised => (if ended then { state with failureCode := some (Raised.code raised) } else state, yielded)
  | none => (state, yielded)

/-- The last event. -/
def conclude (failureCode : Option Text) (state : Reception) : LLMEvent :=
  match failureCode with
  | some code => failure code
  | none =>
    if state.terminalKind ≠ some .completed ∨ state.textSeen = false then failure (lit "invalid_response")
    else
      .completed (if provider.capabilities.continuationMode = .replayMessages then some (continuation provider.profile)
        else none)

/-- A turn that was read to its end: what was yielded, what the generator then raised, and the stream that was read. -/
structure Turn where
  yielded : List LLMEvent
  raised : Option Json.LoadsError := none
  stream : Option DeepSeekStream := none

/-- What the generator reads of what it has opened: the stream, the variables behind it, and what was yielded. -/
def readOpened (opened : Opened) : Option DeepSeekStream × Reception × List LLMEvent :=
  match opened.failureCode, opened.stream with
  | none, some stream => (some stream, readStream stream)
  | failureCode, _ => (none, { failureCode }, [])

/-- Whether what was opened is closed. -/
def retireOpened (opened : Opened) : Work Bool :=
  match opened.stream with
  | some stream => retireStream outside stream opened.registered
  | none => return true

/-- The turn, once it is known whether the stream is closed. -/
def endTurn (stream : Option DeepSeekStream) (state : Reception) (yielded : List LLMEvent) (closed : Bool) : Turn :=
  let failureCode := if closed then state.failureCode else state.failureCode.or (some (lit "provider_unavailable"))
  { yielded := yielded ++ [conclude provider failureCode state], stream }

/-- The turn behind the checks. -/
def streamTurn (request : LLMRequest) : Work Turn := do
  let opened ← openStream outside provider request
  let (stream, state, yielded) := readOpened opened
  modify outside.meanwhile
  let closed ← retireOpened outside opened
  return endTurn provider stream state yielded closed

/-- `generate_stream`, read to its end. -/
def generateStream (limit : Nat) (request : LLMRequest) : Work Turn :=
  match preflightError limit request provider.profile provider.capabilities with
  | .error e => return { yielded := [], raised := some e }
  | .ok (some code) => return { yielded := [failure code] }
  | .ok none =>
    if provider.streamEnabled = false then return { yielded := [failure (lit "unsupported_capability")] }
    else streamTurn outside provider request

end

end DeepSeekProvider

end ArkClaw.Provider
