import ArkClaw.Domain.Models
import ArkClaw.Library.JsonRoundTrip

/-!
# The continuation of the OpenAI adapter

What the adapter keeps of a conversation, so that the next turn can go on from it: the items that were sent and
received, sanitized, and fingerprints of the messages. The state is a signed JSON document. It is decoded only if its
signature is that of its payload under the adapter's own key.
-/

namespace ArkClaw.Domain

open ArkClaw.Library

def MessageRole.value : MessageRole → Text
  | .system => lit "system"
  | .user => lit "user"
  | .assistant => lit "assistant"
  | .tool => lit "tool"

end ArkClaw.Domain

namespace ArkClaw.Provider.OpenAI

open ArkClaw.Library ArkClaw.Domain

def continuationVersion : Text := lit "2"

def maxContinuationBytes : Nat := 1048576

def maxContinuationItems : Nat := 512

def maxMessageFingerprints : Nat := 4096

def messageRoles : List Text := [lit "assistant", lit "system", lit "user"]

def outputStatuses : List Text := [lit "completed", lit "in_progress", lit "incomplete"]

/-- `0123456789abcdef`. -/
def isHexDigit (c : CodePoint) : Bool := decide (0x30 ≤ c.val ∧ c.val ≤ 0x39 ∨ 0x61 ≤ c.val ∧ c.val ≤ 0x66)

/-- `_is_fingerprint` of a text, and the form of a signature: 64 hexadecimal digits. -/
def IsFingerprint (s : Text) : Prop := s.length = 64 ∧ s.all isHexDigit = true

instance (s : Text) : Decidable (IsFingerprint s) := inferInstanceAs (Decidable (_ ∧ _))

/-- The hexadecimal digests of `hashlib.sha256` and of `hmac` with it, and the floating numbers of JSON. -/
structure Primitives where
  sha256 : Bytes → { s : Text // IsFingerprint s }
  hmac : (key message : Bytes) → { s : Text // IsFingerprint s }
  floats : Json.FloatReader

/-- Why a value is not taken: it is answered with `None`, or a set is asked for something that cannot be hashed. -/
inductive Refusal where
  | rejected | unhashable
deriving DecidableEq, Repr

abbrev Sanitizer (α : Type) := Except Refusal α

/-! ## Looking into a value -/

def require (p : Prop) [Decidable p] : Sanitizer Unit := if p then .ok () else .error .rejected

/-- `dict.get`: `None` also stands for a member that is not there. -/
def member (value : Json.Members) (key : String) : Json := (value.get? (lit key)).getD .null

/-- `set(value).issubset(keys)`. -/
def HasOnly (keys : List String) (value : Json.Members) : Prop := ∀ m ∈ value, m.1 ∈ keys.map lit

/-- `keys.issubset(value)`. -/
def HasAll (keys : List String) (value : Json.Members) : Prop := ∀ key ∈ keys, lit key ∈ value.map Prod.fst

instance (keys : List String) (value : Json.Members) : Decidable (HasOnly keys value) :=
  inferInstanceAs (Decidable (∀ m ∈ value, _))

instance (keys : List String) (value : Json.Members) : Decidable (HasAll keys value) :=
  inferInstanceAs (Decidable (∀ key ∈ keys, _))

/-- `set(value) == keys`. -/
def HasExactly (keys : List String) (value : Json.Members) : Prop := HasOnly keys value ∧ HasAll keys value

instance (keys : List String) (value : Json.Members) : Decidable (HasExactly keys value) :=
  inferInstanceAs (Decidable (_ ∧ _))

/-- The value is this text. -/
def IsText (value : Json) (s : String) : Prop :=
  match value with
  | .str t => t = lit s
  | _ => False

instance (value : Json) (s : String) : Decidable (IsText value s) := by
  unfold IsText
  split <;> infer_instance

def text : Json → Sanitizer Text
  | .str s => .ok s
  | _ => .error .rejected

/-- `_is_nonempty_string`. -/
def nonemptyText : Json → Sanitizer Text
  | .str s => if s = [] then .error .rejected else .ok s
  | _ => .error .rejected

/-- A text among others; `in` raises for a container. -/
def oneOf (values : List Text) : Json → Sanitizer Text
  | .str s => if s ∈ values then .ok s else .error .rejected
  | .arr _ => .error .unhashable
  | .obj _ => .error .unhashable
  | _ => .error .rejected

/-- What is not there needs no check. -/
def optional (check : Json → Sanitizer Text) : Json → Sanitizer (Option Text)
  | .null => .ok none
  | value => return some (← check value)

def isString : Json → Bool
  | .str _ => true
  | _ => false

/-- `_is_json_integer`. -/
def isJsonInteger : Json → Bool
  | .int _ => true
  | _ => false

/-- A member that may be absent. -/
def optionalMember (key : String) (value : Option Json) : Json.Members := value.toList.map fun v => (lit key, v)

/-! ## Domain values -/

mutual

/-- A value that `_normalize_domain_json` returns unchanged, at a depth. -/
def isDomainJson (depth : Nat) : Json → Bool
  | .float repr => decide (depth ≤ 32) && decide (repr ∉ [lit "inf", lit "-inf", lit "nan"])
  | .arr items => decide (depth ≤ 32) && areDomainJson (depth + 1) items
  | .obj members => decide (depth ≤ 32) && areDomainMembers (depth + 1) members
  | _ => decide (depth ≤ 32)

def areDomainJson (depth : Nat) : List Json → Bool
  | [] => true
  | item :: rest => isDomainJson depth item && areDomainJson depth rest

def areDomainMembers (depth : Nat) : List (Text × Json) → Bool
  | [] => true
  | (_, value) :: rest => isDomainJson depth value && areDomainMembers depth rest

end

def normalizeDomainJson (value : Json) : Sanitizer Json := do
  require (isDomainJson 0 value = true)
  return value

/-! ## The sanitizer -/

def annotationIsKnown : Json → Bool
  | .obj value =>
    let strings (keys : List String) : Bool := keys.all fun key => isString (member value key)
    let integers (keys : List String) : Bool := keys.all fun key => isJsonInteger (member value key)
    if IsText (member value "type") "file_citation" then
      decide (HasExactly ["file_id", "filename", "index", "type"] value) && strings ["file_id", "filename"]
        && integers ["index"]
    else if IsText (member value "type") "url_citation" then
      decide (HasExactly ["end_index", "start_index", "title", "type", "url"] value)
        && integers ["end_index", "start_index"] && strings ["title", "url"]
    else if IsText (member value "type") "container_file_citation" then
      decide (HasExactly ["container_id", "end_index", "file_id", "filename", "start_index", "type"] value)
        && strings ["container_id"] && integers ["end_index"] && strings ["file_id", "filename"]
        && integers ["start_index"]
    else if IsText (member value "type") "file_path" then
      decide (HasExactly ["file_id", "index", "type"] value) && strings ["file_id"] && integers ["index"]
    else false
  | _ => false

def annotationsAreKnown : Json → Bool
  | .arr annotations => annotations.all annotationIsKnown
  | _ => false

/-- No log probabilities are there. -/
def hasNoLogprobs : Json → Bool
  | .null => true
  | .arr [] => true
  | _ => false

/-- A part of the content of an output message. -/
def sanitizeContentPart : Json → Sanitizer Json
  | .obj part => do
    if IsText (member part "type") "output_text" then
      require (HasOnly ["annotations", "logprobs", "text", "type"] part ∧ HasAll ["annotations", "text", "type"] part)
      let content ← text (member part "text")
      require (hasNoLogprobs (member part "logprobs") = true ∧ annotationsAreKnown (member part "annotations") = true)
      return .dict [(lit "annotations", .arr []), (lit "text", .str content), (lit "type", .str (lit "output_text"))]
    else do
      require (IsText (member part "type") "refusal" ∧ HasExactly ["refusal", "type"] part)
      let refusal ← text (member part "refusal")
      return .dict [(lit "refusal", .str refusal), (lit "type", .str (lit "refusal"))]
  | _ => .error .rejected

def sanitizeContent : Json → Sanitizer (List Json)
  | .arr parts => parts.mapM sanitizeContentPart
  | _ => .error .rejected

def sanitizeOutputMessage (value : Json.Members) : Sanitizer Json := do
  require (HasOnly ["content", "id", "phase", "role", "status", "type"] value
    ∧ HasAll ["content", "id", "role", "status", "type"] value ∧ IsText (member value "type") "message"
    ∧ IsText (member value "role") "assistant")
  let status ← oneOf outputStatuses (member value "status")
  let id ← nonemptyText (member value "id")
  let phase ← optional (oneOf [lit "commentary", lit "final_answer"]) (member value "phase")
  let content ← sanitizeContent (member value "content")
  return .dict ([(lit "content", .arr content), (lit "id", .str id), (lit "role", .str (lit "assistant")),
    (lit "status", .str status), (lit "type", .str (lit "message"))] ++ optionalMember "phase" (phase.map .str))

def sanitizeTextPart (partType : String) : Json → Sanitizer Json
  | .obj part => do
    require (HasExactly ["text", "type"] part ∧ IsText (member part "type") partType)
    let content ← text (member part "text")
    return .dict [(lit "text", .str content), (lit "type", .str (lit partType))]
  | _ => .error .rejected

def sanitizeTextParts (partType : String) : Json → Sanitizer (List Json)
  | .arr parts => parts.mapM (sanitizeTextPart partType)
  | _ => .error .rejected

/-- The content of a reasoning item, which may be absent. -/
def sanitizeReasoningContent : Json → Sanitizer (Option (List Json))
  | .null => .ok none
  | value => return some (← sanitizeTextParts "reasoning_text" value)

def sanitizeReasoningItem (value : Json.Members) : Sanitizer Json := do
  require (HasOnly ["content", "encrypted_content", "id", "status", "summary", "type"] value
    ∧ HasAll ["id", "summary", "type"] value ∧ IsText (member value "type") "reasoning")
  let id ← nonemptyText (member value "id")
  let summary ← sanitizeTextParts "summary_text" (member value "summary")
  let content ← sanitizeReasoningContent (member value "content")
  let encrypted ← optional text (member value "encrypted_content")
  let status ← optional (oneOf outputStatuses) (member value "status")
  return .dict ([(lit "id", .str id), (lit "summary", .arr summary), (lit "type", .str (lit "reasoning"))]
    ++ optionalMember "content" (content.map .arr) ++ optionalMember "encrypted_content" (encrypted.map .str)
    ++ optionalMember "status" (status.map .str))

/-- `_sanitize_function_caller`: a caller that is known. -/
def sanitizeFunctionCaller : Json → Option Json
  | .obj value =>
    if IsText (member value "type") "direct" ∧ HasExactly ["type"] value then
      some (.dict [(lit "type", .str (lit "direct"))])
    else if IsText (member value "type") "program" ∧ HasExactly ["caller_id", "type"] value then
      match nonemptyText (member value "caller_id") with
      | .ok callerId => some (.dict [(lit "caller_id", .str callerId), (lit "type", .str (lit "program"))])
      | .error _ => none
    else none
  | _ => none

/-- The caller of a function call, which may be absent. -/
def sanitizeCaller : Json → Sanitizer (Option Json)
  | .null => .ok none
  | value =>
    match sanitizeFunctionCaller value with
    | some caller => .ok (some caller)
    | none => .error .rejected

def sanitizeFunctionCall (value : Json.Members) : Sanitizer Json := do
  require (HasOnly ["arguments", "call_id", "caller", "id", "name", "namespace", "status", "type"] value
    ∧ HasAll ["arguments", "call_id", "name", "type"] value ∧ IsText (member value "type") "function_call")
  let arguments ← text (member value "arguments")
  let callId ← nonemptyText (member value "call_id")
  let name ← nonemptyText (member value "name")
  let id ← optional nonemptyText (member value "id")
  let caller ← sanitizeCaller (member value "caller")
  let «namespace» ← optional nonemptyText (member value "namespace")
  let status ← optional (oneOf outputStatuses) (member value "status")
  return .dict ([(lit "arguments", .str arguments), (lit "call_id", .str callId), (lit "name", .str name),
    (lit "type", .str (lit "function_call"))] ++ optionalMember "id" (id.map .str) ++ optionalMember "caller" caller
    ++ optionalMember "namespace" («namespace».map .str) ++ optionalMember "status" (status.map .str))

/-- An item without a type: a message that was sent. -/
def sanitizeInputMessage (value : Json.Members) : Sanitizer Json := do
  require (HasExactly ["content", "role"] value)
  let role ← oneOf messageRoles (member value "role")
  let content ← text (member value "content")
  return .dict [(lit "content", .str content), (lit "role", .str role)]

/-- `_sanitize_history_item`. -/
def sanitizeHistoryItem (value : Json) : Sanitizer Json := do
  match ← normalizeDomainJson value with
  | .obj item =>
    match member item "type" with
    | .null => sanitizeInputMessage item
    | itemType =>
      if IsText itemType "message" then sanitizeOutputMessage item
      else if IsText itemType "reasoning" then sanitizeReasoningItem item
      else if IsText itemType "function_call" then sanitizeFunctionCall item
      else .error .rejected
  | _ => .error .rejected

/-! ## The state -/

section

variable (p : Primitives)

/-- What a fingerprint is taken of, unless the text cannot be encoded. -/
def fingerprintMaterial (role : MessageRole) (content : Text) : Option Bytes :=
  (role.value ++ lit "\x00" ++ content).encodeUtf8

/-- `_fingerprint_message`. -/
def fingerprintMessage (role : MessageRole) (content : Text) : Sanitizer Text :=
  (fingerprintMaterial role content).elim (.error .rejected) fun material => .ok (p.sha256 material).val

/-- `_canonical_json_bytes`. -/
def canonicalJsonBytes (value : Json) : Bytes := value.dumpsCompact.flatMap Text.encodeCodePoint

/-- The payload of a state. -/
def payloadOf (assistantFingerprint : Option Text) (history : List Json) (messageFingerprints : List Text) : Json :=
  .dict [(lit "assistant_fingerprint", (assistantFingerprint.map Json.str).getD .null),
    (lit "history_items", .arr history), (lit "message_fingerprints", .arr (messageFingerprints.map .str))]

/-- The document of a payload and its signature. -/
def envelopeOf (payload : Json) (signature : Text) : Json :=
  .dict [(lit "payload", payload), (lit "signature", .str signature)]

/-- What `_create_continuation` is given. -/
structure Creation where
  history : List Json
  messageFingerprints : List Text
  assistantText : Text
  continuationHmacKey : Bytes

/-- The fingerprint of the text of the assistant, if there is one. -/
def assistantFingerprint (assistantText : Text) : Sanitizer (Option Text) :=
  if assistantText = [] then .ok none else return some (← fingerprintMessage p .assistant assistantText)

/-- What is signed. -/
def Creation.payload (c : Creation) : Sanitizer Json := do
  require (c.history.length ≤ maxContinuationItems ∧ c.messageFingerprints.length ≤ maxMessageFingerprints
    ∧ ∀ fingerprint ∈ c.messageFingerprints, IsFingerprint fingerprint)
  let assistant ← assistantFingerprint p c.assistantText
  let safeHistory ← c.history.mapM sanitizeHistoryItem
  return payloadOf assistant safeHistory c.messageFingerprints

/-- `_create_continuation`. -/
def createContinuation (c : Creation) : Sanitizer ProviderContinuation := do
  let payload ← c.payload p
  let signature := p.hmac c.continuationHmacKey (canonicalJsonBytes payload)
  let state := canonicalJsonBytes (envelopeOf payload signature.val)
  require (state.length ≤ maxContinuationBytes)
  return { providerName := lit "openai", state, version := some continuationVersion }

/-! ## Decoding -/

structure ContinuationState where
  historyItems : List Json
  messageFingerprints : List Text
  assistantFingerprint : Option Text

/-- `_strict_json_object`. -/
def strictJsonObject (value : Text) (maxBytes : Nat) : Sanitizer Json.Members := do
  require (value.Encodable ∧ value.utf8Length ≤ maxBytes)
  match Json.loads p.floats value with
  | some raw =>
    match ← normalizeDomainJson raw with
    | .obj members => .ok members
    | _ => .error .rejected
  | none => .error .rejected

/-- `_strict_json_object_from_bytes`. -/
def strictJsonObjectFromBytes (value : Bytes) (maxBytes : Nat) : Sanitizer Json.Members := do
  require (value.length ≤ maxBytes)
  match Bytes.decodeUtf8 value with
  | some text => strictJsonObject p text maxBytes
  | none => .error .rejected

/-- The payload of a state and its signature, as far as their form goes. -/
def envelope (continuation : ProviderContinuation) : Sanitizer (Json.Members × Text) := do
  require (continuation.providerName = lit "openai" ∧ continuation.version = some continuationVersion
    ∧ continuation.state.length ≤ maxContinuationBytes)
  let envelope ← strictJsonObjectFromBytes p continuation.state maxContinuationBytes
  require (HasExactly ["payload", "signature"] envelope)
  match member envelope "payload", member envelope "signature" with
  | .obj payload, .str signature => do
    require (IsFingerprint signature)
    return (payload, signature)
  | _, _ => .error .rejected

def fingerprint : Json → Sanitizer Text
  | .str s => if IsFingerprint s then .ok s else .error .rejected
  | _ => .error .rejected

/-- What a payload says. -/
def readPayload (payload : Json.Members) : Sanitizer ContinuationState := do
  require (HasExactly ["assistant_fingerprint", "history_items", "message_fingerprints"] payload)
  match member payload "history_items", member payload "message_fingerprints" with
  | .arr rawHistory, .arr rawFingerprints => do
    require (rawHistory.length ≤ maxContinuationItems ∧ rawFingerprints.length ≤ maxMessageFingerprints)
    let assistantFingerprint ← optional fingerprint (member payload "assistant_fingerprint")
    let historyItems ← rawHistory.mapM sanitizeHistoryItem
    let messageFingerprints ← rawFingerprints.mapM fingerprint
    return { historyItems, messageFingerprints, assistantFingerprint }
  | _, _ => .error .rejected

/-- `_decode_continuation`. -/
def decodeContinuation (continuation : ProviderContinuation) (continuationHmacKey : Bytes) :
    Sanitizer ContinuationState := do
  let (payload, signature) ← envelope p continuation
  require (signature = (p.hmac continuationHmacKey (canonicalJsonBytes (.obj payload))).val)
  readPayload payload

end

end ArkClaw.Provider.OpenAI
