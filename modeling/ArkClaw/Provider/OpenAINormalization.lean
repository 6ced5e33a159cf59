import ArkClaw.Provider.OpenAIStream

/-!
# What the adapter takes from the SDK

A response is asked for whole or as a stream. Each has a normalizer of its own: `normalizeStreamEvent` takes one event of
a stream, `normalizeResponse` all of a response that is there. Of an item the SDK gives its fields and, by `model_dump`,
its JSON. What a stream may be of a response is documented by the service: `Documented`.
-/

namespace ArkClaw.Provider.OpenAI

open ArkClaw.Library ArkClaw.Domain

/-! ## Responses -/

/-- What a message says. -/
inductive OutputContent where
  | outputText (text : Text)
  | refusal (refusal : Text)
deriving DecidableEq

/-- An item of the output. -/
inductive OutputItem where
  | message (id : Text) (content : List OutputContent)
  | functionCall (id : Option Text) (callId name arguments : Text)
  | other (id : Option Text)

/-- An item, and the JSON it is dumped to. -/
structure DumpedItem where
  item : OutputItem
  dumped : Json

inductive ResponseStatus where
  | completed | failed | inProgress | cancelled | queued | incomplete
deriving DecidableEq, Repr

def ResponseStatus.value : ResponseStatus → String
  | .completed => "completed"
  | .failed => "failed"
  | .inProgress => "in_progress"
  | .cancelled => "cancelled"
  | .queued => "queued"
  | .incomplete => "incomplete"

inductive IncompleteReason where
  | maxOutputTokens | contentFilter
deriving DecidableEq, Repr

structure IncompleteDetails where
  reason : Option IncompleteReason := none
deriving DecidableEq, Repr

structure Response where
  output : List DumpedItem
  status : Option ResponseStatus
  incompleteDetails : Option IncompleteDetails := none

/-- An event of a stream. -/
inductive StreamEvent where
  | textDelta (delta : Text)
  | refusalDelta (delta : Text)
  | outputItemAdded (outputIndex : Int) (item : OutputItem)
  | functionCallArgumentsDelta (outputIndex : Int) (itemId delta : Text)
  | functionCallArgumentsDone (outputIndex : Int) (itemId name arguments : Text)
  | completed (response : Response)
  | incomplete (response : Response)
  | failed (response : Response)
  | error
  /-- An event of another type. -/
  | other (type : Text)

/-- The types of the events that are told apart. -/
def handledTypes : List Text :=
  [lit "response.output_text.delta", lit "response.refusal.delta", lit "response.output_item.added",
    lit "response.function_call_arguments.delta", lit "response.function_call_arguments.done", lit "response.completed",
    lit "response.incomplete", lit "response.failed", lit "error"]

def OutputItem.id : OutputItem → Option Text
  | .message id _ => some id
  | .functionCall id _ _ _ => id
  | .other id => id

/-! ## The normalizers -/

/-- `_response_failure_code`. -/
def responseFailureCode (response : Response) : Option Text :=
  if response.status = some .incomplete ∧ ∃ details ∈ response.incompleteDetails, details.reason = some .maxOutputTokens then
    some (lit "output_budget_exhausted")
  else none

/-- `_normalize_json` of an item: it is kept as it is, if it is JSON to a depth and an object. -/
def normalizeItem (item : DumpedItem) : Except Text Json :=
  match item.dumped with
  | .obj members => if isDomainJson 0 (.obj members) then .ok (.obj members) else .error (lit "invalid_response")
  | _ => .error (lit "invalid_response")

def dumpOutputItems (response : Response) : Except Text (List Json) := response.output.mapM normalizeItem

def normalizeStreamEvent : StreamEvent → Except Text ResponseEvent
  | .textDelta delta => .ok { kind := .textDelta, rawType := lit "response.output_text.delta", text := delta }
  | .refusalDelta delta => .ok { kind := .textDelta, rawType := lit "response.refusal.delta", text := delta }
  | .outputItemAdded outputIndex (.functionCall id callId name _) =>
    .ok {
      kind := .toolAdded
      rawType := lit "response.output_item.added"
      outputIndex := some outputIndex
      itemId := id.getD []
      callId
      name }
  | .outputItemAdded outputIndex item =>
    .ok {
      kind := .metadata
      rawType := lit "response.output_item.added"
      outputIndex := some outputIndex
      itemId := item.id.getD [] }
  | .functionCallArgumentsDelta outputIndex itemId delta =>
    .ok {
      kind := .toolArgumentsDelta
      rawType := lit "response.function_call_arguments.delta"
      outputIndex := some outputIndex
      itemId
      arguments := delta }
  | .functionCallArgumentsDone outputIndex itemId name arguments =>
    .ok {
      kind := .toolArgumentsDone
      rawType := lit "response.function_call_arguments.done"
      outputIndex := some outputIndex
      itemId
      name
      arguments }
  | .completed response =>
    if response.status ≠ some .completed then
      .ok { kind := .failed, rawType := lit "response.completed", failureCode := responseFailureCode response }
    else do
      return { kind := .completed, rawType := lit "response.completed", outputItems := ← dumpOutputItems response }
  | .incomplete response =>
    .ok { kind := .failed, rawType := lit "response.incomplete", failureCode := responseFailureCode response }
  | .failed _ => .ok { kind := .failed, rawType := lit "response.failed" }
  | .error => .ok { kind := .failed, rawType := lit "error" }
  | .other type => .ok { kind := .metadata, rawType := type }

/-- The event of a text or a refusal, unless it is empty. -/
def contentEvents : OutputContent → List ResponseEvent
  | .outputText text => if text = [] then [] else [{ kind := .textDelta, rawType := lit "response.output_text.done", text }]
  | .refusal refusal =>
    if refusal = [] then [] else [{ kind := .textDelta, rawType := lit "response.refusal.done", text := refusal }]

def itemEvents (outputIndex : Int) : OutputItem → List ResponseEvent
  | .message _ content => content.flatMap contentEvents
  | .functionCall id callId name arguments =>
    [{ kind := .toolAdded
       rawType := lit "response.output_item.added"
       outputIndex := some outputIndex
       itemId := id.getD []
       callId
       name },
      { kind := .toolArgumentsDone
        rawType := lit "response.function_call_arguments.done"
        outputIndex := some outputIndex
        itemId := id.getD []
        name
        arguments }]
  | .other _ => []

/-- The events of the items from a place of the output on. -/
def outputEvents : Int → List OutputItem → List ResponseEvent
  | _, [] => []
  | outputIndex, item :: rest => itemEvents outputIndex item ++ outputEvents (outputIndex + 1) rest

/-- The last event of a response that is there. -/
def lastEvent (response : Response) (outputItems : List Json) : ResponseEvent where
  kind := if response.status = some .completed then .completed else .failed
  rawType := lit ("response." ++ ((response.status.map ResponseStatus.value).getD "failed"))
  outputItems
  failureCode := responseFailureCode response

/-- `_normalize_response`. -/
def normalizeResponse (response : Response) : Except Text (List ResponseEvent) := do
  let outputItems ← dumpOutputItems response
  return outputEvents 0 (response.output.map (·.item)) ++ [lastEvent response outputItems]

/-! ## The two modes -/

/-- The stream as it is read: up to the first event that cannot be normalized. -/
def readStream : List StreamEvent → List ResponseEvent × Ending
  | [] => ([], .done)
  | event :: rest =>
    match normalizeStreamEvent event with
    | .ok normalized => (normalized :: (readStream rest).1, (readStream rest).2)
    | .error code => ([], .sdkError code)

/-- The network gives a stream of these events. -/
def streamedExchange (events : List StreamEvent) : Exchange where
  events := (readStream events).1
  ending := (readStream events).2

/-- The network gives the response at once. -/
def bufferedExchange (response : Response) : Exchange :=
  match normalizeResponse response with
  | .ok events => { events }
  | .error code => { ending := .sdkError code }

/-! ## The streams of a response -/

/-- The deltas of texts and refusals, in order. -/
inductive ContentStream : List OutputContent → List StreamEvent → Prop where
  | nil : ContentStream [] []
  | outputText (deltas : List Text) {content : List OutputContent} {events : List StreamEvent}
    (h : ContentStream content events) :
    ContentStream (.outputText deltas.flatten :: content) (deltas.map .textDelta ++ events)
  | refusal (deltas : List Text) {content : List OutputContent} {events : List StreamEvent}
    (h : ContentStream content events) :
    ContentStream (.refusal deltas.flatten :: content) (deltas.map .refusalDelta ++ events)

/-- An item that is added, and then what it says. Whatever it holds when it is added is not read. -/
inductive ItemStream (outputIndex : Int) : OutputItem → List StreamEvent → Prop where
  | message (id : Text) (added : List OutputContent) {content : List OutputContent} {events : List StreamEvent}
    (h : ContentStream content events) :
    ItemStream outputIndex (.message id content) (.outputItemAdded outputIndex (.message id added) :: events)
  | functionCall (id : Option Text) (itemId callId name added : Text) (deltas : List Text) (hid : ∀ i ∈ id, i = itemId)
    (hfew : deltas.length < maxToolArgumentParts) :
    ItemStream outputIndex (.functionCall id callId name deltas.flatten)
      (.outputItemAdded outputIndex (.functionCall id callId name added)
        :: deltas.map (.functionCallArgumentsDelta outputIndex itemId)
        ++ [.functionCallArgumentsDone outputIndex itemId name deltas.flatten])
  | other (id : Option Text) : ItemStream outputIndex (.other id) [.outputItemAdded outputIndex (.other id)]

/-- The items in order. -/
inductive OutputStream : Int → List OutputItem → List StreamEvent → Prop where
  | nil (outputIndex : Int) : OutputStream outputIndex [] []
  | cons {outputIndex : Int} {item : OutputItem} {items : List OutputItem} {events events' : List StreamEvent}
    (h : ItemStream outputIndex item events) (hrest : OutputStream (outputIndex + 1) items events') :
    OutputStream outputIndex (item :: items) (events ++ events')

/-- The last event that says something, by the status. -/
def Response.terminalEvent (response : Response) : StreamEvent :=
  match response.status with
  | some .completed => .completed response
  | some .incomplete => .incomplete response
  | _ => .failed response

/-- An event of another type. -/
def StreamEvent.isOther : StreamEvent → Bool
  | .other _ => true
  | _ => false

/-- A stream that the service documents for a response: its items in order and the terminal event, and events of other
types anywhere. -/
structure Documented (response : Response) (events : List StreamEvent) : Prop where
  others : ∀ type, .other type ∈ events → type ∉ handledTypes
  said : ∃ said, OutputStream 0 (response.output.map (·.item)) said
    ∧ events.filter (fun e => !e.isOther) = said ++ [response.terminalEvent]

end ArkClaw.Provider.OpenAI
