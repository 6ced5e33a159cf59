import ArkClaw.Agent.AgentLoopRuns

/-!
# How an uninterrupted turn ends

A stream is an answer if the loop reads on after each of its events and the last completes it, or the stream ends after
a tool was executed. An uninterrupted turn completes with the text of its deltas exactly if its stream is an answer;
it pauses at a call that requires approval, and fails on every other stream.
-/

namespace ArkClaw.Agent

open ArkClaw.Library hiding wp_bind wp_get wp_ite wp_pure
open ArkClaw.Domain
open Coroutine (wp_bind wp_get wp_ite wp_pure)

/-! ## The consumer -/

/-- The texts of the deltas. -/
def deltas (events : List AgentEvent) : List Text :=
  (events.filter fun e => e.type = .textDelta).map (·.text)

/-- The terminal event of the turn is of this type, and there is no other. -/
def EndsIn (type : AgentEventType) (events : List AgentEvent) : Prop :=
  (events.map (·.type)).filter terminal = [type]

theorem EndsIn.unique {type type' : AgentEventType} {events : List AgentEvent} (h : EndsIn type events)
    (h' : EndsIn type' events) : type = type' :=
  List.cons.inj (h.symm.trans h') |>.1

/-- The turn waits for an approval. -/
def Paused (events : List AgentEvent) : Prop := ∃ e ∈ events, e.type = .approvalRequired

namespace Turn

def take (t : Turn) (e : AgentEvent) : Turn := { t with yielded := t.yielded ++ [e] }

/-- The consumer takes what is yielded, and nothing else happens. -/
def Takes (p : LoopPoint) (t t' : Turn) : Prop :=
  t' = match p with
    | .yields e => t.take e
    | _ => t

end Turn

namespace AgentLoop

/-- What the loop waits for is there. -/
def arriving : Coroutine.Interpretation LoopPoint WakeUp Turn LoopError :=
  Coroutine.answered Turn.Takes fun _ answer => answer = .arrives

/-! ## The streams -/

section

variable {σ : Type} (loop : AgentLoop σ) (turnId : Text)

/-- The event completes the answer, with a continuation of the provider if there is one. -/
def Completes (event : LLMEvent) : Prop :=
  event.type = .completed ∧ ∀ c ∈ event.continuation, c.providerName = loop.providerName

/-- The event is a call of a registered tool that requires approval. -/
def AsksApproval (event : LLMEvent) : Prop :=
  event.continuation = none ∧ event.type = .toolCall ∧ ∃ call ∈ event.toolCall,
    ∃ tool ∈ loop.registeredTool call.name, ∃ decision,
      loop.toolPolicy tool.spec call { turnId, sessionId := turnId, approved := true } = .ok decision ∧
        decision.outcome = .requireApproval

/-- The stream is a well-formed answer. -/
def Answered (events : List (Option LLMEvent)) : Prop :=
  ∃ passed : List LLMEvent, (∀ e ∈ passed, loop.Passes turnId e) ∧
    ((∃ event, loop.Completes event ∧ events = passed.map some ++ [some event]) ∨
      events = passed.map some ∧ ∃ e ∈ passed, ∃ result, loop.Calls turnId (.executes result) e)

/-- The stream comes to a call that requires approval. -/
def ComesToApproval (events : List (Option LLMEvent)) : Prop :=
  ∃ passed : List LLMEvent, (∀ e ∈ passed, loop.Passes turnId e) ∧
    ∃ event rest, loop.AsksApproval turnId event ∧ events = passed.map some ++ some event :: rest

end

/-! ## Reading -/

/-- The consumer and the read loop after the same events: the parts of the text are the deltas, the turn has not
ended and waits for no approval. -/
structure Reading (st : ReadState) (t : Turn) : Prop where
  running : t.cancelled = false
  deltas : deltas t.yielded = st.textParts
  unended : ∀ e ∈ t.yielded, terminal e.type = false ∧ e.type ≠ .approvalRequired

/-- How a turn may end. -/
inductive Ending where
  | completed | paused | failed
deriving DecidableEq

def Ends : Ending → List AgentEvent → Prop
  | .completed, events => EndsIn .turnCompleted events ∧ ¬Paused events ∧
      ∃ e ∈ events, e.type = .turnCompleted ∧ e.text = (ArkClaw.Agent.deltas events).flatten
  | .paused, events => EndsIn .turnCompleted events ∧ Paused events
  | .failed, events => EndsIn .turnFailed events ∧ ¬Paused events

/-- How the read loop is left by a turn that ends so. -/
def Exits (ending : Ending) : Except LoopError LoopExit → Turn → Prop
  | .error e, t => ending = .failed ∧ e ≠ .cancelled ∧ ∃ st, Reading st t
  | .ok .returned, t => Ends ending t.yielded
  | .ok .cancelled, _ => False
  | .ok (.finished st), t => Reading st t ∧ match ending with
    | .completed => st.terminalType = some .completed ∨ st.terminalType = none ∧ st.toolExecuted = true
    | .paused => False
    | .failed => st.terminalType = some .error ∨ st.terminalType = none ∧ st.toolExecuted = false

section

variable {loop : AgentLoop Turn} {turnId : Text} {st : ReadState} {t : Turn} {R : LoopError → Turn → Prop}
  {α : Type} {Q : α → Turn → Prop} {e : AgentEvent}
variable {ending : Except LoopError Unit} {rest : List (Option LLMEvent)} {event : LLMEvent}
  {events : List (Option LLMEvent)} {stream : ProviderStream}

theorem emit_taken {f : Unit → Loop Turn α} :
    (emit e >>= f).Wp arriving Q R t ↔ (f ()).Wp arriving Q R (t.take e) := by
  simp [emit, arriving, Coroutine.answered, Turn.Takes]

theorem emit_last_taken {Q : Unit → Turn → Prop} : (emit e).Wp arriving Q R t ↔ Q () (t.take e) := by
  simp [emit, arriving, Coroutine.answered, Turn.Takes]

theorem wait_arrives {p : LoopPoint} (hp : ∀ e, p ≠ .yields e) {f : WakeUp → Loop Turn α} :
    (Coroutine.await p >>= f).Wp arriving Q R t ↔ (f .arrives).Wp arriving Q R t := by
  have htakes : ∀ t', Turn.Takes p t t' ↔ t' = t := by
    intro t'
    cases p with
    | yields e => exact absurd rfl (hp e)
    | _ => exact Iff.rfl
  simp [arriving, Coroutine.answered, htakes]

theorem mem_take {e' : AgentEvent} : e' ∈ (t.take e).yielded ↔ e' ∈ t.yielded ∨ e' = e := by
  simp [Turn.take]

theorem terminals_take : ((t.take e).yielded.map (·.type)).filter terminal =
    (t.yielded.map (·.type)).filter terminal ++ if terminal e.type then [e.type] else [] := by
  rw [Turn.take, List.map_append, List.filter_append]
  congr 1
  by_cases hterminal : terminal e.type = true <;> simp [hterminal]

theorem paused_take : Paused (t.take e).yielded ↔ Paused t.yielded ∨ e.type = .approvalRequired := by
  simp [Paused, Turn.take, or_and_right, exists_or]

theorem deltas_take : deltas (t.take e).yielded =
    deltas t.yielded ++ if e.type = .textDelta then [e.text] else [] := by
  unfold deltas Turn.take
  rw [List.filter_append, List.map_append]
  congr 1
  by_cases htype : e.type = .textDelta <;> simp [htype]

/-- An event that ends nothing is taken. -/
theorem Reading.take (h : Reading st t) (hterminal : terminal e.type = false) (happroval : e.type ≠ .approvalRequired) :
    Reading { st with textParts := st.textParts ++ if e.type = .textDelta then [e.text] else [] } (t.take e) := by
  constructor
  · exact h.running
  · rw [deltas_take, h.deltas]
  · intro e' he'
    rcases mem_take.mp he' with hbefore | rfl
    · exact h.unended e' hbefore
    · exact ⟨hterminal, happroval⟩

/-- An event that is no delta is taken. -/
theorem Reading.take_other (h : Reading st t) (hterminal : terminal e.type = false)
    (happroval : e.type ≠ .approvalRequired) (hdelta : e.type ≠ .textDelta) : Reading st (t.take e) := by
  simpa [hdelta] using h.take hterminal happroval

theorem Reading.take_delta (h : Reading st t) (text : Text) :
    Reading { st with textParts := st.textParts ++ [text] } (t.take (.delta turnId text)) := by
  simpa [AgentEvent.delta] using h.take (e := .delta turnId text) rfl nofun

/-- The local variables that are not read here may change. -/
theorem Reading.of_textParts (h : Reading st t) {st' : ReadState} (htext : st'.textParts = st.textParts) :
    Reading st' t :=
  ⟨h.running, h.deltas.trans htext.symm, h.unended⟩

theorem Reading.not_paused (h : Reading st t) : ¬Paused t.yielded := by
  rintro ⟨e, he, happroval⟩
  exact (h.unended e he).2 happroval

theorem Reading.terminals (h : Reading st t) : (t.yielded.map (·.type)).filter terminal = [] := by
  rw [List.filter_eq_nil_iff]
  intro type htype
  obtain ⟨e, he, rfl⟩ := List.mem_map.mp htype
  simp [(h.unended e he).1]

/-- A turn that reads is ended by one terminal event. -/
theorem Reading.endsIn (h : Reading st t) (hterminal : terminal e.type = true) : EndsIn e.type (t.take e).yielded := by
  rw [EndsIn, terminals_take, h.terminals, if_pos hterminal]
  rfl

theorem EndsIn.take {type : AgentEventType} (h : EndsIn type t.yielded) (hterminal : terminal e.type = false) :
    EndsIn type (t.take e).yielded := by
  rw [EndsIn, terminals_take, h, hterminal]
  rfl

/-- A turn that reads fails. -/
theorem Reading.fails (h : Reading st t) (code message : Text) :
    Ends .failed ((t.take (.failed turnId code message)).take (.stateChanged turnId .idle)).yielded := by
  constructor
  · exact EndsIn.take (h.endsIn (e := .failed turnId code message) rfl) rfl
  · simp [paused_take, h.not_paused, AgentEvent.failed, AgentEvent.stateChanged]

/-! ## One event -/

theorem readLoop_nil {Q : StreamState × Except LoopError LoopExit → Turn → Prop} :
    (loop.readLoop Turn.cancelled turnId ending [] st).Wp arriving Q R t ↔
      Q (.ended, ending.map fun _ => .finished st) t := by
  unfold readLoop
  rw [wait_arrives (p := .reading) nofun]
  simp

theorem readLoop_cons {event : Option LLMEvent}
    {Q : StreamState × Except LoopError LoopExit → Turn → Prop} :
    (loop.readLoop Turn.cancelled turnId ending (event :: rest) st).Wp arriving Q R t ↔
      (loop.handleEvent turnId event st).Wp arriving (fun r t' => match r with
        | .error e => Q (.suspended, .error e) t'
        | .ok (.inr ()) => Q (.suspended, .ok .returned) t'
        | .ok (.inl st) => (loop.readLoop Turn.cancelled turnId ending rest st).Wp arriving Q R t') R t := by
  rw [readLoop, wait_arrives (p := .reading) nofun]
  simp only [reduceCtorEq, if_false, false_and, wp_bind, wp_get]
  apply iff_of_eq
  congr 1
  funext r t'
  rcases r with e | st' | _ <;> rfl

/-- Nothing may follow the end of the answer. -/
theorem handleEvent_after_end (event : Option LLMEvent) (hst : st.terminalType ≠ none) :
    loop.handleEvent turnId event st = pure (.error invalidProviderStream) := by
  unfold handleEvent
  cases event with
  | none => rfl
  | some event => simp only [hst, ne_eq, not_false_eq_true, true_or, if_true]

/-- An executed call adds its result to the text. -/
theorem handleToolCall_executed {call : ToolCall} {result : ToolResult} (h : Reading st t)
    (hexecutes : loop.callOutcome turnId call = .executes result) :
    (loop.handleToolCall turnId call st).Wp arriving (fun r t' => ∃ st', r = .ok (.inl st') ∧ Reading st' t' ∧
      st'.terminalType = st.terminalType ∧ st'.toolExecuted = true) R t := by
  unfold callOutcome at hexecutes
  unfold handleToolCall
  cases htool : loop.registeredTool call.name with
  | none => simp [htool] at hexecutes
  | some tool =>
    cases hpolicy : loop.toolPolicy tool.spec call { turnId, sessionId := turnId, approved := true } with
    | error e => simp [htool, hpolicy] at hexecutes
    | ok decision =>
      cases houtcome : decision.outcome with
      | requireApproval => simp [htool, hpolicy, houtcome] at hexecutes
      | deny => simp [htool, hpolicy, houtcome] at hexecutes
      | allow =>
        cases hexecute : tool.execute call.arguments { turnId, sessionId := turnId, approved := true } with
        | error e => simp [htool, hpolicy, houtcome, hexecute] at hexecutes
        | ok result =>
          simp only [hpolicy, houtcome]
          rw [emit_taken]
          unfold executeTool
          rw [wait_arrives (p := .executing) nofun]
          simp only [hexecute, reduceCtorEq, if_false]
          rw [emit_taken, emit_taken]
          have hstarted := h.take_other (e := .toolStarted turnId call) rfl nofun nofun
          have hfinished := hstarted.take_other (e := .toolFinished turnId call result.content) rfl nofun nofun
          exact ⟨_, rfl, (hfinished.take_delta _).of_textParts rfl, rfl, rfl⟩

theorem handleToolCall_asks {call : ToolCall} {tool : Tool} {decision : PolicyDecision} (h : Reading st t)
    (htool : loop.registeredTool call.name = some tool)
    (hpolicy : loop.toolPolicy tool.spec call { turnId, sessionId := turnId, approved := true } = .ok decision)
    (houtcome : decision.outcome = .requireApproval) : (loop.handleToolCall turnId call st).Wp arriving
      (fun r t' => r = .ok (.inr ()) ∧ Ends .paused t'.yielded) R t := by
  unfold handleToolCall
  simp only [htool, hpolicy, houtcome]
  rw [emit_taken, emit_taken, emit_taken, emit_taken]
  have hstarted := h.take_other (e := .toolStarted turnId call) rfl nofun nofun
  refine ⟨rfl, ?_, ?_⟩
  · rw [EndsIn, terminals_take, terminals_take, terminals_take, hstarted.terminals]
    rfl
  · simp [paused_take, AgentEvent.approvalRequired]

/-- Any other call that is refused fails the turn. -/
theorem handleToolCall_fails {call : ToolCall} (h : Reading st t) (hrefused : loop.callOutcome turnId call = .refused)
    (hnot : ∀ tool ∈ loop.registeredTool call.name, ∀ decision,
      loop.toolPolicy tool.spec call { turnId, sessionId := turnId, approved := true } = .ok decision →
        decision.outcome ≠ .requireApproval) : (loop.handleToolCall turnId call st).Wp arriving
      (fun r t' => r = .ok (.inr ()) ∧ Ends .failed t'.yielded) R t := by
  unfold callOutcome at hrefused
  unfold handleToolCall
  cases htool : loop.registeredTool call.name with
  | none =>
    dsimp only
    rw [emit_taken, emit_taken, emit_taken]
    exact ⟨rfl, (h.take_other (e := .stateChanged turnId .error) rfl nofun nofun).fails _ _⟩
  | some tool =>
    cases hpolicy : loop.toolPolicy tool.spec call { turnId, sessionId := turnId, approved := true } with
    | error e => simp [htool, hpolicy] at hrefused
    | ok decision =>
      cases houtcome : decision.outcome with
      | requireApproval => exact absurd houtcome (hnot tool htool decision hpolicy)
      | deny =>
        simp only [hpolicy, houtcome]
        rw [emit_taken, emit_taken, emit_taken, emit_taken]
        have hstarted := h.take_other (e := .toolStarted turnId call) rfl nofun nofun
        exact ⟨rfl, (hstarted.take_other (e := .toolFinished turnId call (lit "Denied: " ++ decision.reason))
          rfl nofun nofun).fails _ _⟩
      | allow =>
        cases hexecute : tool.execute call.arguments { turnId, sessionId := turnId, approved := true } with
        | error e => simp [htool, hpolicy, houtcome, hexecute] at hrefused
        | ok result => simp [htool, hpolicy, houtcome, hexecute] at hrefused

/-- The loop reads on after an event that passes. -/
theorem handleEvent_passed (h : Reading st t) (hst : st.terminalType = none)
    (hpasses : loop.Passes turnId event) :
    (loop.handleEvent turnId (some event) st).Wp arriving (fun r t' => ∃ st', r = .ok (.inl st') ∧ Reading st' t' ∧
      st'.terminalType = none ∧
      (st'.toolExecuted = true ↔ st.toolExecuted = true ∨ ∃ result, loop.Calls turnId (.executes result) event)) R t := by
  rcases hpasses with ⟨hcontinuation, htype, htext⟩ | ⟨result, hcontinuation, htype, call, hcall, hexecutes⟩
  · have hnot : ¬∃ result, loop.Calls turnId (.executes result) event := by
      rintro ⟨result, -, htype', -⟩
      exact absurd (htype.symm.trans htype') nofun
    unfold handleEvent
    simp only [hst, hcontinuation, htype, htext, ne_eq, not_true_eq_false, false_and, if_false, hnot, or_false]
    cases hspeaking : st.speaking with
    | true =>
      simp only [Bool.not_true, Bool.false_eq_true, if_false]
      rw [emit_taken]
      exact ⟨_, rfl, (h.take_delta event.text).of_textParts rfl, rfl, Iff.rfl⟩
    | false =>
      simp only [Bool.not_false, if_true]
      rw [emit_taken, emit_taken]
      have hspeaks := h.take_other (e := .stateChanged turnId .speaking) rfl nofun nofun
      exact ⟨_, rfl, (hspeaks.take_delta event.text).of_textParts rfl, rfl, Iff.rfl⟩
  · rw [handleEvent_call hst hcontinuation htype hcall]
    refine (handleToolCall_executed h hexecutes).imp ?_
    rintro _ t' ⟨st', rfl, hreading, hterminal, hexecuted⟩
    refine ⟨st', rfl, hreading, hterminal.trans hst, ?_⟩
    simp only [hexecuted, true_iff]
    exact Or.inr ⟨result, hcontinuation, htype, call, hcall, hexecutes⟩

/-! ## The stream -/

/-- The loop reads past the events that pass. -/
theorem readLoop_passed {Q : StreamState × Except LoopError LoopExit → Turn → Prop}
    (rest : List (Option LLMEvent)) (passed : List LLMEvent) : ∀ {st : ReadState} {t : Turn}, Reading st t →
    st.terminalType = none → (∀ e ∈ passed, loop.Passes turnId e) →
    (∀ st' t', Reading st' t' → st'.terminalType = none →
      (st'.toolExecuted = true ↔ st.toolExecuted = true ∨ ∃ e ∈ passed, ∃ result, loop.Calls turnId (.executes result) e) →
      (loop.readLoop Turn.cancelled turnId ending rest st').Wp arriving Q R t') →
    (loop.readLoop Turn.cancelled turnId ending (passed.map some ++ rest) st).Wp arriving Q R t := by
  induction passed with
  | nil =>
    intro st t h hst _ hrest
    exact hrest st t h hst (by simp)
  | cons event passed ih =>
    intro st t h hst hpassed hrest
    obtain ⟨hpasses, hpassed⟩ := List.forall_mem_cons.mp hpassed
    rw [List.map_cons, List.cons_append, readLoop_cons]
    refine (handleEvent_passed h hst hpasses).imp ?_
    rintro _ t' ⟨st', rfl, hreading, hterminal, hexecuted⟩
    refine ih hreading hterminal hpassed fun st'' t'' hreading' hterminal' hexecuted' => ?_
    apply hrest st'' t'' hreading' hterminal'
    rw [hexecuted', hexecuted, List.exists_mem_cons_iff, or_assoc]

/-- A stream that goes on after the end of the answer fails the turn. -/
theorem readLoop_overruns (h : Reading st t) (hst : st.terminalType ≠ none)
    (event : Option LLMEvent) (rest : List (Option LLMEvent)) :
    (loop.readLoop Turn.cancelled turnId ending (event :: rest) st).Wp arriving
      (fun r t' => Exits .failed r.2 t') R t := by
  rw [readLoop_cons, handleEvent_after_end event hst]
  exact ⟨rfl, nofun, st, h⟩

theorem handleEvent_completed (hst : st.terminalType = none) (h : loop.Completes event) :
    loop.handleEvent turnId (some event) st =
      pure (.ok (.inl { st with terminalType := some .completed, completedContinuation := event.continuation })) := by
  have hsame : ¬∃ c ∈ event.continuation, c.providerName ≠ loop.providerName := by
    rintro ⟨c, hc, hother⟩
    exact hother (h.2 c hc)
  unfold handleEvent
  simp only [hst, h.1, hsame, ne_eq, not_true_eq_false, and_false, or_false, if_false]

theorem readLoop_completes (h : Reading st t) (hst : st.terminalType = none)
    (hcompletes : loop.Completes event) :
    (loop.readLoop Turn.cancelled turnId (.ok ()) [some event] st).Wp arriving
      (fun r t' => Exits .completed r.2 t') R t := by
  rw [readLoop_cons, handleEvent_completed hst hcompletes]
  exact wp_pure.mpr (readLoop_nil.mpr ⟨h.of_textParts rfl, Or.inl rfl⟩)

theorem readLoop_asks
    (h : Reading st t) (hst : st.terminalType = none) (hasks : loop.AsksApproval turnId event) :
    (loop.readLoop Turn.cancelled turnId ending (some event :: rest) st).Wp arriving
      (fun r t' => Exits .paused r.2 t') R t := by
  obtain ⟨hcontinuation, htype, call, hcall, tool, htool, decision, hpolicy, houtcome⟩ := hasks
  rw [readLoop_cons, handleEvent_call hst hcontinuation htype hcall]
  refine (handleToolCall_asks h htool hpolicy houtcome).imp ?_
  rintro _ t' ⟨rfl, hends⟩
  exact hends

/-- The loop comes to the end of the stream, or to an event that does not pass: it fails unless the answer is complete
or asks for an approval. -/
theorem readLoop_stops (h : Reading st t) (hst : st.terminalType = none) (rest : List (Option LLMEvent))
    (hnot : ∀ event, rest.head? = some (some event) → ¬loop.Passes turnId event ∧ ¬loop.AsksApproval turnId event ∧
      (∀ e, ¬loop.Calls turnId (.raises e) event) ∧ (loop.Completes event → rest.length ≠ 1))
    (hend : rest = [] → st.toolExecuted = false) :
    (loop.readLoop Turn.cancelled turnId (.ok ()) rest st).Wp arriving (fun r t' => Exits .failed r.2 t') R t := by
  cases rest with
  | nil => exact readLoop_nil.mpr ⟨h, Or.inr ⟨hst, hend rfl⟩⟩
  | cons event rest =>
    rw [readLoop_cons]
    have hinvalid : Exits .failed (.error invalidProviderStream) t := ⟨rfl, nofun, st, h⟩
    cases event with
    | none => exact hinvalid
    | some event =>
      obtain ⟨hpasses, hasks, hraises, hcompletes⟩ := hnot event rfl
      refine wp_ite.mpr ⟨fun _ => hinvalid, fun hgood => ?_⟩
      obtain ⟨-, hcontinuation⟩ := not_or.mp hgood
      have hcontinuation : event.type ≠ .completed → event.continuation = none := by
        intro htype
        by_contra hc
        exact hcontinuation ⟨hc, htype⟩
      cases htype : event.type with
      | textDelta =>
        refine wp_ite.mpr ⟨fun _ => hinvalid, fun htext => ?_⟩
        exact absurd (Or.inl ⟨hcontinuation (by simp [htype]), htype, htext⟩) hpasses
      | toolCall =>
        have hnone := hcontinuation (by simp [htype])
        cases hcall : event.toolCall with
        | none => exact hinvalid
        | some call =>
          have hrefused : loop.callOutcome turnId call = .refused := by
            cases houtcome : loop.callOutcome turnId call with
            | executes result => exact absurd (Or.inr ⟨result, hnone, htype, call, hcall, houtcome⟩) hpasses
            | raises e => exact absurd ⟨hnone, htype, call, hcall, houtcome⟩ (hraises e)
            | refused => rfl
          refine (handleToolCall_fails h hrefused fun tool htool decision hpolicy houtcome => ?_).imp ?_
          · exact hasks ⟨hnone, htype, call, hcall, tool, htool, decision, hpolicy, houtcome⟩
          · rintro _ t' ⟨rfl, hends⟩
            exact hends
      | error =>
        refine wp_ite.mpr ⟨fun _ => hinvalid, fun _ => wp_pure.mpr ?_⟩
        cases rest with
        | nil => exact readLoop_nil.mpr ⟨h.of_textParts rfl, Or.inl rfl⟩
        | cons event' rest =>
          refine readLoop_overruns ?_ ?_ event' rest
          · exact h.of_textParts rfl
          · exact Option.some_ne_none _
      | completed =>
        refine wp_ite.mpr ⟨fun _ => ⟨rfl, nofun, st, h⟩, fun hsame => wp_pure.mpr ?_⟩
        cases rest with
        | nil =>
          apply absurd rfl (hcompletes ⟨htype, fun c hc => ?_⟩)
          by_contra hother
          exact hsame ⟨c, hc, hother⟩
        | cons event' rest =>
          refine readLoop_overruns ?_ ?_ event' rest
          · exact h.of_textParts rfl
          · exact Option.some_ne_none _

/-! ## The turn -/

/-- Every stream begins with events that pass, up to its end or to one that does not. -/
theorem exists_passed (loop : AgentLoop Turn) (turnId : Text) (events : List (Option LLMEvent)) :
    ∃ (passed : List LLMEvent) (rest : List (Option LLMEvent)), events = passed.map some ++ rest ∧
      (∀ e ∈ passed, loop.Passes turnId e) ∧ ∀ event, rest.head? = some (some event) → ¬loop.Passes turnId event := by
  induction events with
  | nil => exact ⟨[], [], rfl, nofun, nofun⟩
  | cons event events ih =>
    cases event with
    | none => exact ⟨[], none :: events, rfl, nofun, nofun⟩
    | some event =>
      by_cases hpasses : loop.Passes turnId event
      · obtain ⟨passed, rest, rfl, hpassed, hrest⟩ := ih
        exact ⟨event :: passed, rest, rfl, List.forall_mem_cons.mpr ⟨hpasses, hpassed⟩, hrest⟩
      · refine ⟨[], some event :: events, rfl, nofun, ?_⟩
        rintro _ ⟨⟩
        exact hpasses

theorem reaches_passed {outcome : CallOutcome} {passed : List LLMEvent}
    (hpassed : ∀ e ∈ passed, loop.Passes turnId e) (hcalls : loop.Calls turnId outcome event) :
    loop.Reaches turnId outcome (passed.map some ++ some event :: rest) := by
  induction passed with
  | nil => exact Or.inl hcalls
  | cons e passed ih =>
    obtain ⟨hpasses, hpassed⟩ := List.forall_mem_cons.mp hpassed
    exact Or.inr ⟨hpasses, ih hpassed⟩

theorem readLoop_answered (h : Reading {} t) (hanswered : loop.Answered turnId events) :
    (loop.readLoop Turn.cancelled turnId (.ok ()) events {}).Wp arriving (fun r t' => Exits .completed r.2 t') R t := by
  obtain ⟨passed, hpassed, ⟨event, hcompletes, rfl⟩ | ⟨rfl, hexecuted⟩⟩ := hanswered
  · exact readLoop_passed [some event] passed h rfl hpassed fun st' t' hreading hterminal _ =>
      readLoop_completes hreading hterminal hcompletes
  · rw [← List.append_nil (passed.map some)]
    refine readLoop_passed [] passed h rfl hpassed fun st' t' hreading hterminal hexecuted' => readLoop_nil.mpr ?_
    exact ⟨hreading, Or.inr ⟨hterminal, hexecuted'.mpr (Or.inr hexecuted)⟩⟩

theorem readLoop_approval (h : Reading {} t) (happroval : loop.ComesToApproval turnId events) :
    (loop.readLoop Turn.cancelled turnId (.ok ()) events {}).Wp arriving (fun r t' => Exits .paused r.2 t') R t := by
  obtain ⟨passed, hpassed, event, rest, hasks, rfl⟩ := happroval
  exact readLoop_passed (some event :: rest) passed h rfl hpassed fun st' t' hreading hterminal _ =>
    readLoop_asks hreading hterminal hasks

theorem readLoop_failed (h : Reading {} t)
    (hanswered : ¬loop.Answered turnId events) (happroval : ¬loop.ComesToApproval turnId events)
    (hraises : ∀ e, ¬loop.Reaches turnId (.raises e) events) :
    (loop.readLoop Turn.cancelled turnId (.ok ()) events {}).Wp arriving (fun r t' => Exits .failed r.2 t') R t := by
  obtain ⟨passed, rest, rfl, hpassed, hrest⟩ := exists_passed loop turnId events
  refine readLoop_passed rest passed h rfl hpassed fun st' t' hreading hterminal hexecuted => ?_
  apply readLoop_stops hreading hterminal
  · intro event hhead
    obtain ⟨rest, rfl⟩ := List.head?_eq_some_iff.mp hhead
    refine ⟨hrest event hhead, ?_, ?_, ?_⟩
    · exact fun hasks => happroval ⟨passed, hpassed, event, rest, hasks, rfl⟩
    · exact fun e hcalls => hraises e (reaches_passed hpassed hcalls)
    · intro hcompletes hlength
      obtain rfl : rest = [] := by simpa using hlength
      exact hanswered ⟨passed, hpassed, Or.inl ⟨event, hcompletes, rfl⟩⟩
  · rintro rfl
    by_contra htrue
    rcases hexecuted.mp (by simpa using htrue) with hnone | hexecuted
    · cases hnone
    · exact hanswered ⟨passed, hpassed, Or.inr ⟨List.append_nil _, hexecuted⟩⟩

theorem readStream_wp_of (hclose : ∀ left, stream.close left = .ok ())
    {Q : Except LoopError LoopExit → Turn → Prop}
    (hreads : (loop.readLoop Turn.cancelled turnId stream.ending stream.events {}).Wp arriving
      (fun r t' => Q r.2 t') R t) :
    (loop.readStream Turn.cancelled turnId fun _ => stream).Wp arriving Q R t := by
  unfold readStream
  rw [wait_arrives (p := .starting) nofun]
  refine wp_bind.mpr (wp_get.mpr (wp_bind.mpr (hreads.imp ?_)))
  rintro ⟨left, result⟩ t' hQ
  dsimp only
  rw [wait_arrives (p := .closing) nofun, hclose left]
  exact hQ

/-- A turn that has read its stream to the end concludes as it should. -/
theorem conclude_exits {ending : Ending} (h : Exits ending (.ok (.finished st)) t) :
    (conclude Turn.cancelled turnId st).Wp arriving (fun r t' => match r with
      | .error e => ending = .failed ∧ e ≠ .cancelled ∧ ∃ st, Reading st t'
      | .ok () => Ends ending t'.yielded) R t := by
  obtain ⟨hreading, hend⟩ := h
  refine wp_bind.mpr (wp_get.mpr ?_)
  simp only [hreading.running, Bool.false_eq_true, if_false]
  cases ending with
  | completed =>
    have hterminal : (if st.terminalType = none ∧ st.toolExecuted = true then some .completed else st.terminalType) =
        some LLMEventType.completed := by
      rcases hend with hcompleted | ⟨hnone, hexecuted⟩
      · simp [hcompleted]
      · simp [hnone, hexecuted]
    rw [hterminal]
    dsimp only
    rw [emit_taken, emit_taken]
    have hidle := hreading.take_other (e := .stateChanged turnId .idle) rfl nofun nofun
    refine ⟨hidle.endsIn (e := .completed turnId _ _) rfl, ?_, ?_⟩
    · simp [paused_take, hidle.not_paused, AgentEvent.completed]
    · refine ⟨_, mem_take.mpr (Or.inr rfl), rfl, ?_⟩
      rw [deltas_take, hidle.deltas]
      simp [AgentEvent.completed]
  | paused => exact hend.elim
  | failed =>
    have hterminal : (if st.terminalType = none ∧ st.toolExecuted = true then some .completed else st.terminalType) =
        some LLMEventType.error ∨ (if st.terminalType = none ∧ st.toolExecuted = true then some .completed
          else st.terminalType) = none := by
      rcases hend with herror | ⟨hnone, hexecuted⟩
      · simp [herror]
      · simp [hnone, hexecuted]
    rcases hterminal with hterminal | hterminal
    · rw [hterminal]
      cases st.providerFailure with
      | none => exact ⟨rfl, nofun, st, hreading⟩
      | some failure => exact ⟨rfl, nofun, st, hreading⟩
    · rw [hterminal]
      exact ⟨rfl, nofun, st, hreading⟩

theorem attemptTurn_exits {command : UserMessageCommand} {input : RunInput} {ending : Ending}
    (hopens : loop.openStream command input = .ok fun _ => stream) (hclose : ∀ left, stream.close left = .ok ())
    (hreads : ∀ t, Reading {} t →
      (loop.readLoop Turn.cancelled command.turnId stream.ending stream.events {}).Wp arriving
        (fun r t' => Exits ending r.2 t') R t) (h : Reading {} t) :
    (loop.attemptTurn Turn.cancelled command input).Wp arriving (fun r t' => match r with
      | .error e => ending = .failed ∧ e ≠ .cancelled ∧ ∃ st, Reading st t'
      | .ok () => Ends ending t'.yielded) R t := by
  unfold attemptTurn
  refine wp_bind.mpr (wp_get.mpr ?_)
  simp only [h.running, Bool.false_eq_true, if_false]
  cases hrequest : loop.prepareRequest command input with
  | error e => simp [openStream, hrequest, bind, Except.bind] at hopens
  | ok request =>
    have hgenerate : loop.generateStream request = .ok fun _ => stream := by
      simpa [openStream, hrequest, bind, Except.bind] using hopens
    dsimp only
    rw [emit_taken, hgenerate]
    have hthinking := h.take_other (e := .stateChanged command.turnId .thinking) rfl (fun hother => by cases hother)
      fun hother => by cases hother
    refine wp_bind.mpr ((readStream_wp_of hclose (hreads _ hthinking)).imp ?_)
    rintro (e | st | _ | _) t' hexits
    · exact hexits
    · exact conclude_exits hexits
    · exact hexits.elim
    · exact hexits

theorem run_ends {command : UserMessageCommand} {input : RunInput} {ending : Ending}
    (hopens : loop.openStream command input = .ok fun _ => stream) (hclose : ∀ left, stream.close left = .ok ())
    (hreads : ∀ t, Reading {} t →
      (loop.readLoop Turn.cancelled command.turnId stream.ending stream.events {}).Wp arriving
        (fun r t' => Exits ending r.2 t') R t) :
    (loop.run Turn.cancelled command input).Wp arriving (fun _ t => Ends ending t.yielded) R { cancelled := false } := by
  have hfresh : Reading {} { cancelled := false } := ⟨rfl, rfl, nofun⟩
  have hstarted := hfresh.take_other (e := .started command.turnId) rfl nofun nofun
  have hlistening := hstarted.take_other (e := .stateChanged command.turnId .listening) rfl nofun nofun
  unfold run
  rw [emit_taken, emit_taken]
  refine wp_bind.mpr ((attemptTurn_exits hopens hclose hreads hlistening).imp ?_)
  rintro (e | _) t hends
  · obtain ⟨rfl, he, st, hreading⟩ := hends
    have hreport : (do
        emit (.stateChanged command.turnId .error)
        emit (.failed command.turnId (loop.report e).1 (loop.report e).2)
        emit (.stateChanged command.turnId .idle) : Loop Turn Unit).Wp arriving
        (fun _ t => Ends .failed t.yielded) R t := by
      rw [emit_taken, emit_taken, emit_last_taken]
      exact (hreading.take_other (e := .stateChanged command.turnId .error) rfl nofun nofun).fails _ _
    cases e with
    | cancelled => exact absurd rfl he
    | timeout => exact hreport
    | contextBudget message => exact hreport
    | provider code message => exact hreport
    | other => exact hreport
  · exact hends

end

/-- How a turn ends that has read this stream. -/
structure Concludes (loop : AgentLoop Turn) (turnId : Text) (stream : ProviderStream) (yielded : List AgentEvent) :
    Prop where
  completes : EndsIn .turnCompleted yielded ∧ ¬Paused yielded ↔ loop.Answered turnId stream.events
  pauses : EndsIn .turnCompleted yielded ∧ Paused yielded ↔ loop.ComesToApproval turnId stream.events
  fails : EndsIn .turnFailed yielded ↔
    ¬loop.Answered turnId stream.events ∧ ¬loop.ComesToApproval turnId stream.events
  text : loop.Answered turnId stream.events →
    ∃ e ∈ yielded, e.type = .turnCompleted ∧ e.text = (ArkClaw.Agent.deltas yielded).flatten

/-- An uninterrupted run whose provider, tools and policy raise nothing and whose stream can be closed completes with
the text of its deltas exactly if the stream is an answer, pauses exactly if it comes to a call that requires
approval, and fails exactly if it is neither. -/
theorem run_concludes (loop : AgentLoop Turn) (generate : LLMRequest → Except LoopError ProviderStream)
    (command : UserMessageCommand) (input : RunInput) {stream : ProviderStream} {trace : List (LoopPoint × WakeUp)}
    {r : Except LoopError Unit} {t : Turn} (hstream : loop.providerStream generate command input = .ok stream)
    (hending : stream.ending = .ok ()) (hclose : ∀ left, stream.close left = .ok ())
    (hraises : ∀ e, ¬loop.Reaches command.turnId (.raises e) stream.events)
    (hrun : Coroutine.Traces Turn.Takes ((loop.serving generate).run Turn.cancelled command input)
      { cancelled := false } trace r t) (harrives : ∀ step ∈ trace, step.2 = .arrives) :
    r = .ok () ∧ loop.Concludes command.turnId stream t.yielded := by
  have hopens : (loop.serving generate).openStream command input = .ok fun _ => stream := by
    rw [openStream_serving, hstream]
    rfl
  have hends : ∀ ending, (∀ t, Reading {} t →
      ((loop.serving generate).readLoop Turn.cancelled command.turnId stream.ending stream.events {}).Wp arriving
        (fun r t' => Exits ending r.2 t') (fun _ _ => False) t) → r = .ok () ∧ Ends ending t.yielded := by
    intro ending hreads
    apply hrun.answered (P := fun r t => r = .ok () ∧ Ends ending t.yielded) (fun _ answer => answer = .arrives) harrives
    exact (run_ends hopens hclose hreads).mono (fun _ _ h => ⟨rfl, h⟩) fun _ _ => False.elim
  rw [hending] at hends
  by_cases hanswered : loop.Answered command.turnId stream.events
  · obtain ⟨hr, hcompleted, hpaused, htext⟩ := hends .completed fun t ht => readLoop_answered ht hanswered
    refine ⟨hr, ⟨fun _ => hanswered, fun _ => ⟨hcompleted, hpaused⟩⟩, ⟨fun h => absurd h.2 hpaused, fun h => ?_⟩,
      ⟨fun h => absurd (h.unique hcompleted) nofun, fun h => absurd hanswered h.1⟩, fun _ => htext⟩
    exact absurd (hends .paused fun t ht => readLoop_approval ht h).2.2 hpaused
  by_cases happroval : loop.ComesToApproval command.turnId stream.events
  · obtain ⟨hr, hcompleted, hpaused⟩ := hends .paused fun t ht => readLoop_approval ht happroval
    exact ⟨hr, ⟨fun h => absurd hpaused h.2, fun h => absurd h hanswered⟩,
      ⟨fun _ => happroval, fun _ => ⟨hcompleted, hpaused⟩⟩,
      ⟨fun h => absurd (h.unique hcompleted) nofun, fun h => absurd happroval h.2⟩, fun h => absurd h hanswered⟩
  · have hraises' : ∀ e, ¬(loop.serving generate).Reaches command.turnId (.raises e) stream.events :=
      fun e hreaches => hraises e ((loop.reaches_serving generate _ _ _).mp hreaches)
    obtain ⟨hr, hfailed, hpaused⟩ := hends .failed fun t ht => readLoop_failed ht hanswered happroval hraises'
    exact ⟨hr, ⟨fun h => absurd (h.1.unique hfailed) nofun, fun h => absurd h hanswered⟩,
      ⟨fun h => absurd h.2 hpaused, fun h => absurd h happroval⟩,
      ⟨fun _ => ⟨hanswered, happroval⟩, fun _ => hfailed⟩, fun h => absurd h hanswered⟩

/-- The provider that answers is heard to the end. -/
theorem run_concludes_answering : ∃ trace t, Coroutine.Traces Turn.Takes
      ((toolless.serving fun _ => .ok answering).run Turn.cancelled hello {}) { cancelled := false } trace (.ok ()) t ∧
    EndsIn .turnCompleted t.yielded ∧ ¬Paused t.yielded := by
  obtain ⟨trace, r, t, htrace, harrives⟩ := Coroutine.exists_traces Turn.Takes (fun _ answer => answer = .arrives)
    (fun p t => ⟨_, rfl⟩) (fun _ => ⟨_, rfl⟩)
    ((toolless.serving fun _ => .ok answering).run Turn.cancelled hello {}) { cancelled := false }
  obtain ⟨rfl, hconcludes⟩ := run_concludes toolless (fun _ => .ok answering) hello {}
    (toolless_providerStream answering) rfl (fun _ => rfl) nofun htrace harrives
  have hanswered : toolless.Answered hello.turnId answering.events :=
    ⟨[.textDelta (lit "Hi")], List.forall_mem_singleton.mpr (Or.inl ⟨rfl, rfl, by decide⟩),
      Or.inl ⟨.completed, ⟨rfl, nofun⟩, rfl⟩⟩
  exact ⟨trace, t, htrace, hconcludes.completes.mpr hanswered⟩

end AgentLoop

end ArkClaw.Agent
