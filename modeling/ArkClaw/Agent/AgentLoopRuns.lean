import ArkClaw.Agent.AgentLoopLaws

/-!
# A consumed run of the agent loop

A consumer takes every event until the run ends. The turn may be cancelled while it is suspended, and its time may
be up there. The run starts with its start event, yields one terminal event and leaves the agent idle, exactly if
its stream is orderly: a tool call in which the turn ends finds a stream that can be closed.
-/

namespace ArkClaw.Agent

open ArkClaw.Library hiding wp_bind wp_get wp_ite wp_pure
open ArkClaw.Domain
open Coroutine (wp_bind wp_get wp_iff_ends wp_ite wp_pure wp_raise)

/-- The stream copes with the tool calls it comes to. -/
def ProviderStream.Orderly {σ : Type} (loop : AgentLoop σ) (turnId : Text) (stream : ProviderStream) : Prop :=
  stream.Clean loop turnId ∧ stream.ToolsQuiet loop turnId

namespace AgentLoop

/-! ## A turn that nothing interrupts -/

section

variable {σ : Type} {loop : AgentLoop σ} {isCancelled : σ → Bool} {turnId : Text}
  {I : Coroutine.Interpretation LoopPoint WakeUp σ LoopError} {P : Phase → σ → Prop} {R : LoopError → σ → Prop} {s : σ}
variable {phase : Phase} {stream : ProviderStream}

/-- A consumer with a turn that may go uninterrupted. -/
structure Uninterrupted (isCancelled : σ → Bool) (I : Coroutine.Interpretation LoopPoint WakeUp σ LoopError)
    (P : Phase → σ → Prop) (R : LoopError → σ → Prop) : Prop where
  yields : ∀ {phase phase' : Phase} {e : AgentEvent} {s : σ} {Q : WakeUp → σ → Prop}, phase.next e = some phase' →
    P phase s → (∀ w s', P phase' s' → Q w s') → I.wp (.yields e) Q R s
  arrives : ∀ {phase : Phase} {p : LoopPoint} {s : σ} {Q : WakeUp → σ → Prop}, (∀ e, p ≠ .yields e) →
    P phase s → (∀ s', P phase s' → Q .arrives s') → I.wp p Q R s
  running : ∀ {phase : Phase} {s : σ}, P phase s → isCancelled s = false

theorem Uninterrupted.emit_then {α : Type} (h : Uninterrupted isCancelled I P R) (phase' : Phase)
    {e : AgentEvent} {f : Unit → Loop σ α} {Q : α → σ → Prop} (hnext : phase.next e = some phase') (hs : P phase s)
    (hf : ∀ s', P phase' s' → (f ()).Wp I Q R s') : (emit e >>= f).Wp I Q R s :=
  wp_bind.mpr (wp_bind.mpr (h.yields hnext hs fun _ s' hs' => hf s' hs'))

theorem Uninterrupted.wait_then {α : Type} (h : Uninterrupted isCancelled I P R) {p : LoopPoint}
    {f : WakeUp → Loop σ α} {Q : α → σ → Prop} (hp : ∀ e, p ≠ .yields e) (hs : P phase s)
    (hf : ∀ s', P phase s' → (f .arrives).Wp I Q R s') : (Coroutine.await p >>= f).Wp I Q R s :=
  wp_bind.mpr (h.arrives hp hs hf)

/-- How a tool call of this outcome is handled: one that is not executed ends the turn. -/
def CallEnds (P : Phase → σ → Prop) (st : ReadState) : CallOutcome → Except LoopError (ReadState ⊕ Unit) → σ → Prop
  | .refused, r, s' => r = .ok (.inr ()) ∧ P .finished s'
  | .raises e, r, s' => r = .error e ∧ P .running s'
  | .executes _, r, s' => ∃ st', r = .ok (.inl st') ∧ st'.terminalType = st.terminalType ∧ P .running s'

theorem handleToolCall_ends (h : Uninterrupted isCancelled I P R) {call : ToolCall} {outcome : CallOutcome}
    (st : ReadState) (houtcome : loop.callOutcome turnId call = outcome) (hs : P .running s) :
    (loop.handleToolCall turnId call st).Wp I (CallEnds P st outcome) R s := by
  subst houtcome
  unfold handleToolCall callOutcome
  cases loop.registeredTool call.name with
  | none =>
    apply h.emit_then .running rfl hs
    intro s₁ hs₁
    apply h.emit_then .ended rfl hs₁
    intro s₂ hs₂
    apply h.emit_then .finished rfl hs₂
    intro s₃ hs₃
    exact wp_pure.mpr ⟨rfl, hs₃⟩
  | some tool =>
    dsimp only
    cases loop.toolPolicy tool.spec call { turnId, sessionId := turnId, approved := true } with
    | error e => exact wp_pure.mpr ⟨rfl, hs⟩
    | ok decision =>
      apply h.emit_then .running rfl hs
      intro s₁ hs₁
      dsimp only
      cases decision.outcome with
      | allow =>
        refine h.wait_then (by simp) hs₁ fun s₂ hs₂ => ?_
        apply wp_ite.mpr ⟨fun htrue => (by cases htrue), fun _ => ?_⟩
        dsimp only
        cases tool.execute call.arguments { turnId, sessionId := turnId, approved := true } with
        | error e => exact wp_pure.mpr ⟨rfl, hs₂⟩
        | ok result =>
          apply h.emit_then .running rfl hs₂
          intro s₃ hs₃
          apply h.emit_then .running rfl hs₃
          intro s₄ hs₄
          exact wp_pure.mpr ⟨_, rfl, rfl, hs₄⟩
      | requireApproval =>
        apply h.emit_then .running rfl hs₁
        intro s₂ hs₂
        apply h.emit_then .ended rfl hs₂
        intro s₃ hs₃
        apply h.emit_then .finished rfl hs₃
        intro s₄ hs₄
        exact wp_pure.mpr ⟨rfl, hs₄⟩
      | deny =>
        apply h.emit_then .running rfl hs₁
        intro s₂ hs₂
        apply h.emit_then .ended rfl hs₂
        intro s₃ hs₃
        apply h.emit_then .finished rfl hs₃
        intro s₄ hs₄
        exact wp_pure.mpr ⟨rfl, hs₄⟩

/-- A tool call before the end of the answer is handled as one. -/
theorem handleEvent_call {event : LLMEvent} {call : ToolCall} {st : ReadState} (hst : st.terminalType = none)
    (hcontinuation : event.continuation = none) (htype : event.type = .toolCall) (hcall : call ∈ event.toolCall) :
    loop.handleEvent turnId (some event) st = loop.handleToolCall turnId call st := by
  have hcall : event.toolCall = some call := hcall
  simp [handleEvent, hst, hcontinuation, htype, hcall]

theorem handleEvent_passes (h : Uninterrupted isCancelled I P R) {event : LLMEvent} {st : ReadState}
    (hst : st.terminalType = none) (hpasses : loop.Passes turnId event) (hs : P .running s) :
    (loop.handleEvent turnId (some event) st).Wp I
      (fun r s' => ∃ st', r = .ok (.inl st') ∧ st'.terminalType = none ∧ P .running s') R s := by
  rcases hpasses with ⟨hcontinuation, htype, htext⟩ | ⟨result, hcontinuation, htype, call, hcall, hexecutes⟩
  · simp only [handleEvent, hst, hcontinuation, htype, htext, ne_eq, not_true_eq_false, false_and, or_self, ↓reduceIte]
    by_cases hspeaking : st.speaking = true
    · simp only [hspeaking, Bool.not_true, Bool.false_eq_true, ↓reduceIte]
      apply h.emit_then .running rfl hs
      intro s₁ hs₁
      exact wp_pure.mpr ⟨_, rfl, rfl, hs₁⟩
    · simp only [hspeaking, Bool.not_false, ↓reduceIte]
      apply h.emit_then .running rfl hs
      intro s₁ hs₁
      apply h.emit_then .running rfl hs₁
      intro s₂ hs₂
      exact wp_pure.mpr ⟨_, rfl, rfl, hs₂⟩
  · rw [handleEvent_call hst hcontinuation htype hcall]
    refine (handleToolCall_ends h st hexecutes hs).imp (fun r s' hends => ?_)
    rwa [CallEnds, hst] at hends

/-- The loop gets to a tool call that stops it, and is left there. -/
theorem readLoop_reaches (h : Uninterrupted isCancelled I P R) {outcome : CallOutcome}
    (stops : Except LoopError Unit)
    (hstops : ∀ {call : ToolCall} (st : ReadState) {s : σ}, loop.callOutcome turnId call = outcome → P .running s →
      (loop.handleToolCall turnId call st).Wp I (fun r s' => r = stops.map .inr ∧ P phase s') R s)
    (ending : Except LoopError Unit) (events : List (Option LLMEvent)) :
    ∀ {st : ReadState} {s : σ}, st.terminalType = none → loop.Reaches turnId outcome events → P .running s →
      (loop.readLoop isCancelled turnId ending events st).Wp I
        (fun r s' => r = (.suspended, stops.map fun _ => .returned) ∧ P phase s') R s := by
  induction events with
  | nil =>
    intro st s _ hreaches
    exact hreaches.elim
  | cons event rest ih =>
    intro st s hst hreaches hs
    cases event with
    | none => exact hreaches.elim
    | some event =>
      refine h.wait_then (by simp) hs fun s₁ hs₁ => ?_
      apply wp_ite.mpr ⟨nofun, fun _ => ?_⟩
      apply wp_bind.mpr
      apply wp_get.mpr
      apply wp_ite.mpr ⟨?_, fun _ => ?_⟩
      · intro hcancelled
        simp at hcancelled
      apply wp_bind.mpr
      rcases hreaches with ⟨hcontinuation, htype, call, hcall, hcalls⟩ | ⟨hpasses, hrest⟩
      · rw [handleEvent_call hst hcontinuation htype hcall]
        refine (hstops st hcalls hs₁).imp ?_
        rintro r s₂ ⟨rfl, hs₂⟩
        cases stops with
        | error e => exact wp_pure.mpr ⟨rfl, hs₂⟩
        | ok _ => exact wp_pure.mpr ⟨rfl, hs₂⟩
      · refine (handleEvent_passes h hst hpasses hs₁).imp ?_
        rintro r s₂ ⟨st', rfl, hst', hs₂⟩
        exact ih hst' hrest hs₂

/-- A turn that gets to a tool call that stops it ends with what closing its stream makes of it. -/
theorem attemptTurn_reaches (h : Uninterrupted isCancelled I P R) {command : UserMessageCommand} {input : RunInput}
    {outcome : CallOutcome} (stops : Except LoopError Unit) {e : LoopError}
    (hstops : ∀ {call : ToolCall} (st : ReadState) {s : σ}, loop.callOutcome command.turnId call = outcome →
      P .running s → (loop.handleToolCall command.turnId call st).Wp I (fun r s' => r = stops.map .inr ∧ P phase s') R s)
    (hopens : loop.openStream command input = .ok fun _ => stream)
    (hreaches : loop.Reaches command.turnId outcome stream.events)
    (hclose : (stream.close .suspended >>= fun _ => stops) = .error e) (hs : P .running s) :
    (loop.attemptTurn isCancelled command input).Wp I (fun r s' => r = .error e ∧ P phase s') R s := by
  unfold openStream at hopens
  unfold attemptTurn
  apply wp_bind.mpr
  apply wp_get.mpr
  apply wp_ite.mpr ⟨?_, fun _ => ?_⟩
  · intro hcancelled
    simp [h.running hs] at hcancelled
  cases hrequest : loop.prepareRequest command input with
  | error e => simp [hrequest, bind, Except.bind] at hopens
  | ok request =>
    have hopens : loop.generateStream request = .ok fun _ => stream := by
      simpa [hrequest, bind, Except.bind] using hopens
    apply h.emit_then .running rfl hs
    intro s₁ hs₁
    simp only [hopens]
    apply wp_bind.mpr
    refine h.wait_then (by simp) hs₁ fun s₂ hs₂ => ?_
    apply wp_bind.mpr
    apply wp_get.mpr
    apply wp_bind.mpr
    refine (readLoop_reaches h stops hstops _ _ rfl hreaches hs₂).imp ?_
    rintro r s₃ ⟨rfl, hs₃⟩
    refine h.wait_then (by simp) hs₃ fun s₄ hs₄ => ?_
    cases hcloses : stream.close .suspended with
    | error e' =>
      simp only [hcloses, bind, Except.bind, Except.error.injEq] at hclose
      exact wp_pure.mpr ⟨by rw [hclose], hs₄⟩
    | ok _ =>
      simp only [hcloses, bind, Except.bind] at hclose
      subst hclose
      exact wp_pure.mpr ⟨rfl, hs₄⟩

/-- The turn has ended in a tool call, closing the stream raises, and the turn fails once more. -/
theorem run_relapses (h : Uninterrupted isCancelled I P R) {command : UserMessageCommand} {input : RunInput}
    {e : LoopError} (hopens : loop.openStream command input = .ok fun _ => stream)
    (hreaches : loop.Reaches command.turnId .refused stream.events) (hclose : stream.close .suspended = .error e)
    (he : e ≠ .cancelled) (hs : P .fresh s) :
    (loop.run isCancelled command input).Wp I (fun _ s' => P .finishedTwice s') R s := by
  apply h.emit_then .running rfl hs
  intro s₁ hs₁
  apply h.emit_then .running rfl hs₁
  intro s₂ hs₂
  apply wp_bind.mpr
  have hattempt : (loop.attemptTurn isCancelled command input).Wp I (fun r s' => r = .error e ∧ P .finished s') R s₂ := by
    apply attemptTurn_reaches h (.ok ()) _ hopens hreaches
    · simp [hclose, bind, Except.bind]
    · exact hs₂
    · intro call st s hrefused hs
      exact handleToolCall_ends h st hrefused hs
  refine hattempt.imp ?_
  rintro r s₃ ⟨rfl, hs₃⟩
  have hreport : (do
      emit (.stateChanged command.turnId .error)
      emit (.failed command.turnId (loop.report e).1 (loop.report e).2)
      emit (.stateChanged command.turnId .idle) : Loop σ Unit).Wp I (fun _ s' => P .finishedTwice s') R s₃ := by
    apply h.emit_then .relapsed rfl hs₃
    intro s₄ hs₄
    apply h.emit_then .endedTwice rfl hs₄
    intro s₅ hs₅
    exact wp_bind.mpr
      (h.yields (show Phase.next .endedTwice _ = some .finishedTwice from rfl) hs₅ fun _ s₆ hs₆ => hs₆)
  cases e with
  | cancelled => exact (he rfl).elim
  | timeout => exact hreport
  | contextBudget message => exact hreport
  | provider code message => exact hreport
  | other => exact hreport

/-- A `CancelledError` of a tool leaves the run, unless closing the stream replaces it. -/
theorem run_raises (h : Uninterrupted isCancelled I P R) {command : UserMessageCommand} {input : RunInput}
    (hopens : loop.openStream command input = .ok fun _ => stream)
    (hreaches : loop.Reaches command.turnId (.raises .cancelled) stream.events)
    (hclose : stream.close .suspended = .ok ()) (hR : ∀ s, R .cancelled s) (hs : P .fresh s) :
    (loop.run isCancelled command input).Wp I (fun _ _ => False) R s := by
  apply h.emit_then .running rfl hs
  intro s₁ hs₁
  apply h.emit_then .running rfl hs₁
  intro s₂ hs₂
  apply wp_bind.mpr
  have hattempt : (loop.attemptTurn isCancelled command input).Wp I
      (fun r s' => r = .error .cancelled ∧ P .running s') R s₂ := by
    apply attemptTurn_reaches h (.error .cancelled) _ hopens hreaches
    · simp [hclose, bind, Except.bind]
    · exact hs₂
    · intro call st s hraises hs
      exact handleToolCall_ends h st hraises hs
  refine hattempt.imp ?_
  rintro r s₃ ⟨rfl, -⟩
  exact wp_raise.mpr (hR s₃)

end

end AgentLoop

/-! ## What the consumer has seen -/

/-- `TURN_COMPLETED`, `TURN_CANCELLED` or `TURN_FAILED`. -/
def terminal : AgentEventType → Bool
  | .turnCompleted | .turnCancelled | .turnFailed => true
  | _ => false

/-- The state that the last `STATE_CHANGED` reports. -/
def lastState (events : List AgentEvent) : Option AgentState :=
  ((events.filter fun e => e.type = .stateChanged).getLast?).bind (·.state)

/-- The events of a turn as its consumer expects them. -/
structure WellFormed (events : List AgentEvent) : Prop where
  starts : events.head?.map (·.type) = some .turnStarted
  terminates : (events.filter fun e => terminal e.type).length = 1
  rests : lastState events = some .idle

namespace Phase

def terminals : Phase → Nat
  | fresh | running | resting => 0
  | ended | finished | relapsed => 1
  | endedTwice | finishedTwice => 2

/-- What the phase says of the events so far. -/
structure Marks (phase : Phase) (events : List AgentEvent) : Prop where
  starts : if phase = .fresh then events = [] else events.head?.map (·.type) = some .turnStarted
  terminates : (events.filter fun e => terminal e.type).length = phase.terminals
  rests : phase = .resting ∨ phase = .finished → lastState events = some .idle

theorem lastState_concat (events : List AgentEvent) (e : AgentEvent) :
    lastState (events ++ [e]) = if e.type = .stateChanged then e.state else lastState events := by
  unfold lastState
  by_cases he : e.type = .stateChanged <;> simp [he]

theorem terminates_concat (events : List AgentEvent) (e : AgentEvent) :
    ((events ++ [e]).filter fun e => terminal e.type).length =
      (events.filter fun e => terminal e.type).length + if terminal e.type = true then 1 else 0 := by
  by_cases he : terminal e.type = true <;> simp [he]

/-- What one event adds to the number of terminal events, and where it leaves the agent. -/
theorem next_marks {phase phase' : Phase} {e : AgentEvent} (h : phase.next e = some phase') :
    phase' ≠ .fresh ∧ (phase = .fresh → e.type = .turnStarted) ∧
      phase'.terminals = phase.terminals + (if terminal e.type = true then 1 else 0) ∧
      (phase' = .resting ∨ phase' = .finished →
        e.type = .stateChanged ∧ e.state = some .idle ∨ e.type ≠ .stateChanged ∧ phase = .resting) := by
  cases phase with
  | running =>
    cases htype : e.type <;> simp only [Phase.next, htype] at h <;> cases h <;> simp [terminals, terminal]
    split_ifs <;> simp_all
  | finishedTwice => cases h
  | _ =>
    simp only [Phase.next, Option.ite_none_right_eq_some, Option.some.injEq] at h
    obtain ⟨he, rfl⟩ := h
    simp_all [terminals, terminal]

variable {events : List AgentEvent}

theorem Marks.next {phase phase' : Phase} {e : AgentEvent} (h : phase.Marks events)
    (hnext : phase.next e = some phase') : phase'.Marks (events ++ [e]) := by
  obtain ⟨hfresh, hstarts, hterminals, hrests⟩ := next_marks hnext
  refine ⟨?_, ?_, fun hphase' => ?_⟩
  · rw [if_neg hfresh]
    by_cases hphase : phase = .fresh
    · have hevents : events = [] := by simpa [hphase] using h.starts
      simp [hevents, hstarts hphase]
    · have hhead : events.head?.map (·.type) = some .turnStarted := by simpa [hphase] using h.starts
      cases events with
      | nil => simp at hhead
      | cons first rest => exact hhead
  · rw [terminates_concat, h.terminates, hterminals]
  · rw [lastState_concat]
    rcases hrests hphase' with ⟨htype, hstate⟩ | ⟨htype, hphase⟩
    · rw [if_pos htype, hstate]
    · rw [if_neg htype]
      exact h.rests (Or.inl hphase)

theorem Marks.wellFormed (h : finished.Marks events) : WellFormed events :=
  ⟨by simpa using h.starts, h.terminates, h.rests (Or.inr rfl)⟩

theorem Marks.not_wellFormed (h : finishedTwice.Marks events) : ¬WellFormed events := by
  intro hwell
  have hterminates : 2 = 1 := h.terminates.symm.trans hwell.terminates
  omega

end Phase

/-! ## Consuming a run -/

/-- What the consumer of a run has taken, and whether the turn is cancelled. -/
structure Turn where
  cancelled : Bool
  yielded : List AgentEvent := []

/-- The consumer takes what is yielded, and the turn may be cancelled. -/
def Turn.GoesOn (p : LoopPoint) (t t' : Turn) : Prop :=
  (t.cancelled = true → t'.cancelled = true) ∧
    t'.yielded = match p with
      | .yields e => t.yielded ++ [e]
      | _ => t.yielded

theorem Turn.goesOn_serial (p : LoopPoint) (t : Turn) : ∃ t', Turn.GoesOn p t t' := by
  cases p with
  | yields e => exact ⟨{ t with yielded := t.yielded ++ [e] }, id, rfl⟩
  | _ => exact ⟨t, id, rfl⟩

theorem consumes {R : LoopError → Turn → Prop} :
    Consumes (Coroutine.interference Turn.GoesOn fun _ _ => True) (fun phase t => phase.Marks t.yielded) R where
  yields := by
    intro phase phase' e t Q hnext ht hQ
    refine ⟨trivial, fun t' hgoes w => hQ w t' ?_⟩
    rw [show t'.yielded = t.yielded ++ [e] from hgoes.2]
    exact ht.next hnext
  waits := by
    intro phase p t Q hp ht hQ
    refine ⟨trivial, fun t' hgoes w => hQ w t' ?_⟩
    have hyielded : t'.yielded = t.yielded := by
      cases p with
      | yields e => exact (hp e rfl).elim
      | _ => exact hgoes.2
    rw [hyielded]
    exact ht

theorem uninterrupted {R : LoopError → Turn → Prop} :
    AgentLoop.Uninterrupted Turn.cancelled (Coroutine.chance Turn.GoesOn)
      (fun phase t => t.cancelled = false ∧ phase.Marks t.yielded) R where
  yields := by
    intro phase phase' e t Q hnext ht hQ
    refine ⟨{ t with yielded := t.yielded ++ [e] }, ⟨id, rfl⟩, .arrives, hQ _ _ ⟨ht.1, ht.2.next hnext⟩⟩
  arrives := by
    intro phase p t Q hp ht hQ
    refine ⟨t, ⟨id, ?_⟩, .arrives, hQ _ ht⟩
    cases p with
    | yields e => exact (hp e rfl).elim
    | _ => rfl
  running ht := ht.1

namespace AgentLoop

section

variable (loop : AgentLoop Turn) (generate : LLMRequest → Except LoopError ProviderStream)

/-- The loop with a provider whose streams do not know of their consumer. -/
def serving : AgentLoop Turn :=
  { loop with generateStream := fun request => (generate request).map fun stream _ => stream }

/-- The stream that the provider returns for a turn. -/
def providerStream (command : UserMessageCommand) (input : RunInput) : Except LoopError ProviderStream :=
  loop.prepareRequest command input >>= generate

theorem openStream_serving (command : UserMessageCommand) (input : RunInput) :
    (loop.serving generate).openStream command input =
      (loop.providerStream generate command input).map fun stream _ => stream := by
  show (loop.prepareRequest command input >>= fun request => (generate request).map fun stream _ => stream) = _
  unfold providerStream
  cases loop.prepareRequest command input <;> rfl

theorem reaches_serving (turnId : Text) (outcome : CallOutcome) (events : List (Option LLMEvent)) :
    (loop.serving generate).Reaches turnId outcome events ↔ loop.Reaches turnId outcome events := by
  induction events with
  | nil => exact Iff.rfl
  | cons event rest ih =>
    cases event with
    | none => exact Iff.rfl
    | some event => exact or_congr Iff.rfl (and_congr Iff.rfl ih)

theorem orderly_serving {turnId : Text} {stream : ProviderStream} :
    stream.Orderly (loop.serving generate) turnId ↔ stream.Orderly loop turnId := by
  simp only [ProviderStream.Orderly, ProviderStream.Clean, ProviderStream.ToolsQuiet, reaches_serving]

/-- A consumed run of a provider that raises ordinary exceptions starts with its start event, yields one terminal
event and leaves the agent idle, wherever it is cancelled or its time is up, exactly if its stream is orderly. -/
theorem run_wellFormed_iff (command : UserMessageCommand) (input : RunInput)
    (hprovider : loop.providerStream generate command input ≠ .error .cancelled)
    (hordinary : ∀ stream, loop.providerStream generate command input = .ok stream → stream.Ordinary) :
    (∀ cancelled r t, Coroutine.Ends Turn.GoesOn ((loop.serving generate).run Turn.cancelled command input)
        { cancelled } r t → r = .ok () ∧ WellFormed t.yielded) ↔
      ∀ stream, loop.providerStream generate command input = .ok stream → stream.Orderly loop command.turnId := by
  have hopens : ∀ stream, loop.providerStream generate command input = .ok stream →
      (loop.serving generate).openStream command input = .ok fun _ => stream := by
    intro stream hstream
    rw [openStream_serving, hstream]
    rfl
  have hfresh : Phase.fresh.Marks [] := ⟨by simp, rfl, by simp⟩
  constructor
  · intro hruns stream hstream
    rw [← orderly_serving loop generate]
    -- a run that goes wrong uninterrupted is one of the runs
    have hnot : ∀ {Q : Unit → Turn → Prop}, (∀ t, Q () t → ¬WellFormed t.yielded) →
        ¬((loop.serving generate).run Turn.cancelled command input).Wp (Coroutine.chance Turn.GoesOn) Q
          (fun _ _ => True) { cancelled := false } := by
      intro Q hQ hwp
      have hwrong : ((loop.serving generate).run Turn.cancelled command input).Wp (Coroutine.chance Turn.GoesOn)
          (fun a t => ¬((.ok a : Except LoopError Unit) = .ok () ∧ WellFormed t.yielded))
          (fun e t => ¬((.error e : Except LoopError Unit) = .ok () ∧ WellFormed t.yielded)) { cancelled := false } :=
        hwp.mono (fun _ t ht hwell => hQ t ht hwell.2) fun e t _ hwell => nomatch hwell.1
      obtain ⟨r, t, hends, hbad⟩ := Coroutine.Wp.exists_end
        (P := fun r (t : Turn) => ¬(r = .ok () ∧ WellFormed t.yielded)) hwrong
      exact hbad (hruns false r t hends)
    constructor
    · intro hreaches e hclose
      by_contra he
      exact hnot (fun t ht => ht.2.not_wellFormed)
        (run_relapses uninterrupted (hopens stream hstream) hreaches hclose he ⟨rfl, hfresh⟩)
    · intro hreaches hclose
      exact hnot (fun t ht => ht.elim)
        (run_raises uninterrupted (hopens stream hstream) hreaches hclose (fun _ => trivial) ⟨rfl, hfresh⟩)
  · intro horderly cancelled
    have hstreams : ∀ opens, (loop.serving generate).openStream command input = .ok opens → ∀ t,
        (opens t).Ordinary ∧ (opens t).Orderly (loop.serving generate) command.turnId := by
      intro opens hopened t
      cases hstream : loop.providerStream generate command input with
      | error e => simp [openStream_serving, hstream, Except.map] at hopened
      | ok stream =>
        obtain rfl : (fun _ => stream) = opens := Except.ok.inj ((hopens stream hstream).symm.trans hopened)
        exact ⟨hordinary stream hstream, (orderly_serving loop generate).mpr (horderly stream hstream)⟩
    have hquiet : (loop.serving generate).Quiet command input := by
      constructor
      · cases hstream : loop.providerStream generate command input with
        | error e =>
          rw [openStream_serving, hstream]
          intro he
          cases he
          exact hprovider hstream
        | ok stream => simp [hopens stream hstream]
      · intro opens hopened t
        exact ⟨(hstreams opens hopened t).1, (hstreams opens hopened t).2.2⟩
    have hclean : (loop.serving generate).Clean command input :=
      fun opens hopened t => (hstreams opens hopened t).2.1
    apply (wp_iff_ends (P := fun r (t : Turn) => r = .ok () ∧ WellFormed t.yielded)).mp
    refine (run_wp (R := fun _ _ => False) consumes command input (fun s _ hnot => hnot hquiet) hfresh).mono ?_
      fun _ _ => False.elim
    rintro _ t (hover | ⟨-, hrelapsed⟩)
    · exact ⟨rfl, hover.wellFormed⟩
    · exact (hrelapsed hclean).elim

end

/-! ## Two providers -/

/-- A loop without tools. -/
def toolless : AgentLoop Turn where
  providerName := lit "fake"
  generateStream _ := .error .other
  contextManager := { systemPrompt := lit "You are a desktop companion." }
  maxTurnSeconds := lit "90"
  toolPolicy _ _ _ := .ok { outcome := .deny, reason := lit "Unknown tool." }

def hello : UserMessageCommand where
  turnId := lit "turn-1"
  sessionId := lit "session-1"
  content := lit "Hello"
  turnId_ne := by decide
  sessionId_ne := by decide
  nonblank := by decide

theorem toolless_providerStream (stream : ProviderStream) :
    toolless.providerStream (fun _ => .ok stream) hello {} = .ok stream := by
  have hrequest : (toolless.contextManager.buildRequest hello [] [] [] none).isSome = true := by decide +kernel
  obtain ⟨request, hrequest⟩ := Option.isSome_iff_exists.mp hrequest
  have hrequest : toolless.prepareRequest hello {} = .ok request := by
    unfold prepareRequest
    rw [if_neg (by simp)]
    simp only [show toolless.toolRegistry = none from rfl, hrequest]
  rw [providerStream, hrequest]
  rfl

/-- It answers. -/
def answering : ProviderStream where
  events := [some (.textDelta (lit "Hi")), some .completed]
  ending := .ok ()
  close _ := .ok ()

/-- Its runs, which there are, are well formed. -/
theorem run_wellFormed_answering :
    ∃ t, Coroutine.Ends Turn.GoesOn ((toolless.serving fun _ => .ok answering).run Turn.cancelled hello {})
      { cancelled := false } (.ok ()) t ∧ WellFormed t.yielded := by
  have hstream : ∀ {stream}, toolless.providerStream (fun _ => .ok answering) hello {} = .ok stream →
      answering = stream := by
    intro stream hstream
    exact Except.ok.inj ((toolless_providerStream answering).symm.trans hstream)
  obtain ⟨r, t, hends⟩ := Coroutine.exists_ends Turn.goesOn_serial
    ((toolless.serving fun _ => .ok answering).run Turn.cancelled hello {}) { cancelled := false }
  obtain ⟨rfl, hwell⟩ := (run_wellFormed_iff toolless (fun _ => .ok answering) hello {}
    (by simp [toolless_providerStream]) (fun _ h => hstream h ▸ ⟨nofun, nofun⟩)).mpr
    (fun _ h => hstream h ▸ ⟨nofun, nofun⟩) false r t hends
  exact ⟨t, hends, hwell⟩

/-- It asks for a tool that is not there, and its `aclose` raises. -/
def unclosable : ProviderStream where
  events := [some (.callTool { callId := lit "call-1", name := lit "search", arguments := [] })]
  ending := .ok ()
  close _ := .error .other

/-- An uninterrupted turn of it ends with two terminal events. -/
theorem run_unclosable : unclosable.Ordinary ∧
    ∃ t, Coroutine.Ends Turn.GoesOn ((toolless.serving fun _ => .ok unclosable).run Turn.cancelled hello {})
      { cancelled := false } (.ok ()) t ∧ (t.yielded.filter fun e => terminal e.type).length = 2 := by
  refine ⟨⟨nofun, nofun⟩, ?_⟩
  have hopens : (toolless.serving fun _ => .ok unclosable).openStream hello {} = .ok fun _ => unclosable := by
    rw [openStream_serving, toolless_providerStream]
    rfl
  have hreaches : (toolless.serving fun _ => .ok unclosable).Reaches hello.turnId .refused unclosable.events :=
    Or.inl ⟨rfl, rfl, _, rfl, rfl⟩
  have hfresh : false = false ∧ Phase.fresh.Marks [] := ⟨rfl, by simp, rfl, by simp⟩
  have hrelapses := run_relapses (R := fun _ _ => False) (s := { cancelled := false }) uninterrupted hopens hreaches rfl nofun hfresh
  obtain ⟨r, t, hends, rfl, hterminates⟩ := Coroutine.Wp.exists_end
    (P := fun r (t : Turn) => r = .ok () ∧ (t.yielded.filter fun e => terminal e.type).length = 2)
    (hrelapses.mono (fun _ t ht => ⟨rfl, ht.2.terminates⟩) fun _ _ => False.elim)
  exact ⟨t, hends, hterminates⟩

end AgentLoop

end ArkClaw.Agent
