import ArkClaw.Agent.AgentLoop

/-!
# What a run of the agent loop yields

The events of a turn step a small protocol (`Phase.next`): the turn is started, runs, yields one terminal event and
comes to rest. The laws hold for every consumer whose state follows the protocol (`Consumes`), so each consumer
gets its own facts from them.

One path leaves the protocol. A tool call that is not executed ends the turn inside the read loop, while the stream
is still open; if closing the stream then raises, the turn relapses and yields a second terminal event.
-/

namespace ArkClaw.Agent

open ArkClaw.Library hiding wp_bind wp_get wp_ite wp_pure
open ArkClaw.Domain
open Coroutine (wp_bind wp_get wp_ite wp_pure wp_raise)

/-- How far a turn has come with its events. -/
inductive Phase where
  | fresh | running
  /-- At rest, the completion still to come. -/
  | resting
  /-- A terminal event has been yielded, the rest still to come. -/
  | ended
  | finished
  | relapsed | endedTwice | finishedTwice
deriving DecidableEq, Repr

namespace Phase

def next : Phase → AgentEvent → Option Phase
  | fresh, e => if e.type = .turnStarted then some running else none
  | running, e => match e.type with
    | .turnStarted => none
    | .turnCompleted | .turnCancelled | .turnFailed => some ended
    | .stateChanged => some (if e.state = some .idle then resting else running)
    | .textDelta | .approvalRequired | .toolStarted | .toolFinished => some running
  | resting, e => if e.type = .turnCompleted then some finished else none
  | ended, e => if e.type = .stateChanged ∧ e.state = some .idle then some finished else none
  | finished, e => if e.type = .stateChanged ∧ e.state ≠ some .idle then some relapsed else none
  | relapsed, e => if e.type = .turnFailed then some endedTwice else none
  | endedTwice, e => if e.type = .stateChanged ∧ e.state = some .idle then some finishedTwice else none
  | finishedTwice, _ => none

end Phase

/-- The consumer's state follows the phases of the turn, at what is yielded and at the waits; it may refuse an
event by raising. -/
structure Consumes {σ : Type} (I : Coroutine.Interpretation LoopPoint WakeUp σ LoopError) (P : Phase → σ → Prop)
    (R : LoopError → σ → Prop) : Prop where
  yields : ∀ {phase phase' : Phase} {e : AgentEvent} {s : σ} {Q : WakeUp → σ → Prop}, phase.next e = some phase' →
    P phase s → (∀ w s', P phase' s' → Q w s') → I.wp (.yields e) Q R s
  waits : ∀ {phase : Phase} {p : LoopPoint} {s : σ} {Q : WakeUp → σ → Prop}, (∀ e, p ≠ .yields e) →
    P phase s → (∀ w s', P phase s' → Q w s') → I.wp p Q R s

namespace AgentLoop

variable {σ : Type} {loop : AgentLoop σ} {isCancelled : σ → Bool} {turnId : Text}

/-! ## What the provider and the tools do -/

section

variable (loop) (turnId)

/-- What becomes of a tool call. -/
inductive CallOutcome where
  | executes (result : ToolResult)
  | raises (e : LoopError)
  | refused

def callOutcome (call : ToolCall) : CallOutcome :=
  match loop.registeredTool call.name with
  | none => .refused
  | some tool =>
    let context : ExecutionContext := { turnId, sessionId := turnId, approved := true }
    match loop.toolPolicy tool.spec call context with
    | .error e => .raises e
    | .ok decision => match decision.outcome with
      | .allow => match tool.execute call.arguments context with
        | .error e => .raises e
        | .ok result => .executes result
      | .requireApproval | .deny => .refused

/-- The event is a tool call of this outcome. -/
def Calls (outcome : CallOutcome) (event : LLMEvent) : Prop :=
  event.continuation = none ∧ event.type = .toolCall ∧
    ∃ call ∈ event.toolCall, loop.callOutcome turnId call = outcome

/-- The loop reads on after this event, and has not seen the end of the answer in it. -/
def Passes (event : LLMEvent) : Prop :=
  (event.continuation = none ∧ event.type = .textDelta ∧ event.text ≠ []) ∨
    ∃ result, loop.Calls turnId (.executes result) event

/-- The stream gets to a tool call of this outcome. -/
def Reaches (outcome : CallOutcome) : List (Option LLMEvent) → Prop
  | [] => False
  | none :: _ => False
  | some event :: rest => loop.Calls turnId outcome event ∨ loop.Passes turnId event ∧ Reaches outcome rest

end

section

variable (loop) (command : UserMessageCommand) (input : RunInput)

/-- The stream of a turn that gets so far. -/
def openStream : Except LoopError (σ → ProviderStream) :=
  loop.prepareRequest command input >>= loop.generateStream

end

end AgentLoop

namespace ProviderStream

variable {σ : Type} (loop : AgentLoop σ) (turnId : Text) (stream : ProviderStream)

/-- A stream in which the turn may end can be closed there without an ordinary exception. -/
def Clean : Prop :=
  loop.Reaches turnId .refused stream.events → ∀ e, stream.close .suspended = .error e → e = .cancelled

/-- No tool of the stream raises `CancelledError`, unless closing the stream replaces it. -/
def ToolsQuiet : Prop :=
  loop.Reaches turnId (.raises .cancelled) stream.events → stream.close .suspended ≠ .ok ()

/-- The stream and its `aclose` raise ordinary exceptions only. -/
structure Ordinary : Prop where
  ending : stream.ending ≠ .error .cancelled
  close : ∀ left, stream.close left ≠ .error .cancelled

/-- Neither the stream nor its `aclose` nor a tool of it raises `CancelledError`. -/
structure Quiet : Prop extends stream.Ordinary where
  tools : stream.ToolsQuiet loop turnId

end ProviderStream

namespace AgentLoop

section

variable {σ : Type} (loop : AgentLoop σ) (command : UserMessageCommand) (input : RunInput)

/-- The streams a turn may open are clean. -/
def Clean : Prop :=
  ∀ opens, loop.openStream command input = .ok opens → ∀ s, (opens s).Clean loop command.turnId

/-- Neither the provider nor the streams a turn may open raise `CancelledError`. -/
structure Quiet : Prop where
  openStream : loop.openStream command input ≠ .error .cancelled
  streams : ∀ opens, loop.openStream command input = .ok opens → ∀ s, (opens s).Quiet loop command.turnId

end

/-! ## The laws -/

section

variable {σ : Type} {loop : AgentLoop σ} {isCancelled : σ → Bool} {turnId : Text}
  {I : Coroutine.Interpretation LoopPoint WakeUp σ LoopError} {P : Phase → σ → Prop} {R : LoopError → σ → Prop} {s : σ}

theorem emit_then {α : Type} (h : Consumes I P R) {phase : Phase} (phase' : Phase) {e : AgentEvent} {f : Unit → Loop σ α}
    {Q : α → σ → Prop} (hnext : phase.next e = some phase') (hs : P phase s)
    (hf : ∀ s', P phase' s' → (f ()).Wp I Q R s') : (emit e >>= f).Wp I Q R s :=
  wp_bind.mpr (wp_bind.mpr (h.yields hnext hs fun _ s' hs' => hf s' hs'))

theorem emit_last (h : Consumes I P R) {phase : Phase} (phase' : Phase) {e : AgentEvent} {Q : Unit → σ → Prop}
    (hnext : phase.next e = some phase') (hs : P phase s) (hQ : ∀ s', P phase' s' → Q () s') :
    (emit e).Wp I Q R s :=
  wp_bind.mpr (h.yields hnext hs fun _ s' hs' => hQ s' hs')

theorem wait_then {α : Type} (h : Consumes I P R) {phase : Phase} {p : LoopPoint} {f : WakeUp → Loop σ α}
    {Q : α → σ → Prop} (hp : ∀ e, p ≠ .yields e) (hs : P phase s)
    (hf : ∀ w s', P phase s' → (f w).Wp I Q R s') : (Coroutine.await p >>= f).Wp I Q R s :=
  wp_bind.mpr (h.waits hp hs hf)

/-- What handling an event leaves: the loop reads on or raises while the turn runs, or the turn is over. -/
def Handled (P : Phase → σ → Prop) (passes refused raised : Prop) :
    Except LoopError (ReadState ⊕ Unit) → σ → Prop
  | .error e, s => P .running s ∧ (e = .cancelled → raised)
  | .ok (.inl st), s => P .running s ∧ (st.terminalType = none → passes)
  | .ok (.inr ()), s => P .finished s ∧ refused

theorem handleToolCall_wp (h : Consumes I P R) (call : ToolCall) (st : ReadState) (hs : P .running s) :
    (loop.handleToolCall turnId call st).Wp I
      (Handled P (∃ result, loop.callOutcome turnId call = .executes result) (loop.callOutcome turnId call = .refused)
        (loop.callOutcome turnId call = .raises .cancelled)) R s := by
  unfold handleToolCall
  cases htool : loop.registeredTool call.name with
  | none =>
    have hrefused : loop.callOutcome turnId call = .refused := by simp [callOutcome, htool]
    refine emit_then h .running rfl hs fun s₁ hs₁ => ?_
    refine emit_then h .ended rfl hs₁ fun s₂ hs₂ => ?_
    exact emit_then h .finished rfl hs₂ fun s₃ hs₃ => wp_pure.mpr ⟨hs₃, hrefused⟩
  | some tool =>
    cases hpolicy : loop.toolPolicy tool.spec call { turnId, sessionId := turnId, approved := true } with
    | error e =>
      have hraises : loop.callOutcome turnId call = .raises e := by simp [callOutcome, htool, hpolicy]
      simp only [hpolicy]
      exact wp_pure.mpr ⟨hs, fun he => he ▸ hraises⟩
    | ok decision =>
      simp only [hpolicy]
      refine emit_then h .running rfl hs fun s₁ hs₁ => ?_
      cases houtcome : decision.outcome with
      | allow =>
        refine wait_then h (by simp) hs₁ fun answer s₂ hs₂ => wp_ite.mpr ⟨fun _ => ?_, fun _ => ?_⟩
        · exact wp_pure.mpr ⟨hs₂, nofun⟩
        · cases hexecute : tool.execute call.arguments { turnId, sessionId := turnId, approved := true } with
          | error e =>
            have hraises : loop.callOutcome turnId call = .raises e := by
              simp [callOutcome, htool, hpolicy, houtcome, hexecute]
            exact wp_pure.mpr ⟨hs₂, fun he => he ▸ hraises⟩
          | ok result =>
            have hexecutes : loop.callOutcome turnId call = .executes result := by
              simp [callOutcome, htool, hpolicy, houtcome, hexecute]
            refine emit_then h .running rfl hs₂ fun s₃ hs₃ => ?_
            exact emit_then h .running rfl hs₃ fun s₄ hs₄ =>
              wp_pure.mpr ⟨hs₄, fun _ => ⟨result, hexecutes⟩⟩
      | requireApproval =>
        have hrefused : loop.callOutcome turnId call = .refused := by simp [callOutcome, htool, hpolicy, houtcome]
        refine emit_then h .running rfl hs₁ fun s₂ hs₂ => ?_
        refine emit_then h .ended rfl hs₂ fun s₃ hs₃ => ?_
        exact emit_then h .finished rfl hs₃ fun s₄ hs₄ => wp_pure.mpr ⟨hs₄, hrefused⟩
      | deny =>
        have hrefused : loop.callOutcome turnId call = .refused := by simp [callOutcome, htool, hpolicy, houtcome]
        refine emit_then h .running rfl hs₁ fun s₂ hs₂ => ?_
        refine emit_then h .ended rfl hs₂ fun s₃ hs₃ => ?_
        exact emit_then h .finished rfl hs₃ fun s₄ hs₄ => wp_pure.mpr ⟨hs₄, hrefused⟩

theorem handleEvent_wp (h : Consumes I P R) (event : Option LLMEvent) {st : ReadState} (hs : P .running s) :
    (loop.handleEvent turnId event st).Wp I
      (Handled P (st.terminalType = none ∧ ∃ e ∈ event, loop.Passes turnId e)
        (st.terminalType = none ∧ ∃ e ∈ event, loop.Calls turnId .refused e)
        (st.terminalType = none ∧ ∃ e ∈ event, loop.Calls turnId (.raises .cancelled) e)) R s := by
  have hinvalid : ∀ {passes refused raised : Prop},
      (pure (.error invalidProviderStream) : Loop σ (Except LoopError (ReadState ⊕ Unit))).Wp I
        (Handled P passes refused raised) R s := wp_pure.mpr ⟨hs, nofun⟩
  cases event with
  | none => exact hinvalid
  | some event =>
    refine wp_ite.mpr ⟨fun _ => hinvalid, fun hgood => ?_⟩
    obtain ⟨hterminal, hcontinuation⟩ := not_or.mp hgood
    have hterminal : st.terminalType = none := not_not.mp hterminal
    have hcontinuation : event.type ≠ .completed → event.continuation = none := by
      intro htype
      by_contra hc
      exact hcontinuation ⟨hc, htype⟩
    cases htype : event.type with
    | textDelta =>
      have hnone := hcontinuation (by simp [htype])
      refine wp_ite.mpr ⟨fun _ => hinvalid, fun htext => ?_⟩
      have hpasses : st.terminalType = none ∧ ∃ e ∈ some event, loop.Passes turnId e :=
        ⟨hterminal, event, rfl, Or.inl ⟨hnone, htype, htext⟩⟩
      refine wp_ite.mpr ⟨fun _ => ?_, fun _ => ?_⟩
      · refine emit_then h .running rfl hs fun s₁ hs₁ => ?_
        exact emit_then h .running rfl hs₁ fun s₂ hs₂ => wp_pure.mpr ⟨hs₂, fun _ => hpasses⟩
      · exact emit_then h .running rfl hs fun s₁ hs₁ => wp_pure.mpr ⟨hs₁, fun _ => hpasses⟩
    | toolCall =>
      have hnone := hcontinuation (by simp [htype])
      cases hcall : event.toolCall with
      | none => simpa only using hinvalid
      | some call =>
        simp only
        refine (handleToolCall_wp h call st hs).imp ?_
        rintro (e | st' | _) s' hs'
        · exact ⟨hs'.1, fun he => ⟨hterminal, event, rfl, hnone, htype, call, hcall, hs'.2 he⟩⟩
        · refine ⟨hs'.1, fun hst => ?_⟩
          obtain ⟨result, hresult⟩ := hs'.2 hst
          exact ⟨hterminal, event, rfl, Or.inr ⟨result, hnone, htype, call, hcall, hresult⟩⟩
        · exact ⟨hs'.1, hterminal, event, rfl, hnone, htype, call, hcall, hs'.2⟩
    | error =>
      refine wp_ite.mpr ⟨fun _ => hinvalid, fun _ => wp_pure.mpr ⟨hs, nofun⟩⟩
    | completed =>
      refine wp_ite.mpr ⟨fun _ => wp_pure.mpr ⟨hs, nofun⟩, fun _ => ?_⟩
      exact wp_pure.mpr ⟨hs, nofun⟩

/-- How the read loop is left; `reaches` says what tool calls it may have come to. -/
def Left (P : Phase → σ → Prop) (ending : Except LoopError Unit) (reaches : CallOutcome → Prop) :
    StreamState × Except LoopError LoopExit → σ → Prop
  | (left, .error e), s => P .running s ∧
      (e = .cancelled → ending = .error .cancelled ∨ left = .suspended ∧ reaches (.raises .cancelled))
  | (left, .ok .returned), s => P .finished s ∧ left = .suspended ∧ reaches .refused
  | (_, .ok .cancelled), s | (_, .ok (.finished _)), s => P .running s

theorem readLoop_wp (h : Consumes I P R) (ending : Except LoopError Unit) (events : List (Option LLMEvent)) :
    ∀ {st : ReadState} {s : σ}, P .running s → (loop.readLoop isCancelled turnId ending events st).Wp I
      (Left P ending fun outcome => st.terminalType = none ∧ loop.Reaches turnId outcome events) R s := by
  induction events with
  | nil =>
    intro st s hs
    refine wait_then h (by simp) hs fun answer s₁ hs₁ => wp_ite.mpr ⟨fun _ => ?_, fun _ => ?_⟩
    · exact wp_pure.mpr ⟨hs₁, nofun⟩
    refine wp_bind.mpr (wp_get.mpr (wp_ite.mpr ⟨fun _ => ?_, fun _ => ?_⟩))
    · exact wp_pure.mpr hs₁
    cases ending with
    | ok _ => exact wp_pure.mpr hs₁
    | error e => exact wp_pure.mpr ⟨hs₁, fun he => Or.inl (he ▸ rfl)⟩
  | cons event rest ih =>
    intro st s hs
    refine wait_then h (by simp) hs fun answer s₁ hs₁ => wp_ite.mpr ⟨fun _ => ?_, fun _ => ?_⟩
    · exact wp_pure.mpr ⟨hs₁, nofun⟩
    refine wp_bind.mpr (wp_get.mpr (wp_ite.mpr ⟨fun _ => ?_, fun _ => ?_⟩))
    · exact wp_pure.mpr hs₁
    refine wp_bind.mpr ((handleEvent_wp h event hs₁).imp ?_)
    rintro (e | st' | _) s₂ hs₂
    · refine wp_pure.mpr ⟨hs₂.1, fun he => Or.inr ⟨rfl, ?_⟩⟩
      obtain ⟨hst, e, rfl, hraises⟩ := hs₂.2 he
      exact ⟨hst, Or.inl hraises⟩
    · -- the rest of the stream is read from where this event leaves the loop
      have hreaches : ∀ outcome, st'.terminalType = none ∧ loop.Reaches turnId outcome rest →
          st.terminalType = none ∧ loop.Reaches turnId outcome (event :: rest) := by
        rintro outcome ⟨hst', hrest⟩
        obtain ⟨hst, e, rfl, hpasses⟩ := hs₂.2 hst'
        exact ⟨hst, Or.inr ⟨hpasses, hrest⟩⟩
      refine (ih hs₂.1).imp ?_
      rintro ⟨left, e | _ | _ | _⟩ s₃ hs₃
      · exact ⟨hs₃.1, fun he => (hs₃.2 he).imp_right fun h => ⟨h.1, hreaches _ h.2⟩⟩
      · exact hs₃
      · exact hs₃
      · exact ⟨hs₃.1, hs₃.2.1, hreaches _ hs₃.2.2⟩
    · obtain ⟨hst, e, rfl, hrefuses⟩ := hs₂.2
      exact wp_pure.mpr ⟨hs₂.1, rfl, hst, Or.inl hrefuses⟩

/-- How the turn is left: the error it is to report, or nothing more to do. An error may come when the turn is over,
and is then no `CancelledError`, only if the turn relapses. -/
def Attempted (P : Phase → σ → Prop) (clean quiet : Prop) (e : LoopError) (s : σ) : Prop :=
  (e = .cancelled → ¬quiet) ∧ (P .running s ∨ P .finished s ∧ (e ≠ .cancelled → ¬clean))

theorem readStream_wp (h : Consumes I P R) {opens : σ → ProviderStream} (hs : P .running s) :
    (loop.readStream isCancelled turnId opens).Wp I
      (fun result s' => match result with
        | .error e => Attempted P (∀ s, (opens s).Clean loop turnId)
            (∀ s, (opens s).Quiet loop turnId) e s'
        | .ok .returned => P .finished s'
        | .ok _ => P .running s') R s := by
  refine wait_then h (by simp) hs fun _ s₁ hs₁ => ?_
  refine wp_bind.mpr (wp_get.mpr ?_)
  refine wp_bind.mpr ((readLoop_wp h _ _ hs₁).imp ?_)
  rintro ⟨left, result⟩ s₂ hs₂
  -- a failing `aclose` replaces the result
  have hclose : ∀ {e : LoopError} {s₃ : σ}, (opens s₁).close left = .error e → P .running s₃ →
      Attempted P (∀ s, (opens s).Clean loop turnId)
        (∀ s, (opens s).Quiet loop turnId) e s₃ :=
    fun hfails hs₃ => ⟨fun he hquiet => (hquiet s₁).close left (he ▸ hfails), Or.inl hs₃⟩
  match result with
  | .error e =>
    refine wait_then h (by simp) hs₂.1 fun _ s₃ hs₃ => wp_pure.mpr ?_
    cases hfails : (opens s₁).close left with
    | error e' => exact hclose hfails hs₃
    | ok _ =>
      refine ⟨fun he hquiet => ?_, Or.inl hs₃⟩
      rcases hs₂.2 he with hending | ⟨rfl, -, hraises⟩
      · exact (hquiet s₁).ending hending
      · exact (hquiet s₁).tools hraises hfails
  | .ok .returned =>
    obtain ⟨hover, rfl, -, hrefused⟩ := hs₂
    refine wait_then h (by simp) hover fun _ s₃ hs₃ => wp_pure.mpr ?_
    cases hfails : (opens s₁).close .suspended with
    | error e' =>
      refine ⟨fun he hquiet => (hquiet s₁).close _ (he ▸ hfails), Or.inr ⟨hs₃, fun he hclean => he ?_⟩⟩
      exact hclean s₁ hrefused e' hfails
    | ok _ => exact hs₃
  | .ok .cancelled =>
    refine wait_then h (by simp) hs₂ fun _ s₃ hs₃ => wp_pure.mpr ?_
    cases hfails : (opens s₁).close left with
    | error e' => exact hclose hfails hs₃
    | ok _ => exact hs₃
  | .ok (.finished st) =>
    refine wait_then h (by simp) hs₂ fun _ s₃ hs₃ => wp_pure.mpr ?_
    cases hfails : (opens s₁).close left with
    | error e' => exact hclose hfails hs₃
    | ok _ => exact hs₃

/-- The turn is concluded by a terminal event, or with a failure of the provider. -/
theorem conclude_wp (h : Consumes I P R) (st : ReadState) (hs : P .running s) :
    (conclude isCancelled turnId st).Wp I
      (fun result s' => match result with
        | .error e => e ≠ .cancelled ∧ P .running s'
        | .ok () => P .finished s') R s := by
  refine wp_bind.mpr (wp_get.mpr (wp_ite.mpr ⟨fun _ => ?_, fun _ => ?_⟩))
  · refine emit_then h .ended rfl hs fun s₁ hs₁ => ?_
    exact emit_then h .finished rfl hs₁ fun s₂ hs₂ => wp_pure.mpr hs₂
  · dsimp only
    split
    next => exact wp_pure.mpr ⟨nofun, hs⟩
    next => exact wp_pure.mpr ⟨nofun, hs⟩
    next => exact wp_pure.mpr ⟨nofun, hs⟩
    next =>
      refine emit_then h .resting rfl hs fun s₁ hs₁ => ?_
      exact emit_then h .finished rfl hs₁ fun s₂ hs₂ => wp_pure.mpr hs₂

theorem attemptTurn_wp (h : Consumes I P R) (command : UserMessageCommand) (input : RunInput) (hs : P .running s) :
    (loop.attemptTurn isCancelled command input).Wp I
      (fun result s' => match result with
        | .error e => Attempted P (loop.Clean command input) (loop.Quiet command input) e s'
        | .ok () => P .finished s') R s := by
  have hcancel : ∀ {s : σ}, P .running s → (do
      emit (.cancelled command.turnId)
      emit (.stateChanged command.turnId .idle)
      return .ok () : Loop σ (Except LoopError Unit)).Wp I
      (fun result s' => match result with
        | .error e => Attempted P (loop.Clean command input) (loop.Quiet command input) e s'
        | .ok () => P .finished s') R s := by
    intro s hs
    refine emit_then h .ended rfl hs fun s₁ hs₁ => ?_
    exact emit_then h .finished rfl hs₁ fun s₂ hs₂ => wp_pure.mpr hs₂
  unfold attemptTurn
  refine wp_bind.mpr (wp_get.mpr (wp_ite.mpr ⟨fun _ => hcancel hs, fun _ => ?_⟩))
  cases hrequest : loop.prepareRequest command input with
  | error e =>
    have hopens : loop.openStream command input = .error e := by simp [openStream, hrequest, bind, Except.bind]
    exact wp_pure.mpr ⟨fun he hquiet => hquiet.openStream (he ▸ hopens), Or.inl hs⟩
  | ok request =>
  have hopen : loop.openStream command input = loop.generateStream request := by
    simp [openStream, hrequest, bind, Except.bind]
  refine emit_then h .running rfl hs fun s₁ hs₁ => ?_
  cases hopens : loop.generateStream request with
  | error e =>
    have hopens := hopen.trans hopens
    exact wp_pure.mpr ⟨fun he hquiet => hquiet.openStream (he ▸ hopens), Or.inl hs₁⟩
  | ok opens =>
    have hopens := hopen.trans hopens
    refine wp_bind.mpr ((readStream_wp h hs₁).imp ?_)
    rintro (e | _ | _ | _) s₂ hs₂
    · refine wp_pure.mpr ⟨fun he hquiet => hs₂.1 he (hquiet.streams opens hopens), ?_⟩
      exact hs₂.2.imp_right fun hover => ⟨hover.1, fun he hclean => hover.2 he (hclean opens hopens)⟩
    · refine (conclude_wp h _ hs₂).imp ?_
      rintro (e | _) s₃ hs₃
      · exact ⟨fun he => (hs₃.1 he).elim, Or.inl hs₃.2⟩
      · exact hs₃
    · exact hcancel hs₂
    · exact wp_pure.mpr hs₂

/-- A turn comes to its end with the protocol kept, or it relapses because it was not clean. It raises what its
consumer raises, and `CancelledError` if it was not quiet. -/
theorem run_wp (h : Consumes I P R) (command : UserMessageCommand) (input : RunInput)
    (hcancelled : ∀ s, (∃ phase, P phase s) → ¬loop.Quiet command input → R .cancelled s) (hs : P .fresh s) :
    (loop.run isCancelled command input).Wp I
      (fun _ s' => P .finished s' ∨ P .finishedTwice s' ∧ ¬loop.Clean command input) R s := by
  refine emit_then h .running rfl hs fun s₁ hs₁ => ?_
  refine emit_then h .running rfl hs₁ fun s₂ hs₂ => ?_
  refine wp_bind.mpr ((attemptTurn_wp h command input hs₂).imp ?_)
  rintro (e | _) s₃ hs₃
  · obtain ⟨hquiet, hphase⟩ := hs₃
    by_cases he : e = .cancelled
    · subst he
      refine wp_raise.mpr (hcancelled s₃ ?_ (hquiet rfl))
      rcases hphase with hs₃ | ⟨hs₃, -⟩
      · exact ⟨_, hs₃⟩
      · exact ⟨_, hs₃⟩
    · have hreport : (do
          emit (.stateChanged command.turnId .error)
          emit (.failed command.turnId (loop.report e).1 (loop.report e).2)
          emit (.stateChanged command.turnId .idle) : Loop σ Unit).Wp I
          (fun _ s' => P .finished s' ∨ P .finishedTwice s' ∧ ¬loop.Clean command input) R s₃ := by
        rcases hphase with hs₃ | ⟨hs₃, hclean⟩
        · refine emit_then h .running rfl hs₃ fun s₄ hs₄ => ?_
          refine emit_then h .ended rfl hs₄ fun s₅ hs₅ => ?_
          exact emit_last h .finished rfl hs₅ fun s₆ hs₆ => Or.inl hs₆
        · refine emit_then h .relapsed rfl hs₃ fun s₄ hs₄ => ?_
          refine emit_then h .endedTwice rfl hs₄ fun s₅ hs₅ => ?_
          exact emit_last h .finishedTwice rfl hs₅ fun s₆ hs₆ => Or.inr ⟨hs₆, hclean he⟩
      cases e with
      | cancelled => exact (he rfl).elim
      | timeout => exact hreport
      | contextBudget message => exact hreport
      | provider code message => exact hreport
      | other => exact hreport
  · exact wp_pure.mpr (Or.inl hs₃)

end

end AgentLoop

end ArkClaw.Agent
