import ArkClaw.Agent.AgentLoop

/-!
# The events of a turn are its own

Every event that a run of the agent loop yields carries the identifier of its turn, and a continuation in it belongs to
the provider of the loop, whatever happens to the turn while it is suspended. The loop itself writes nothing.
-/

namespace ArkClaw.Agent.AgentLoop

open ArkClaw.Library ArkClaw.Domain

variable {σ α : Type} {loop : AgentLoop σ} {isCancelled : σ → Bool} {turnId : Text} {Q : α → Prop}

/-- What is yielded there belongs to the turn, and a continuation in it to the provider. -/
def Own (loop : AgentLoop σ) (turnId : Text) : LoopPoint → Prop
  | .yields event => event.turnId = turnId ∧ ∀ c ∈ event.continuation, c.providerName = loop.providerName
  | _ => True

/-- The loop yields own events only, and what it returns satisfies `Q`. -/
abbrev YieldsOwn (loop : AgentLoop σ) (turnId : Text) (c : Loop σ α) (Q : α → Prop) : Prop :=
  c.Reads (loop.Own turnId) Q

theorem emit_own {e : AgentEvent} {f : Unit → Loop σ α} (hown : loop.Own turnId (.yields e))
    (hf : YieldsOwn loop turnId (f ()) Q) : YieldsOwn loop turnId (AgentLoop.emit e >>= f) Q :=
  ⟨hown, fun _ => hf⟩

/-- An event without a continuation. -/
theorem plain_own {e : AgentEvent} {f : Unit → Loop σ α} (hid : e.turnId = turnId) (hnone : e.continuation = none)
    (hf : YieldsOwn loop turnId (f ()) Q) : YieldsOwn loop turnId (AgentLoop.emit e >>= f) Q := by
  refine emit_own ⟨hid, ?_⟩ hf
  rw [hnone]
  exact fun c hc => (by cases hc)

/-- The continuation that the read loop has seen, if any, belongs to the provider. -/
def OwnRead (loop : AgentLoop σ) (st : ReadState) : Prop :=
  ∀ c ∈ st.completedContinuation, c.providerName = loop.providerName

/-- So does the one in what it leaves behind. -/
def OwnHandled (loop : AgentLoop σ) : Except LoopError (ReadState ⊕ Unit) → Prop
  | .ok (.inl st) => loop.OwnRead st
  | _ => True

theorem handleToolCall_own (call : ToolCall) {st : ReadState} (hst : loop.OwnRead st) :
    YieldsOwn loop turnId (loop.handleToolCall turnId call st) loop.OwnHandled := by
  unfold handleToolCall
  split
  next => exact plain_own rfl rfl (plain_own rfl rfl (plain_own rfl rfl trivial))
  next tool _ =>
    dsimp only
    split
    next => exact trivial
    next decision _ =>
      refine plain_own rfl rfl ?_
      split
      next =>
        refine .await trivial fun answer => .ite (fun _ => trivial) fun _ => ?_
        split
        next => exact trivial
        next => exact plain_own rfl rfl (plain_own rfl rfl hst)
      next => exact plain_own rfl rfl (plain_own rfl rfl (plain_own rfl rfl trivial))
      next => exact plain_own rfl rfl (plain_own rfl rfl (plain_own rfl rfl trivial))

theorem handleEvent_own (event : Option LLMEvent) {st : ReadState} (hst : loop.OwnRead st) :
    YieldsOwn loop turnId (loop.handleEvent turnId event st) loop.OwnHandled := by
  unfold handleEvent
  split
  next => exact trivial
  next event =>
    refine .ite (fun _ => trivial) fun _ => ?_
    split
    next =>
      refine .ite (fun _ => trivial) fun _ => .ite (fun _ => ?_) fun _ => ?_
      · exact plain_own rfl rfl (plain_own rfl rfl hst)
      · exact plain_own rfl rfl hst
    next =>
      split
      next => exact trivial
      next call _ => exact handleToolCall_own call hst
    next => exact .ite (fun _ => trivial) fun _ => hst
    next =>
      refine .ite (fun _ => trivial) fun hown c hc => ?_
      by_contra hne
      exact hown ⟨c, hc, hne⟩

/-- What leaving the read loop says of the continuation. -/
def OwnExit (loop : AgentLoop σ) : Except LoopError LoopExit → Prop
  | .ok (.finished st) => loop.OwnRead st
  | _ => True

theorem readLoop_own (ending : Except LoopError Unit) (events : List (Option LLMEvent)) :
    ∀ {st : ReadState}, loop.OwnRead st →
      YieldsOwn loop turnId (loop.readLoop isCancelled turnId ending events st) fun r => loop.OwnExit r.2 := by
  induction events with
  | nil =>
    intro st hst
    refine .await trivial fun answer => .ite (fun _ => trivial) fun _ => .get fun s => .ite (fun _ => trivial) fun _ => ?_
    cases ending with
    | ok _ => exact hst
    | error e => exact trivial
  | cons event rest ih =>
    intro st hst
    refine .await trivial fun answer => .ite (fun _ => trivial) fun _ => .get fun s => .ite (fun _ => trivial) fun _ => ?_
    refine (handleEvent_own event hst).bind fun result hresult => ?_
    split
    next => exact trivial
    next => exact trivial
    next => exact ih hresult

theorem readStream_own (opens : σ → ProviderStream) :
    YieldsOwn loop turnId (loop.readStream isCancelled turnId opens) loop.OwnExit := by
  refine .await trivial fun _ => .get fun s => (readLoop_own _ _ fun c hc => (by cases hc)).bind ?_
  rintro ⟨left, result⟩ hresult
  refine .await trivial fun _ => ?_
  show loop.OwnExit _
  split
  next => exact trivial
  next => exact hresult

theorem attemptTurn_own (command : UserMessageCommand) (input : RunInput) :
    YieldsOwn loop command.turnId (loop.attemptTurn isCancelled command input) fun _ => True := by
  unfold attemptTurn
  refine .get fun s => .ite (fun _ => plain_own rfl rfl (plain_own rfl rfl trivial)) fun _ => ?_
  split
  next => exact trivial
  next request _ =>
    refine plain_own rfl rfl ?_
    split
    next => exact trivial
    next opens _ =>
      refine (readStream_own opens).bind fun result hresult => ?_
      split
      next => exact trivial
      next => exact trivial
      next => exact plain_own rfl rfl (plain_own rfl rfl trivial)
      next st =>
        -- the completion carries what the read loop has seen
        refine .get fun s => .ite (fun _ => plain_own rfl rfl (plain_own rfl rfl trivial)) fun _ => ?_
        dsimp only
        split
        next => exact trivial
        next => exact trivial
        next => exact trivial
        next => exact plain_own rfl rfl (emit_own ⟨rfl, hresult⟩ trivial)

/-- A turn yields its own events only. -/
theorem run_own (command : UserMessageCommand) (input : RunInput) :
    YieldsOwn loop command.turnId (loop.run isCancelled command input) fun _ => True := by
  refine plain_own rfl rfl (plain_own rfl rfl ((attemptTurn_own command input).bind fun result _ => ?_))
  split
  next => exact trivial
  next => exact trivial
  next => exact plain_own rfl rfl (plain_own rfl rfl (plain_own rfl rfl trivial))

end ArkClaw.Agent.AgentLoop
