import Mathlib.Data.List.Forall2
import ArkClaw.Agent.AgentLoopEvents
import ArkClaw.Agent.RuntimeSession

/-!
# The turns of a runtime session

What a session has committed is a log of exchanges: its histories and its continuations are read off the log, and the
log off what the loops of the turns yielded. The task of a turn follows the phases of the agent loop, so that whatever
interferes, the session is `Ongoing` wherever the task is suspended: the events since the turn was started are the
turn's own, with as many terminal ones as its phase says.
-/

namespace ArkClaw.Agent.RuntimeSession

open ArkClaw.Library ArkClaw.Domain ArkClaw.Provider

/-! ## Exchanges -/

/-- What a turn is started with. -/
def ActiveTurnRecord.identity (r : ActiveTurnRecord) : UserMessageCommand × ProfileId × ProviderRef :=
  (r.command, r.profileId, r.provider)

/-- A committed turn. -/
structure Exchange where
  command : UserMessageCommand
  profileId : ProfileId
  provider : ProviderRef
  answer : Text
  nonblank : ¬answer.Blank
  continuation : Option ProviderContinuation

namespace Exchange

def identity (e : Exchange) : UserMessageCommand × ProfileId × ProviderRef := (e.command, e.profileId, e.provider)

def messages (e : Exchange) : List ChatMessage := [e.command.message, ⟨.assistant, e.answer, e.nonblank⟩]

def In (e : Exchange) (sessionId : Text) (profileId : ProfileId) : Prop :=
  e.command.sessionId = sessionId ∧ e.profileId = profileId

instance (e : Exchange) (sessionId : Text) (profileId : ProfileId) : Decidable (e.In sessionId profileId) :=
  inferInstanceAs (Decidable (_ ∧ _))

/-- The message history of a session. -/
def history (log : List Exchange) (sessionId : Text) : List ChatMessage :=
  (log.filter fun e => e.command.sessionId = sessionId).flatMap messages

/-- The continuation of a session under a profile: that of its last exchange. -/
def latest (log : List Exchange) (sessionId : Text) (profileId : ProfileId) : Option ProviderContinuation :=
  ((log.filter fun e => e.In sessionId profileId).getLast?).bind (·.continuation)

/-- One more exchange adds its messages to its session's history. -/
theorem history_concat (log : List Exchange) (e : Exchange) :
    history (log ++ [e]) = Function.update (history log) e.command.sessionId
      (history log e.command.sessionId ++ e.messages) := by
  funext sessionId
  unfold history
  by_cases h : sessionId = e.command.sessionId
  · subst h
    simp
  · rw [Function.update_of_ne h]
    simp [Ne.symm h]

/-- It replaces the continuation of its session under its profile. -/
theorem latest_concat (log : List Exchange) (e : Exchange) :
    latest (log ++ [e]) = Function.update (latest log) e.command.sessionId
      (Function.update (latest log e.command.sessionId) e.profileId e.continuation) := by
  funext sessionId profileId
  unfold latest
  by_cases h : e.In sessionId profileId
  · obtain ⟨rfl, rfl⟩ := h
    simp [In]
  · have hsame : (log ++ [e]).filter (fun e => e.In sessionId profileId) = log.filter fun e => e.In sessionId profileId := by
      simp [h]
    rw [hsame]
    by_cases hsession : sessionId = e.command.sessionId
    · subst hsession
      have hprofile : profileId ≠ e.profileId := fun heq => h ⟨rfl, heq.symm⟩
      rw [Function.update_self, Function.update_of_ne hprofile]
    · rw [Function.update_of_ne hsession]

end Exchange

/-! ## What the sink got -/

/-- `TURN_COMPLETED`, `TURN_CANCELLED` or `TURN_FAILED`, as the sink gets them. -/
def RuntimeEventType.terminal : RuntimeEventType → Bool
  | .turnCompleted | .turnCancelled | .turnFailed => true
  | _ => false

/-- The number of terminal events. -/
def terminals (events : List RuntimeEvent) : Nat := (events.filter fun e => e.type.terminal).length

theorem terminals_append (events events' : List RuntimeEvent) :
    terminals (events ++ events') = terminals events + terminals events' := by
  simp [terminals]

/-- The completions, with the turns they complete. -/
def completions (events : List RuntimeEvent) : List (Text × Text) :=
  (events.filter fun e => e.type = .turnCompleted).map fun e => (e.turnId, e.text)

theorem completions_append (events events' : List RuntimeEvent) :
    completions (events ++ events') = completions events ++ completions events' := by
  simp [completions]

/-- The events belong to a turn that is not settled yet. -/
def Belong (turnId : Text) (events : List RuntimeEvent) : Prop :=
  ∀ e ∈ events, e.turnId = turnId ∧ e.type ≠ .turnSettled

theorem Belong.append {turnId : Text} {events events' : List RuntimeEvent} (h : Belong turnId events)
    (h' : Belong turnId events') : Belong turnId (events ++ events') := by
  intro e he
  rcases List.mem_append.mp he with he | he
  · exact h e he
  · exact h' e he

namespace Session

theorem relay_belongs (event : AgentEvent) : Belong event.turnId (relay event).toList := by
  intro e he
  unfold relay at he
  split at he <;> simp only [Option.toList_some, Option.toList_none, List.mem_singleton, List.not_mem_nil] at he <;>
  · subst he
    exact ⟨rfl, by simp⟩

theorem terminals_relay (event : AgentEvent) :
    terminals (relay event).toList = if terminal event.type = true then 1 else 0 := by
  unfold relay
  split <;> simp_all [terminals, terminal, RuntimeEventType.terminal]

theorem completions_relay (event : AgentEvent) :
    completions (relay event).toList = if event.type = .turnCompleted then [(event.turnId, event.text)] else [] := by
  unfold relay
  split <;> simp_all [completions]

end Session

variable (loops : ProviderRef → AgentLoop Session)

/-- The completions with a text that the loops yielded, each with its turn. -/
def Session.answers (s : Session) : List (TurnRef × AgentEvent) :=
  s.yielded.filter fun x => x.2.type = .turnCompleted ∧ ¬x.2.text.Blank

/-- The exchange is the turn's own, with what its loop yielded. -/
structure Commits (turns : List ActiveTurnRecord) (x : TurnRef × AgentEvent) (e : Exchange) : Prop where
  turn : (turns.map (·.identity))[x.1]? = some e.identity
  answer : e.answer = x.2.text
  continuation : e.continuation = x.2.continuation

/-- The session holds what the log says; the log holds what the turns came to, and the sink was told the same. -/
structure Recorded (log : List Exchange) (s : Session) : Prop where
  histories : s.histories = Exchange.history log
  continuations : s.continuations = Exchange.latest log
  answers : List.Forall₂ (Commits s.turns) s.answers log
  completed : completions s.emitted = log.map fun e => (e.command.turnId, e.answer)
  own : ∀ e ∈ log, ∀ c ∈ e.continuation, c.providerName = (loops e.provider).providerName

/-! ## A turn under way -/

/-- What there was when the turn was started, and what it was started with. -/
structure TurnBase where
  earlier : List ActiveTurnRecord
  before : List RuntimeEvent
  command : UserMessageCommand
  profileId : ProfileId
  provider : ProviderRef

namespace TurnBase

def turn (b : TurnBase) : TurnRef := b.earlier.length

/-- The record of the turn after `n` terminal events, `m` of which the loop over the agent events has taken. -/
def entry (b : TurnBase) (cancelled : Bool) (n m : Nat) : ActiveTurnRecord where
  command := b.command
  profileId := b.profileId
  provider := b.provider
  cancelled
  terminal := decide (0 < n)
  terminalEvent := decide (0 < m)

end TurnBase

/-- Which turn the session takes for the current one. -/
def Session.current (s : Session) : Option TurnRef × Option TurnRef × Bool := (s.record, s.activeTurnTask, s.turnIdle)

/-- The turn is under way, with `n` terminal events so far, `m` of them from the agent loop. -/
structure Ongoing (b : TurnBase) (n m : Nat) (s : Session) : Prop where
  recorded : ∃ log, Recorded loops log s
  turns : ∃ cancelled, s.turns = b.earlier ++ [b.entry cancelled n m]
  events : ∃ events, s.emitted = b.before ++ events ∧ Belong b.command.turnId events ∧ terminals events = n
  current : s.current = (some b.turn, some b.turn, false)

/-- What others do to the session while a turn is under way: they may cancel it. -/
structure Others (s s' : Session) : Prop where
  histories : s'.histories = s.histories
  continuations : s'.continuations = s.continuations
  yielded : s'.yielded = s.yielded
  emitted : s'.emitted = s.emitted
  current : s'.current = s.current
  turns : s'.turns = s.turns ∨
    ∃ turn ∈ s.record, s'.turns = s.turns.modify turn fun r => { r with cancelled := true }

variable {loops} {b : TurnBase} {n m : Nat} {s s' : Session}

theorem Ongoing.record (h : Ongoing loops b n m s) : s.record = some b.turn := congrArg Prod.fst h.current

theorem Others.record (h : Others s s') : s'.record = s.record := congrArg Prod.fst h.current

theorem Others.refl (s : Session) : Others s s := ⟨rfl, rfl, rfl, rfl, rfl, .inl rfl⟩

theorem Others.trans {s'' : Session} (h : Others s s') (h' : Others s' s'') : Others s s'' := by
  refine ⟨h'.histories.trans h.histories, h'.continuations.trans h.continuations, h'.yielded.trans h.yielded,
    h'.emitted.trans h.emitted, h'.current.trans h.current, ?_⟩
  rcases h.turns with hturns | ⟨turn, hturn, hturns⟩
  · rcases h'.turns with hturns' | ⟨turn', hturn', hturns'⟩
    · exact .inl (hturns'.trans hturns)
    · exact .inr ⟨turn', h.record ▸ hturn', hturns' ▸ hturns ▸ rfl⟩
  · rcases h'.turns with hturns' | ⟨turn', hturn', hturns'⟩
    · exact .inr ⟨turn, hturn, hturns'.trans hturns⟩
    · -- both cancel the turn of the same record
      obtain rfl : turn' = turn := Option.some.inj (hturn'.symm.trans (h.record.trans hturn))
      refine .inr ⟨turn', hturn, ?_⟩
      rw [hturns', hturns, List.modify_modify_eq]
      rfl

theorem map_modify_of {α β : Type} {f : α → α} {g : α → β} (hf : ∀ a, g (f a) = g a) (as : List α) (i : Nat) :
    (as.modify i f).map g = as.map g := by
  refine List.ext_getElem? fun j => ?_
  rw [List.getElem?_map, List.getElem?_map, List.getElem?_modify]
  split
  next => cases as[j]? <;> simp [hf]
  next => simp

theorem Others.identities (h : Others s s') : s'.turns.map (·.identity) = s.turns.map (·.identity) := by
  rcases h.turns with hturns | ⟨turn, -, hturns⟩
  · rw [hturns]
  · rw [hturns]
    exact map_modify_of (by exact fun _ => rfl) s.turns turn

/-- An exchange stays that of its turn when turns are added. -/
theorem Commits.mono {turns turns' : List ActiveTurnRecord} (h : turns.map (·.identity) <+: turns'.map (·.identity))
    {x : TurnRef × AgentEvent} {e : Exchange} (he : Commits turns x e) : Commits turns' x e := by
  refine ⟨?_, he.answer, he.continuation⟩
  obtain ⟨later, hlater⟩ := h
  rw [← hlater, List.getElem?_append_left (List.getElem?_eq_some_iff.mp he.turn).1]
  exact he.turn

theorem Recorded.congr {log : List Exchange} (h : Recorded loops log s) (hhistories : s'.histories = s.histories)
    (hcontinuations : s'.continuations = s.continuations) (hyielded : s'.yielded = s.yielded)
    (hturns : s.turns.map (·.identity) <+: s'.turns.map (·.identity))
    (hcompletions : completions s'.emitted = completions s.emitted) : Recorded loops log s' where
  histories := hhistories.trans h.histories
  continuations := hcontinuations.trans h.continuations
  answers := by
    unfold Session.answers
    rw [hyielded]
    exact h.answers.imp fun _ _ => Commits.mono hturns
  completed := hcompletions.trans h.completed
  own := h.own

theorem Recorded.others {log : List Exchange} (h : Recorded loops log s) (ho : Others s s') : Recorded loops log s' :=
  h.congr ho.histories ho.continuations ho.yielded (ho.identities ▸ List.prefix_rfl) (congrArg _ ho.emitted)

/-- The record of the turn is the last. -/
theorem modify_turn (b : TurnBase) (r : ActiveTurnRecord) (f : ActiveTurnRecord → ActiveTurnRecord) :
    (b.earlier ++ [r]).modify b.turn f = b.earlier ++ [f r] := by
  show (b.earlier ++ [r]).modify b.earlier.length f = _
  induction b.earlier with
  | nil => rfl
  | cons a rest ih => exact congrArg (a :: ·) ih

theorem Ongoing.others (h : Ongoing loops b n m s) (ho : Others s s') : Ongoing loops b n m s' := by
  obtain ⟨log, hlog⟩ := h.recorded
  obtain ⟨cancelled, hturns⟩ := h.turns
  refine ⟨⟨log, hlog.others ho⟩, ?_, ho.emitted ▸ h.events, ho.current.trans h.current⟩
  rcases ho.turns with hsame | ⟨turn, hturn, hmodified⟩
  · exact ⟨cancelled, hsame.trans hturns⟩
  · obtain rfl : turn = b.turn := Option.some.inj (Eq.trans (Eq.symm hturn) h.record)
    exact ⟨true, by rw [hmodified, hturns, modify_turn]; rfl⟩

/-! ## The events of the agent loop -/

/-- A terminal event is marked in the record of the turn. -/
theorem mark_eq {cancelled : Bool} (hrecord : s.record = some b.turn) (hturns : s.turns = b.earlier ++ [b.entry cancelled n m]) :
    (s.onTurn b.turn fun r => { r with terminalEvent := true }).markTerminal b.command.turnId =
      { s with turns := b.earlier ++ [b.entry cancelled (n + 1) (m + 1)] } := by
  have hnoted : (s.onTurn b.turn fun r => { r with terminalEvent := true }).turns =
      b.earlier ++ [{ b.entry cancelled n m with terminalEvent := true }] := by
    show s.turns.modify b.turn _ = _
    rw [hturns, modify_turn]
  unfold Session.markTerminal
  rw [show (s.onTurn b.turn fun r => { r with terminalEvent := true }).record = some b.turn from hrecord]
  show ({ s with turns := (s.onTurn b.turn fun r => { r with terminalEvent := true }).turns.modify b.turn _ } : Session) = _
  rw [hnoted, modify_turn]
  simp [TurnBase.entry]

/-- What the sink gets is appended, and what is committed with it is one more exchange. -/
theorem Ongoing.extend (h : Ongoing loops b n m s) (hlog : ∃ log, Recorded loops log s')
    {new : List RuntimeEvent} (hemitted : s'.emitted = s.emitted ++ new) (hnew : Belong b.command.turnId new)
    {m' : Nat} (hturns : ∃ cancelled, s'.turns = b.earlier ++ [b.entry cancelled (n + terminals new) m'])
    (hcurrent : s'.current = s.current) : Ongoing loops b (n + terminals new) m' s' := by
  obtain ⟨events, hevents, hbelong, hterminals⟩ := h.events
  refine ⟨hlog, hturns, ⟨events ++ new, ?_, hbelong.append hnew, ?_⟩, hcurrent.trans h.current⟩
  · rw [hemitted, hevents, List.append_assoc]
  · rw [terminals_append, hterminals]

/-- An event that the loop over the agent events has taken. -/
theorem Ongoing.taken (h : Ongoing loops b n m s) {e : AgentEvent} (hid : e.turnId = b.command.turnId)
    {s₁ : Session} (hlog : ∃ log, Recorded loops log (s₁.processAgentEvent e))
    (hemitted : s₁.emitted = s.emitted) (hturns : s₁.turns = s.turns) (hcurrent : s₁.current = s.current) :
    Wp (do
      modify fun s => s.processAgentEvent e
      if terminal e.type then
        modify fun s => (s.onTurn b.turn fun r => { r with terminalEvent := true }).markTerminal b.command.turnId :
      EStateM LoopError Session Unit)
      (fun _ s' => Ongoing loops b (n + if terminal e.type = true then 1 else 0)
        (m + if terminal e.type = true then 1 else 0) s')
      (fun _ _ => False) s₁ := by
  obtain ⟨cancelled, hentry⟩ := h.turns
  obtain ⟨log, hlog⟩ := hlog
  have hbelong : Belong b.command.turnId (Session.relay e).toList := hid ▸ Session.relay_belongs e
  have hrelayed : (s₁.processAgentEvent e).emitted = s.emitted ++ (Session.relay e).toList :=
    congrArg (· ++ (Session.relay e).toList) hemitted
  have hterminals := Session.terminals_relay e
  refine wp_modify_bind.mpr (wp_ite.mpr ⟨fun hterminal => ?_, fun hnot => ?_⟩)
  · rw [if_pos hterminal] at hterminals ⊢
    refine wp_modify.mpr ?_
    rw [mark_eq (s := s₁.processAgentEvent e) ((congrArg Prod.fst hcurrent).trans h.record) (hturns.trans hentry)]
    rw [← hterminals]
    refine h.extend ?_ ?_ hbelong ?_ ?_
    · refine ⟨log, hlog.congr rfl rfl rfl ?_ rfl⟩
      rw [show (s₁.processAgentEvent e).turns = b.earlier ++ [b.entry cancelled n m] from hturns.trans hentry]
      simp [ActiveTurnRecord.identity, TurnBase.entry]
    · exact hrelayed
    · exact ⟨cancelled, by rw [hterminals]⟩
    · exact hcurrent
  · rw [if_neg hnot] at hterminals ⊢
    rw [← hterminals]
    refine h.extend ⟨log, hlog⟩ hrelayed hbelong ⟨cancelled, ?_⟩ hcurrent
    rw [hterminals]
    exact hturns.trans hentry

/-- What is yielded and commits nothing leaves the log as it is. -/
theorem Recorded.yields {log : List Exchange} (h : Recorded loops log s) {x : TurnRef × AgentEvent}
    (hx : ¬(x.2.type = .turnCompleted ∧ ¬x.2.text.Blank)) :
    Recorded loops log { s with yielded := s.yielded ++ [x] } where
  histories := h.histories
  continuations := h.continuations
  answers := by
    have hsame : Session.answers { s with yielded := s.yielded ++ [x] } = s.answers := by
      simp only [Session.answers, List.filter_append, List.filter_singleton, decide_eq_false hx, Bool.cond_false,
        List.append_nil]
    rw [hsame]
    exact h.answers
  completed := h.completed
  own := h.own

/-- The loop over the agent events takes an event; it refuses a completion without a text. -/
theorem takeEvent_wp (h : Ongoing loops b n m s) {e : AgentEvent}
    (hown : (loops b.provider).Own b.command.turnId (.yields e)) (hfirst : e.type = .turnCompleted → n = 0 ∧ m = 0) :
    Wp (Session.takeEvent b.turn b.command b.profileId e)
      (fun _ s' => Ongoing loops b (n + if terminal e.type = true then 1 else 0)
        (m + if terminal e.type = true then 1 else 0) s')
      (fun err s' => err = .other ∧ Ongoing loops b 0 0 s') s := by
  obtain ⟨hid, hcontinuation⟩ := hown
  obtain ⟨log, hlog⟩ := h.recorded
  obtain ⟨cancelled, hentry⟩ := h.turns
  have hcompletions : ∀ s₁ : Session, s₁.emitted = s.emitted → completions (s₁.processAgentEvent e).emitted =
      completions s.emitted ++ if e.type = .turnCompleted then [(e.turnId, e.text)] else [] := by
    intro s₁ hemitted
    rw [← Session.completions_relay, ← completions_append, ← hemitted]
    rfl
  unfold Session.takeEvent
  refine wp_modify_bind.mpr (wp_ite.mpr ⟨fun hcompleted => wp_bind.mpr ?_, fun hnot => ?_⟩)
  · obtain ⟨rfl, rfl⟩ := hfirst hcompleted
    unfold Session.commitCompletedTurn ChatMessage.create?
    by_cases hblank : e.text.Blank
    · rw [dif_pos hblank]
      refine wp_throw.mpr ⟨rfl, h.extend ⟨log, hlog.yields fun hx => hx.2 hblank⟩ (List.append_nil _).symm ?_
        ⟨cancelled, hentry⟩ rfl⟩
      exact fun _ hmem => (by cases hmem)
    · rw [dif_neg hblank]
      refine wp_modify.mpr ((h.taken hid ?_ ?_ ?_ ?_).mono (fun _ _ => id) fun _ _ => False.elim)
      rotate_left
      · rfl
      · rfl
      · rfl
      refine ⟨log ++ [⟨b.command, b.profileId, b.provider, e.text, hblank, e.continuation⟩], ?_, ?_, ?_, ?_, ?_⟩
      · rw [Exchange.history_concat, ← hlog.histories]
        rfl
      · rw [Exchange.latest_concat, ← hlog.continuations]
        rfl
      · have hadded : (s.yielded ++ [(b.turn, e)]).filter (fun x => x.2.type = .turnCompleted ∧ ¬x.2.text.Blank) =
            s.answers ++ [(b.turn, e)] := by
          rw [List.filter_append, List.filter_singleton, decide_eq_true ⟨hcompleted, hblank⟩]
          rfl
        have hturn : (s.turns.map (·.identity))[b.turn]? = some (b.command, b.profileId, b.provider) := by
          simp [hentry, TurnBase.turn, TurnBase.entry, ActiveTurnRecord.identity]
        show List.Forall₂ (Commits s.turns) ((s.yielded ++ [(b.turn, e)]).filter _) _
        rw [hadded]
        exact List.rel_append hlog.answers (.cons ⟨hturn, rfl, rfl⟩ .nil)
      · refine (hcompletions _ ?_).trans ?_
        · rfl
        · rw [if_pos hcompleted, hlog.completed, hid, List.map_append]
          rfl
      · intro x hx
        rcases List.mem_append.mp hx with hx | hx
        · exact hlog.own x hx
        · cases List.mem_singleton.mp hx
          exact hcontinuation
  · refine (h.taken hid ⟨log, ?_⟩ ?_ ?_ ?_).mono (fun _ _ => id) fun _ _ => False.elim
    rotate_left
    · rfl
    · rfl
    · rfl
    refine (hlog.yields fun hx => hnot hx.1).congr rfl rfl rfl List.prefix_rfl ?_
    refine (hcompletions _ ?_).trans ?_
    · rfl
    · rw [if_neg hnot, List.append_nil]

/-! ## The task of a turn -/

section

variable (loops)

/-- Every stream of every loop can be closed where a turn may end. -/
def Clean : Prop := ∀ provider command input, (loops provider).Clean command input

/-- No loop raises `CancelledError`. -/
def Quiet : Prop := ∀ provider command input, (loops provider).Quiet command input

/-- Others act while the task is suspended, where the turn is under way. -/
def turnAwaits (b : TurnBase) : Coroutine.Interpretation LoopPoint WakeUp Session LoopError :=
  Coroutine.interference (fun _ => Others) fun _ s => ∃ n m, Ongoing loops b n m s

/-- What an exception of the loop over the agent events leaves: a completion was refused, or `CancelledError` was
raised. -/
structure Raised (b : TurnBase) (e : LoopError) (s : Session) : Prop where
  cancelled : e = .cancelled → (∃ n m, Ongoing loops b n m s ∧ n ≤ 2) ∧ ¬Quiet loops
  refused : e ≠ .cancelled → Ongoing loops b 0 0 s

end

theorem terminals_le (phase : Phase) : phase.terminals ≤ 2 := by
  cases phase <;> decide

/-- A completion is the first terminal event of a turn. -/
theorem completes_first {phase phase' : Phase} {e : AgentEvent} (hnext : phase.next e = some phase')
    (hcompleted : e.type = .turnCompleted) : phase.terminals = 0 := by
  cases phase with
  | fresh => rfl
  | running => rfl
  | resting => rfl
  | ended => simp [Phase.next, hcompleted] at hnext
  | finished => simp [Phase.next, hcompleted] at hnext
  | relapsed => simp [Phase.next, hcompleted] at hnext
  | endedTwice => simp [Phase.next, hcompleted] at hnext
  | finishedTwice => cases hnext

/-- The session follows the phases of the turn. -/
theorem consumes_turn : Consumes ((Coroutine.served (Session.takes b.turn b.command b.profileId)
      (turnAwaits loops b)).atPoints ((loops b.provider).Own b.command.turnId))
    (fun phase s => Ongoing loops b phase.terminals phase.terminals s) (Raised loops b) where
  yields := by
    intro phase phase' e s Q hnext hs hQ hown
    obtain ⟨-, -, hterminals, -⟩ := Phase.next_marks hnext
    have hfirst : e.type = .turnCompleted → phase.terminals = 0 ∧ phase.terminals = 0 :=
      fun hcompleted => ⟨completes_first hnext hcompleted, completes_first hnext hcompleted⟩
    refine wp_bind.mpr ((takeEvent_wp hs hown hfirst).mono ?_ ?_)
    · intro _ s' hs'
      rw [← hterminals] at hs'
      exact wp_pure.mpr (hQ .arrives s' hs')
    · rintro err s' ⟨rfl, hs'⟩
      exact ⟨fun he => (by cases he), fun _ => hs'⟩
  waits := by
    intro phase p s Q hp hs hQ _
    cases p with
    | yields e => exact absurd rfl (hp e)
    | starting | reading | executing | closing => exact ⟨⟨_, _, hs⟩, fun s' ho w => hQ w s' (hs.others ho)⟩

/-- A failure of the turn itself is its terminal event. -/
theorem Ongoing.fail (h : Ongoing loops b 0 0 s) (safeCode safeMessage : Text) :
    Ongoing loops b 1 0 (s.fail b.command safeCode safeMessage) := by
  obtain ⟨log, hlog⟩ := h.recorded
  obtain ⟨cancelled, hturns⟩ := h.turns
  generalize hevent : ({ type := .turnFailed, turnId := b.command.turnId, safeCode, safeMessage } : RuntimeEvent) = event
  have hmarked : s.fail b.command safeCode safeMessage =
      { s with emitted := s.emitted ++ [event], turns := b.earlier ++ [b.entry cancelled 1 0] } := by
    unfold Session.fail Session.markTerminal
    rw [hevent, show (s.emit event).record = some b.turn from h.record]
    show ({ s with emitted := s.emitted ++ [event], turns := s.turns.modify b.turn _ } : Session) = _
    rw [hturns, modify_turn]
    simp [TurnBase.entry]
  have hterminals : terminals [event] = 1 := by
    subst hevent
    rfl
  rw [hmarked, ← hterminals, ← Nat.zero_add (terminals [event])]
  refine h.extend ⟨log, ?_⟩ ?_ ?_ ⟨cancelled, ?_⟩ ?_
  · refine hlog.congr rfl rfl rfl ?_ ?_
    · rw [hturns]
      simp [ActiveTurnRecord.identity, TurnBase.entry]
    · subst hevent
      exact (completions_append _ _).trans (List.append_nil _)
  · rfl
  · intro e he
    subst hevent
    cases List.mem_singleton.mp he
    exact ⟨rfl, by simp⟩
  · rfl
  · rfl

/-- The task of a turn leads to one terminal event of the turn, or to a second one if the loop is not clean; it raises
`CancelledError` only if the loop does. -/
theorem runTurn_wp (h : Ongoing loops b 0 0 s) :
    (runTurn (loops b.provider) b.turn b.command b.profileId).Wp (turnAwaits loops b)
      (fun _ s' => ∃ n m, Ongoing loops b n m s' ∧ (n = 1 ∨ n = 2 ∧ ¬Clean loops))
      (fun _ s' => ∃ n m, Ongoing loops b n m s' ∧ n ≤ 2 ∧ ¬Quiet loops) s := by
  refine Coroutine.wp_bind.mpr (Coroutine.wp_get.mpr (Coroutine.wp_bind.mpr ?_))
  refine Coroutine.wp_attempt.mpr (Coroutine.wp_serve.mpr ?_)
  have hcancelled : ∀ (input : AgentLoop.RunInput) (s : Session),
      (∃ phase : Phase, Ongoing loops b phase.terminals phase.terminals s) →
      ¬(loops b.provider).Quiet b.command input → Raised loops b .cancelled s := by
    rintro input s ⟨phase, hs⟩ hnot
    exact ⟨fun _ => ⟨⟨_, _, hs, terminals_le phase⟩, fun hquiet => hnot (hquiet _ _ _)⟩, fun he => (he rfl).elim⟩
  refine (Coroutine.Wp.of_reads (AgentLoop.run_wp consumes_turn b.command _ (hcancelled _) h)
    (AgentLoop.run_own b.command _)).mono ?_ ?_
  · rintro - s' hs'
    obtain ⟨n, hs', hn⟩ : ∃ n, Ongoing loops b n n s' ∧ (n = 1 ∨ n = 2 ∧ ¬Clean loops) := by
      rcases hs' with hs' | ⟨hs', hnot⟩
      · exact ⟨1, hs', .inl rfl⟩
      · exact ⟨2, hs', .inr ⟨rfl, fun hclean => hnot (hclean _ _ _)⟩⟩
    refine Coroutine.wp_bind.mpr (Coroutine.wp_get.mpr (Coroutine.wp_ite.mpr ⟨fun hmissing => ?_, fun _ => ?_⟩))
    · -- the loop over the agent events has seen a terminal one
      obtain ⟨cancelled, hturns⟩ := hs'.turns
      have hentry : s'.turns[b.turn]? = some (b.entry cancelled n n) := by
        rw [hturns]
        exact List.getElem?_concat_length
      rw [hentry] at hmissing
      have hpos : 0 < n := by omega
      simp [TurnBase.entry, hpos] at hmissing
    · exact Coroutine.wp_pure.mpr ⟨n, n, hs', hn⟩
  · intro e s' hs'
    have hfails : e ≠ .cancelled → ∃ n m, Ongoing loops b n m
        (s'.fail b.command (lit "runtime_turn_failed") (lit "The Agent turn failed safely.")) ∧
          (n = 1 ∨ n = 2 ∧ ¬Clean loops) :=
      fun he => ⟨1, 0, (hs'.refused he).fail _ _, .inl rfl⟩
    cases e with
    | cancelled =>
      obtain ⟨⟨n, m, hs', hn⟩, hnot⟩ := hs'.cancelled rfl
      exact Coroutine.wp_raise.mpr ⟨n, m, hs', hn, hnot⟩
    | timeout | contextBudget | provider | other => exact hfails (by simp)

/-! ## What a turn leaves alone -/

/-- The part of the session that is the commands' own. -/
def Session.frame (s : Session) : RuntimeState × Bool × Option ProviderRef × List ProviderRef :=
  (s.state, s.acceptingCommands, s.agentLoop, s.turns.map (·.provider))

theorem onTurn_frame (s : Session) (turn : TurnRef) {f : ActiveTurnRecord → ActiveTurnRecord}
    (hf : ∀ r, (f r).provider = r.provider) : (s.onTurn turn f).frame = s.frame :=
  congrArg (fun providers => (s.state, s.acceptingCommands, s.agentLoop, providers)) (map_modify_of hf s.turns turn)

theorem markTerminal_frame (s : Session) (turnId : Text) : (s.markTerminal turnId).frame = s.frame := by
  unfold Session.markTerminal
  split
  next =>
    refine onTurn_frame _ _ fun r => ?_
    split <;> rfl
  next => rfl

theorem takeEvent_frame (turn : TurnRef) (command : UserMessageCommand) (profileId : ProfileId) (event : AgentEvent)
    {f : RuntimeState × Bool × Option ProviderRef × List ProviderRef} (h : s.frame = f) :
    Wp (Session.takeEvent turn command profileId event) (fun _ s' => s'.frame = f) (fun _ s' => s'.frame = f) s := by
  have hrest : ∀ s : Session, s.frame = f → Wp (do
      modify fun s => s.processAgentEvent event
      if terminal event.type then
        modify fun s => (s.onTurn turn fun r => { r with terminalEvent := true }).markTerminal command.turnId :
      EStateM LoopError Session Unit) (fun _ s' => s'.frame = f) (fun _ s' => s'.frame = f) s := by
    intro s hs
    refine wp_modify_bind.mpr (wp_ite.mpr ⟨fun _ => ?_, fun _ => hs⟩)
    refine wp_modify.mpr ((markTerminal_frame _ _).trans ((onTurn_frame _ _ ?_).trans hs))
    exact fun _ => rfl
  unfold Session.takeEvent
  refine wp_modify_bind.mpr (wp_ite.mpr ⟨fun _ => wp_bind.mpr ?_, fun _ => hrest _ h⟩)
  unfold Session.commitCompletedTurn
  split
  next => exact wp_throw.mpr h
  next => exact wp_modify.mpr (hrest _ h)

theorem runTurn_frame (loop : AgentLoop Session) (turn : TurnRef) (command : UserMessageCommand) (profileId : ProfileId)
    (f : RuntimeState × Bool × Option ProviderRef × List ProviderRef) :
    (runTurn loop turn command profileId).Preserves fun s => s.frame = f := by
  have hserved : ∀ p d, Session.takes turn command profileId p = .inr d →
      ∀ s : Session, s.frame = f → (stateAfter d s).frame = f := by
    intro p d hp s hs
    cases p with
    | yields event =>
      obtain rfl := Sum.inr.inj hp
      refine Wp.stateAfter (P := fun s : Session => s.frame = f) (wp_bind.mpr ?_)
      exact (takeEvent_frame turn command profileId event hs).imp (fun _ _ => id)
    | _ => cases hp
  refine .bind .get fun _ => .bind (.attempt (.serve (AgentLoop.run_own command _).preserves hserved)) fun result => ?_
  have hfail : ∀ (safeCode safeMessage : Text) (s : Session), s.frame = f → (s.fail command safeCode safeMessage).frame = f :=
    fun _ _ s hs => (markTerminal_frame _ _).trans hs
  split
  next => exact .bind .get fun _ => .ite (.modify (hfail _ _)) trivial
  next => exact trivial
  next => exact .modify (hfail _ _)

end ArkClaw.Agent.RuntimeSession
