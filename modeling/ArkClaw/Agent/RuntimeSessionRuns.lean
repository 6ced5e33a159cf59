import ArkClaw.Agent.RuntimeSessionLaws

/-!
# Runs of the runtime session

Whatever is called, cancelled or interleaved, a run of the system is a run of the runtime behind the lock in which only
`Act`s are done to it and in which the providers are closed for a shutdown only when the session is `Quiesced`
(`step_continues`). So the session is sound in every reachable state.
-/

namespace ArkClaw.Agent.RuntimeSession

open ArkClaw.Library ArkClaw.Domain ArkClaw.Provider
open ArkClaw.Provider.ProfileService (ActiveTurnHandling Activation Answer Failure Mutation)

variable {loops : ProviderRef → AgentLoop Session} {t : Runtime} {f : Runtime → Runtime} {P : Runtime → Prop}
  {s : System} {l : Shared}
variable {s₀ : System}

/-! ## What is done to the runtime -/

section

variable (loops)

/-- What is done to the runtime without the lock. -/
inductive Act (t : Runtime) : (Runtime → Runtime) → Prop
  | startTurn (content sessionId : Text) (turnId : TurnId) : Act t fun t => (t.startTurn loops content sessionId turnId).2
  | turn (w : WakeUp) : Act t fun t => t.advanceTurn w
  | turnDone : Act t Runtime.settleTurn
  | metadata (m : Mutation) : Act t fun t => { t with service := m.apply t.service }
  | coordinate (oldProfileId : ProfileId) (handling : ActiveTurnHandling) :
      Act t fun t => { t with session := (t.session.prepareForProviderSwitch oldProfileId handling).2 }
  | beginShutdown (opened : t.session.state ≠ .closed) : Act t fun t => { t with session := t.session.beginShutdown }

end

/-- The writes of the commands that hold the lock keep `P`. -/
structure CommandsKeep (P : Runtime → Prop) : Prop where
  service : ∀ t service, P t → P { t with service }
  coordinate : ∀ t oldProfileId handling, P t →
    P { t with session := (t.session.prepareForProviderSwitch oldProfileId handling).2 }
  activated : ∀ t provider, P t → P { t with session := { t.session with agentLoop := some provider } }
  closed : ∀ t, P t → P { t with session := { t.session with agentLoop := none, state := .closed, agentState := .idle } }

theorem CommandsKeep.onService {α : Type} (h : CommandsKeep P) (c : ProfileService.Operation α) :
    (onService c).Preserves P := by
  refine .within h.service fun p => ?_
  cases p with
  | closing provider profile => exact fun _ => trivial
  | coordinating oldProfileId newProfileId handling profile =>
    refine .bind .get fun s => .bind (.modify fun t ht => h.coordinate t oldProfileId handling ht) fun _ => ?_
    split
    next => exact trivial
    next => exact .bind (fun _ => trivial) fun _ => .bind .get fun _ => trivial

theorem CommandsKeep.body (h : CommandsKeep P) (op : RuntimeCall) : op.body.Preserves P := by
  cases op with
  | activateProfile a =>
    refine (h.onService _).attempt.bind fun result => ?_
    split
    next provider => exact .bind (.modify fun t ht => h.activated t provider ht) fun _ => trivial
    next => exact trivial
    next => exact trivial
  | shutdown =>
    refine (h.onService _).attempt.bind fun result => ?_
    split
    next => exact .bind (.modify h.closed) fun _ => trivial
    next => exact trivial
    next => exact trivial

theorem keep_sound : CommandsKeep (Sound loops) where
  service _ service h := h.others (.refl _) service
  coordinate t _ _ h := h.others (prepareForProviderSwitch_others _ _ _) t.service
  activated t provider h :=
    h.others (⟨rfl, rfl, rfl, rfl, rfl, .inl rfl⟩ : Others t.session { t.session with agentLoop := some provider }) t.service
  closed t h :=
    h.others (⟨rfl, rfl, rfl, rfl, rfl, .inl rfl⟩ : Others t.session { t.session with
      agentLoop := none, state := .closed, agentState := .idle }) t.service

theorem Act.sound (h : Act loops t f) (ht : Sound loops t) : Sound loops (f t) := by
  cases h with
  | startTurn content sessionId turnId => exact startTurn_sound ht content sessionId turnId
  | turn w => exact advanceTurn_sound ht w
  | turnDone => exact settleTurn_sound ht
  | metadata m => exact ht.others (.refl _) _
  | coordinate oldProfileId handling => exact ht.others (prepareForProviderSwitch_others _ _ _) t.service
  | beginShutdown opened =>
    have ho : Others t.session t.session.beginShutdown := ⟨rfl, rfl, rfl, rfl, rfl, .inl rfl⟩
    exact ht.others ho t.service

/-! ## A session that closes -/

/-- The session closes, with its turns counted. -/
def Barred (turns : Nat) (t : Runtime) : Prop := t.session.state ≠ .ready ∧ t.session.turns.length = turns

/-- No turn runs, and none will. -/
def Quiesced (t : Runtime) : Prop := t.session.state ≠ .ready ∧ t.task = none

theorem prepareForProviderSwitch_frame (s : Session) (oldProfileId : ProfileId) (handling : ActiveTurnHandling) :
    (s.prepareForProviderSwitch oldProfileId handling).2.frame = s.frame := by
  rcases prepareForProviderSwitch_cases s oldProfileId handling with
    ⟨-, h⟩ | ⟨turn, -, ⟨-, h⟩ | ⟨s', rfl | rfl, ⟨-, h⟩ | ⟨outcome, -, h⟩⟩⟩ <;> rw [h]
  · exact onTurn_frame s turn (f := _) fun _ => rfl
  · exact onTurn_frame s turn (f := _) fun _ => rfl

theorem Barred.frame {turns : Nat} (h : Barred turns t) {t' : Runtime} (hframe : t'.session.frame = t.session.frame) :
    Barred turns t' := by
  have hlength := congrArg (·.2.2.2.length) hframe
  simp only [Session.frame, List.length_map] at hlength
  exact ⟨fun hready => h.1 ((congrArg Prod.fst hframe).symm.trans hready), hlength.trans h.2⟩

theorem keep_barred (turns : Nat) : CommandsKeep (Barred turns) where
  service _ _ h := h
  coordinate t oldProfileId handling h := h.frame (prepareForProviderSwitch_frame t.session oldProfileId handling)
  activated _ _ h := h
  closed _ h := ⟨fun hready => (by cases hready), h.2⟩

theorem keep_quiesced : CommandsKeep Quiesced where
  service _ _ h := h
  coordinate t oldProfileId handling h :=
    ⟨((Barred.frame ⟨h.1, rfl⟩ (prepareForProviderSwitch_frame t.session oldProfileId handling) : Barred _ _)).1, h.2⟩
  activated _ _ h := h
  closed _ h := ⟨fun hready => (by cases hready), h.2⟩

theorem startTurn_closing (hclosing : t.session.state ≠ .ready) (content sessionId : Text) (turnId : TurnId) :
    (t.startTurn loops content sessionId turnId).2 = t := by
  rcases startTurn_cases loops t content sessionId turnId with ⟨-, hsame⟩ | ⟨hready, -⟩
  · exact hsame
  · exact (hclosing (ready_of_requireReady hready)).elim

theorem settleTurn_frame (t : Runtime) : t.settleTurn.session.frame = t.session.frame ∧ t.settleTurn.task = t.task := by
  have hreleased : ∀ (s : Session) (turn : TurnRef), (s.releaseFinishedTurn turn).frame = s.frame := by
    intro s turn
    unfold Session.releaseFinishedTurn
    split <;> rfl
  unfold Runtime.settleTurn
  split
  next turn _ _ =>
    refine ⟨?_, rfl⟩
    unfold Session.onTurnDone
    dsimp only
    split
    next => exact hreleased t.session turn
    next => exact hreleased t.session turn
  next => exact ⟨rfl, rfl⟩

/-- Nothing starts a turn in a session that closes. -/
theorem Act.barred {turns : Nat} (h : Act loops t f) (hsound : Sound loops t) (ht : Barred turns t) : Barred turns (f t) := by
  cases h with
  | startTurn content sessionId turnId =>
    show Barred turns (t.startTurn loops content sessionId turnId).2
    rw [startTurn_closing ht.1]
    exact ht
  | turn w => exact ht.frame (advanceTurn_frame hsound w)
  | turnDone => exact ht.frame (settleTurn_frame t).1
  | metadata m => exact ht
  | coordinate oldProfileId handling => exact ht.frame (prepareForProviderSwitch_frame t.session oldProfileId handling)
  | beginShutdown opened => exact ⟨fun hready => (by cases hready), ht.2⟩

theorem Act.quiesced (h : Act loops t f) (hsound : Sound loops t) (ht : Quiesced t) : Quiesced (f t) := by
  refine ⟨(h.barred hsound (⟨ht.1, rfl⟩ : Barred _ t)).1, ?_⟩
  cases h with
  | startTurn content sessionId turnId =>
    show (t.startTurn loops content sessionId turnId).2.task = none
    rw [startTurn_closing ht.1]
    exact ht.2
  | turn w =>
    show (t.advanceTurn w).task = none
    rw [advanceTurn_of_none ht.2]
    exact ht.2
  | turnDone => exact (settleTurn_frame t).2.trans ht.2
  | metadata m => exact ht.2
  | coordinate oldProfileId handling => exact ht.2
  | beginShutdown opened => exact ht.2

/-! ## The lock -/

section

variable (loops)

/-- Whatever happens keeps `P`. -/
structure Kept (P : Runtime → Prop) : Prop extends CommandsKeep P where
  acts : ∀ f t, Act loops t f → Sound loops t → P t → P (f t)

/-- The providers are closed for a shutdown once no turn runs, and none will. -/
def RuntimeCall.Pre : RuntimeCall → Runtime → Prop
  | .activateProfile _, _ => True
  | .shutdown, t => Quiesced t

/-- What happens to the runtime behind its lock. -/
abbrev Allowed : Shared → SharedEvent → Prop :=
  Locked.AllowsCalls (fun _ t f => Act loops t f ∧ Sound loops t) RuntimeCall.Pre

end

theorem kept_sound : Kept loops (Sound loops) := ⟨keep_sound, fun _ _ hf hsound _ => hf.sound hsound⟩

theorem kept_barred (turns : Nat) : Kept loops (Barred turns) := ⟨keep_barred turns, fun _ _ hf hsound => hf.barred hsound⟩

theorem Kept.reaches (hP : Kept loops P) {l' : Shared} (h : Reaches Shared.step (Allowed loops) l l')
    (hholder : ∀ held ∈ l.holder, held.2.Preserves P) (hl : P l.shared) : P l'.shared := by
  have hkeeps : ∀ l event, (∀ held ∈ l.holder, held.2.Preserves P) ∧ P l.shared → Allowed loops l event →
      (∀ held ∈ (Shared.step l event).holder, held.2.Preserves P) ∧ P (Shared.step l event).shared := by
    intro l event hl hok
    refine ⟨Locked.step_holder hP.body l event hl.1, Locked.step_shared hP.body l event ?_ hl.1 hl.2⟩
    rintro f rfl ht
    exact hP.acts f _ hok.1 hok.2 ht
  exact (h.invariant hkeeps ⟨hholder, hl⟩).2

/-- The session is sound, the command that holds the lock keeps what commands keep, and where a shutdown waits for a
turn no later turn is started. -/
structure Healthy (loops : ProviderRef → AgentLoop Session) (s : System) : Prop where
  sound : Sound loops s.shared
  holder : ∀ P, CommandsKeep P → ∀ held ∈ s.locked.holder, held.2.Preserves P
  closing : ∀ turn, .closing turn ∈ s.pending → Barred (turn + 1) s.shared

/-- The runtime went on behind its lock only. -/
structure Continues (loops : ProviderRef → AgentLoop Session) (s s' : System) : Prop where
  healthy : Healthy loops s'
  reaches : Reaches Shared.step (Allowed loops) s.locked s'.locked

theorem Healthy.continues (h : Healthy loops s) : Continues loops s s := ⟨h, .refl _ _ _⟩

theorem Kept.lock (hP : Kept loops P) (h : Healthy loops s) {event : SharedEvent} (hok : Allowed loops s.locked event)
    (hs : P s.shared) : P (s.lock event).shared := by
  refine Locked.step_shared hP.body s.locked event ?_ (h.holder P hP.toCommandsKeep) hs
  rintro f rfl ht
  exact hP.acts f _ hok.1 hok.2 ht

theorem Continues.lock (h : Continues loops s₀ s) {event : SharedEvent} (hok : Allowed loops s.locked event) :
    Continues loops s₀ (s.lock event) where
  healthy :=
    { sound := kept_sound.lock h.healthy hok h.healthy.sound
      holder := fun P hP => Locked.step_holder hP.body s.locked event (h.healthy.holder P hP)
      closing := fun turn hturn => (kept_barred _).lock h.healthy hok (h.healthy.closing turn hturn) }
  reaches := h.reaches.tail hok

theorem Continues.mutate (h : Continues loops s₀ s) (hf : Act loops s.shared f) : Continues loops s₀ (s.mutate f) :=
  h.lock ⟨hf, h.healthy.sound⟩

theorem Continues.answer (h : Continues loops s₀ s) (result : Except Failure RuntimeCommandResult) :
    Continues loops s₀ (s.answer result) :=
  ⟨⟨h.healthy.sound, h.healthy.holder, h.healthy.closing⟩, h.reaches⟩

/-- What waits for a turn may change, if no later turn is started where a shutdown waits. -/
theorem Continues.waits (h : Continues loops s₀ s) {pending : List Pending}
    (hclosing : ∀ turn, .closing turn ∈ pending → .closing turn ∈ s.pending ∨ Barred (turn + 1) s.shared) :
    Continues loops s₀ { s with pending } := by
  refine ⟨⟨h.healthy.sound, h.healthy.holder, fun turn hturn => ?_⟩, h.reaches⟩
  rcases hclosing turn hturn with hturn | hbarred
  · exact h.healthy.closing turn hturn
  · exact hbarred

/-! ## The commands -/

theorem Sound.task_eq_none (h : Sound loops t) (hrecord : t.session.record = none) : t.task = none := by
  cases h with
  | idle log recorded task => exact task
  | running b n m c task settled ongoing => exact absurd (hrecord.symm.trans ongoing.record) (by simp)
  | past b r own log recorded task => exact task

/-- The current turn is the last. -/
theorem Sound.length_turns (h : Sound loops t) {turn : TurnRef} (hrecord : t.session.record = some turn) :
    t.session.turns.length = turn + 1 := by
  obtain ⟨settled, blocks, -, ⟨hnone, -⟩ | ⟨r, own, hcurrent, hturns, -⟩⟩ := h.inBlocks.blocks
  · exact absurd (hnone.symm.trans hrecord) (by simp)
  · obtain rfl := Option.some.inj (hcurrent.symm.trans hrecord)
    rw [hturns, List.length_append]
    rfl

theorem Sound.record_eq_none (h : Sound loops t) (hnone : t.session.currentProfileId = none) :
    t.session.record = none := by
  cases hrecord : t.session.record with
  | none => rfl
  | some turn =>
    have hlength := h.length_turns hrecord
    unfold Session.currentProfileId Session.currentRecord at hnone
    rw [hrecord, Option.map_eq_none_iff, Option.bind_some, List.getElem?_eq_none_iff] at hnone
    omega

/-- Once the last turn is done, no turn runs. -/
theorem Sound.task_of_outcome (h : Sound loops t) {turn : TurnRef} (hlength : t.session.turns.length = turn + 1)
    (hdone : t.session.outcome turn ≠ none) : t.task = none := by
  cases h with
  | idle log recorded task => exact task
  | past b r own log recorded task => exact task
  | running b n m c task settled ongoing =>
    obtain ⟨cancelled, hturns⟩ := ongoing.turns
    rw [hturns, List.length_append] at hlength
    obtain rfl : b.turn = turn := Nat.succ.inj hlength
    refine (hdone ?_).elim
    unfold Session.outcome
    rw [hturns]
    simp [TurnBase.turn, TurnBase.entry]

theorem awaited_returned {turn : TurnRef} {answer : Answer} (h : t.session.awaited turn answer = .returned) :
    t.session.outcome turn ≠ none := by
  cases answer with
  | returned =>
    unfold Session.awaited at h
    dsimp only at h
    split at h
    next hdone => exact hdone.1
    next => cases h
  | raised => cases h
  | cancelled => cases h

/-- The coordinator returns at once only if no turn runs. -/
theorem prepareForProviderSwitch_returned (h : Sound loops t) {oldProfileId : ProfileId} {handling : ActiveTurnHandling}
    (hanswer : (t.session.prepareForProviderSwitch oldProfileId handling).1 = .answers .returned) : t.task = none := by
  have hafter := h.others (prepareForProviderSwitch_others t.session oldProfileId handling) t.service
  have hsame := (prepareForProviderSwitch_others t.session oldProfileId handling).record
  rcases prepareForProviderSwitch_cases t.session oldProfileId handling with
    ⟨hnone, -⟩ | ⟨turn, hrecord, ⟨-, hprepare⟩ | ⟨s', -, ⟨-, hprepare⟩ | ⟨outcome, hdone, hprepare⟩⟩⟩
  · exact h.task_eq_none hnone
  · rw [hprepare] at hanswer
    cases hanswer
  · rw [hprepare] at hanswer
    cases hanswer
  · rw [hprepare] at hafter hsame
    exact hafter.task_of_outcome (hafter.length_turns (hsame.trans hrecord)) (by simp [hdone])

theorem prepareForProviderSwitch_waits {s : Session} {oldProfileId : ProfileId} {handling : ActiveTurnHandling}
    {turn : TurnRef} (hanswer : (s.prepareForProviderSwitch oldProfileId handling).1 = .waits turn) :
    s.record = some turn := by
  rcases prepareForProviderSwitch_cases s oldProfileId handling with
    ⟨-, hprepare⟩ | ⟨turn', hrecord, ⟨-, hprepare⟩ | ⟨s', -, ⟨-, hprepare⟩ | ⟨outcome, -, hprepare⟩⟩⟩ <;>
    rw [hprepare] at hanswer <;> cases hanswer
  exact hrecord

theorem activateProfile_continues (h : Healthy loops s) (a : Activation) : Continues loops s (s.activateProfile a) := by
  unfold System.activateProfile
  split
  next => exact h.continues.answer _
  next =>
    split
    next => exact h.continues.answer _
    next => exact h.continues.lock trivial

theorem cancelActiveTurn_continues (h : Healthy loops s) : Continues loops s s.cancelActiveTurn := by
  unfold System.cancelActiveTurn
  split
  next => exact h.continues.answer _
  next =>
    split
    next => exact h.continues.answer _
    next profileId _ =>
      have hcoordinated : Continues loops s (s.coordinate profileId .cancelActive) := h.continues.mutate (.coordinate _ _)
      split
      next => exact hcoordinated.answer _
      next =>
        refine hcoordinated.waits fun turn hturn => .inl ?_
        rcases List.mem_append.mp hturn with hturn | hturn
        · exact hturn
        · cases List.mem_singleton.mp hturn

/-- A shutdown goes on to the providers once the coordinator has returned. -/
theorem quiesced_continues (h : Continues loops s₀ s) (hclosing : s.shared.session.state ≠ .ready)
    {answer : Answer} (hquiet : answer = .returned → s.shared.task = none) : Continues loops s₀ (s.quiesced answer) := by
  cases answer with
  | returned => exact h.lock ⟨hclosing, hquiet rfl⟩
  | raised => exact h.answer _
  | cancelled => exact h.answer _

theorem shutdown_continues (h : Healthy loops s) (cancelActive : Bool) : Continues loops s (s.shutdown cancelActive) := by
  unfold System.shutdown
  split
  next => exact h.continues.answer _
  next hopened =>
    have hbegun : Continues loops s (s.mutate fun t => { t with session := t.session.beginShutdown }) :=
      h.continues.mutate (.beginShutdown hopened)
    have hclosing : (s.mutate fun t => { t with session := t.session.beginShutdown }).shared.session.state ≠ .ready :=
      fun hready => (by cases hready)
    generalize (s.mutate fun t => { t with session := t.session.beginShutdown }) = s' at hbegun hclosing
    dsimp only
    split
    next hnone =>
      exact hbegun.lock ⟨hclosing, hbegun.healthy.sound.task_eq_none (hbegun.healthy.sound.record_eq_none hnone)⟩
    next profileId _ =>
      generalize (if cancelActive = true then ActiveTurnHandling.cancelActive else .waitForActive) = handling
      have hcoordinated : Continues loops s (s'.coordinate profileId handling) := hbegun.mutate (.coordinate _ _)
      have hframe := prepareForProviderSwitch_frame s'.shared.session profileId handling
      have hbarred : Barred s'.shared.session.turns.length (s'.coordinate profileId handling).shared :=
        Barred.frame (t := s'.shared) ⟨hclosing, rfl⟩ hframe
      split
      next answer hanswer =>
        refine quiesced_continues hcoordinated hbarred.1 ?_
        rintro rfl
        have hquiet := prepareForProviderSwitch_returned hbegun.healthy.sound hanswer
        exact hquiet
      next turn hanswer =>
        refine hcoordinated.waits fun turn' hturn => ?_
        rcases List.mem_append.mp hturn with hturn | hturn
        · exact .inl hturn
        · cases List.mem_singleton.mp hturn
          rw [hbegun.healthy.sound.length_turns (prepareForProviderSwitch_waits hanswer)] at hbarred
          exact .inr hbarred

theorem wake_continues (h : Healthy loops s) (i : Nat) (answer : Answer) : Continues loops s (s.wake i answer) := by
  have herased : Continues loops s { s with pending := s.pending.eraseIdx i } :=
    h.continues.waits fun turn hturn => .inl (List.mem_of_mem_eraseIdx hturn)
  unfold System.wake
  split
  next => exact h.continues
  next turn _ => exact herased.answer _
  next turn hturn =>
    have hbarred := h.closing turn (List.mem_of_getElem? hturn)
    exact quiesced_continues herased hbarred.1 fun hreturned =>
      h.sound.task_of_outcome hbarred.2 (awaited_returned hreturned)

/-- Whatever happens next, the runtime goes on behind its lock only. -/
theorem step_continues (h : Healthy loops s) (event : Event) : Continues loops s (s.step loops event) := by
  cases event with
  | startTurn content sessionId turnId => exact (h.continues.mutate (.startTurn content sessionId turnId)).answer _
  | activateProfile a => exact activateProfile_continues h a
  | cancelActiveTurn => exact cancelActiveTurn_continues h
  | shutdown cancelActive => exact shutdown_continues h cancelActive
  | wake i answer => exact wake_continues h i answer
  | turn w => exact h.continues.mutate (.turn w)
  | turnDone => exact h.continues.mutate .turnDone
  | metadata m => exact h.continues.mutate (.metadata m)
  | acquire i => exact h.continues.lock trivial
  | abandon i => exact h.continues.lock trivial
  | resume answer => exact h.continues.lock trivial

theorem System.Initial.healthy (h : s.Initial) (loops : ProviderRef → AgentLoop Session) : Healthy loops s := by
  obtain ⟨repository, rfl⟩ := h
  refine ⟨.idle [] ⟨rfl, rfl, .nil, rfl, fun e he => (by cases he)⟩ rfl rfl ⟨[], .nil, rfl⟩, ?_, ?_⟩
  · exact fun P _ held hheld => (by cases hheld)
  · exact fun turn hturn => (by cases hturn)

/-- The states a session may come to. -/
abbrev Reached (loops : ProviderRef → AgentLoop Session) (s : System) : Prop :=
  Reachable (System.step loops) System.Initial s

theorem Reached.healthy (h : Reached loops s) : Healthy loops s := by
  have hstart : ∀ s, System.Initial s → Healthy loops s := fun _ hs => hs.healthy loops
  exact h.invariant hstart fun _ event hs => (step_continues hs event).healthy

theorem Reached.later (h : Reached loops s) (events : List Event) : Reached loops (run (System.step loops) s events) := by
  obtain ⟨s₀, before, hs₀, rfl⟩ := h
  exact ⟨s₀, before ++ events, hs₀, run_append _ _ _ _⟩

/-- What comes later, the runtime comes to behind its lock. -/
theorem Reached.reaches (h : Reached loops s) (events : List Event) :
    Reaches Shared.step (Allowed loops) s.locked (run (System.step loops) s events).locked := by
  have hkeeps : ∀ s' event, Continues loops s s' → Continues loops s (s'.step loops event) := by
    intro s' event hs'
    have hstep := step_continues hs'.healthy event
    exact ⟨hstep.healthy, hs'.reaches.trans hstep.reaches⟩
  exact (run_invariant hkeeps s events h.healthy.continues).reaches

end ArkClaw.Agent.RuntimeSession
