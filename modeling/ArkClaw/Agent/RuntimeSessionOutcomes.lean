import ArkClaw.Agent.RuntimeSessionSwitching

/-!
# What a runtime session guarantees

In every reachable state, whatever is called, cancelled or interleaved: the sink got one block of events for each turn,
what was committed is what the completions in them say, no turn runs over a closed provider, and a shutdown is final.
-/

namespace ArkClaw.Agent.RuntimeSession

open ArkClaw.Library ArkClaw.Domain ArkClaw.Provider
open ArkClaw.Provider.ProfileService (ActiveTurnHandling Activation Answer Failure Mutation Finished
  ProviderProfileService)

variable {loops : ProviderRef → AgentLoop Session} {s : System} {t : Runtime}

/-! ## A session that answers -/

/-- Every provider answers in the same way. -/
def answering (_ : ProviderRef) : AgentLoop Session where
  providerName := lit "fake"
  generateStream _ := .ok fun _ => AgentLoop.answering
  contextManager := { systemPrompt := lit "You are a desktop companion." }
  maxTurnSeconds := lit "90"
  toolPolicy _ _ _ := .ok { outcome := .deny, reason := lit "Unknown tool." }

def twoFakes : System :=
  { locked := { shared := { service := { repository := ProfileService.twoFakes, hasTurnCoordinator := true } } } }

/-- A profile is activated. -/
def activated : System :=
  run (System.step answering) twoFakes [.activateProfile (ProfileService.activationOf .fakeDefault), .acquire 0]

def firstTurn : TurnId := ⟨lit "first", by decide⟩

/-- A turn is started. -/
def inTurn : System :=
  run (System.step answering) activated [.startTurn (lit "Hello") (lit "session-1") firstTurn, .turn .arrives]

/-- The turn ends, and its callback runs. -/
def turnEnds : List Event := List.replicate 5 (.turn .arrives) ++ [.turnDone]

theorem activated_reached : Reached answering activated := ⟨twoFakes, _, ⟨ProfileService.twoFakes, rfl⟩, rfl⟩

theorem inTurn_reached : Reached answering inTurn := activated_reached.later _

def afterTurn : System := run (System.step answering) inTurn turnEnds

theorem afterTurn_reached : Reached answering afterTurn := inTurn_reached.later turnEnds

/-! ## One block of events for each turn -/

/-- Turns never overlap, and the sink gets the events of one turn after those of another. Before its `TURN_SETTLED` a turn
that finished has one terminal event, or two where a stream cannot be closed; one that was cancelled by its loop has at
most two. -/
theorem reached_inBlocks (h : Reached loops s) : InBlocks loops s.shared.session := h.healthy.sound.inBlocks

theorem afterTurn_inBlocks : InBlocks answering afterTurn.shared.session := reached_inBlocks afterTurn_reached

/-- A settled turn of a session whose loops are clean and quiet has one terminal event. -/
theorem Block.terminals {r : ActiveTurnRecord} {events : List RuntimeEvent} (h : Block loops r events) (hclean : Clean loops)
    (hquiet : Quiet loops) : RuntimeSession.terminals events = 1 ∧
      (events.filter fun e => e.type = .turnSettled).length = 1 := by
  obtain ⟨own, ⟨hbelong, houtcome⟩, rfl⟩ := h
  have hown : RuntimeSession.terminals own = 1 := by
    rcases houtcome with ⟨-, -, hone | ⟨-, hnot⟩⟩ | ⟨-, -, hnot⟩
    · exact hone
    · exact (hnot hclean).elim
    · exact (hnot hquiet).elim
  refine ⟨?_, ?_⟩
  · rw [terminals_append, hown]
    rfl
  · have hunsettled : (own.filter fun e => e.type = .turnSettled) = [] :=
      List.filter_eq_nil_iff.mpr fun e he => by simpa using (hbelong e he).2
    rw [List.filter_append, hunsettled]
    simp

/-- If every stream can be closed where a turn may end and no loop raises `CancelledError`: whenever no turn is active,
the sink has got one terminal event and one `TURN_SETTLED` for each turn that was started. -/
theorem reached_terminals (h : Reached loops s) (hclean : Clean loops) (hquiet : Quiet loops)
    (hidle : s.shared.session.record = none) : terminals s.shared.session.emitted = s.shared.session.turns.length ∧
      (s.shared.session.emitted.filter fun e => e.type = .turnSettled).length = s.shared.session.turns.length := by
  obtain ⟨settled, blocks, hblocks, ⟨-, hturns, hemitted⟩ | ⟨r, own, hrecord, -⟩⟩ := h.healthy.sound.inBlocks.blocks
  · rw [hturns, hemitted]
    clear hturns hemitted hidle
    induction hblocks with
    | nil => exact ⟨rfl, rfl⟩
    | cons hblock _ ih =>
      obtain ⟨hterminals, hsettled⟩ := hblock.terminals hclean hquiet
      rw [List.flatten_cons, terminals_append, List.filter_append, List.length_append, List.length_cons]
      exact ⟨by omega, by omega⟩
  · rw [hrecord] at hidle
    cases hidle

/-- The loop refuses the request, or it opens the stream that answers. -/
theorem answering_opens (provider : ProviderRef) (command : UserMessageCommand) (input : AgentLoop.RunInput) :
    (∃ e, e ≠ .cancelled ∧ (answering provider).openStream command input = .error e) ∨
      (answering provider).openStream command input = .ok fun _ => AgentLoop.answering := by
  unfold AgentLoop.openStream AgentLoop.prepareRequest
  split
  next => exact .inl ⟨_, by simp, rfl⟩
  next =>
    dsimp only
    split
    next => exact .inl ⟨_, by simp, rfl⟩
    next => exact .inr rfl

theorem answering_clean : Clean answering := by
  intro provider command input opens hopens s _ e he
  rcases answering_opens provider command input with ⟨e', -, herror⟩ | hok
  · cases herror.symm.trans hopens
  · obtain rfl := Except.ok.inj (hok.symm.trans hopens)
    cases he

theorem answering_quiet : Quiet answering := by
  intro provider command input
  rcases answering_opens provider command input with ⟨e, hne, herror⟩ | hok
  · exact ⟨fun hcancelled => hne (Except.error.inj (herror.symm.trans hcancelled)),
      fun opens hopens => (by cases herror.symm.trans hopens)⟩
  · refine ⟨fun hcancelled => (by cases hok.symm.trans hcancelled), fun opens hopens s => ?_⟩
    obtain rfl := Except.ok.inj (hok.symm.trans hopens)
    refine ⟨⟨fun h => (by cases h), fun _ h => (by cases h)⟩, fun hreaches _ => ?_⟩
    -- neither event is a tool call
    rcases hreaches with ⟨-, htype, -⟩ | ⟨-, ⟨-, htype, -⟩ | ⟨-, hnever⟩⟩
    · cases htype
    · cases htype
    · exact hnever

theorem afterTurn_terminals : terminals afterTurn.shared.session.emitted = 1 := by
  rw [(reached_terminals afterTurn_reached answering_clean answering_quiet (by decide +kernel)).1]
  decide +kernel

/-! ## What is committed -/

theorem Sound.recorded (h : Sound loops t) : ∃ log, Recorded loops log t.session := by
  cases h with
  | idle log recorded => exact ⟨log, recorded⟩
  | running b n m c task settled ongoing => exact ongoing.recorded
  | past b r own log recorded => exact ⟨log, recorded⟩

/-- What the histories and the continuations hold is what the loops of the turns yielded as completions, in their order:
each with the command, the profile and the provider of its turn, and the continuation it carried, by that provider. The
sink was told of the same completions. -/
theorem reached_recorded (h : Reached loops s) : ∃ log, Recorded loops log s.shared.session := h.healthy.sound.recorded

/-- The first turn is committed. -/
theorem afterTurn_recorded : ∃ log, Recorded answering log afterTurn.shared.session ∧ log.length = 1 := by
  obtain ⟨log, hlog⟩ := reached_recorded afterTurn_reached
  refine ⟨log, hlog, ?_⟩
  rw [← List.length_map (f := fun e : Exchange => (e.command.turnId, e.answer)), ← hlog.completed]
  decide +kernel

/-! ## The provider of a turn -/

/-- A turn never runs over a provider that is closed, and no delegate is being closed while it runs; between the commands
its provider is the active one, which accepts requests. -/
theorem reached_turn_provider (h : Reached loops s) {turn : TurnRef} {c : Loop Session Unit}
    (htask : s.shared.task = some (turn, c)) :
    ∃ r ∈ s.shared.session.turns[turn]?, Unclosed s.shared.service r.provider ∧
      (∀ provider profile, s.locked.point ≠ some (.closing provider profile)) ∧
      (s.locked.holder = none → s.shared.service.activeProvider = some r.provider ∧
        ∃ p ∈ s.shared.service.providers[r.provider]?, p.acceptingRequests = true) := by
  have hbetween := h.between
  obtain ⟨-, -, provider, hruns⟩ := h.healthy.sound.runs (congrArg (Option.map (·.1)) htask)
  obtain ⟨r, hr, rfl⟩ : ∃ r, s.shared.session.turns[turn]? = some r ∧ r.provider = provider := by
    simpa using hruns.provider
  refine ⟨r, hr, ?_⟩
  by_cases hfree : s.locked.holder = none
  · have hresting := (hbetween.of_free hfree).1
    have hactive := hresting.active turn r.provider hruns
    obtain ⟨p, hp, hpublished⟩ := hresting.free.published r.provider hactive
    refine ⟨unclosed_of_active hresting.free.accounted hactive, fun provider profile => ?_, fun _ => ⟨hactive, p, hp, hpublished.accepting⟩⟩
    simp [Locked.point, hfree]
  · obtain ⟨point, hpoint, hsuspension⟩ := hbetween.at_point hfree
    obtain ⟨rfl, hunclosed⟩ := hsuspension.waits turn r.provider hruns
    refine ⟨hunclosed, fun provider profile => ?_, fun hnone => (hfree hnone).elim⟩
    simp [hpoint]

/-- The first turn runs over the provider that was activated. -/
theorem inTurn_turn_provider : ∃ r ∈ inTurn.shared.session.turns[0]?, Unclosed inTurn.shared.service r.provider := by
  have hruns : inTurn.shared.task.map (·.1) = some 0 := by decide +kernel
  obtain ⟨⟨turn, c⟩, htask, rfl⟩ := Option.map_eq_some_iff.mp hruns
  obtain ⟨r, hr, hunclosed, -⟩ := reached_turn_provider inTurn_reached htask
  exact ⟨r, hr, hunclosed⟩

/-- A turn is refused, and nothing has changed, or it is started over the active provider, which accepts requests, while
no other turn runs and no command is suspended behind the lock. -/
theorem reached_startTurn (h : Reached loops s) (content sessionId : Text) (turnId : TurnId) :
    (s.shared.startTurn loops content sessionId turnId).1.success = false ∧
        (s.shared.startTurn loops content sessionId turnId).2 = s.shared ∨
      (s.shared.startTurn loops content sessionId turnId).1 = .ok ∧ s.locked.holder = none ∧ s.shared.session.record = none ∧
        ∃ r, (s.shared.startTurn loops content sessionId turnId).2.session.turns = s.shared.session.turns ++ [r] ∧
          s.shared.service.runtimeProfileId = some r.profileId ∧ s.shared.service.activeProvider = some r.provider ∧
          ∃ p ∈ s.shared.service.providers[r.provider]?, p.acceptingRequests = true := by
  rcases startTurn_cases loops s.shared content sessionId turnId with
    hrefused | ⟨-, hrecord, hok, command, profileId, provider, hprofile, hloop, hactive, hbound⟩
  · exact .inl hrefused
  have hfree : s.locked.holder = none := by
    by_contra hheld
    obtain ⟨point, -, hsuspension⟩ := h.between.at_point hheld
    exact hactive hsuspension.vacant
  have hresting := (h.between.of_free hfree).1
  obtain ⟨active, hsome⟩ := Option.ne_none_iff_exists'.mp hactive
  obtain rfl : provider = active := Option.some.inj (hloop.symm.trans (hresting.agrees active hsome))
  obtain ⟨p, hp, hpublished⟩ := hresting.free.published provider hsome
  exact .inr ⟨hok, hfree, hrecord, { command, profileId, provider }, by rw [hbound]; rfl, hprofile, hsome, p, hp,
    hpublished.accepting⟩

/-- The first turn is started over the provider that was activated. -/
theorem activated_startTurn :
    ∃ r ∈ (activated.shared.startTurn answering (lit "Hello") (lit "session-1") firstTurn).2.session.turns[0]?,
      activated.shared.service.activeProvider = some r.provider := by
  rcases reached_startTurn activated_reached (lit "Hello") (lit "session-1") firstTurn with
    ⟨hrefused, -⟩ | ⟨-, -, -, r, hturns, -, hactive, -⟩
  · exact absurd hrefused (by decide +kernel)
  · exact ⟨r, by rw [hturns]; rfl, hactive⟩

/-! ## After a shutdown -/

/-- Once a shutdown has begun, even if it fails or is cancelled, no turn is started any more. -/
theorem reached_closing (h : Reached loops s) (hclosing : s.shared.session.state ≠ .ready) (later : List Event) :
    let s' := run (System.step loops) s later
    s'.shared.session.turns.length = s.shared.session.turns.length ∧ ∀ content sessionId turnId,
      (s'.shared.startTurn loops content sessionId turnId).1.success = false := by
  intro s'
  have hbarred := (kept_barred s.shared.session.turns.length).reaches (h.reaches later)
    (h.healthy.holder _ (keep_barred _)) ⟨hclosing, rfl⟩
  refine ⟨hbarred.2, fun content sessionId turnId => ?_⟩
  rcases startTurn_cases loops s'.shared content sessionId turnId with hrefused | ⟨hready, -⟩
  · exact hrefused.1
  · exact (hbarred.1 (ready_of_requireReady hready)).elim

/-- A shutdown begins while a turn runs. -/
theorem inTurn_closing : (run (System.step answering) inTurn (.shutdown true :: turnEnds)).shared.session.turns.length = 1 := by
  have hlength := (reached_closing (inTurn_reached.later [.shutdown true]) (by decide +kernel) turnEnds).1
  exact hlength.trans (by decide +kernel)

/-- A shutdown that has returned has left everything closed, and no command is suspended. -/
theorem Reached.closed (h : Reached loops s) (hshut : ShutDown s.locked.ended) :
    s.locked.holder = none ∧ Finished s.shared.service ∧ (∀ p ∈ s.shared.service.providers, p.closeReturned = true) ∧
      s.shared.session.state = .closed ∧ s.shared.task = none := by
  have hfree : s.locked.holder = none := by
    by_contra hheld
    obtain ⟨point, -, hsuspension⟩ := h.between.at_point hheld
    exact hsuspension.running hshut
  obtain ⟨hresting, hclosed⟩ := h.between.of_free hfree
  obtain ⟨hfinished, hstate, -⟩ := hclosed hshut
  exact ⟨hfree, hfinished, hfinished.all_closed hresting.free.accounted, hstate, (hresting.still hfinished.vacant).task⟩

/-- What the turns have committed. -/
def Session.committed (s : Session) : (Text → List ChatMessage) × (Text → ProfileId → Option ProviderContinuation) :=
  (s.histories, s.continuations)

theorem Others.committed {s s' : Session} (h : Others s s') : s'.committed = s.committed :=
  Prod.ext h.histories h.continuations

theorem settleTurn_committed (t : Runtime) : t.settleTurn.session.committed = t.session.committed := by
  unfold Runtime.settleTurn
  split
  next =>
    simp only [Session.onTurnDone, Session.releaseFinishedTurn]
    split <;> split <;> rfl
  next => rfl

/-- Once no turn runs in a session that closes, nothing is committed any more. -/
theorem kept_committed (committed : (Text → List ChatMessage) × (Text → ProfileId → Option ProviderContinuation)) :
    Kept loops fun t => Quiesced t ∧ t.session.committed = committed where
  service t service h := ⟨keep_quiesced.service t service h.1, h.2⟩
  coordinate t oldProfileId handling h := ⟨keep_quiesced.coordinate t oldProfileId handling h.1,
    (prepareForProviderSwitch_others t.session oldProfileId handling).committed.trans h.2⟩
  activated t provider h := ⟨keep_quiesced.activated t provider h.1, h.2⟩
  closed t h := ⟨keep_quiesced.closed t h.1, h.2⟩
  acts f t hf hsound h := by
    refine ⟨hf.quiesced hsound h.1, ?_⟩
    obtain ⟨⟨hclosing, htask⟩, hcommitted⟩ := h
    cases hf with
    | startTurn content sessionId turnId =>
      dsimp only
      rw [startTurn_closing hclosing]
      exact hcommitted
    | turn w =>
      dsimp only
      rw [advanceTurn_of_none htask]
      exact hcommitted
    | turnDone => exact (settleTurn_committed t).trans hcommitted
    | metadata m => exact hcommitted
    | coordinate oldProfileId handling =>
      exact (prepareForProviderSwitch_others t.session oldProfileId handling).committed.trans hcommitted
    | beginShutdown opened => exact hcommitted

/-- Once a shutdown has returned, and whatever happens then: every provider that was ever made is closed and nothing is
left to clean up, no command is suspended, no turn runs, and what is committed stays as it is. -/
theorem reached_shutDown (h : Reached loops s) (hshut : ShutDown s.locked.ended) (later : List Event) :
    let s' := run (System.step loops) s later
    Finished s'.shared.service ∧ (∀ p ∈ s'.shared.service.providers, p.closeReturned = true) ∧
      s'.shared.session.state = .closed ∧ s'.shared.task = none ∧ s'.locked.holder = none ∧
      s'.shared.session.committed = s.shared.session.committed := by
  intro s'
  have hreaches := h.reaches later
  obtain ⟨hfree, -, -, hstate, htask⟩ := h.closed hshut
  have hended : ∀ l event, ShutDown l.ended → Allowed loops l event → ShutDown (Shared.step l event).ended :=
    fun l event hl _ => Locked.step_ended _ _ l event hl
  have hshut' := hreaches.invariant hended hshut
  obtain ⟨hfree', hfinished', hclosed', hstate', htask'⟩ := (h.later later).closed hshut'
  have hcommitted := (kept_committed s.shared.session.committed).reaches hreaches
    (fun held hheld => by rw [hfree] at hheld; cases hheld) ⟨⟨fun hready => (by cases hstate.symm.trans hready), htask⟩, rfl⟩
  exact ⟨hfinished', hclosed', hstate', htask', hfree', hcommitted.2⟩

/-- A shutdown while a turn runs: it waits for the turn, closes the provider and returns. -/
def shutDown : System :=
  run (System.step answering) inTurn (.shutdown true :: turnEnds ++ [.wake 0 .returned, .acquire 0, .resume .returned])

theorem shutDown_of {ended : List (RuntimeCall × Except Failure RuntimeCommandResult)}
    (h : ended.any fun x => (match x.1 with | .shutdown => true | _ => false) && (match x.2 with | .ok r => r = .ok | _ => false)) :
    ShutDown ended := by
  obtain ⟨⟨op, result⟩, hmem, hx⟩ := List.any_eq_true.mp h
  cases op with
  | activateProfile a => simp at hx
  | shutdown =>
    cases result with
    | error e => simp at hx
    | ok r =>
      obtain rfl : r = .ok := by simpa using hx
      exact hmem

/-- The next activation. -/
def switching : List Event := [.activateProfile (ProfileService.activationOf .openaiDefault), .acquire 0]

/-- What comes then changes nothing, and the provider of the turn stays closed. -/
theorem shutDown_final :
    (∀ p ∈ (run (System.step answering) shutDown switching).shared.service.providers, p.closeReturned = true) ∧
    (run (System.step answering) shutDown switching).shared.session.committed = shutDown.shared.session.committed :=
  have hfinal := reached_shutDown (inTurn_reached.later _) (shutDown_of (by decide +kernel)) switching
  ⟨hfinal.2.1, hfinal.2.2.2.2.2⟩

/-! ## Waiting for a turn -/

/-- Every turn whose task has returned has reached its terminal event. -/
theorem Sound.terminal (h : Sound loops t) {turn : TurnRef} {r : ActiveTurnRecord} (hr : t.session.turns[turn]? = some r)
    (hfinished : r.outcome = some .finished) : r.terminal = true := by
  have hdone : ∀ own, Done loops r own → r.terminal = true := by
    rintro own ⟨-, ⟨-, hterminal, -⟩ | ⟨hcancelled, -⟩⟩
    · exact hterminal
    · cases hcancelled.symm.trans hfinished
  have hmem := List.mem_of_getElem? hr
  obtain ⟨settled, blocks, hblocks, hrest⟩ := h.inBlocks.blocks
  have hsettled : r ∈ settled → r.terminal = true := by
    clear hrest
    induction hblocks with
    | nil => exact fun hmem => (by cases hmem)
    | cons hblock _ ih =>
      refine fun hmem => (List.mem_cons.mp hmem).elim ?_ ih
      rintro rfl
      obtain ⟨own, hown, -⟩ := hblock
      exact hdone own hown
  rcases hrest with ⟨-, hturns, -⟩ | ⟨r', own, -, hturns, -, hown⟩
  · exact hsettled (hturns ▸ hmem)
  · rw [hturns] at hmem
    rcases List.mem_append.mp hmem with hmem | hmem
    · exact hsettled hmem
    · cases List.mem_singleton.mp hmem
      rcases hown with ⟨hrunning, -⟩ | hown
      · cases hrunning.symm.trans hfinished
      · exact hdone own hown

theorem Sound.awaited (h : Sound loops t) {turn : TurnRef} (hfinished : t.session.outcome turn = some .finished) :
    t.session.awaited turn .returned = .returned := by
  obtain ⟨r, hr, houtcome⟩ := Option.bind_eq_some_iff.mp hfinished
  have hterminal := h.terminal hr houtcome
  unfold Session.awaited
  simp [hfinished, hr, hterminal]

/-- The coordinator does not refuse to wait for the current turn. -/
theorem prepareForProviderSwitch_ne_raised (h : Sound loops t) {profileId : ProfileId}
    (hprofile : t.session.currentProfileId = some profileId) (handling : ActiveTurnHandling) {answer : Answer}
    (hanswer : (t.session.prepareForProviderSwitch profileId handling).1 = .answers answer) : answer ≠ .raised := by
  have hafter := h.others (prepareForProviderSwitch_others t.session profileId handling) t.service
  rcases prepareForProviderSwitch_cases t.session profileId handling with
    ⟨-, hprepare⟩ | ⟨turn, hrecord, ⟨hother, hprepare⟩ | ⟨s', -, ⟨-, hprepare⟩ | ⟨outcome, hdone, hprepare⟩⟩⟩
  · rw [hprepare] at hanswer
    cases hanswer
    simp
  · unfold Session.currentProfileId Session.currentRecord at hprofile
    rw [hrecord] at hprofile
    obtain ⟨r, hr, hsame⟩ := Option.map_eq_some_iff.mp hprofile
    exact (hother r hr hsame).elim
  · rw [hprepare] at hanswer
    cases hanswer
  · rw [hprepare] at hanswer hafter
    obtain rfl := (Session.Coordination.answers.inj hanswer)
    cases outcome with
    | cancelled => simp
    | finished =>
      have hawaited : s'.awaited turn .returned = .returned := Sound.awaited (t := { t with session := s' }) hafter hdone
      simp [hawaited]

/-- The coordinator never fails to bring the current turn to its end: it does not refuse to wait for it, and a turn whose
task has returned has reached its terminal event. -/
theorem reached_coordinates (h : Reached loops s) {profileId : ProfileId}
    (hprofile : s.shared.session.currentProfileId = some profileId) (handling : ActiveTurnHandling) :
    (s.shared.session.prepareForProviderSwitch profileId handling).1 ≠ .answers .raised ∧
      ∀ turn, s.shared.session.outcome turn = some .finished → s.shared.session.awaited turn .returned = .returned :=
  ⟨fun hanswer => prepareForProviderSwitch_ne_raised h.healthy.sound hprofile handling hanswer rfl,
    fun _ hfinished => h.healthy.sound.awaited hfinished⟩

theorem inTurn_coordinates : (inTurn.shared.session.prepareForProviderSwitch .fakeDefault .cancelActive).1 ≠ .answers .raised :=
  (reached_coordinates inTurn_reached (by decide +kernel) .cancelActive).1

end ArkClaw.Agent.RuntimeSession
