import ArkClaw.Agent.RuntimeSessionTurns

/-!
# What a runtime session keeps

Between its turns, while one runs and until its callback has run, the session is `Sound`: the sink got one block of
events for each turn, and what was committed is what the completions in them say. Every command and every step of the
turn task keeps that. A shutdown that goes on to the providers is `Quiesced`, and nothing takes that back.
-/

namespace ArkClaw.Agent.RuntimeSession

open ArkClaw.Library ArkClaw.Domain ArkClaw.Provider
open ArkClaw.Provider.ProfileService (ActiveTurnHandling Activation Answer Failure Mutation)

variable {loops : ProviderRef → AgentLoop Session} {b : TurnBase} {n m : Nat} {s s' : Session} {t : Runtime}

/-! ## Blocks of events -/

section

variable (loops)

/-- The events of a turn whose task is done. A finished turn has one terminal event, or two of a loop that is not
clean; a cancelled one shows that a loop raised `CancelledError`. -/
structure Done (r : ActiveTurnRecord) (own : List RuntimeEvent) : Prop where
  belong : Belong r.command.turnId own
  outcome : r.outcome = some .finished ∧ r.terminal = true ∧ (terminals own = 1 ∨ terminals own = 2 ∧ ¬Clean loops) ∨
    r.outcome = some .cancelled ∧ terminals own ≤ 2 ∧ ¬Quiet loops

/-- The events of a turn whose callback has run. -/
def Block (r : ActiveTurnRecord) (events : List RuntimeEvent) : Prop :=
  ∃ own, Done loops r own ∧ events = own ++ [{ type := .turnSettled, turnId := r.command.turnId }]

/-- The events are one block for each turn. -/
def Settled (turns : List ActiveTurnRecord) (emitted : List RuntimeEvent) : Prop :=
  ∃ blocks, List.Forall₂ (Block loops) turns blocks ∧ emitted = blocks.flatten

/-- The session, at rest, in a turn, or between the end of a turn and its callback. -/
inductive Sound : Runtime → Prop
  | idle {t : Runtime} (log : List Exchange) (recorded : Recorded loops log t.session) (task : t.task = none)
      (current : t.session.current = (none, none, true)) (settled : Settled loops t.session.turns t.session.emitted) : Sound t
  | running {t : Runtime} (b : TurnBase) (n m : Nat) (c : Loop Session Unit) (task : t.task = some (b.turn, c))
      (settled : Settled loops b.earlier b.before) (ongoing : Ongoing loops b n m t.session)
      (keeps : ∀ f, c.Preserves fun s => s.frame = f) (leads : ∀ s', Others t.session s' → ∀ w, (c.proceed w).Wp (turnAwaits loops b)
        (fun _ s' => ∃ n m, Ongoing loops b n m s' ∧ (n = 1 ∨ n = 2 ∧ ¬Clean loops))
        (fun _ s' => ∃ n m, Ongoing loops b n m s' ∧ n ≤ 2 ∧ ¬Quiet loops) s') : Sound t
  | past {t : Runtime} (b : TurnBase) (r : ActiveTurnRecord) (own : List RuntimeEvent) (log : List Exchange)
      (recorded : Recorded loops log t.session) (task : t.task = none)
      (current : t.session.current = (some b.turn, some b.turn, false)) (turns : t.session.turns = b.earlier ++ [r]) (settled : Settled loops b.earlier b.before)
      (done : Done loops r own) (emitted : t.session.emitted = b.before ++ own) : Sound t

end

/-- The events of the turns that are settled, in their order, then those of the turn that is not. -/
structure InBlocks (loops : ProviderRef → AgentLoop Session) (s : Session) : Prop where
  current : s.activeTurnTask = s.record ∧ s.turnIdle = s.record.isNone
  blocks : ∃ settled blocks, List.Forall₂ (Block loops) settled blocks ∧
    (s.record = none ∧ s.turns = settled ∧ s.emitted = blocks.flatten ∨
      ∃ r own, s.record = some settled.length ∧ s.turns = settled ++ [r] ∧ s.emitted = blocks.flatten ++ own ∧
        (r.outcome = none ∧ Belong r.command.turnId own ∨ Done loops r own))

theorem Sound.inBlocks (h : Sound loops t) : InBlocks loops t.session := by
  have hagrees : ∀ {record : Option TurnRef}, t.session.current = (record, record, record.isNone) →
      t.session.activeTurnTask = t.session.record ∧ t.session.turnIdle = t.session.record.isNone := by
    intro record hcurrent
    simp only [Session.current, Prod.mk.injEq] at hcurrent
    simp [hcurrent]
  cases h with
  | idle log recorded task current settled =>
    obtain ⟨blocks, hblocks, hemitted⟩ := settled
    exact ⟨hagrees current, _, blocks, hblocks, .inl ⟨congrArg Prod.fst current, rfl, hemitted⟩⟩
  | running b n m c task settled ongoing =>
    obtain ⟨blocks, hblocks, hbefore⟩ := settled
    obtain ⟨cancelled, hturns⟩ := ongoing.turns
    obtain ⟨own, hemitted, hbelong, -⟩ := ongoing.events
    exact ⟨hagrees ongoing.current, _, blocks, hblocks, .inr ⟨_, own, ongoing.record, hturns, hbefore ▸ hemitted, .inl ⟨rfl, hbelong⟩⟩⟩
  | past b r own log recorded task current turns settled done emitted =>
    obtain ⟨blocks, hblocks, hbefore⟩ := settled
    exact ⟨hagrees current, _, blocks, hblocks, .inr ⟨r, own, congrArg Prod.fst current, turns, hbefore ▸ emitted, .inr done⟩⟩

theorem Settled.concat {turns : List ActiveTurnRecord} {emitted : List RuntimeEvent} (h : Settled loops turns emitted)
    {r : ActiveTurnRecord} {own : List RuntimeEvent} (hdone : Done loops r own) :
    Settled loops (turns ++ [r]) (emitted ++ (own ++ [{ type := .turnSettled, turnId := r.command.turnId }])) := by
  obtain ⟨blocks, hblocks, rfl⟩ := h
  refine ⟨blocks ++ [own ++ [{ type := .turnSettled, turnId := r.command.turnId }]], ?_, by simp⟩
  exact List.rel_append hblocks (.cons ⟨own, hdone, rfl⟩ .nil)

/-! ## What interferes with a turn -/

/-- The coordinator up to its wait: it may cancel the current turn, and it waits for a turn that is not done. -/
theorem prepareForProviderSwitch_cases (s : Session) (oldProfileId : ProfileId) (handling : ActiveTurnHandling) :
    s.record = none ∧ s.prepareForProviderSwitch oldProfileId handling = (.answers .returned, s) ∨
      ∃ turn, s.record = some turn ∧
        ((∀ r ∈ s.turns[turn]?, r.profileId ≠ oldProfileId) ∧
            s.prepareForProviderSwitch oldProfileId handling = (.answers .raised, s) ∨
          ∃ s', (s' = s ∨ s' = s.onTurn turn fun r => { r with cancelled := true }) ∧
            (s'.outcome turn = none ∧ s.prepareForProviderSwitch oldProfileId handling = (.waits turn, s') ∨
              ∃ outcome, s'.outcome turn = some outcome ∧ s.prepareForProviderSwitch oldProfileId handling =
                (.answers (if outcome = .cancelled then .cancelled else s'.awaited turn .returned), s'))) := by
  unfold Session.prepareForProviderSwitch
  cases hrecord : s.record with
  | none => exact .inl ⟨rfl, rfl⟩
  | some turn =>
    refine .inr ⟨turn, rfl, ?_⟩
    dsimp only
    split
    next hother => exact .inl ⟨fun r hr => by simpa [Option.mem_def.mp hr] using hother, rfl⟩
    next =>
      generalize hs' : (if handling = .cancelActive then s.onTurn turn fun r => { r with cancelled := true } else s) = s'
      refine .inr ⟨s', ?_, ?_⟩
      · split at hs'
        next => exact .inr hs'.symm
        next => exact .inl hs'.symm
      · split
        next hnone => exact .inl ⟨hnone, rfl⟩
        next hcancelled => exact .inr ⟨.cancelled, hcancelled, rfl⟩
        next hfinished => exact .inr ⟨.finished, hfinished, rfl⟩

theorem prepareForProviderSwitch_others (s : Session) (oldProfileId : ProfileId) (handling : ActiveTurnHandling) :
    Others s (s.prepareForProviderSwitch oldProfileId handling).2 := by
  rcases prepareForProviderSwitch_cases s oldProfileId handling with
    ⟨-, h⟩ | ⟨turn, hrecord, ⟨-, h⟩ | ⟨s', rfl | rfl, ⟨-, h⟩ | ⟨outcome, -, h⟩⟩⟩ <;> rw [h] <;>
    first | exact .refl _ | exact ⟨rfl, rfl, rfl, rfl, rfl, .inr ⟨turn, hrecord, rfl⟩⟩

/-- What others do to the session keeps it sound, and so does whatever is done to the provider service. -/
theorem Sound.others (h : Sound loops t) (ho : Others t.session s') (service : ProfileService.ProviderProfileService) :
    Sound loops { t with service, session := s' } := by
  cases h with
  | idle log recorded task current settled =>
    refine .idle log (recorded.others ho) task (ho.current.trans current) ?_
    show Settled loops s'.turns s'.emitted
    rw [ho.emitted]
    rcases ho.turns with hturns | ⟨turn, hturn, -⟩
    · exact hturns ▸ settled
    · exact absurd ((congrArg Prod.fst current).symm.trans hturn) (Option.some_ne_none _).symm
  | running b n m c task settled ongoing keeps leads =>
    exact .running b n m c task settled (ongoing.others ho) keeps fun s'' ho' => leads s'' (ho.trans ho')
  | past b r own log recorded task current turns settled done emitted =>
    have hrecorded := recorded.others ho
    rcases ho.turns with hturns | ⟨turn, hturn, hturns⟩
    · exact .past b r own log hrecorded task (ho.current.trans current) (hturns.trans turns) settled done
        (ho.emitted.trans emitted)
    · obtain rfl : turn = b.turn := Option.some.inj (Eq.trans (Eq.symm hturn) (congrArg Prod.fst current))
      refine .past b { r with cancelled := true } own log hrecorded task (ho.current.trans current) ?_ settled
        ⟨done.belong, done.outcome⟩ (ho.emitted.trans emitted)
      rw [hturns, turns, modify_turn]

/-! ## The steps of a turn -/

theorem currentTurnId_eq {r : ActiveTurnRecord} (hrecord : s.record = some b.turn) (hturns : s.turns = b.earlier ++ [r]) :
    s.currentTurnId = some r.command.turnId := by
  unfold Session.currentTurnId Session.currentRecord
  rw [hrecord, hturns]
  simp [TurnBase.turn]

theorem bindTurn_sound (h : Sound loops t) (hfree : t.session.record = none) (command : UserMessageCommand)
    (profileId : ProfileId) (provider : ProviderRef) : Sound loops (t.bindTurn loops command profileId provider) := by
  cases h with
  | idle log recorded task current settled =>
    have hturns : t.session.turns.map (·.identity) <+:
        (t.bindTurn loops command profileId provider).session.turns.map (·.identity) :=
      (List.prefix_append _ _).map _
    have hongoing : Ongoing loops ⟨t.session.turns, t.session.emitted, command, profileId, provider⟩ 0 0
        (t.bindTurn loops command profileId provider).session :=
      ⟨⟨log, recorded.congr rfl rfl rfl hturns rfl⟩, ⟨false, rfl⟩,
        ⟨[], (List.append_nil _).symm, fun e he => (by cases he), rfl⟩, rfl⟩
    refine .running ⟨t.session.turns, t.session.emitted, command, profileId, provider⟩ 0 0 _ rfl settled hongoing
      (runTurn_frame _ _ _ _) ?_
    exact fun s' ho _ => runTurn_wp (hongoing.others ho)
  | running b n m c task settled ongoing keeps leads => exact absurd (hfree.symm.trans ongoing.record) (by simp)
  | past b r own log recorded task current => exact absurd (hfree.symm.trans (congrArg Prod.fst current)) (by simp)

theorem requireReady_refuses {unavailable : RuntimeCommandResult} (h : s.requireReady = some unavailable) :
    unavailable.success = false := by
  unfold Session.requireReady at h
  split at h
  next =>
    cases h
    rfl
  next =>
    cases h
    rfl
  next =>
    split at h
    next => cases h
    next =>
      cases h
      rfl

theorem ready_of_requireReady (h : s.requireReady = none) : s.state = .ready := by
  unfold Session.requireReady at h
  split at h
  next => cases h
  next => cases h
  next hstate => exact hstate

/-- A turn is started only where there is none, or the command is refused. -/
theorem startTurn_cases (loops : ProviderRef → AgentLoop Session) (t : Runtime) (content sessionId : Text) (turnId : TurnId) :
    (t.startTurn loops content sessionId turnId).1.success = false ∧ (t.startTurn loops content sessionId turnId).2 = t ∨
      t.session.requireReady = none ∧ t.session.record = none ∧
      (t.startTurn loops content sessionId turnId).1 = .ok ∧
      ∃ command profileId provider, t.service.runtimeProfileId = some profileId ∧ t.session.agentLoop = some provider ∧
        t.service.activeProvider ≠ none ∧
        (t.startTurn loops content sessionId turnId).2 = t.bindTurn loops command profileId provider := by
  unfold Runtime.startTurn
  split
  next unavailable hunavailable => exact .inl ⟨requireReady_refuses hunavailable, rfl⟩
  next hready =>
    split
    next => exact .inl ⟨rfl, rfl⟩
    next =>
      split
      next => exact .inl ⟨rfl, rfl⟩
      next hfree =>
        split
        next => exact .inl ⟨rfl, rfl⟩
        next =>
          split
          next profileId provider _ hprofile hloop hactive =>
            refine .inr ⟨hready, by simpa [Session.hasActiveTurn] using hfree, rfl, _, profileId, provider, hprofile, hloop, ?_, rfl⟩
            simp [hactive]
          next => exact .inl ⟨rfl, rfl⟩

theorem startTurn_sound (h : Sound loops t) (content sessionId : Text) (turnId : TurnId) :
    Sound loops (t.startTurn loops content sessionId turnId).2 := by
  rcases startTurn_cases loops t content sessionId turnId with
    ⟨-, hsame⟩ | ⟨-, hfree, -, command, profileId, provider, -, -, -, hbound⟩
  · rw [hsame]
    exact h
  · rw [hbound]
    exact bindTurn_sound h hfree command profileId provider

/-- The task is done: its record says how. -/
theorem Ongoing.past (h : Ongoing loops b n m s) (hsettled : Settled loops b.earlier b.before) {outcome : TurnOutcome}
    (hdone : ∀ r own, r.outcome = some outcome → r.terminal = decide (0 < n) → terminals own = n →
      Belong r.command.turnId own → Done loops r own) (service : ProfileService.ProviderProfileService) :
    Sound loops { service, session := s.onTurn b.turn fun r => { r with outcome := some outcome }, task := none } := by
  obtain ⟨log, hlog⟩ := h.recorded
  obtain ⟨own, hemitted, hbelong, hterminals⟩ := h.events
  obtain ⟨cancelled, hentry⟩ := h.turns
  have hturns : (s.onTurn b.turn fun r => { r with outcome := some outcome }).turns =
      b.earlier ++ [{ b.entry cancelled n m with outcome := some outcome }] := by
    show s.turns.modify b.turn _ = _
    rw [hentry, modify_turn]
  have hidentities : (s.onTurn b.turn fun r => { r with outcome := some outcome }).turns.map (·.identity) =
      s.turns.map (·.identity) :=
    map_modify_of (by exact fun _ => rfl) s.turns b.turn
  exact .past b _ own log (hlog.congr rfl rfl rfl (hidentities ▸ List.prefix_rfl) rfl) rfl h.current hturns hsettled
    (hdone _ own rfl rfl hterminals hbelong) hemitted

/-- Without a task there is nothing to advance. -/
theorem advanceTurn_of_none (h : t.task = none) (w : WakeUp) : t.advanceTurn w = t := by
  rw [Runtime.advanceTurn, h]

theorem advanceTurn_sound (h : Sound loops t) (w : WakeUp) : Sound loops (t.advanceTurn w) := by
  cases h with
  | idle log recorded task current settled =>
    rw [advanceTurn_of_none task]
    exact .idle log recorded task current settled
  | past b r own log recorded task current turns settled done emitted =>
    rw [advanceTurn_of_none task]
    exact .past b r own log recorded task current turns settled done emitted
  | running b n m c task settled ongoing keeps leads =>
    have hleads := leads t.session (.refl _) w
    rw [← Coroutine.wp_advance] at hleads
    have hkept := fun f => ((keeps f).proceed w).advance t.session
    have hnever : ∀ write next, ((c.proceed w).advance t.session).1 ≠ .runs write next := fun _ _ => Coroutine.advance_ne_runs _ _
    unfold Runtime.advanceTurn
    rw [task]
    dsimp only
    generalize (c.proceed w).advance t.session = advanced at hleads hkept hnever
    obtain ⟨c', s'⟩ := advanced
    cases c' with
    | returns a =>
      obtain ⟨n, m, hongoing, hn⟩ := hleads
      refine hongoing.past settled (fun r own houtcome hterminal hterminals hbelong => ⟨hbelong, .inl ⟨houtcome, ?_, ?_⟩⟩) _
      · rw [hterminal]
        rcases hn with rfl | ⟨rfl, -⟩ <;> decide
      · rwa [hterminals]
    | raises e =>
      obtain ⟨n, m, hongoing, hn, hnot⟩ := hleads
      refine hongoing.past settled (fun r own houtcome _ hterminals hbelong => ⟨hbelong, .inr ⟨houtcome, ?_, hnot⟩⟩) _
      rwa [hterminals]
    | awaits p resume =>
      obtain ⟨⟨n, m, hongoing⟩, hresume⟩ := hleads
      exact .running b n m _ rfl settled hongoing (fun f => (hkept f).1) fun s'' ho w => hresume s'' ho w
    | runs write next => exact absurd rfl (hnever write next)

theorem settleTurn_sound (h : Sound loops t) : Sound loops t.settleTurn := by
  cases h with
  | idle log recorded task current settled =>
    have hsame : t.settleTurn = t := by
      rw [Runtime.settleTurn, task, show t.session.activeTurnTask = none from congrArg (·.2.1) current]
    rw [hsame]
    exact .idle log recorded task current settled
  | running b n m c task settled ongoing keeps leads =>
    have hsame : t.settleTurn = t := by rw [Runtime.settleTurn, task]
    rw [hsame]
    exact .running b n m c task settled ongoing keeps leads
  | past b r own log recorded task current turns settled done emitted =>
    have hrecord : t.session.record = some b.turn := congrArg Prod.fst current
    have hactive : t.session.activeTurnTask = some b.turn := congrArg (·.2.1) current
    have hdone : t.session.outcome b.turn ≠ none := by
      unfold Session.outcome
      rw [turns]
      rcases done.outcome with ⟨houtcome, -⟩ | ⟨houtcome, -⟩ <;> simp [TurnBase.turn, houtcome]
    have hsettled : t.settleTurn = { t with session := { t.session with
        record := none
        activeTurnTask := none
        turnIdle := true
        emitted := t.session.emitted ++ [{ type := .turnSettled, turnId := r.command.turnId }] } } := by
      have hreleased : t.session.releaseFinishedTurn b.turn = { t.session with record := none } :=
        if_pos ⟨hrecord, hdone⟩
      rw [Runtime.settleTurn, task, hactive]
      simp only [Session.onTurnDone, currentTurnId_eq hrecord turns, hreleased, Session.emit, hactive, if_true]
    rw [hsettled]
    refine .idle log (recorded.congr rfl rfl rfl List.prefix_rfl ?_) task rfl ?_
    · exact (completions_append _ _).trans (List.append_nil _)
    · show Settled loops t.session.turns (t.session.emitted ++ _)
      rw [turns, emitted, List.append_assoc]
      exact settled.concat done

/-- A step of the turn leaves alone what is the commands' own. -/
theorem advanceTurn_frame (h : Sound loops t) (w : WakeUp) : (t.advanceTurn w).session.frame = t.session.frame := by
  cases h with
  | idle log recorded task current settled => rw [advanceTurn_of_none task]
  | past b r own log recorded task current turns settled done emitted => rw [advanceTurn_of_none task]
  | running b n m c task settled ongoing keeps leads =>
    have hkept := ((keeps t.session.frame).proceed w).advance t.session
    unfold Runtime.advanceTurn
    rw [task]
    dsimp only
    generalize (c.proceed w).advance t.session = advanced at hkept
    obtain ⟨c', s'⟩ := advanced
    have hs' : s'.frame = t.session.frame := hkept.2 rfl
    have hdone : ∀ outcome : Option TurnOutcome,
        (s'.onTurn b.turn fun r => { r with outcome }).frame = t.session.frame :=
      fun _ => Eq.trans (onTurn_frame s' b.turn (by exact fun _ => rfl)) hs'
    cases c' with
    | returns a => exact hdone _
    | raises e => exact hdone _
    | awaits p resume => exact hs'
    | runs write next => exact hs'

end ArkClaw.Agent.RuntimeSession
