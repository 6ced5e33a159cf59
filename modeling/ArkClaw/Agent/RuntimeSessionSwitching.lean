import ArkClaw.Agent.RuntimeSessionRuns
import ArkClaw.Provider.ProfileServiceRuns

/-!
# Switching the provider while turns run

A turn runs over the active provider, and a switch retires that provider before it waits for the turn: no delegate is
closed while a turn runs, and where a command is suspended no turn is started. At the lock-free points the runtime is
`Resting`; a command is suspended in a `Suspension`, where the others are `Steady`. A shutdown that has returned leaves
everything closed for good.
-/

namespace ArkClaw.Agent.RuntimeSession

open ArkClaw.Library hiding wp_attempt wp_bind wp_get wp_modify wp_pure
open ArkClaw.Domain ArkClaw.Provider
open Coroutine (wp_attempt wp_await wp_bind wp_get wp_modify wp_pure wp_within_await wp_within_bind wp_within_get
  wp_within_ite wp_within_modify)
open ArkClaw.Provider.ProfileService (ActiveTurnHandling Activation Answer Failure Mutation Free Held Finished Drift
  Switching Vacant Ready ProviderProfileService)

variable {loops : ProviderRef → AgentLoop Session} {t t' : Runtime} {f : Runtime → Runtime} {turn : TurnRef}
  {provider : ProviderRef} {agentLoop : Option ProviderRef}

/-! ## The turn that runs -/

/-- The turn is not done, and it runs over the provider. -/
structure Runs (t : Runtime) (turn : TurnRef) (provider : ProviderRef) : Prop where
  task : t.task.map (·.1) = some turn
  provider : (t.session.turns.map (·.provider))[turn]? = some provider

/-- No call of the provider's `aclose` has returned. -/
def Unclosed (s : ProviderProfileService) (provider : ProviderRef) : Prop :=
  ∃ p ∈ s.providers[provider]?, p.closeReturned = false

/-- What happens to the session, a new turn apart. -/
structure Follows (t t' : Runtime) : Prop where
  agentLoop : t'.session.agentLoop = t.session.agentLoop
  providers : t'.session.turns.map (·.provider) = t.session.turns.map (·.provider)
  task : t'.task = none ∨ t'.task.map (·.1) = t.task.map (·.1)

theorem Follows.refl (t : Runtime) : Follows t t := ⟨rfl, rfl, .inr rfl⟩

theorem Follows.trans {t'' : Runtime} (h : Follows t t') (h' : Follows t' t'') : Follows t t'' := by
  refine ⟨h'.agentLoop.trans h.agentLoop, h'.providers.trans h.providers, ?_⟩
  rcases h'.task with hnone | hsame
  · exact .inl hnone
  · rcases h.task with hnone | hsame'
    · refine .inl (Option.map_eq_none_iff.mp (hsame.trans ?_))
      rw [hnone]
      rfl
    · exact .inr (hsame.trans hsame')

/-- A turn that runs afterwards ran before. -/
theorem Follows.runs (h : Follows t t') (hruns : Runs t' turn provider) : Runs t turn provider := by
  refine ⟨?_, h.providers ▸ hruns.provider⟩
  rcases h.task with hnone | hsame
  · exact absurd hruns.task (by simp [hnone])
  · exact hsame.symm.trans hruns.task

theorem Follows.of_frame (hframe : t'.session.frame = t.session.frame)
    (htask : t'.task = none ∨ t'.task.map (·.1) = t.task.map (·.1)) : Follows t t' :=
  ⟨congrArg (·.2.2.1) hframe, congrArg (·.2.2.2) hframe, htask⟩

/-- The turn that runs is the current one, and it is not done. -/
theorem Sound.runs (h : Sound loops t) (htask : t.task.map (·.1) = some turn) :
    t.session.record = some turn ∧ t.session.outcome turn = none ∧ ∃ provider, Runs t turn provider := by
  cases h with
  | idle log recorded task => exact absurd htask (by simp [task])
  | past b r own log recorded task => exact absurd htask (by simp [task])
  | running b n m c' task settled ongoing =>
    obtain rfl : b.turn = turn := by
      rw [task] at htask
      exact Option.some.inj htask
    obtain ⟨cancelled, hturns⟩ := ongoing.turns
    have hentry : t.session.turns[b.turn]? = some (b.entry cancelled n m) := by
      rw [hturns]
      exact List.getElem?_concat_length
    refine ⟨ongoing.record, ?_, b.provider, ?_, ?_⟩
    · unfold Session.outcome
      rw [hentry]
      rfl
    · exact htask
    · rw [List.getElem?_map, hentry]
      rfl

theorem advanceTurn_task (t : Runtime) (w : WakeUp) :
    (t.advanceTurn w).task = none ∨ (t.advanceTurn w).task.map (·.1) = t.task.map (·.1) := by
  unfold Runtime.advanceTurn
  split
  next hnone => exact .inl hnone
  next turn c htask =>
    split
    next => exact .inl rfl
    next => exact .inl rfl
    next =>
      rw [htask]
      exact .inr rfl

/-- Without the lock a new turn is started over the provider of the agent loop, or the session follows. -/
theorem Act.cases (h : Act loops t f) (hsound : Sound loops t) :
    (∃ command profileId provider, t.session.state = .ready ∧ t.session.agentLoop = some provider ∧
      t.service.activeProvider ≠ none ∧ f t = t.bindTurn loops command profileId provider) ∨
    Follows t (f t) ∧ (t.session.state = .closed → (f t).session.state = .closed) ∧
      ((f t).service = t.service ∨ ∃ m : Mutation, (f t).service = m.apply t.service) := by
  cases h with
  | startTurn content sessionId turnId =>
    rcases startTurn_cases loops t content sessionId turnId with
      ⟨-, hsame⟩ | ⟨hready, -, -, command, profileId, provider, -, hloop, hactive, hbound⟩
    · right
      dsimp only
      rw [hsame]
      exact ⟨.refl t, id, .inl rfl⟩
    · exact .inl ⟨command, profileId, provider, ready_of_requireReady hready, hloop, hactive, hbound⟩
  | turn w =>
    have hframe := advanceTurn_frame hsound w
    refine .inr ⟨.of_frame hframe (advanceTurn_task t w), (congrArg Prod.fst hframe).trans, .inl ?_⟩
    show (t.advanceTurn w).service = t.service
    unfold Runtime.advanceTurn
    split
    next => rfl
    next => split <;> rfl
  | turnDone =>
    obtain ⟨hframe, htask⟩ := settleTurn_frame t
    refine .inr ⟨.of_frame hframe (.inr (congrArg _ htask)), (congrArg Prod.fst hframe).trans, .inl ?_⟩
    unfold Runtime.settleTurn
    split <;> rfl
  | metadata m => exact .inr ⟨⟨rfl, rfl, .inr rfl⟩, id, .inr ⟨m, rfl⟩⟩
  | coordinate oldProfileId handling =>
    have hframe := prepareForProviderSwitch_frame t.session oldProfileId handling
    exact .inr ⟨.of_frame hframe (.inr rfl), (congrArg Prod.fst hframe).trans, .inl rfl⟩
  | beginShutdown opened => exact .inr ⟨⟨rfl, rfl, .inr rfl⟩, fun hclosed => (opened hclosed).elim, .inl rfl⟩

/-! ## At the lock-free points and in the suspensions -/

section

variable (loops)

/-- The runtime while the lock is free. -/
structure Resting (t : Runtime) : Prop where
  free : Free False t.service
  sound : Sound loops t
  agrees : ∀ provider, t.service.activeProvider = some provider → t.session.agentLoop = some provider
  active : ∀ turn provider, Runs t turn provider → t.service.activeProvider = some provider

/-- A shutdown has returned successfully. -/
def ShutDown (ended : List (RuntimeCall × Except Failure RuntimeCommandResult)) : Prop :=
  (RuntimeCall.shutdown, Except.ok RuntimeCommandResult.ok) ∈ ended

/-- The runtime where a command is suspended: no provider is published, and while a turn runs the command waits for
it, with its provider not closed. -/
structure Suspension (ended : List (RuntimeCall × Except Failure RuntimeCommandResult)) (point : RuntimeAwait)
    (t : Runtime) : Prop where
  switching : t.service.lifecycleState = .switching
  vacant : Vacant t.service
  sound : Sound loops t
  waits : ∀ turn provider, Runs t turn provider → point = .waiting turn ∧ Unclosed t.service provider
  running : ¬ShutDown ended

/-- What the others do while a command is suspended. -/
structure Steady (t t' : Runtime) : Prop extends Follows t t' where
  service : ∀ point, Drift False point t.service t'.service
  sound : Sound loops t → Sound loops t'

/-- No turn runs, whatever is done to the service. -/
structure Still (agentLoop : Option ProviderRef) (t : Runtime) : Prop where
  sound : Sound loops t
  task : t.task = none
  agentLoop : t.session.agentLoop = agentLoop

/-- A command behind the lock and what it leads to. -/
abbrev Switches {α ε : Type} (ended : List (RuntimeCall × Except Failure RuntimeCommandResult))
    (c : Coroutine RuntimeAwait Answer Runtime ε α) (Q : α → Runtime → Prop) (R : ε → Runtime → Prop) (t : Runtime) : Prop :=
  c.Wp (Coroutine.interference (fun _ => Steady loops) (Suspension loops ended)) Q R t

end

variable {ended : List (RuntimeCall × Except Failure RuntimeCommandResult)} {s : ProviderProfileService}

theorem Steady.refl (loops : ProviderRef → AgentLoop Session) (t : Runtime) : Steady loops t t :=
  ⟨.refl t, fun point => .refl False point _, id⟩

theorem Steady.trans {t'' : Runtime} (h : Steady loops t t') (h' : Steady loops t' t'') : Steady loops t t'' :=
  ⟨h.toFollows.trans h'.toFollows, fun point => (h.service point).trans (h'.service point), h'.sound ∘ h.sound⟩

theorem Unclosed.drift {point : ProfileService.Await} {s' : ProviderProfileService} (h : Unclosed s provider)
    (hdrift : Drift False point s s') : Unclosed s' provider := by
  rw [hdrift.others]
  exact h

theorem Suspension.steady {point : RuntimeAwait} (h : Suspension loops ended point t) (hsteady : Steady loops t t') :
    Suspension loops ended point t' := by
  have hdrift := hsteady.service (.closing 0 none)
  refine ⟨?_, h.vacant.drift hdrift, hsteady.sound h.sound, fun turn provider hruns => ?_, h.running⟩
  · rw [hdrift.others]
    exact h.switching
  · obtain ⟨hpoint, hunclosed⟩ := h.waits turn provider (hsteady.runs hruns)
    exact ⟨hpoint, hunclosed.drift hdrift⟩

theorem Still.steady (h : Still loops agentLoop t) (hsteady : Steady loops t t') : Still loops agentLoop t' := by
  refine ⟨hsteady.sound h.sound, ?_, hsteady.agentLoop.trans h.agentLoop⟩
  rcases hsteady.task with hnone | hsame
  · exact hnone
  · simpa [h.task] using hsame

theorem not_runs (h : t.task = none) : ¬Runs t turn provider := by
  intro hruns
  simpa [h] using hruns.task

/-- Between the turns nothing runs over a provider that is not there. -/
theorem Still.resting (h : Still loops agentLoop t) (hfree : Free False t.service) (hvacant : Vacant t.service) :
    Resting loops t :=
  ⟨hfree, h.sound, fun _ hactive => absurd (Eq.trans (Eq.symm hvacant) hactive) (by simp), fun _ _ hruns => (not_runs h.task hruns).elim⟩

/-- Where nothing is published no turn runs. -/
theorem Resting.still (h : Resting loops t) (hvacant : Vacant t.service) : Still loops t.session.agentLoop t := by
  refine ⟨h.sound, ?_, rfl⟩
  cases htask : t.task with
  | none => rfl
  | some task =>
    obtain ⟨-, -, provider, hruns⟩ := h.sound.runs (congrArg (Option.map (·.1)) htask)
    exact absurd (hvacant.symm.trans (h.active _ _ hruns)) (by simp)

/-- What is done without the lock keeps a command suspended. -/
theorem Act.steady {point : RuntimeAwait} (h : Act loops t f) (hat : Suspension loops ended point t) :
    Steady loops t (f t) := by
  rcases h.cases hat.sound with ⟨-, -, provider, -, -, hactive, -⟩ | ⟨hfollows, -, hservice⟩
  · exact (hactive hat.vacant).elim
  · refine ⟨hfollows, fun point => ?_, h.sound⟩
    rcases hservice with hsame | ⟨m, hm⟩
    · rw [hsame]
      exact .refl _ _ _
    · rw [hm]
      exact m.drift hat.switching fun hfalse => hfalse.elim

/-- What is done without the lock at a lock-free point. -/
theorem Act.resting (h : Act loops t f) (ht : Resting loops t) : Resting loops (f t) := by
  rcases h.cases ht.sound with ⟨command, profileId, provider, -, hloop, hactive, hbound⟩ | ⟨hfollows, -, hservice⟩
  · have hsound := h.sound ht.sound
    rw [hbound] at hsound ⊢
    refine ⟨ht.free, hsound, ht.agrees, fun turn provider' hruns => ?_⟩
    -- the new turn runs over the provider of the agent loop, which is the active one
    obtain ⟨active, hsome⟩ := Option.ne_none_iff_exists'.mp hactive
    obtain rfl : provider = active := Option.some.inj (hloop.symm.trans (ht.agrees active hsome))
    obtain rfl : t.session.turns.length = turn := Option.some.inj hruns.task
    have hprovider := hruns.provider
    simp only [Runtime.bindTurn, List.map_append, List.map_cons, List.map_nil] at hprovider
    rw [List.getElem?_append_right (by simp), List.length_map, Nat.sub_self] at hprovider
    exact hsome.trans hprovider
  · have hfree : Free False (f t).service ∧ (f t).service.activeProvider = t.service.activeProvider := by
      rcases hservice with hsame | ⟨m, hm⟩
      · rw [hsame]
        exact ⟨ht.free, rfl⟩
      · rw [hm]
        exact ⟨m.free ht.free, by rw [(m.keepsRuntime t.service).others]⟩
    refine ⟨hfree.1, h.sound ht.sound, fun provider hactive => ?_, fun turn provider hruns => ?_⟩
    · exact hfollows.agentLoop.trans (ht.agrees provider (hfree.2.symm.trans hactive))
    · exact hfree.2.trans (ht.active turn provider (hfollows.runs hruns))

/-! ## The awaits of the provider service -/

theorem steady_coordinate (loops : ProviderRef → AgentLoop Session) (t : Runtime) (oldProfileId : ProfileId) (handling : ActiveTurnHandling) :
    Steady loops t { t with session := (t.session.prepareForProviderSwitch oldProfileId handling).2 } := by
  refine ⟨.of_frame (prepareForProviderSwitch_frame t.session oldProfileId handling) (.inr rfl),
    fun point => .refl False point _, fun hsound => ?_⟩
  exact hsound.others (prepareForProviderSwitch_others t.session oldProfileId handling) t.service

/-- The coordinator returns to a command once no turn runs. -/
theorem coordinate_switches (oldProfileId : ProfileId) (handling : ActiveTurnHandling) (hsound : Sound loops t)
    (hswitching : t.service.lifecycleState = .switching) (hvacant : Vacant t.service)
    (hunclosed : ∀ turn provider, Runs t turn provider → Unclosed t.service provider) (hrunning : ¬ShutDown ended) :
    Switches loops ended (prepareForProviderSwitch oldProfileId handling)
      (fun answer t' => Steady loops t t' ∧ (answer = .returned → t'.task = none)) (fun e _ => e.elim) t := by
  have hsteady := steady_coordinate loops t oldProfileId handling
  refine wp_bind.mpr (wp_get.mpr (wp_bind.mpr (wp_modify.mpr ?_)))
  split
  next answer hanswer =>
    refine wp_pure.mpr ⟨hsteady, ?_⟩
    rintro rfl
    have hquiet := prepareForProviderSwitch_returned hsound hanswer
    exact hquiet
  next turn hanswer =>
    have hcurrent : ∀ turn' provider, Runs t turn' provider → turn' = turn := fun turn' provider hruns =>
      Option.some.inj ((hsound.runs hruns.task).1.symm.trans (prepareForProviderSwitch_waits hanswer))
    generalize ({ t with session := (t.session.prepareForProviderSwitch oldProfileId handling).2 } : Runtime) = t₁ at hsteady
    refine wp_bind.mpr (wp_await.mpr ⟨?_, fun t₂ hsteady₂ answer => ?_⟩)
    · refine Suspension.steady ⟨hswitching, hvacant, hsound, fun turn' provider hruns => ⟨?_, hunclosed _ _ hruns⟩,
        hrunning⟩ hsteady
      rw [hcurrent turn' provider hruns]
    · refine wp_bind.mpr (wp_get.mpr (wp_pure.mpr ⟨hsteady.trans hsteady₂, ?_⟩))
      intro hreturned
      have hboth := hsteady.trans hsteady₂
      cases htask : t₂.task with
      | none => rfl
      | some task =>
        obtain ⟨-, hnone, provider, hruns⟩ := (hboth.sound hsound).runs (congrArg (Option.map (·.1)) htask)
        rw [hcurrent _ _ (hboth.runs hruns)] at hnone
        exact (awaited_returned hreturned hnone).elim

/-- While no turn runs, a part of an operation does to the service what it does alone, and the session stays. -/
theorem onService_still {α : Type} {c : ProfileService.Operation α} {Q : α → ProviderProfileService → Prop}
    {R : Failure → ProviderProfileService → Prop} (ht : Still loops agentLoop t) (hrunning : ¬ShutDown ended)
    (h : c.Wp (Coroutine.interference (Drift False) fun point s => Switching point s ∧ Vacant s) Q R t.service) :
    Switches loops ended (onService c) (fun a t' => Q a t'.service ∧ Still loops agentLoop t')
      (fun e t' => R e t'.service ∧ Still loops agentLoop t') t := by
  refine Coroutine.Wp.within (J := Still loops agentLoop) (fun _ _ => rfl) ?_ ?_ ht h
  · exact fun t s ht => ⟨ht.sound.others (.refl _) s, ht.task, ht.agentLoop⟩
  · rintro (⟨oldProfileId, newProfileId, handling, profile⟩ | ⟨provider, profile⟩) t ht ⟨hswitching, hvacant⟩
    · refine (coordinate_switches oldProfileId handling ht.sound hswitching hvacant
        (fun _ _ hruns => (not_runs ht.task hruns).elim) hrunning).imp ?_
      exact fun answer t' ht' => ⟨ht'.1.service _, ht.steady ht'.1⟩
    · refine wp_await.mpr ⟨⟨hswitching, hvacant, ht.sound, ?_, hrunning⟩, ?_⟩
      · exact fun _ _ hruns => (not_runs ht.task hruns).elim
      · exact fun t' hsteady _ => ⟨hsteady.service _, ht.steady hsteady⟩

/-! ## The operations of the provider service -/

/-- The active provider is not closed. -/
theorem unclosed_of_active (h : s.Accounted) (hactive : s.activeProvider = some provider) : Unclosed s provider := by
  have hlt := h.made provider .active hactive
  refine ⟨s.providers[provider], List.getElem?_eq_getElem hlt, ?_⟩
  cases hclosed : s.providers[provider].closeReturned with
  | false => rfl
  | true =>
    have hplace := (h.only .active hactive .closed).mp ⟨_, List.getElem?_eq_getElem hlt, hclosed⟩
    cases hplace

/-- The service has published the provider, which the agent loop may not be built over yet. -/
structure Activated (loops : ProviderRef → AgentLoop Session) (provider : ProviderRef) (t : Runtime) : Prop where
  free : Free False t.service
  sound : Sound loops t
  active : t.service.activeProvider = some provider
  runs : ∀ turn provider', Runs t turn provider' → provider' = provider

/-- Retrying the pending cleanup closes providers only where no turn runs. -/
theorem retryPendingCleanupLocked_switches (h : Resting loops t) (hrunning : ¬ShutDown ended) :
    Switches loops ended (onService ProfileService.retryPendingCleanupLocked)
      (fun _ t' => Resting loops t' ∧ ¬t'.service.HasPendingCleanup) (fun _ => Resting loops) t := by
  by_cases hpending : t.service.HasPendingCleanup
  · have hvacant : Vacant t.service := h.free.vacant (.inl hpending)
    have halone := (@ProfileService.retryPendingCleanupLocked_leads False t.service h.free.accounted fun _ => hvacant).and
      (ProfileService.retryPendingCleanupLocked_vacant.wp (fun _ _ _ hs hdrift => hs.drift hdrift) hvacant)
    refine (onService_still (h.still hvacant) hrunning halone).mono ?_ ?_
    · rintro - t' ⟨⟨⟨hclean, -⟩ | ⟨hfree, hclean, -, -⟩, hvacant'⟩, hstill⟩
      · exact (hclean hpending).elim
      · exact ⟨hstill.resting hfree hvacant', hclean⟩
    · rintro e t' ⟨⟨hfree, hvacant'⟩, hstill⟩
      exact hstill.resting hfree hvacant'
  · unfold onService ProfileService.retryPendingCleanupLocked
    refine (wp_within_bind _).mpr (wp_within_get.mpr (wp_within_ite.mpr ⟨fun _ => ?_, ?_⟩))
    · exact ⟨h, hpending⟩
    · exact fun hnot => (hnot hpending).elim

/-- A new provider is published only where no turn runs. -/
theorem publish_switches {a : Activation} {profile : ProviderProfile} (h : Still loops agentLoop t)
    (hready : Ready False a profile t.service) (hrunning : ¬ShutDown ended) :
    Switches loops ended (onService (ProfileService.publish a profile)) (Activated loops) (fun _ => Resting loops) t := by
  have halone := (ProfileService.publish_leads hready).and
    (ProfileService.publish_vacant a profile hready.held.vacant)
  refine (onService_still h hrunning halone).mono ?_ ?_
  · rintro provider t' ⟨⟨hfree, hactive⟩, hstill⟩
    exact ⟨hfree, hstill.sound, hactive, fun _ _ hruns => (not_runs hstill.task hruns).elim⟩
  · rintro e t' ⟨⟨hfree, hvacant⟩, hstill⟩
    exact hstill.resting hfree hvacant

/-- The old provider is closed once no turn runs, or it is published again for the turn that runs. -/
theorem retire_switches {a : Activation} {profile : ProviderProfile} {old : ProviderProfileService.Runtime}
    (handling : ActiveTurnHandling) (h : Resting loops t) (hclean : ¬t.service.HasPendingCleanup)
    (hopen : t.service.closed = false) (hactive : t.service.activeProvider = some old.provider)
    (hold : t.service.runtime old.provider = some old) (hprofile : profile.profileId = a.profileId)
    (hrunning : ¬ShutDown ended) :
    Switches loops ended (onService (ProfileService.retire a profile old handling))
      (fun _ t' => Still loops t.session.agentLoop t' ∧ Ready False a profile t'.service) (fun _ => Resting loops) t := by
  have halone := ProfileService.retire_leads handling h.free hclean hopen hactive hold hprofile
    fun hfalse => hfalse.elim
  unfold ProfileService.retire at halone
  obtain ⟨-, hanswers⟩ := wp_await.mp (wp_bind.mp (wp_modify.mp
    (wp_bind.mp halone)))
  have hheld := ProfileService.retired_held h.free.accounted hactive
  have hunclosed : ∀ turn provider, Runs t turn provider → Unclosed (ProfileService.retired t.service old.provider) provider := by
    intro turn provider hruns
    obtain rfl : old.provider = provider := Option.some.inj (hactive.symm.trans (h.active turn provider hruns))
    obtain ⟨p, hp, hopened⟩ := unclosed_of_active h.free.accounted hactive
    refine ⟨p.revoke, ?_, hopened⟩
    show (t.service.onProvider old.provider ProfileService.ManagedProvider.revoke).providers[old.provider]? = _
    rw [ProfileService.ProviderProfileService.onProvider_get, if_pos rfl, hp]
    rfl
  unfold onService ProfileService.retire
  refine (wp_within_bind _).mpr ((wp_within_modify _).mpr ((wp_within_bind _).mpr ?_))
  refine (wp_within_await _).mpr ?_
  refine (coordinate_switches (t := { t with service := ProfileService.retired t.service old.provider }) old.profileId handling
    (h.sound.others (.refl _) _) hheld.switching hheld.vacant
    (fun turn provider hruns => hunclosed turn provider ⟨hruns.task, hruns.provider⟩) hrunning).mono ?_ fun e _ => e.elim
  rintro answer t' ⟨hsteady, hquiet⟩
  have hafter := hanswers t'.service (hsteady.service _) answer
  have hloop : t'.session.agentLoop = t.session.agentLoop := hsteady.agentLoop
  have hsound : Sound loops t' := hsteady.sound (h.sound.others (.refl _) _)
  have hruns : ∀ turn provider, Runs t' turn provider → Runs t turn provider := fun turn provider hruns =>
    have hbefore := hsteady.runs hruns
    ⟨hbefore.task, hbefore.provider⟩
  have hrestored : Free False (ProfileService.restore old t'.service) →
      Resting loops { t' with service := ProfileService.restore old t'.service } := by
    intro hfree
    refine ⟨hfree, hsound.others (.refl _) _, ?_, fun turn provider hruns' => ?_⟩
    · rintro provider ⟨⟩
      exact hloop.trans (h.agrees _ hactive)
    · exact hactive.symm.trans (h.active turn provider (hruns turn provider ⟨hruns'.task, hruns'.provider⟩))
  cases answer with
  | cancelled => exact hrestored hafter
  | raised => exact hrestored hafter
  | returned =>
    have hstill : Still loops t.session.agentLoop t' := ⟨hsound, hquiet rfl, hloop⟩
    have hvacant : Vacant t'.service := Vacant.drift hheld.vacant (hsteady.service (.closing 0 none))
    have hpreserves : (do
        if !(← ProfileService.closeTrackedProvider (some profile) old.provider .retiring) then do
          modify fun s => s.withLifecycle .cleanupPending
          Coroutine.raise (.service "The previous Provider could not be closed safely.") :
        ProfileService.Operation Unit).Preserves Vacant :=
      .bind (ProfileService.closeTrackedProvider_vacant _ _ _) fun _ => .ite (.bind (.modify fun _ h => h) fun _ => trivial) trivial
    refine (onService_still hstill hrunning
      (hafter.and (hpreserves.wp (fun _ _ _ hs hdrift => hs.drift hdrift) hvacant))).mono ?_ ?_
    · exact fun _ t'' ht'' => ⟨ht''.2, ht''.1.1⟩
    · exact fun _ t'' ht'' => ht''.2.resting ht''.1.1 ht''.1.2

/-- An activation leads from one lock-free point to the next, whatever turn runs. -/
theorem activateProfile_switches (a : Activation) (h : Resting loops t) (hrunning : ¬ShutDown ended) :
    Switches loops ended (onService (ProfileService.activateProfile a)) (Activated loops) (fun _ => Resting loops) t := by
  unfold onService ProfileService.activateProfile
  refine (wp_within_bind _).mpr ((retryPendingCleanupLocked_switches h hrunning).imp ?_)
  rintro - t₁ ⟨hresting, hclean⟩
  refine (wp_within_bind _).mpr (wp_within_get.mpr (wp_within_ite.mpr
    ⟨fun _ => hresting, fun hopen => ?_⟩))
  have hopen : t₁.service.closed = false := by simpa using hopen
  split
  next => exact hresting
  next => exact hresting
  next profile hget =>
    have hprofile : profile.profileId = a.profileId := profileOf_profileId (MetadataSnapshot.getProfile_ok hget).symm
    refine wp_within_ite.mpr ⟨fun _ => hresting, fun _ => ?_⟩
    split
    next hvacant =>
      refine (wp_within_bind _).mpr ((wp_within_modify _).mpr ?_)
      have hstill := hresting.still hvacant
      refine publish_switches ⟨hstill.sound.others (.refl _) _, hstill.task, hstill.agentLoop⟩ ?_ hrunning
      exact ⟨⟨hresting.free.accounted.withLifecycle _, rfl, hvacant⟩, hclean, hopen, hprofile, fun hfalse => hfalse.elim⟩
    next provider hactive =>
      refine wp_within_ite.mpr ⟨fun _ => wp_within_ite.mpr ⟨fun _ => ?_, fun _ => hresting⟩, fun _ => ?_⟩
      · refine ⟨hresting.free, hresting.sound, hactive, fun turn provider' hruns => ?_⟩
        exact Option.some.inj ((hresting.active turn provider' hruns).symm.trans hactive)
      · split
        next old handling hold _ _ =>
          obtain rfl := (ProfileService.runtime_eq hold).1
          refine (wp_within_bind _).mpr ((retire_switches handling hresting hclean hopen hactive hold hprofile
            hrunning).imp ?_)
          exact fun _ t₂ ht₂ => publish_switches ht₂.1 ht₂.2 hrunning
        next => exact hresting

/-- Closing the service leaves everything closed, or something to close. -/
theorem aclose_switches (h : Resting loops t) (hquiet : t.task = none) (hrunning : ¬ShutDown ended) :
    Switches loops ended (onService ProfileService.aclose)
      (fun _ t' => Resting loops t' ∧ t'.task = none ∧ Finished t'.service) (fun _ => Resting loops) t := by
  have hstill : Still loops t.session.agentLoop t := ⟨h.sound, hquiet, rfl⟩
  have halone := (ProfileService.aclose_leads h.free).and (ProfileService.aclose_vacant t.service)
  refine (onService_still hstill hrunning halone).mono ?_ ?_
  · rintro - t' ⟨⟨⟨hfree, hfinished⟩, hvacant⟩, hstill'⟩
    exact ⟨hstill'.resting hfree hvacant, hstill'.task, hfinished⟩
  · rintro e t' ⟨⟨hfree, hvacant⟩, hstill'⟩
    exact hstill'.resting hfree hvacant

/-! ## The commands -/

/-- The runtime at the lock-free points: a shutdown that has returned is final. -/
def Between (loops : ProviderRef → AgentLoop Session) (ended : List (RuntimeCall × Except Failure RuntimeCommandResult))
    (t : Runtime) : Prop :=
  Resting loops t ∧ (ShutDown ended → Finished t.service ∧ t.session.state = .closed ∧ t.session.agentLoop = none)

theorem shutDown_cons {op : RuntimeCall} {result : Except Failure RuntimeCommandResult} :
    ShutDown ((op, result) :: ended) ↔ op = .shutdown ∧ result = .ok .ok ∨ ShutDown ended := by
  unfold ShutDown
  rw [List.mem_cons, Prod.mk.injEq]
  exact or_congr (and_congr eq_comm eq_comm) Iff.rfl

/-- A command that is not a successful shutdown, before one. -/
theorem between_of_resting {op : RuntimeCall} {result : Except Failure RuntimeCommandResult} (hrunning : ¬ShutDown ended)
    (hresult : ¬(op = .shutdown ∧ result = .ok .ok)) (h : Resting loops t) : Between loops ((op, result) :: ended) t := by
  refine ⟨h, fun hshut => ?_⟩
  rcases shutDown_cons.mp hshut with hthis | hbefore
  · exact (hresult hthis).elim
  · exact (hrunning hbefore).elim

/-- What a shutdown that returns leaves. -/
theorem Still.closed (h : Still loops agentLoop t) (hfree : Free False t.service) (hfinished : Finished t.service) :
    Between loops ended { t with session := { t.session with agentLoop := none, state := .closed, agentState := .idle } } := by
  refine ⟨⟨hfree, keep_sound.closed t h.sound, fun provider hactive => ?_, fun turn provider hruns => ?_⟩,
    fun _ => ⟨hfinished, rfl, rfl⟩⟩
  · exact absurd (hfinished.vacant.symm.trans hactive) (by simp)
  · exact (not_runs h.task ⟨hruns.task, hruns.provider⟩).elim

/-- Before a shutdown has returned, a command leads from one lock-free point to the next. -/
theorem body_running (op : RuntimeCall) (h : Resting loops t) (hop : RuntimeCall.Pre op t) (hrunning : ¬ShutDown ended) :
    Switches loops ended op.body (fun r => Between loops ((op, .ok r) :: ended))
      (fun e => Between loops ((op, .error e) :: ended)) t := by
  cases op with
  | activateProfile a =>
    refine wp_bind.mpr (wp_attempt.mpr ((activateProfile_switches a h hrunning).mono ?_ ?_))
    · rintro provider t' hactivated
      refine wp_bind.mpr (wp_modify.mpr (wp_pure.mpr ?_))
      refine between_of_resting hrunning (fun hthis => (by cases hthis.1)) ⟨hactivated.free, ?_, ?_, ?_⟩
      · exact keep_sound.activated t' provider hactivated.sound
      · rintro provider' hactive
        exact congrArg some (Option.some.inj (hactivated.active.symm.trans hactive))
      · rintro turn provider' hruns
        rw [hactivated.runs turn provider' ⟨hruns.task, hruns.provider⟩]
        exact hactivated.active
    · rintro e t' hresting
      have hbetween : ∀ result, Between loops ((RuntimeCall.activateProfile a, result) :: ended) t' := fun result =>
        between_of_resting hrunning (fun hthis => (by cases hthis.1)) hresting
      dsimp only
      split
      next heq => cases heq
      next => exact hbetween _
      next => exact hbetween _
  | shutdown =>
    refine wp_bind.mpr (wp_attempt.mpr ((aclose_switches h hop.2 hrunning).mono ?_ ?_))
    · rintro - t' ⟨hresting, hquiet, hfinished⟩
      have hstill : Still loops t'.session.agentLoop t' := ⟨hresting.sound, hquiet, rfl⟩
      exact wp_bind.mpr (wp_modify.mpr (wp_pure.mpr (hstill.closed hresting.free hfinished)))
    · rintro e t' hresting
      dsimp only
      split
      next heq => cases heq
      next => exact between_of_resting hrunning (fun hthis => (by cases hthis.2)) hresting
      next => exact between_of_resting hrunning (fun hthis => (by cases hthis.2)) hresting

/-- After a shutdown an operation of the service that does not suspend leaves the session alone. -/
theorem onService_closed {α : Type} {c : ProfileService.Operation α} {Q : α → ProviderProfileService → Prop}
    {R : Failure → ProviderProfileService → Prop} {state : RuntimeState} (ht : Still loops agentLoop t)
    (hstate : t.session.state = state)
    (h : c.Wp (Coroutine.interference (Drift False) fun point s => Switching point s ∧ False) Q R t.service) :
    Switches loops ended (onService c) (fun a t' => Q a t'.service ∧ Still loops agentLoop t' ∧ t'.session.state = state)
      (fun e t' => R e t'.service ∧ Still loops agentLoop t' ∧ t'.session.state = state) t := by
  refine Coroutine.Wp.within (J := fun t => Still loops agentLoop t ∧ t.session.state = state) (fun _ _ => rfl) ?_ ?_
    ⟨ht, hstate⟩ h
  · exact fun t s ht => ⟨⟨ht.1.sound.others (.refl _) s, ht.1.task, ht.1.agentLoop⟩, ht.2⟩
  · exact fun p t _ hnever => hnever.2.elim

/-- After a shutdown has returned, no command does anything more. -/
theorem body_shutDown (op : RuntimeCall) (h : Between loops ended t) (hshut : ShutDown ended) :
    Switches loops ended op.body (fun r => Between loops ((op, .ok r) :: ended))
      (fun e => Between loops ((op, .error e) :: ended)) t := by
  obtain ⟨hresting, hclosed⟩ := h
  obtain ⟨hfinished, hstate, hloop⟩ := hclosed hshut
  have hstill := hresting.still hfinished.vacant
  have hbetween : ∀ result t', Free False t'.service → Finished t'.service → Still loops t.session.agentLoop t' →
      t'.session.state = .closed → Between loops ((op, result) :: ended) t' := by
    intro result t' hfree hfinished' hstill' hstate'
    exact ⟨hstill'.resting hfree hfinished'.vacant, fun _ => ⟨hfinished', hstate', hstill'.agentLoop.trans hloop⟩⟩
  cases op with
  | activateProfile a =>
    have halone := (ProfileService.activateProfile_leads a hresting.free).and
      (ProfileService.activateProfile_finished (fun _ _ => False) a hfinished)
    refine wp_bind.mpr (wp_attempt.mpr ((onService_closed hstill hstate halone).mono ?_ ?_))
    · exact fun _ _ hnever => hnever.1.2.elim
    · rintro e t' ⟨⟨hfree, hfinished'⟩, hstill', hstate'⟩
      dsimp only
      split
      next heq => cases heq
      next => exact hbetween _ t' hfree hfinished' hstill' hstate'
      next => exact hbetween _ t' hfree hfinished' hstill' hstate'
  | shutdown =>
    have halone := (ProfileService.aclose_leads hresting.free).and
      (ProfileService.aclose_finished (fun _ _ => False) hfinished)
    refine wp_bind.mpr (wp_attempt.mpr ((onService_closed hstill hstate halone).mono ?_ ?_))
    · rintro - t' ⟨⟨⟨hfree, -⟩, hfinished'⟩, hstill', -⟩
      exact wp_bind.mpr (wp_modify.mpr (wp_pure.mpr (hstill'.closed hfree hfinished')))
    · rintro e t' ⟨⟨hfree, hfinished'⟩, hstill', hstate'⟩
      dsimp only
      split
      next heq => cases heq
      next => exact hbetween _ t' hfree hfinished' hstill' hstate'
      next => exact hbetween _ t' hfree hfinished' hstill' hstate'

/-! ## The system -/

theorem keeps_between (loops : ProviderRef → AgentLoop Session) :
    Locked.KeepsCalled RuntimeCall.body (fun f t => f t) (fun _ t f => Act loops t f ∧ Sound loops t) RuntimeCall.Pre
      (fun _ => Steady loops) (Suspension loops) (Between loops) where
  operation ended t op h hop := by
    by_cases hshut : ShutDown ended
    · exact body_shutDown op h hshut
    · exact body_running op h.1 hop hshut
  mutation ended t f h hok := by
    obtain ⟨hact, hsound⟩ := hok
    refine ⟨hact.resting h.1, fun hshut => ?_⟩
    obtain ⟨hfinished, hstate, hloop⟩ := h.2 hshut
    rcases hact.cases hsound with ⟨-, -, provider, hready, -⟩ | ⟨hfollows, hclosed, hservice⟩
    · cases hstate.symm.trans hready
    · refine ⟨?_, hclosed hstate, hfollows.agentLoop.trans hloop⟩
      rcases hservice with hsame | ⟨m, hm⟩
      · rw [hsame]
        exact hfinished
      · rw [hm]
        exact m.finished hfinished
  interferes ended point t f hat hok := hok.1.steady hat
  stable ended point t t' hat hsteady := hat.steady hsteady
  refl _ t := .refl loops t
  trans _ _ _ _ h h' := h.trans h'
  preserves op op' := by
    cases op' with
    | activateProfile a => exact CommandsKeep.body ⟨fun _ _ _ => trivial, fun _ _ _ _ => trivial, fun _ _ _ => trivial, fun _ _ => trivial⟩ op
    | shutdown => exact keep_quiesced.body op
  mutates point t f op hok hop := by
    cases op with
    | activateProfile a => exact trivial
    | shutdown => exact hok.1.quiesced hok.2 hop

/-- Behind its lock, the runtime is between its commands or in the suspension of one. -/
def Ordered (loops : ProviderRef → AgentLoop Session) (l : Shared) : Prop :=
  Locked.Invariant (fun _ => Steady loops) (Suspension loops) (Between loops) l ∧ Locked.Called RuntimeCall.Pre l

theorem System.Initial.ordered {s : System} (h : s.Initial) (loops : ProviderRef → AgentLoop Session) : Ordered loops s.locked := by
  have hsound := (h.healthy loops).sound
  obtain ⟨repository, rfl⟩ := h
  refine ⟨⟨⟨?_, hsound, fun _ hactive => (by cases hactive), fun _ _ hruns => (by cases hruns.task)⟩, fun hshut => (by cases hshut)⟩,
    fun op hop => (by cases hop), fun held hheld => (by cases hheld)⟩
  have hinitial : ProfileService.System.Initial { shared := { repository, hasTurnCoordinator := true } } := ⟨_, _, rfl⟩
  exact (hinitial.between False).2.1

theorem Reached.between {s : System} (h : Reached loops s) :
    Locked.Invariant (fun _ => Steady loops) (Suspension loops) (Between loops) s.locked := by
  have hkeeps : ∀ l event, Ordered loops l → Allowed loops l event → Ordered loops (Shared.step l event) :=
    fun l event hl hok => ⟨Locked.step_invariant_called (keeps_between loops) l event hl.1 hl.2 hok,
      Locked.step_called (keeps_between loops) l event hl.2 hok⟩
  have hstart : ∀ s, System.Initial s → Healthy loops s ∧ Ordered loops s.locked :=
    fun s hs => ⟨hs.healthy loops, hs.ordered loops⟩
  have hordered := h.invariant hstart fun s event hs =>
    have hstep := step_continues hs.1 event
    ⟨hstep.healthy, hstep.reaches.invariant hkeeps hs.2⟩
  exact hordered.2.1

end ArkClaw.Agent.RuntimeSession
