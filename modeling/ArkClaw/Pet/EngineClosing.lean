import ArkClaw.Pet.EngineLifecycle

/-!
# A closing engine

What the events that name a lifecycle do to a pet, and what that makes of a run in which the lifecycle is
closing. A pause and a resume ask nothing about the lifecycle they start from, so a closing pet can be paused
and resumed; every other operation leaves it closing, with nothing played.
-/

namespace ArkClaw.Pet

open ArkClaw.Library

namespace PetAnimationEngine

section

variable {env : EngineEnv} {t0 : Track0Env} {e e' : PetAnimationEngine} {event : PetAnimationEvent}
  {o : ActionOutcome}

/-! ## Events that name a lifecycle -/

/-- A pause or a close goes through whatever plays, and stops it. -/
theorem handleEvent_clears (htrack : env.track0 = some t0) (hv : e.motion.states.Valid)
    (hevent : event.eventType = .pause ∨ event.eventType = .beginClosing) : Wp (handleEvent env event)
      (fun _ e' => some e'.motion.states.lifecycle = eventLifecycle event.eventType ∧ Barred e'
        ∧ StaysStopped e.track0 e'.track0) (fun _ _ => False) e := by
  obtain ⟨lifecycle, hlifecycle, hinactive⟩ : ∃ lifecycle, eventLifecycle event.eventType = some lifecycle
      ∧ lifecycle ≠ .active := by
    obtain hevent | hevent := hevent <;> rw [hevent] <;> exact ⟨_, rfl, by decide⟩
  obtain ⟨change, reason, hchange⟩ : ∃ change reason, eventChange env event = .ok (change, none, reason) := by
    unfold eventChange
    obtain hevent | hevent := hevent <;> rw [hevent] <;> exact ⟨_, _, rfl⟩
  have hnames := (eventChange_lifecycle hchange).trans hlifecycle
  have hresets : change.Resets := .inr ⟨lifecycle, hnames, hinactive⟩
  obtain ⟨hmotion, htrack₀⟩ := prepared_frame e event
  generalize hprepared : e.prepared event = e₀ at hmotion htrack₀
  have hv₀ : e₀.motion.states.Valid := by rwa [hmotion]
  have hpropose := e₀.motion.states.propose_eq (PetLayeredStateMachine.snapshot_of_valid _ hv₀) hresets
  have htarget : (e₀.motion.states.proposal (e₀.motion.states.state hv₀) hresets).targetState.lifecycle
      = lifecycle := by
    rw [e₀.motion.states.propose_lifecycle hpropose, hnames, Option.getD_some]
  generalize e₀.motion.states.proposal (e₀.motion.states.state hv₀) hresets = proposal at hpropose htarget
  unfold handleEvent
  refine wp_bind.mpr ((wp_interruptFor _ _).mpr ?_)
  rw [hprepared]
  simp only [htrack, proposeEvent, hchange, wp_bind, wp_getOrRaise, Except.ok.injEq, reduceCtorEq, false_implies,
    implies_true, and_true, forall_eq', wp_propose, hpropose, wp_pure]
  refine (wp_commit _ hpropose _ _).mpr (wp_onTrack0.mpr ?_)
  refine (PetTrack0Controller.clear_spec reason).imp (fun _ track0 hcleared => ?_)
  obtain ⟨hstopped, hhealth⟩ := hcleared
  refine (compatible_of_inactive (committed_valid _ _) hstopped.desired ?_).asserts ?_
  · exact htarget.trans_ne hinactive
  · refine ⟨hlifecycle.symm ▸ congrArg some htarget, ⟨committed_valid _ _, hstopped, .inl ?_⟩, hstopped, ?_⟩
    · exact htarget.trans_ne hinactive
    · rw [← htrack₀]
      exact hhealth.elim (fun h => .inl h.2) fun h => .inr (by rw [h.2]; decide)

/-- A barred pet resumes where its Relax can play on a healthy renderer, and is left alone elsewhere. -/
theorem handleEvent_resumes (htrack : env.track0 = some t0) (hb : Barred e) (hevent : event.eventType = .resume) :
    Wp (handleEvent env event)
      (fun _ e' =>
        (e.track0.state.health = .healthy ∧ Performable t0 .productionRelax
          ∧ e'.motion.states.lifecycle = .active)
        ∨ (¬(e.track0.state.health = .healthy ∧ Performable t0 .productionRelax) ∧ e' = e))
      (fun _ _ => False) e := by
  have hprepared : e.prepared event = e := by
    unfold prepared
    rw [hevent]
    rfl
  have hadmits := @Barred.admits_resume env t0 e event hb hevent
  refine ((handleEvent_lifecycle htrack hb.valid).and (handleEvent_spec htrack)).mono (fun o e' h => ?_)
    (fun error e' h => ?_)
  · obtain ⟨⟨hhandled, -, hlifecycle⟩, -⟩ := h
    rw [hprepared] at hhandled
    rw [hevent] at hlifecycle
    cases hhandled with
    | cleared _ _ _ hkind => obtain hkind | hkind := hkind <;> rw [hevent] at hkind <;> cases hkind
    | contained _ proposal reason request track0 hsubmits hmandatory =>
      obtain ⟨change, hchange, hpropose, -⟩ := hsubmits
      have hfalls := mandatory_of_eventChange hchange
        ((e.motion.states.propose_source hpropose).2.1.symm.trans hmandatory)
      rw [hevent] at hfalls
      cases hfalls
    | refused _ _ _ hrefused => exact .inr ⟨fun h => hrefused (hadmits.mpr h), rfl⟩
    | played _ _ _ _ _ _ _ _ _ hresume => exact absurd hevent hresume
    | resumed _ _ _ _ _ hadmitted =>
      obtain ⟨hhealth, hperformable⟩ := hadmits.mp hadmitted
      exact .inl ⟨hhealth, hperformable, hlifecycle⟩
    | failed _ _ _ hadmitted hcontained =>
      obtain ⟨hhealth, hperformable⟩ := hadmits.mp hadmitted
      refine .inl ⟨hhealth, hperformable, ?_⟩
      obtain rfl | rfl := hcontained.outcome <;> exact hlifecycle
  · obtain ⟨-, -, hraised⟩ := h
    obtain ⟨proposal, request, hsubmits, -⟩ := @resume_submits env t0 e event hb.valid hevent
    exact hraised.submits_none _ _ _ (submits_prepared.mpr hsubmits)

/-! ## Quiet -/

/-- Outside the active lifecycle nothing plays. -/
def Quiet (e : PetAnimationEngine) : Prop :=
  e.motion.states.lifecycle ≠ .active → PetTrack0Controller.Stopped e.track0

theorem Quiet.barred (h : Quiet e) (hv : e.motion.states.Valid) (hinactive : e.motion.states.lifecycle ≠ .active) :
    Barred e := ⟨hv, h hinactive, .inl hinactive⟩

/-- What plays for an event, plays for an active pet. -/
theorem Handled.quiet (h : Handled env t0 (e.prepared event) event o e') (hq : Quiet e) : Quiet e' := by
  obtain ⟨hmotion, htrack⟩ := prepared_frame e event
  cases h with
  | cleared _ motion track0 _ _ _ _ hstopped => exact fun _ => hstopped
  | contained _ proposal reason request track0 _ _ _ hcontained => exact fun _ => hcontained.stopped
  | refused =>
    unfold Quiet
    rwa [hmotion, htrack]
  | played proposal reason request track0 _ _ hperforms _ hcompatible =>
    exact fun hinactive =>
      absurd (hcompatible.of_some (committed_valid _ _) hperforms.playing.desired).1 hinactive
  | resumed proposal request track0 _ _ _ _ _ hperforms hcompatible hactivated =>
    intro hinactive
    rw [hactivated.frame.1] at hinactive
    exact absurd (hcompatible.of_some (committed_valid _ _) hperforms.playing.desired).1 hinactive
  | failed _ proposal track0 _ hcontained => exact fun _ => hcontained.stopped

/-- Every operation keeps quiet. -/
theorem operate_quiet (htrack : env.track0 = some t0)
    (hsequencing : sequencingEnabled t0.player.capabilities = true) (hs : Sound env t0 e) (hq : Quiet e)
    (op : Operation) : Quiet (operate env e op) := by
  have henabled := sequencingEnabled_of htrack hsequencing
  cases hop : op.lifecycleEvent with
  | some eventType =>
    refine operate_lifecycleEvent henabled hop fun event e₁ _ hmotion htrack₁ => ?_
    have hq₁ : Quiet e₁ := by
      unfold Quiet
      rwa [hmotion, htrack₁]
    refine (handleEvent_spec htrack).mono (fun o e' h => h.quiet hq₁) (fun error e' h => ?_)
    obtain ⟨hmotion', htrack'⟩ := prepared_frame e₁ event
    unfold Quiet
    rwa [h.1, hmotion', htrack']
  | none =>
    by_cases hrecover : op = .recoverFailedClose
    · -- the track of a pet that was closing is stopped already
      subst hrecover
      refine Wp.stateAfter (wp_onMotion.mpr ((PetMotionModel.wp_onStates _ _ _).mpr
        ⟨fun states hrecovered _ => ?_, fun _ _ => hq⟩))
      have hclosing := (PetLayeredStateMachine.recoverFailedClose_at hrecovered).1
      exact hq (hclosing.trans_ne (by decide))
    · have hlasting := operate_lasts htrack hsequencing hs hop hrecover
      intro hinactive
      rw [(hlasting.same hs.valid).2] at hinactive
      exact (hlasting.stays (hq.barred hs.valid hinactive)).stopped

/-- Where the player meets the sequencing contract, every reachable engine is sound and quiet. -/
theorem reachable_quiet (htrack : env.track0 = some t0)
    (hsequencing : sequencingEnabled t0.player.capabilities = true) (h : Reachable (operate env) (Built env) e) :
    Sound env t0 e ∧ Quiet e := by
  have hstart : ∀ e, Built env e → Sound env t0 e ∧ Quiet e := by
    rintro e hbuilt
    refine ⟨built_sound hbuilt, fun _ => ?_⟩
    obtain ⟨position, windowSize, config, rfl⟩ := hbuilt
    exact ⟨rfl, rfl, rfl, rfl, rfl⟩
  exact h.invariant hstart fun _ op hinv => ⟨(operate_keeps htrack hsequencing hinv.1 op).sound,
    operate_quiet htrack hsequencing hinv.1 hinv.2 op⟩

/-! ## Closing -/

/-- The operation opens a closing pet again: it is paused, or resumed while its Relax can play. -/
def Reopens (t0 : Track0Env) (e : PetAnimationEngine) (op : Operation) : Prop :=
  op.lifecycleEvent = some .pause
    ∨ op.lifecycleEvent = some .resume ∧ e.track0.state.health = .healthy ∧ Performable t0 .productionRelax

/-- The operation leaves a closing pet closing, with nothing played; only the recovery of a failed close may do
otherwise. -/
def StaysClosing (env : EngineEnv) (e : PetAnimationEngine) (op : Operation) : Prop :=
  e.motion.states.lifecycle = .closing → op ≠ .recoverFailedClose →
    (operate env e op).motion.states.lifecycle = .closing
      ∧ PetTrack0Controller.Stopped (operate env e op).track0

theorem lifecycleEvent_names {op : Operation} {eventType : PetAnimationEventType}
    (h : op.lifecycleEvent = some eventType) : (eventLifecycle eventType).isSome = true := by
  cases op with
  | handleEvent event =>
    simp only [Operation.lifecycleEvent] at h
    split at h
    next hnames => rwa [← Option.some.inj h]
    next => cases h
  | pause => obtain rfl := Option.some.inj h; rfl
  | resume => obtain rfl := Option.some.inj h; rfl
  | beginClosing => obtain rfl := Option.some.inj h; rfl
  | _ => cases h

/-- Of all operations only those that open it again take a pet out of closing. -/
theorem staysClosing_iff (htrack : env.track0 = some t0)
    (hsequencing : sequencingEnabled t0.player.capabilities = true) (hs : Sound env t0 e) (hq : Quiet e)
    (op : Operation) : StaysClosing env e op ↔ ¬(e.motion.states.lifecycle = .closing ∧ Reopens t0 e op) := by
  have henabled := sequencingEnabled_of htrack hsequencing
  by_cases hclosing : e.motion.states.lifecycle = .closing
  · have hb := hq.barred hs.valid (hclosing.trans_ne (by decide))
    have hat : ∀ e₁ : PetAnimationEngine, e₁.motion = e.motion → e₁.track0 = e.track0 → Barred e₁ := by
      intro e₁ hmotion htrack₁
      refine ⟨?_, ?_, ?_⟩
      · rw [hmotion]; exact hb.valid
      · rw [htrack₁]; exact hb.stopped
      · rw [hmotion, htrack₁]; exact hb.bars
    cases hop : op.lifecycleEvent with
    | none =>
      refine iff_of_true (fun _ hrecover => ?_) (by simp [Reopens, hop])
      have hlasting := operate_lasts htrack hsequencing hs hop hrecover
      exact ⟨(hlasting.same hs.valid).2.trans hclosing, (hlasting.stays hb).stopped⟩
    | some eventType =>
      have hrecover : op ≠ .recoverFailedClose := by
        rintro rfl
        cases hop
      cases eventType with
      | pause =>
        refine iff_of_false (fun hstays => ?_) (by simp [Reopens, hop, hclosing])
        have hpaused : (operate env e op).motion.states.lifecycle = .paused :=
          operate_lifecycleEvent henabled hop fun event e₁ hevent hmotion htrack₁ => by
            refine (handleEvent_clears htrack (hat e₁ hmotion htrack₁).valid (.inl hevent)).mono
              (fun _ e' h => ?_) (fun _ _ h => h.elim)
            rw [hevent] at h
            exact Option.some.inj h.1
        rw [(hstays hclosing hrecover).1] at hpaused
        cases hpaused
      | beginClosing =>
        refine iff_of_true (fun _ _ => ?_) (by simp [Reopens, hop])
        refine @operate_lifecycleEvent env e henabled op .beginClosing hop (fun e' =>
          e'.motion.states.lifecycle = .closing ∧ PetTrack0Controller.Stopped e'.track0)
          fun event e₁ hevent hmotion htrack₁ => ?_
        refine (handleEvent_clears htrack (hat e₁ hmotion htrack₁).valid (.inr hevent)).mono
          (fun _ e' h => ?_) (fun _ _ h => h.elim)
        rw [hevent] at h
        exact ⟨Option.some.inj h.1, h.2.2.stopped⟩
      | resume =>
        have hresumes := @operate_lifecycleEvent env e henabled op .resume hop (fun e' =>
          (e.track0.state.health = .healthy ∧ Performable t0 .productionRelax
            ∧ e'.motion.states.lifecycle = .active)
          ∨ (¬(e.track0.state.health = .healthy ∧ Performable t0 .productionRelax)
            ∧ e'.motion = e.motion ∧ e'.track0 = e.track0)) fun event e₁ hevent hmotion htrack₁ => by
          refine (handleEvent_resumes htrack (hat e₁ hmotion htrack₁) hevent).mono (fun _ e' h => ?_)
            (fun _ _ h => h.elim)
          rw [htrack₁] at h
          exact h.imp_right fun h => ⟨h.1, by rw [h.2, hmotion], by rw [h.2, htrack₁]⟩
        rcases hresumes with ⟨hhealth, hperformable, hactive⟩ | ⟨hrefused, hmotion, htrack₁⟩
        · refine iff_of_false (fun hstays => ?_) (by simp [Reopens, hop, hclosing, hhealth, hperformable])
          rw [(hstays hclosing hrecover).1] at hactive
          cases hactive
        · refine iff_of_true (fun _ _ => ?_) (by simpa [Reopens, hop, hclosing] using hrefused)
          rw [hmotion, htrack₁]
          exact ⟨hclosing, hb.stopped⟩
      | _ => exact absurd (lifecycleEvent_names hop) (by decide)
  · exact iff_of_true (fun h => absurd h hclosing) (fun h => hclosing h.1)

/-- In every run a closing pet stays closing and plays nothing, exactly if no operation pauses it, or resumes it
while its Relax can play. -/
theorem stays_closing_iff {e₀ : PetAnimationEngine} (htrack : env.track0 = some t0)
    (hsequencing : sequencingEnabled t0.player.capabilities = true) (hbuilt : Built env e₀)
    (ops : List Operation) : StepsMeet (operate env) (StaysClosing env) e₀ ops ↔
      StepsMeet (operate env) (fun e op => ¬(e.motion.states.lifecycle = .closing ∧ Reopens t0 e op)) e₀ ops := by
  have hstart : Sound env t0 e₀ ∧ Quiet e₀ :=
    reachable_quiet htrack hsequencing ⟨e₀, [], hbuilt, rfl⟩
  have hkeeps : ∀ {ok : PetAnimationEngine → Operation → Prop} e op, Sound env t0 e ∧ Quiet e → ok e op →
      Sound env t0 (operate env e op) ∧ Quiet (operate env e op) := fun e op hinv _ =>
    ⟨(operate_keeps htrack hsequencing hinv.1 op).sound, operate_quiet htrack hsequencing hinv.1 hinv.2 op⟩
  constructor
  · exact StepsMeet.of_invariant hkeeps
      (fun e op hinv h => (staysClosing_iff htrack hsequencing hinv.1 hinv.2 op).mp h) e₀ ops hstart
  · exact StepsMeet.of_invariant hkeeps
      (fun e op hinv h => (staysClosing_iff htrack hsequencing hinv.1 hinv.2 op).mpr h) e₀ ops hstart

end

/-- A pet that closes and is paused is paused, and no longer closing. -/
theorem paused_while_closing :
    ¬∀ (env : EngineEnv) (t0 : Track0Env) (e₀ : PetAnimationEngine) (ops : List Operation),
      env.track0 = some t0 → sequencingEnabled t0.player.capabilities = true → Built env e₀ →
      StepsMeet (operate env) (StaysClosing env) e₀ ops := by
  intro h
  have hstays := (h (steadyEnv [.idle]) _ (steadyEngine [.idle]) [.beginClosing, .pause] rfl rfl
    (steadyEngine_built _)).2.1
  exact absurd (hstays rfl (by simp)).1 (by decide)

/-- A closing pet is asked to relax and is dragged: it stays closing. -/
theorem dragged_while_closing : let env := steadyEnv [.idle, .dragStart, .dragLoop]
    StepsMeet (operate env) (StaysClosing env) (steadyEngine [.idle, .dragStart, .dragLoop])
      [.startAutonomous, .beginClosing, .resumeAutonomous .user, .startDragging] := by
  have hother : ∀ {e : PetAnimationEngine} {op : Operation}, op.lifecycleEvent ≠ some .pause →
      op.lifecycleEvent ≠ some .resume →
      ¬(e.motion.states.lifecycle = .closing
        ∧ Reopens (Track0Env.steady (secondsRegistry [.idle, .dragStart, .dragLoop])) e op) :=
    fun hpause hresume h => h.2.elim hpause fun h => hresume h.1
  exact (stays_closing_iff rfl rfl (steadyEngine_built _) _).mpr
    ⟨hother nofun nofun, hother nofun nofun, hother nofun nofun, hother nofun nofun, trivial⟩

end PetAnimationEngine

end ArkClaw.Pet
