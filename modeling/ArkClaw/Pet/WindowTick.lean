import ArkClaw.Library.Substeps
import ArkClaw.Pet.EngineCompletion

/-!
# The window's tick

A tick of the pet window advances the engine and hands it the callbacks the playback source reports; a failure on
the way is contained and the source given up. Callbacks may be lost. The watchdog's deadline tells that one is
overdue, and nothing in a tick looks at it: the playback whose callback is lost goes on for ever. Where the
callback arrives, and the scheduler leaves it to the controller, and something can follow, the playback is over at
the end of the tick.
-/

namespace ArkClaw.Pet

open ArkClaw.Library

namespace PetTrack0Controller

/-! ## The confirmed generation -/

/-- The confirmed playback is that of the last generation. -/
def Current (c : PetTrack0Controller) : Prop :=
  ∀ epoch, c.state.confirmedEpoch = some epoch → epoch.generation = c.generation

/-- A confirmed playback stays that of the last generation. -/
def KeepsCurrent (c c' : PetTrack0Controller) : Prop := Current c → Current c'

instance : Std.Refl KeepsCurrent := ⟨fun _ => id⟩

instance : Trans KeepsCurrent KeepsCurrent KeepsCurrent := ⟨fun h h' hc => h' (h hc)⟩

section

variable {env : Track0Env} {c : PetTrack0Controller} {request : ActionRequest}

theorem current_of_none (h : c.state.confirmedEpoch = none) : Current c := fun epoch hepoch => by
  rw [h] at hepoch
  cases hepoch

/-- A command that plays confirms its own generation or none. -/
theorem playStep_current (step : PetActionStep) :
    Wp (playStep env request step) (fun _ => Current) (fun _ => Current) c := by
  have hfailed : ∀ c₀ : PetTrack0Controller, Wp (containFailedPlay env) (fun _ => Current) (fun _ => Current) c₀ :=
    fun _ => current_of_none rfl
  unfold playStep
  simp only [allocateGeneration, wp_bind, wp_modify, wp_get, wp_pure]
  split
  next => exact hfailed _
  next token _ =>
    simp only [wp_bind, wp_get]
    split
    next => exact hfailed _
    next epoch runner haccepted =>
      have hgeneration : epoch.generation = c.generation + 1 := by
        unfold PetSequenceRunner.acceptPlayback at haccepted
        split at haccepted
        next => cases haccepted
        next =>
          split at haccepted
          next => cases haccepted
          next =>
            split at haccepted
            next => cases haccepted; rfl
            next => cases haccepted
      have hcurrent : ∀ c' : PetTrack0Controller, c'.state.confirmedEpoch = some epoch →
          c'.generation = c.generation + 1 → Current c' := by
        intro c' hconfirmed hc' epoch' hepoch'
        obtain rfl := Option.some.inj (hconfirmed.symm.trans hepoch')
        exact hgeneration.trans hc'.symm
      simp only [wp_bind, wp_modify, wp_pure, armAfterSuccessfulPlay]
      split
      next => exact hcurrent _ rfl rfl
      next =>
        simp only [wp_bind, deadlineForStep]
        split
        next => exact hcurrent _ rfl rfl
        next =>
          simp only [readClock, wp_bind, wp_get, wp_set, wp_pure, wp_getOrRaise, wp_modify]
          exact ⟨fun _ _ => hcurrent _ rfl rfl, fun _ _ => hcurrent _ rfl rfl⟩

theorem playDirective_current (directive : RunnerDirective) :
    Follows KeepsCurrent (playDirective env request directive) := by
  unfold playDirective
  split
  next => exact fun c => (playStep_current _).mono (fun _ _ h _ => h) (fun _ _ h _ => h)
  next => exact .pure _

theorem play_current (request : ActionRequest) : Follows KeepsCurrent (play env request) := by
  refine .get fun c => ?_
  split
  next => exact .pure _
  next =>
    dsimp only
    split
    next => exact .bind (.modify fun _ h => h) fun _ => playDirective_current _
    next => exact .pure _
    next => exact .pure _

theorem replacePlayback_current (replacement : Option ActionRequest) :
    Follows KeepsCurrent (replacePlayback env replacement) := by
  cases replacement with
  | none => exact .pure _
  | some request =>
    unfold replacePlayback
    dsimp only
    split
    next => exact .pure _
    next => exact .bind (.modify fun _ _ => current_of_none rfl) fun _ => play_current request

theorem handleCompletion_current (event : PlaybackEvent) (continuation : Option ActionRequest) :
    Follows KeepsCurrent (handleCompletion env event continuation) := by
  refine .get fun c => ?_
  dsimp only
  refine .bind (.modify fun _ h => h) fun _ => ?_
  split
  next => exact .pure _
  next directive _ =>
    split
    next => exact .pure _
    next =>
      split
      next =>
        refine .bind ?_ fun _ => .pure _
        unfold finishSequence
        refine .bind (.modify fun _ h => h) fun _ => ?_
        split
        next => exact .modify fun _ _ => current_of_none rfl
        next => exact .pure _
      next =>
        refine .get fun c => ?_
        split
        next => exact .pure _
        next => exact playDirective_current _

theorem cancelGracefully_current : Follows KeepsCurrent (cancelGracefully env) := by
  have harm : Follows KeepsCurrent (armCurrentLoopBoundaryWatchdog env) := by
    have hdeadline : ∀ step, Follows KeepsCurrent (deadlineForStep env step) := by
      intro step
      unfold deadlineForStep
      split
      next => exact .throw _
      next => exact .bind (fun _ h => h) fun _ => .getOrRaise _
    unfold armCurrentLoopBoundaryWatchdog
    refine .get fun c => ?_
    split
    next => exact .modify fun _ h => h
    next =>
      split
      next => exact .modify fun _ h => h
      next => exact (hdeadline _).bind fun _ => .modify fun _ h => h
  refine .get fun c => ?_
  dsimp only
  refine .bind (.modify fun _ h => h) fun _ => ?_
  split
  next => exact harm.bind fun _ => .pure _
  next => exact .pure _

theorem adoptActivePlayback_current (request : ActionRequest) :
    Follows KeepsCurrent (adoptActivePlayback env request) := fun c =>
  adoptActivePlayback_spec.mono
    (fun _ c' h hc => by
      obtain ⟨-, rfl⟩ | ⟨-, -, -, rfl⟩ := h
      · exact hc
      · exact hc)
    (fun _ _ h => h.elim)

end

end PetTrack0Controller

namespace PetAnimationEngine

open PetTrack0Controller (Onward NoYounger Completes Current KeepsCurrent)

/-! ## The engine between the callbacks of a tick -/

theorem commanded_current (t0 : Track0Env) : Commanded t0 KeepsCurrent :=
  ⟨PetTrack0Controller.play_current, PetTrack0Controller.replacePlayback_current,
    fun _ _ _ => PetTrack0Controller.current_of_none rfl, fun _ _ _ => PetTrack0Controller.current_of_none rfl,
    PetTrack0Controller.adoptActivePlayback_current⟩

/-- What holds of an engine between any two operations of its window. -/
structure Steady (env : EngineEnv) (t0 : Track0Env) (e : PetAnimationEngine) : Prop where
  sound : Sound env t0 e
  quiet : Quiet e
  current : Current e.track0

section

variable {env : EngineEnv} {t0 : Track0Env} {e : PetAnimationEngine} {event : PlaybackEvent}

theorem operate_steady (htrack : env.track0 = some t0)
    (hsequencing : sequencingEnabled t0.player.capabilities = true) (h : Steady env t0 e) (op : Operation) :
    Steady env t0 (operate env e op) where
  sound := (operate_keeps htrack hsequencing h.sound op).sound
  quiet := operate_quiet htrack hsequencing h.sound h.quiet op
  current :=
    operate_along htrack (commanded_current t0) PetTrack0Controller.handleCompletion_current
      PetTrack0Controller.cancelGracefully_current e op h.current

theorem built_steady (h : Built env e) : Steady env t0 e := by
  refine ⟨built_sound h, ?_, ?_⟩
  · obtain ⟨_, _, _, rfl⟩ := h
    exact fun _ => ⟨rfl, rfl, rfl, rfl, rfl⟩
  · obtain ⟨_, _, _, rfl⟩ := h
    exact PetTrack0Controller.current_of_none rfl

/-- What an operation keeps, its program keeps with its result. -/
theorem steady_of_operation {α : Type} {c : Program PetAnimationEngine α} (op : Operation)
    (hop : op.program env = (fun _ => ()) <$> c) (htrack : env.track0 = some t0)
    (hsequencing : sequencingEnabled t0.player.capabilities = true) (h : Steady env t0 e) :
    Wp c (fun _ => Steady env t0) (fun _ => Steady env t0) e := by
  have hkept : Wp ((fun _ => ()) <$> c) (fun _ => Steady env t0) (fun _ => Steady env t0) e := by
    rw [← hop]
    exact .of_stateAfter (operate_steady htrack hsequencing h op)
  exact (wp_map (f := fun _ => ())).mp hkept

/-- No step of a protected sequence loops. -/
theorem protected_steps (env : EngineEnv) {name : SequenceName} (h : name ∈ performedSequences env)
    (hprotected : (sequenceCatalog name).isProtected = true) :
    ∀ s ∈ (sequenceCatalog name).sequence.steps, s.loop = false := by
  have hall : ∀ name ∈ performedSequences env, (sequenceCatalog name).isProtected = true →
      ∀ s ∈ (sequenceCatalog name).sequence.steps, s.loop = false := by
    unfold performedSequences dragSequence
    cases env.useRelaxMotionFallback <;> decide
  exact hall name h hprotected

/-- Behind a protected playback only the callback that ends it moves the track. -/
theorem handlePlaybackEvent_protected (htrack : env.track0 = some t0) (hs : Sound env t0 e)
    (hprotected : e.activeRequestIsProtected = true) (hc : ¬Completes e.track0 event) (facing : Option PetFacing) :
    Wp (handlePlaybackEvent env event facing) (fun _ e' => e'.track0 = e.track0) (fun _ _ => True) e := by
  have hassert : ∀ (o : ActionOutcome) (e₁ : PetAnimationEngine), e₁.track0 = e.track0 →
      Wp (do assertTransactionCompatible; return o) (fun _ e' => e'.track0 = e.track0) (fun _ _ => True) e₁ := by
    intro o e₁ h
    have hsame : Follows (OnTrack (· = ·)) (do assertTransactionCompatible; return o) :=
      assertTransactionCompatible_along.bind fun _ => .pure o
    exact (hsame e₁).mono (fun _ e' h' => (show e₁.track0 = e'.track0 from h').symm.trans h) (fun _ _ _ => trivial)
  have hstale : ∀ (e₁ : PetAnimationEngine) (continuation : Option ActionRequest), e₁.track0 = e.track0 →
      Wp (onTrack0 (PetTrack0Controller.handleCompletion t0 event continuation))
        (fun _ e' => e'.track0 = e.track0) (fun _ _ => True) e₁ := by
    intro e₁ continuation h
    refine wp_onTrack0.mpr ((PetTrack0Controller.handleCompletion_idles (by rwa [h])).mono
      (fun _ _ h' => h'.trans h) (fun _ _ h => h.elim))
  by_cases hm : e.callbackMatchesSnapshot event = true
  swap
  · unfold handlePlaybackEvent
    rw [htrack]
    refine wp_get_bind.mpr ?_
    simp only [hm, Bool.not_false, if_true]
    exact wp_bind.mpr ((hstale e none rfl).mono hassert (fun _ _ h => h))
  obtain ⟨request, p, hperforms, hmem⟩ : ∃ request p, Performs t0 e.track0 request p
      ∧ request.sequenceName ∈ performedSequences env := by
    obtain hstopped | h := hs.track
    · simp [activeRequestIsProtected, hstopped.active] at hprotected
    · exact h
  have hplaying := hperforms.playing
  have hl : p.step.loop = false := by
    rw [activeRequestIsProtected, hplaying.active, Option.any_some] at hprotected
    refine protected_steps env hmem (hperforms.policy ▸ hprotected) _ ?_
    rw [← hperforms.sequence]
    exact PetTrack0Controller.step_mem p
  have hb : event.loopBoundary = true := by
    by_contra hb
    rw [Bool.not_eq_true] at hb
    exact hc ⟨hm, p, hplaying.progress, hl.trans hb.symm, fun h => by rw [hl] at h; cases h⟩
  have hadvances : Wp (advanceSequence env t0 event facing) (fun _ e' => e'.track0 = e.track0) (fun _ _ => True) e := by
    have hnext : e.nextActionForCallback event ≠ some .returnIdle := by
      simp [nextActionForCallback, hplaying.progress, hl, hb]
    simp only [advanceSequence, commitReturnIdle, wp_bind, wp_get, hnext, ne_eq, not_false_eq_true, if_true,
      wp_pure, followCompletion_quiet hplaying (.inl hb)]
    refine (hstale e none rfl).imp (fun completed e₁ h => ?_)
    exact wp_bind.mp (hassert completed e₁ h)
  unfold handlePlaybackEvent
  rw [htrack]
  refine wp_get_bind.mpr ?_
  simp only [hm, Bool.not_true, Bool.false_eq_true, if_false, hb]
  cases hindex : event.boundaryIndex with
  | none => exact wp_bind.mpr (wp_pure.mpr hadvances)
  | some index =>
    simp only [wp_bind, handleAutonomousBoundary, wp_get]
    cases e.autonomousSchedulerState with
    | none => exact hadvances
    | some state =>
      cases env.hasScheduler with
      | false => exact hadvances
      | true =>
        simp only [Bool.not_true, Bool.false_eq_true, if_false, wp_bind, wp_readClock, wp_getOrRaise,
          wp_newObject, wp_get, wp_onRandom, wp_modify]
        refine ⟨fun boundary _ => ?_, fun _ _ => trivial⟩
        refine (evaluate_spec _ _ _ _ _ _).mono (fun decision draws hdecision => ?_) (fun _ _ _ => trivial)
        cases hintent : decision.intent with
        | none =>
          refine wp_map.mpr ((hstale _ none ?_).imp (fun o e₁ h => ?_))
          · rfl
          · exact hassert o e₁ h
        | some intent =>
          -- the scheduler's proposal is refused behind the protected playback
          have horigin := hdecision.2.2 intent hintent
          have hrefused : ∀ e₁ : PetAnimationEngine, e₁.track0 = e.track0 →
              Wp (submitProductionIntent t0 intent) (fun _ e' => e'.track0 = e.track0) (fun _ _ => True) e₁ := by
            intro e₁ h
            have hp : e₁.activeRequestIsProtected = true := by
              rw [activeRequestIsProtected, h]
              exact hprotected
            simp [submitProductionIntent, queueIntent, hp, horigin, h]
          refine wp_map.mpr (wp_bind.mpr ((hrefused _ ?_).imp (fun o e₁ h => ?_)))
          · rfl
          · -- the scheduler's books are no part of the track
            refine wp_get_bind.mpr (Wp.mono (Q := fun _ => OnTrack (· = ·) e₁)
              (R := fun _ => OnTrack (· = ·) e₁) ?_ (fun o e₂ h' => ?_) (fun _ _ _ => trivial))
            · refine Follows.bind (R := OnTrack (· = ·)) (onRandom_along _) (fun _ => ?_) e₁
              exact .bind (along_frame fun _ => rfl) fun _ => .pure _
            · exact hassert o e₂ ((show e₁.track0 = e₂.track0 from h').symm.trans h)

end

end PetAnimationEngine

/-! ## The window -/

/-- What of the pet window a tick reads and writes. -/
structure PetWindow where
  animation : PetAnimationEngine
  lastTick : Rat
  hasPlaybackEventSource : Bool

namespace PetWindow

open PetAnimationEngine (steady_of_operation advance_along operate_steady Built built_steady)

/-- A callback, and where the pet turns if it completes the special action. -/
abbrev Callback := PlaybackEvent × Option PetFacing

/-- What a tick meets: the window's clock, the workspaces, what is not lost of the callbacks the playback source
reports (none where its update raises), and whether the renderer reports a failure at the end. -/
structure Tick where
  now : Rat
  workspaces : List Rect
  playbackEvents : Option (List Callback)
  rendererFails : Bool

def onAnimation {α : Type} (c : Program PetAnimationEngine α) : Program PetWindow α :=
  onPart (·.animation) (fun w animation => { w with animation }) c

variable (env : EngineEnv)

/-- Hand the engine the callbacks in their order. -/
def deliver : List Callback → Program PetAnimationEngine Unit
  | [] => pure ()
  | (event, facing) :: rest => do
    let _ ← PetAnimationEngine.handlePlaybackEvent env event facing
    deliver rest

/-- Contain a failure of the playback and give its source up. -/
def loseSource : Program PetWindow Unit := do
  let _ ← onAnimation (PetAnimationEngine.containRendererFailure env)
  modify fun w => { w with hasPlaybackEventSource := false }

/-- Ask the playback source for its callbacks and deliver them. -/
def updatePlayback (playbackEvents : Option (List Callback)) : Program PetWindow Unit := do
  if (← get).hasPlaybackEventSource then
    let update : Program PetAnimationEngine Unit :=
      match playbackEvents with
      | none => throw (.runtime "the playback source failed")
      | some events => deliver env events
    let handled : Except PetError Unit ← attempt (onAnimation update)
    match handled with
    | .ok () => pure ()
    | .error _ => loseSource env

/-- The time a tick hands the engine. -/
def elapsed (w : PetWindow) (tick : Tick) : Rat := max 0 (tick.now - w.lastTick)

/-- One tick of the window. -/
def advanceAnimation (tick : Tick) : Program PetWindow Unit := do
  let elapsed := (← get).elapsed tick
  modify fun w => { w with lastTick := tick.now }
  let _ ← onAnimation (PetAnimationEngine.advance env elapsed tick.workspaces)
  updatePlayback env tick.playbackEvents
  if tick.rendererFails then loseSource env

/-- What happens to a window: a tick, or an operation on its engine. -/
inductive Operation where
  | tick (tick : Tick)
  | engine (op : PetAnimationEngine.Operation)

def Operation.program : Operation → Program PetWindow Unit
  | .tick t => advanceAnimation env t
  | .engine op => onAnimation (op.program env)

/-- The state an operation leaves behind. -/
def operate (w : PetWindow) (op : Operation) : PetWindow := stateAfter (op.program env) w

/-! ## The tick in sub-steps -/

/-- The controller's watchdog deadline has been reached. -/
def Overdue (t0 : Track0Env) (c : PetTrack0Controller) : Prop :=
  ∃ deadline, c.watchdogDeadline = some deadline ∧ deadline ≤ t0.clock c.clockReadings

instance (t0 : Track0Env) (c : PetTrack0Controller) : Decidable (Overdue t0 c) :=
  inferInstanceAs (Decidable (∃ deadline ∈ c.watchdogDeadline, deadline ≤ t0.clock c.clockReadings))

instance (c : PetTrack0Controller) (event : PlaybackEvent) : Decidable (PetTrack0Controller.Completes c event) :=
  inferInstanceAs (Decidable (c.runner.eventMatchesCurrentEpoch event = true ∧ ∃ p ∈ c.runner.progress,
    p.step.loop = event.loopBoundary ∧ (p.step.loop = true → c.runner.pendingGracefulExit = true)))

/-- Where an operation goes on. With the callbacks that are left (none where the source's update raises) goes whether
the playback that was overdue when they were asked for still awaits its own. -/
inductive OperationPoint where
  | engine (op : PetAnimationEngine.Operation)
  | advance (tick : Tick)
  | callbacks (tick : Tick) (awaited : Bool) (left : Option (List Callback))
  | ends (tick : Tick) (awaited : Bool)

namespace OperationPoint

open PetTrack0Controller (Completes)

def first : Operation → OperationPoint
  | .tick tick => .advance tick
  | .engine op => .engine op

/-- The number of sub-steps from a point on, less one. -/
def rank : OperationPoint → Nat
  | .engine _ => 0
  | .advance tick => (tick.playbackEvents.getD []).length + 2
  | .callbacks _ _ left => (left.getD []).length + 1
  | .ends _ _ => 0

/-- The sub-step at a point, and the point behind it. -/
def next (t0 : Track0Env) : OperationPoint → Program PetWindow (Option OperationPoint)
  | .engine op => do
    onAnimation (op.program env)
    return none
  | .advance tick => do
    let elapsed := (← get).elapsed tick
    modify fun w => { w with lastTick := tick.now }
    let _ ← onAnimation (PetAnimationEngine.advance env elapsed tick.workspaces)
    let w ← get
    let awaited := decide (Overdue t0 w.animation.track0)
    return some (if w.hasPlaybackEventSource then .callbacks tick awaited tick.playbackEvents else .ends tick awaited)
  | .callbacks tick _ none => do
    loseSource env
    return some (.ends tick false)
  | .callbacks tick awaited (some []) => return some (.ends tick awaited)
  | .callbacks tick awaited (some ((event, facing) :: rest)) => do
    let completes := decide (Completes (← get).animation.track0 event)
    let handled : Except PetError ActionOutcome ←
      attempt (onAnimation (PetAnimationEngine.handlePlaybackEvent env event facing))
    match handled with
    | .ok _ => return some (.callbacks tick (awaited && !completes) (some rest))
    | .error _ => do
      loseSource env
      return some (.ends tick false)
  | .ends tick _ => (fun _ => none) <$> if tick.rendererFails then loseSource env else pure ()

end OperationPoint

/-- The number of sub-steps an operation has at most. -/
def Operation.length (op : Operation) : Nat := (OperationPoint.first op).rank + 1

section

variable {env} {t0 : Track0Env} {tick : Tick} {awaited : Bool}

theorem through_ends (n : Nat) : through (OperationPoint.next env t0) (n + 1) (.ends tick awaited)
      = if tick.rendererFails then loseSource env else pure () := by
  rw [through, OperationPoint.next]
  simp only [map_eq_pure_bind, bind_assoc, pure_bind, bind_pure_unit]

/-- Delivering a list of callbacks and delivering one after the other is the same. -/
theorem through_callbacks (left : Option (List Callback)) (awaited : Bool) :
    through (OperationPoint.next env t0) ((left.getD []).length + 2) (.callbacks tick awaited left) = (do
      let handled : Except PetError Unit ← attempt (onAnimation (match left with
        | none => throw (.runtime "the playback source failed")
        | some events => deliver env events))
      match handled with
      | .ok () => pure ()
      | .error _ => loseSource env
      if tick.rendererFails then loseSource env) := by
  cases left with
  | none =>
    rw [through, OperationPoint.next]
    simp only [bind_assoc, pure_bind, Option.getD_none, List.length_nil, through_ends]
    rfl
  | some events =>
    rw [Option.getD_some]
    induction events generalizing awaited with
    | nil =>
      rw [through, OperationPoint.next]
      simp only [pure_bind, List.length_nil, through_ends]
      rfl
    | cons callback rest ih =>
      obtain ⟨event, facing⟩ := callback
      rw [List.length_cons, through, OperationPoint.next]
      have hdeliver : (onAnimation (deliver env ((event, facing) :: rest)) : Program PetWindow Unit)
          = onAnimation (PetAnimationEngine.handlePlaybackEvent env event facing) >>= fun _ =>
            onAnimation (deliver env rest) := onPart_bind (fun _ _ => rfl) (fun _ _ _ => rfl)
      have hget : ∀ {f : PetWindow → Program PetWindow Unit} {c : Program PetWindow Unit}, (∀ w, f w = c) →
          (get >>= f) = c := fun h => funext fun w => congrFun (h w) w
      simp only [hdeliver, attempt_bind, bind_assoc]
      refine hget fun w => bind_congr fun handled => ?_
      cases handled with
      | ok outcome => simp only [pure_bind, ih]
      | error error => simp only [bind_assoc, pure_bind, through_ends]

/-- An operation is its sub-steps, one after the other. -/
theorem operate_substeps (w : PetWindow) (op : Operation) :
    operate env w op = stateAfter (through (OperationPoint.next env t0) op.length (OperationPoint.first op)) w := by
  unfold operate
  congr 1
  cases op with
  | engine op =>
    simp only [Operation.program, Operation.length, OperationPoint.first, through, OperationPoint.next, bind_assoc,
      pure_bind, bind_pure_unit]
  | tick tick =>
    unfold Operation.length
    rw [OperationPoint.first, OperationPoint.rank, through, OperationPoint.next]
    simp only [Operation.program, advanceAnimation, updatePlayback, bind_assoc, pure_bind]
    refine bind_congr fun w₀ => bind_congr fun _ => bind_congr fun _ => bind_congr fun w => ?_
    cases w.hasPlaybackEventSource with
    | false => simp only [Bool.false_eq_true, if_false, pure_bind, through_ends]
    | true =>
      simp only [if_true, through_callbacks, bind_assoc]
      refine bind_congr fun handled => ?_
      cases handled with
      | ok _ => rfl
      | error _ => rfl

end

/-! ## What a tick owes a lost callback -/

section

variable {env} {t0 : Track0Env} {w w' : PetWindow} {e e' : PetAnimationEngine} {tick : Tick} {awaited : Bool}

open PetAnimationEngine (Steady Free KeepsFree OnTrack HeardByScheduler EndsIdle)
open PetTrack0Controller (Onward NoYounger Completes Current)

/-- The mode that waits for a playback: the engine is suspended until the protected playback ends. -/
def WaitsFor (e : PetAnimationEngine) (epoch : ConfirmedPlaybackEpoch) : Prop :=
  e.executionMode = .suspended ∧ e.activeRequestIsProtected = true ∧ e.track0.state.confirmedEpoch = some epoch

/-- The playback of `e` is over in `e'`: it is not the confirmed one, and the generation has moved on. If the engine
is in the mode that waits, it waits for a playback begun since. -/
structure Over (e e' : PetAnimationEngine) : Prop where
  gone : ∀ epoch, e.track0.state.confirmedEpoch = some epoch → e'.track0.state.confirmedEpoch ≠ some epoch
  generation : e.track0.generation < e'.track0.generation
  mode : ∀ epoch, WaitsFor e' epoch → e.track0.generation < epoch.generation

/-- The tick has advanced the engine to `e` and turns to the callbacks. -/
def TurnsToCallbacks (env : EngineEnv) (w : PetWindow) (tick : Tick) (e : PetAnimationEngine) : Prop :=
  ∃ snapshot, (PetAnimationEngine.advance env (w.elapsed tick) tick.workspaces).run w.animation = .ok snapshot e

/-- A playback whose deadline the tick finds reached, before it advances the engine or after, is over at its end,
and no action waits any longer behind a protected one. -/
structure ContainsLoss (env : EngineEnv) (t0 : Track0Env) (w : PetWindow) (tick : Tick) (w' : PetWindow) : Prop where
  before : Overdue t0 w.animation.track0 → Over w.animation w'.animation
  advanced : ∀ e, TurnsToCallbacks env w tick e → Overdue t0 e.track0 →
    Over e w'.animation ∧ (e.activeRequestIsProtected = true → Free w'.animation)

/-- Every tick contains what it finds overdue. -/
def Contains (env : EngineEnv) (t0 : Track0Env) (w : PetWindow) : Operation → Prop
  | .tick tick => ContainsLoss env t0 w tick (operate env w (.tick tick))
  | .engine _ => True

/-- The sub-step loses the callback of a playback whose deadline is reached: the engine's advance raises; or the
callback comes, and the scheduler takes it for its own or nothing can follow the protected playback it ends; or the
tick ends without it. A failure of the renderer stands in for a callback. -/
def LosesCallback (env : EngineEnv) (t0 : Track0Env) (w : PetWindow) : OperationPoint → Prop
  | .advance tick => Overdue t0 w.animation.track0
      ∧ returns (PetAnimationEngine.advance env (w.elapsed tick) tick.workspaces) w.animation = false
  | .callbacks tick true (some ((event, facing) :: _)) =>
      tick.rendererFails = false ∧ Completes w.animation.track0 event
      ∧ (HeardByScheduler env w.animation event ∨ EndsIdle t0 w.animation event)
      ∧ returns (PetAnimationEngine.handlePlaybackEvent env event facing) w.animation = true
  | .ends tick awaited => tick.rendererFails = false ∧ awaited = true
  | _ => False

/-! ## One tick -/

/-- A later generation confirms another playback. -/
theorem over_of_lt (h : Steady env t0 e) (h' : Steady env t0 e')
    (hlt : e.track0.generation < e'.track0.generation) : Over e e' := by
  refine ⟨fun epoch hepoch hepoch' => ?_, hlt, fun epoch hwaits => ?_⟩
  · have hsame := (h.current epoch hepoch).symm.trans (h'.current epoch hepoch')
    omega
  · rw [h'.current epoch hwaits.2.2]
    exact hlt

/-- The playback of `e` has ended by `e'`, and nothing waits behind it. -/
def Moved (e e' : PetAnimationEngine) : Prop :=
  e.track0.generation < e'.track0.generation ∧ (e.activeRequestIsProtected = true → Free e')

/-- Where the tick stands after the engine's advance to `e`: an overdue playback awaits its callback, or is over, or
the renderer's failure is to end it. -/
structure Stands (env : EngineEnv) (t0 : Track0Env) (tick : Tick) (e : PetAnimationEngine) (awaited : Bool)
    (e' : PetAnimationEngine) : Prop where
  steady : Steady env t0 e'
  generation : e.track0.generation ≤ e'.track0.generation
  protects : awaited = true → e.activeRequestIsProtected = true → e'.activeRequestIsProtected = true
  due : Overdue t0 e.track0 → tick.rendererFails = true ∨ awaited = true ∨ Moved e e'

/-- What holds at each point of a tick that began in `w`. -/
def At (env : EngineEnv) (t0 : Track0Env) (w : PetWindow) (tick : Tick) : OperationPoint → PetWindow → Prop
  | .engine _, _ => False
  | .advance tick', w' => tick' = tick ∧ w' = w
  | .callbacks tick' awaited _, w' | .ends tick' awaited, w' =>
    tick' = tick ∧ ∃ e, TurnsToCallbacks env w tick e ∧ Stands env t0 tick e awaited w'.animation

/-- What holds at its end. -/
def End (env : EngineEnv) (t0 : Track0Env) (w : PetWindow) (tick : Tick) (w' : PetWindow) : Prop :=
  Steady env t0 w'.animation ∧ ContainsLoss env t0 w tick w'

section

variable (htrack : env.track0 = some t0) (hsequencing : sequencingEnabled t0.player.capabilities = true)

include htrack hsequencing

/-- A contained failure begins a generation and empties the queue. -/
theorem containRendererFailure_moves (h : Steady env t0 e) : Wp (PetAnimationEngine.containRendererFailure env)
      (fun _ e' => Steady env t0 e' ∧ e.track0.generation < e'.track0.generation ∧ Free e')
      (fun _ _ => False) e := by
  have hmoves : Wp (PetAnimationEngine.containRendererFailure env)
      (fun _ e' => e.track0.generation < e'.track0.generation ∧ Free e') (fun _ _ => False) e :=
    PetAnimationEngine.containRendererFailure_of htrack h.sound.valid fun _ =>
      ⟨Nat.lt_succ_self e.track0.generation, rfl, rfl⟩
  exact ((steady_of_operation .containRendererFailure rfl htrack hsequencing h).and hmoves).mono
    (fun _ _ h => h) (fun _ _ h => h.2)

/-- Giving the source up ends what is overdue. -/
theorem loseSource_stands (tick : Tick) (h : Steady env t0 w.animation)
    (hle : e.track0.generation ≤ w.animation.track0.generation) :
    Wp (loseSource env) (fun _ w' => Stands env t0 tick e false w'.animation ∧ Moved e w'.animation)
      (fun _ _ => False) w := by
  unfold loseSource onAnimation
  refine wp_bind.mpr (wp_onPart.mpr ((containRendererFailure_moves htrack hsequencing h).imp (fun _ e' h' => ?_)))
  have hmoved : Moved e e' := ⟨Nat.lt_of_le_of_lt hle h'.2.1, fun _ => h'.2.2⟩
  exact ⟨⟨h'.1, Nat.le_of_lt hmoved.1, nofun, fun _ => .inr (.inr hmoved)⟩, hmoved⟩

/-- The callbacks are asked for; a tick that raises before has nothing overdue. -/
theorem advance_stands (h : Steady env t0 w.animation) (hkept : ¬LosesCallback env t0 w (.advance tick)) :
    Wp (OperationPoint.next env t0 (.advance tick))
      (Proceeds (At env t0 w tick) (End env t0 w tick) OperationPoint.rank (.advance tick))
      (fun _ => End env t0 w tick) w := by
  have hadvance : Wp (PetAnimationEngine.advance env (w.elapsed tick) tick.workspaces)
      (fun _ => Steady env t0) (fun _ => Steady env t0) w.animation :=
    steady_of_operation (.advance (w.elapsed tick) tick.workspaces) rfl htrack hsequencing h
  unfold OperationPoint.next onAnimation
  refine wp_get_bind.mpr (wp_modify_bind.mpr (wp_bind.mpr (wp_onPart.mpr ?_)))
  refine (hadvance.and (wp_run _ _)).mono (fun snapshot e h' => ?_) (fun error e h' => ?_)
  · obtain ⟨hsteady, hrun⟩ := h'
    have hstands : Stands env t0 tick e (decide (Overdue t0 e.track0)) e :=
      ⟨hsteady, Nat.le_refl _, fun _ => id, fun hoverdue => .inr (.inl (decide_eq_true hoverdue))⟩
    refine wp_get_bind.mpr (wp_pure.mpr ?_)
    dsimp only
    split
    next => exact ⟨⟨rfl, e, ⟨snapshot, hrun⟩, hstands⟩, Nat.lt_succ_self _⟩
    next => exact ⟨⟨rfl, e, ⟨snapshot, hrun⟩, hstands⟩, Nat.succ_pos _⟩
  · obtain ⟨hsteady, hrun⟩ := h'
    have hraises : returns (PetAnimationEngine.advance env (w.elapsed tick) tick.workspaces) w.animation = false := by
      unfold returns
      rw [hrun]
    refine ⟨hsteady, fun hoverdue => absurd ⟨hoverdue, hraises⟩ hkept, fun e₁ hturns => ?_⟩
    obtain ⟨snapshot, hok⟩ := hturns
    rw [hrun] at hok
    cases hok

/-- A callback is handed to the engine. -/
theorem callback_stands {event : PlaybackEvent} {facing : Option PetFacing} {rest : List Callback}
    (hstands : Stands env t0 tick e awaited w.animation)
    (hkept : ¬LosesCallback env t0 w (.callbacks tick awaited (some ((event, facing) :: rest)))) :
    Wp (PetAnimationEngine.handlePlaybackEvent env event facing)
      (fun _ => Stands env t0 tick e (awaited && !decide (Completes w.animation.track0 event)))
      (fun _ e' => Steady env t0 e' ∧ e.track0.generation ≤ e'.track0.generation) w.animation := by
  have hsteady := steady_of_operation (.handlePlaybackEvent event facing) rfl htrack hsequencing
    hstands.steady
  have hyounger := PetAnimationEngine.handlePlaybackEvent_along htrack
    (PetAnimationEngine.commanded_noYounger t0) (PetTrack0Controller.handleCompletion_noYounger event) facing w.animation
  have hfree := @PetAnimationEngine.handlePlaybackEvent_free env event facing w.animation
  refine (((hsteady.and hyounger).and hfree).and (wp_run _ _)).mono (fun o e' h => ?_) fun _ _ h =>
    ⟨h.1.1.1, hstands.generation.trans h.1.1.2.generation⟩
  obtain ⟨⟨⟨hsteady', hyounger'⟩, hfree'⟩, hrun⟩ := h
  have hle := hstands.generation.trans hyounger'.generation
  cases awaited with
  | false =>
    refine ⟨hsteady', hle, nofun, fun hoverdue => (hstands.due hoverdue).imp_right (.imp_right fun hmoved => ?_)⟩
    exact ⟨Nat.lt_of_lt_of_le hmoved.1 hyounger'.generation, fun hp => hfree' (hmoved.2 hp)⟩
  | true =>
    by_cases hcompletes : Completes w.animation.track0 event
    · refine ⟨hsteady', hle, by simp [hcompletes], fun _ => ?_⟩
      cases hfails : tick.rendererFails with
      | true => exact .inl rfl
      | false =>
        have hreturns : returns (PetAnimationEngine.handlePlaybackEvent env event facing) w.animation = true := by
          unfold returns
          rw [hrun]
        have hserved := fun hlost => hkept ⟨hfails, hcompletes, hlost, hreturns⟩
        have hmoves := (PetAnimationEngine.handlePlaybackEvent_moves htrack hstands.steady.sound hstands.steady.quiet
          hcompletes (fun hheard => hserved (.inl hheard)) (fun hidle => hserved (.inr hidle)) facing).of_run hrun
        exact .inr (.inr ⟨Nat.lt_of_le_of_lt hstands.generation hmoves.1, fun hp => hmoves.2 (hstands.protects rfl hp)⟩)
    · refine ⟨hsteady', hle, fun _ hp => ?_, fun _ => .inr (.inl (by simp [hcompletes]))⟩
      have hprotected := hstands.protects rfl hp
      have hsame := (PetAnimationEngine.handlePlaybackEvent_protected htrack hstands.steady.sound hprotected
        hcompletes facing).of_run hrun
      rw [PetAnimationEngine.activeRequestIsProtected, hsame]
      exact hprotected

/-- At the end of the tick what was overdue after the engine's advance is over, and with it what was before. -/
theorem contains_of_over (h : Steady env t0 w.animation) (hturns : TurnsToCallbacks env w tick e)
    (hsteady' : Steady env t0 w'.animation) (hle : e.track0.generation ≤ w'.animation.track0.generation)
    (hends : Overdue t0 e.track0 → Moved e w'.animation) : ContainsLoss env t0 w tick w' := by
  obtain ⟨snapshot, hrun⟩ := hturns
  have hsteady : Steady env t0 e := (steady_of_operation
    (.advance (w.elapsed tick) tick.workspaces) rfl htrack hsequencing h).of_run hrun
  obtain ⟨hclock, honward⟩ := (advance_along htrack (PetAnimationEngine.commanded_onward t0)
    (w.elapsed tick) tick.workspaces w.animation).of_run hrun
  refine ⟨fun hoverdue => over_of_lt h hsteady' ?_, fun e₁ hturns' hoverdue => ?_⟩
  · obtain hlt | ⟨hgeneration, -, hdeadline, -⟩ := honward
    · exact Nat.lt_of_lt_of_le hlt hle
    · obtain ⟨deadline, hd, hdue⟩ := hoverdue
      have hmoved := (hends ⟨deadline, hdeadline.trans hd, hdue.trans (t0.clock_monotone hclock)⟩).1
      omega
  · obtain ⟨snapshot', hrun'⟩ := hturns'
    obtain rfl : e = e₁ := by
      rw [hrun] at hrun'
      cases hrun'
      rfl
    exact ⟨over_of_lt hsteady hsteady' (hends hoverdue).1, (hends hoverdue).2⟩

/-- The sub-steps of a tick lead from point to point, and from the last to its end. -/
theorem next_stands (h : Steady env t0 w.animation) (p : OperationPoint) (w' : PetWindow) (hat : At env t0 w tick p w')
    (hkept : ¬LosesCallback env t0 w' p) : Wp (OperationPoint.next env t0 p)
      (Proceeds (At env t0 w tick) (End env t0 w tick) OperationPoint.rank p) (fun _ => End env t0 w tick) w' := by
  cases p with
  | engine op => exact hat.elim
  | advance tick' =>
    obtain ⟨rfl, rfl⟩ := hat
    exact advance_stands htrack hsequencing h hkept
  | callbacks tick' awaited left =>
    obtain ⟨rfl, e, hturns, hstands⟩ := hat
    have hlose : ∀ w'' : PetWindow, Steady env t0 w''.animation → e.track0.generation ≤ w''.animation.track0.generation →
        Wp (loseSource env) (fun _ => At env t0 w tick' (.ends tick' false)) (fun _ _ => False) w'' :=
      fun w'' hsteady hle => (loseSource_stands htrack hsequencing tick' hsteady hle).imp
        (fun _ _ h' => ⟨rfl, e, hturns, h'.1⟩)
    unfold OperationPoint.next
    match left with
    | none =>
      refine wp_bind.mpr ((hlose w' hstands.steady hstands.generation).mono (fun _ _ h' => ?_) fun _ _ => False.elim)
      exact ⟨h', Nat.succ_pos _⟩
    | some [] => exact ⟨⟨rfl, e, hturns, hstands⟩, Nat.succ_pos _⟩
    | some ((event, facing) :: rest) =>
      refine wp_get_bind.mpr (wp_bind.mpr (wp_attempt.mpr (wp_onPart.mpr ?_)))
      refine (callback_stands htrack hsequencing hstands hkept).mono (fun _ _ h' => ?_) fun _ e' h' => ?_
      · exact ⟨⟨rfl, e, hturns, h'⟩, Nat.lt_succ_self _⟩
      · refine wp_bind.mpr ((hlose _ ?_ ?_).mono (fun _ _ hends => ⟨hends, Nat.succ_pos _⟩) fun _ _ => False.elim)
        · exact h'.1
        · exact h'.2
  | ends tick' awaited =>
    obtain ⟨rfl, e, hturns, hstands⟩ := hat
    refine wp_map.mpr (wp_ite.mpr ⟨fun hfails => ?_, fun hfails => ?_⟩)
    · refine (loseSource_stands htrack hsequencing tick' hstands.steady hstands.generation).mono (fun _ w'' h' => ?_)
        fun _ _ => False.elim
      exact ⟨h'.1.steady, contains_of_over htrack hsequencing h hturns h'.1.steady h'.1.generation fun _ => h'.2⟩
    · refine ⟨hstands.steady, contains_of_over htrack hsequencing h hturns hstands.steady hstands.generation
        fun hoverdue => ?_⟩
      obtain hfails' | hawaited | hmoved := hstands.due hoverdue
      · exact absurd hfails' hfails
      · exact absurd ⟨Bool.eq_false_of_not_eq_true hfails, hawaited⟩ hkept
      · exact hmoved

/-- One operation contains what is overdue, and leaves the engine steady. -/
theorem operate_contains (h : Steady env t0 w.animation) (op : Operation)
    (hkept : StepsMeet (substep OperationPoint.first (OperationPoint.next env t0))
      (AtPoint fun p w => ¬LosesCallback env t0 w p) ⟨w, some (.first op)⟩ (List.replicate op.length .goesOn)) :
    Steady env t0 (operate env w op).animation ∧ Contains env t0 w op := by
  cases op with
  | tick tick =>
    have hends : End env t0 w tick (operate env w (.tick tick)) := by
      rw [operate_substeps]
      exact Wp.stateAfter (P := End env t0 w tick)
        (wp_through (next_stands htrack hsequencing h) _ _ w (Nat.lt_succ_self _) ⟨rfl, rfl⟩ hkept)
    exact hends
  | engine op =>
    refine ⟨Wp.stateAfter (P := fun w' : PetWindow => Steady env t0 w'.animation) ?_, trivial⟩
    refine wp_onPart.mpr ?_
    exact .of_stateAfter (operate_steady htrack hsequencing h op)

end

/-! ## Runs -/

/-- In every run of ticks and engine operations in which no sub-step loses the callback of an overdue playback, every
tick contains what it finds overdue. -/
theorem contains_throughout {w₀ : PetWindow} (htrack : env.track0 = some t0)
    (hsequencing : sequencingEnabled t0.player.capabilities = true)
    (hbuilt : Built env w₀.animation) (ops : List Operation)
    (hops : StepsMeet (substep OperationPoint.first (OperationPoint.next env t0))
      (AtPoint fun p w => ¬LosesCallback env t0 w p) ⟨w₀, none⟩ (substeps Operation.length ops)) :
    StepsMeet (operate env) (Contains env t0) w₀ ops :=
  StepsMeet.of_substeps (I := fun w => Steady env t0 w.animation) operate_substeps
    (fun _ op h hop => operate_contains htrack hsequencing h op hop) ⟨w₀, none⟩ ops
    (built_steady hbuilt) hops

end

/-! ## A lost completion -/

/-- A renderer of the idle and interacting pet whose clock runs ten seconds from one reading to the next. -/
def tickingTrack0 : Track0Env :=
  { Track0Env.steady (secondsRegistry [.idle, .happy]) with
    clock := fun n => 10 * n
    clock_monotone := fun _ _ h => mul_le_mul_of_nonneg_left (Nat.cast_le.mpr h) (by norm_num) }

def tickingEnv : EngineEnv := { PetAnimationEngine.steadyEnv [] with track0 := some tickingTrack0 }

/-- A new window on its engine, with a playback source. -/
def tickingWindow : PetWindow where
  animation :=
    PetAnimationEngine.build tickingEnv
      { position := { x := 0, y := 0 }
        windowSize := { width := 100, height := 100, width_pos := ofNat_pos trivial, height_pos := ofNat_pos trivial } }
  lastTick := 0
  hasPlaybackEventSource := true

theorem tickingWindow_built : Built tickingEnv tickingWindow.animation := ⟨_, _, _, rfl⟩

def desktop : Rect :=
  { x := 0, y := 0, width := 1000, height := 1000, width_pos := ofNat_pos trivial, height_pos := ofNat_pos trivial }

/-- A tick that gets these callbacks. -/
def tickWith (callbacks : List Callback) : Tick :=
  { now := 0, workspaces := [desktop], playbackEvents := some callbacks, rendererFails := false }

/-- The pet interacts, and the next tick gets these callbacks. -/
def interacting (callbacks : List Callback) : List Operation :=
  [.engine (.requestAction .interact .user), .tick (tickWith callbacks)]

/-- The interaction's completion is lost, and the tick after its deadline leaves it playing. -/
theorem lost_completion_plays_on :
    ¬∀ (env : EngineEnv) (t0 : Track0Env) (w₀ : PetWindow) (ops : List Operation), env.track0 = some t0 →
      sequencingEnabled t0.player.capabilities = true → Built env w₀.animation →
      StepsMeet (operate env) (Contains env t0) w₀ ops := by
  intro h
  obtain ⟨-, hcontains, -⟩ := h tickingEnv tickingTrack0 tickingWindow (interacting []) rfl rfl tickingWindow_built
  have hover := hcontains.before ⟨5 / 4, by decide +kernel, by decide +kernel⟩
  exact absurd hover.generation (by decide +kernel)

/-- The renderer has shown the interaction. -/
def interacted : PlaybackEvent :=
  { generation := 1, logicalAction := .happy, physicalName := PetActionName.happy.value
    playbackToken := .given 1 }

/-- The same tick with its completion: the interaction is over, and the pet relaxes. -/
theorem completion_delivered :
    StepsMeet (substep OperationPoint.first (OperationPoint.next tickingEnv tickingTrack0))
        (AtPoint fun p w => ¬LosesCallback tickingEnv tickingTrack0 w p) ⟨tickingWindow, none⟩
        (substeps Operation.length (interacting [(interacted, none)]))
      ∧ Overdue tickingTrack0 (run (operate tickingEnv) tickingWindow
          [.engine (.requestAction .interact .user)]).animation.track0
      ∧ StepsMeet (operate tickingEnv) (Contains tickingEnv tickingTrack0) tickingWindow
        (interacting [(interacted, none)]) := by
  -- no boundary, and behind the protected playback the pet relaxes
  have hserved : StepsMeet (substep OperationPoint.first (OperationPoint.next tickingEnv tickingTrack0))
      (AtPoint fun p w => (match p with
        | .engine _ => true
        | .advance tick => returns (PetAnimationEngine.advance tickingEnv (w.elapsed tick) tick.workspaces) w.animation
        | .callbacks _ _ left => (left.getD []).all fun callback => !callback.1.loopBoundary
            && w.animation.activeProductionAction.any (·.isProtected)
            && decide (w.animation.follower = .productionRelax)
        | .ends _ awaited => !awaited) = true)
      ⟨tickingWindow, none⟩ (substeps Operation.length (interacting [(interacted, none)])) := by
    decide +kernel
  suffices hkept : StepsMeet (substep OperationPoint.first (OperationPoint.next tickingEnv tickingTrack0))
      (AtPoint fun p w => ¬LosesCallback tickingEnv tickingTrack0 w p) ⟨tickingWindow, none⟩
      (substeps Operation.length (interacting [(interacted, none)])) from
    ⟨hkept, ⟨5 / 4, by decide +kernel, by decide +kernel⟩, contains_throughout rfl rfl tickingWindow_built _ hkept⟩
  refine hserved.mono fun m a => AtPoint.mono fun p w hp hloses => ?_
  match p with
  | .engine _ => exact hloses
  | .advance tick => exact absurd (hp.symm.trans hloses.2) (by decide)
  | .callbacks _ true (some ((event, facing) :: rest)) =>
    obtain ⟨-, -, hlost, -⟩ := hloses
    simp only [Option.getD_some, List.all_cons, Bool.and_eq_true, Bool.not_eq_true', decide_eq_true_eq] at hp
    obtain ⟨⟨⟨hboundary, hknown⟩, hfollower⟩, -⟩ := hp
    obtain hheard | hidle := hlost
    · exact absurd (hboundary.symm.trans hheard.1) (by decide)
    · refine hidle.2.2 ⟨hknown, ?_⟩
      rw [hfollower]
      exact ⟨rfl, rfl, rfl⟩
  | .callbacks _ false none | .callbacks _ false (some []) | .callbacks _ false (some (_ :: _)) | .callbacks _ true none
  | .callbacks _ true (some []) => exact hloses
  | .ends _ true => cases hp
  | .ends _ false => cases hloses.2

end PetWindow

end ArkClaw.Pet
