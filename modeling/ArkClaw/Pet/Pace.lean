import ArkClaw.Pet.Ground
import ArkClaw.Pet.StateRuns

/-!
# The pace of the pet

The velocities the motion model keeps beside the layers, and when they agree: an active walk moves at the walking
speed, nothing else moves sideways, only a fall moves downwards, and no turn is left pending. A committed proposal
starts the new motion at its own horizontal velocity, whatever it was before; the vertical velocity of a fall it
leaves where the target is active and neither falls nor is dragged.
-/

namespace ArkClaw.Pet

open ArkClaw.Library
open PetLayeredStateMachine (commit_ok snapshot_motion land_at releaseDrag_at finishLanding_at snapshot_lifecycle)

/-- The motions no transition goes to. -/
def runMotions : List PetMotionState := [.runningLeft, .runningRight]

/-- A pet that walks reminds of nothing. -/
theorem unreminded_of_valid {lifecycle : PetLifecycleState} {motion : PetMotionState} {behaviors : Behaviors}
    {activity : PetActivityState} (h : validateLayeredState lifecycle motion behaviors activity = true)
    (hwalk : motion ∈ walkMotions) : behaviors.reminding = false := by
  have hne : motion ≠ .idle := by
    rintro rfl
    revert hwalk
    decide
  by_contra hreminds
  have hactivity := (legacy_flags h).2.mp (Bool.not_eq_false _ ▸ hreminds)
  subst hactivity
  unfold validateLayeredState at h
  split at h
  next => simp at h
  next => simp [hne] at h

namespace PetMotionModel

/-- The velocities are those of the state. -/
structure Paced (m : PetMotionModel) : Prop where
  walks : m.states.lifecycle = .active → m.states.motion ∈ walkMotions →
    m.horizontalVelocity = walkingVelocity m.config m.states.motion
  stands : m.states.motion ∉ walkMotions → m.horizontalVelocity = 0
  falls : m.verticalVelocity ≠ 0 → m.states.motion = .falling
  turn : m.pendingDirectionTurn = none

/-- The velocities are those of the state, only an active pet gathers speed in a fall, a pet never runs, and one that
walks reminds of nothing. -/
structure Steady (m : PetMotionModel) : Prop extends Paced m where
  alive : m.verticalVelocity ≠ 0 → m.states.lifecycle = .active
  gait : m.states.motion ∉ runMotions
  calm : m.states.motion ∈ walkMotions → m.states.behaviors.reminding = false

/-- A steady model stays steady, and one that moves down does not begin to; where the transition `ends` a fall, it
is asked of a model that has no vertical velocity. -/
def KeepsPace (ends : Prop) (m m' : PetMotionModel) : Prop :=
  (ends → m.verticalVelocity = 0) → Steady m →
    Steady m' ∧ (m.verticalVelocity = 0 → m'.verticalVelocity = 0)

section

variable {ends : Prop} {m m' m'' : PetMotionModel}

theorem KeepsPace.refl (m : PetMotionModel) : KeepsPace ends m m := fun _ hsteady => ⟨hsteady, id⟩

theorem KeepsPace.trans (h : KeepsPace ends m m') (h' : KeepsPace ends m' m'') : KeepsPace ends m m'' := by
  intro hends hsteady
  obtain ⟨hsteady', hvertical⟩ := h hends hsteady
  obtain ⟨hsteady'', hvertical'⟩ := h' (fun hx => hvertical (hends hx)) hsteady'
  exact ⟨hsteady'', fun hzero => hvertical' (hvertical hzero)⟩

instance : Std.Refl (KeepsPace ends) := ⟨KeepsPace.refl⟩

instance : Trans (KeepsPace ends) (KeepsPace ends) (KeepsPace ends) := ⟨KeepsPace.trans⟩

theorem KeepsPace.mono {ends' : Prop} (h : KeepsPace ends m m') (hends : ends → ends') : KeepsPace ends' m m' :=
  fun hzero => h fun hx => hzero (hends hx)

/-- A model with no vertical velocity that is not falling. -/
theorem Steady.vertical (h : Steady m) (hmotion : m.states.motion ≠ .falling) : m.verticalVelocity = 0 := by
  by_contra hne
  exact hmotion (h.falls hne)

/-- Without any velocity a model is steady, unless it is walking. -/
theorem Steady.of_still (hvertical : m.verticalVelocity = 0) (hhorizontal : m.horizontalVelocity = 0)
    (hturn : m.pendingDirectionTurn = none) (hwalks : m.states.lifecycle = .active → m.states.motion ∉ walkMotions)
    (hgait : m.states.motion ∉ runMotions)
    (hcalm : m.states.motion ∈ walkMotions → m.states.behaviors.reminding = false) : Steady m where
  walks hactive hmotion := absurd hmotion (hwalks hactive)
  stands _ := hhorizontal
  falls hne := absurd hvertical hne
  turn := hturn
  alive hne := absurd hvertical hne
  gait := hgait
  calm := hcalm

/-- Lifecycle, motion, and reminding flag are all the layers have to do with the pace. -/
theorem Steady.of_layers (h : Steady m) (hlifecycle : m'.states.lifecycle = m.states.lifecycle)
    (hmotion : m'.states.motion = m.states.motion)
    (hcalm : m.states.behaviors.reminding = false → m'.states.behaviors.reminding = false)
    (hconfig : m'.config = m.config) (hhorizontal : m'.horizontalVelocity = m.horizontalVelocity)
    (hvertical : m'.verticalVelocity = m.verticalVelocity)
    (hturn : m'.pendingDirectionTurn = m.pendingDirectionTurn) : Steady m' where
  walks hactive hwalk := by
    rw [hhorizontal, hconfig, hmotion]
    exact h.walks (hlifecycle ▸ hactive) (hmotion ▸ hwalk)
  stands hstands := hhorizontal.trans (h.stands (hmotion ▸ hstands))
  falls hne := hmotion.trans (h.falls (hvertical ▸ hne))
  turn := hturn.trans h.turn
  alive hne := hlifecycle.trans (h.alive (hvertical ▸ hne))
  gait := hmotion ▸ h.gait
  calm hwalk := hcalm (h.calm (hmotion ▸ hwalk))

/-- Only the window and the landing time change. -/
theorem KeepsPace.of_velocities (hstates : m'.states = m.states) (hconfig : m'.config = m.config)
    (hhorizontal : m'.horizontalVelocity = m.horizontalVelocity)
    (hvertical : m'.verticalVelocity = m.verticalVelocity)
    (hturn : m'.pendingDirectionTurn = m.pendingDirectionTurn) : KeepsPace ends m m' := fun _ hsteady => by
  refine ⟨hsteady.of_layers ?_ ?_ ?_ hconfig hhorizontal hvertical hturn, fun hzero => hvertical.trans hzero⟩
  · rw [hstates]
  · rw [hstates]
  · rw [hstates]
    exact id

theorem state_keepsPace : Follows (KeepsPace ends) state := .get fun _ => .getOrRaise _

theorem snapshot_keepsPace : Follows (KeepsPace ends) snapshot :=
  state_keepsPace.bind fun _ => .get fun _ => .pure _

/-- A transition that leaves lifecycle and motion alone, and reminds of nothing new. -/
theorem onStates_keepsPace {transition : PetLayeredStateMachine → Except PetError PetLayeredStateMachine}
    (h : ∀ m m' : PetLayeredStateMachine, transition m = .ok m' → m'.lifecycle = m.lifecycle ∧ m'.motion = m.motion
      ∧ (m.behaviors.reminding = false → m'.behaviors.reminding = false)) :
    Follows (KeepsPace ends) (onStates transition) := by
  refine fun m => (wp_onStates transition _ _).mpr ⟨fun states hstates => ?_, fun _ _ => .refl m⟩
  obtain ⟨hlifecycle, hmotion, hcalm⟩ := h _ _ hstates
  exact fun _ hsteady => ⟨hsteady.of_layers hlifecycle hmotion hcalm rfl rfl rfl rfl, id⟩

/-! ## Proposals -/

/-- A proposal that is current is committed; any other raises and changes nothing. -/
theorem commitStateTransition_spec (proposal : ProposedStateTransition) : Wp (commitStateTransition proposal)
      (fun _ m' => m.states.snapshot = .ok proposal.sourceState ∧ m' = m.committed proposal.targetState)
      (fun _ m' => m' = m) m := by
  unfold commitStateTransition
  simp only [wp_bind, wp_onStates, wp_modify]
  refine ⟨fun states hcommit => ?_, fun _ _ => trivial⟩
  obtain ⟨-, hsource, rfl⟩ := commit_ok hcommit
  split
  next hstops => exact ⟨hsource, by simp only [committed, if_pos hstops]⟩
  next hruns => exact ⟨hsource, by simp only [committed, if_neg hruns]⟩

/-- Whatever the horizontal velocity was, a committed motion has its own. A vertical velocity ends with the
lifecycle, with a drag, and with a new fall. -/
theorem committed_steady {target : PetLayeredState} (hturn : m.pendingDirectionTurn = none)
    (hgait : target.motion ∉ runMotions) (hfalls : m.verticalVelocity = 0 ∨ target.lifecycle ≠ .active
      ∨ target.motion ∈ [PetMotionState.dragging, .falling]) :
    Steady (m.committed target) ∧ (m.verticalVelocity = 0 → (m.committed target).verticalVelocity = 0) := by
  have hzero : (m.committed target).verticalVelocity = 0 := by
    unfold committed
    rcases hfalls with hvertical | hstops
    · simp [hvertical]
    · simp only [hstops, if_true]
  refine ⟨⟨⟨fun _ _ => rfl, fun hstands => ?_, fun hne => absurd hzero hne, hturn⟩,
    fun hne => absurd hzero hne, hgait, fun hwalk => ?_⟩, fun _ => hzero⟩
  · have hstands : target.motion ∉ walkMotions := hstands
    show walkingVelocity m.config target.motion = 0
    revert hstands
    cases target.motion <;> simp [walkMotions, walkingVelocity]
  · exact unreminded_of_valid target.valid hwalk

/-- A proposal leaves a fall at its speed only where it goes to an active motion that is neither the one it came
from nor a fall or a drag. -/
theorem commitStateTransition_keepsPace {proposal : ProposedStateTransition}
    (h : proposal.targetState.motion = proposal.sourceState.motion
      ∨ proposal.targetState.motion ∉ runMotions ∧ (ends ∨ proposal.targetState.lifecycle ≠ .active
        ∨ proposal.targetState.motion ∈ [PetMotionState.dragging, .falling])) :
    Follows (KeepsPace ends) (commitStateTransition proposal) := by
  refine fun m => (commitStateTransition_spec proposal).mono (fun _ m' => ?_) (fun _ m' hsame => ?_)
  swap
  · rw [hsame]
    exact .refl m
  rintro ⟨hsource, rfl⟩ hends hsteady
  rcases h with hsame | ⟨hgait, hcases⟩
  · have hsame : proposal.targetState.motion = m.states.motion :=
      hsame.trans (snapshot_motion hsource)
    refine committed_steady hsteady.turn (hsame ▸ hsteady.gait) ?_
    by_cases hvertical : m.verticalVelocity = 0
    · exact .inl hvertical
    · exact .inr (.inr (by rw [hsame, hsteady.falls hvertical]; decide))
  · exact committed_steady hsteady.turn hgait (hcases.imp_left hends)

/-! ## Transitions of the model's own -/

/-- The layers a model is steady in without velocities. -/
structure Standing (states : PetLayeredStateMachine) : Prop where
  walks : states.lifecycle = .active → states.motion ∉ walkMotions
  gait : states.motion ∉ runMotions
  calm : states.motion ∈ walkMotions → states.behaviors.reminding = false

theorem Standing.steady (h : Standing m.states) (hvertical : m.verticalVelocity = 0)
    (hhorizontal : m.horizontalVelocity = 0) (hturn : m.pendingDirectionTurn = none) : Steady m :=
  .of_still hvertical hhorizontal hturn h.walks h.gait h.calm

/-- A motion that does not walk or run stands still. -/
theorem Standing.of_motion {states : PetLayeredStateMachine} (motion : PetMotionState) (h : states.motion = motion)
    (hmotion : motion ∈ [PetMotionState.idle, .dragging, .falling, .landing]) : Standing states := by
  have hwalks : states.motion ∉ walkMotions := by
    rw [h]
    revert hmotion
    cases motion <;> decide
  refine ⟨fun _ => hwalks, ?_, fun hwalk => absurd hwalk hwalks⟩
  rw [h]
  revert hmotion
  cases motion <;> decide

/-- A transition to layers that stand still, after which the model has no velocity. -/
theorem halt_keepsPace {transition : PetLayeredStateMachine → Except PetError PetLayeredStateMachine}
    {f : PetMotionModel → PetMotionModel}
    (h : ∀ states states' : PetLayeredStateMachine, states.motion ∉ runMotions → transition states = .ok states' →
      Standing states') (hstates : ∀ m, (f m).states = m.states) (hvertical : ∀ m, (f m).verticalVelocity = 0)
    (hhorizontal : ∀ m, (f m).horizontalVelocity = 0)
    (hturn : ∀ m, (f m).pendingDirectionTurn = m.pendingDirectionTurn) :
    Follows (KeepsPace ends) (do onStates transition; modify f) := by
  intro m
  simp only [wp_bind, wp_onStates, wp_modify]
  refine ⟨fun states htransition _ hsteady => ⟨?_, fun _ => hvertical _⟩, fun _ _ => .refl m⟩
  refine Standing.steady ?_ (hvertical _) (hhorizontal _) ((hturn _).trans hsteady.turn)
  rw [hstates]
  exact h _ _ hsteady.gait htransition

theorem startDragging_keepsPace : Follows (KeepsPace ends) startDragging := by
  have hdrags : Follows (KeepsPace ends) (do
      onStates (·.startDragging)
      modify fun m => { m with verticalVelocity := 0, horizontalVelocity := 0, landingElapsed := 0 }) := by
    refine halt_keepsPace (fun states states' _ h => ?_) (fun _ => rfl) (fun _ => rfl) (fun _ => rfl) (fun _ => rfl)
    unfold PetLayeredStateMachine.startDragging at h
    split at h
    next => cases h
    next =>
      cases h
      exact .of_motion .dragging rfl (by decide)
  unfold startDragging
  refine .bind state_keepsPace fun state => ?_
  split
  next => exact .bind (.throw _) fun _ => hdrags
  next => exact hdrags

/-- A walk that is paused does not move, though the layers go on walking. -/
theorem pause_keepsPace : Follows (KeepsPace ends) pause := by
  refine halt_keepsPace (fun states states' hgait h => ?_) (fun _ => rfl) (fun _ => rfl) (fun _ => rfl) (fun _ => rfl)
  unfold PetLayeredStateMachine.pause at h
  split at h
  next => cases h
  next =>
    cases h
    refine ⟨nofun, ?_, fun _ => rfl⟩
    show (if states.motion = .dragging then PetMotionState.idle else states.motion) ∉ runMotions
    split
    next => decide
    next => exact hgait

theorem beginClosing_keepsPace : Follows (KeepsPace ends) beginClosing := by
  refine .modify fun m _ hsteady => ⟨?_, fun _ => rfl⟩
  show Steady { m with states := m.states.beginClosing, verticalVelocity := 0, horizontalVelocity := 0 }
  unfold PetLayeredStateMachine.beginClosing
  split
  next hclosing =>
    refine .of_still rfl rfl hsteady.turn (fun hactive => ?_) hsteady.gait hsteady.calm
    have hactive : m.states.lifecycle = .active := hactive
    rw [hclosing] at hactive
    cases hactive
  next =>
    refine Standing.steady ?_ rfl rfl hsteady.turn
    exact .of_motion .idle rfl (by decide)

/-- A walk starts from standing or walking, at its own velocity, whatever the velocity was. -/
theorem startWalking_spec (direction : PetFacing) (hturn : m.pendingDirectionTurn = none)
    (hvertical : m.states.motion ≠ .falling → m.verticalVelocity = 0) : Wp (startWalking direction)
      (fun _ m' => Steady m' ∧ m.verticalVelocity = 0 ∧ m'.verticalVelocity = 0)
      (fun _ m' => m' = m ∧ ∀ states, m.states.startWalking direction ≠ .ok states) m := by
  unfold startWalking
  simp only [wp_bind, wp_onStates, wp_modify]
  refine ⟨fun states h => ?_, fun error herror => ⟨trivial, fun states h => ?_⟩⟩
  · unfold PetLayeredStateMachine.startWalking at h
    split at h
    next => cases h
    next hallowed =>
      cases h
      rw [not_or, not_or, not_not, not_not] at hallowed
      have hzero : m.verticalVelocity = 0 := hvertical (by
        rintro hfalls
        rw [hfalls] at hallowed
        exact absurd hallowed.2.2 (by decide))
      have hmotion : (if direction = .left then PetMotionState.walkingLeft else .walkingRight) ∈ walkMotions
          ∧ (if direction = .left then PetMotionState.walkingLeft else .walkingRight) ∉ runMotions := by
        cases direction <;> decide
      refine ⟨⟨⟨fun _ _ => ?_, fun hstands => absurd hmotion.1 hstands, fun hne => absurd hzero hne, hturn⟩,
        fun hne => absurd hzero hne, hmotion.2, fun _ => rfl⟩, hzero, hzero⟩
      cases direction <;> rfl
  · rw [h] at herror
    cases herror

theorem startWalking_keepsPace (direction : PetFacing) : Follows (KeepsPace ends) (startWalking direction) := by
  intro m
  by_cases hsteady : Steady m
  · refine (startWalking_spec direction hsteady.turn hsteady.vertical).mono (fun _ m' h _ _ => ?_) (fun _ m' h => ?_)
    · exact ⟨h.1, fun _ => h.2.2⟩
    · rw [h.1]
      exact .refl m
  · exact wp_trivial _ (fun _ _ _ hsteady' => absurd hsteady' hsteady) (fun _ _ _ hsteady' => absurd hsteady' hsteady)

theorem stopWalking_keepsPace : Follows (KeepsPace ends) stopWalking := by
  intro m
  unfold stopWalking
  simp only [wp_bind, wp_onStates, wp_modify]
  refine ⟨fun states h _ hsteady => ?_, fun _ _ => .refl m⟩
  unfold PetLayeredStateMachine.stopWalking at h
  split at h
  next => cases h
  next hwalks =>
    cases h
    rw [not_not] at hwalks
    have hvertical : m.verticalVelocity = 0 := hsteady.vertical (by
      intro hfalls
      rw [hfalls] at hwalks
      revert hwalks
      decide)
    refine ⟨Standing.steady ?_ hvertical rfl hsteady.turn, fun _ => hvertical⟩
    exact .of_motion .idle rfl (by decide)

/-- A pet that has reached the ground lands. -/
theorem land_spec (hsteady : Steady m) (hvertical : m.verticalVelocity = 0) :
    Wp (onStates (·.land)) (fun _ m' => Steady m' ∧ m'.verticalVelocity = 0) (fun _ m' => m' = m) m := by
  refine (wp_onStates _ _ _).mpr ⟨fun states h => ?_, fun _ _ => rfl⟩
  have hfalls : m.states.motion = .falling := by
    unfold PetLayeredStateMachine.land at h
    split at h
    next => cases h
    next hactive => exact (not_or.mp hactive).2 |> not_not.mp
  have hat := land_at h
  refine ⟨Standing.steady ?_ hvertical (hsteady.stands (by rw [hfalls]; decide)) hsteady.turn, hvertical⟩
  exact .of_motion .landing hat.motion (by decide)

theorem settleRelease_keepsPace (workspace : Option Rect) : Follows (KeepsPace ends) (settleRelease workspace) := by
  intro m
  unfold settleRelease
  simp only [wp_bind, wp_onStates, wp_modify]
  refine ⟨fun states h => ?_, fun _ _ => .refl m⟩
  obtain ⟨-, hcases⟩ := releaseDrag_at h
  have hrests : Standing states := by
    rcases hcases with ⟨-, hat⟩ | ⟨-, hat⟩
    · exact .of_motion .idle hat.motion (by decide)
    · exact .of_motion .falling hat.motion (by decide)
  have hreleased : KeepsPace ends m
      { m with states, verticalVelocity := 0, horizontalVelocity := 0, landingElapsed := 0 } :=
    fun _ hsteady => ⟨Standing.steady hrests rfl rfl hsteady.turn, fun _ => rfl⟩
  cases workspace with
  | none => exact snapshot_keepsPace.after hreleased
  | some workspace =>
    simp only [wp_bind, wp_shown, wp_get]
    refine ⟨fun s _ => ?_, fun _ _ => hreleased⟩
    split
    next =>
      refine wp_bind.mpr ((wp_onStates _ _ _).mpr ⟨fun landed hland => ?_, fun _ _ => hreleased⟩)
      have hat := land_at hland
      refine snapshot_keepsPace.after fun _ hsteady => ⟨Standing.steady ?_ rfl rfl hsteady.turn, fun _ => rfl⟩
      exact .of_motion .landing hat.motion (by decide)
    next => exact snapshot_keepsPace.after hreleased

/-! ## Transitions that leave the velocities to others -/

/-- The layers of a paused walk go on walking, at the velocity the model has. -/
theorem resume_keepsPace (h : m.states.lifecycle = .paused → m.states.motion ∈ walkMotions →
      m.horizontalVelocity = walkingVelocity m.config m.states.motion) :
    Wp resume (fun _ => KeepsPace ends m) (fun _ => KeepsPace ends m) m := by
  refine (wp_onStates _ _ _).mpr ⟨fun states hresume _ hsteady => ⟨?_, id⟩, fun _ _ => .refl m⟩
  unfold PetLayeredStateMachine.resume at hresume
  split at hresume
  next => cases hresume
  next hpaused =>
    cases hresume
    rw [not_not] at hpaused
    refine ⟨⟨fun _ hwalk => h hpaused hwalk, hsteady.stands, hsteady.falls, hsteady.turn⟩, fun _ => rfl,
      hsteady.gait, fun _ => ?_⟩
    show Behaviors.reminding (if _ then { breathing := true } else {}) = false
    split
    next => rfl
    next => rfl

/-- A pet that failed to close is idle, at the velocity the model has. -/
theorem recoverFailedClose_keepsPace (h : m.states.lifecycle = .closing → m.horizontalVelocity = 0) :
    Wp recoverFailedClose (fun _ => KeepsPace ends m) (fun _ => KeepsPace ends m) m := by
  refine (wp_onStates _ _ _).mpr ⟨fun states hrecover _ hsteady => ?_, fun _ _ => .refl m⟩
  obtain ⟨hclosing, hat⟩ := PetLayeredStateMachine.recoverFailedClose_at hrecover
  have hvertical : m.verticalVelocity = 0 := by
    by_contra hne
    rw [hsteady.alive hne] at hclosing
    cases hclosing
  refine ⟨Standing.steady ?_ hvertical (h hclosing) hsteady.turn, fun _ => hvertical⟩
  exact .of_motion .idle hat.motion (by decide)

/-- A pet that reminds is idle, at the velocity the model has. -/
theorem startReminding_keepsPace (h : m.states.lifecycle = .active → m.states.motion ∉ walkMotions) :
    Wp (onStates (·.startReminding)) (fun _ => KeepsPace ends m) (fun _ => KeepsPace ends m) m := by
  refine (wp_onStates _ _ _).mpr ⟨fun states hreminds _ hsteady => ?_, fun _ _ => .refl m⟩
  unfold PetLayeredStateMachine.startReminding at hreminds
  split at hreminds
  next => cases hreminds
  next hallowed =>
    cases hreminds
    rw [not_or, not_not] at hallowed
    have hvertical : m.verticalVelocity = 0 := hsteady.vertical fun hfalls => hallowed.2 (by rw [hfalls]; decide)
    refine ⟨Standing.steady ?_ hvertical (hsteady.stands (h hallowed.1)) hsteady.turn, fun _ => hvertical⟩
    exact .of_motion .idle rfl (by decide)

/-! ## What a window calls -/

theorem constrain_keepsPace (workspaces : List Rect) : Follows (KeepsPace ends) (constrain workspaces) := by
  unfold constrain
  refine fun m => wp_get_bind.mpr ?_
  simp only [wp_bind, wp_getOrRaise, wp_shown, wp_set]
  refine ⟨fun workspace _ => ⟨fun s _ => ?_, fun _ _ => .refl m⟩, fun _ _ => .refl m⟩
  exact snapshot_keepsPace.after (.of_velocities rfl rfl rfl rfl rfl)

theorem dragTo_keepsPace (position : Point) (workspaces : List Rect) :
    Follows (KeepsPace ends) (dragTo position workspaces) := by
  have hdrags : Follows (KeepsPace ends) (do
      let m ← get
      let workspace ← getOrRaise (selectWorkspace position m.windowSize workspaces)
      let position ← getOrRaise (clampDragPosition position m.windowSize workspace)
      set { m with position }
      snapshot) := by
    refine fun m => wp_get_bind.mpr ?_
    simp only [wp_bind, wp_getOrRaise, wp_set]
    refine ⟨fun workspace _ => ⟨fun position _ => ?_, fun _ _ => .refl m⟩, fun _ _ => .refl m⟩
    exact snapshot_keepsPace.after (.of_velocities rfl rfl rfl rfl rfl)
  unfold dragTo
  refine state_keepsPace.bind fun state => ?_
  split
  next => exact .bind (.throw _) fun _ => hdrags
  next => exact hdrags

theorem placeForRenderLayout_keepsPace (position : Point) (workspace : Rect) :
    Follows (KeepsPace ends) (placeForRenderLayout position workspace) := by
  intro m
  unfold placeForRenderLayout
  refine wp_bind.mpr ((wp_shown _ _).mpr ⟨fun s _ => ?_, fun _ _ => .refl m⟩)
  refine wp_check (.refl m) fun _ => wp_get_bind.mpr ?_
  refine wp_check (.refl m) fun _ => wp_check (.refl m) fun _ => ?_
  refine wp_bind.mpr (wp_set.mpr ?_)
  exact snapshot_keepsPace.after (.of_velocities rfl rfl rfl rfl rfl)

/-- A position is restored with the velocities put to rest, whatever the layers do. -/
theorem restorePosition_keepsPace {position : Point} {workspaces : List Rect}
    (h : m.states.lifecycle = .active → m.states.motion ∈ walkMotions →
      ∀ workspace, selectWorkspace position m.windowSize workspaces ≠ .ok workspace) :
    Wp (restorePosition position workspaces) (fun _ => KeepsPace ends m) (fun _ => KeepsPace ends m) m := by
  unfold restorePosition
  refine wp_get_bind.mpr ?_
  simp only [wp_bind, wp_getOrRaise, wp_set]
  refine ⟨fun workspace hselect => snapshot_keepsPace.after fun _ hsteady => ⟨?_, fun _ => rfl⟩, fun _ _ => .refl m⟩
  exact .of_still rfl rfl hsteady.turn (fun hactive hwalk => h hactive hwalk _ hselect) hsteady.gait hsteady.calm

theorem releaseDrag_keepsPace (workspaces : Option (List Rect)) :
    Follows (KeepsPace ends) (releaseDrag workspaces) := by
  unfold releaseDrag
  cases workspaces with
  | none => exact settleRelease_keepsPace none
  | some workspaces =>
    refine fun m => wp_get_bind.mpr ?_
    simp only [wp_bind, wp_getOrRaise, wp_shown, wp_set]
    refine ⟨fun workspace _ => ⟨fun s _ => ?_, fun _ _ => .refl m⟩, fun _ _ => .refl m⟩
    exact (settleRelease_keepsPace (some workspace)).after (.of_velocities rfl rfl rfl rfl rfl)

/-! ## The physical step -/

/-- A walk at the edge of the workspace: it stands there and asks for a turn. -/
def Turning (m : PetMotionModel) (elapsed : Rat) (workspaces : List Rect) (m' : PetMotionModel) : Prop :=
  Walks m ∧ LeavesWorkspace m elapsed workspaces ∧ ∃ position, m' =
    { m with
      position, horizontalVelocity := 0
      pendingDirectionTurn := some (if m.states.motion = .walkingLeft then .right else .left) }

theorem updateWalking_paced (hsteady : Steady m) (hwalks : Walks m) {s : PetLayeredState}
    (hs : m.states.snapshot = .ok s) (elapsed : Rat) (workspaces : List Rect) :
    Wp (updateWalking elapsed workspaces) (fun _ m' => Steady m' ∨ Turning m elapsed workspaces m')
      (fun _ => Steady) m := by
  unfold updateWalking
  refine wp_get_bind.mpr ?_
  simp only [wp_bind, wp_getOrRaise, wp_shown, wp_set, hs, Except.ok.injEq, forall_eq', reduceCtorEq, false_implies,
    implies_true, and_true]
  refine ⟨fun workspace hselect => ?_, fun _ _ => hsteady⟩
  split
  next hleaves =>
    refine wp_modify_bind.mpr ?_
    refine (wp_snapshot_of (P := fun m' => Steady m' ∨ Turning m elapsed workspaces m') hs rfl (.inr ?_))
    refine ⟨hwalks, ⟨workspace, hselect, hleaves⟩,
      clampWindowPosition (m.walkingCandidate elapsed) m.windowSize workspace, ?_⟩
    rw [snapshot_motion hs]
  next =>
    refine wp_snapshot_of (P := fun m' => Steady m' ∨ Turning m elapsed workspaces m') hs rfl (.inl ?_)
    exact hsteady.of_layers rfl rfl id rfl rfl rfl rfl

theorem updateLanding_paced (hsteady : Steady m) (hlands : m.states.motion = .landing) (elapsed : Rat) :
    Wp (updateLanding elapsed) (fun _ => Steady) (fun _ => Steady) m := by
  have hvertical := hsteady.vertical (by rw [hlands]; decide)
  have hhorizontal := hsteady.stands (by rw [hlands]; decide)
  unfold updateLanding
  simp only [wp_bind, wp_modify, wp_get]
  split
  next =>
    simp only [wp_bind, wp_onStates, wp_modify]
    refine ⟨fun states h => wp_snapshot_same ?_, fun _ _ => ?_⟩
    · have hat := finishLanding_at h
      refine Standing.steady ?_ hvertical hhorizontal hsteady.turn
      exact .of_motion .idle hat.motion (by decide)
    · exact hsteady.of_layers rfl rfl id rfl rfl rfl rfl
  next => exact wp_snapshot_same (hsteady.of_layers rfl rfl id rfl rfl rfl rfl)

theorem updateFalling_paced (hsteady : Steady m) (hactive : m.states.lifecycle = .active)
    (hfalls : m.states.motion = .falling) (elapsed : Rat) (workspaces : List Rect) :
    Wp (updateFalling elapsed workspaces) (fun _ => Steady) (fun _ => Steady) m := by
  have hhorizontal := hsteady.stands (by rw [hfalls]; decide)
  have hfalling : ∀ position verticalVelocity landingElapsed,
      Steady { m with position, verticalVelocity, landingElapsed } := by
    intro position verticalVelocity landingElapsed
    refine ⟨⟨fun _ hwalk => ?_, fun _ => hhorizontal, fun _ => hfalls, hsteady.turn⟩, fun _ => hactive, hsteady.gait,
      hsteady.calm⟩
    have hwalk : m.states.motion ∈ walkMotions := hwalk
    rw [hfalls] at hwalk
    exact absurd hwalk (by decide)
  unfold updateFalling
  refine wp_get_bind.mpr ?_
  simp only [wp_bind, wp_getOrRaise, wp_set]
  refine ⟨fun workspace _ => ?_, fun _ _ => hsteady⟩
  split
  next =>
    simp only [wp_bind, wp_modify]
    refine (land_spec (hfalling _ 0 0) rfl).mono (fun _ m' hlanded => wp_snapshot_same hlanded.1) (fun _ m' hsame => ?_)
    rw [hsame]
    exact hfalling _ 0 0
  next => exact wp_snapshot_same (hfalling _ _ _)

/-- One physical step keeps the model steady, or it brings a walk to the edge. -/
theorem update_paced (hsteady : Steady m) (elapsed : Rat) (workspaces : List Rect) :
    Wp (update elapsed workspaces) (fun _ m' => Steady m' ∨ Turning m elapsed workspaces m') (fun _ => Steady) m := by
  have hconstrains : Wp (constrain workspaces) (fun _ m' => Steady m' ∨ Turning m elapsed workspaces m')
      (fun _ => Steady) m :=
    (constrain_keepsPace workspaces m).mono (fun _ m' h => .inl (h False.elim hsteady).1)
      (fun _ m' h => (h False.elim hsteady).1)
  unfold update
  split
  next => exact hsteady
  next =>
    unfold moveByState
    refine wp_bind.mpr ((wp_shown _ _).mpr ⟨fun s hs => ?_, fun _ _ => hsteady⟩)
    rw [snapshot_motion hs, snapshot_lifecycle hs]
    split
    next => exact hconstrains
    next hactive =>
      rw [not_not] at hactive
      have hsame : ∀ {c : Program PetMotionModel PetMotionSnapshot}, Wp c (fun _ => Steady) (fun _ => Steady) m →
          Wp c (fun _ m' => Steady m' ∨ Turning m elapsed workspaces m') (fun _ => Steady) m := fun h =>
        h.imp (fun _ _ => .inl)
      cases hmotion : m.states.motion with
      | idle => exact hconstrains
      | dragging => exact hsame (wp_snapshot_same hsteady)
      | walkingLeft => exact updateWalking_paced hsteady ⟨hactive, .inl hmotion⟩ hs elapsed workspaces
      | walkingRight => exact updateWalking_paced hsteady ⟨hactive, .inr hmotion⟩ hs elapsed workspaces
      | landing => exact hsame (updateLanding_paced hsteady hmotion elapsed)
      | falling => exact hsame (updateFalling_paced hsteady hactive hmotion elapsed workspaces)
      | runningLeft => exact absurd hsteady.gait (by rw [hmotion]; decide)
      | runningRight => exact absurd hsteady.gait (by rw [hmotion]; decide)

end

end PetMotionModel

end ArkClaw.Pet
