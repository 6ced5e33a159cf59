import ArkClaw.Pet.Motion

/-!
# What the motion model does to the layered state

Of each operation of the motion model, the engine needs what it does to the layers: nothing, a committed
proposal, a release, a landing, the end of a landing, or a turn. Positions and velocities matter only where
they decide between these.
-/

namespace ArkClaw.Pet

open ArkClaw.Library
open PetLayeredStateMachine (snapshot_of_valid commit_propose releaseDrag_error releaseDrag_at land_at
  finishLanding_error finishLanding_at land_error)

namespace PetMotionModel

section

variable {m : PetMotionModel}

/-- A valid machine shows its state. -/
theorem wp_state (h : m.states.Valid) (Q : PetLayeredState → PetMotionModel → Prop)
    (R : PetError → PetMotionModel → Prop) : Wp state Q R m ↔ Q (m.states.state h) m := by
  simp [state, snapshot_of_valid _ h]

/-- What a valid motion model shows. -/
def shown (m : PetMotionModel) (h : m.states.Valid) : PetMotionSnapshot :=
  { state := m.states.state h, position := m.position, verticalVelocity := m.verticalVelocity
    horizontalVelocity := m.horizontalVelocity }

theorem wp_snapshot (h : m.states.Valid) (Q : PetMotionSnapshot → PetMotionModel → Prop)
    (R : PetError → PetMotionModel → Prop) : Wp snapshot Q R m ↔ Q (m.shown h) m := by
  simp [snapshot, wp_state h, shown]

theorem wp_onStates (transition : PetLayeredStateMachine → Except PetError PetLayeredStateMachine)
    (Q : Unit → PetMotionModel → Prop) (R : PetError → PetMotionModel → Prop) : Wp (onStates transition) Q R m ↔
      (∀ states, transition m.states = .ok states → Q () { m with states })
        ∧ ∀ error, transition m.states = .error error → R error m := by
  simp only [onStates, wp_bind, wp_get, wp_getOrRaise, wp_set]

/-- The motion model after a committed proposal. -/
def committed (m : PetMotionModel) (target : PetLayeredState) : PetMotionModel :=
  let stops := target.lifecycle ≠ .active ∨ target.motion ∈ [PetMotionState.dragging, .falling]
  { m with
    states := { m.states.install target with epoch := m.states.epoch + 1 }
    horizontalVelocity := walkingVelocity m.config target.motion
    verticalVelocity := if stops then 0 else m.verticalVelocity
    landingElapsed := if stops then 0 else m.landingElapsed }

/-- A proposal of this very machine is committed. -/
theorem wp_commitStateTransition {change : StateChange} {proposal : ProposedStateTransition}
    (h : m.states.propose change = .ok proposal) (Q : Unit → PetMotionModel → Prop)
    (R : PetError → PetMotionModel → Prop) :
    Wp (commitStateTransition proposal) Q R m ↔ Q () (m.committed proposal.targetState) := by
  simp only [commitStateTransition, wp_bind, wp_onStates, commit_propose _ h,
    Except.ok.injEq, forall_eq', reduceCtorEq, false_implies, implies_true, and_true, wp_modify, wp_ite,
    wp_pure, committed]
  by_cases hstops : proposal.targetState.lifecycle ≠ .active
      ∨ proposal.targetState.motion ∈ [PetMotionState.dragging, .falling]
  · simp only [hstops, true_implies, not_true_eq_false, false_implies, and_true, if_true]
  · simp only [hstops, not_false_eq_true, true_implies, false_implies, true_and, if_false]

/-! ## Operations that keep the layers -/

/-- The layers are as they were, and no turn is pending that was not. -/
def KeepsLayers (m m' : PetMotionModel) : Prop :=
  m'.states = m.states ∧ m'.pendingDirectionTurn = m.pendingDirectionTurn

theorem KeepsLayers.refl (m : PetMotionModel) : KeepsLayers m m := ⟨rfl, rfl⟩

/-- An operation that raises leaves the layers alone, and it is not an animation it complains of. -/
def Raises (m : PetMotionModel) (error : PetError) (m' : PetMotionModel) : Prop :=
  KeepsLayers m m' ∧ error ≠ .animationCompatibility

/-- A transition that is not allowed raises. -/
theorem Raises.of_transition {m m' : PetMotionModel} {error : PetError} (h : KeepsLayers m m')
    (herror : error = .stateTransition) : Raises m error m' := ⟨h, by rw [herror]; decide⟩

/-- Reading the snapshot last keeps what was kept. -/
theorem snapshot_keeps {m' : PetMotionModel} {R : PetError → PetMotionModel → Prop} (h : m.states.Valid)
    (hstates : m'.states = m.states) (hturn : m'.pendingDirectionTurn = m.pendingDirectionTurn) :
    Wp snapshot (fun _ => KeepsLayers m) R m' := by
  refine (wp_snapshot (hstates ▸ h) _ _).mpr ⟨hstates, hturn⟩

theorem constrain_keeps (h : m.states.Valid) (workspaces : List Rect) :
    Wp (constrain workspaces) (fun _ => KeepsLayers m) (Raises m) m := by
  simp only [constrain, wp_bind, wp_get, wp_getOrRaise, wp_state h, wp_set]
  refine ⟨fun workspace _ => ?_, fun _ herror => ⟨.refl m, selectWorkspace_error herror⟩⟩
  exact snapshot_keeps h rfl rfl

theorem dragTo_keeps (h : m.states.Valid) (position : Point) (workspaces : List Rect) :
    Wp (dragTo position workspaces) (fun _ => KeepsLayers m) (Raises m) m := by
  simp only [dragTo, wp_bind, wp_state h, wp_ite, wp_throw, wp_get, wp_getOrRaise, wp_set]
  refine ⟨fun _ => .of_transition (.refl m) rfl, fun _ => ⟨fun workspace _ => ⟨fun point _ => ?_,
    fun _ herror => ⟨.refl m, clampDragPosition_error herror⟩⟩, fun _ herror => ⟨.refl m, selectWorkspace_error herror⟩⟩⟩
  exact snapshot_keeps h rfl rfl

theorem placeForRenderLayout_keeps (h : m.states.Valid) (position : Point) (workspace : Rect) :
    Wp (placeForRenderLayout position workspace) (fun _ => KeepsLayers m) (Raises m) m := by
  simp only [placeForRenderLayout, wp_bind, wp_state h, wp_ite, wp_throw, wp_get, wp_set]
  refine ⟨fun _ => .of_transition (.refl m) rfl, fun _ => ⟨fun _ => ⟨.refl m, by decide⟩,
    fun _ => ⟨fun _ => ⟨.refl m, by decide⟩, fun _ => ?_⟩⟩⟩
  exact snapshot_keeps h rfl rfl

theorem restorePosition_keeps (h : m.states.Valid) (position : Point) (workspaces : List Rect) :
    Wp (restorePosition position workspaces) (fun _ => KeepsLayers m) (Raises m) m := by
  simp only [restorePosition, wp_bind, wp_get, wp_getOrRaise, wp_set]
  refine ⟨fun workspace _ => ?_, fun _ herror => ⟨.refl m, selectWorkspace_error herror⟩⟩
  exact snapshot_keeps h rfl rfl

/-! ## Operations that move the layers -/

/-- A release lets an active pet fall, or land at once where its workspace is known; a paused pet rests. A
release that raises leaves the layers alone. -/
theorem releaseDrag_layers (h : m.states.Valid) (workspaces : Option (List Rect)) : Wp (releaseDrag workspaces)
      (fun _ m' => m'.pendingDirectionTurn = m.pendingDirectionTurn ∧ m.states.motion = .dragging ∧
        (m.states.lifecycle = .paused ∧ m'.states.At .paused .idle .none
          ∨ m.states.lifecycle = .active
            ∧ (m'.states.At .active .falling .none ∨ m'.states.At .active .landing .none)))
      (Raises m) m := by
  have settle : ∀ (m₁ : PetMotionModel) (workspace : Option Rect), KeepsLayers m m₁ →
      Wp (settleRelease workspace)
        (fun _ m' => m'.pendingDirectionTurn = m.pendingDirectionTurn ∧ m.states.motion = .dragging ∧
          (m.states.lifecycle = .paused ∧ m'.states.At .paused .idle .none
            ∨ m.states.lifecycle = .active
              ∧ (m'.states.At .active .falling .none ∨ m'.states.At .active .landing .none)))
        (Raises m) m₁ := by
    rintro m₁ workspace ⟨hstates, hturn⟩
    simp only [settleRelease, wp_bind, wp_onStates, wp_modify]
    refine ⟨fun states hreleased => ?_,
      fun _ herror => .of_transition ⟨hstates, hturn⟩ (releaseDrag_error herror)⟩
    rw [hstates] at hreleased
    obtain ⟨hdrag, hcases⟩ := releaseDrag_at hreleased
    have hv : states.Valid := by
      obtain ⟨_, hat⟩ | ⟨_, hat⟩ := hcases <;> exact hat.valid
    have hrest : m.states.lifecycle = .paused ∧ states.At .paused .idle .none
        ∨ m.states.lifecycle = .active
          ∧ (states.At .active .falling .none ∨ states.At .active .landing .none) :=
      hcases.imp_right fun hfalls => ⟨hfalls.1, .inl hfalls.2⟩
    cases workspace with
    | none => exact (wp_snapshot hv _ _).mpr ⟨hturn, hdrag, hrest⟩
    | some workspace =>
      refine wp_bind.mpr ((wp_state hv _ _).mpr ?_)
      refine wp_get_bind.mpr ?_
      split
      next hlands =>
        obtain ⟨_, hat⟩ | ⟨hactive, hat⟩ := hcases
        · exact absurd (hat.lifecycle.symm.trans hlands.1) (by decide)
        · simp only [wp_bind, wp_onStates]
          have hlanded : states.land = .ok { states.clearActivity with
              motion := .landing, epoch := states.epoch + 1 } := by
            simp [PetLayeredStateMachine.land, hat.lifecycle, hat.motion]
          refine ⟨fun landed hland => ?_, fun _ herror => by rw [hlanded] at herror; cases herror⟩
          have hat' := land_at hland
          exact (wp_snapshot hat'.valid _ _).mpr ⟨hturn, hdrag, .inr ⟨hactive, .inr hat'⟩⟩
      next => exact (wp_snapshot hv _ _).mpr ⟨hturn, hdrag, hrest⟩
  unfold releaseDrag
  cases workspaces with
  | none => exact settle m none (.refl m)
  | some workspaces =>
    simp only [wp_bind, wp_get, wp_getOrRaise, wp_state h, wp_set]
    exact ⟨fun workspace _ => settle _ (some workspace) ⟨rfl, rfl⟩,
      fun _ herror => ⟨.refl m, selectWorkspace_error herror⟩⟩

/-- The walking step leaves the workspace. -/
def LeavesWorkspace (m : PetMotionModel) (elapsed : Rat) (workspaces : List Rect) : Prop :=
  ∃ workspace, selectWorkspace m.position m.windowSize workspaces = .ok workspace ∧
    (clampWindowPosition (m.walkingCandidate elapsed) m.windowSize workspace).x
      ≠ (m.walkingCandidate elapsed).x

/-- The falling step reaches the ground. -/
def ReachesGround (m : PetMotionModel) (elapsed : Rat) (workspaces : List Rect) : Prop :=
  ∃ workspace, selectWorkspace m.position m.windowSize workspaces = .ok workspace ∧
    m.groundY workspace ≤ (m.fallingCandidate elapsed).y

/-- A walk is under way. -/
def Walks (m : PetMotionModel) : Prop :=
  m.states.lifecycle = .active
    ∧ (m.states.motion = .walkingLeft ∨ m.states.motion = .walkingRight)

/-- What one physical step does to the layers: a fall may land, a landing may end, a walk may ask for a
turn; nothing else moves them. -/
inductive Updated (m : PetMotionModel) (elapsed : Rat) (workspaces : List Rect) (m' : PetMotionModel) : Prop
  | kept (h : KeepsLayers m m')
  | turning (hwalks : Walks m) (hleaves : LeavesWorkspace m elapsed workspaces)
      (hstates : m'.states = m.states)
      (hturn : m'.pendingDirectionTurn =
        some (if m.states.motion = .walkingLeft then .right else .left))
  | landed (hactive : m.states.lifecycle = .active) (hfalls : m.states.motion = .falling)
      (hreaches : ReachesGround m elapsed workspaces) (hat : m'.states.At .active .landing .none)
      (hturn : m'.pendingDirectionTurn = m.pendingDirectionTurn)
  | rested (hactive : m.states.lifecycle = .active) (hlands : m.states.motion = .landing)
      (hat : m'.states.At .active .idle .none) (hturn : m'.pendingDirectionTurn = m.pendingDirectionTurn)

theorem updateWalking_layers (h : m.states.Valid) (hwalks : Walks m) (elapsed : Rat) (workspaces : List Rect) :
    Wp (updateWalking elapsed workspaces) (fun _ => Updated m elapsed workspaces) (Raises m) m := by
  simp only [updateWalking, wp_bind, wp_get, wp_getOrRaise, wp_state h, wp_set, wp_ite, wp_modify]
  refine ⟨fun workspace hselect => ⟨fun hleaves => ?_, fun _ => ?_⟩,
    fun _ herror => ⟨.refl m, selectWorkspace_error herror⟩⟩
  · refine (wp_snapshot ?_ _ _).mpr (.turning hwalks ⟨workspace, hselect, hleaves⟩ rfl ?_)
    · exact h
    · by_cases hleft : m.states.motion = .walkingLeft <;> simp [PetLayeredStateMachine.state, hleft]
  · refine (wp_snapshot ?_ _ _).mpr (.kept ⟨rfl, rfl⟩)
    exact h

theorem updateLanding_layers (h : m.states.Valid) (hactive : m.states.lifecycle = .active)
    (hlands : m.states.motion = .landing) (elapsed : Rat) (workspaces : List Rect) :
    Wp (updateLanding elapsed) (fun _ => Updated m elapsed workspaces) (Raises m) m := by
  simp only [updateLanding, wp_bind, wp_modify, wp_get, wp_ite, wp_onStates]
  refine ⟨fun _ => ⟨fun states hfinished => ?_,
    fun _ herror => .of_transition ⟨rfl, rfl⟩ (finishLanding_error herror)⟩, fun _ => ?_⟩
  · have hat := finishLanding_at hfinished
    exact (wp_snapshot hat.valid _ _).mpr (.rested hactive hlands hat rfl)
  · refine (wp_snapshot ?_ _ _).mpr (.kept ⟨rfl, rfl⟩)
    exact h

theorem updateFalling_layers (h : m.states.Valid) (hactive : m.states.lifecycle = .active)
    (elapsed : Rat) (workspaces : List Rect) :
    Wp (updateFalling elapsed workspaces) (fun _ => Updated m elapsed workspaces) (Raises m) m := by
  simp only [updateFalling, wp_bind, wp_get, wp_getOrRaise, wp_set, wp_ite, wp_modify, wp_onStates]
  refine ⟨fun workspace hselect => ⟨fun hreaches => ⟨fun states hland => ?_,
    fun _ herror => .of_transition ⟨rfl, rfl⟩ (land_error herror)⟩, fun _ => ?_⟩,
    fun _ herror => ⟨.refl m, selectWorkspace_error herror⟩⟩
  · have hat := land_at hland
    have hfalls : m.states.motion = .falling := by
      by_contra hne
      simp [PetLayeredStateMachine.land, hne] at hland
    exact (wp_snapshot hat.valid _ _).mpr (.landed hactive hfalls ⟨workspace, hselect, hreaches⟩ hat rfl)
  · refine (wp_snapshot ?_ _ _).mpr (.kept ⟨rfl, rfl⟩)
    exact h

/-- One physical step. -/
theorem update_layers (h : m.states.Valid) (elapsed : Rat) (workspaces : List Rect) :
    Wp (update elapsed workspaces) (fun _ => Updated m elapsed workspaces) (Raises m) m := by
  have hkept : ∀ {α : Type} {c : Program PetMotionModel α},
      Wp c (fun _ => KeepsLayers m) (Raises m) m →
      Wp c (fun _ => Updated m elapsed workspaces) (Raises m) m :=
    fun hc => hc.imp (fun _ _ => .kept)
  have hmoves : Wp (moveByState elapsed workspaces) (fun _ => Updated m elapsed workspaces) (Raises m) m := by
    refine wp_bind.mpr ((wp_state h _ _).mpr ?_)
    split
    next => exact hkept (constrain_keeps h workspaces)
    next hactive =>
      have hactive : m.states.lifecycle = .active := by simpa [PetLayeredStateMachine.state] using hactive
      split
      next => exact hkept (constrain_keeps h workspaces)
      next => exact hkept (snapshot_keeps h rfl rfl)
      next hmotion => exact updateWalking_layers h ⟨hactive, .inl hmotion⟩ elapsed workspaces
      next hmotion => exact updateWalking_layers h ⟨hactive, .inr hmotion⟩ elapsed workspaces
      next hmotion => exact updateLanding_layers h hactive hmotion elapsed workspaces
      all_goals exact updateFalling_layers h hactive elapsed workspaces
  unfold update
  split
  next => exact ⟨.refl m, by decide⟩
  next => exact hmoves

end

end PetMotionModel

end ArkClaw.Pet
