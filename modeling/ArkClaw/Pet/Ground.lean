import ArkClaw.Pet.MotionLaws
import Mathlib.Tactic.Linarith

/-!
# Where the window stands

A pet walks and lands on the ground of its workspace. Above the ground it is dragged, it falls, or it is idle
until the next tick puts it down. An operation that leaves the window where it is `KeepsPlace`; a physical step
in a workspace that can hold the window keeps what is `Placed` and leaves an active pet `Grounded`.
-/

namespace ArkClaw.Pet

open ArkClaw.Library

/-- The motions a pet may have above the ground. -/
def aloftMotions : List PetMotionState := [.idle, .dragging, .falling]

/-- The motions of a walk. -/
def walkMotions : List PetMotionState := [.walkingLeft, .walkingRight]

/-! ## The motion of the layers -/

theorem PetLayeredState.make_motion {lifecycle : PetLifecycleState} {motion : PetMotionState}
    {behaviors : Behaviors} {facing : PetFacing} {activity : PetActivityState} {state : PetLayeredState}
    (h : PetLayeredState.make lifecycle motion behaviors facing activity = .ok state) : state.motion = motion := by
  unfold PetLayeredState.make activityFromLegacyBehaviors at h
  simp only [bind, Except.bind, pure, Except.pure] at h
  grind

namespace PetLayeredStateMachine

variable {m m' : PetLayeredStateMachine}

theorem snapshot_motion {state : PetLayeredState} (h : m.snapshot = .ok state) : state.motion = m.motion :=
  PetLayeredState.make_motion h

theorem snapshot_lifecycle {state : PetLayeredState} (h : m.snapshot = .ok state) :
    state.lifecycle = m.lifecycle := PetLayeredState.make_lifecycle h

theorem targetLayers_motion (source : PetLayeredState) (change : StateChange) :
    (targetLayers source change).2.1 = change.motion.getD source.motion := by
  simp only [targetLayers]
  split
  next => rfl
  next =>
    split
    next => rfl
    next =>
      split
      next => rfl
      next => split <;> rfl

/-- A proposal goes to the motion its change names, and stays in its own where it names none. -/
theorem propose_motion {change : StateChange} {proposal : ProposedStateTransition}
    (h : m.propose change = .ok proposal) :
    proposal.targetState.motion = change.motion.getD proposal.sourceState.motion := by
  unfold propose at h
  simp only [bind, Except.bind, pure, Except.pure] at h
  split at h
  next => cases h
  next source hsource =>
    split at h
    next => cases h
    next target htarget =>
      obtain rfl := Except.ok.inj h
      exact (PetLayeredState.make_motion htarget).trans (targetLayers_motion _ _)

/-- What is committed was proposed of this machine's own state. -/
theorem commit_motion {proposal : ProposedStateTransition} (h : m.commit proposal = .ok m') :
    m'.motion = proposal.targetState.motion ∧ proposal.sourceState.motion = m.motion := by
  unfold commit at h
  simp only [bind, Except.bind, pure, Except.pure] at h
  split at h
  next => cases h
  next =>
    split at h
    next => cases h
    next source hsource =>
      split at h
      next => cases h
      next hcurrent =>
        rw [not_or, not_not] at hcurrent
        obtain rfl := Except.ok.inj h
        exact ⟨rfl, hcurrent.1 ▸ snapshot_motion hsource⟩

/-- The start of a blink touches the blinking flag and the epoch. -/
theorem startBlinking_frame (h : m.startBlinking = .ok m') :
    ∃ blinking epoch, m' = { m with behaviors := { m.behaviors with blinking }, epoch } := by
  unfold startBlinking at h
  split at h
  next => cases h
  next =>
    split at h
    next => cases h; exact ⟨_, _, rfl⟩
    next =>
      split at h
      next => cases h; exact ⟨_, _, rfl⟩
      next =>
        split at h
        next => cases h; exact ⟨_, _, rfl⟩
        next => cases h; exact ⟨_, _, rfl⟩

/-- So does its end. -/
theorem finishBlinking_frame (m : PetLayeredStateMachine) :
    ∃ blinking epoch, m.finishBlinking = { m with behaviors := { m.behaviors with blinking }, epoch } := by
  unfold finishBlinking
  split
  next => exact ⟨_, _, rfl⟩
  next => exact ⟨_, _, rfl⟩

/-- The transition leaves the motion, or goes to one a pet may have above the ground, or walks. -/
def Settles (walks : Prop) (m m' : PetLayeredStateMachine) : Prop :=
  m'.motion = m.motion ∨ m'.motion ∈ aloftMotions ∨ m'.motion ∈ walkMotions ∧ walks

theorem Settles.aloft {walks : Prop} (motion : PetMotionState) (h : m'.motion = motion)
    (hmotion : motion ∈ aloftMotions) : m.Settles walks m' := .inr (.inl (h ▸ hmotion))

theorem Settles.walk {walks : Prop} (motion : PetMotionState) (h : m'.motion = motion)
    (hmotion : motion ∈ walkMotions) (hwalks : walks) : m.Settles walks m' := .inr (.inr ⟨h ▸ hmotion, hwalks⟩)

end PetLayeredStateMachine

namespace PetMotionModel

open PetLayeredStateMachine (commit_motion snapshot_lifecycle snapshot_motion finishLanding_at snapshot_of_valid
  land_at releaseDrag_at)

/-! ## Staying in place -/

/-- The window rests on the ground of the workspace. -/
def OnGround (m : PetMotionModel) (w : Rect) : Prop := m.position.y = w.bottom - m.windowSize.height

instance (m : PetMotionModel) (w : Rect) : Decidable (m.OnGround w) := inferInstanceAs (Decidable (_ = _))

/-- The window stays where it is, and no walk starts unless `walks`. -/
structure KeepsPlace (walks : Prop) (m m' : PetMotionModel) : Prop where
  position : m'.position = m.position
  size : m'.windowSize = m.windowSize
  turn : m'.pendingDirectionTurn = m.pendingDirectionTurn
  motion : m.states.Settles walks m'.states

section

variable {walks : Prop} {m m' m'' : PetMotionModel} {w : Rect}
variable {s : PetLayeredState}

theorem KeepsPlace.refl (m : PetMotionModel) : KeepsPlace walks m m := ⟨rfl, rfl, rfl, .inl rfl⟩

theorem KeepsPlace.trans (h : KeepsPlace walks m m') (h' : KeepsPlace walks m' m'') : KeepsPlace walks m m'' := by
  refine ⟨h'.position.trans h.position, h'.size.trans h.size, h'.turn.trans h.turn, ?_⟩
  rcases h'.motion with hsame | hother
  · unfold PetLayeredStateMachine.Settles
    rw [hsame]
    exact h.motion
  · exact .inr hother

instance : Std.Refl (KeepsPlace walks) := ⟨KeepsPlace.refl⟩

instance : Trans (KeepsPlace walks) (KeepsPlace walks) (KeepsPlace walks) := ⟨KeepsPlace.trans⟩

theorem KeepsPlace.mono {walks' : Prop} (h : KeepsPlace walks m m') (hwalks : walks → walks') :
    KeepsPlace walks' m m' :=
  ⟨h.position, h.size, h.turn, h.motion.imp_right (Or.imp_right (And.imp_right hwalks))⟩

/-- Only the layers, the velocities, and the landing time change. -/
theorem KeepsPlace.of_states (hposition : m'.position = m.position) (hsize : m'.windowSize = m.windowSize)
    (hturn : m'.pendingDirectionTurn = m.pendingDirectionTurn) (hstates : m'.states = m.states) :
    KeepsPlace walks m m' := ⟨hposition, hsize, hturn, .inl (by rw [hstates])⟩

theorem onStates_keepsPlace {transition : PetLayeredStateMachine → Except PetError PetLayeredStateMachine}
    (h : ∀ m m', transition m = .ok m' → m.Settles walks m') : Follows (KeepsPlace walks) (onStates transition) :=
  fun m => (wp_onStates transition _ _).mpr
    ⟨fun _ hstates => ⟨rfl, rfl, rfl, h _ _ hstates⟩, fun _ _ => .refl m⟩

theorem state_keepsPlace : Follows (KeepsPlace walks) state :=
  .get fun _ => .getOrRaise _

theorem commitStateTransition_keepsPlace {proposal : ProposedStateTransition}
    (h : proposal.targetState.motion = proposal.sourceState.motion ∨ proposal.targetState.motion ∈ aloftMotions
      ∨ proposal.targetState.motion ∈ walkMotions ∧ walks) :
    Follows (KeepsPlace walks) (commitStateTransition proposal) := by
  unfold commitStateTransition
  refine .bind (onStates_keepsPlace fun m m' hcommit => ?_) fun _ => ?_
  · obtain ⟨htarget, hsource⟩ := commit_motion hcommit
    unfold PetLayeredStateMachine.Settles
    rw [htarget, ← hsource]
    exact h
  · refine .bind (.modify fun _ => .of_states rfl rfl rfl rfl) fun _ => ?_
    split
    next => exact .modify fun _ => .of_states rfl rfl rfl rfl
    next => exact .pure _

/-! The model's own transitions. -/

theorem startDragging_keepsPlace : Follows (KeepsPlace walks) startDragging := by
  unfold startDragging
  refine .bind state_keepsPlace fun state => ?_
  have hdrag : Follows (KeepsPlace walks) (do
      onStates (·.startDragging)
      modify fun m => { m with verticalVelocity := 0, horizontalVelocity := 0, landingElapsed := 0 }) := by
    refine .bind (onStates_keepsPlace fun m m' h => ?_) fun _ => .modify fun _ => .of_states rfl rfl rfl rfl
    unfold PetLayeredStateMachine.startDragging at h
    split at h
    next => cases h
    next =>
      cases h
      exact .aloft .dragging rfl (by decide)
  split
  next => exact .bind (.throw _) fun _ => hdrag
  next => exact hdrag

theorem pause_keepsPlace : Follows (KeepsPlace walks) pause := by
  unfold pause
  refine .bind (onStates_keepsPlace fun m m' h => ?_) fun _ => .modify fun _ => .of_states rfl rfl rfl rfl
  unfold PetLayeredStateMachine.pause at h
  split at h
  next => cases h
  next =>
    cases h
    by_cases hdrag : m.motion = .dragging
    · exact .inr (.inl (by simp [hdrag, aloftMotions]))
    · exact .inl (by simp [hdrag])

theorem resume_keepsPlace : Follows (KeepsPlace walks) resume := by
  refine onStates_keepsPlace fun m m' h => ?_
  unfold PetLayeredStateMachine.resume at h
  split at h
  next => cases h
  next =>
    cases h
    exact .inl rfl

theorem beginClosing_keepsPlace : Follows (KeepsPlace walks) beginClosing := by
  refine .modify fun m => ⟨rfl, rfl, rfl, ?_⟩
  unfold PetLayeredStateMachine.beginClosing
  split
  next => exact .inl rfl
  next => exact .aloft .idle rfl (by decide)

theorem recoverFailedClose_keepsPlace : Follows (KeepsPlace walks) recoverFailedClose := by
  refine onStates_keepsPlace fun m m' h => ?_
  obtain ⟨-, hat⟩ := PetLayeredStateMachine.recoverFailedClose_at h
  exact .aloft .idle hat.motion (by decide)

theorem stopWalking_keepsPlace : Follows (KeepsPlace walks) stopWalking := by
  unfold stopWalking
  refine .bind (onStates_keepsPlace fun m m' h => ?_) fun _ => .modify fun _ => .of_states rfl rfl rfl rfl
  unfold PetLayeredStateMachine.stopWalking at h
  split at h
  next => cases h
  next =>
    cases h
    exact .aloft .idle rfl (by decide)

/-- A walk is started for any window; whether it stands on the ground is the caller's affair. -/
theorem startWalking_keepsPlace (direction : PetFacing) (hwalks : walks) :
    Follows (KeepsPlace walks) (startWalking direction) := by
  unfold startWalking
  refine .bind (onStates_keepsPlace fun m m' h => ?_) fun _ => .modify fun _ => .of_states rfl rfl rfl rfl
  unfold PetLayeredStateMachine.startWalking at h
  split at h
  next => cases h
  next =>
    cases h
    cases direction with
    | left => exact .walk .walkingLeft rfl (by decide) hwalks
    | right => exact .walk .walkingRight rfl (by decide) hwalks

/-! ## Standing on the ground -/

/-- The workspace can hold the window. -/
def Holds (w : Rect) (size : Size) : Prop := size.width ≤ w.width ∧ size.height ≤ w.height

/-- The workspace can hold the window, and a window above the ground does not walk or land. -/
structure Placed (w : Rect) (m : PetMotionModel) : Prop where
  holds : m.windowSize.height ≤ w.height
  motion : m.states.motion ∈ aloftMotions
    ∨ (m.states.motion ∈ walkMotions ∨ m.states.motion = .landing) ∧ m.OnGround w

/-- An active pet is dragged, falls, or is on the ground. -/
def Grounded (w : Rect) (m : PetMotionModel) : Prop :=
  m.states.lifecycle = .active → m.states.motion = .dragging ∨ m.states.motion = .falling ∨ m.OnGround w

theorem KeepsPlace.onGround (h : KeepsPlace walks m m') (hground : m.OnGround w) : m'.OnGround w := by
  unfold OnGround at hground ⊢
  rw [h.position, h.size, hground]

/-- What keeps its place stays placed, if walks only start on the ground. -/
theorem Placed.kept (h : Placed w m) (hkeeps : KeepsPlace walks m m') (hwalks : walks → m.OnGround w) :
    Placed w m' := by
  refine ⟨by rw [hkeeps.size]; exact h.holds, ?_⟩
  rcases hkeeps.motion with hsame | haloft | ⟨hwalk, hstarts⟩
  · rw [hsame]
    exact h.motion.imp_right (And.imp_right hkeeps.onGround)
  · exact .inl haloft
  · exact .inr ⟨.inl hwalk, hkeeps.onGround (hwalks hstarts)⟩

theorem selectWorkspace_single (position : Point) (size : Size) (w : Rect) :
    selectWorkspace position size [w] = .ok w := by
  simp [selectWorkspace, firstBest]

/-- The lowest place a window has in a workspace that can hold it. -/
theorem groundY_eq (h : m.windowSize.height ≤ w.height) : m.groundY w = w.bottom - m.windowSize.height := by
  unfold groundY Rect.bottom
  exact max_eq_right (by linarith)

theorem clamp_onGround {position : Point} {size : Size} (h : size.height ≤ w.height)
    (hground : position.y = w.bottom - size.height) :
    (clampWindowPosition position size w).y = w.bottom - size.height := by
  have htop : w.y ≤ w.bottom - size.height := by
    unfold Rect.bottom
    linarith
  unfold clampWindowPosition
  simp only [hground, max_eq_left htop, max_eq_right htop, min_self]

/-! ## The physical step -/

/-- The layers show a state, or reading them raises. -/
theorem wp_shown (Q : PetLayeredState → PetMotionModel → Prop) (R : PetError → PetMotionModel → Prop) :
    Wp state Q R m ↔ (∀ s, m.states.snapshot = .ok s → Q s m) ∧ ∀ error, m.states.snapshot = .error error → R error m := by
  simp only [state, wp_bind, wp_get, wp_getOrRaise]

/-- Layers that showed a state show it again. -/
theorem wp_snapshot_of {P : PetMotionModel → Prop} {R : PetError → PetMotionModel → Prop}
    (hs : m.states.snapshot = .ok s) (hstates : m'.states = m.states) (hP : P m') :
    Wp snapshot (fun _ => P) R m' := by
  simp only [snapshot, wp_bind, wp_shown, wp_get, wp_pure]
  refine ⟨fun _ _ => hP, fun _ herror => ?_⟩
  rw [hstates, hs] at herror
  cases herror

/-- Reading the snapshot changes nothing, whether or not it raises. -/
theorem wp_snapshot_same {P : PetMotionModel → Prop} (h : P m) : Wp snapshot (fun _ => P) (fun _ => P) m := by
  simp only [snapshot, wp_bind, wp_shown, wp_get, wp_pure]
  exact ⟨fun _ _ => h, fun _ _ => h⟩

/-- What a physical step in `w` leaves: an active pet on the ground, unless it is dragged or falls, and a turn
only of a walk. -/
structure Stepped (w : Rect) (m m' : PetMotionModel) : Prop where
  placed : Placed w m'
  grounded : Grounded w m'
  turn : m'.pendingDirectionTurn ≠ none → m'.OnGround w ∧ Walks m

/-- What a physical step that raises leaves. -/
def Unturned (w : Rect) (m' : PetMotionModel) : Prop := Placed w m' ∧ m'.pendingDirectionTurn = none

/-- Keeping the window in its workspace puts an idle pet down. -/
theorem constrain_stepped (h : Placed w m) (hturn : m.pendingDirectionTurn = none)
    (hidle : m.states.lifecycle = .active → m.states.motion = .idle) :
    Wp (constrain [w]) (fun _ => Stepped w m) (fun _ => Unturned w) m := by
  simp only [constrain, wp_bind, wp_get, selectWorkspace_single, getOrRaise, wp_pure, wp_shown, wp_set]
  refine ⟨fun s hs => ?_, fun _ _ => ⟨h, hturn⟩⟩
  refine wp_snapshot_of hs rfl ?_
  have hclamped : m.OnGround w →
      (clampWindowPosition m.position m.windowSize w).y = w.bottom - m.windowSize.height := clamp_onGround h.holds
  split
  next hidles =>
    have hon : ({ m with
        position := { x := (clampWindowPosition m.position m.windowSize w).x, y := m.groundY w } } :
          PetMotionModel).OnGround w := groundY_eq h.holds
    exact ⟨⟨h.holds, h.motion.imp_right (And.imp_right fun _ => hon)⟩, fun _ => .inr (.inr hon), absurd hturn⟩
  next hother =>
    refine ⟨⟨h.holds, h.motion.imp_right (And.imp_right hclamped)⟩, fun hactive => ?_, absurd hturn⟩
    exact absurd ⟨(snapshot_lifecycle hs).trans hactive,
      (snapshot_motion hs).trans (hidle hactive)⟩ hother

theorem Walks.mem (h : Walks m) : m.states.motion ∈ walkMotions := by
  rcases h.2 with hleft | hright
  · rw [hleft]
    decide
  · rw [hright]
    decide

/-- A walk stays on the ground it walks on. -/
theorem updateWalking_stepped (h : Placed w m) (hturn : m.pendingDirectionTurn = none) (hon : m.OnGround w)
    (hwalks : Walks m) (elapsed : Rat) :
    Wp (updateWalking elapsed [w]) (fun _ => Stepped w m) (fun _ => Unturned w) m := by
  have hclamped : (clampWindowPosition (m.walkingCandidate elapsed) m.windowSize w).y
      = w.bottom - m.windowSize.height := clamp_onGround h.holds hon
  have hplaced : ∀ m' : PetMotionModel, m'.position = clampWindowPosition (m.walkingCandidate elapsed) m.windowSize w →
      m'.windowSize = m.windowSize → m'.states = m.states → Stepped w m m' := by
    intro m' hposition hsize hstates
    have hon' : m'.OnGround w := by
      unfold OnGround
      rw [hposition, hsize, hclamped]
    exact ⟨⟨by rw [hsize]; exact h.holds, .inr ⟨.inl (by rw [hstates]; exact hwalks.mem), hon'⟩⟩,
      fun _ => .inr (.inr hon'), fun _ => ⟨hon', hwalks⟩⟩
  simp only [updateWalking, wp_bind, wp_get, selectWorkspace_single, getOrRaise, wp_pure, wp_shown, wp_set, wp_ite,
    wp_modify]
  refine ⟨fun s hs => ⟨fun _ => ?_, fun _ => ?_⟩, fun _ _ => ⟨h, hturn⟩⟩
  · exact wp_snapshot_of hs rfl (hplaced _ rfl rfl rfl)
  · exact wp_snapshot_of hs rfl (hplaced _ rfl rfl rfl)

theorem updateLanding_stepped (h : Placed w m) (hturn : m.pendingDirectionTurn = none) (hon : m.OnGround w)
    (hs : m.states.snapshot = .ok s) (hlands : m.states.motion = .landing) (elapsed : Rat) :
    Wp (updateLanding elapsed) (fun _ => Stepped w m) (fun _ => Unturned w) m := by
  -- the landing goes on or ends; the window does not move
  have hstays : ∀ m' : PetMotionModel, m'.position = m.position → m'.windowSize = m.windowSize →
      m'.pendingDirectionTurn = m.pendingDirectionTurn →
      m'.states.motion = .landing ∨ m'.states.motion = .idle → Stepped w m m' := by
    intro m' hposition hsize hpending hmotion
    have hon' : m'.OnGround w := by
      unfold OnGround
      rw [hposition, hsize]
      exact hon
    refine ⟨⟨by rw [hsize]; exact h.holds, ?_⟩, fun _ => .inr (.inr hon'), absurd (hpending.trans hturn)⟩
    rcases hmotion with hmotion | hmotion
    · exact .inr ⟨.inr hmotion, hon'⟩
    · exact .inl (by rw [hmotion]; decide)
  simp only [updateLanding, wp_bind, wp_modify, wp_get, wp_ite, wp_onStates]
  refine ⟨fun _ => ⟨fun states hfinish => ?_, fun _ _ => ?_⟩, fun _ => ?_⟩
  · have hat := finishLanding_at hfinish
    have hshown := snapshot_of_valid states hat.valid
    exact wp_snapshot_of (m := { m with states }) hshown rfl (hstays _ rfl rfl rfl (.inr hat.motion))
  · exact ⟨(hstays { m with landingElapsed := m.landingElapsed + elapsed } rfl rfl rfl (.inl hlands)).placed, hturn⟩
  · exact wp_snapshot_of hs rfl (hstays _ rfl rfl rfl (.inl hlands))

/-- A fall ends on the ground. -/
theorem updateFalling_stepped (h : Placed w m) (hturn : m.pendingDirectionTurn = none)
    (hs : m.states.snapshot = .ok s) (hfalls : m.states.motion = .falling) (elapsed : Rat) :
    Wp (updateFalling elapsed [w]) (fun _ => Stepped w m) (fun _ => Unturned w) m := by
  have haloft : ∀ m' : PetMotionModel, m'.windowSize = m.windowSize → m'.states = m.states → Placed w m' := by
    intro m' hsize hstates
    exact ⟨by rw [hsize]; exact h.holds, .inl (by rw [hstates, hfalls]; decide)⟩
  simp only [updateFalling, wp_bind, wp_get, selectWorkspace_single, getOrRaise, wp_pure, wp_set, wp_ite, wp_modify,
    wp_onStates]
  refine ⟨fun _ => ⟨fun states hland => ?_, fun _ _ => ⟨haloft _ rfl rfl, hturn⟩⟩, fun _ => ?_⟩
  · have hat := land_at hland
    refine wp_snapshot_of (m := { m with states }) (snapshot_of_valid _ hat.valid) rfl ?_
    have hon : ∀ m' : PetMotionModel, m'.position.y = m.groundY w → m'.windowSize = m.windowSize → m'.OnGround w := by
      intro m' hposition hsize
      unfold OnGround
      rw [hposition, hsize]
      exact groundY_eq h.holds
    exact ⟨⟨h.holds, .inr ⟨.inr hat.motion, hon _ rfl rfl⟩⟩, fun _ => .inr (.inr (hon _ rfl rfl)), absurd hturn⟩
  · refine wp_snapshot_of hs rfl ⟨haloft _ rfl rfl, fun _ => .inr (.inl hfalls), absurd hturn⟩

/-- One physical step. -/
theorem update_stepped (h : Placed w m) (hturn : m.pendingDirectionTurn = none) (elapsed : Rat) :
    Wp (update elapsed [w]) (fun _ => Stepped w m) (fun _ => Unturned w) m := by
  unfold update
  split
  next => exact ⟨h, hturn⟩
  next =>
    unfold moveByState
    refine wp_bind.mpr ((wp_shown _ _).mpr ⟨fun s hs => ?_, fun _ _ => ⟨h, hturn⟩⟩)
    have hmotion := snapshot_motion hs
    have hlifecycle := snapshot_lifecycle hs
    split
    next hinactive => exact constrain_stepped h hturn fun hactive => absurd (hlifecycle.trans hactive) hinactive
    next hactive =>
      have hrunning : m.states.lifecycle = .active := hlifecycle.symm.trans (not_not.mp hactive)
      have hstands : s.motion ∉ aloftMotions → m.OnGround w := fun hnot =>
        (h.motion.resolve_left (hmotion ▸ hnot)).2
      split
      next hidle => exact constrain_stepped h hturn fun _ => hmotion.symm.trans hidle
      next hdrag =>
        refine wp_snapshot_of hs rfl ⟨h, fun _ => .inl (hmotion.symm.trans hdrag), absurd hturn⟩
      next hwalk =>
        refine updateWalking_stepped h hturn (hstands (by rw [hwalk]; decide)) ⟨hrunning, .inl ?_⟩ _
        exact hmotion.symm.trans hwalk
      next hwalk =>
        refine updateWalking_stepped h hturn (hstands (by rw [hwalk]; decide)) ⟨hrunning, .inr ?_⟩ _
        exact hmotion.symm.trans hwalk
      next hlands =>
        exact updateLanding_stepped h hturn (hstands (by rw [hlands]; decide)) hs (hmotion.symm.trans hlands) _
      next hfalls => exact updateFalling_stepped h hturn hs (hmotion.symm.trans hfalls) _
      all_goals
        next hruns =>
          have himpossible := h.motion
          rw [← hmotion, hruns] at himpossible
          simp [aloftMotions, walkMotions] at himpossible

/-! ## Dragging and letting go -/

/-- A dragged window goes wherever it is dragged. -/
theorem dragTo_unturned (h : Unturned w m) (position : Point) (workspaces : List Rect) :
    Wp (dragTo position workspaces) (fun _ => Unturned w) (fun _ => Unturned w) m := by
  simp only [dragTo, wp_bind, wp_shown, wp_ite, wp_throw, wp_get, wp_getOrRaise, wp_set]
  refine ⟨fun s hs => ⟨fun _ => h, fun hdrag => ⟨fun workspace _ => ⟨fun target _ => ?_, fun _ _ => h⟩,
    fun _ _ => h⟩⟩, fun _ _ => h⟩
  have hdragging : m.states.motion = .dragging :=
    (snapshot_motion hs).symm.trans (not_not.mp hdrag)
  exact wp_snapshot_same ⟨⟨h.1.holds, .inl (by rw [hdragging]; decide)⟩, h.2⟩

/-- A window released on the ground stays there; one that reaches the floor is put on it. -/
theorem releasedPosition_onGround (h : m.windowSize.height ≤ w.height) (lifecycle : PetLifecycleState)
    (hlow : m.OnGround w ∨ lifecycle ≠ .paused ∧ w.bottom ≤ (m.releasedPosition lifecycle w).y + m.windowSize.height) :
    (m.releasedPosition lifecycle w).y = w.bottom - m.windowSize.height := by
  unfold releasedPosition at hlow ⊢
  by_cases hpaused : lifecycle = .paused
  · have hon : m.position.y = w.bottom - m.windowSize.height := hlow.resolve_right fun hnot => hnot.1 hpaused
    simp only [if_pos hpaused]
    exact clamp_onGround h hon
  · simp only [if_neg hpaused] at hlow ⊢
    by_cases hfloor : w.bottom ≤ m.position.y + m.windowSize.height
    · rw [if_pos hfloor]
      exact groundY_eq h
    · rw [if_neg hfloor] at hlow ⊢
      rcases hlow with hon | ⟨-, hreaches⟩
      · exact hon
      · exact absurd hreaches hfloor

/-- A release lets the pet fall, or land where the window is on the floor. -/
theorem settleRelease_unturned (h : Unturned w m)
    (hfloor : m.states.lifecycle = .active → m.touchesFloor w → m.OnGround w) :
    Wp (settleRelease (some w)) (fun _ => Unturned w) (fun _ => Unturned w) m := by
  simp only [settleRelease, wp_bind, wp_onStates, wp_modify, wp_shown, wp_get, wp_ite]
  refine ⟨fun states hrelease => ?_, fun _ _ => h⟩
  obtain ⟨-, hcases⟩ := releaseDrag_at hrelease
  have hmotion : states.motion ∈ aloftMotions := by
    rcases hcases with ⟨-, hat⟩ | ⟨-, hat⟩ <;>
    · rw [hat.motion]
      decide
  have hreleased : ∀ m' : PetMotionModel, m'.windowSize = m.windowSize → m'.states = states →
      m'.pendingDirectionTurn = m.pendingDirectionTurn → Unturned w m' := by
    intro m' hsize hstates hturn
    exact ⟨⟨by rw [hsize]; exact h.1.holds, .inl (by rw [hstates]; exact hmotion)⟩, hturn.trans h.2⟩
  refine ⟨fun s hs => ⟨fun hlands => ⟨fun landed hland => ?_, fun _ _ => hreleased _ rfl rfl rfl⟩,
    fun _ => wp_snapshot_same (hreleased _ rfl rfl rfl)⟩, fun _ _ => hreleased _ rfl rfl rfl⟩
  have hactive : m.states.lifecycle = .active := by
    rcases hcases with ⟨-, hat⟩ | ⟨hactive, -⟩
    · have hpaused := (snapshot_lifecycle hs).symm.trans hlands.1
      rw [hat.lifecycle] at hpaused
      cases hpaused
    · exact hactive
  have hat := land_at hland
  exact wp_snapshot_same ⟨⟨h.1.holds, .inr ⟨.inr hat.motion, hfloor hactive hlands.2⟩⟩, h.2⟩

theorem releaseDrag_unturned (h : Unturned w m) {workspaces : Option (List Rect)}
    (hworkspaces : ∀ list ∈ workspaces, list = [w]) :
    Wp (releaseDrag workspaces) (fun _ => Unturned w) (fun _ => Unturned w) m := by
  cases workspaces with
  | none =>
    simp only [releaseDrag, settleRelease, wp_bind, wp_onStates, wp_modify]
    refine ⟨fun states hrelease => ?_, fun _ _ => h⟩
    obtain ⟨-, hcases⟩ := releaseDrag_at hrelease
    refine wp_snapshot_same ⟨⟨h.1.holds, .inl ?_⟩, h.2⟩
    rcases hcases with ⟨-, hat⟩ | ⟨-, hat⟩ <;>
    · show states.motion ∈ aloftMotions
      rw [hat.motion]
      decide
  | some list =>
    obtain rfl := hworkspaces list rfl
    simp only [releaseDrag, wp_bind, wp_get, selectWorkspace_single, getOrRaise, wp_pure, wp_shown, wp_set]
    refine ⟨fun s hs => ?_, fun _ _ => h⟩
    have hlifecycle := snapshot_lifecycle hs
    apply settleRelease_unturned
    · refine ⟨⟨h.1.holds, h.1.motion.imp_right (And.imp_right fun hon => ?_)⟩, h.2⟩
      exact releasedPosition_onGround h.1.holds s.lifecycle (.inl hon)
    · intro hactive htouches
      refine releasedPosition_onGround h.1.holds s.lifecycle (.inr ⟨?_, htouches⟩)
      rw [hlifecycle, hactive]
      decide

end

end PetMotionModel

end ArkClaw.Pet
