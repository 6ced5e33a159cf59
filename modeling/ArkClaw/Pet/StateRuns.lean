import ArkClaw.Library.Runs
import ArkClaw.Pet.State

/-!
# Runs of the layered state machine

The machine is driven by eighteen direct transitions and by proposals that are committed at any later time.
Every one of them checks before it assigns, and bumps the epoch with what it changes. So an operation that
raises changes nothing, the epoch tells apart any two states of a run that differ, and a proposal is only
accepted by the very machine it was made from.

The layers stay permitted but for one path: a drag that starts while the pet is paused leaves no behaviors, and
`resume` does not put the struggle back that an active drag has to show.
-/

namespace ArkClaw.Pet

open ArkClaw.Library

namespace PetLayeredStateMachine

/-- What a caller can ask of a machine. -/
inductive Operation where
  | propose (change : StateChange)
  | commit (proposal : ProposedStateTransition)
  | pause
  | resume
  | beginClosing
  | recoverFailedClose
  | startDragging
  | releaseDrag
  | startFalling
  | land
  | finishLanding
  | startWalking (direction : PetFacing)
  | stopWalking
  | startThinking
  | finishThinking
  | startReminding
  | finishReminding
  | startBlinking
  | finishBlinking

/-- The machine an operation makes of this one, or the error it raises. -/
def Operation.transition (m : PetLayeredStateMachine) : Operation → Except PetError PetLayeredStateMachine
  | .propose change => (fun _ => m) <$> m.propose change
  | .commit proposal => m.commit proposal
  | .pause => m.pause
  | .resume => m.resume
  | .beginClosing => .ok m.beginClosing
  | .recoverFailedClose => m.recoverFailedClose
  | .startDragging => m.startDragging
  | .releaseDrag => m.releaseDrag
  | .startFalling => m.startFalling
  | .land => m.land
  | .finishLanding => m.finishLanding
  | .startWalking direction => m.startWalking direction
  | .stopWalking => m.stopWalking
  | .startThinking => m.startThinking
  | .finishThinking => m.finishThinking
  | .startReminding => m.startReminding
  | .finishReminding => m.finishReminding
  | .startBlinking => m.startBlinking
  | .finishBlinking => .ok m.finishBlinking

/-- An operation as a program: a transition that raises leaves the machine as it is. -/
def Operation.program (op : Operation) : Program PetLayeredStateMachine Unit := fun m =>
  match op.transition m with
  | .ok m' => .ok () m'
  | .error error => .error error m

/-- The machine an operation leaves behind. -/
def operate (m : PetLayeredStateMachine) (op : Operation) : PetLayeredStateMachine := stateAfter op.program m

variable {m m' : PetLayeredStateMachine} {op : Operation}

theorem operate_eq (m : PetLayeredStateMachine) (op : Operation) :
    operate m op = match op.transition m with
      | .ok m' => m'
      | .error _ => m := by
  unfold operate stateAfter EStateM.run Operation.program
  cases op.transition m <;> rfl

/-! ## What a transition does to the epoch -/

/-- The machine is as it was, or its epoch has moved on. -/
def Bumps (m m' : PetLayeredStateMachine) : Prop := m' = m ∨ m.epoch < m'.epoch

/-- What an accepted commit was made from, and what it leaves. -/
theorem commit_ok {proposal : ProposedStateTransition} (h : m.commit proposal = .ok m') :
    proposal.sourceEpoch = m.epoch ∧ m.snapshot = .ok proposal.sourceState
      ∧ m' = { m.install proposal.targetState with epoch := m.epoch + 1 } := by
  unfold commit at h
  by_cases hepoch : proposal.sourceEpoch = m.epoch
  · cases hs : m.snapshot with
    | error error => simp [hepoch, hs, bind, Except.bind] at h
    | ok source =>
      by_cases hsource : proposal.sourceState ≠ source ∨ proposal.targetEpoch ≠ proposal.sourceEpoch + 1
      · simp [hepoch, hs, bind, Except.bind, if_pos (hepoch ▸ hsource)] at h
      · rw [not_or, not_not, not_not] at hsource
        simp [hepoch, hs, bind, Except.bind, hsource.1, hsource.2, pure, Except.pure] at h
        exact ⟨hepoch, hsource.1 ▸ rfl, h.symm⟩
  · simp [hepoch, bind, Except.bind] at h

/-- A transition that changes the machine bumps its epoch. -/
theorem transition_bumps (h : op.transition m = .ok m') : Bumps m m' := by
  cases op with
  | propose change =>
    cases hp : m.propose change with
    | error error => simp [Operation.transition, hp] at h
    | ok proposal =>
      simp [Operation.transition, hp] at h
      exact .inl h.symm
  | commit proposal =>
    obtain ⟨-, -, rfl⟩ := commit_ok h
    exact .inr (Nat.lt_succ_self _)
  | _ =>
    unfold Operation.transition at h
    grind [Bumps, pause, resume, beginClosing, recoverFailedClose, startDragging, releaseDrag, startFalling, land,
      finishLanding, startWalking, stopWalking, startThinking, finishThinking, startReminding, finishReminding,
      startBlinking, finishBlinking, bumpEpoch, restoreDefaultBehavior, clearActivity]

theorem operate_bumps (m : PetLayeredStateMachine) (op : Operation) : Bumps m (operate m op) := by
  rw [operate_eq]
  split
  next h => exact transition_bumps h
  next => exact .inl rfl

theorem Bumps.le (h : Bumps m m') : m.epoch ≤ m'.epoch := by
  rcases h with rfl | h
  · exact Nat.le_refl _
  · exact Nat.le_of_lt h

/-- The epoch never goes back over a run. -/
theorem run_epoch (m : PetLayeredStateMachine) (ops : List Operation) : m.epoch ≤ (run operate m ops).epoch := by
  induction ops generalizing m with
  | nil => exact Nat.le_refl _
  | cons op ops ih => exact Nat.le_trans (operate_bumps m op).le (ih (operate m op))

/-- A run that ends at the epoch it started from never changed the machine. -/
theorem run_unchanged (m : PetLayeredStateMachine) (ops : List Operation)
    (h : (run operate m ops).epoch = m.epoch) : StepsMeet operate (fun m op => operate m op = m) m ops := by
  induction ops generalizing m with
  | nil => trivial
  | cons op ops ih =>
    have hrest := run_epoch (operate m op) ops
    rcases operate_bumps m op with hsame | hlt
    · refine ⟨hsame, ih _ ?_⟩
      rw [run_cons] at h
      rw [h, hsame]
    · rw [run_cons] at h
      omega

/-! ## Where the layers stay permitted -/

/-- A paused pet that is being dragged resumes. -/
def ResumesDragged (m : PetLayeredStateMachine) (op : Operation) : Prop :=
  op = .resume ∧ m.lifecycle = .paused ∧ m.motion = .dragging

/-- Layers without behaviors and activity may stand together unless an active pet is dragged. -/
theorem valid_quiet (hbehaviors : m.behaviors = {}) (hactivity : m.activity = .none)
    (hdrag : m.lifecycle = .active → m.motion ≠ .dragging) : m.Valid := by
  obtain ⟨lifecycle, motion, behaviors, facing, activity, epoch⟩ := m
  simp only at hbehaviors hactivity hdrag
  subst hbehaviors hactivity
  unfold Valid validateLayeredState
  cases lifecycle <;> cases motion <;> simp_all

/-- The default layers of a pet may stand together unless an active pet is dragged. -/
theorem valid_restoreDefaultBehavior (hdrag : m.lifecycle = .active → m.motion ≠ .dragging) :
    m.restoreDefaultBehavior.Valid := by
  obtain ⟨lifecycle, motion, behaviors, facing, activity, epoch⟩ := m
  simp only at hdrag
  unfold Valid restoreDefaultBehavior validateLayeredState
  cases lifecycle <;> cases motion <;> simp_all

/-- An activity only an idle pet can have leaves it undragged. -/
theorem undragged_of_activity (hv : m.Valid) (hactivity : m.activity ≠ .none) : m.motion ≠ .dragging := by
  intro hmotion
  unfold Valid validateLayeredState at hv
  grind

theorem Valid.bumpEpoch (h : m.Valid) : m.bumpEpoch.Valid := h

/-- A transition keeps the layers permitted, unless it resumes a pet that is being dragged. -/
theorem transition_valid (hv : m.Valid) (h : op.transition m = .ok m') (hop : ¬ResumesDragged m op) :
    m'.Valid := by
  cases op with
  | propose change =>
    cases hp : m.propose change with
    | error error => simp [Operation.transition, hp] at h
    | ok proposal =>
      simp [Operation.transition, hp] at h
      exact h ▸ hv
  | commit proposal =>
    obtain ⟨-, -, rfl⟩ := commit_ok h
    exact valid_install m proposal.targetState _
  | pause =>
    replace h : m.pause = .ok m' := h
    unfold pause at h
    split at h
    next => cases h
    next => cases h; exact valid_quiet rfl rfl fun hactive => by cases hactive
  | resume =>
    replace h : m.resume = .ok m' := h
    unfold resume at h
    split at h
    next => cases h
    next hpaused =>
      cases h
      refine (valid_restoreDefaultBehavior fun _ => ?_).bumpEpoch
      exact fun hdragging => hop ⟨rfl, not_not.mp hpaused, hdragging⟩
  | beginClosing =>
    replace h : m.beginClosing = m' := Except.ok.inj h
    unfold beginClosing at h
    split at h
    next => exact h ▸ hv
    next => subst h; exact valid_quiet rfl rfl fun hactive => by cases hactive
  | recoverFailedClose => exact (recoverFailedClose_at h).2.valid
  | startDragging =>
    replace h : m.startDragging = .ok m' := h
    unfold startDragging at h
    split at h
    next => cases h
    next =>
      cases h
      unfold Valid validateLayeredState
      cases hl : m.lifecycle <;> simp
  | releaseDrag =>
    rcases (releaseDrag_at h).2 with ⟨-, hat⟩ | ⟨-, hat⟩
    · exact hat.valid
    · exact hat.valid
  | startFalling =>
    replace h : m.startFalling = .ok m' := h
    unfold startFalling at h
    split at h
    next => cases h
    next => cases h; exact valid_quiet rfl rfl fun _ hdragging => by cases hdragging
  | land => exact (land_at h).valid
  | finishLanding => exact (finishLanding_at h).valid
  | startWalking direction => exact (startWalking_at hv h).valid
  | stopWalking =>
    replace h : m.stopWalking = .ok m' := h
    unfold stopWalking at h
    split at h
    next => cases h
    next =>
      cases h
      exact (valid_restoreDefaultBehavior fun _ hdragging => by cases hdragging).bumpEpoch
  | startThinking =>
    replace h : m.startThinking = .ok m' := h
    unfold startThinking at h
    split at h
    next => cases h
    next hactive =>
      cases h
      simp only [not_or, not_not] at hactive
      simp [Valid, validateLayeredState, hactive.1, hactive.2.1]
  | finishThinking =>
    replace h : m.finishThinking = .ok m' := h
    unfold finishThinking at h
    split at h
    next => cases h
    next hthinking =>
      cases h
      refine (valid_restoreDefaultBehavior fun _ => undragged_of_activity hv ?_).bumpEpoch
      rw [not_not.mp hthinking]
      decide
  | startReminding =>
    replace h : m.startReminding = .ok m' := h
    unfold startReminding at h
    split at h
    next => cases h
    next hactive =>
      cases h
      simp only [not_or, not_not] at hactive
      simp [Valid, validateLayeredState, hactive.1]
  | finishReminding =>
    replace h : m.finishReminding = .ok m' := h
    unfold finishReminding at h
    split at h
    next => cases h
    next hreminding =>
      cases h
      refine (valid_restoreDefaultBehavior fun _ => undragged_of_activity hv ?_).bumpEpoch
      rw [not_not.mp hreminding]
      decide
  | startBlinking => exact (startBlinking_at hv h).valid
  | finishBlinking =>
    obtain rfl : m.finishBlinking = m' := Except.ok.inj h
    exact (finishBlinking_at hv).valid

/-- Resuming a dragged pet leaves layers that may not stand together. -/
theorem invalid_of_resumesDragged (h : ResumesDragged m op) : ¬(operate m op).Valid := by
  obtain ⟨rfl, hpaused, hdragging⟩ := h
  rw [operate_eq]
  simp [Operation.transition, resume, hpaused, Valid, validateLayeredState, restoreDefaultBehavior, bumpEpoch,
    hdragging]

/-! ## Runs -/

/-- What a machine owes its callers of one operation: permitted layers, an epoch that moves on with every
change of what is shown, and no trace of an operation that raises. -/
structure StepLawful (m : PetLayeredStateMachine) (op : Operation) : Prop where
  valid : (operate m op).Valid
  readable : ∃ state, (operate m op).snapshot = .ok state
  epoch_le : m.epoch ≤ (operate m op).epoch
  epoch_lt : (operate m op).snapshot ≠ m.snapshot → m.epoch < (operate m op).epoch
  raised : ∀ error m', op.program.run m = .error error m' → m' = m

/-- A proposal made in the middle of a run that is accepted at its end: nothing changed the machine since. -/
def CommitsCurrent (m : PetLayeredStateMachine) (ops : List Operation) : Prop :=
  ∀ before change since proposal, ops = before ++ .propose change :: since →
    (run operate m before).propose change = .ok proposal →
    (∃ m', (run operate m ops).commit proposal = .ok m') →
    StepsMeet operate (fun m op => operate m op = m) (run operate m before) (.propose change :: since)

/-- What a machine owes its callers over a run. -/
def Lawful (m : PetLayeredStateMachine) (ops : List Operation) : Prop :=
  m.Valid ∧ StepsMeet operate StepLawful m ops ∧ CommitsCurrent m ops

theorem operate_valid (hv : m.Valid) (hop : ¬ResumesDragged m op) : (operate m op).Valid := by
  rw [operate_eq]
  split
  next h => exact transition_valid hv h hop
  next => exact hv

theorem step_lawful (hv : m.Valid) (hop : ¬ResumesDragged m op) : StepLawful m op where
  valid := operate_valid hv hop
  readable := ⟨_, snapshot_of_valid _ (operate_valid hv hop)⟩
  epoch_le := (operate_bumps m op).le
  epoch_lt hne := by
    rcases operate_bumps m op with hsame | hlt
    · exact absurd (by rw [hsame]) hne
    · exact hlt
  raised error m' h := by
    unfold EStateM.run Operation.program at h
    split at h
    · cases h
    · cases h; rfl

/-- A proposal carries the epoch of the machine it was made from. -/
theorem propose_epoch {change : StateChange} {proposal : ProposedStateTransition}
    (h : m.propose change = .ok proposal) : proposal.sourceEpoch = m.epoch := by
  unfold propose at h
  cases hs : m.snapshot with
  | error e => rw [hs] at h; cases h
  | ok source =>
    rw [hs] at h
    simp only [bind, Except.bind] at h
    split at h
    · cases h
    · cases h; rfl

theorem commitsCurrent (m : PetLayeredStateMachine) (ops : List Operation) : CommitsCurrent m ops := by
  rintro before change since proposal rfl hmade ⟨m', haccepted⟩
  apply run_unchanged
  rw [← run_append, ← (commit_ok haccepted).1, propose_epoch hmade]

/-- From the first state on, a machine keeps its laws over a run exactly if no step of the run resumes a paused
pet that is being dragged. -/
theorem lawful_iff (initialEpoch : Nat) (ops : List Operation) : Lawful { epoch := initialEpoch } ops
      ↔ StepsMeet operate (fun m op => ¬ResumesDragged m op) { epoch := initialEpoch } ops := by
  have hv : Valid { epoch := initialEpoch } := rfl
  constructor
  · rintro ⟨-, hsteps, -⟩
    exact hsteps.mono fun m op h hresumes => absurd h.valid (invalid_of_resumesDragged hresumes)
  · intro hsteps
    refine ⟨hv, ?_, commitsCurrent _ ops⟩
    have hkeeps : ∀ m op, Valid m → ¬ResumesDragged m op → (operate m op).Valid := fun _ _ => operate_valid
    exact StepsMeet.of_invariant hkeeps (fun _ _ => step_lawful) _ ops hv hsteps

/-- A drag that starts while the pet is paused: once resumed, the machine cannot show its layers. -/
theorem resumed_drag_unreadable :
    (run operate {} [.pause, .startDragging, .resume]).snapshot = .error .stateTransition := by
  rfl

end PetLayeredStateMachine

end ArkClaw.Pet
