import ArkClaw.Library.Program
import ArkClaw.Pet.ActionSequence

/-!
# The layered semantic state

Lifecycle, exclusive motion, composable behaviors, facing, and the exclusive activity that Track 0 plays
while motion is idle. A `PetLayeredState` carries the proof that its layers may stand together; the
machine that owns the layers stores them raw, as the source does, and reads them through `snapshot`,
which raises where the combination is not permitted.

`propose` validates a change without committing it and `commit` installs a current proposal at its epoch.
What the rest of the development needs of the two is `propose_eq` and `commit_propose`.
-/

namespace ArkClaw.Pet

inductive PetLifecycleState where
  | active | paused | closing
deriving DecidableEq, Repr

inductive PetMotionState where
  | idle | walkingLeft | walkingRight | runningLeft | runningRight | dragging | falling | landing
deriving DecidableEq, Repr

/-- Exclusive semantic Track 0 activity while motion is idle. -/
inductive PetActivityState where
  | none | sitting | sleeping | waving | happy | thinking | reading | typing | reminding | confused
  | angry | special | interact
deriving DecidableEq, Repr

inductive PetFacing where
  | left | right
deriving DecidableEq, Repr

/-- A set of behaviors, one flag for each member of the enumeration. -/
structure Behaviors where
  breathing : Bool := false
  blinking : Bool := false
  thinking : Bool := false
  reminding : Bool := false
  dragStruggle : Bool := false
deriving DecidableEq, Repr

/-- Errors the pet's application layer raises. -/
inductive PetError where
  | stateTransition
  | animationCompatibility
  | value (message : String)
  | runtime (message : String)
  | assertion (message : String)
  | key
deriving DecidableEq, Repr

/-- A program over a state that may raise a pet error. -/
abbrev Program (σ α : Type) := EStateM PetError σ α

/-! ## States whose layers may stand together -/

/-- The combinations that respect lifecycle and motion ownership. -/
def validateLayeredState (lifecycle : PetLifecycleState) (motion : PetMotionState) (behaviors : Behaviors)
    (activity : PetActivityState) : Bool :=
  if lifecycle ≠ .active then
    behaviors = {} ∧ activity = .none
  else if motion ≠ .idle ∧ activity ≠ .none then
    false
  else
    match motion with
    | .dragging => behaviors = { dragStruggle := true }
    | .falling | .landing => behaviors = {}
    | .walkingLeft | .walkingRight | .runningLeft | .runningRight =>
      behaviors = { blinking := behaviors.blinking }
    | .idle =>
      match activity with
      | .reminding => behaviors = { reminding := true }
      | .thinking => behaviors = { thinking := true, blinking := behaviors.blinking }
      | .none => behaviors = { breathing := behaviors.breathing, blinking := behaviors.blinking }
      | _ => behaviors = {}

/-- One immutable state whose layers may stand together. -/
structure PetLayeredState where
  lifecycle : PetLifecycleState
  motion : PetMotionState
  behaviors : Behaviors
  facing : PetFacing
  activity : PetActivityState := .none
  valid : validateLayeredState lifecycle motion behaviors activity = true
deriving DecidableEq

/-- The activity the legacy thinking and reminding flags stand for; both at once are an error. -/
def activityFromLegacyBehaviors (behaviors : Behaviors) : Except PetError (Option PetActivityState) :=
  match behaviors.thinking, behaviors.reminding with
  | true, true => .error .stateTransition
  | true, false => .ok (some .thinking)
  | false, true => .ok (some .reminding)
  | false, false => .ok none

/-- Add the legacy flag of an activity that has one. -/
def Behaviors.project (behaviors : Behaviors) : PetActivityState → Behaviors
  | .thinking => { behaviors with thinking := true }
  | .reminding => { behaviors with reminding := true }
  | _ => behaviors

/-- The behaviors an activity starts with. -/
def behaviorsForActivity : PetActivityState → Behaviors
  | .thinking => { thinking := true }
  | .reminding => { reminding := true }
  | .none => { breathing := true }
  | _ => {}

/-- The constructor: reconcile activity and legacy flags, then validate. -/
def PetLayeredState.make (lifecycle : PetLifecycleState) (motion : PetMotionState) (behaviors : Behaviors)
    (facing : PetFacing) (activity : PetActivityState) : Except PetError PetLayeredState := do
  let legacyActivity ← activityFromLegacyBehaviors behaviors
  let activity ←
    match legacyActivity with
    | none => pure activity
    | some legacy =>
      if activity = .none ∨ activity = legacy then pure legacy else .error .stateTransition
  let behaviors := behaviors.project activity
  if h : validateLayeredState lifecycle motion behaviors activity = true then
    pure { lifecycle, motion, behaviors, facing, activity, valid := h }
  else .error .stateTransition

variable {lifecycle : PetLifecycleState} {motion : PetMotionState} {behaviors : Behaviors}
  {activity : PetActivityState} {facing : PetFacing} {action : PetActionName}

/-- Layers that may stand together agree with their legacy flags. -/
theorem legacy_flags (h : validateLayeredState lifecycle motion behaviors activity = true) :
    (behaviors.thinking = true ↔ activity = .thinking) ∧
      (behaviors.reminding = true ↔ activity = .reminding) := by
  obtain ⟨br, bl, th, re, dr⟩ := behaviors
  unfold validateLayeredState at h
  split at h
  next => simp at h; simp [h]
  next =>
    split at h
    next => cases h
    next hidle =>
      cases motion with
      | idle => cases activity <;> simp at h <;> simp [h]
      | _ => simp at h hidle; simp [h, hidle]

/-- Layers that may stand together are what the constructor returns for them. -/
theorem PetLayeredState.make_of_valid (h : validateLayeredState lifecycle motion behaviors activity = true) :
    PetLayeredState.make lifecycle motion behaviors facing activity =
      .ok { lifecycle, motion, behaviors, facing, activity, valid := h } := by
  obtain ⟨hth, hre⟩ := legacy_flags h
  have hproj : behaviors.project activity = behaviors := by
    obtain ⟨br, bl, th, re, dr⟩ := behaviors
    cases activity <;> simp_all [Behaviors.project]
  unfold PetLayeredState.make activityFromLegacyBehaviors
  cases ht : behaviors.thinking with
  | true =>
    obtain rfl := hth.mp ht
    have hr : behaviors.reminding = false := by simpa using mt hre.mp (by decide)
    simp [hr, bind, Except.bind, pure, Except.pure, hproj, h]
  | false =>
    cases hr : behaviors.reminding with
    | true =>
      obtain rfl := hre.mp hr
      simp [bind, Except.bind, pure, Except.pure, hproj, h]
    | false => simp [bind, Except.bind, pure, Except.pure, hproj, h]

/-- The constructor has one way to fail. -/
theorem PetLayeredState.make_error {error : PetError}
    (h : PetLayeredState.make lifecycle motion behaviors facing activity = .error error) :
    error = .stateTransition := by
  unfold PetLayeredState.make activityFromLegacyBehaviors at h
  simp only [bind, Except.bind, pure, Except.pure] at h
  grind

/-- What the constructor returns is in the lifecycle asked for. -/
theorem PetLayeredState.make_lifecycle {state : PetLayeredState}
    (h : PetLayeredState.make lifecycle motion behaviors facing activity = .ok state) :
    state.lifecycle = lifecycle := by
  unfold PetLayeredState.make activityFromLegacyBehaviors at h
  simp only [bind, Except.bind, pure, Except.pure] at h
  grind

/-! ## Compatibility with Track 0 -/

/-- The Track 0 actions each semantic state permits. -/
def stateActionCompatibility (motion : PetMotionState) (activity : PetActivityState) : List PetActionName :=
  match motion, activity with
  | .idle, .none => [.idle, .returnIdle]
  | .walkingLeft, .none => [.walkLeft]
  | .walkingRight, .none => [.walkRight]
  | .runningLeft, .none => [.runLeft]
  | .runningRight, .none => [.runRight]
  | .dragging, .none => [.dragStart, .dragLoop, .idle]
  | .falling, .none => [.dragEnd, .idle]
  | .landing, .none => [.landing, .idle]
  | .idle, .sitting => [.sitDown, .sitIdle]
  | .idle, .sleeping => [.sleepStart, .sleepLoop, .sleepEnd]
  | .idle, .special | .idle, .waving => [.wave]
  | .idle, .interact | .idle, .happy => [.happy]
  | .idle, .thinking => [.think]
  | .idle, .reading => [.read]
  | .idle, .typing => [.type]
  | .idle, .reminding => [.remind]
  | .idle, .confused => [.confused]
  | .idle, .angry => [.angry]
  | _, _ => []

/-- Reject a desired Track 0 action that the semantic state does not permit. -/
def assertAnimationCompatible (state : PetLayeredState) (action : Option PetActionName)
    (health : PlaybackHealth) : Except PetError Unit :=
  if health ≠ .healthy ∨ state.lifecycle ≠ .active then
    if action = none then .ok () else .error .animationCompatibility
  else
    match action with
    | none => .error .animationCompatibility
    | some action =>
      if action ∈ stateActionCompatibility state.motion state.activity then .ok ()
      else .error .animationCompatibility

/-- The assertion accepts. -/
def AnimationCompatible (state : PetLayeredState) (action : Option PetActionName) (health : PlaybackHealth) :
    Prop := assertAnimationCompatible state action health = .ok ()

instance (state : PetLayeredState) (action : Option PetActionName) (health : PlaybackHealth) :
    Decidable (AnimationCompatible state action health) :=
  inferInstanceAs (Decidable (_ = _))

/-- The assertion has one way to fail. -/
theorem assertAnimationCompatible_eq (state : PetLayeredState) (action : Option PetActionName)
    (health : PlaybackHealth) : assertAnimationCompatible state action health =
      if AnimationCompatible state action health then .ok () else .error .animationCompatibility := by
  by_cases h : AnimationCompatible state action health
  · rw [if_pos h, h]
  · rw [if_neg h]
    unfold AnimationCompatible at h
    unfold assertAnimationCompatible at h ⊢
    cases action <;> grind

/-- Nothing may be desired of a renderer that is not healthy. -/
theorem animationCompatible_of_unhealthy {state : PetLayeredState} {health : PlaybackHealth}
    (h : health ≠ .healthy) : AnimationCompatible state none health := by
  simp [AnimationCompatible, assertAnimationCompatible, h]

/-- Nothing may be desired outside the active lifecycle. -/
theorem animationCompatible_of_inactive {state : PetLayeredState} {health : PlaybackHealth}
    (h : state.lifecycle ≠ .active) : AnimationCompatible state none health := by
  simp [AnimationCompatible, assertAnimationCompatible, h]

/-- A desired action needs a healthy renderer, the active lifecycle, and the semantic state's permission. -/
theorem animationCompatible_some {state : PetLayeredState} {health : PlaybackHealth} :
    AnimationCompatible state (some action) health ↔
      health = .healthy ∧ state.lifecycle = .active ∧
        action ∈ stateActionCompatibility state.motion state.activity := by
  unfold AnimationCompatible assertAnimationCompatible
  split
  next h => simp; intro hh hl; simp [hh, hl] at h
  next h => simp at h; simp [h]

/-- With nothing desired, the renderer is unhealthy or the lifecycle inactive. -/
theorem animationCompatible_none {state : PetLayeredState} {health : PlaybackHealth} :
    AnimationCompatible state none health ↔ health ≠ .healthy ∨ state.lifecycle ≠ .active := by
  unfold AnimationCompatible assertAnimationCompatible
  split <;> simp_all

/-- Only idle layers permit the return to idle. -/
theorem permits_returnIdle (h : PetActionName.returnIdle ∈ stateActionCompatibility motion activity) :
    motion = .idle ∧ activity = .none := by
  revert h
  cases motion <;> cases activity <;> decide

/-- What falling layers permit, landing layers permit too, but for the animation of a release. -/
theorem permits_falling (h : action ∈ stateActionCompatibility .falling activity) (hend : action ≠ .dragEnd) :
    action ∈ stateActionCompatibility .landing .none := by
  revert h hend
  cases activity <;> cases action <;> decide

/-- What landing layers permit, idle layers permit too, but for the landing itself. -/
theorem permits_landing
    (h : action ∈ stateActionCompatibility .landing activity) (hlanding : action ≠ .landing) :
    action ∈ stateActionCompatibility .idle .none := by
  revert h hlanding
  cases activity <;> cases action <;> decide

/-- Layers that permit the start of a drag permit its loop. -/
theorem permits_dragLoop (h : PetActionName.dragStart ∈ stateActionCompatibility motion activity) :
    PetActionName.dragLoop ∈ stateActionCompatibility motion activity := by
  revert h
  cases motion <;> cases activity <;> decide

/-! ## The machine -/

/-- The layers as stored, with the epoch of their last change. -/
structure PetLayeredStateMachine where
  lifecycle : PetLifecycleState := .active
  motion : PetMotionState := .idle
  behaviors : Behaviors := { breathing := true }
  facing : PetFacing := .right
  activity : PetActivityState := .none
  epoch : Nat := 0
deriving DecidableEq

/-- Validated semantic transition whose target epoch is state-owned. -/
structure ProposedStateTransition where
  sourceState : PetLayeredState
  targetState : PetLayeredState
  sourceEpoch : Nat
  targetEpoch : Nat
  mandatoryForSafety : Bool := false

/-- What a caller asks `propose` to change. -/
structure StateChange where
  lifecycle : Option PetLifecycleState := none
  motion : Option PetMotionState := none
  behaviors : Option Behaviors := none
  facing : Option PetFacing := none
  activity : Option PetActivityState := none
  mandatoryForSafety : Bool := false

/-- The change names a motion or leaves the active lifecycle, so it brings all the layers it needs. -/
def StateChange.Resets (change : StateChange) : Prop :=
  change.motion.isSome = true ∨ ∃ lifecycle ∈ change.lifecycle, lifecycle ≠ .active

namespace PetLayeredStateMachine

variable (m : PetLayeredStateMachine)
variable {error : PetError}

/-- The stored layers as one immutable state. -/
def snapshot : Except PetError PetLayeredState :=
  PetLayeredState.make m.lifecycle m.motion m.behaviors m.facing m.activity

/-- The stored layers may stand together. -/
def Valid : Prop := validateLayeredState m.lifecycle m.motion m.behaviors m.activity = true

/-- The state a valid machine shows. -/
def state (h : m.Valid) : PetLayeredState :=
  { lifecycle := m.lifecycle, motion := m.motion, behaviors := m.behaviors, facing := m.facing
    activity := m.activity, valid := h }

theorem snapshot_of_valid (h : m.Valid) : m.snapshot = .ok (m.state h) :=
  PetLayeredState.make_of_valid h

/-- A machine that shows no state raises a transition error. -/
theorem snapshot_error (h : m.snapshot = .error error) : error = .stateTransition :=
  PetLayeredState.make_error h

/-- The target layers of a change: leaving the active lifecycle or idle motion drops the activity, an
activity or an explicit idle motion brings its default behaviors. -/
def targetLayers (source : PetLayeredState) (change : StateChange) :
    PetLifecycleState × PetMotionState × Behaviors × PetActivityState :=
  let lifecycle := change.lifecycle.getD source.lifecycle
  let motion := change.motion.getD source.motion
  let activity := change.activity.getD source.activity
  let behaviors := change.behaviors.getD source.behaviors
  if lifecycle ≠ .active then (lifecycle, motion, {}, .none)
  else if change.motion.isSome ∧ motion ≠ .idle then
    (lifecycle, motion, if motion = .dragging then { dragStruggle := true } else {}, .none)
  else if change.activity.isSome then (lifecycle, motion, behaviorsForActivity activity, activity)
  else if change.motion.isSome ∧ motion = .idle then (lifecycle, motion, { breathing := true }, .none)
  else (lifecycle, motion, behaviors, activity)

theorem targetLayers_lifecycle (source : PetLayeredState) (change : StateChange) :
    (targetLayers source change).1 = change.lifecycle.getD source.lifecycle := by
  simp only [targetLayers]
  split
  next => rfl
  next =>
    split
    next => rfl
    next =>
      split
      next => rfl
      next => split <;> rfl

/-- Validate a possible state change without committing its epoch. -/
def propose (change : StateChange) : Except PetError ProposedStateTransition := do
  let source ← m.snapshot
  let (lifecycle, motion, behaviors, activity) := targetLayers source change
  let target ← PetLayeredState.make lifecycle motion behaviors (change.facing.getD source.facing) activity
  return {
    sourceState := source, targetState := target, sourceEpoch := m.epoch, targetEpoch := m.epoch + 1
    mandatoryForSafety := change.mandatoryForSafety }

/-- The target of a change that resets the layers may stand. -/
theorem targetLayers_valid (source : PetLayeredState) {change : StateChange} (h : change.Resets) :
    validateLayeredState (targetLayers source change).1 (targetLayers source change).2.1
      (targetLayers source change).2.2.1 (targetLayers source change).2.2.2 = true := by
  simp only [targetLayers]
  split
  next hl => simp [validateLayeredState, hl]
  next hl =>
    simp only [not_not] at hl
    have hmotion : change.motion.isSome = true := by
      refine h.resolve_right fun ⟨lifecycle, hm, hne⟩ => hne ?_
      rw [Option.mem_def.mp hm] at hl
      exact hl
    obtain ⟨motion, hm⟩ := Option.isSome_iff_exists.mp hmotion
    simp only [hm, Option.getD_some, Option.isSome_some, true_and]
    split
    next hne => cases motion <;> simp_all [validateLayeredState]
    next hne =>
      simp only [not_not] at hne
      split
      next => cases hact : change.activity.getD source.activity <;>
        simp [validateLayeredState, hl, hne, behaviorsForActivity]
      next => simp [validateLayeredState, hl, hne]

/-- The proposal a machine in the state `source` makes of a change that resets the layers. -/
def proposal (source : PetLayeredState) {change : StateChange} (hchange : change.Resets) :
    ProposedStateTransition where
  sourceState := source
  targetState :=
    { lifecycle := (targetLayers source change).1
      motion := (targetLayers source change).2.1
      behaviors := (targetLayers source change).2.2.1
      facing := change.facing.getD source.facing
      activity := (targetLayers source change).2.2.2
      valid := targetLayers_valid _ hchange }
  sourceEpoch := m.epoch
  targetEpoch := m.epoch + 1
  mandatoryForSafety := change.mandatoryForSafety

theorem propose_eq {source : PetLayeredState} (h : m.snapshot = .ok source) {change : StateChange}
    (hchange : change.Resets) : m.propose change = .ok (m.proposal source hchange) := by
  simp only [propose, h, bind, Except.bind,
    PetLayeredState.make_of_valid (targetLayers_valid source hchange)]
  rfl

/-- What a proposal keeps of the change and of the machine it was made from. -/
theorem propose_source {change : StateChange} {proposal : ProposedStateTransition}
    (h : m.propose change = .ok proposal) :
    m.snapshot = .ok proposal.sourceState ∧ proposal.mandatoryForSafety = change.mandatoryForSafety
      ∧ proposal.targetEpoch = m.epoch + 1 := by
  unfold propose at h
  cases hs : m.snapshot with
  | error e => rw [hs] at h; cases h
  | ok source =>
    rw [hs] at h
    simp only [bind, Except.bind] at h
    split at h
    · cases h
    next target ht =>
      cases h
      exact ⟨rfl, rfl, rfl⟩

/-- A proposal goes to the lifecycle its change names, and stays in its own where it names none. -/
theorem propose_lifecycle {change : StateChange} {proposal : ProposedStateTransition}
    (h : m.propose change = .ok proposal) :
    proposal.targetState.lifecycle = change.lifecycle.getD proposal.sourceState.lifecycle := by
  unfold propose at h
  simp only [bind, Except.bind, pure, Except.pure] at h
  split at h
  next => cases h
  next source hsource =>
    split at h
    next => cases h
    next target htarget =>
      obtain rfl := Except.ok.inj h
      exact (PetLayeredState.make_lifecycle htarget).trans (targetLayers_lifecycle _ _)

/-- Install the layers of a state. -/
def install (state : PetLayeredState) : PetLayeredStateMachine :=
  { m with
    lifecycle := state.lifecycle, motion := state.motion, behaviors := state.behaviors
    facing := state.facing, activity := state.activity }

/-- Atomically install a current proposal at its exact target epoch. -/
def commit (proposal : ProposedStateTransition) : Except PetError PetLayeredStateMachine := do
  if proposal.sourceEpoch ≠ m.epoch then throw .stateTransition
  let source ← m.snapshot
  if proposal.sourceState ≠ source ∨ proposal.targetEpoch ≠ proposal.sourceEpoch + 1 then
    throw .stateTransition
  return { m.install proposal.targetState with epoch := proposal.targetEpoch }

/-- A proposal of this very machine is current. -/
theorem commit_propose {change : StateChange} {proposal : ProposedStateTransition}
    (h : m.propose change = .ok proposal) :
    m.commit proposal = .ok { m.install proposal.targetState with epoch := m.epoch + 1 } := by
  unfold propose at h
  cases hs : m.snapshot with
  | error e => rw [hs] at h; cases h
  | ok source =>
    rw [hs] at h
    simp only [bind, Except.bind] at h
    split at h
    · cases h
    next target ht =>
      cases h
      simp [commit, hs, bind, Except.bind, pure, Except.pure]

/-- What is installed may stand together. -/
theorem valid_install (state : PetLayeredState) (epoch : Nat) :
    Valid { m.install state with epoch := epoch } := state.valid

/-! Transitions the motion model makes without a proposal. -/

/-- The behaviors an idle, active pet rests with; none otherwise. -/
def restoreDefaultBehavior : PetLayeredStateMachine :=
  { m with
    activity := .none
    behaviors := if m.lifecycle = .active ∧ m.motion = .idle then { breathing := true } else {} }

def bumpEpoch : PetLayeredStateMachine := { m with epoch := m.epoch + 1 }

/-- Stop playing anything: no activity, no behaviors. -/
def clearActivity : PetLayeredStateMachine := { m with activity := .none, behaviors := {} }

def pause : Except PetError PetLayeredStateMachine :=
  if m.lifecycle = .closing then .error .stateTransition
  else
    .ok { m.clearActivity with
      lifecycle := .paused, motion := if m.motion = .dragging then .idle else m.motion
      epoch := m.epoch + 1 }

def resume : Except PetError PetLayeredStateMachine :=
  if m.lifecycle ≠ .paused then .error .stateTransition
  else .ok { m with lifecycle := .active }.restoreDefaultBehavior.bumpEpoch

def beginClosing : PetLayeredStateMachine :=
  if m.lifecycle = .closing then m
  else { m.clearActivity with lifecycle := .closing, motion := .idle, epoch := m.epoch + 1 }

def recoverFailedClose : Except PetError PetLayeredStateMachine :=
  if m.lifecycle ≠ .closing then .error .stateTransition
  else .ok { m.clearActivity with lifecycle := .paused, motion := .idle, epoch := m.epoch + 1 }

def startDragging : Except PetError PetLayeredStateMachine :=
  if m.lifecycle = .closing then .error .stateTransition
  else
    .ok { m with
      motion := .dragging, activity := .none
      behaviors := if m.lifecycle = .active then { dragStruggle := true } else {}
      epoch := m.epoch + 1 }

def releaseDrag : Except PetError PetLayeredStateMachine :=
  if m.lifecycle = .paused ∧ m.motion = .dragging then
    .ok { m.clearActivity with motion := .idle, epoch := m.epoch + 1 }
  else if m.lifecycle ≠ .active ∨ m.motion ≠ .dragging then .error .stateTransition
  else .ok { m.clearActivity with motion := .falling, epoch := m.epoch + 1 }

def startFalling : Except PetError PetLayeredStateMachine :=
  if m.lifecycle ≠ .active ∨ m.motion = .dragging then .error .stateTransition
  else .ok { m.clearActivity with motion := .falling, epoch := m.epoch + 1 }

def land : Except PetError PetLayeredStateMachine :=
  if m.lifecycle ≠ .active ∨ m.motion ≠ .falling then .error .stateTransition
  else .ok { m.clearActivity with motion := .landing, epoch := m.epoch + 1 }

def finishLanding : Except PetError PetLayeredStateMachine :=
  if m.lifecycle ≠ .active ∨ m.motion ≠ .landing then .error .stateTransition
  else .ok { m with motion := .idle }.restoreDefaultBehavior.bumpEpoch

def startWalking (direction : PetFacing) : Except PetError PetLayeredStateMachine :=
  if m.lifecycle ≠ .active ∨ m.behaviors.reminding = true
      ∨ m.motion ∉ [PetMotionState.idle, .walkingLeft, .walkingRight] then
    .error .stateTransition
  else
    .ok { m with
      facing := direction
      motion := if direction = .left then .walkingLeft else .walkingRight
      activity := .none
      behaviors := { m.behaviors with breathing := false, thinking := false, reminding := false }
      epoch := m.epoch + 1 }

def stopWalking : Except PetError PetLayeredStateMachine :=
  if m.motion ∉ [PetMotionState.walkingLeft, .walkingRight] then .error .stateTransition
  else .ok { m with motion := .idle }.restoreDefaultBehavior.bumpEpoch

def startThinking : Except PetError PetLayeredStateMachine :=
  if m.lifecycle ≠ .active ∨ m.motion ≠ .idle ∨ m.activity = .reminding then .error .stateTransition
  else .ok { m with activity := .thinking, behaviors := { thinking := true }, epoch := m.epoch + 1 }

def finishThinking : Except PetError PetLayeredStateMachine :=
  if m.activity ≠ .thinking then .error .stateTransition
  else .ok m.restoreDefaultBehavior.bumpEpoch

def startReminding : Except PetError PetLayeredStateMachine :=
  if m.lifecycle ≠ .active ∨ m.motion ∈ [PetMotionState.dragging, .falling, .landing] then
    .error .stateTransition
  else
    .ok { m with
      motion := .idle, activity := .reminding, behaviors := { reminding := true }, epoch := m.epoch + 1 }

def finishReminding : Except PetError PetLayeredStateMachine :=
  if m.activity ≠ .reminding then .error .stateTransition
  else .ok m.restoreDefaultBehavior.bumpEpoch

def startBlinking : Except PetError PetLayeredStateMachine :=
  if m.lifecycle ≠ .active then .error .stateTransition
  else if m.motion ∈ [PetMotionState.dragging, .falling, .landing] then .ok m
  else if m.activity ∉ [PetActivityState.none, .thinking] then .ok m
  else if m.behaviors.blinking then .ok m
  else .ok { m with behaviors := { m.behaviors with blinking := true }, epoch := m.epoch + 1 }

def finishBlinking : PetLayeredStateMachine :=
  if m.behaviors.blinking then
    { m with behaviors := { m.behaviors with blinking := false }, epoch := m.epoch + 1 }
  else m

/-! Where each transition goes. -/

/-- A valid machine in the given lifecycle, motion, and activity. -/
structure At (m : PetLayeredStateMachine) (lifecycle : PetLifecycleState) (motion : PetMotionState)
    (activity : PetActivityState) : Prop where
  valid : m.Valid
  lifecycle : m.lifecycle = lifecycle
  motion : m.motion = motion
  activity : m.activity = activity

variable {m} {m' : PetLayeredStateMachine}

theorem Valid.at (h : m.Valid) : m.At m.lifecycle m.motion m.activity := ⟨h, rfl, rfl, rfl⟩

theorem releaseDrag_at (h : m.releaseDrag = .ok m') :
    m.motion = .dragging ∧ (m.lifecycle = .paused ∧ m'.At .paused .idle .none
      ∨ m.lifecycle = .active ∧ m'.At .active .falling .none) := by
  unfold releaseDrag at h
  split at h
  next hpaused =>
    cases h
    exact ⟨hpaused.2, .inl ⟨hpaused.1, ⟨by simp [Valid, validateLayeredState, clearActivity, hpaused.1],
      hpaused.1, rfl, rfl⟩⟩⟩
  next =>
    split at h
    next => cases h
    next hactive =>
      cases h
      simp only [not_or, not_not] at hactive
      exact ⟨hactive.2, .inr ⟨hactive.1, ⟨by simp [Valid, validateLayeredState, clearActivity, hactive.1],
        hactive.1, rfl, rfl⟩⟩⟩

theorem land_at (h : m.land = .ok m') : m'.At .active .landing .none := by
  unfold land at h
  split at h
  next => cases h
  next hactive =>
    cases h
    simp only [not_or, not_not] at hactive
    exact ⟨by simp [Valid, validateLayeredState, clearActivity, hactive.1], hactive.1, rfl, rfl⟩

theorem finishLanding_at (h : m.finishLanding = .ok m') : m'.At .active .idle .none := by
  unfold finishLanding at h
  split at h
  next => cases h
  next hactive =>
    cases h
    simp only [not_or, not_not] at hactive
    exact ⟨by simp [Valid, validateLayeredState, restoreDefaultBehavior, bumpEpoch, hactive.1],
      hactive.1, rfl, rfl⟩

theorem recoverFailedClose_at (h : m.recoverFailedClose = .ok m') :
    m.lifecycle = .closing ∧ m'.At .paused .idle .none := by
  unfold recoverFailedClose at h
  split at h
  next => cases h
  next hclosing =>
    cases h
    exact ⟨by simpa using hclosing, by simp [Valid, validateLayeredState, clearActivity], rfl, rfl, rfl⟩

theorem startWalking_at {direction : PetFacing} (hv : m.Valid) (h : m.startWalking direction = .ok m') :
    m'.At .active (if direction = .left then .walkingLeft else .walkingRight) .none := by
  unfold startWalking at h
  split at h
  next => cases h
  next hactive =>
    cases h
    simp only [not_or, not_not] at hactive
    refine ⟨?_, hactive.1, rfl, rfl⟩
    have hstruggle : m.behaviors.dragStruggle = false := by
      unfold Valid validateLayeredState at hv
      obtain ⟨hl, hr, hm⟩ := hactive
      simp only [List.mem_cons, List.not_mem_nil, or_false] at hm
      split at hv
      next hne => exact absurd hl hne
      next =>
        split at hv
        next => cases hv
        next =>
          obtain hm | hm | hm := hm <;> rw [hm] at hv
          · cases hact : m.activity <;> rw [hact] at hv <;> simp at hv <;> rw [hv]
          · simp at hv; rw [hv]
          · simp at hv; rw [hv]
    cases direction <;> simp [Valid, validateLayeredState, hactive.1, hstruggle]

/-! A transition that is not allowed raises a transition error. -/

theorem startWalking_error {direction : PetFacing}
    (h : m.startWalking direction = .error error) : error = .stateTransition := by
  unfold startWalking at h
  split at h
  next => exact (Except.error.inj h).symm
  next => cases h

theorem releaseDrag_error (h : m.releaseDrag = .error error) : error = .stateTransition := by
  unfold releaseDrag at h
  split at h
  next => cases h
  next =>
    split at h
    next => exact (Except.error.inj h).symm
    next => cases h

theorem land_error (h : m.land = .error error) : error = .stateTransition := by
  unfold land at h
  split at h
  next => exact (Except.error.inj h).symm
  next => cases h

theorem finishLanding_error (h : m.finishLanding = .error error) : error = .stateTransition := by
  unfold finishLanding at h
  split at h
  next => exact (Except.error.inj h).symm
  next => cases h

theorem recoverFailedClose_error (h : m.recoverFailedClose = .error error) : error = .stateTransition := by
  unfold recoverFailedClose at h
  split at h
  next => exact (Except.error.inj h).symm
  next => cases h

/-- Whether a pet that may blink does so now makes no difference to its layers. -/
theorem valid_blinking (blinking : Bool) (hv : m.Valid) (hactive : m.lifecycle = .active)
    (hmotion : m.motion ∉ [PetMotionState.dragging, .falling, .landing])
    (hactivity : m.activity ∈ [PetActivityState.none, .thinking]) :
    validateLayeredState m.lifecycle m.motion { m.behaviors with blinking } m.activity = true := by
  obtain ⟨lifecycle, motion, ⟨br, bl, th, re, dr⟩, facing, activity, epoch⟩ := m
  unfold Valid at hv
  unfold validateLayeredState at hv ⊢
  cases motion <;> cases activity <;> simp_all

/-- Starting to blink keeps the layers a state is classified by. -/
theorem startBlinking_at (hv : m.Valid) (h : m.startBlinking = .ok m') :
    m'.At m.lifecycle m.motion m.activity := by
  unfold startBlinking at h
  split at h
  next => cases h
  next hactive =>
    split at h
    next => cases h; exact hv.at
    next hmotion =>
      split at h
      next => cases h; exact hv.at
      next hactivity =>
        split at h
        next => cases h; exact hv.at
        next =>
          cases h
          have hv' := valid_blinking true hv (not_not.mp hactive) hmotion (not_not.mp hactivity)
          exact ⟨hv', rfl, rfl, rfl⟩

theorem startBlinking_active (hactive : m.lifecycle = .active) : ∃ m', m.startBlinking = .ok m' := by
  unfold startBlinking
  simp only [hactive, ne_eq, not_true_eq_false, if_false]
  split
  · exact ⟨_, rfl⟩
  · split
    · exact ⟨_, rfl⟩
    · split <;> exact ⟨_, rfl⟩

/-- Only a pet that may blink blinks. -/
theorem blinking_allowed (hv : m.Valid) (hb : m.behaviors.blinking = true) :
    m.lifecycle = .active ∧ m.motion ∉ [PetMotionState.dragging, .falling, .landing]
      ∧ m.activity ∈ [PetActivityState.none, .thinking] := by
  obtain ⟨lifecycle, motion, ⟨br, bl, th, re, dr⟩, facing, activity, epoch⟩ := m
  unfold Valid validateLayeredState at hv
  split at hv
  next => simp_all
  next => cases motion <;> cases activity <;> simp_all

/-- The end of a blink keeps the layers a state is classified by. -/
theorem finishBlinking_at (hv : m.Valid) : m.finishBlinking.At m.lifecycle m.motion m.activity := by
  unfold finishBlinking
  split
  next hb =>
    obtain ⟨hactive, hmotion, hactivity⟩ := blinking_allowed hv hb
    have hv' := valid_blinking false hv hactive hmotion hactivity
    exact ⟨hv', rfl, rfl, rfl⟩
  next => exact hv.at

end PetLayeredStateMachine

end ArkClaw.Pet
