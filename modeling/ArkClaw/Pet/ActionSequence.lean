import Mathlib.Algebra.Order.Ring.Rat
import Mathlib.Tactic.NormNum

/-!
# Actions, sequences, the catalog, and the registry

The vocabulary of Track 0: logical action names, the named sequences of steps, the frozen catalog that
gives each sequence its steps and its request policy, and the registry that binds a logical action to
a physical animation. What a constructor of the source checks is a field here, so a step with a zero
speed, a loop index that names no loop, or a registry with two actions on one physical name cannot be
built.
-/

namespace ArkClaw.Pet

/-- Logical animation names shared by the application and the Spine asset. -/
inductive PetActionName where
  | idle | breathing | blink | walkLeft | walkRight | runLeft | runRight | sitDown | sitIdle
  | sleepStart | sleepLoop | sleepEnd | wave | happy | think | read | type | remind | confused | angry
  | dragStart | dragLoop | dragEnd | landing | returnIdle
deriving DecidableEq, Repr

namespace PetActionName

/-- Every logical action. -/
def all : List PetActionName :=
  [.idle, .breathing, .blink, .walkLeft, .walkRight, .runLeft, .runRight, .sitDown, .sitIdle, .sleepStart,
    .sleepLoop, .sleepEnd, .wave, .happy, .think, .read, .type, .remind, .confused, .angry, .dragStart,
    .dragLoop, .dragEnd, .landing, .returnIdle]

/-- The text of an action, which is also its name in the approved asset. -/
def value : PetActionName → String
  | .idle => "idle" | .breathing => "breathing" | .blink => "blink" | .walkLeft => "walk_left"
  | .walkRight => "walk_right" | .runLeft => "run_left" | .runRight => "run_right"
  | .sitDown => "sit_down" | .sitIdle => "sit_idle" | .sleepStart => "sleep_start"
  | .sleepLoop => "sleep_loop" | .sleepEnd => "sleep_end" | .wave => "wave" | .happy => "happy"
  | .think => "think" | .read => "read" | .type => "type" | .remind => "remind"
  | .confused => "confused" | .angry => "angry" | .dragStart => "drag_start"
  | .dragLoop => "drag_loop" | .dragEnd => "drag_end" | .landing => "landing"
  | .returnIdle => "return_idle"

theorem find_value (a : PetActionName) : all.find? (·.value == a.value) = some a := by
  cases a <;> decide

theorem value_injective : Function.Injective value := by
  intro a b h
  have ha := find_value a
  rw [h, find_value b] at ha
  exact (Option.some.inj ha).symm

theorem value_ne_empty (a : PetActionName) : a.value ≠ "" := by
  cases a <;> decide

end PetActionName

/-- Named application-level action sequences. -/
inductive SequenceName where
  | idle | breathing | blink | walkLeft | walkRight | runLeft | runRight | sit | sleep | wave | happy
  | think | read | type | remind | confused | angry | dragHold | dragRelease | fallRecovery | landing
  | productionRelax | productionMoveLeft | productionMoveRight | productionSit | productionSleep
  | productionSpecial | productionInteract | productionMotionFallback
deriving DecidableEq, Repr

/-- Behavior after the final step of a sequence completes. -/
inductive SequenceTerminal where
  | complete | hold | idle
deriving DecidableEq, Repr

/-- Fixed request priority classes. -/
inductive InterruptClass where
  | idle | normalAction | strictAction | userInteraction | motionSafety | systemShutdown
deriving DecidableEq, Repr

/-- The integer value of a class: higher values outrank lower ones. -/
def InterruptClass.rank : InterruptClass → Nat
  | .idle => 0
  | .normalAction => 100
  | .strictAction => 200
  | .userInteraction => 300
  | .motionSafety => 400
  | .systemShutdown => 500

/-- How confidently the application knows the renderer's Track 0 state. -/
inductive PlaybackHealth where
  | healthy | degraded | unknown
deriving DecidableEq, Repr

instance tracks_neZero : NeZero 3 := ⟨by decide⟩

/-- A number that is no zero. -/
def Nonzero : Nat → Prop
  | 0 => False
  | _ + 1 => True

/-- A number that is written out is positive. -/
theorem ofNat_pos {n : Nat} (h : Nonzero n) : (0 : Rat) < OfNat.ofNat n := by
  cases n with
  | zero => cases h
  | succ n => exact Rat.natCast_pos.mpr n.succ_pos

/-- One immutable playback instruction inside a sequence. -/
structure PetActionStep where
  action : PetActionName
  loop : Bool
  speed : Rat := 1
  mixSeconds : Option Rat := none
  speed_pos : 0 < speed := by norm_num
  mix_nonneg : ∀ m ∈ mixSeconds, 0 ≤ m := by norm_num
deriving DecidableEq

/-- Ordered steps plus the sole loop and terminal control metadata. -/
structure PetActionSequence where
  steps : List PetActionStep
  loopIndex : Option Nat := none
  loopExitIndex : Option Nat := none
  terminal : SequenceTerminal := .complete
  steps_nonempty : 0 < steps.length := by simp
  exit_requires_loop : loopIndex = none → loopExitIndex = none := by simp
  loop_loops : ∀ i ∈ loopIndex, (steps[i]?.any (·.loop)) = true := by simp
  exit_in_range : ∀ i ∈ loopExitIndex, i < steps.length := by simp
deriving DecidableEq

/-- A standard sequence and its stable request policy. -/
structure SequenceCatalogEntry where
  track : Fin 3
  sequence : PetActionSequence
  interruptionClass : InterruptClass
  isProtected : Bool := false
  strict_protected : interruptionClass = .strictAction → isProtected = true := by simp

/-- A catalog step: speed one, and the catalog's mix of 0.12 seconds. -/
def step (action : PetActionName) (loop : Bool := false) : PetActionStep :=
  { action, loop, mixSeconds := some (12 / 100) }

@[simp] theorem step_action (action : PetActionName) (loop : Bool) : (step action loop).action = action := rfl

@[simp] theorem step_loop (action : PetActionName) (loop : Bool) : (step action loop).loop = loop := rfl

/-- The steps shared by every sequence that returns to idle. -/
def returnIdleStep : PetActionStep := step .returnIdle

/-- A looping step, then the return to idle. -/
def loopThenReturn (action : PetActionName) : PetActionSequence :=
  { steps := [step action true, returnIdleStep], loopIndex := some 0, loopExitIndex := some 1
    terminal := .idle }

/-- One step, then the return to idle. -/
def onceThenReturn (action : PetActionName) : PetActionSequence :=
  { steps := [step action, returnIdleStep], terminal := .idle }

/-- A single looping step that only a cancellation ends. -/
def heldLoop (action : PetActionName) : PetActionSequence :=
  { steps := [step action true], loopIndex := some 0, terminal := .hold }

/-- The frozen catalog. -/
def sequenceCatalog : SequenceName → SequenceCatalogEntry
  | .idle => { track := 0, sequence := heldLoop .idle, interruptionClass := .idle }
  | .breathing => { track := 1, sequence := heldLoop .breathing, interruptionClass := .normalAction }
  | .blink => { track := 2, sequence := { steps := [step .blink] }, interruptionClass := .normalAction }
  | .walkLeft => { track := 0, sequence := loopThenReturn .walkLeft, interruptionClass := .normalAction }
  | .walkRight => { track := 0, sequence := loopThenReturn .walkRight, interruptionClass := .normalAction }
  | .runLeft => { track := 0, sequence := loopThenReturn .runLeft, interruptionClass := .normalAction }
  | .runRight => { track := 0, sequence := loopThenReturn .runRight, interruptionClass := .normalAction }
  | .sit =>
    { track := 0
      sequence :=
        { steps := [step .sitDown, step .sitIdle true, returnIdleStep]
          loopIndex := some 1, loopExitIndex := some 2, terminal := .idle }
      interruptionClass := .normalAction }
  | .sleep =>
    { track := 0
      sequence :=
        { steps := [step .sleepStart, step .sleepLoop true, step .sleepEnd, returnIdleStep]
          loopIndex := some 1, loopExitIndex := some 2, terminal := .idle }
      interruptionClass := .normalAction }
  | .wave =>
    { track := 0, sequence := onceThenReturn .wave, interruptionClass := .strictAction, isProtected := true }
  | .happy =>
    { track := 0, sequence := onceThenReturn .happy, interruptionClass := .strictAction, isProtected := true }
  | .think => { track := 0, sequence := onceThenReturn .think, interruptionClass := .normalAction }
  | .read => { track := 0, sequence := loopThenReturn .read, interruptionClass := .normalAction }
  | .type => { track := 0, sequence := loopThenReturn .type, interruptionClass := .normalAction }
  | .remind => { track := 0, sequence := onceThenReturn .remind, interruptionClass := .normalAction }
  | .confused =>
    { track := 0, sequence := onceThenReturn .confused, interruptionClass := .strictAction, isProtected := true }
  | .angry =>
    { track := 0, sequence := onceThenReturn .angry, interruptionClass := .strictAction, isProtected := true }
  | .dragHold =>
    { track := 0
      sequence :=
        { steps := [step .dragStart, step .dragLoop true], loopIndex := some 1, terminal := .hold }
      interruptionClass := .userInteraction }
  | .dragRelease =>
    { track := 0, sequence := { steps := [step .dragEnd], terminal := .hold }
      interruptionClass := .userInteraction }
  | .fallRecovery =>
    { track := 0, sequence := { steps := [step .dragEnd], terminal := .hold }
      interruptionClass := .motionSafety }
  | .landing => { track := 0, sequence := onceThenReturn .landing, interruptionClass := .motionSafety }
  | .productionRelax => { track := 0, sequence := heldLoop .idle, interruptionClass := .normalAction }
  | .productionMotionFallback =>
    { track := 0, sequence := heldLoop .idle, interruptionClass := .userInteraction }
  | .productionMoveLeft => { track := 0, sequence := heldLoop .walkLeft, interruptionClass := .normalAction }
  | .productionMoveRight => { track := 0, sequence := heldLoop .walkRight, interruptionClass := .normalAction }
  | .productionSit => { track := 0, sequence := heldLoop .sitIdle, interruptionClass := .normalAction }
  | .productionSleep => { track := 0, sequence := heldLoop .sleepLoop, interruptionClass := .normalAction }
  | .productionSpecial =>
    { track := 0, sequence := { steps := [step .wave] }, interruptionClass := .strictAction, isProtected := true }
  | .productionInteract =>
    { track := 0, sequence := { steps := [step .happy] }, interruptionClass := .strictAction, isProtected := true }

/-- No catalog entry has the shutdown class: shutdown clears the track instead of playing. -/
theorem catalog_not_shutdown (name : SequenceName) :
    (sequenceCatalog name).interruptionClass ≠ .systemShutdown := by
  cases name <;> decide

/-! ## The registry -/

/-- A logical action and its case-sensitive renderer name. -/
structure AnimationBinding where
  action : PetActionName
  physicalName : String
  track : Fin 3
  sourceDurationSeconds : Option Rat := none
  physical_nonempty : physicalName ≠ "" := by decide
  duration_pos : ∀ d ∈ sourceDurationSeconds, 0 < d := by decide

/-- The track the registry contract expects an action on. -/
def expectedTrack (action : PetActionName) : Fin 3 :=
  if action = .breathing then 1 else if action = .blink then 2 else 0

/-- Validated immutable logical-to-physical bindings. Only the two walking actions may share a
physical name. -/
structure AnimationRegistry where
  resolve : PetActionName → AnimationBinding
  keys_match : ∀ a, (resolve a).action = a
  physical_unique : ∀ a b, (resolve a).physicalName = (resolve b).physicalName →
    a = b ∨ (a ∈ [PetActionName.walkLeft, .walkRight] ∧ b ∈ [PetActionName.walkLeft, .walkRight])
  tracks_expected : ∀ a, (resolve a).track = expectedTrack a

/-- Every action bound under its own text, with the given source durations. -/
def identityRegistry (durations : PetActionName → Option Rat)
    (durations_pos : ∀ a, ∀ d ∈ durations a, 0 < d) : AnimationRegistry where
  resolve a :=
    { action := a, physicalName := a.value, track := expectedTrack a, sourceDurationSeconds := durations a
      physical_nonempty := a.value_ne_empty, duration_pos := durations_pos a }
  keys_match _ := rfl
  physical_unique _ _ h := .inl (PetActionName.value_injective h)
  tracks_expected _ := rfl

/-- The exact case-sensitive identity registry for the approved asset: no durations. -/
def defaultAnimationRegistry : AnimationRegistry := identityRegistry (fun _ => none) (by simp)

/-- The identity registry with a duration of one second for each of the given actions. -/
def secondsRegistry (actions : List PetActionName) : AnimationRegistry :=
  identityRegistry (fun a => if a ∈ actions then some 1 else none) (by
    intro a d hd
    split at hd
    next => obtain rfl := Option.some.inj hd; norm_num
    next => cases hd)

/-- Why a registry refuses a sequence. -/
inductive AnimationRegistryError where
  | anotherTrack
  | durationMetadataRequired
deriving DecidableEq, Repr

/-- The text of a registry error. -/
def AnimationRegistryError.message : AnimationRegistryError → String
  | .anotherTrack => "sequence contains an action for another track"
  | .durationMetadataRequired => "source duration metadata is required"

namespace AnimationRegistry

/-- Every step of the sequence is bound on the given track. -/
def validateTrackSequence (registry : AnimationRegistry) (track : Fin 3) (sequence : PetActionSequence) :
    Except AnimationRegistryError Unit :=
  if sequence.steps.any fun s => decide ((registry.resolve s.action).track ≠ track) then
    .error .anotherTrack
  else .ok ()

/-- The entry's sequence stays on its track and, if asked, every step has a source duration. -/
def validateSequence (registry : AnimationRegistry) (entry : SequenceCatalogEntry)
    (requireDurationMetadata : Bool) : Except AnimationRegistryError Unit := do
  registry.validateTrackSequence entry.track entry.sequence
  if requireDurationMetadata
      && entry.sequence.steps.any fun s => (registry.resolve s.action).sourceDurationSeconds.isNone then
    .error .durationMetadataRequired
  else .ok ()

/-- A sequence the registry accepts with durations has a duration for each of its steps. -/
theorem duration_of_validateSequence {registry : AnimationRegistry} {entry : SequenceCatalogEntry}
    (h : registry.validateSequence entry true = .ok ()) :
    ∀ s ∈ entry.sequence.steps, (registry.resolve s.action).sourceDurationSeconds.isSome = true := by
  intro s hs
  unfold validateSequence at h
  cases ht : registry.validateTrackSequence entry.track entry.sequence with
  | error e => rw [ht] at h; cases h
  | ok u =>
    rw [ht] at h
    have hany := h
    simp only [bind, Except.bind, Bool.true_and] at hany
    split at hany
    next => cases hany
    next hnone =>
      by_contra hs'
      refine hnone (List.any_eq_true.mpr ⟨s, hs, ?_⟩)
      cases hd : (registry.resolve s.action).sourceDurationSeconds with
      | none => rfl
      | some d => exact absurd (by rw [hd]; rfl) hs'

end AnimationRegistry

end ArkClaw.Pet
