import ArkClaw.Pet.ProductionActions

/-!
# The autonomous action scheduler

Pure evaluation of boundary callbacks: the scheduler watches one playback, consumes each of its boundaries
once, and proposes at most one low-authority action. Its random source is an environment whose draws are
numbered, so a program of the scheduler runs over the number of draws made so far.
-/

namespace ArkClaw.Pet

open ArkClaw.Library

/-- A random source, told apart by the number of the draw. -/
structure RandomSource where
  uniform : Nat → Rat → Rat → Rat
  randrange : Nat → Nat → Nat
  uniform_mem : ∀ n minimum maximum, minimum ≤ maximum →
    minimum ≤ uniform n minimum maximum ∧ uniform n minimum maximum ≤ maximum
  randrange_lt : ∀ n stop, 0 < stop → randrange n stop < stop

namespace RandomSource

def drawUniform (rng : RandomSource) (minimum maximum : Rat) : Program Nat Rat := do
  let n ← get
  set (n + 1)
  return rng.uniform n minimum maximum

def drawRandrange (rng : RandomSource) (stop : Nat) : Program Nat Nat := do
  let n ← get
  set (n + 1)
  return rng.randrange n stop

/-- The source whose every draw is the lowest it may be. -/
def lowest : RandomSource where
  uniform _ minimum _ := minimum
  randrange _ _ := 0
  uniform_mem _ _ _ h := ⟨le_refl _, h⟩
  randrange_lt _ _ h := h

end RandomSource

inductive AutonomousState where
  | relax | sit | sleep | moveLeft | moveRight | special
deriving DecidableEq, Repr

def actionByState : AutonomousState → ProductionAction
  | .relax => .relax
  | .sit => .sit
  | .sleep => .sleep
  | .moveLeft => .moveLeft
  | .moveRight => .moveRight
  | .special => .special

/-- The state of an action; an interaction has none. -/
def autonomousStateForAction : ProductionAction → Except PetError AutonomousState
  | .relax => .ok .relax
  | .sit => .ok .sit
  | .sleep => .ok .sleep
  | .moveLeft => .ok .moveLeft
  | .moveRight => .ok .moveRight
  | .special => .ok .special
  | .interact => .error .key

/-- Transition weights out of each state, in the order the ticket walks them. -/
def weights : AutonomousState → Option (List (AutonomousState × Nat))
  | .relax => some [(.relax, 41), (.sit, 20), (.sleep, 10), (.moveLeft, 12), (.moveRight, 12), (.special, 5)]
  | .sit => some [(.relax, 35), (.sit, 40), (.sleep, 20), (.moveLeft, 2), (.moveRight, 3), (.special, 0)]
  | .sleep => some [(.relax, 10), (.sit, 15), (.sleep, 75), (.moveLeft, 0), (.moveRight, 0), (.special, 0)]
  | .moveLeft =>
    some [(.relax, 45), (.sit, 10), (.sleep, 0), (.moveLeft, 25), (.moveRight, 20), (.special, 0)]
  | .moveRight =>
    some [(.relax, 45), (.sit, 10), (.sleep, 0), (.moveLeft, 20), (.moveRight, 25), (.special, 0)]
  | .special => none

/-- How long a state dwells before it may change. -/
def dwellRanges : AutonomousState → Option (Rat × Rat)
  | .relax => some (8, 20)
  | .moveLeft | .moveRight => some (4, 10)
  | .sit => some (15, 35)
  | .sleep => some (30, 90)
  | .special => none

structure AutonomousSchedulerState where
  lastCommittedState : AutonomousState
  enteredAt : Rat
  eligibilityStartedAt : Rat
  dwellTargetSeconds : Option Rat
  playbackGeneration : Option Nat
  playbackToken : Option ObjectId
  lastConsumedBoundaryIndex : Int
  proposalEligible : Bool
  consecutiveStays : Nat
deriving DecidableEq

structure AutonomousBoundaryEvent where
  generation : Int
  playbackToken : ObjectId
  boundaryIndex : Int
  observedAt : Rat
  generation_nonneg : 0 ≤ generation
  boundary_pos : 0 < boundaryIndex

/-- The constructor of a boundary event, with the error it raises. -/
def AutonomousBoundaryEvent.make (generation : Int) (playbackToken : ObjectId) (boundaryIndex : Int)
    (observedAt : Rat) : Except PetError AutonomousBoundaryEvent :=
  if h : 0 ≤ generation ∧ 0 < boundaryIndex then
    .ok { generation, playbackToken, boundaryIndex, observedAt, generation_nonneg := h.1, boundary_pos := h.2 }
  else .error (.value "boundary identity is invalid")

structure AutonomousRuntimeSnapshot where
  now : Rat
  executionMode : AutonomousExecutionMode
  capabilities : List ProductionAction

/-- What an evaluation decided: a proposal and its intent stand together, and staying has neither. -/
structure AutonomousSchedulerDecision where
  state : AutonomousSchedulerState
  proposedState : Option AutonomousState := none
  intent : Option ActionIntent := none
  stay : Bool := false
  together : proposedState.isNone = intent.isNone := by rfl
  stay_alone : stay = true → intent = none := by simp

namespace AutonomousActionScheduler

variable (rng : RandomSource)

def sampleDwell (state : AutonomousState) : Program Nat (Option Rat) :=
  match dwellRanges state with
  | none => return none
  | some (minimum, maximum) => some <$> rng.drawUniform minimum maximum

/-- Watch a playback in a state that was just committed. -/
def enter (state : AutonomousState) (enteredAt : Rat) (playbackGeneration : Option Nat)
    (playbackToken : Option ObjectId) : Program Nat AutonomousSchedulerState := do
  let dwellTargetSeconds ← sampleDwell rng state
  return {
    lastCommittedState := state, enteredAt, eligibilityStartedAt := enteredAt, dwellTargetSeconds
    playbackGeneration, playbackToken, lastConsumedBoundaryIndex := 0, proposalEligible := false
    consecutiveStays := 0 }

/-- The event is the watched playback's, and its boundary was not consumed yet. -/
def matchesNewBoundary (state : AutonomousSchedulerState) (event : AutonomousBoundaryEvent) : Bool :=
  state.playbackGeneration.map (fun g => (g : Int)) = some event.generation
    ∧ state.playbackToken = some event.playbackToken
    ∧ state.lastConsumedBoundaryIndex < event.boundaryIndex

/-- The destination the ticket falls on. -/
def pickWeighted (ticket : Nat) : Nat → List (AutonomousState × Nat) → Option AutonomousState
  | _, [] => none
  | cumulative, (destination, weight) :: rest =>
    if ticket < cumulative + weight then some destination
    else pickWeighted ticket (cumulative + weight) rest

def selectDestination (current : AutonomousState) (capabilities : List ProductionAction)
    (excludeStay : Bool) : Program Nat (Option AutonomousState) :=
  match weights current with
  | none => return none
  | some row => do
    let available := row.filter fun (destination, weight) =>
      0 < weight ∧ actionByState destination ∈ capabilities ∧ (!excludeStay ∨ destination ≠ current)
    let total := (available.map Prod.snd).sum
    if total = 0 then
      return if ProductionAction.relax ∈ capabilities then some .relax else none
    else
      let ticket ← rng.drawRandrange total
      match pickWeighted ticket 0 available with
      | some destination => return some destination
      | none => throw (.assertion "weighted selection did not resolve")

/-- The boundary is consumed; where nothing is due, nothing else changes. -/
def consume (state : AutonomousSchedulerState) (event : AutonomousBoundaryEvent) : AutonomousSchedulerState :=
  { state with lastConsumedBoundaryIndex := event.boundaryIndex, proposalEligible := false }

/-- The dwell is over, or staying has lasted too long. -/
def proposalDue (state : AutonomousSchedulerState) (event : AutonomousBoundaryEvent) : Bool :=
  let livenessDue :=
    state.lastCommittedState = .relax ∧ state.eligibilityStartedAt + 60 ≤ event.observedAt
  let nextAfterTwoStays := 2 ≤ state.consecutiveStays
  match state.dwellTargetSeconds with
  | none => false
  | some dwell => livenessDue ∨ nextAfterTwoStays ∨ state.enteredAt + dwell ≤ event.observedAt

/-- What a due boundary turns into: nothing, another stay, or a proposal under a new request token. -/
def proposeDestination (state : AutonomousSchedulerState) (event : AutonomousBoundaryEvent)
    (requestToken : ObjectId) : Option AutonomousState → Program Nat AutonomousSchedulerDecision
  | none => return { state := consume state event }
  | some destination =>
    if destination = state.lastCommittedState then do
      let dwellTargetSeconds ← sampleDwell rng destination
      return {
        state :=
          { consume state event with
            enteredAt := event.observedAt, dwellTargetSeconds
            consecutiveStays := state.consecutiveStays + 1 }
        stay := true }
    else
      return {
        state := { consume state event with proposalEligible := true }
        proposedState := some destination
        intent := some
          { action := actionByState destination, origin := .autonomous, source := .scheduler
            requestToken, authority := scheduler_authority } }

/-- Evaluate one callback against the watched playback. -/
def evaluate (state : AutonomousSchedulerState) (snapshot : AutonomousRuntimeSnapshot)
    (event : Option AutonomousBoundaryEvent) (requestToken : ObjectId) :
    Program Nat AutonomousSchedulerDecision :=
  if snapshot.executionMode ≠ .autonomous then
    return { state := { state with proposalEligible := false } }
  else
    match event with
    | none => return { state }
    | some event =>
      if !matchesNewBoundary state event then return { state }
      else if !proposalDue state event then return { state := consume state event }
      else do
        let livenessDue := state.lastCommittedState = .relax
          ∧ state.eligibilityStartedAt + 60 ≤ event.observedAt
        let destination ← selectDestination rng state.lastCommittedState snapshot.capabilities
          (2 ≤ state.consecutiveStays ∨ livenessDue)
        proposeDestination rng state event requestToken destination

def commitAccepted (decision : AutonomousSchedulerDecision) (committedAt : Rat)
    (playbackGeneration : Nat) (playbackToken : ObjectId) : Program Nat AutonomousSchedulerState :=
  match decision.proposedState with
  | none => throw (.value "decision has no proposed destination")
  | some destination => enter rng destination committedAt (some playbackGeneration) (some playbackToken)

def reject (decision : AutonomousSchedulerDecision) (rejectedAt : Rat) : Program Nat AutonomousSchedulerState :=
  match decision.proposedState with
  | none => throw (.value "decision has no proposed destination")
  | some _ => do
    let dwellTargetSeconds ← sampleDwell rng decision.state.lastCommittedState
    return {
      decision.state with enteredAt := rejectedAt, dwellTargetSeconds, proposalEligible := false }

end AutonomousActionScheduler

end ArkClaw.Pet
