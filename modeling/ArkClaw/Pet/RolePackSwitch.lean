import ArkClaw.Library.Program
import ArkClaw.Library.Runs
import ArkClaw.Pet.RolePack
import ArkClaw.Pet.Track0

/-!
# Switching role packs

A candidate is built away from the running pack and owns what its builders made. The coordinator publishes it only
after the old playback is contained, and only then closes the old pack. Building, publishing and closing may raise.
Resources are numbered in the order in which they are built; candidates are numbered as they are prepared. The world
records what is closed and what the host has published, in order.
-/

namespace ArkClaw.Pet

open ArkClaw.Library

structure RolePackCandidate where
  identity : ValidatedRolePackIdentity
  resources : List Nat
  transferred : Bool := false
  closed : Bool := false
deriving DecidableEq

structure ActiveRolePack where
  identity : ValidatedRolePackIdentity
  resources : List Nat
  closed : Bool := false
deriving DecidableEq

inductive RolePackSwitchOutcome where
  | switched | noOp | containmentFailed | publishFailed | relaxFailed
deriving DecidableEq, Repr

structure RolePackSwitchResult where
  outcome : RolePackSwitchOutcome
  active : ActiveRolePack
  playbackHealth : PlaybackHealth
deriving DecidableEq

/-- How the calls of one switch into its host end. -/
structure RolePackSwitchHost where
  playbackHealth : Except PetError PlaybackHealth
  quiesceRolePack : Except PetError ActionOutcome
  publishRolePack : Except PetError Unit
  confirmRelax : Except PetError ActionOutcome
  resumeAutonomous : Except PetError Unit

/-- What happens to resources and packs, as far as it shows. -/
inductive RolePackEvent where
  | closed (resource : Nat)
  | published (candidate : Nat)
deriving DecidableEq, Repr

/-- The coordinator with its active pack, and the candidates that have been prepared. -/
structure RolePackSwitching where
  active : ActiveRolePack
  candidates : List RolePackCandidate := []
  built : Nat
  events : List RolePackEvent := []
deriving DecidableEq

namespace RolePackSwitching

-- `closeRaises` tells of a resource whether closing it raises.
variable (closeRaises : Nat → Bool)

/-! ## Closing -/

def record (event : RolePackEvent) : Program RolePackSwitching Unit :=
  modify fun s => { s with events := s.events ++ [event] }

def closeResource (resource : Nat) : Program RolePackSwitching Unit := do
  record (.closed resource)
  if closeRaises resource then throw (.runtime "close failed")

/-- Close resources in their order; one that raises does not keep the others open. -/
def closeEach : List Nat → Program RolePackSwitching Unit
  | [] => pure ()
  | resource :: rest => do
    let _ : Except PetError Unit ← attempt (closeResource closeRaises resource)
    closeEach rest

/-! ## Candidates -/

/-- Call the builders in their order; tell what they made and whether all of them returned. -/
def build : List Bool → List Nat → Program RolePackSwitching (List Nat × Bool)
  | [], resources => pure (resources, true)
  | returns :: builders, resources => do
    if !returns then return (resources, false)
    else
      let s ← get
      set { s with built := s.built + 1 }
      build builders (resources ++ [s.built])

/-- Build a candidate off-path and contain every partial resource. -/
def prepare (identity : ValidatedRolePackIdentity) (builders : List Bool) : Program RolePackSwitching Nat := do
  let (resources, finished) ← build builders []
  if !finished then
    closeEach closeRaises resources.reverse
    throw (.runtime "role_pack_candidate_preparation_failed")
  else
    let s ← get
    set { s with candidates := s.candidates ++ [({ identity, resources } : RolePackCandidate)] }
    return s.candidates.length

def getCandidate (candidate : Nat) : Program RolePackSwitching RolePackCandidate := do
  match (← get).candidates[candidate]? with
  | some c => return c
  | none => throw .key

def setCandidate (candidate : Nat) (c : RolePackCandidate) : Program RolePackSwitching Unit :=
  modify fun s => { s with candidates := s.candidates.set candidate c }

def closeCandidate (candidate : Nat) : Program RolePackSwitching Unit := do
  let c ← getCandidate candidate
  if c.closed || c.transferred then return ()
  else
    setCandidate candidate { c with closed := true }
    closeEach closeRaises c.resources.reverse

def promote (candidate : Nat) : Program RolePackSwitching ActiveRolePack := do
  let c ← getCandidate candidate
  if c.closed || c.transferred then throw (.runtime "candidate ownership is unavailable")
  else
    setCandidate candidate { c with transferred := true }
    return { identity := c.identity, resources := c.resources }

/-- Close a pack that is active no longer. -/
def closeActive (pack : ActiveRolePack) : Program RolePackSwitching Unit :=
  if pack.closed then pure () else closeEach closeRaises pack.resources.reverse

/-! ## The switch -/

def result (host : RolePackSwitchHost) (outcome : RolePackSwitchOutcome) :
    Program RolePackSwitching RolePackSwitchResult := do
  let active := (← get).active
  let playbackHealth ← getOrRaise host.playbackHealth
  return { outcome, active, playbackHealth }

/-- Publish the candidate and take its ownership over. -/
def publish (host : RolePackSwitchHost) (candidate : Nat) : Program RolePackSwitching ActiveRolePack := do
  getOrRaise host.publishRolePack
  record (.published candidate)
  promote candidate

/-- The published pack becomes active, and only then the old one is closed. -/
def takeOver (host : RolePackSwitchHost) (active : ActiveRolePack) :
    Program RolePackSwitching RolePackSwitchResult := do
  let old := (← get).active
  modify fun s => { s with active }
  closeActive closeRaises old
  let relax ← getOrRaise host.confirmRelax
  if relax ≠ .accepted then result host .relaxFailed
  else
    getOrRaise host.resumeAutonomous
    result host .switched

/-- Publish a prepared candidate only after the old playback is contained. -/
def switch (host : RolePackSwitchHost) (candidate : Nat) : Program RolePackSwitching RolePackSwitchResult := do
  let c ← getCandidate candidate
  if c.identity = (← get).active.identity then
    closeCandidate closeRaises candidate
    result host .noOp
  else
    let containment ← getOrRaise host.quiesceRolePack
    if containment ≠ .cleared then
      closeCandidate closeRaises candidate
      result host .containmentFailed
    else
      let published : Except PetError ActiveRolePack ← attempt (publish host candidate)
      match published with
      | .error _ =>
        closeCandidate closeRaises candidate
        result host .publishFailed
      | .ok active => takeOver closeRaises host active

/-! ## Operations -/

/-- What a caller does: prepare a candidate, switch to one, or close one it will not switch to. -/
inductive Operation where
  | prepare (identity : ValidatedRolePackIdentity) (builders : List Bool)
  | switch (host : RolePackSwitchHost) (candidate : Nat)
  | closeCandidate (candidate : Nat)

def Operation.program : Operation → Program RolePackSwitching Unit
  | .prepare identity builders => (fun _ => ()) <$> RolePackSwitching.prepare closeRaises identity builders
  | .switch host candidate => (fun _ => ()) <$> RolePackSwitching.switch closeRaises host candidate
  | .closeCandidate candidate => RolePackSwitching.closeCandidate closeRaises candidate

/-- The state an operation leaves behind, whether it returned or raised. -/
def operate (s : RolePackSwitching) (op : Operation) : RolePackSwitching := stateAfter (op.program closeRaises) s

end RolePackSwitching

end ArkClaw.Pet
