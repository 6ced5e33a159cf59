import ArkClaw.Domain.Identifiers
import Mathlib.Algebra.Order.Field.Rat

/-!
# The identity of a role pack

What of a manifest identifies a role pack: its version, its hashes, the animations it names, and how it is framed.
Hashes that are none, names that are empty and a frame without a scale cannot be built.
-/

namespace ArkClaw.Pet

open ArkClaw.Library
open ArkClaw.Domain (isLowerHex)

inductive MoveDirectionPolicy where
  | mirrorMove
deriving DecidableEq, Repr

/-- A SHA-256 digest as small hexadecimal digits. -/
def isSha256 (value : Text) : Bool := decide (value.length = 64) && value.all isLowerHex

structure RolePackHashes where
  skeleton : Text
  atlas : Text
  texture : Text
  valid : isSha256 skeleton = true ∧ isSha256 atlas = true ∧ isSha256 texture = true
deriving DecidableEq

@[ext] structure RoleAnimationNames where
  relax : Text
  move : Option Text := none
  sit : Option Text := none
  sleep : Option Text := none
  special : Option Text := none
  interact : Option Text := none
  relax_named : relax ≠ []
  named : ∀ name ∈ [move, sit, sleep, special, interact], name ≠ some []

instance : DecidableEq RoleAnimationNames := fun _ _ => decidable_of_iff _ RoleAnimationNames.ext_iff.symm

@[ext] structure RolePackFraming where
  scale : Rat
  xOffset : Rat
  footBaseline : Rat
  scale_pos : 0 < scale

instance : DecidableEq RolePackFraming := fun _ _ => decidable_of_iff _ RolePackFraming.ext_iff.symm

structure ValidatedRolePackIdentity where
  schemaVersion : Int
  packId : Text
  spineVersion : Text
  expectedSha256 : RolePackHashes
  animations : RoleAnimationNames
  directionPolicy : MoveDirectionPolicy
  framing : RolePackFraming
deriving DecidableEq

end ArkClaw.Pet
