import ArkClaw.Library.Text

/-!
# Identifiers

Providers, profiles and credentials are named by texts of a fixed shape. A provider identifier is a short word
of small letters, digits and underscores. The other two are opaque: reserved names of built-in records, or the
canonical spelling of a random UUID.
-/

namespace ArkClaw.Domain

open ArkClaw.Library

def isLower (c : CodePoint) : Bool := decide (0x61 ≤ c.val ∧ c.val ≤ 0x7A)

def isDigit (c : CodePoint) : Bool := decide (0x30 ≤ c.val ∧ c.val ≤ 0x39)

/-- A digit of `str(UUID)`: hexadecimal, with small letters. -/
def isLowerHex (c : CodePoint) : Bool := isDigit c || decide (0x61 ≤ c.val ∧ c.val ≤ 0x66)

/-- `^[a-z][a-z0-9_]{0,63}$`. -/
def isProviderId : Text → Bool
  | [] => false
  | c :: rest => isLower c && decide (rest.length ≤ 63) && rest.all fun c => isLower c || isDigit c || c = 0x5F

/-- Validated stable provider registration identifier. -/
structure ProviderId where
  value : Text
  valid : isProviderId value = true
deriving DecidableEq

/-- The characters of the canonical spelling of a version 4 UUID, place by place. -/
def uuid4Shape : List (CodePoint → Bool) :=
  let hex := List.replicate 4 isLowerHex
  let dash : CodePoint → Bool := fun c => c = 0x2D
  let version : CodePoint → Bool := fun c => c = 0x34
  let variant : CodePoint → Bool := fun c => c = 0x38 || c = 0x39 || c = 0x61 || c = 0x62
  hex ++ hex ++ [dash] ++ hex ++ [dash, version] ++ hex.drop 1 ++ [dash, variant] ++ hex.drop 1 ++ [dash]
    ++ hex ++ hex ++ hex

/-- The text parses as a UUID of version 4 and is its canonical spelling. -/
def isCanonicalUuid4 (s : Text) : Bool :=
  decide (s.length = uuid4Shape.length) && (s.zip uuid4Shape).all fun (c, allowed) => allowed c

def reservedProfileIds : List Text :=
  [lit "builtin-fake-default", lit "builtin-openai-default", lit "builtin-deepseek-default",
    lit "builtin-ollama-default"]

def reservedCredentialIds : List Text :=
  [lit "builtin-openai-default", lit "builtin-openai-manual-test", lit "builtin-deepseek-manual-test"]

/-- `_validate_opaque_id`: a reserved name or a canonical random UUID. -/
def validateOpaqueId (value : Text) (reserved : List Text) : Bool :=
  decide (value ≠ [] ∧ value.length ≤ 64) && (decide (value ∈ reserved) || isCanonicalUuid4 value)

/-- Opaque built-in or application-generated profile identifier. -/
structure ProfileId where
  value : Text
  valid : validateOpaqueId value reservedProfileIds = true
deriving DecidableEq

/-- Opaque identifier resolved to a credential target by infrastructure. -/
structure CredentialId where
  value : Text
  valid : validateOpaqueId value reservedCredentialIds = true
deriving DecidableEq

def ProviderId.fake : ProviderId := ⟨lit "fake", by decide⟩
def ProviderId.openai : ProviderId := ⟨lit "openai", by decide⟩
def ProviderId.deepseek : ProviderId := ⟨lit "deepseek", by decide⟩
def ProviderId.ollama : ProviderId := ⟨lit "ollama", by decide⟩

def ProfileId.fakeDefault : ProfileId := ⟨lit "builtin-fake-default", by decide⟩
def ProfileId.openaiDefault : ProfileId := ⟨lit "builtin-openai-default", by decide⟩
def ProfileId.deepseekDefault : ProfileId := ⟨lit "builtin-deepseek-default", by decide⟩
def ProfileId.ollamaDefault : ProfileId := ⟨lit "builtin-ollama-default", by decide⟩

def CredentialId.openaiDefault : CredentialId := ⟨lit "builtin-openai-default", by decide⟩
def CredentialId.deepseekDefault : CredentialId := ⟨lit "00000000-0000-4000-8000-000000000001", by decide⟩
def CredentialId.openaiManualTest : CredentialId := ⟨lit "builtin-openai-manual-test", by decide⟩
def CredentialId.deepseekManualTest : CredentialId := ⟨lit "builtin-deepseek-manual-test", by decide⟩

end ArkClaw.Domain
