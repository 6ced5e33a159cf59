import ArkClaw.Domain.Identifiers

/-!
# Provider profiles and the policy that builds them

A profile binds a provider to a model and a credential. Callers choose the name, the model and the credential
only: the closed policy fixes the rest per provider, and a stored profile that differs from what the policy
builds from its own fields is refused.
-/

namespace ArkClaw.Domain

open ArkClaw.Library

/-- Wire protocols implemented by provider adapters. -/
inductive ApiProtocol where
  | internal | responses | chatCompletions | ollamaChat
deriving DecidableEq, Repr

/-- How a provider continues a previous turn. -/
inductive ContinuationMode where
  | none | replayMessages | replayProviderItems | serverReference
deriving DecidableEq, Repr

/-- Capabilities reported by a provider adapter. -/
structure ProviderCapabilities where
  streaming : Bool := true
  tools : Bool := false
  embeddings : Bool := false
  continuationMode : ContinuationMode := .none
  protocol : ApiProtocol := .internal
deriving DecidableEq, Repr

/-- Non-sensitive authorization metadata for one credential identifier. -/
structure CredentialBinding where
  credentialId : CredentialId
  providerId : ProviderId
  allowedOrigin : Text
  displayName : Text
deriving DecidableEq

/-- Non-sensitive configuration that binds an adapter to a credential. -/
structure ProviderProfile where
  profileId : ProfileId
  displayName : Text
  providerId : ProviderId
  protocol : ApiProtocol
  baseUrl : Option Text
  model : Text
  credentialId : Option CredentialId
  capabilities : ProviderCapabilities
  enabled : Bool := true
deriving DecidableEq

/-- What the construction of a profile raises. -/
inductive ProfileError where
  | policy (message : String)
  | value (message : String)
deriving DecidableEq, Repr

/-- `__post_init__`; the origins of the policy are normalized already. -/
def CredentialBinding.create (b : CredentialBinding) : Except ProfileError CredentialBinding :=
  if b.displayName.Blank ∨ 128 < b.displayName.length then
    .error (.value "display_name must be 1 to 128 characters")
  else .ok { b with displayName := b.displayName.strip }

namespace ProviderProfile

/-- `__post_init__`: the checks a profile passes on construction, and the texts it is stored with. The base
URLs of the policy are normalized already. -/
def create (p : ProviderProfile) : Except ProfileError ProviderProfile :=
  if p.displayName.Blank ∨ 128 < p.displayName.length then
    .error (.value "display_name must be 1 to 128 characters")
  else if p.model.Blank ∨ 256 < p.model.length then
    .error (.value "model must be 1 to 256 characters")
  else if p.capabilities.protocol ≠ p.protocol then
    .error (.value "profile protocol and capabilities must match")
  else .ok { p with displayName := p.displayName.strip, model := p.model.strip }

/-- The network origin of a normalized URL, without path information. -/
def origin (p : ProviderProfile) : Option Text :=
  p.baseUrl.map fun url =>
    let scheme : Text := url.takeWhile fun c => decide (c ≠ 0x3A)
    let netloc : Text := (url.drop (scheme.length + 3)).takeWhile fun c => decide (c ≠ 0x2F)
    scheme.lower ++ lit "://" ++ netloc.lower

/-- The two profiles differ in their display name at most. -/
def SameConfiguration (p q : ProviderProfile) : Prop := { p with displayName := q.displayName } = q

instance (p q : ProviderProfile) : Decidable (p.SameConfiguration q) := inferInstanceAs (Decidable (_ = _))

theorem SameConfiguration.refl (p : ProviderProfile) : p.SameConfiguration p := rfl

theorem SameConfiguration.trans {p q r : ProviderProfile} (h : p.SameConfiguration q)
    (h' : q.SameConfiguration r) : p.SameConfiguration r := by
  unfold SameConfiguration at h h' ⊢
  rw [← h'] at *
  rw [← h]

end ProviderProfile

/-! ## The closed policy -/

def openaiOfficialOrigin : Text := lit "https://api.openai.com"
def openaiOfficialBaseUrl : Text := lit "https://api.openai.com/v1"
def deepseekOfficialOrigin : Text := lit "https://api.deepseek.com"
def deepseekOfficialBaseUrl : Text := lit "https://api.deepseek.com"
def defaultOllamaBaseUrl : Text := lit "http://127.0.0.1:11434"

def rejectManualTestCredentialId (credentialId : CredentialId) : Except ProfileError Unit :=
  if credentialId = .openaiManualTest ∨ credentialId = .deepseekManualTest then
    .error (.policy "Manual verification credentials cannot be used by profiles.")
  else .ok ()

section

variable (profileId : ProfileId) (displayName model : Text)

def fakeProfile : Except ProfileError ProviderProfile :=
  ProviderProfile.create
    { profileId, displayName, providerId := .fake, protocol := .internal, baseUrl := none, model
      credentialId := none
      capabilities := { continuationMode := .replayMessages, protocol := .internal } }

def openaiProfile (credentialId : CredentialId) : Except ProfileError ProviderProfile :=
  ProviderProfile.create
    { profileId, displayName, providerId := .openai, protocol := .responses
      baseUrl := some openaiOfficialBaseUrl, model, credentialId := some credentialId
      capabilities := { tools := true, continuationMode := .replayProviderItems, protocol := .responses } }

def deepseekProfile (credentialId : CredentialId) : Except ProfileError ProviderProfile :=
  ProviderProfile.create
    { profileId, displayName, providerId := .deepseek, protocol := .chatCompletions
      baseUrl := some deepseekOfficialBaseUrl, model, credentialId := some credentialId
      capabilities := { continuationMode := .replayMessages, protocol := .chatCompletions } }

def ollamaProfile : Except ProfileError ProviderProfile :=
  ProviderProfile.create
    { profileId, displayName, providerId := .ollama, protocol := .ollamaChat
      baseUrl := some defaultOllamaBaseUrl, model, credentialId := none
      capabilities := { continuationMode := .replayMessages, protocol := .ollamaChat } }

/-- Build one profile without accepting a caller-controlled endpoint. -/
def buildSupportedProfile (providerId : ProviderId) (credentialId : Option CredentialId) :
    Except ProfileError ProviderProfile :=
  if providerId = .fake then
    match credentialId with
    | some _ => .error (.policy "The Fake provider cannot use a credential binding.")
    | none => fakeProfile profileId displayName model
  else if providerId = .openai then
    match credentialId with
    | none => .error (.policy "The OpenAI profile requires a credential binding.")
    | some credentialId => do
      rejectManualTestCredentialId credentialId
      openaiProfile profileId displayName model credentialId
  else if providerId = .deepseek then
    match credentialId with
    | none => .error (.policy "The DeepSeek profile requires a credential binding.")
    | some credentialId => do
      rejectManualTestCredentialId credentialId
      deepseekProfile profileId displayName model credentialId
  else if providerId = .ollama then
    match credentialId with
    | some _ => .error (.policy "The Ollama placeholder cannot use a credential binding.")
    | none => ollamaProfile profileId displayName model
  else .error (.policy "The provider profile type is not supported.")

end

/-- Build binding metadata for one reviewed cloud provider. -/
def buildSupportedCredentialBinding (providerId : ProviderId) (credentialId : CredentialId) (displayName : Text) :
    Except ProfileError CredentialBinding := do
  rejectManualTestCredentialId credentialId
  if providerId = .openai then
    CredentialBinding.create { credentialId, providerId, allowedOrigin := openaiOfficialOrigin, displayName }
  else if providerId = .deepseek then
    CredentialBinding.create { credentialId, providerId, allowedOrigin := deepseekOfficialOrigin, displayName }
  else .error (.policy "The provider does not support credential bindings.")

def validateSupportedCredentialBinding (b : CredentialBinding) : Except ProfileError Unit := do
  let expected ← buildSupportedCredentialBinding b.providerId b.credentialId b.displayName
  if b ≠ expected then .error (.policy "The credential binding leaves the reviewed provider boundary.")
  else .ok ()

/-- Reject altered protocols, origins, capabilities, or enablement. -/
def validateSupportedProfile (p : ProviderProfile) : Except ProfileError Unit := do
  let expected ← buildSupportedProfile p.profileId p.displayName p.model p.providerId p.credentialId
  if p ≠ expected then .error (.policy "The provider profile leaves the reviewed provider boundary.")
  else .ok ()

theorem ProviderProfile.create_ok {p q : ProviderProfile} (h : p.create = .ok q) :
    q = { p with displayName := p.displayName.strip, model := p.model.strip } := by
  unfold create at h
  split at h
  · cases h
  · split at h
    · cases h
    · split at h
      · cases h
      · exact (Except.ok.inj h).symm

/-- What `build` makes for the profile depends on the display name in its display name only. -/
def FromTemplate (profileId : ProfileId) (build : Text → Except ProfileError ProviderProfile) : Prop :=
  ∃ template : ProviderProfile, template.profileId = profileId ∧ ∀ (displayName : Text) (p : ProviderProfile),
    build displayName = .ok p → p = { template with displayName := displayName.strip }

theorem FromTemplate.create {profileId : ProfileId} {f : Text → ProviderProfile}
    (h : ∀ displayName, f displayName = { f [] with displayName }) (hid : (f []).profileId = profileId) :
    FromTemplate profileId (fun displayName => (f displayName).create) := by
  refine ⟨{ f [] with model := (f []).model.strip }, hid, fun displayName p hp => ?_⟩
  rw [ProviderProfile.create_ok hp, h displayName]

theorem FromTemplate.error (profileId : ProfileId) (e : ProfileError) :
    FromTemplate profileId (fun _ => .error e) := by
  refine ⟨⟨profileId, [], .fake, .internal, none, [], none, {}, true⟩, rfl, ?_⟩
  intro displayName p h
  simp at h

theorem FromTemplate.rejectManualTest {profileId : ProfileId} (credentialId : CredentialId)
    {build : Text → Except ProfileError ProviderProfile} (h : FromTemplate profileId build) :
    FromTemplate profileId (fun displayName => do
      rejectManualTestCredentialId credentialId
      build displayName) := by
  unfold rejectManualTestCredentialId
  split
  · exact .error profileId _
  · exact h

theorem buildSupportedProfile_fromTemplate (profileId : ProfileId) (model : Text) (providerId : ProviderId)
    (credentialId : Option CredentialId) : FromTemplate profileId (fun displayName =>
      buildSupportedProfile profileId displayName model providerId credentialId) := by
  unfold buildSupportedProfile fakeProfile openaiProfile deepseekProfile ollamaProfile
  split_ifs
  · cases credentialId with
    | none => exact .create (fun _ => rfl) rfl
    | some c => exact .error profileId _
  · cases credentialId with
    | none => exact .error profileId _
    | some c => exact .rejectManualTest c (.create (fun _ => rfl) rfl)
  · cases credentialId with
    | none => exact .error profileId _
    | some c => exact .rejectManualTest c (.create (fun _ => rfl) rfl)
  · cases credentialId with
    | none => exact .create (fun _ => rfl) rfl
    | some c => exact .error profileId _
  · exact .error profileId _

/-- What the policy builds under another display name has the same configuration. -/
theorem buildSupportedProfile_sameConfiguration {profileId : ProfileId} {displayName displayName' model : Text}
    {providerId : ProviderId} {credentialId : Option CredentialId} {p q : ProviderProfile}
    (hp : buildSupportedProfile profileId displayName model providerId credentialId = .ok p)
    (hq : buildSupportedProfile profileId displayName' model providerId credentialId = .ok q) :
    p.SameConfiguration q := by
  obtain ⟨template, -, h⟩ := buildSupportedProfile_fromTemplate profileId model providerId credentialId
  rw [h _ _ hp, h _ _ hq]
  rfl

theorem buildSupportedProfile_profileId {profileId : ProfileId} {displayName model : Text}
    {providerId : ProviderId} {credentialId : Option CredentialId} {p : ProviderProfile}
    (hp : buildSupportedProfile profileId displayName model providerId credentialId = .ok p) :
    p.profileId = profileId := by
  obtain ⟨template, hid, h⟩ := buildSupportedProfile_fromTemplate profileId model providerId credentialId
  rw [h _ _ hp]
  exact hid

/-- A supported profile is what the policy builds from its own fields. -/
theorem validateSupportedProfile_ok {p : ProviderProfile} (h : validateSupportedProfile p = .ok ()) :
    buildSupportedProfile p.profileId p.displayName p.model p.providerId p.credentialId = .ok p := by
  unfold validateSupportedProfile at h
  cases hbuild : buildSupportedProfile p.profileId p.displayName p.model p.providerId p.credentialId with
  | error e =>
    rw [hbuild] at h
    cases h
  | ok expected =>
    rw [hbuild] at h
    by_cases heq : p = expected
    · rw [← heq]
    · simp [bind, Except.bind, heq] at h

end ArkClaw.Domain
