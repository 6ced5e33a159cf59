import ArkClaw.Domain.ProviderProfiles

/-!
# The repository of provider metadata

One document holds the profiles, the credential bindings and the identifier of the active profile. Every call
reads the whole document and a mutation replaces it atomically, so a call that fails leaves it as it was. What
is stored is supported by the policy, and the active profile is stored.
-/

namespace ArkClaw.Provider

open ArkClaw.Library ArkClaw.Domain

/-- What the repository raises. -/
inductive MetadataError where
  | notFound (message : String)
  | conflict (message : String)
  | reference (message : String)
  | corrupted (message : String)
  | schema (message : String)
  | write (message : String)
deriving DecidableEq, Repr

/-- How the document answers one call: it may be unreadable, and it may not take what is written. -/
structure DocumentIo where
  unreadable : Option MetadataError := none
  unwritable : Bool := false
deriving DecidableEq, Repr

/-- The first profile stored under an identifier. -/
def profileOf (profiles : List ProviderProfile) (profileId : ProfileId) : Option ProviderProfile :=
  profiles.find? fun p => p.profileId = profileId

/-- The content of the document. -/
structure MetadataSnapshot where
  activeProfileId : Option ProfileId := none
  profiles : List ProviderProfile := []
  credentialBindings : List CredentialBinding := []
  supported : ∀ p ∈ profiles, validateSupportedProfile p = .ok () := by simp
  active_stored : ∀ profileId, activeProfileId = some profileId → profileOf profiles profileId ≠ none := by simp

def sensitiveMetadataMarkers : List Text :=
  [lit "api_key", lit "apikey", lit "authorization", lit "credentialblob", lit "secretvalue", lit "bearer ",
    lit "sk-"]

/-- `_reject_sensitive_metadata`: one of the texts holds a marker. -/
def HasSensitiveMetadata (values : List Text) : Prop :=
  ∃ value ∈ values, ∃ marker ∈ sensitiveMetadataMarkers, value.FoldedContains marker

instance (values : List Text) : Decidable (HasSensitiveMetadata values) :=
  inferInstanceAs (Decidable (∃ value ∈ values, ∃ marker ∈ sensitiveMetadataMarkers, value.FoldedContains marker))

/-- The list with the first profile of the same identifier replaced, or with the profile added. -/
def storeProfile (profile : ProviderProfile) : List ProviderProfile → List ProviderProfile
  | [] => [profile]
  | p :: rest => if p.profileId = profile.profileId then profile :: rest else p :: storeProfile profile rest

variable {profiles : List ProviderProfile}

theorem mem_storeProfile {profile p : ProviderProfile}
    (h : p ∈ storeProfile profile profiles) : p = profile ∨ p ∈ profiles := by
  induction profiles with
  | nil => exact Or.inl (List.mem_singleton.mp h)
  | cons q rest ih =>
    unfold storeProfile at h
    split at h
    · rcases List.mem_cons.mp h with rfl | h
      · exact Or.inl rfl
      · exact Or.inr (List.mem_cons_of_mem _ h)
    · rcases List.mem_cons.mp h with rfl | h
      · exact Or.inr List.mem_cons_self
      · exact (ih h).imp_right (List.mem_cons_of_mem _)

theorem profileOf_storeProfile (profile : ProviderProfile) (profiles : List ProviderProfile) (profileId : ProfileId) :
    profileOf (storeProfile profile profiles) profileId =
      if profile.profileId = profileId then some profile else profileOf profiles profileId := by
  unfold profileOf
  induction profiles with
  | nil => by_cases h : profile.profileId = profileId <;> simp [storeProfile, h]
  | cons p rest ih =>
    unfold storeProfile
    by_cases hp : p.profileId = profile.profileId
    · by_cases h : profile.profileId = profileId <;> simp [hp, h]
    · by_cases h : p.profileId = profileId
      · have hne : profile.profileId ≠ profileId := fun h' => hp (h.trans h'.symm)
        rw [if_neg hp, if_neg hne]
        simp [h]
      · simp [hp, h, ih]

theorem profileOf_profileId {profileId : ProfileId} {p : ProviderProfile}
    (h : profileOf profiles profileId = some p) : p.profileId = profileId := by
  simpa using List.find?_some h

theorem profileOf_mem {profileId : ProfileId} {p : ProviderProfile}
    (h : profileOf profiles profileId = some p) : p ∈ profiles := List.mem_of_find?_eq_some h

namespace MetadataSnapshot

variable (io : DocumentIo) (s : MetadataSnapshot)

/-- `_read_snapshot`. -/
def read : Except MetadataError MetadataSnapshot :=
  match io.unreadable with
  | some e => .error e
  | none => .ok s

/-- `_write_snapshot`. -/
def write (s : MetadataSnapshot) : Except MetadataError MetadataSnapshot :=
  if io.unwritable then .error (.write "The provider metadata could not be written atomically.") else .ok s

def getProfile (profileId : ProfileId) : Except MetadataError (Option ProviderProfile) := do
  return profileOf (← s.read io).profiles profileId

def getCredentialBinding (credentialId : CredentialId) : Except MetadataError (Option CredentialBinding) := do
  return (← s.read io).credentialBindings.find? fun b => b.credentialId = credentialId

def listCredentialBindings : Except MetadataError (List CredentialBinding) := do
  return (← s.read io).credentialBindings

/-- `_binding_for_profile`: the binding of the profile's credential for its provider and origin. -/
def bindingForProfile (profile : ProviderProfile) (bindings : List CredentialBinding) : Option CredentialBinding :=
  bindings.find? fun b => some b.credentialId = profile.credentialId ∧ b.providerId = profile.providerId
    ∧ some b.allowedOrigin = profile.origin

theorem storeProfile_supported {profile : ProviderProfile} (s : MetadataSnapshot)
    (h : validateSupportedProfile profile = .ok ()) :
    ∀ p ∈ storeProfile profile s.profiles, validateSupportedProfile p = .ok () := by
  intro p hp
  rcases mem_storeProfile hp with rfl | hp
  · exact h
  · exact s.supported p hp

theorem storeProfile_active (profile : ProviderProfile) (s : MetadataSnapshot) :
    ∀ profileId, s.activeProfileId = some profileId →
      profileOf (storeProfile profile s.profiles) profileId ≠ none := by
  intro profileId h
  rw [profileOf_storeProfile]
  split
  · exact nofun
  · exact s.active_stored profileId h

def saveProfile (profile : ProviderProfile) : Except MetadataError MetadataSnapshot :=
  if h : validateSupportedProfile profile = .ok () ∧ ¬HasSensitiveMetadata [profile.displayName, profile.model] then do
    let s ← s.read io
    if profile.credentialId ≠ none ∧ bindingForProfile profile s.credentialBindings = none then
      .error (.reference "The provider profile credential binding is missing.")
    else if ∃ existing ∈ profileOf s.profiles profile.profileId, existing.providerId ≠ profile.providerId then
      .error (.conflict "The profile identifier belongs to another provider.")
    else
      write io
        { activeProfileId := s.activeProfileId
          profiles := storeProfile profile s.profiles
          credentialBindings := s.credentialBindings
          supported := s.storeProfile_supported h.1
          active_stored := storeProfile_active profile s }
  else .error (.conflict "The provider profile cannot be persisted safely.")

theorem filter_active {s : MetadataSnapshot} {profileId : ProfileId} (h : s.activeProfileId ≠ some profileId) :
    ∀ id, s.activeProfileId = some id →
      profileOf (s.profiles.filter fun p => p.profileId ≠ profileId) id ≠ none := by
  intro id hid
  have hne : id ≠ profileId := fun heq => h (heq ▸ hid)
  have hstored := s.active_stored id hid
  unfold profileOf at hstored ⊢
  rw [List.find?_filter]
  rw [ne_eq, List.find?_eq_none] at hstored ⊢
  intro hnone
  apply hstored
  intro p hp hpid
  have hpid' : p.profileId = id := by simpa using hpid
  exact hnone p hp (by simp [hpid', hne])

def deleteProfile (profileId : ProfileId) : Except MetadataError MetadataSnapshot := do
  let s ← s.read io
  if h : s.activeProfileId = some profileId then
    .error (.reference "The active provider profile cannot be deleted.")
  else
    let profiles := s.profiles.filter fun p => p.profileId ≠ profileId
    if profiles.length = s.profiles.length then .error (.notFound "The provider profile does not exist.")
    else
      write io
        { activeProfileId := s.activeProfileId
          profiles := s.profiles.filter fun p => p.profileId ≠ profileId
          credentialBindings := s.credentialBindings
          supported := fun p hp => s.supported p (List.mem_filter.mp hp).1
          active_stored := filter_active h }

def setActiveProfileId (profileId : ProfileId) : Except MetadataError MetadataSnapshot := do
  let s ← s.read io
  match h : profileOf s.profiles profileId with
  | none => .error (.notFound "The provider profile does not exist.")
  | some profile =>
    if !profile.enabled then .error (.conflict "A disabled provider profile cannot become active.")
    else
      write io
        { activeProfileId := some profileId
          profiles := s.profiles
          credentialBindings := s.credentialBindings
          supported := s.supported
          active_stored := fun id hid => by
            cases hid
            rw [h]
            exact nofun }

def saveCredentialBinding (binding : CredentialBinding) : Except MetadataError MetadataSnapshot :=
  if validateSupportedCredentialBinding binding = .ok () ∧ ¬HasSensitiveMetadata [binding.displayName] then do
    let s ← s.read io
    match s.credentialBindings.find? fun b => b.credentialId = binding.credentialId with
    | none => write io { s with credentialBindings := s.credentialBindings ++ [binding] }
    | some existing =>
      if existing.providerId ≠ binding.providerId ∨ existing.allowedOrigin ≠ binding.allowedOrigin then
        .error (.conflict "The credential identifier is already bound.")
      else write io { s with credentialBindings :=
        s.credentialBindings.map fun b => if b.credentialId = binding.credentialId then binding else b }
  else .error (.conflict "The credential binding cannot be persisted safely.")

def deleteCredentialBinding (credentialId : CredentialId) : Except MetadataError MetadataSnapshot := do
  let s ← s.read io
  if ∃ p ∈ s.profiles, p.credentialId = some credentialId then
    .error (.reference "The credential binding is still referenced.")
  else
    let bindings := s.credentialBindings.filter fun b => b.credentialId ≠ credentialId
    if bindings.length = s.credentialBindings.length then
      .error (.notFound "The credential binding does not exist.")
    else write io { s with credentialBindings := bindings }

/-! ## What the calls leave -/

section

variable {io : DocumentIo} {s s' : MetadataSnapshot}
variable {profileId : ProfileId}

/-- A call that succeeds has read the document. -/
theorem of_read {α : Type} {f : MetadataSnapshot → Except MetadataError α} {a : α}
    (h : (s.read io >>= f) = .ok a) : f s = .ok a := by
  unfold read at h
  split at h
  · cases h
  · exact h

theorem write_ok (h : write io s = .ok s') : s' = s := by
  unfold write at h
  split at h
  · cases h
  · exact (Except.ok.inj h).symm

theorem getProfile_ok {found : Option ProviderProfile}
    (h : s.getProfile io profileId = .ok found) : found = profileOf s.profiles profileId := by
  have h : pure (profileOf s.profiles profileId) = Except.ok found := of_read h
  exact (Except.ok.inj h).symm

/-- What a mutation other than the choice of the active profile keeps. -/
structure KeepsActive (s s' : MetadataSnapshot) : Prop where
  activeProfileId : s'.activeProfileId = s.activeProfileId
  profile : ∀ profileId, s.activeProfileId = some profileId →
    profileOf s'.profiles profileId = profileOf s.profiles profileId

theorem KeepsActive.refl (s : MetadataSnapshot) : s.KeepsActive s := ⟨rfl, fun _ _ => rfl⟩

theorem KeepsActive.trans {s s' s'' : MetadataSnapshot} (h : s.KeepsActive s') (h' : s'.KeepsActive s'') :
    s.KeepsActive s'' :=
  ⟨h'.activeProfileId.trans h.activeProfileId,
    fun id hid => (h'.profile id (h.activeProfileId.trans hid)).trans (h.profile id hid)⟩

theorem saveProfile_ok {profile : ProviderProfile} (h : s.saveProfile io profile = .ok s') :
    validateSupportedProfile profile = .ok () ∧ s'.activeProfileId = s.activeProfileId ∧
      s'.profiles = storeProfile profile s.profiles := by
  unfold saveProfile at h
  split at h
  next hvalid =>
    have h := of_read h
    split at h
    · cases h
    · split at h
      · cases h
      · rw [write_ok h]
        exact ⟨hvalid.1, rfl, rfl⟩
  next => cases h

/-- A profile stored under a new identifier leaves the active one alone. -/
theorem saveProfile_new {profile : ProviderProfile} (h : s.saveProfile io profile = .ok s')
    (hnew : profileOf s.profiles profile.profileId = none) : s.KeepsActive s' := by
  obtain ⟨-, hactive, hprofiles⟩ := saveProfile_ok h
  refine ⟨hactive, fun id hid => ?_⟩
  rw [hprofiles, profileOf_storeProfile, if_neg]
  rintro rfl
  exact s.active_stored _ hid hnew

theorem deleteProfile_ok (h : s.deleteProfile io profileId = .ok s') :
    s.activeProfileId ≠ some profileId ∧ s'.activeProfileId = s.activeProfileId ∧
      s'.profiles = s.profiles.filter fun p => p.profileId ≠ profileId := by
  have h := of_read h
  dsimp only at h
  split at h
  next => cases h
  next hactive =>
    split at h
    · cases h
    · rw [write_ok h]
      exact ⟨hactive, rfl, rfl⟩

theorem profileOf_filter (profiles : List ProviderProfile) (profileId id : ProfileId) :
    profileOf (profiles.filter fun p => p.profileId ≠ profileId) id =
      if id = profileId then none else profileOf profiles id := by
  unfold profileOf
  rw [List.find?_filter]
  split
  next h => simp [h]
  next h =>
    congr 1
    funext p
    by_cases hp : p.profileId = id <;> simp [hp, h]

theorem deleteProfile_keeps (h : s.deleteProfile io profileId = .ok s') : s.KeepsActive s' := by
  obtain ⟨hne, hactive, hprofiles⟩ := deleteProfile_ok h
  refine ⟨hactive, fun id hid => ?_⟩
  rw [hprofiles, profileOf_filter, if_neg]
  rintro rfl
  exact hne hid

theorem setActiveProfileId_ok (h : s.setActiveProfileId io profileId = .ok s') :
    s'.activeProfileId = some profileId ∧ s'.profiles = s.profiles := by
  have h := of_read h
  split at h
  · cases h
  · split at h
    · cases h
    · rw [write_ok h]
      exact ⟨rfl, rfl⟩

/-- The two documents have the same profiles and the same active one. -/
def SameProfiles (s s' : MetadataSnapshot) : Prop :=
  s'.activeProfileId = s.activeProfileId ∧ s'.profiles = s.profiles

theorem saveCredentialBinding_ok {binding : CredentialBinding} (h : s.saveCredentialBinding io binding = .ok s') :
    s.SameProfiles s' := by
  unfold saveCredentialBinding at h
  split at h
  next =>
    have h := of_read h
    split at h
    · rw [write_ok h]
      exact ⟨rfl, rfl⟩
    · split at h
      · cases h
      · rw [write_ok h]
        exact ⟨rfl, rfl⟩
  next => cases h

theorem deleteCredentialBinding_ok {credentialId : CredentialId}
    (h : s.deleteCredentialBinding io credentialId = .ok s') : s.SameProfiles s' := by
  have h := of_read h
  dsimp only at h
  split at h
  · cases h
  · split at h
    · cases h
    · rw [write_ok h]
      exact ⟨rfl, rfl⟩

theorem SameProfiles.keeps (h : s.SameProfiles s') : s.KeepsActive s' := by
  refine ⟨h.1, fun id _ => ?_⟩
  rw [h.2]

end

end MetadataSnapshot

end ArkClaw.Provider
