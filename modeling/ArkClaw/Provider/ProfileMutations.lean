import ArkClaw.Provider.ProfileServiceLaws

/-!
# What the mutations of the metadata do

One specification for each mutation: what it stores when it returns, and that it leaves the service as it was when
it raises. An update of the runtime profile keeps its configuration.
-/

namespace ArkClaw.Provider.ProfileService

open ArkClaw.Library ArkClaw.Domain ProviderProfileService

variable {s s' : ProviderProfileService}
variable (io : MutationIo)

section

variable {α : Type} {Q : α → ProviderProfileService → Prop} {R : Failure → ProviderProfileService → Prop}

theorem wp_fromRepository {x : Except MetadataError α} (hQ : ∀ a, x = .ok a → Q a s) (hR : ∀ e, R e s) :
    Wp (fromRepository x) Q R s := by
  cases x with
  | ok a => exact hQ a rfl
  | error e => exact hR _

theorem wp_fromPolicy {message : String} {x : Except ProfileError α} (hQ : ∀ a, x = .ok a → Q a s)
    (hR : ∀ e, R e s) : Wp (fromPolicy message x) Q R s := by
  match x with
  | .ok a => exact hQ a rfl
  | .error (.policy _) => exact hR _
  | .error (.value _) => exact hR _

theorem wp_persist {message : String} {x : Except MetadataError MetadataSnapshot}
    {Q : Unit → ProviderProfileService → Prop}
    (hQ : ∀ repository, x = .ok repository → Q () { s with repository }) (hR : ∀ e, R e s) :
    Wp (persist message x) Q R s := by
  cases x with
  | ok repository => exact hQ repository rfl
  | error e => exact hR _

theorem wp_requireBinding {io : DocumentIo} {providerId : ProviderId} {credentialId : Option CredentialId}
    {Q : Unit → ProviderProfileService → Prop} (hQ : Q () s) (hR : ∀ e, R e s) :
    Wp (requireBinding io providerId credentialId) Q R s := by
  unfold requireBinding
  cases credentialId with
  | none => exact hQ
  | some credentialId =>
    refine wp_get_bind.mpr (wp_bind.mpr (wp_fromRepository ?_ hR))
    intro binding _
    exact wp_ite.mpr ⟨fun _ => hR _, fun _ => hQ⟩

end

/-- A refusal leaves the service as it was. -/
def Unchanged (s : ProviderProfileService) (_ : Failure) (s' : ProviderProfileService) : Prop := s' = s

/-- `create_profile` of these arguments stores this profile. -/
def NewProfile.Stores (new : NewProfile) (s : ProviderProfileService) (profile : ProviderProfile)
    (repository : MetadataSnapshot) : Prop :=
  s.repository.getProfile io.get new.profileId = .ok none ∧ new.build = .ok profile ∧
    s.repository.saveProfile io.save profile = .ok repository

theorem createProfile_spec (new : NewProfile) (s : ProviderProfileService) : Wp (createProfile io new)
      (fun _ s' => ∃ profile repository, new.Stores io s profile repository ∧ s' = { s with repository })
      (Unchanged s) s := by
  have hunchanged : ∀ e, Unchanged s e s := fun _ => rfl
  unfold createProfile
  refine wp_get_bind.mpr (wp_bind.mpr (wp_fromRepository ?_ hunchanged))
  intro existing hget
  refine wp_check (hunchanged _) fun hnone => ?_
  obtain rfl : existing = none := by simpa using hnone
  refine wp_bind.mpr (wp_requireBinding ?_ hunchanged)
  refine wp_bind.mpr (wp_fromPolicy ?_ hunchanged)
  intro profile hbuild
  refine wp_get_bind.mpr (wp_persist ?_ hunchanged)
  exact fun repository hsave => ⟨profile, repository, ⟨hget, hbuild, hsave⟩, rfl⟩

theorem deleteProfile_spec (profileId : ProfileId) (s : ProviderProfileService) :
    Wp (deleteProfile io profileId)
      (fun _ s' => s.runtimeProfileId ≠ some profileId ∧ ∃ repository,
        s.repository.deleteProfile io.save profileId = .ok repository ∧ s' = { s with repository })
      (Unchanged s) s := by
  unfold deleteProfile
  refine wp_get_bind.mpr (wp_check (rfl : Unchanged s _ s) fun hne => ?_)
  exact wp_persist (fun repository hdelete => ⟨hne, repository, hdelete, rfl⟩) fun _ => rfl

theorem createCredentialBinding_spec (providerId : ProviderId) (credentialId : CredentialId)
    (displayName : Text) (s : ProviderProfileService) :
    Wp (createCredentialBinding io providerId credentialId displayName)
      (fun _ s' => ∃ repository, s.repository.SameProfiles repository ∧ s' = { s with repository })
      (Unchanged s) s := by
  have hunchanged : ∀ e, Unchanged s e s := fun _ => rfl
  unfold createCredentialBinding
  refine wp_get_bind.mpr (wp_bind.mpr (wp_fromRepository ?_ hunchanged))
  intro existing _
  refine wp_check (hunchanged _) fun _ => ?_
  refine wp_bind.mpr (wp_fromPolicy ?_ hunchanged)
  intro binding _
  refine wp_get_bind.mpr (wp_persist ?_ hunchanged)
  exact fun repository hsave => ⟨repository, MetadataSnapshot.saveCredentialBinding_ok hsave, rfl⟩

theorem deleteCredentialBinding_spec (credentialId : CredentialId) (s : ProviderProfileService) :
    Wp (deleteCredentialBinding io credentialId)
      (fun _ s' => ∃ repository, s.repository.SameProfiles repository ∧ s' = { s with repository })
      (Unchanged s) s := by
  unfold deleteCredentialBinding
  refine wp_get_bind.mpr (wp_persist ?_ fun _ => rfl)
  exact fun repository hdelete => ⟨repository, MetadataSnapshot.deleteCredentialBinding_ok hdelete, rfl⟩

theorem checkRuntimeProfile_spec (update : ProfileUpdate) (existing : ProviderProfile)
    (selectedCredentialId : Option CredentialId) (runtimeSnapshot : Option ProviderProfile)
    (s : ProviderProfileService) : Wp (checkRuntimeProfile update existing selectedCredentialId runtimeSnapshot)
      (fun _ s' => s' = s ∧ update.model.getD existing.model = existing.model ∧
        selectedCredentialId = existing.credentialId ∧ ∃ q ∈ runtimeSnapshot, existing.SameConfiguration q)
      (Unchanged s) s := by
  have hunchanged : ∀ e, Unchanged s e s := fun _ => rfl
  unfold checkRuntimeProfile
  cases runtimeSnapshot with
  | none => exact wp_throw.mpr (hunchanged _)
  | some snapshot =>
    refine wp_check (hunchanged _) fun hsame => ?_
    have hsame : existing.SameConfiguration snapshot := not_not.mp hsame
    refine wp_ite.mpr ⟨fun _ => wp_throw.mpr (hunchanged _), fun hkept => ?_⟩
    refine wp_pure.mpr ⟨rfl, ?_, ?_, snapshot, rfl, hsame⟩
    · have hmodel : snapshot.model = existing.model := by rw [← hsame]
      cases hupdate : update.model with
      | none => rfl
      | some model =>
        by_contra hne
        exact hkept (Or.inl ⟨model, hupdate, hmodel ▸ hne⟩)
    · have hcredential : snapshot.credentialId = existing.credentialId := by rw [← hsame]
      rw [← hcredential]
      by_contra hne
      exact hkept (Or.inr hne)

/-- `update_profile` stores a profile under the identifier; of the runtime profile it keeps the configuration. -/
structure Updates (update : ProfileUpdate) (existing updated : ProviderProfile) (s s' : ProviderProfileService) :
    Prop where
  found : profileOf s.repository.profiles update.profileId = some existing
  profileId : updated.profileId = update.profileId
  activeProfileId : s'.repository.activeProfileId = s.repository.activeProfileId
  profiles : s'.repository.profiles = storeProfile updated s.repository.profiles
  snapshot : s'.runtimeProfileSnapshot =
    if s.runtimeProfileId = some update.profileId then some updated else s.runtimeProfileSnapshot
  configuration : s.runtimeProfileId = some update.profileId →
    updated.SameConfiguration existing ∧ ∃ q ∈ s.runtimeProfileSnapshot, existing.SameConfiguration q
  others : s' = { s with repository := s'.repository, runtimeProfileSnapshot := s'.runtimeProfileSnapshot }

theorem storeUpdate_spec {update : ProfileUpdate} {existing : ProviderProfile}
    {selectedCredentialId : Option CredentialId} {isRuntimeProfile : Bool}
    (hfound : profileOf s.repository.profiles update.profileId = some existing)
    (hruntime : isRuntimeProfile = true ↔ s.runtimeProfileId = some update.profileId)
    (hkept : s.runtimeProfileId = some update.profileId → update.model.getD existing.model = existing.model ∧
      selectedCredentialId = existing.credentialId ∧ ∃ q ∈ s.runtimeProfileSnapshot, existing.SameConfiguration q) :
    Wp (storeUpdate io update existing selectedCredentialId isRuntimeProfile)
      (fun _ s' => ∃ updated, Updates update existing updated s s') (Unchanged s) s := by
  have hunchanged : ∀ e, Unchanged s e s := fun _ => rfl
  unfold storeUpdate
  refine wp_bind.mpr (wp_requireBinding ?_ hunchanged)
  refine wp_bind.mpr (wp_fromPolicy ?_ hunchanged)
  intro updated hbuild
  refine wp_get_bind.mpr (wp_bind.mpr (wp_persist ?_ hunchanged))
  intro repository hsave
  obtain ⟨-, hactive, hprofiles⟩ := MetadataSnapshot.saveProfile_ok hsave
  have hid : updated.profileId = update.profileId :=
    (buildSupportedProfile_profileId hbuild).trans (profileOf_profileId hfound)
  have hconfiguration : s.runtimeProfileId = some update.profileId →
      updated.SameConfiguration existing ∧ ∃ q ∈ s.runtimeProfileSnapshot, existing.SameConfiguration q := by
    intro hthis
    obtain ⟨hmodel, hcredential, hsnapshot⟩ := hkept hthis
    have hexisting := validateSupportedProfile_ok (s.repository.supported existing (profileOf_mem hfound))
    rw [hmodel, hcredential] at hbuild
    exact ⟨buildSupportedProfile_sameConfiguration hbuild hexisting, hsnapshot⟩
  refine wp_ite.mpr ⟨fun hthis => ?_, fun hother => ?_⟩
  · have hthis := hruntime.mp hthis
    exact wp_modify.mpr ⟨updated, hfound, hid, hactive, hprofiles, (if_pos hthis).symm, hconfiguration, rfl⟩
  · have hother : s.runtimeProfileId ≠ some update.profileId := fun h => hother (hruntime.mpr h)
    exact wp_pure.mpr ⟨updated, hfound, hid, hactive, hprofiles, (if_neg hother).symm, hconfiguration, rfl⟩

theorem updateProfile_spec (update : ProfileUpdate) (s : ProviderProfileService) : Wp (updateProfile io update)
      (fun _ s' => s.lifecycleState ≠ .switching ∧ ∃ existing updated, Updates update existing updated s s')
      (Unchanged s) s := by
  have hunchanged : ∀ e, Unchanged s e s := fun _ => rfl
  unfold updateProfile
  refine wp_get_bind.mpr (wp_bind.mpr (wp_fromRepository ?_ hunchanged))
  intro found hget
  cases found with
  | none => exact wp_throw.mpr (hunchanged _)
  | some existing =>
    have hfound := (MetadataSnapshot.getProfile_ok hget).symm
    refine wp_check (hunchanged _) fun hsettled => ?_
    have hsettled : s.lifecycleState ≠ .switching := fun h => hsettled (Or.inl h)
    refine wp_ite.mpr ⟨fun hthis => wp_bind.mpr ?_, fun hother => ?_⟩
    · refine (checkRuntimeProfile_spec update existing _ _ s).imp ?_
      rintro - _ ⟨rfl, hkept⟩
      exact (storeUpdate_spec io hfound (by simp [hthis]) fun _ => hkept).imp
        (fun _ _ ⟨updated, h⟩ => ⟨hsettled, existing, updated, h⟩)
    · exact (storeUpdate_spec io hfound (by simp [hother]) fun hthis => (hother hthis).elim).imp
        (fun _ _ ⟨updated, h⟩ => ⟨hsettled, existing, updated, h⟩)

end ArkClaw.Provider.ProfileService
