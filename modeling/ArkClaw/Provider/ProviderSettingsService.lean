import ArkClaw.Provider.ProfileServiceRuns

/-!
# The provider settings service

The settings commands are called from the settings window at any time, also while an activation or the closing of
the service is suspended. They refuse to act while providers are switched, cleaned up or closed, and they guard the
profile and the credential that the active provider runs on. The secrets are kept in a store of their own.
-/

namespace ArkClaw.Provider.ProfileService

open ArkClaw.Library ArkClaw.Domain ProviderProfileService

/-- A secret; it is never blank. -/
@[ext] structure SecretValue where
  value : Text
  nonblank : ¬value.Blank

instance : DecidableEq SecretValue := fun _ _ => decidable_of_iff _ SecretValue.ext_iff.symm

/-- The constructor, unless it raises. -/
def SecretValue.create? (value : Text) : Option SecretValue :=
  if h : value.Blank then none else some ⟨value, h⟩

/-- The profile service with the secret store. -/
structure ProviderSettingsService extends ProviderProfileService where
  settingsSecretStore : CredentialId → Option SecretValue := fun _ => none

/-- What a settings command raises: an error of its own, or what passes through it. -/
inductive SettingsFailure where
  | settings (safeCode safeMessage : String)
  | inherited (failure : Failure)
deriving DecidableEq, Repr

abbrev SettingsMethod (α : Type) := EStateM SettingsFailure ProviderSettingsService α

namespace ProviderSettingsService

def withService (t : ProviderSettingsService) (s : ProviderProfileService) : ProviderSettingsService :=
  { t with toProviderProfileService := s }

def setSecret (t : ProviderSettingsService) (credentialId : CredentialId) (value : Option SecretValue) :
    ProviderSettingsService :=
  { t with settingsSecretStore := Function.update t.settingsSecretStore credentialId value }

end ProviderSettingsService

/-- A method of the profile service; `report` says what is raised for what it raises. -/
def fromService {α : Type} (report : Failure → SettingsFailure) (c : Method α) : SettingsMethod α :=
  (onPart ProviderSettingsService.toProviderProfileService ProviderSettingsService.withService c).adaptExcept report

/-- `except ProviderProfileServiceError`. -/
def SettingsFailure.replacing (safeCode safeMessage : String) : Failure → SettingsFailure
  | .service _ => .settings safeCode safeMessage
  | e => .inherited e

/-! ## The guards -/

/-- `_SETTINGS_PROVIDER_IDS`. -/
def settingsProviderIds : List ProviderId := [.fake, .openai, .deepseek]

def requireMutationAllowed : SettingsMethod Unit := do
  let t ← get
  if t.lifecycleState = .cleanupPending then
    throw (.settings "provider_cleanup_pending" "Provider cleanup must complete before settings can change.")
  if t.lifecycleState = .switching ∨ t.lifecycleState = .closed then
    throw (.settings "provider_settings_mutation_blocked"
      "Provider settings cannot change in the current runtime state.")

def requireSettingsProvider (providerId : ProviderId) : SettingsMethod Unit := do
  if providerId ∉ settingsProviderIds then
    throw (.settings "unsupported_provider_profile" "Only reviewed built-in Providers can be configured.")

def requireSupportedBinding (io : DocumentIo) (credentialId : CredentialId) : SettingsMethod Unit := do
  match ← fromService .inherited (fromRepository ((← get).repository.getCredentialBinding io credentialId)) with
  | none => throw (.settings "credential_binding_not_found" "The credential binding does not exist.")
  | some binding =>
    match validateSupportedCredentialBinding binding with
    | .ok _ => return ()
    | .error (.policy _) =>
      throw (.settings "credential_binding_rejected" "The credential binding is not permitted.")
    | .error (.value message) => throw (.inherited (.value message))

def requireInactiveCredential (credentialId : CredentialId) : SettingsMethod Unit := do
  if ∃ profile ∈ (← get).runtimeProfileSnapshot, profile.credentialId = some credentialId then
    throw (.settings "active_profile_credential_change_requires_switch"
      "Switch away from the active Profile before changing its credential.")

/-! ## The commands -/

def createSettingsProfile (io : MutationIo) (new : NewProfile) : SettingsMethod Unit := do
  requireMutationAllowed
  requireSettingsProvider new.providerId
  fromService (.replacing "provider_profile_create_failed" "The Provider profile could not be created safely.")
    (createProfile io new)

/-- The arguments of `update_settings_profile`; all of them are given. -/
structure SettingsUpdate where
  profileId : ProfileId
  displayName : Text
  model : Text
  credentialId : Option CredentialId
deriving DecidableEq

/-- What `update_profile` is called with. -/
def SettingsUpdate.toUpdate (update : SettingsUpdate) : ProfileUpdate where
  profileId := update.profileId
  displayName := some update.displayName
  model := some update.model
  credentialId := update.credentialId

/-- The profile to update, if it is one of the settings. -/
def settingsProfile (existing : Option ProviderProfile) : SettingsMethod ProviderProfile :=
  match existing with
  | some existing =>
    if existing.providerId ∈ settingsProviderIds then return existing
    else throw (.settings "provider_profile_not_found" "The Provider profile does not exist.")
  | none => throw (.settings "provider_profile_not_found" "The Provider profile does not exist.")

def updateSettingsProfile (existingIo : DocumentIo) (io : MutationIo) (update : SettingsUpdate) :
    SettingsMethod Unit := do
  requireMutationAllowed
  let t ← get
  let existing ← settingsProfile (← fromService .inherited
    (fromRepository (t.repository.getProfile existingIo update.profileId)))
  if t.runtimeProfileId = some update.profileId ∧
      (existing.model ≠ update.model ∨ existing.credentialId ≠ update.credentialId) then
    throw (.settings "active_profile_update_requires_switch"
      "Switch away from the active Profile before changing its model or credential.")
  fromService (.replacing "provider_profile_update_failed" "The Provider profile could not be updated safely.")
    (updateProfile io update.toUpdate)

def deleteSettingsProfile (io : MutationIo) (profileId : ProfileId) : SettingsMethod Unit := do
  requireMutationAllowed
  if (← get).runtimeProfileId = some profileId then
    throw (.settings "active_profile_delete_rejected" "The active Provider profile cannot be deleted.")
  fromService (.replacing "provider_profile_delete_failed" "The Provider profile could not be deleted safely.")
    (deleteProfile io profileId)

/-- How the document and the secret store answer the calls of a credential command. -/
structure CredentialIo where
  binding : DocumentIo := {}
  storeFails : Bool := false
deriving DecidableEq, Repr

/-- Write the secret store; whatever it raises is reported under the error of the command. -/
def writeSecret (io : CredentialIo) (failure : SettingsFailure) (credentialId : CredentialId)
    (value : Option SecretValue) : SettingsMethod Unit :=
  if io.storeFails then throw failure else modify fun t => t.setSecret credentialId value

def saveCredential (io : CredentialIo) (credentialId : CredentialId) (secret : Text) : SettingsMethod Unit := do
  requireMutationAllowed
  requireSupportedBinding io.binding credentialId
  requireInactiveCredential credentialId
  let failure := .settings "credential_save_failed" "The credential could not be saved safely."
  match SecretValue.create? secret with
  | none => throw failure
  | some value => writeSecret io failure credentialId (some value)

def deleteCredential (io : CredentialIo) (credentialId : CredentialId) : SettingsMethod Unit := do
  requireMutationAllowed
  requireSupportedBinding io.binding credentialId
  requireInactiveCredential credentialId
  writeSecret io (.settings "credential_delete_failed" "The credential could not be deleted safely.") credentialId none

/-! ## The system -/

/-- A call of a settings command, with how the repository and the secret store answer it. -/
inductive SettingsCommand where
  | createSettingsProfile (io : MutationIo) (new : NewProfile)
  | updateSettingsProfile (existingIo : DocumentIo) (io : MutationIo) (update : SettingsUpdate)
  | deleteSettingsProfile (io : MutationIo) (profileId : ProfileId)
  | saveCredential (io : CredentialIo) (credentialId : CredentialId) (secret : Text)
  | deleteCredential (io : CredentialIo) (credentialId : CredentialId)

def SettingsCommand.method : SettingsCommand → SettingsMethod Unit
  | .createSettingsProfile io new => ProfileService.createSettingsProfile io new
  | .updateSettingsProfile existingIo io update => ProfileService.updateSettingsProfile existingIo io update
  | .deleteSettingsProfile io profileId => ProfileService.deleteSettingsProfile io profileId
  | .saveCredential io credentialId secret => ProfileService.saveCredential io credentialId secret
  | .deleteCredential io credentialId => ProfileService.deleteCredential io credentialId

/-- A command leaves what it wrote, also when it raises. -/
def SettingsCommand.apply (command : SettingsCommand) (t : ProviderSettingsService) : ProviderSettingsService :=
  stateAfter command.method t

/-- A call under the lock does not touch the secret store. -/
def Call.settingsBody (call : Call) :
    Coroutine Await Answer ProviderSettingsService Failure (Option ProviderRef) :=
  call.body.onPart ProviderSettingsService.toProviderProfileService ProviderSettingsService.withService

abbrev SettingsSystem := Locked Call Await Answer ProviderSettingsService Failure (Option ProviderRef)

abbrev SettingsEvent := LockEvent Call Answer SettingsCommand

def SettingsSystem.step : SettingsSystem → SettingsEvent → SettingsSystem :=
  Locked.step Call.settingsBody SettingsCommand.apply

/-- A service as it is constructed, over any secrets. -/
def SettingsSystem.Initial (s : SettingsSystem) : Prop :=
  ∃ repository hasTurnCoordinator settingsSecretStore,
    s = { shared := { repository, hasTurnCoordinator, settingsSecretStore } }

end ArkClaw.Provider.ProfileService
