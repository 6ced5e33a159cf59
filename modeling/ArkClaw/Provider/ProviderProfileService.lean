import ArkClaw.Library.Locked
import ArkClaw.Domain.Models
import ArkClaw.Provider.MetadataRepository
import ArkClaw.Provider.ProviderTracking

/-!
# The provider profile service

The service switches the active provider. Activations and the closing of the service hold one lock across their
awaits: they await the turn coordinator and the `aclose` of provider delegates. The mutations of the metadata
take no lock and may run while an activation is suspended. `ensure_builtin_metadata` is not among them: the
composition root calls it before anything else can reach the service.
-/

namespace ArkClaw.Provider.ProfileService

open ArkClaw.Library ArkClaw.Domain

/-! ## The state -/

/-- An explicit upper-layer decision for in-flight agent turns. -/
inductive ActiveTurnHandling where
  | cancelActive | waitForActive
deriving DecidableEq, Repr

@[ext] structure ProviderActivationOptions where
  timeoutSeconds : Rat
  maxRetries : Nat
  stream : Bool
  timeout_positive : 0 < timeoutSeconds

instance : DecidableEq ProviderActivationOptions := fun _ _ => decidable_of_iff _ ProviderActivationOptions.ext_iff.symm

/-- Revocable routing handle around a provider delegate. Besides its own fields it records the profile the
factory built the delegate from, and whether a call of the delegate's `aclose` has returned. -/
structure ManagedProvider where
  profileId : ProfileId
  expectedProviderName : Text
  acceptingRequests : Bool := true
  builtFrom : ProviderProfile
  closeReturned : Bool := false
deriving DecidableEq

/-- The service, over every managed provider it has made; their places in the list are their identities. -/
structure ProviderProfileService where
  repository : MetadataSnapshot
  hasTurnCoordinator : Bool
  providers : List ManagedProvider := []
  activeProvider : Option ProviderRef := none
  runtimeProfileId : Option ProfileId := none
  runtimeProfileSnapshot : Option ProviderProfile := none
  runtimeActivationOptions : Option ProviderActivationOptions := none
  retiringProviders : List ProviderRef := []
  candidateCleanupPending : List ProviderRef := []
  lifecycleState : ProviderLifecycleState := .inactive
  closed : Bool := false

/-- What the service raises. -/
inductive Failure where
  | cancelled
  | service (message : String)
  | metadata (error : MetadataError)
  | value (message : String)
  | delegate
deriving DecidableEq, Repr

/-- Where an operation is suspended. An activation past the check of the profile keeps the profile it has read. -/
inductive Await where
  | coordinating (oldProfileId newProfileId : ProfileId) (handling : ActiveTurnHandling) (profile : ProviderProfile)
  | closing (provider : ProviderRef) (profile : Option ProviderProfile)

/-- How an awaited call ends. -/
inductive Answer where
  | returned | raised | cancelled
deriving DecidableEq, Repr

/-- An operation under the switch lock. -/
abbrev Operation (α : Type) := Coroutine Await Answer ProviderProfileService Failure α

/-- A method that does not suspend. -/
abbrev Method (α : Type) := EStateM Failure ProviderProfileService α

namespace ManagedProvider

def revoke (p : ManagedProvider) : ManagedProvider := { p with acceptingRequests := false }

def resume (p : ManagedProvider) : ManagedProvider := { p with acceptingRequests := true }

end ManagedProvider

namespace ProviderProfileService

variable (s : ProviderProfileService)

def onProvider (provider : ProviderRef) (f : ManagedProvider → ManagedProvider) : ProviderProfileService :=
  { s with providers := s.providers.modify provider f }

/-- The delegate's `aclose` has returned. -/
def markClosed (provider : ProviderRef) : ProviderProfileService :=
  s.onProvider provider fun p => { p with closeReturned := true }

/-- A delegate is returned by the factory and wrapped. -/
def make (p : ManagedProvider) : ProviderProfileService :=
  { s with providers := s.providers ++ [p] }

def tracked : TrackedSet → List ProviderRef
  | .retiring => s.retiringProviders
  | .candidateCleanup => s.candidateCleanupPending

def track (set : TrackedSet) (provider : ProviderRef) : ProviderProfileService :=
  match set with
  | .retiring => { s with retiringProviders := insertKey s.retiringProviders provider }
  | .candidateCleanup => { s with candidateCleanupPending := insertKey s.candidateCleanupPending provider }

def untrack (set : TrackedSet) (provider : ProviderRef) : ProviderProfileService :=
  match set with
  | .retiring => { s with retiringProviders := popKey s.retiringProviders provider }
  | .candidateCleanup => { s with candidateCleanupPending := popKey s.candidateCleanupPending provider }

def clearRuntime : ProviderProfileService :=
  { s with activeProvider := none, runtimeProfileId := none, runtimeProfileSnapshot := none
           runtimeActivationOptions := none }

def withLifecycle (lifecycleState : ProviderLifecycleState) : ProviderProfileService :=
  { s with lifecycleState }

/-- A published provider with its runtime data. -/
structure Runtime where
  provider : ProviderRef
  profileId : ProfileId
  snapshot : ProviderProfile
  options : ProviderActivationOptions

/-- The active provider with its runtime data, if they are there. -/
def runtime (provider : ProviderRef) : Option Runtime :=
  match s.runtimeProfileId, s.runtimeProfileSnapshot, s.runtimeActivationOptions with
  | some profileId, some snapshot, some options => some { provider, profileId, snapshot, options }
  | _, _, _ => none

def withRuntime (r : Runtime) : ProviderProfileService :=
  { s with
    activeProvider := some r.provider
    runtimeProfileId := some r.profileId
    runtimeProfileSnapshot := some r.snapshot
    runtimeActivationOptions := some r.options
    lifecycleState := .active }

def HasPendingCleanup : Prop :=
  s.retiringProviders ≠ [] ∨ s.candidateCleanupPending ≠ []

instance (s : ProviderProfileService) : Decidable s.HasPendingCleanup := inferInstanceAs (Decidable (_ ∨ _))

end ProviderProfileService

open ProviderProfileService

/-! ## The mutations of the metadata -/

/-- A call of the repository whose failure passes through. -/
def fromRepository {α : Type} (x : Except MetadataError α) : Method α :=
  match x with
  | .ok a => pure a
  | .error e => throw (.metadata e)

/-- `except (ProviderProfilePolicyError, ProviderMetadataError)`: a policy refusal is reported under the message of
the operation, a refused value passes through. -/
def fromPolicy {α : Type} (message : String) (x : Except ProfileError α) : Method α :=
  match x with
  | .ok a => pure a
  | .error (.policy _) => throw (.service message)
  | .error (.value text) => throw (.value text)

/-- Replace the document; a failure is reported under the message of the operation. -/
def persist (message : String) (x : Except MetadataError MetadataSnapshot) : Method Unit :=
  match x with
  | .ok repository => modify fun s => { s with repository }
  | .error _ => throw (.service message)

/-- How the document answers the calls of one mutation. -/
structure MutationIo where
  get : DocumentIo := {}
  binding : DocumentIo := {}
  save : DocumentIo := {}
deriving DecidableEq, Repr

def requireBinding (io : DocumentIo) (providerId : ProviderId) (credentialId : Option CredentialId) :
    Method Unit := do
  match credentialId with
  | none => return ()
  | some credentialId =>
    let binding ← fromRepository ((← get).repository.getCredentialBinding io credentialId)
    if binding.all fun b => b.providerId ≠ providerId then
      throw (.service "The credential binding does not match the provider.")

variable (io : MutationIo)

def createCredentialBinding (providerId : ProviderId) (credentialId : CredentialId)
    (displayName : Text) : Method Unit := do
  let existing ← fromRepository ((← get).repository.getCredentialBinding io.get credentialId)
  if existing.isSome then throw (.service "The credential identifier is already registered.")
  let message := "The credential binding could not be created safely."
  let binding ← fromPolicy message (buildSupportedCredentialBinding providerId credentialId displayName)
  persist message ((← get).repository.saveCredentialBinding io.save binding)

def deleteCredentialBinding (credentialId : CredentialId) : Method Unit := do
  persist "The credential binding could not be deleted safely."
    ((← get).repository.deleteCredentialBinding io.save credentialId)

/-- The arguments of `create_profile`; `profileId` is the given identifier or the generated one. -/
structure NewProfile where
  providerId : ProviderId
  displayName : Text
  model : Text
  credentialId : Option CredentialId := none
  profileId : ProfileId
deriving DecidableEq

/-- What the policy makes of the arguments. -/
def NewProfile.build (new : NewProfile) : Except ProfileError ProviderProfile :=
  buildSupportedProfile new.profileId new.displayName new.model new.providerId new.credentialId

def createProfile (new : NewProfile) : Method Unit := do
  let existing ← fromRepository ((← get).repository.getProfile io.get new.profileId)
  if existing.isSome then throw (.service "The provider profile identifier already exists.")
  requireBinding io.binding new.providerId new.credentialId
  let message := "The provider profile could not be created safely."
  let profile ← fromPolicy message new.build
  persist message ((← get).repository.saveProfile io.save profile)

/-- The arguments of `update_profile`: what is left out stays. -/
structure ProfileUpdate where
  profileId : ProfileId
  displayName : Option Text := none
  model : Option Text := none
  credentialId : Option CredentialId := none
deriving DecidableEq

/-- The part of `update_profile` that guards the runtime profile: its model and its credential stay. -/
def checkRuntimeProfile (update : ProfileUpdate) (existing : ProviderProfile)
    (selectedCredentialId : Option CredentialId) (runtimeSnapshot : Option ProviderProfile) : Method Unit :=
  match runtimeSnapshot with
  | none => throw (.service "The active profile differs from its runtime snapshot.")
  | some snapshot => do
    if ¬existing.SameConfiguration snapshot then
      throw (.service "The active profile differs from its runtime snapshot.")
    if (∃ model ∈ update.model, model ≠ snapshot.model) ∨ selectedCredentialId ≠ snapshot.credentialId then
      throw (.service "Stop or switch the active Provider before changing its model or credential.")

/-- The part of `update_profile` that builds the profile and stores it, in the runtime snapshot as well. -/
def storeUpdate (update : ProfileUpdate) (existing : ProviderProfile)
    (selectedCredentialId : Option CredentialId) (isRuntimeProfile : Bool) : Method Unit := do
  requireBinding io.binding existing.providerId selectedCredentialId
  let message := "The provider profile could not be updated safely."
  let updated ← fromPolicy message (buildSupportedProfile existing.profileId
    (update.displayName.getD existing.displayName) (update.model.getD existing.model) existing.providerId
    selectedCredentialId)
  persist message ((← get).repository.saveProfile io.save updated)
  if isRuntimeProfile then modify fun s => { s with runtimeProfileSnapshot := some updated }

def updateProfile (update : ProfileUpdate) : Method Unit := do
  let s ← get
  match ← fromRepository (s.repository.getProfile io.get update.profileId) with
  | none => throw (.service "The provider profile does not exist.")
  | some existing => do
    if s.lifecycleState = .switching ∨ s.lifecycleState = .cleanupPending then
      throw (.service "Provider metadata cannot be changed during lifecycle cleanup.")
    let selectedCredentialId := update.credentialId.or existing.credentialId
    if s.runtimeProfileId = some update.profileId then do
      checkRuntimeProfile update existing selectedCredentialId s.runtimeProfileSnapshot
      storeUpdate io update existing selectedCredentialId true
    else storeUpdate io update existing selectedCredentialId false

def deleteProfile (profileId : ProfileId) : Method Unit := do
  let s ← get
  if s.runtimeProfileId = some profileId then
    throw (.service "The active runtime profile cannot be deleted.")
  persist "The provider profile could not be deleted safely." (s.repository.deleteProfile io.save profileId)

/-! ## The operations under the lock -/

/-- `_ManagedProvider.aclose`: revoke, then the delegate's own `aclose`. -/
def acloseProvider (profile : Option ProviderProfile) (provider : ProviderRef) : Operation Unit := do
  modify fun s => s.onProvider provider ManagedProvider.revoke
  match ← Coroutine.await (Await.closing provider profile) with
  | .cancelled => Coroutine.raise .cancelled
  | .raised => Coroutine.raise .delegate
  | .returned => modify fun s => s.markClosed provider

/-- Close one provider and stop tracking it once its `aclose` has returned. -/
def closeTrackedProvider (profile : Option ProviderProfile) (provider : ProviderRef) (set : TrackedSet) :
    Operation Bool := do
  match ← (acloseProvider profile provider).attempt with
  | .error .cancelled => do
    modify fun s => s.withLifecycle .cleanupPending
    Coroutine.raise .cancelled
  | .error _ => return false
  | .ok _ => do
    modify fun s => s.untrack set provider
    return true

/-- Close the providers of a dictionary one after the other; the answer says whether all of them closed. -/
def closeTrackedProviders (set : TrackedSet) : List ProviderRef → Operation Bool
  | [] => return true
  | provider :: rest => do
    let closed ← closeTrackedProvider none provider set
    let others ← closeTrackedProviders set rest
    return closed && others

/-- Retry what is still tracked, the retiring providers first. -/
def retryPendingCleanupLocked : Operation Unit := do
  let s ← get
  if ¬s.HasPendingCleanup then return ()
  else do
    modify fun s => s.withLifecycle .switching
    let retired ← closeTrackedProviders .retiring s.retiringProviders
    let candidates ← closeTrackedProviders .candidateCleanup (← get).candidateCleanupPending
    if !(retired && candidates) then do
      modify fun s => s.withLifecycle .cleanupPending
      Coroutine.raise (.service "Pending Provider cleanup could not be completed safely.")
    else modify fun s => s.withLifecycle (if s.closed then .closed else .inactive)

/-- A delegate as the factory returns it: its name and protocol, unless reading them raises. -/
structure Delegate where
  name : Option Text
  protocol : Option ApiProtocol
deriving DecidableEq

/-- The arguments of `activate_profile`, and how its calls of the repository and of the factory end. -/
structure Activation where
  profileId : ProfileId
  options : ProviderActivationOptions
  turnHandling : Option ActiveTurnHandling := none
  continuation : Option ProviderContinuation := none
  getIo : DocumentIo := {}
  bindingsIo : DocumentIo := {}
  activeIo : DocumentIo := {}
  factory : List CredentialBinding → ProviderProfile → ProviderActivationOptions → Option Delegate

/-- The continuation belongs to the active profile. -/
def ValidatesContinuation (s : ProviderProfileService) (profileId : ProfileId) (continuation : ProviderContinuation) :
    Prop :=
  s.runtimeProfileId = some profileId ∧ s.activeProvider ≠ none ∧ continuation.profileId = some profileId ∧
    ∃ profile ∈ s.runtimeProfileSnapshot, profile.profileId = profileId ∧
      continuation.providerName = profile.providerId.value

instance (s : ProviderProfileService) (profileId : ProfileId) (continuation : ProviderContinuation) :
    Decidable (ValidatesContinuation s profileId continuation) :=
  inferInstanceAs (Decidable (_ ∧ _ ∧ _ ∧ _))

/-- The delegate is not what the profile asks for. -/
def Delegate.IdentityFails (delegate : Delegate) (profile : ProviderProfile) : Prop :=
  delegate.name ≠ some profile.providerId.value ∨ delegate.protocol ≠ some profile.protocol

instance (delegate : Delegate) (profile : ProviderProfile) : Decidable (delegate.IdentityFails profile) :=
  inferInstanceAs (Decidable (_ ∨ _))

/-- The factory built over the stored bindings makes a delegate, unless a call raises or returns nothing. -/
def constructDelegate (a : Activation) (s : ProviderProfileService) (profile : ProviderProfile) : Option Delegate :=
  match s.repository.listCredentialBindings a.bindingsIo with
  | .ok bindings => a.factory bindings profile a.options
  | .error _ => none

/-- Close a candidate that cannot become the active provider, and report why. -/
def discardCandidate (provider : ProviderRef) (notClosed reason : String) : Operation ProviderRef := do
  modify fun s => s.track .candidateCleanup provider
  if !(← closeTrackedProvider none provider .candidateCleanup) then do
    modify fun s => s.withLifecycle .cleanupPending
    Coroutine.raise (.service notClosed)
  else do
    modify fun s => s.withLifecycle .inactive
    Coroutine.raise (.service reason)

/-- Construct the new provider from the profile and publish it. -/
def publish (a : Activation) (profile : ProviderProfile) : Operation ProviderRef := do
  let s ← get
  match constructDelegate a s profile with
  | none => do
    modify fun s => s.withLifecycle .inactive
    Coroutine.raise (.service "The selected Provider could not be constructed safely.")
  | some delegate => do
    let provider := s.providers.length
    modify fun s => s.make
      { profileId := a.profileId, expectedProviderName := profile.providerId.value, builtFrom := profile }
    if delegate.IdentityFails profile then
      discardCandidate provider "The invalid candidate Provider could not be closed safely."
        "The selected Provider identity does not match the active profile."
    else
      match s.repository.setActiveProfileId a.activeIo a.profileId with
      | .error _ =>
        discardCandidate provider "The candidate Provider could not be closed after active profile persistence failed."
          "The active profile could not be persisted safely."
      | .ok repository => do
        modify fun s => { s with repository }
        modify fun s => s.withRuntime { provider, profileId := a.profileId, snapshot := profile, options := a.options }
        return provider

/-- Publish the replaced provider again. -/
def restore (old : Runtime) (s : ProviderProfileService) : ProviderProfileService :=
  ((s.untrack .retiring old.provider).onProvider old.provider ManagedProvider.resume).withRuntime old

/-- Revoke the old provider, quiesce the active turn and close it. -/
def retire (a : Activation) (profile : ProviderProfile) (old : Runtime) (handling : ActiveTurnHandling) :
    Operation Unit := do
  modify fun s => (((s.withLifecycle .switching).onProvider old.provider ManagedProvider.revoke).clearRuntime).track
    .retiring old.provider
  match ← Coroutine.await (Await.coordinating old.profileId a.profileId handling profile) with
  | .cancelled => do
    modify (restore old)
    Coroutine.raise .cancelled
  | .raised => do
    modify (restore old)
    Coroutine.raise (.service "The active Agent turn could not be quiesced safely.")
  | .returned =>
    if !(← closeTrackedProvider (some profile) old.provider .retiring) then do
      modify fun s => s.withLifecycle .cleanupPending
      Coroutine.raise (.service "The previous Provider could not be closed safely.")

/-- Close the old provider before constructing and publishing the new. -/
def activateProfile (a : Activation) : Operation ProviderRef := do
  retryPendingCleanupLocked
  let s ← get
  if s.closed then Coroutine.raise (.service "The Provider profile service is closed.")
  else match s.repository.getProfile a.getIo a.profileId with
  | .error e => Coroutine.raise (.metadata e)
  | .ok none => Coroutine.raise (.service "The provider profile does not exist.")
  | .ok (some profile) =>
    if ∃ continuation ∈ a.continuation, ¬ValidatesContinuation s a.profileId continuation then
      Coroutine.raise (.service "The continuation does not belong to the active profile.")
    else match s.activeProvider with
    | none => do
      modify fun s => s.withLifecycle .switching
      publish a profile
    | some provider =>
      if s.runtimeProfileId = some a.profileId then
        if s.runtimeProfileSnapshot = some profile ∧ s.runtimeActivationOptions = some a.options then
          return provider
        else Coroutine.raise (.service
          "The active profile or activation options changed; switch or stop it before rebuilding.")
      else match s.runtime provider, a.turnHandling, s.hasTurnCoordinator with
      | some old, some handling, true => do
        retire a profile old handling
        publish a profile
      | _, _, _ => Coroutine.raise (.service "Provider switching requires an explicit turn policy.")

/-- The service takes no further activations, and its active provider retires. -/
def beginClose (s : ProviderProfileService) : ProviderProfileService :=
  match s.activeProvider with
  | some provider =>
    ((({ s with closed := true }).onProvider provider ManagedProvider.revoke).track .retiring provider).clearRuntime
  | none => ({ s with closed := true }).clearRuntime

/-- Retry and close every retained provider. -/
def aclose : Operation Unit := do
  modify beginClose
  retryPendingCleanupLocked
  modify fun s => s.withLifecycle .closed

/-! ## The system -/

/-- The calls that take the lock. -/
inductive Call where
  | activate (a : Activation)
  | close

/-- The calls that do not. -/
inductive Mutation where
  | createProfile (io : MutationIo) (new : NewProfile)
  | updateProfile (io : MutationIo) (update : ProfileUpdate)
  | deleteProfile (io : MutationIo) (profileId : ProfileId)
  | createCredentialBinding (io : MutationIo) (providerId : ProviderId) (credentialId : CredentialId)
      (displayName : Text)
  | deleteCredentialBinding (io : MutationIo) (credentialId : CredentialId)

/-- A call under the lock, with the provider it returns. -/
def Call.body : Call → Operation (Option ProviderRef)
  | .activate a => do return some (← activateProfile a)
  | .close => do
    aclose
    return none

def Mutation.method : Mutation → Method Unit
  | .createProfile io new => ProfileService.createProfile io new
  | .updateProfile io update => ProfileService.updateProfile io update
  | .deleteProfile io profileId => ProfileService.deleteProfile io profileId
  | .createCredentialBinding io providerId credentialId displayName =>
    ProfileService.createCredentialBinding io providerId credentialId displayName
  | .deleteCredentialBinding io credentialId => ProfileService.deleteCredentialBinding io credentialId

/-- A mutation leaves what it wrote, also when it raises. -/
def Mutation.apply (m : Mutation) (s : ProviderProfileService) : ProviderProfileService := stateAfter m.method s

/-- The service with the calls on it: the holder of the lock, those that wait for it, and those that have ended. -/
abbrev System := Locked Call Await Answer ProviderProfileService Failure (Option ProviderRef)

abbrev Event := LockEvent Call Answer Mutation

def System.step : System → Event → System := Locked.step Call.body Mutation.apply

/-- A service as it is constructed. -/
def System.Initial (s : System) : Prop :=
  ∃ repository hasTurnCoordinator, s = { shared := { repository, hasTurnCoordinator } }

end ArkClaw.Provider.ProfileService
