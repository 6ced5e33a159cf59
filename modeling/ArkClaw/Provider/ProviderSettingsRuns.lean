import ArkClaw.Provider.ProviderSettingsService

/-!
# Runs of the provider settings service

A settings command that returns has found the service settled: nothing is being switched or cleaned up. Then the
only provider that is not closed is the active one, and the runtime profile identifier and the runtime snapshot,
which the guards of the commands look at, are its own. So no command touches what a provider runs on, from the
moment its profile is read until it is closed. Its display name is not something it runs on.
-/

namespace ArkClaw.Provider.ProfileService

open ArkClaw.Library ArkClaw.Domain ProviderProfileService

variable {t t' : ProviderSettingsService}

/-! ## What a command does -/

/-- A refusal leaves the service and its secrets as they were. -/
def SettingsUnchanged (t : ProviderSettingsService) (_ : SettingsFailure) (t' : ProviderSettingsService) : Prop := t' = t

/-- Nothing is being switched, cleaned up or closed. -/
structure Settled (t : ProviderSettingsService) : Prop where
  not_switching : t.lifecycleState ≠ .switching
  not_pending : t.lifecycleState ≠ .cleanupPending
  not_closed : t.lifecycleState ≠ .closed

/-- What a command that returns has done: it keeps what the active provider runs on. -/
structure Performed (t t' : ProviderSettingsService) : Prop where
  settled : Settled t
  service : KeepsRuntime t.toProviderProfileService t'.toProviderProfileService
  secret : ∀ profile ∈ t.runtimeProfileSnapshot, ∀ id, profile.credentialId = some id →
    t'.settingsSecretStore id = t.settingsSecretStore id

section

variable {α : Type} {Q : α → ProviderSettingsService → Prop} {R : SettingsFailure → ProviderSettingsService → Prop}

theorem wp_requireMutationAllowed {Q : Unit → ProviderSettingsService → Prop} (hQ : Settled t → Q () t)
    (hR : ∀ e, R e t) : Wp requireMutationAllowed Q R t := by
  unfold requireMutationAllowed
  refine wp_get_bind.mpr (wp_check (hR _) fun hpending => ?_)
  refine wp_ite.mpr ⟨fun _ => hR _, fun hblocked => hQ ⟨?_, hpending, ?_⟩⟩
  · exact fun hswitching => hblocked (Or.inl hswitching)
  · exact fun hclosed => hblocked (Or.inr hclosed)

theorem wp_requireSettingsProvider {providerId : ProviderId} {Q : Unit → ProviderSettingsService → Prop} (hQ : Q () t)
    (hR : ∀ e, R e t) : Wp (requireSettingsProvider providerId) Q R t :=
  wp_ite.mpr ⟨fun _ => hR _, fun _ => hQ⟩

/-- A read of the repository changes nothing. -/
theorem wp_readService {x : Except MetadataError α} (hQ : ∀ a, x = .ok a → Q a t) (hR : ∀ e, R e t) :
    Wp (fromService .inherited (fromRepository x)) Q R t := by
  unfold fromService
  rw [wp_adaptExcept, wp_onPart]
  exact wp_fromRepository hQ fun e => hR _

theorem wp_requireSupportedBinding {io : DocumentIo} {credentialId : CredentialId}
    {Q : Unit → ProviderSettingsService → Prop} (hQ : Q () t) (hR : ∀ e, R e t) :
    Wp (requireSupportedBinding io credentialId) Q R t := by
  unfold requireSupportedBinding
  refine wp_get_bind.mpr (wp_bind.mpr (wp_readService ?_ hR))
  rintro found -
  cases found with
  | none => exact hR _
  | some binding =>
    dsimp only
    split
    next => exact hQ
    next => exact hR _
    next => exact hR _

theorem wp_requireInactiveCredential {credentialId : CredentialId} {Q : Unit → ProviderSettingsService → Prop}
    (hQ : (∀ profile ∈ t.runtimeProfileSnapshot, profile.credentialId ≠ some credentialId) → Q () t)
    (hR : ∀ e, R e t) : Wp (requireInactiveCredential credentialId) Q R t := by
  unfold requireInactiveCredential
  refine wp_get_bind.mpr (wp_ite.mpr ⟨fun _ => hR _, fun hinactive => hQ ?_⟩)
  exact fun profile hprofile hthis => hinactive ⟨profile, hprofile, hthis⟩

theorem wp_settingsProfile {existing : Option ProviderProfile} {Q : ProviderProfile → ProviderSettingsService → Prop}
    (hQ : ∀ p, Q p t) (hR : ∀ e, R e t) : Wp (settingsProfile existing) Q R t := by
  unfold settingsProfile
  cases existing with
  | none => exact hR _
  | some existing => exact wp_ite.mpr ⟨fun _ => hQ _, fun _ => hR _⟩

end

/-- A mutation of the profile service behind a guard. -/
theorem fromService_spec (m : Mutation) (report : Failure → SettingsFailure) (hsettled : Settled t) :
    Wp (fromService report m.method) (fun _ => Performed t) (SettingsUnchanged t) t := by
  unfold fromService
  rw [wp_adaptExcept, wp_onPart]
  refine (m.spec t.toProviderProfileService).mono ?_ ?_
  · exact fun _ s' hkeeps => ⟨hsettled, hkeeps, fun _ _ _ _ => rfl⟩
  · rintro e _ rfl
    rfl

/-- The secret of another credential than the active one is written. -/
theorem writeSecret_spec (io : CredentialIo) (failure : SettingsFailure) {credentialId : CredentialId}
    (value : Option SecretValue) (hsettled : Settled t)
    (hinactive : ∀ profile ∈ t.runtimeProfileSnapshot, profile.credentialId ≠ some credentialId) :
    Wp (writeSecret io failure credentialId value) (fun _ => Performed t) (SettingsUnchanged t) t := by
  unfold writeSecret
  refine wp_ite.mpr ⟨fun _ => rfl, fun _ => wp_modify.mpr ⟨hsettled, .refl _, ?_⟩⟩
  intro profile hprofile id hid
  apply Function.update_of_ne
  rintro rfl
  exact hinactive profile hprofile hid

/-- A command keeps what the active provider runs on, or it raises and changes nothing. -/
theorem SettingsCommand.spec (command : SettingsCommand) (t : ProviderSettingsService) :
    Wp command.method (fun _ => Performed t) (SettingsUnchanged t) t := by
  have hunchanged : ∀ e, SettingsUnchanged t e t := fun _ => rfl
  cases command with
  | createSettingsProfile io new =>
    refine wp_bind.mpr (wp_requireMutationAllowed (fun hsettled => ?_) hunchanged)
    refine wp_bind.mpr (wp_requireSettingsProvider ?_ hunchanged)
    exact fromService_spec (.createProfile io new) _ hsettled
  | updateSettingsProfile existingIo io update =>
    refine wp_bind.mpr (wp_requireMutationAllowed (fun hsettled => ?_) hunchanged)
    refine wp_get_bind.mpr (wp_bind.mpr (wp_readService ?_ hunchanged))
    rintro found -
    refine wp_bind.mpr (wp_settingsProfile (fun existing => ?_) hunchanged)
    refine wp_check (hunchanged _) fun _ => ?_
    exact fromService_spec (.updateProfile io update.toUpdate) _ hsettled
  | deleteSettingsProfile io profileId =>
    refine wp_bind.mpr (wp_requireMutationAllowed (fun hsettled => ?_) hunchanged)
    refine wp_get_bind.mpr (wp_check (hunchanged _) fun _ => ?_)
    exact fromService_spec (.deleteProfile io profileId) _ hsettled
  | saveCredential io credentialId secret =>
    refine wp_bind.mpr (wp_requireMutationAllowed (fun hsettled => ?_) hunchanged)
    refine wp_bind.mpr (wp_requireSupportedBinding ?_ hunchanged)
    refine wp_bind.mpr (wp_requireInactiveCredential (fun hinactive => ?_) hunchanged)
    cases SecretValue.create? secret with
    | none => exact wp_throw.mpr rfl
    | some value => exact writeSecret_spec io _ (some value) hsettled hinactive
  | deleteCredential io credentialId =>
    refine wp_bind.mpr (wp_requireMutationAllowed (fun hsettled => ?_) hunchanged)
    refine wp_bind.mpr (wp_requireSupportedBinding ?_ hunchanged)
    refine wp_bind.mpr (wp_requireInactiveCredential (fun hinactive => ?_) hunchanged)
    exact writeSecret_spec io _ none hsettled hinactive

/-- What a command leaves: either nothing has happened, or it was performed. -/
theorem SettingsCommand.outcome (command : SettingsCommand) (t : ProviderSettingsService) :
    command.apply t = t ∨ Performed t (command.apply t) :=
  Wp.stateAfter ((command.spec t).mono (fun _ _ => Or.inr) fun _ _ => Or.inl)

theorem SettingsCommand.keepsRuntime (command : SettingsCommand) (t : ProviderSettingsService) :
    KeepsRuntime t.toProviderProfileService (command.apply t).toProviderProfileService := by
  rcases command.outcome t with hsame | hperformed
  · rw [hsame]
    exact .refl _
  · exact hperformed.service

/-- No command is performed while an operation is suspended. -/
theorem SettingsCommand.refused (command : SettingsCommand) (hswitching : t.lifecycleState = .switching) :
    command.apply t = t :=
  (command.outcome t).resolve_right fun hperformed => hperformed.settled.not_switching hswitching

/-! ## The invariant of the system -/

/-- The invariant of the profile service, of the service inside. -/
def SettingsBetween (ended : List (Call × Except Failure (Option ProviderRef))) (t : ProviderSettingsService) : Prop :=
  Between True ended t.toProviderProfileService

def SettingsSuspended (ended : List (Call × Except Failure (Option ProviderRef))) (point : Await)
    (t : ProviderSettingsService) : Prop :=
  Suspended ended point t.toProviderProfileService

/-- The service inside drifts. -/
def SettingsDrift (point : Await) (t t' : ProviderSettingsService) : Prop :=
  Drift True point t.toProviderProfileService t'.toProviderProfileService

theorem keeps_settingsBetween : Locked.Keeps Call.settingsBody SettingsCommand.apply (fun _ _ _ => True) SettingsDrift
    SettingsSuspended SettingsBetween where
  operation ended t call h := by
    have hcall := (keeps_between True).operation ended t.toProviderProfileService call h
    exact Coroutine.Wp.onPart (fun _ _ => rfl) (fun _ _ _ => id) (fun _ _ => id) (fun _ _ => id) (fun _ _ => id) hcall
  mutation ended t command h _ :=
    ⟨h.1.keepsRuntime (command.keepsRuntime t), fun hclosed => (h.2 hclosed).keepsRuntime (command.keepsRuntime t)⟩
  interferes ended point t command hsuspended _ := by
    rw [command.refused hsuspended.1]
    exact Drift.refl True point t.toProviderProfileService
  stable ended point t t' hsuspended hdrift := (keeps_between True).stable ended point _ _ hsuspended hdrift
  refl point t := Drift.refl True point t.toProviderProfileService
  trans _ _ _ _ h h' := Drift.trans h h'

/-- Every run keeps the invariant. -/
theorem run_settingsBetween {s₀ : SettingsSystem} (h : s₀.Initial) (events : List SettingsEvent) :
    Locked.Invariant SettingsDrift SettingsSuspended SettingsBetween (run SettingsSystem.step s₀ events) := by
  obtain ⟨repository, hasTurnCoordinator, secrets, rfl⟩ := h
  refine Locked.run_invariant keeps_settingsBetween rfl ?_ (StepsMeet.of_forall (fun s event => ?_) _ events)
  · exact (System.Initial.between ⟨repository, hasTurnCoordinator, rfl⟩ True).2
  · cases event <;> trivial

/-! ## What is in use is left alone -/

/-- The profile is in use: an activation has read it and is suspended, or a provider built from it is not closed. -/
def InUse (s : SettingsSystem) (profile : ProviderProfile) : Prop :=
  (∃ point ∈ s.point, profile ∈ point.profile) ∨ ∃ p ∈ s.shared.providers, p.closeReturned = false ∧ p.builtFrom = profile

/-- What a provider built from the profile runs on is the same, and so is the secret. -/
structure LeftAlone (profile : ProviderProfile) (t t' : ProviderSettingsService) : Prop where
  stored : StaysConfigured (profileOf t.repository.profiles profile.profileId)
    (profileOf t'.repository.profiles profile.profileId)
  secret : ∀ id, profile.credentialId = some id → t'.settingsSecretStore id = t.settingsSecretStore id

/-- While the lock is free and nothing waits for cleanup, the provider that is not closed is the active one. -/
theorem Free.active_of_open {kept : Prop} {s : ProviderProfileService} (h : Free kept s) (hclean : ¬s.HasPendingCleanup)
    {p : ManagedProvider} (hp : p ∈ s.providers) (hopen : p.closeReturned = false) : Published kept s p := by
  obtain ⟨provider, hprovider⟩ := List.mem_iff_getElem?.mp hp
  rcases h.accounted.active_or_closed hclean hprovider with hactive | hclosed
  · obtain ⟨p', hp', hpublished⟩ := h.published provider hactive
    obtain rfl := Option.some.inj (hprovider.symm.trans hp')
    exact hpublished
  · rw [hclosed] at hopen
    cases hopen

/-- A command that is performed leaves the active provider's profile and secret alone. -/
theorem Performed.leftAlone {p : ManagedProvider} (h : Performed t t')
    (hpublished : Published True t.toProviderProfileService p) : LeftAlone p.builtFrom t t' := by
  constructor
  · rw [hpublished.builtFrom]
    exact h.service.stored p.profileId hpublished.runtimeProfileId hpublished.active
  · intro id hid
    obtain ⟨snapshot, hsnapshot, hsame⟩ := hpublished.snapshot
    have hcredential : snapshot.credentialId = p.builtFrom.credentialId := by rw [← hsame]
    exact h.secret snapshot hsnapshot id (hcredential.trans hid)

/-- In every run, a settings command leaves alone what is in use, but for a display name; and a command that raises
changes nothing. -/
theorem commands_leave_in_use_alone (s₀ : SettingsSystem) (events : List SettingsEvent) (command : SettingsCommand)
    (h : s₀.Initial) : (∀ profile, InUse (run SettingsSystem.step s₀ events) profile →
      LeftAlone profile (run SettingsSystem.step s₀ events).shared
        (command.apply (run SettingsSystem.step s₀ events).shared)) ∧
    ∀ e t', command.method.run (run SettingsSystem.step s₀ events).shared = .error e t' →
      t' = (run SettingsSystem.step s₀ events).shared := by
  have hinvariant := run_settingsBetween h events
  generalize run SettingsSystem.step s₀ events = s at *
  refine ⟨fun profile huse => ?_, fun e t' hraises => (command.spec s.shared).of_raise hraises⟩
  rcases command.outcome s.shared with hsame | hperformed
  · rw [hsame]
    exact ⟨.refl _, fun _ _ => rfl⟩
  -- a command that is performed finds the lock free
  have hfree : s.holder = none := by
    by_contra hheld
    obtain ⟨point, hswitching, -⟩ := hinvariant.of_held hheld
    exact hperformed.settled.not_switching hswitching
  have hbetween := (hinvariant.of_free hfree).1
  have hclean : ¬s.shared.HasPendingCleanup := fun hpending =>
    hperformed.settled.not_pending (hbetween.lifecycle.trans (restingState_pending hpending))
  rcases huse with ⟨point, hpoint, -⟩ | ⟨p, hp, hopen, rfl⟩
  · unfold Locked.point at hpoint
    rw [hfree] at hpoint
    cases hpoint
  · exact hperformed.leftAlone (hbetween.active_of_open hclean hp hopen)

/-- A service with two profiles of the fake provider and no secrets. -/
def settingsSystem : SettingsSystem := { shared := { repository := twoFakes, hasTurnCoordinator := true } }

theorem settingsSystem_initial : settingsSystem.Initial := ⟨twoFakes, true, fun _ => none, rfl⟩

/-- The first profile is activated. -/
def activatedRun : List SettingsEvent := [.call (.activate (activationOf .fakeDefault)), .acquire 0]

/-- The command gives the active profile another display name. -/
def renameActive : SettingsCommand :=
  .updateSettingsProfile {} {} { profileId := .fakeDefault, displayName := lit "Renamed", model := lit "a"
                                 credentialId := none }

/-- The active profile is renamed, and nothing else of it changes. -/
theorem renamed_leaves_in_use_alone : ∃ profile, InUse (run SettingsSystem.step settingsSystem activatedRun) profile ∧
    LeftAlone profile (run SettingsSystem.step settingsSystem activatedRun).shared
      (renameActive.apply (run SettingsSystem.step settingsSystem activatedRun).shared) := by
  have huse : InUse (run SettingsSystem.step settingsSystem activatedRun) (fakeProfileOf .fakeDefault (lit "a")) :=
    Or.inr (by decide +kernel)
  exact ⟨_, huse, (commands_leave_in_use_alone _ activatedRun renameActive settingsSystem_initial).1 _ huse⟩

/-- The stored profile of the active provider does change: its display name may. -/
theorem renamed_while_in_use : ∃ (s₀ : SettingsSystem) (events : List SettingsEvent) (command : SettingsCommand)
    (profile : ProviderProfile), s₀.Initial ∧ InUse (run SettingsSystem.step s₀ events) profile ∧
      profileOf (command.apply (run SettingsSystem.step s₀ events).shared).repository.profiles profile.profileId ≠
        profileOf (run SettingsSystem.step s₀ events).shared.repository.profiles profile.profileId := by
  refine ⟨settingsSystem, activatedRun, renameActive, fakeProfileOf .fakeDefault (lit "a"), settingsSystem_initial,
    Or.inr (by decide +kernel), by decide +kernel⟩

end ArkClaw.Provider.ProfileService
