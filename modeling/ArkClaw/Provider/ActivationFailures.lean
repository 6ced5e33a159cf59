import ArkClaw.Provider.ProfileServiceRuns

/-!
# Activations that fail

An activation that replaces a provider first waits for the turn coordinator. If that fails or is cancelled, the service
is what it was (`Restored`): only the document may have been changed by a mutation in between. Behind the coordination
there is no way back: an activation that fails then leaves no provider active and the old one revoked, and every
provider is closed or retained (`Abandoned`).
-/

namespace ArkClaw.Provider.ProfileService

open ArkClaw.Library hiding wp_attempt wp_bind wp_get wp_ite wp_modify
open ArkClaw.Domain

open ProviderProfileService
open Coroutine (interference wp_raise Traces traces_advance wp_advance wp_attempt wp_await wp_bind wp_get
  wp_iff_ends wp_ite wp_modify)

variable {s s' : ProviderProfileService} {provider : ProviderRef}

/-- What the callers without the lock may do while an activation is suspended. -/
def MutatedBy (_ : Await) (s s' : ProviderProfileService) : Prop :=
  ∃ mutations : List Mutation, s' = mutations.foldl (fun s m => m.apply s) s

theorem MutatedBy.drift {point : Await} (hswitching : Switching point s) (h : MutatedBy point s s') :
    Drift False point s s' := by
  obtain ⟨mutations, rfl⟩ := h
  induction mutations generalizing s with
  | nil => exact .refl _ _ _
  | cons m rest ih =>
    have hfirst : Drift False point s (m.apply s) := m.drift hswitching False.elim
    have hstill : Switching point (m.apply s) := by
      unfold Switching at hswitching ⊢
      rw [hfirst.others]
      exact hswitching
    exact hfirst.trans (ih hstill)

/-- The service is what it was, but for the document, whose active profile is the same. -/
structure Restored (s s' : ProviderProfileService) : Prop where
  same : s' = { s with repository := s'.repository }
  activeProfileId : s'.repository.activeProfileId = s.repository.activeProfileId

/-- No provider is active, the old one accepts nothing, and every provider that was made is closed or retained. -/
structure Abandoned (provider : ProviderRef) (s : ProviderProfileService) : Prop where
  vacant : s.activeProvider = none
  revoked : ∃ p ∈ s.providers[provider]?, p.acceptingRequests = false
  kept : ∀ i < s.providers.length, s.At i .closed ∨ s.At i .retiring ∨ s.At i .candidate

/-! ## Behind the coordination -/

/-- The old provider is off: nothing is active, and it accepts nothing. -/
structure Off (provider : ProviderRef) (s : ProviderProfileService) : Prop where
  vacant : s.activeProvider = none
  revoked : ∃ p ∈ s.providers[provider]?, p.acceptingRequests = false

theorem Off.drift {point : Await} {kept : Prop} (h : Off provider s) (hdrift : Drift kept point s s') : Off provider s' := by
  rw [hdrift.others]
  exact ⟨h.vacant, h.revoked⟩

theorem Off.onProvider (h : Off provider s) {f : ManagedProvider → ManagedProvider}
    (hf : ∀ p, p.acceptingRequests = false → (f p).acceptingRequests = false) (other : ProviderRef) :
    Off provider (s.onProvider other f) := by
  refine ⟨h.vacant, ?_⟩
  obtain ⟨p, hp, hoff⟩ := h.revoked
  rw [onProvider_get]
  split
  · exact ⟨f p, by rw [Option.mem_def.mp hp]; rfl, hf p hoff⟩
  · exact ⟨p, hp, hoff⟩

theorem Off.congr (h : Off provider s) (hactive : s'.activeProvider = s.activeProvider)
    (hproviders : s'.providers = s.providers) : Off provider s' := by
  refine ⟨hactive.trans h.vacant, ?_⟩
  rw [hproviders]
  exact h.revoked

theorem closeTrackedProvider_off (profile : Option ProviderProfile) (other : ProviderRef) (set : TrackedSet)
    (h : Off provider s) {at_ : Await → ProviderProfileService → Prop} (hat : ∀ other profile s, at_ (.closing other profile) s) :
    (closeTrackedProvider profile other set).Wp (interference (Drift False) at_)
      (fun _ => Off provider) (fun _ => Off provider) s := by
  unfold closeTrackedProvider acloseProvider
  simp only [wp_bind, wp_attempt, wp_modify, wp_await]
  refine ⟨hat _ _ _, fun s' hdrift answer => ?_⟩
  have hoff : Off provider s' := (h.onProvider (fun _ _ => rfl) other).drift hdrift
  cases answer with
  | cancelled => exact hoff.congr rfl rfl
  | raised => exact hoff
  | returned =>
    have hmarked : Off provider (s'.markClosed other) :=
      @Off.onProvider s' provider hoff (fun p => { p with closeReturned := true }) (fun _ hp => hp) other
    refine hmarked.congr ?_ (untrack_providers set)
    cases set <;> rfl

theorem discardCandidate_off (other : ProviderRef) (notClosed reason : String) (h : Off provider s)
    {at_ : Await → ProviderProfileService → Prop} (hat : ∀ other profile s, at_ (.closing other profile) s) :
    (discardCandidate other notClosed reason).Wp (interference (Drift False) at_)
      (fun _ _ => True) (fun _ => Off provider) s := by
  unfold discardCandidate
  refine wp_bind.mpr (wp_modify.mpr (wp_bind.mpr ?_))
  have htracked : Off provider (s.track .candidateCleanup other) := h.congr rfl rfl
  refine (closeTrackedProvider_off none other .candidateCleanup htracked hat).imp (fun closed s' hoff => ?_)
  refine wp_ite.mpr ⟨fun _ => ?_, fun _ => ?_⟩ <;>
  exact wp_bind.mpr (wp_modify.mpr (wp_raise.mpr (hoff.congr rfl rfl)))

theorem publish_off (a : Activation) (profile : ProviderProfile) (h : Off provider s)
    {at_ : Await → ProviderProfileService → Prop} (hat : ∀ other profile s, at_ (.closing other profile) s) :
    (publish a profile).Wp (interference (Drift False) at_) (fun _ _ => True) (fun _ => Off provider) s := by
  unfold publish
  refine wp_bind.mpr (wp_get.mpr ?_)
  split
  next =>
    exact wp_bind.mpr (wp_modify.mpr (wp_raise.mpr (h.congr rfl rfl)))
  next delegate _ =>
    refine wp_bind.mpr (wp_modify.mpr ?_)
    have hmade : ∀ p, Off provider (s.make p) := by
      intro p
      obtain ⟨q, hq, hoff⟩ := h.revoked
      refine ⟨h.vacant, q, ?_, hoff⟩
      exact List.getElem?_append_left (List.getElem?_eq_some_iff.mp hq).1 ▸ hq
    refine wp_ite.mpr ⟨fun _ => discardCandidate_off _ _ _ (hmade _) hat, fun _ => ?_⟩
    split
    next => exact discardCandidate_off _ _ _ (hmade _) hat
    next => exact trivial

/-! ## The activation as a whole -/

/-- What is left of retiring the old provider when the coordinator has answered. -/
def afterCoordination (profile : ProviderProfile) (old : Runtime) : Answer → Operation Unit
  | .cancelled => do
    modify (restore old)
    Coroutine.raise .cancelled
  | .raised => do
    modify (restore old)
    Coroutine.raise (.service "The active Agent turn could not be quiesced safely.")
  | .returned => do
    if !(← closeTrackedProvider (some profile) old.provider .retiring) then do
      modify fun s => s.withLifecycle .cleanupPending
      Coroutine.raise (.service "The previous Provider could not be closed safely.")

theorem retryPendingCleanupLocked_advance (hclean : ¬s.HasPendingCleanup) :
    retryPendingCleanupLocked.advance s = (.returns (), s) := by
  unfold retryPendingCleanupLocked
  show Coroutine.advance (if ¬s.HasPendingCleanup then pure () else _) s = _
  rw [if_pos hclean]
  rfl

/-- How an activation starts: it ends at once, or it waits for the coordinator. -/
inductive Starts (a : Activation) (s : ProviderProfileService) (provider : ProviderRef) :
    Operation ProviderRef × ProviderProfileService → Prop
  | returns (result : ProviderRef) : Starts a s provider (.returns result, s)
  | raises (e : Failure) : Starts a s provider (.raises e, s)
  | waits {profile : ProviderProfile} {old : Runtime} {handling : ActiveTurnHandling}
    (hold : s.runtime provider = some old) : Starts a s provider
      (.awaits (.coordinating old.profileId a.profileId handling profile)
        (fun answer => afterCoordination profile old answer >>= fun _ => publish a profile), retired s old.provider)

theorem retire_advance (a : Activation) (profile : ProviderProfile) (old : Runtime) (handling : ActiveTurnHandling) :
    (retire a profile old handling).advance s =
      (.awaits (.coordinating old.profileId a.profileId handling profile) (afterCoordination profile old),
        retired s old.provider) := by
  refine Prod.ext ?_ rfl
  refine congrArg (Coroutine.awaits _) (funext fun answer => ?_)
  cases answer <;> rfl

theorem activateProfile_starts (a : Activation) (hclean : ¬s.HasPendingCleanup) (hactive : s.activeProvider = some provider) :
    Starts a s provider ((activateProfile a).advance s) := by
  unfold activateProfile
  rw [Coroutine.advance_bind_returns (retryPendingCleanupLocked_advance hclean)]
  show Starts a s provider (Coroutine.advance (if s.closed then _ else _) s)
  split
  next => exact .raises _
  next =>
    split
    next => exact .raises _
    next => exact .raises _
    next profile _ =>
      split
      next => exact .raises _
      next =>
        split
        next hnone => exact nomatch hactive.symm.trans hnone
        next provider' hsome =>
          obtain rfl : provider' = provider := Option.some.inj (hsome.symm.trans hactive)
          split
          next =>
            split
            next => exact .returns _
            next => exact .raises _
          next =>
            split
            next old handling hold _ _ =>
              rw [Coroutine.advance_bind_awaits (retire_advance a profile old handling)]
              exact .waits hold
            next => exact .raises _

/-- Revoked and resumed, an accepting provider is what it was. -/
theorem revoke_resume {p : ManagedProvider} (hp : s.providers[provider]? = some p) (haccepting : p.acceptingRequests = true) :
    (s.providers.modify provider ManagedProvider.revoke).modify provider ManagedProvider.resume = s.providers := by
  apply List.ext_getElem?
  intro i
  rw [List.getElem?_modify, List.getElem?_modify]
  by_cases hi : provider = i
  · subst hi
    have hsame : p.revoke.resume = p := by
      cases p
      simp_all [ManagedProvider.revoke, ManagedProvider.resume]
    simp [hp, hsame]
  · simp [hi]

/-- Where the coordination fails, the old provider is published as it was. -/
theorem restore_restored {old : Runtime} {point : Await} (h : Free False s) (hclean : ¬s.HasPendingCleanup)
    (hactive : s.activeProvider = some provider) (hold : s.runtime provider = some old)
    (hdrift : Drift False point (retired s old.provider) s') : Restored s (restore old s') := by
  obtain ⟨p, hp, hpublished⟩ := h.published _ hactive
  have hlifecycle : s.lifecycleState = .active := h.lifecycle.trans (restingState_active hclean (hactive ▸ nofun))
  have hretiring : s.retiringProviders = [] := by
    by_contra hne
    exact hclean (.inl hne)
  obtain ⟨hprovider, hid, hsnapshot⟩ := runtime_eq hold
  have hoptions : s.runtimeActivationOptions = some old.options := by
    unfold ProviderProfileService.runtime at hold
    split at hold
    next hoptions =>
      obtain rfl := Option.some.inj hold
      exact hoptions
    next => cases hold
  subst hprovider
  refine ⟨?_, ?_⟩
  · rw [hdrift.others]
    have hproviders : (restore old { retired s old.provider with repository := s'.repository }).providers = s.providers :=
      revoke_resume hp hpublished.accepting
    have htracked : (restore old { retired s old.provider with repository := s'.repository }).retiringProviders =
        s.retiringProviders := by
      show popKey (insertKey s.retiringProviders old.provider) old.provider = _
      rw [hretiring]
      simp [insertKey, popKey]
    have hrest : restore old { retired s old.provider with repository := s'.repository } =
        { s with
          repository := s'.repository
          providers := (restore old { retired s old.provider with repository := s'.repository }).providers
          retiringProviders := (restore old { retired s old.provider with repository := s'.repository }).retiringProviders
          activeProvider := some old.provider
          runtimeProfileId := some old.profileId
          runtimeProfileSnapshot := some old.snapshot
          runtimeActivationOptions := some old.options
          lifecycleState := .active } := rfl
    rw [hproviders, htracked, ← hactive, ← hid, ← hsnapshot, ← hoptions, ← hlifecycle] at hrest
    exact hrest
  · exact hdrift.active.activeProfileId

/-- A provider that is not active is closed or retained. -/
theorem Off.abandoned {kept : Prop} (h : Off provider s) (hfree : Free kept s) : Abandoned provider s := by
  refine ⟨h.vacant, h.revoked, fun i hi => ?_⟩
  obtain ⟨place, hplace, -⟩ := hfree.accounted.once i hi
  cases place with
  | active => exact nomatch h.vacant.symm.trans hplace
  | retiring => exact .inr (.inl hplace)
  | candidate => exact .inr (.inr hplace)
  | closed => exact .inl hplace

theorem retired_off (hactive : s.activeProvider = some provider) (h : Free False s) : Off provider (retired s provider) := by
  obtain ⟨p, hp, -⟩ := h.published _ hactive
  refine ⟨rfl, p.revoke, ?_, rfl⟩
  show (s.providers.modify provider ManagedProvider.revoke)[provider]? = _
  simp [Option.mem_def.mp hp]

/-- Behind the coordination an activation that fails leaves the old provider off. -/
theorem afterCoordination_off (a : Activation) (profile : ProviderProfile) (old : Runtime) (h : Off provider s)
    {at_ : Await → ProviderProfileService → Prop} (hat : ∀ other profile s, at_ (.closing other profile) s) :
    (afterCoordination profile old .returned >>= fun _ => publish a profile).Wp (interference (Drift False) at_)
      (fun _ _ => True) (fun _ => Off provider) s := by
  unfold afterCoordination
  refine wp_bind.mpr (wp_bind.mpr ?_)
  refine (closeTrackedProvider_off _ _ _ h hat).imp (fun closed s' hoff => ?_)
  refine wp_ite.mpr ⟨fun _ => ?_, fun _ => publish_off a profile hoff hat⟩
  exact wp_bind.mpr (wp_modify.mpr (wp_raise.mpr (hoff.congr rfl rfl)))

/-- The coordination failed or was cancelled in this run. -/
def CoordinationFailed (trace : List (Await × Answer)) : Prop :=
  ∃ oldId newId handling profile answer, (Await.coordinating oldId newId handling profile, answer) ∈ trace ∧ answer ≠ .returned

/-- The coordination succeeded in this run. -/
def Coordinated (trace : List (Await × Answer)) : Prop :=
  ∃ oldId newId handling profile, (Await.coordinating oldId newId handling profile, Answer.returned) ∈ trace

/-- The await is that of a provider's `aclose`. -/
def Closes (point : Await) : Prop := ∃ provider profile, point = .closing provider profile

/-- From every state between two operations with an active provider: an activation whose coordination fails or is
cancelled leaves the service as it was, and one that fails later leaves no provider active, the old one revoked, and
every provider closed or retained. -/
theorem activation_fails_safely (s₀ : System) (events : List Event) (h : s₀.Initial)
    (hfree : (run System.step s₀ events).holder = none) (provider : ProviderRef)
    (hactive : (run System.step s₀ events).shared.activeProvider = some provider) (a : Activation)
    (trace : List (Await × Answer)) (result : Except Failure ProviderRef) (s' : ProviderProfileService)
    (hrun : Traces MutatedBy (activateProfile a) (run System.step s₀ events).shared trace result s') :
    (CoordinationFailed trace → Restored (run System.step s₀ events).shared s') ∧
      (Coordinated trace → (∃ e, result = .error e) → Abandoned provider s') := by
  have hbetween := (run_between_any h events).of_free hfree
  generalize (run System.step s₀ events).shared = s at hactive hrun hbetween
  obtain ⟨hservice, -⟩ := hbetween
  have hclean : ¬s.HasPendingCleanup := fun hpending => nomatch hactive.symm.trans (hservice.vacant (.inl hpending))
  have hleads : (activateProfile a).Wp (interference (Drift False) Switching) (fun _ => Free False)
      (fun _ => Free False) s := activateProfile_leads a hservice
  rw [← traces_advance] at hrun
  rw [← wp_advance] at hleads
  have hstarts := activateProfile_starts a hclean hactive
  generalize (activateProfile a).advance s = started at hstarts hrun hleads
  cases hstarts with
  | returns provider =>
    cases hrun
    exact ⟨fun ⟨_, _, _, _, _, hmem, _⟩ => (List.not_mem_nil hmem).elim,
      fun ⟨_, _, _, _, hmem⟩ => (List.not_mem_nil hmem).elim⟩
  | raises e =>
    cases hrun
    exact ⟨fun ⟨_, _, _, _, _, hmem, _⟩ => (List.not_mem_nil hmem).elim,
      fun ⟨_, _, _, _, hmem⟩ => (List.not_mem_nil hmem).elim⟩
  | @waits profile old handling hold =>
    cases hrun with
    | @awaits _ _ _ s₁ answer rest _ _ hmutated hrest =>
      have hdrift : Drift False (.coordinating old.profileId a.profileId handling profile) (retired s old.provider) s₁ :=
        hmutated.drift hleads.1
      have hprovider := (runtime_eq hold).1
      cases answer with
      | cancelled =>
        cases hrest with
        | runs hrest =>
          cases hrest
          refine ⟨fun _ => restore_restored hservice hclean hactive hold hdrift, fun ⟨_, _, _, _, hmem⟩ => ?_⟩
          exact nomatch List.mem_singleton.mp hmem
      | raised =>
        cases hrest with
        | runs hrest =>
          cases hrest
          refine ⟨fun _ => restore_restored hservice hclean hactive hold hdrift, fun ⟨_, _, _, _, hmem⟩ => ?_⟩
          exact nomatch List.mem_singleton.mp hmem
      | returned =>
        have hretired : Off provider (retired s old.provider) := by
          rw [hprovider]
          exact retired_off hactive hservice
        have hoff : Off provider s₁ := hretired.drift hdrift
        have hrest_off := @afterCoordination_off s₁ provider a profile old hoff (fun p _ => Closes p)
          fun other profile _ => ⟨other, profile, rfl⟩
        have hlater := ((hleads.2 s₁ hdrift .returned).and hrest_off).narrow fun p s s' hat hmutated =>
          MutatedBy.drift hat.1 hmutated
        have hpoints := hrest.points hlater
        refine ⟨fun ⟨_, _, _, _, answer, hmem, hanswer⟩ => ?_, fun _ ⟨e, he⟩ => ?_⟩
        · rcases List.mem_cons.mp hmem with hhead | htail
          · obtain ⟨-, rfl⟩ := Prod.mk.inj hhead
            exact absurd rfl hanswer
          · obtain ⟨-, -, other, _, hclosing⟩ := hpoints _ htail
            cases hclosing
        · have hends := (wp_iff_ends
            (P := fun r s' => ∀ e, r = Except.error e → Abandoned provider s')).mp
            ((hlater.weaken fun _ _ _ => trivial).mono (fun _ _ _ _ => nofun)
              fun _ _ hpost _ _ => hpost.2.abandoned hpost.1) _ _ hrest.ends
          exact hends e he

def twoFakesSystem : System := { shared := { repository := twoFakes, hasTurnCoordinator := true } }

def fakeActivated : List Event := [.call (.activate (activationOf .fakeDefault)), .acquire 0]

/-- The coordinator fails, and the service is what it was; or the old provider's `aclose` fails, and it is abandoned. -/
theorem activation_fails_safely_twice :
    (∃ trace result s', Traces MutatedBy (activateProfile (activationOf .openaiDefault))
        (run System.step twoFakesSystem fakeActivated).shared trace result s' ∧
      CoordinationFailed trace ∧ Restored (run System.step twoFakesSystem fakeActivated).shared s') ∧
    ∃ trace result s', Traces MutatedBy (activateProfile (activationOf .openaiDefault))
        (run System.step twoFakesSystem fakeActivated).shared trace result s' ∧
      Coordinated trace ∧ Abandoned 0 s' := by
  have hinit : twoFakesSystem.Initial := ⟨twoFakes, true, rfl⟩
  have hsafe := activation_fails_safely twoFakesSystem fakeActivated hinit (by rfl) 0 (by rfl)
    (activationOf .openaiDefault)
  constructor
  · obtain ⟨trace, result, s', htrace, hfailed⟩ : ∃ trace result s',
        Traces MutatedBy (activateProfile (activationOf .openaiDefault))
          (run System.step twoFakesSystem fakeActivated).shared trace result s' ∧ CoordinationFailed trace := by
      refine ⟨[(_, .raised)], _, _, traces_advance.mp (.awaits ⟨[], rfl⟩ (.runs (.raises _ _))), ?_⟩
      exact ⟨_, _, _, _, .raised, List.Mem.head _, nofun⟩
    exact ⟨trace, result, s', htrace, hfailed, (hsafe _ _ _ htrace).1 hfailed⟩
  · obtain ⟨trace, result, s', htrace, hcoordinated, herror⟩ : ∃ trace result s',
        Traces MutatedBy (activateProfile (activationOf .openaiDefault))
          (run System.step twoFakesSystem fakeActivated).shared trace result s' ∧ Coordinated trace ∧
          ∃ e, result = .error e := by
      refine ⟨[(_, .returned), (_, .raised)], _, _, traces_advance.mp (.awaits ⟨[], rfl⟩
        (traces_advance.mp (.awaits ⟨[], rfl⟩ (traces_advance.mp (.raises _ _))))), ?_, _, rfl⟩
      exact ⟨_, _, _, _, List.Mem.head _⟩
    exact ⟨trace, result, s', htrace, hcoordinated, (hsafe _ _ _ htrace).2 hcoordinated herror⟩

end ArkClaw.Provider.ProfileService
