import ArkClaw.Provider.ProfileMutations

/-!
# Runs of the profile service

The operations under the lock and the mutations make the system. Whatever is called, cancelled or interleaved, the
service is `Free` at every point where the lock is free, and it is finished once an `aclose` has returned.
-/

namespace ArkClaw.Provider.ProfileService

open ArkClaw.Library ArkClaw.Domain ProviderProfileService

variable {kept : Prop} {s s' : ProviderProfileService}
variable {repository : MetadataSnapshot} {ended : List (Call × Except Failure (Option ProviderRef))}

/-! ## Mutations among the operations -/

/-- The mutation stores no other configuration under the identifier that is being activated. -/
def Undisturbed : Option Await → ProviderProfileService → Mutation → Prop
  | some point, s, .createProfile io new => ∀ profile ∈ point.profile, new.profileId = profile.profileId →
      ∀ q repository, new.Stores io s q repository → q.SameConfiguration profile
  | _, _, _ => True

theorem SameProfiles_drift {point : Await}
    (h : s.repository.SameProfiles repository) : Drift kept point s { s with repository } := by
  refine ⟨rfl, h.keeps, fun _ profile _ hstored q hq => hstored q ?_⟩
  rw [← h.2]
  exact hq

theorem NewProfile.Stores.keeps {io : MutationIo} {new : NewProfile} {profile : ProviderProfile}
    (h : new.Stores io s profile repository) :
    profile.profileId = new.profileId ∧ s.repository.KeepsActive repository ∧
      ∀ id, profileOf repository.profiles id =
        if profile.profileId = id then some profile else profileOf s.repository.profiles id := by
  obtain ⟨hget, hbuild, hsave⟩ := h
  have hid := buildSupportedProfile_profileId hbuild
  refine ⟨hid, MetadataSnapshot.saveProfile_new hsave ?_, fun id => ?_⟩
  · rw [hid]
    exact (MetadataSnapshot.getProfile_ok hget).symm
  · rw [(MetadataSnapshot.saveProfile_ok hsave).2.2, profileOf_storeProfile]

/-- What a mutation does while an operation is suspended. -/
theorem Mutation.drift (m : Mutation) {point : Await} (hswitching : Switching point s)
    (hok : kept → Undisturbed (some point) s m) : Drift kept point s (m.apply s) := by
  have hunchanged : ∀ e s', Unchanged s e s' → Drift kept point s s' := by
    intro e s' hs'
    rw [show s' = s from hs']
    exact Drift.refl kept point s
  apply Wp.stateAfter
  cases m with
  | createProfile io new =>
    refine (createProfile_spec io new s).mono ?_ hunchanged
    rintro - _ ⟨profile, repository, hstores, rfl⟩
    obtain ⟨hid, hkeeps, hprofiles⟩ := hstores.keeps
    refine ⟨rfl, hkeeps, fun hkept p hp hstored q hq => ?_⟩
    replace hq : profileOf repository.profiles p.profileId = some q := hq
    rw [hprofiles] at hq
    split at hq
    next heq =>
      obtain rfl := Option.some.inj hq
      exact hok hkept p hp (hid.symm.trans heq) profile repository hstores
    next => exact hstored q hq
  | updateProfile io update =>
    refine (updateProfile_spec io update s).mono ?_ hunchanged
    rintro - s' ⟨hsettled, -⟩
    exact (hsettled hswitching).elim
  | deleteProfile io profileId =>
    refine (deleteProfile_spec io profileId s).mono ?_ hunchanged
    rintro - _ ⟨-, repository, hdelete, rfl⟩
    refine ⟨rfl, MetadataSnapshot.deleteProfile_keeps hdelete, fun _ p _ hstored q hq => hstored q ?_⟩
    replace hq : profileOf repository.profiles p.profileId = some q := hq
    rw [(MetadataSnapshot.deleteProfile_ok hdelete).2.2, MetadataSnapshot.profileOf_filter] at hq
    split at hq
    next => cases hq
    next => exact hq
  | createCredentialBinding io providerId credentialId displayName =>
    refine (createCredentialBinding_spec io providerId credentialId displayName s).mono ?_ hunchanged
    rintro - _ ⟨repository, hsame, rfl⟩
    exact SameProfiles_drift hsame
  | deleteCredentialBinding io credentialId =>
    refine (deleteCredentialBinding_spec io credentialId s).mono ?_ hunchanged
    rintro - _ ⟨repository, hsame, rfl⟩
    exact SameProfiles_drift hsame

/-- The stored profile is there before and after or neither, and it has kept its configuration. -/
def StaysConfigured (before after : Option ProviderProfile) : Prop :=
  Option.Rel ProviderProfile.SameConfiguration after before

theorem StaysConfigured.refl (stored : Option ProviderProfile) : StaysConfigured stored stored := by
  cases stored with
  | none => exact .none
  | some q => exact .some (.refl q)

/-- What a mutation leaves of the service: all but the document and the runtime snapshot, and of these the active
profile with its configuration. -/
structure KeepsRuntime (s s' : ProviderProfileService) : Prop where
  others : s' = { s with repository := s'.repository, runtimeProfileSnapshot := s'.runtimeProfileSnapshot }
  activeProfileId : s'.repository.activeProfileId = s.repository.activeProfileId
  snapshot : ∀ q ∈ s.runtimeProfileSnapshot, ∃ q' ∈ s'.runtimeProfileSnapshot, q'.SameConfiguration q
  stored : ∀ id, s.runtimeProfileId = some id → s.repository.activeProfileId = some id →
    StaysConfigured (profileOf s.repository.profiles id) (profileOf s'.repository.profiles id)

theorem KeepsRuntime.refl (s : ProviderProfileService) : KeepsRuntime s s :=
  ⟨rfl, rfl, fun q hq => ⟨q, hq, .refl q⟩, fun _ _ _ => .refl _⟩

theorem KeepsRuntime.of_keepsActive (hkeeps : s.repository.KeepsActive repository) :
    KeepsRuntime s { s with repository } := by
  refine ⟨rfl, hkeeps.activeProfileId, fun q hq => ⟨q, hq, .refl q⟩, fun id _ hactive => ?_⟩
  rw [← hkeeps.profile id hactive]
  exact .refl _

theorem Updates.keepsRuntime {update : ProfileUpdate} {existing updated : ProviderProfile}
    (h : Updates update existing updated s s') : KeepsRuntime s s' := by
  refine ⟨h.others, h.activeProfileId, fun q hq => ?_, fun id hruntime _ => ?_⟩
  · rw [h.snapshot]
    split
    next hthis =>
      obtain ⟨hsame, q', hq', hexisting⟩ := h.configuration hthis
      obtain rfl := Option.some.inj ((Option.mem_def.mp hq').symm.trans hq)
      exact ⟨updated, rfl, hsame.trans hexisting⟩
    next => exact ⟨q, hq, .refl q⟩
  · rw [h.profiles, profileOf_storeProfile, h.profileId]
    split
    next heq =>
      subst heq
      rw [h.found]
      exact .some (h.configuration hruntime).1
    next => exact .refl _

/-- A mutation keeps what the service runs on, and one that raises leaves the service as it was. -/
theorem Mutation.spec (m : Mutation) (s : ProviderProfileService) :
    Wp m.method (fun _ s' => KeepsRuntime s s') (Unchanged s) s := by
  cases m with
  | createProfile io new =>
    refine (createProfile_spec io new s).imp ?_
    rintro - _ ⟨profile, repository, hstores, rfl⟩
    exact .of_keepsActive hstores.keeps.2.1
  | updateProfile io update =>
    refine (updateProfile_spec io update s).imp ?_
    rintro - s' ⟨-, existing, updated, hupdates⟩
    exact hupdates.keepsRuntime
  | deleteProfile io profileId =>
    refine (deleteProfile_spec io profileId s).imp ?_
    rintro - _ ⟨-, repository, hdelete, rfl⟩
    exact .of_keepsActive (MetadataSnapshot.deleteProfile_keeps hdelete)
  | createCredentialBinding io providerId credentialId displayName =>
    refine (createCredentialBinding_spec io providerId credentialId displayName s).imp ?_
    rintro - _ ⟨repository, hsame, rfl⟩
    exact .of_keepsActive hsame.keeps
  | deleteCredentialBinding io credentialId =>
    refine (deleteCredentialBinding_spec io credentialId s).imp ?_
    rintro - _ ⟨repository, hsame, rfl⟩
    exact .of_keepsActive hsame.keeps

theorem Mutation.keepsRuntime (m : Mutation) (s : ProviderProfileService) : KeepsRuntime s (m.apply s) := by
  refine Wp.stateAfter ((m.spec s).mono (fun _ _ => id) ?_)
  rintro e _ rfl
  exact .refl _

/-- What keeps the runtime keeps the service free. -/
theorem Free.keepsRuntime (h : Free kept s) (hkeeps : KeepsRuntime s s') : Free kept s' := by
  obtain ⟨hothers, hactive, hsnapshot, hstored⟩ := hkeeps
  generalize s'.runtimeProfileSnapshot = snapshot at hothers hsnapshot
  generalize s'.repository = repository at hothers hactive hstored
  subst hothers
  obtain ⟨haccounted, hlifecycle, hvacant, hpublished⟩ := h
  refine ⟨⟨haccounted.once, haccounted.made, haccounted.retiring_nodup, haccounted.candidate_nodup⟩, hlifecycle, hvacant,
    fun provider hprovider => ?_⟩
  obtain ⟨p, hp, hruns⟩ := hpublished provider hprovider
  refine ⟨p, hp, hruns.accepting, hruns.builtFrom, hruns.runtimeProfileId, ?_, hruns.options,
    hactive.trans hruns.active, fun hkept q hq => ?_⟩
  · obtain ⟨q, hq, hsame⟩ := hruns.snapshot
    obtain ⟨q', hq', hsame'⟩ := hsnapshot q hq
    exact ⟨q', hq', hsame'.trans hsame⟩
  · have hid : p.builtFrom.profileId = p.profileId := hruns.builtFrom
    have hstays := hstored p.profileId hruns.runtimeProfileId hruns.active
    rw [← hid] at hstays
    unfold StaysConfigured at hstays
    rw [hq] at hstays
    generalize hbefore : profileOf s.repository.profiles p.builtFrom.profileId = before at hstays
    cases hstays with
    | some hsame => exact hsame.trans (hruns.stored hkept _ hbefore)

/-- A mutation at a lock-free point. -/
theorem Mutation.free (m : Mutation) (h : Free kept s) : Free kept (m.apply s) := h.keepsRuntime (m.keepsRuntime s)

theorem Finished.keepsRuntime (h : Finished s) (hkeeps : KeepsRuntime s s') : Finished s' := by
  rw [hkeeps.others]
  exact ⟨h.closed, h.clean, h.vacant⟩

theorem Mutation.finished (m : Mutation) (h : Finished s) : Finished (m.apply s) := h.keepsRuntime (m.keepsRuntime s)

/-! ## The invariant of the system -/

/-- A call of `aclose` has returned normally. -/
def CloseReturned (ended : List (Call × Except Failure (Option ProviderRef))) : Prop :=
  ∃ r, (Call.close, Except.ok r) ∈ ended

/-- The service at the lock-free points. -/
def Between (kept : Prop) (ended : List (Call × Except Failure (Option ProviderRef))) (s : ProviderProfileService) :
    Prop :=
  Free kept s ∧ (CloseReturned ended → Finished s)

/-- The service where an operation is suspended: that never happens once the service has been closed. -/
def Suspended (ended : List (Call × Except Failure (Option ProviderRef))) (point : Await)
    (s : ProviderProfileService) : Prop :=
  Switching point s ∧ ¬CloseReturned ended

theorem closeReturned_cons {call : Call} {result : Except Failure (Option ProviderRef)} :
    CloseReturned ((call, result) :: ended) ↔ (call = .close ∧ ∃ r, result = .ok r) ∨ CloseReturned ended := by
  unfold CloseReturned
  constructor
  · rintro ⟨r, hr⟩
    rcases List.mem_cons.mp hr with h | h
    · cases h
      exact Or.inl ⟨rfl, r, rfl⟩
    · exact Or.inr ⟨r, h⟩
  · rintro (⟨rfl, r, rfl⟩ | ⟨r, hr⟩)
    · exact ⟨r, List.mem_cons_self⟩
    · exact ⟨r, List.mem_cons_of_mem _ hr⟩

/-- Before the service is closed, a call leads from one lock-free point to the next. -/
theorem body_open (hopen : ¬CloseReturned ended) (h : Free kept s) (call : Call) :
    call.body.Wp (Coroutine.interference (Drift kept) (Suspended ended)) (fun r => Between kept ((call, .ok r) :: ended))
      (fun e => Between kept ((call, .error e) :: ended)) s := by
  have hraise : ∀ e s', Free kept s' → Between kept ((call, .error e) :: ended) s' := by
    refine fun e s' hs' => ⟨hs', fun hclosed => ?_⟩
    rcases closeReturned_cons.mp hclosed with ⟨-, r, hr⟩ | hclosed
    · cases hr
    · exact (hopen hclosed).elim
  cases call with
  | activate a =>
    refine Coroutine.wp_bind.mpr (((activateProfile_leads a h).weaken fun _ _ hat => ⟨hat, hopen⟩).mono ?_ hraise)
    refine fun r s' hs' => Coroutine.wp_pure.mpr ⟨hs', fun hclosed => ?_⟩
    rcases closeReturned_cons.mp hclosed with ⟨hcall, -⟩ | hclosed
    · cases hcall
    · exact (hopen hclosed).elim
  | close =>
    refine Coroutine.wp_bind.mpr (((aclose_leads h).weaken fun _ _ hat => ⟨hat, hopen⟩).mono ?_ hraise)
    exact fun _ s' hs' => Coroutine.wp_pure.mpr ⟨hs'.1, fun _ => hs'.2⟩

/-- After the service is closed, a call changes nothing that matters and does not suspend. -/
theorem body_finished (h : Free kept s) (hfinished : Finished s) (call : Call) :
    call.body.Wp (Coroutine.interference (Drift kept) (Suspended ended)) (fun r => Between kept ((call, .ok r) :: ended))
      (fun e => Between kept ((call, .error e) :: ended)) s := by
  have never : ∀ p s', Switching p s' ∧ False → Suspended ended p s' := fun _ _ hat => hat.2.elim
  cases call with
  | activate a =>
    refine Coroutine.wp_bind.mpr (((activateProfile_leads a h).and
      (activateProfile_finished (fun _ _ => False) a hfinished)).weaken never |>.mono ?_ ?_)
    · exact fun _ _ hs' => hs'.2.elim
    · exact fun _ _ hs' => ⟨hs'.1, fun _ => hs'.2⟩
  | close =>
    refine Coroutine.wp_bind.mpr (((aclose_leads h).and
      (aclose_finished (fun _ _ => False) hfinished)).weaken never |>.mono ?_ ?_)
    · exact fun _ _ hs' => Coroutine.wp_pure.mpr ⟨hs'.1.1, fun _ => hs'.2⟩
    · exact fun _ _ hs' => ⟨hs'.1, fun _ => hs'.2⟩

theorem keeps_between (kept : Prop) : Locked.Keeps Call.body Mutation.apply (fun point s m => kept → Undisturbed point s m)
    (Drift kept) Suspended (Between kept) where
  operation ended s call h := by
    by_cases hclosed : CloseReturned ended
    · exact body_finished h.1 (h.2 hclosed) call
    · exact body_open hclosed h.1 call
  mutation ended s m h _ := ⟨m.free h.1, fun hclosed => m.finished (h.2 hclosed)⟩
  interferes ended point s m hsuspended hok := m.drift hsuspended.1 hok
  stable ended point s s' hsuspended hdrift := by
    refine ⟨?_, hsuspended.2⟩
    rw [hdrift.others]
    exact hsuspended.1
  refl := Drift.refl kept
  trans _ _ _ _ h h' := h.trans h'

theorem System.Initial.between {s₀ : System} (h : s₀.Initial) (kept : Prop) :
    s₀.holder = none ∧ Between kept s₀.ended s₀.shared := by
  obtain ⟨repository, hasTurnCoordinator, rfl⟩ := h
  refine ⟨rfl, ⟨⟨fun _ => nofun, fun _ place hat => ?_, List.nodup_nil, List.nodup_nil⟩, rfl, fun _ => rfl, nofun⟩, nofun⟩
  cases place with
  | active => cases hat
  | retiring => cases hat
  | candidate => cases hat
  | closed =>
    obtain ⟨p, hp, -⟩ := hat
    cases hp

/-- A run keeps the invariant; its last part rests on the mutations the run makes. -/
theorem run_between (kept : Prop) {s₀ : System} (h : s₀.Initial) {events : List Event}
    (hok : StepsMeet System.step (Locked.Allows fun point s m => kept → Undisturbed point s m) s₀ events) :
    Locked.Invariant (Drift kept) Suspended (Between kept) (run System.step s₀ events) :=
  Locked.run_invariant (keeps_between kept) (h.between kept).1 (h.between kept).2 hok

/-- Without a condition on the mutations. -/
theorem run_between_any {s₀ : System} (h : s₀.Initial) (events : List Event) :
    Locked.Invariant (Drift False) Suspended (Between False) (run System.step s₀ events) := by
  refine run_between False h (StepsMeet.of_forall (fun s event => ?_) s₀ events)
  cases event with
  | mutate m => exact fun hfalse => hfalse.elim
  | _ => trivial

/-! ## Every provider is accounted for -/

/-- A profile of the fake provider. -/
def fakeProfileOf (profileId : ProfileId) (model : Text) : ProviderProfile :=
  { profileId, displayName := lit "Fake", providerId := .fake, protocol := .internal, baseUrl := none, model
    credentialId := none, capabilities := { continuationMode := .replayMessages, protocol := .internal } }

/-- Two profiles of the fake provider, the first of them active. -/
def twoFakes : MetadataSnapshot where
  activeProfileId := some .fakeDefault
  profiles := [fakeProfileOf .fakeDefault (lit "a"), fakeProfileOf .openaiDefault (lit "b")]
  supported := by decide +kernel
  active_stored := by
    rintro _ ⟨⟩
    decide +kernel

/-- An activation whose calls all succeed. -/
def activationOf (profileId : ProfileId) : Activation where
  profileId
  options := { timeoutSeconds := 30, maxRetries := 0, stream := true, timeout_positive := by decide +kernel }
  turnHandling := some .waitForActive
  factory := fun _ profile _ => some { name := some profile.providerId.value, protocol := some profile.protocol }

/-- Whatever is called, cancelled or fails: while the lock is free, every delegate the factory has returned is the
active provider, a retiring one, a candidate that waits for cleanup, or closed, and only one of these. Once an
`aclose` has returned, all of them are closed, nothing is active, and no call suspends any more. -/
theorem run_providers_accounted (s₀ : System) (events : List Event) (h : s₀.Initial) :
    ((run System.step s₀ events).holder = none →
      ∀ delegate < (run System.step s₀ events).shared.providers.length,
        ∃! place, (run System.step s₀ events).shared.At delegate place) ∧
    (CloseReturned (run System.step s₀ events).ended →
      (run System.step s₀ events).shared.activeProvider = none ∧
        ∀ delegate < (run System.step s₀ events).shared.providers.length,
          (run System.step s₀ events).shared.At delegate .closed) := by
  have hinvariant := run_between_any h events
  generalize run System.step s₀ events = s at *
  refine ⟨fun hfree => (hinvariant.of_free hfree).1.accounted.once, fun hclosed => ?_⟩
  have hfree : s.holder = none := by
    by_contra hheld
    obtain ⟨point, -, hopen⟩ := hinvariant.of_held hheld
    exact hopen hclosed
  obtain ⟨hbetween, hfinished⟩ := hinvariant.of_free hfree
  obtain ⟨-, hclean, hvacant⟩ := hfinished hclosed
  refine ⟨hvacant, fun delegate hdelegate => ?_⟩
  obtain ⟨place, hat, -⟩ := hbetween.accounted.once delegate hdelegate
  cases place with
  | active => exact nomatch hvacant.symm.trans hat
  | retiring => exact (not_pending_iff.mp hclean .retiring delegate hat).elim
  | candidate => exact (not_pending_iff.mp hclean .candidateCleanup delegate hat).elim
  | closed => exact hat

/-- A service that activates a profile and is closed. -/
theorem run_providers_accounted_close : ∃ (s₀ : System) (events : List Event), s₀.Initial ∧
    CloseReturned (run System.step s₀ events).ended ∧ 0 < (run System.step s₀ events).shared.providers.length ∧
    (run System.step s₀ events).shared.At 0 .closed := by
  have h : System.Initial { shared := { repository := twoFakes, hasTurnCoordinator := true } } := ⟨twoFakes, true, rfl⟩
  refine ⟨{ shared := { repository := twoFakes, hasTurnCoordinator := true } },
    [.call (.activate (activationOf .openaiDefault)), .acquire 0, .call .close, .acquire 0, .resume .returned], h,
    ⟨none, List.Mem.head _⟩, by decide +kernel, ?_⟩
  exact ((run_providers_accounted _ _ h).2 ⟨none, List.Mem.head _⟩).2 0 (by decide +kernel)

/-! ## What the lifecycle state says -/

/-- What the lifecycle state says of a service. -/
structure Consistent (s : ProviderProfileService) : Prop where
  active_iff : s.lifecycleState = .active ↔ s.activeProvider ≠ none
  accepts : ∀ provider, s.activeProvider = some provider →
    ∃ p ∈ s.providers[provider]?, p.acceptingRequests = true
  pending_iff : s.lifecycleState = .cleanupPending ↔ s.retiringProviders ≠ [] ∨ s.candidateCleanupPending ≠ []
  not_switching : s.lifecycleState ≠ .switching
  stored : s.lifecycleState = .active → ∃ provider ∈ s.activeProvider, ∃ p ∈ s.providers[provider]?,
    ∃ profileId ∈ s.runtimeProfileId, s.repository.activeProfileId = some profileId ∧
      ∃ q ∈ profileOf s.repository.profiles profileId, q.SameConfiguration p.builtFrom

theorem Free.consistent (h : Free True s) : Consistent s := by
  have hpending : s.lifecycleState = .cleanupPending ↔ s.HasPendingCleanup := by
    rw [h.lifecycle]
    unfold restingState
    split
    next hpending => simp [hpending]
    next hclean => simp only [hclean, iff_false]; split_ifs <;> simp
  have hactive : s.lifecycleState = .active ↔ s.activeProvider ≠ none := by
    rw [h.lifecycle]
    unfold restingState
    split
    next hpending => simp [h.vacant (Or.inl hpending)]
    next => split_ifs <;> simp_all
  refine ⟨hactive, fun provider hprovider => ?_, hpending, ?_, fun hlifecycle => ?_⟩
  · obtain ⟨p, hp, hpublished⟩ := h.published provider hprovider
    exact ⟨p, hp, hpublished.accepting⟩
  · rw [h.lifecycle]
    unfold restingState
    split_ifs <;> simp
  · obtain ⟨provider, hprovider⟩ := Option.ne_none_iff_exists'.mp (hactive.mp hlifecycle)
    obtain ⟨p, hp, hpublished⟩ := h.published provider hprovider
    obtain ⟨q, hq⟩ := Option.ne_none_iff_exists'.mp (s.repository.active_stored _ hpublished.active)
    refine ⟨provider, hprovider, p, hp, p.profileId, hpublished.runtimeProfileId, hpublished.active, q, hq, ?_⟩
    exact hpublished.stored trivial q (hpublished.builtFrom.symm ▸ hq)

/-- As long as no `create_profile` stores another configuration under the identifier of a suspended activation, the
lifecycle state says what the service holds at every lock-free point. -/
theorem run_consistent (s₀ : System) (events : List Event) (h : s₀.Initial)
    (hok : StepsMeet System.step (Locked.Allows Undisturbed) s₀ events)
    (hfree : (run System.step s₀ events).holder = none) : Consistent (run System.step s₀ events).shared := by
  have hok' : StepsMeet System.step (Locked.Allows fun point s m => True → Undisturbed point s m) s₀ events := by
    refine hok.mono fun s event hallowed => ?_
    cases event with
    | mutate m => exact fun _ => hallowed
    | _ => trivial
  exact ((run_between True h hok').of_free hfree).1.consistent

/-! ## A profile recreated while it is being activated -/

/-- While the second profile is being activated, it is deleted and created again with another model. -/
def recreatedRun : List Event :=
  [.call (.activate (activationOf .fakeDefault)), .acquire 0,
    .call (.activate (activationOf .openaiDefault)), .acquire 0,
    .mutate (.deleteProfile {} .openaiDefault),
    .mutate (.createProfile {} { providerId := .fake, displayName := lit "Fake", model := lit "c",
                                 profileId := .openaiDefault }),
    .resume .returned, .resume .returned]

/-- The service is then active with a provider that was built from a configuration that is no longer stored. -/
theorem recreated_not_consistent : ∃ (s₀ : System) (events : List Event), s₀.Initial ∧
    (run System.step s₀ events).holder = none ∧ ¬Consistent (run System.step s₀ events).shared := by
  refine ⟨{ shared := { repository := twoFakes, hasTurnCoordinator := true } }, recreatedRun,
    ⟨twoFakes, true, rfl⟩, by rfl, fun h => ?_⟩
  obtain ⟨provider, hprovider, p, hp, profileId, hid, -, q, hq, hsame⟩ := h.stored (by decide +kernel)
  obtain rfl : 1 = provider := Option.some.inj (Eq.trans (by decide +kernel) hprovider)
  obtain rfl : ProfileId.openaiDefault = profileId := Option.some.inj (Eq.trans (by decide +kernel) hid)
  have hbuilt : some (lit "b") = some p.builtFrom.model :=
    Eq.trans (by decide +kernel) (congrArg (Option.map fun p => p.builtFrom.model) hp)
  have hstored : some (lit "c") = some q.model :=
    Eq.trans (by decide +kernel) (congrArg (Option.map fun q => q.model) hq)
  have hmodel : q.model = p.builtFrom.model := by rw [← hsame]
  rw [← Option.some.inj hbuilt, ← Option.some.inj hstored] at hmodel
  exact absurd hmodel (by decide)

/-- Deleting and creating the profile before it is activated does no harm. -/
theorem recreated_before_consistent : ∃ (s₀ : System) (events : List Event), s₀.Initial ∧
    (run System.step s₀ events).shared.lifecycleState = .active ∧ Consistent (run System.step s₀ events).shared := by
  refine ⟨{ shared := { repository := twoFakes, hasTurnCoordinator := true } },
    [.mutate (.deleteProfile {} .openaiDefault),
      .mutate (.createProfile {} { providerId := .fake, displayName := lit "Fake", model := lit "c",
                                   profileId := .openaiDefault }),
      .call (.activate (activationOf .openaiDefault)), .acquire 0],
    ⟨twoFakes, true, rfl⟩, by decide +kernel, run_consistent _ _ ⟨twoFakes, true, rfl⟩ ?_ (by rfl)⟩
  exact ⟨trivial, trivial, trivial, trivial, trivial⟩

end ArkClaw.Provider.ProfileService
