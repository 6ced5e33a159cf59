import ArkClaw.Provider.ProfilePlaces

/-!
# What an operation of the profile service keeps

While the lock is free the lifecycle state says what the service holds, and an active provider accepts requests
and is the one the stored metadata names (`Free`). While an operation is suspended the lifecycle is `switching`
and nobody but the metadata mutations runs (`Drift`). Every operation leads from `Free` to `Free`.

That the stored profile is the one the active provider was built from is kept only if no mutation stores another
one under the identifier while it is being activated; `kept` stands for that assumption.
-/

namespace ArkClaw.Provider.ProfileService

open ArkClaw.Library hiding wp_attempt wp_bind wp_get wp_ite wp_modify wp_pure
open ArkClaw.Domain ProviderProfileService
open Coroutine (interference wp_await wp_raise wp_attempt wp_bind wp_get wp_ite wp_modify wp_pure)

variable {kept : Prop} {s s' : ProviderProfileService} {provider : ProviderRef}

/-- What is stored under the profile's identifier, if anything, has its configuration. -/
def Stored (repository : MetadataSnapshot) (profile : ProviderProfile) : Prop :=
  ∀ q, profileOf repository.profiles profile.profileId = some q → q.SameConfiguration profile

/-- The provider is published: it accepts requests, the runtime data are its own, and its profile is the stored
active one. -/
structure Published (kept : Prop) (s : ProviderProfileService) (p : ManagedProvider) : Prop where
  accepting : p.acceptingRequests = true
  builtFrom : p.builtFrom.profileId = p.profileId
  runtimeProfileId : s.runtimeProfileId = some p.profileId
  snapshot : ∃ snapshot ∈ s.runtimeProfileSnapshot, snapshot.SameConfiguration p.builtFrom
  options : s.runtimeActivationOptions ≠ none
  active : s.repository.activeProfileId = some p.profileId
  stored : kept → Stored s.repository p.builtFrom

/-- The lifecycle state that says what the service holds. -/
def restingState (s : ProviderProfileService) : ProviderLifecycleState :=
  if s.HasPendingCleanup then .cleanupPending
  else if s.activeProvider ≠ none then .active
  else if s.closed then .closed
  else .inactive

theorem restingState_pending (h : s.HasPendingCleanup) : restingState s = .cleanupPending := if_pos h

theorem restingState_active (h : ¬s.HasPendingCleanup) (hactive : s.activeProvider ≠ none) :
    restingState s = .active := (if_neg h).trans (if_pos hactive)

theorem restingState_vacant (h : ¬s.HasPendingCleanup) (hvacant : s.activeProvider = none) :
    restingState s = if s.closed then .closed else .inactive :=
  (if_neg h).trans (if_neg (not_not.mpr hvacant))

theorem restingState_withRuntime {r : Runtime} (h : ¬s.HasPendingCleanup) : restingState (s.withRuntime r) = .active :=
  restingState_active h nofun

/-- The service while the lock is free. -/
structure Free (kept : Prop) (s : ProviderProfileService) : Prop where
  accounted : s.Accounted
  lifecycle : s.lifecycleState = restingState s
  vacant : s.HasPendingCleanup ∨ s.closed = true → s.activeProvider = none
  published : ∀ provider, s.activeProvider = some provider → ∃ p ∈ s.providers[provider]?, Published kept s p

/-- The service while an operation is suspended. -/
structure Held (s : ProviderProfileService) : Prop where
  accounted : s.Accounted
  switching : s.lifecycleState = .switching
  vacant : s.activeProvider = none

/-! ## Interference -/

/-- The profile an activation has read before it was suspended. -/
def Await.profile : Await → Option ProviderProfile
  | .coordinating _ _ _ profile => some profile
  | .closing _ profile => profile

/-- What the mutations do while an operation is suspended. -/
structure Drift (kept : Prop) (point : Await) (s s' : ProviderProfileService) : Prop where
  others : s' = { s with repository := s'.repository }
  active : s.repository.KeepsActive s'.repository
  reading : kept → ∀ profile ∈ point.profile, Stored s.repository profile → Stored s'.repository profile

def Switching (_ : Await) (s : ProviderProfileService) : Prop := s.lifecycleState = .switching

theorem Drift.refl (kept : Prop) (point : Await) (s : ProviderProfileService) : Drift kept point s s :=
  ⟨rfl, .refl _, fun _ _ _ => id⟩

theorem Drift.trans {point : Await} {s'' : ProviderProfileService} (h : Drift kept point s s')
    (h' : Drift kept point s' s'') : Drift kept point s s'' := by
  refine ⟨?_, h.active.trans h'.active, fun hkept p hp hs => h'.reading hkept p hp (h.reading hkept p hp hs)⟩
  rw [h'.others, h.others]

/-- The precondition of an operation under the interference of the mutations. -/
abbrev Leads (kept : Prop) {α : Type} (c : Operation α) (Q : α → ProviderProfileService → Prop)
    (R : Failure → ProviderProfileService → Prop) (s : ProviderProfileService) : Prop :=
  c.Wp (interference (Drift kept) Switching) Q R s

theorem Held.drift {point : Await} (h : Held s) (hdrift : Drift kept point s s') : Held s' := by
  rw [hdrift.others]
  exact ⟨h.accounted.withRepository _, h.switching, h.vacant⟩

/-- What is left after an operation that ends with something to clean up. -/
theorem Held.pending (kept : Prop) (h : Held s) (hpending : s.HasPendingCleanup) : Free kept (s.withLifecycle .cleanupPending) where
  accounted := h.accounted.withLifecycle _
  lifecycle := (restingState_pending hpending).symm
  vacant := fun _ => h.vacant
  published := fun _ hactive => nomatch h.vacant.symm.trans hactive

/-- What is left after an operation that ends with nothing to clean up and no provider. -/
theorem Held.rest (kept : Prop) (h : Held s) (hpending : ¬s.HasPendingCleanup) :
    Free kept (s.withLifecycle (if s.closed then .closed else .inactive)) where
  accounted := h.accounted.withLifecycle _
  lifecycle := (restingState_vacant hpending h.vacant).symm
  vacant := fun _ => h.vacant
  published := fun _ hactive => nomatch h.vacant.symm.trans hactive

/-! ## Closing providers -/

theorem mem_tracked_pending {set : TrackedSet} (h : provider ∈ s.tracked set) : s.HasPendingCleanup := by
  cases set with
  | retiring => exact Or.inl (List.ne_nil_of_mem h)
  | candidateCleanup => exact Or.inr (List.ne_nil_of_mem h)

/-- How closing tracked providers leads on: the service is held, and the data an operation relies on stay. -/
structure Closing (kept : Prop) (profile : Option ProviderProfile) (s s' : ProviderProfileService) : Prop where
  held : Held s'
  closed : s'.closed = s.closed
  stored : kept → ∀ p ∈ profile, Stored s.repository p → Stored s'.repository p

theorem Closing.trans {profile : Option ProviderProfile} {s'' : ProviderProfileService}
    (h : Closing kept profile s s') (h' : Closing kept profile s' s'') : Closing kept profile s s'' :=
  ⟨h'.held, h'.closed.trans h.closed, fun hkept p hp hs => h'.stored hkept p hp (h.stored hkept p hp hs)⟩

@[simp] theorem tracked_untrack (set set' : TrackedSet) : (s.untrack set provider).tracked set' =
      if set' = set then popKey (s.tracked set) provider else s.tracked set' := by
  cases set <;> cases set' <;> rfl

/-- The dictionaries after an attempt to close a provider of one of them. -/
def trackedAfter (s : ProviderProfileService) (set : TrackedSet) (provider : ProviderRef) (closed : Bool)
    (set' : TrackedSet) : List ProviderRef :=
  if closed = true ∧ set' = set then popKey (s.tracked set) provider else s.tracked set'

/-- Closing a tracked provider: it is untracked exactly if its `aclose` returns. -/
theorem closeTrackedProvider_leads (profile : Option ProviderProfile) {set : TrackedSet} (h : Held s)
    (htracked : provider ∈ s.tracked set) : Leads kept (closeTrackedProvider profile provider set)
      (fun closed s' => Closing kept profile s s' ∧ ∀ set', s'.tracked set' = trackedAfter s set provider closed set')
      (fun _ => Free kept) s := by
  have hrevoked : Held (s.onProvider provider ManagedProvider.revoke) :=
    ⟨h.accounted.onProvider (fun p => (rfl : p.revoke.closeReturned = p.closeReturned)) _, h.switching, h.vacant⟩
  unfold closeTrackedProvider acloseProvider
  simp only [Leads, wp_bind, wp_attempt, wp_modify, wp_await]
  refine ⟨h.switching, fun s' hdrift answer => ?_⟩
  have hheld : Held s' := hrevoked.drift hdrift
  have hset : ∀ set', s'.tracked set' = s.tracked set' := by
    rw [hdrift.others]
    rintro (_ | _) <;> rfl
  have hclosed : s'.closed = s.closed := by rw [hdrift.others]; rfl
  cases answer with
  | cancelled => exact hheld.pending kept (mem_tracked_pending (hset set ▸ htracked))
  | raised =>
    refine ⟨⟨hheld, hclosed, hdrift.reading⟩, fun set' => ?_⟩
    simpa [trackedAfter] using hset set'
  | returned =>
    have hmark : ∀ set', (s'.markClosed provider).tracked set' = s.tracked set' := by
      intro set'
      rw [← hset set']
      cases set' <;> rfl
    refine ⟨⟨⟨hheld.accounted.close (hset set ▸ htracked), ?_, ?_⟩, ?_, ?_⟩, fun set' => ?_⟩
    · cases set <;> exact hheld.switching
    · cases set <;> exact hheld.vacant
    · rw [← hclosed]
      cases set <;> rfl
    · cases set <;> exact hdrift.reading
    · rw [tracked_untrack, hmark, hmark]
      simp [trackedAfter]

/-- Closing the providers of a dictionary leaves the others alone; whatever is not closed stays. -/
theorem closeTrackedProviders_leads (set : TrackedSet) : ∀ {providers : List ProviderRef} {s : ProviderProfileService},
    Held s → (∀ i ∈ providers, i ∈ s.tracked set) → providers.Nodup →
      Leads kept (closeTrackedProviders set providers)
        (fun closed s' => Closing kept none s s' ∧ (∀ set', set' ≠ set → s'.tracked set' = s.tracked set') ∧
          (closed = true → ∀ i, i ∈ s'.tracked set ↔ i ∈ s.tracked set ∧ i ∉ providers) ∧
          (closed = false → ∃ i, i ∈ s'.tracked set))
        (fun _ => Free kept) s
  | [], s, h, _, _ => by
    refine wp_pure.mpr ⟨⟨h, rfl, fun _ _ => nofun⟩, fun _ _ => rfl, ?_, nofun⟩
    simp
  | provider :: rest, s, h, htracked, hnodup => by
    obtain ⟨hnotin, hrest⟩ := List.nodup_cons.mp hnodup
    have hprovider := htracked provider List.mem_cons_self
    unfold closeTrackedProviders
    refine wp_bind.mpr ((closeTrackedProvider_leads none h hprovider).imp ?_)
    rintro closed s₁ ⟨hclosing, hset⟩
    have hothers : ∀ set', set' ≠ set → s₁.tracked set' = s.tracked set' := by
      intro set' hne
      rw [hset, trackedAfter, if_neg (fun h => hne h.2)]
    have hmem : ∀ i, i ∈ s₁.tracked set ↔ i ∈ s.tracked set ∧ ¬(closed = true ∧ i = provider) := by
      intro i
      rw [hset, trackedAfter]
      cases closed <;> simp
    have htracked₁ : ∀ i ∈ rest, i ∈ s₁.tracked set := fun i hi =>
      (hmem i).mpr ⟨htracked i (List.mem_cons_of_mem _ hi), fun h => hnotin (h.2 ▸ hi)⟩
    refine wp_bind.mpr ((closeTrackedProviders_leads set hclosing.held htracked₁ hrest).imp ?_)
    rintro others s₂ ⟨hclosing₂, hothers₂, hall, hsome⟩
    refine wp_pure.mpr ⟨hclosing.trans hclosing₂, fun set' hne => (hothers₂ set' hne).trans (hothers set' hne),
      ?_, ?_⟩
    · intro hboth i
      obtain ⟨rfl, rfl⟩ := (Bool.and_eq_true _ _).mp hboth
      rw [hall rfl, hmem, List.mem_cons]
      tauto
    · intro hnot
      cases others with
      | false => exact hsome rfl
      | true =>
        have hclosed : closed = false := by simpa using hnot
        exact ⟨provider, (hall rfl provider).mpr ⟨(hmem _).mpr ⟨hprovider, by simp [hclosed]⟩, hnotin⟩⟩

theorem not_pending_iff : ¬s.HasPendingCleanup ↔ ∀ set i, i ∉ s.tracked set := by
  constructor
  · exact fun h set i hi => h (mem_tracked_pending hi)
  · rintro h (hne | hne)
    · exact hne (List.eq_nil_iff_forall_not_mem.mpr (h .retiring))
    · exact hne (List.eq_nil_iff_forall_not_mem.mpr (h .candidateCleanup))

/-- Retrying the pending cleanup ends with nothing pending, or it raises. -/
theorem retryPendingCleanupLocked_leads (haccounted : s.Accounted)
    (hvacant : s.HasPendingCleanup → s.activeProvider = none) : Leads kept retryPendingCleanupLocked
      (fun _ s' => ¬s.HasPendingCleanup ∧ s' = s ∨
        Free kept s' ∧ ¬s'.HasPendingCleanup ∧ s'.activeProvider = none ∧ s'.closed = s.closed)
      (fun _ => Free kept) s := by
  unfold retryPendingCleanupLocked
  refine wp_bind.mpr (wp_get.mpr (wp_ite.mpr ⟨?_, ?_⟩))
  · exact fun hpending => wp_pure.mpr (Or.inl ⟨hpending, rfl⟩)
  intro hpending
  have hheld : Held (s.withLifecycle .switching) :=
    ⟨haccounted.withLifecycle _, rfl, hvacant (not_not.mp hpending)⟩
  refine wp_bind.mpr (wp_modify.mpr (wp_bind.mpr ?_))
  refine (closeTrackedProviders_leads .retiring hheld (fun _ => id) haccounted.retiring_nodup).imp ?_
  rintro retired s₁ ⟨hclosing, hothers, hall, hsome⟩
  refine wp_bind.mpr (wp_get.mpr (wp_bind.mpr ?_))
  refine (closeTrackedProviders_leads .candidateCleanup hclosing.held (fun _ => id)
    hclosing.held.accounted.candidate_nodup).imp ?_
  rintro candidates s₂ ⟨hclosing₂, hothers₂, hall₂, hsome₂⟩
  have hretiring : s₂.tracked .retiring = s₁.tracked .retiring := hothers₂ .retiring nofun
  have hheld₂ := hclosing₂.held
  refine wp_ite.mpr ⟨?_, ?_⟩
  · intro hfailed
    apply wp_bind.mpr
    refine wp_modify.mpr (wp_raise.mpr (hheld₂.pending kept ?_))
    cases candidates with
    | false =>
      obtain ⟨i, hi⟩ := hsome₂ rfl
      exact mem_tracked_pending hi
    | true =>
      obtain ⟨i, hi⟩ := hsome (by simpa using hfailed)
      exact mem_tracked_pending (hretiring ▸ hi)
  · intro hdone
    obtain ⟨rfl, rfl⟩ : retired = true ∧ candidates = true := by simpa using hdone
    have hnone : ¬s₂.HasPendingCleanup := by
      rw [not_pending_iff]
      rintro (_ | _) i hi
      · rw [hretiring] at hi
        have := (hall rfl i).mp hi
        exact this.2 this.1
      · have := (hall₂ rfl i).mp hi
        exact this.2 this.1
    exact wp_modify.mpr (Or.inr ⟨hheld₂.rest kept hnone, hnone, hheld₂.vacant,
      hclosing₂.closed.trans hclosing.closed⟩)

/-! ## Activating and closing -/

/-- An activation that may construct its provider now. -/
structure Ready (kept : Prop) (a : Activation) (profile : ProviderProfile) (s : ProviderProfileService) : Prop where
  held : Held s
  clean : ¬s.HasPendingCleanup
  running : s.closed = false
  profileId : profile.profileId = a.profileId
  stored : kept → Stored s.repository profile

/-- A candidate that is discarded leaves no provider, or is retained for cleanup. -/
theorem discardCandidate_leads (notClosed reason : String) (hrunning : s.closed = false)
    (hcandidate : Held (s.track .candidateCleanup provider)) (hclean : ¬s.HasPendingCleanup) :
    Leads kept (discardCandidate provider notClosed reason) (fun _ => Free kept) (fun _ => Free kept) s := by
  unfold discardCandidate
  refine wp_bind.mpr (wp_modify.mpr (wp_bind.mpr ?_))
  have htracked : provider ∈ (s.track .candidateCleanup provider).tracked .candidateCleanup :=
    mem_insertKey.mpr (Or.inr rfl)
  refine (closeTrackedProvider_leads none hcandidate htracked).imp ?_
  rintro closed s' ⟨hclosing, hset⟩
  refine wp_ite.mpr ⟨?_, ?_⟩
  · intro hnot
    obtain rfl : closed = false := by simpa using hnot
    refine wp_bind.mpr (wp_modify.mpr (wp_raise.mpr
      (hclosing.held.pending kept ?_)))
    have hstill : provider ∈ s'.tracked .candidateCleanup := (hset .candidateCleanup).symm ▸ htracked
    exact mem_tracked_pending hstill
  · intro hdone
    obtain rfl : closed = true := by simpa using hdone
    have hnone : ¬s'.HasPendingCleanup := by
      rw [not_pending_iff]
      rintro (_ | _) i hi
      · rw [hset] at hi
        exact not_pending_iff.mp hclean .retiring i hi
      · rw [hset] at hi
        obtain ⟨hi, hne⟩ := mem_popKey.mp hi
        rcases mem_insertKey.mp hi with hi | hi
        · exact not_pending_iff.mp hclean .candidateCleanup i hi
        · exact hne hi
    have hrest := hclosing.held.rest kept hnone
    rw [hclosing.closed, show (s.track .candidateCleanup provider).closed = false from hrunning] at hrest
    exact wp_bind.mpr (wp_modify.mpr (wp_raise.mpr hrest))

/-- The new provider is published, or it is discarded. -/
theorem publish_leads {a : Activation} {profile : ProviderProfile} (h : Ready kept a profile s) :
    Leads kept (publish a profile) (fun _ => Free kept) (fun _ => Free kept) s := by
  obtain ⟨hheld, hclean, hrunning, hprofile, hstored⟩ := h
  unfold publish
  refine wp_bind.mpr (wp_get.mpr ?_)
  split
  next =>
    have hrest := hheld.rest kept hclean
    rw [hrunning] at hrest
    exact wp_bind.mpr (wp_modify.mpr (wp_raise.mpr hrest))
  next delegate _ =>
    refine wp_bind.mpr (wp_modify.mpr ?_)
    set p : ManagedProvider :=
      { profileId := a.profileId, expectedProviderName := profile.providerId.value, builtFrom := profile } with hp
    -- until it is published, the new provider is a candidate
    have hcandidate : Held ((s.make p).track .candidateCleanup s.providers.length) := by
      refine ⟨hheld.accounted.make (p := p) rfl rfl hheld.accounted.retiring_nodup
        (nodup_insertKey hheld.accounted.candidate_nodup _) .candidate ?_
        (fun hactive => by cases hactive), hheld.switching,
        hheld.vacant⟩
      intro i place hplace
      cases place with
      | active => simp [At, track, make]
      | retiring => simp [At, track, make]
      | candidate => simp [At, track, make]
      | closed => exact (hplace rfl).elim
    have hdiscard : ∀ notClosed reason, Leads kept (discardCandidate s.providers.length notClosed reason)
        (fun _ => Free kept) (fun _ => Free kept) (s.make p) := fun notClosed reason =>
      discardCandidate_leads notClosed reason hrunning hcandidate hclean
    refine wp_ite.mpr ⟨fun _ => hdiscard _ _, fun _ => ?_⟩
    split
    next => exact hdiscard _ _
    next repository hactive =>
      obtain ⟨hid, hprofiles⟩ := MetadataSnapshot.setActiveProfileId_ok hactive
      refine wp_bind.mpr (wp_modify.mpr (wp_bind.mpr
        (wp_modify.mpr (wp_pure.mpr ?_))))
      constructor
      · refine hheld.accounted.make (p := p) rfl rfl hheld.accounted.retiring_nodup hheld.accounted.candidate_nodup
          .active ?_ fun hplace => by cases hplace
        intro i place hplace
        cases place with
        | active => simp [At, withRuntime, hheld.vacant, eq_comm]
        | retiring => simp [At, make, withRuntime]
        | candidate => simp [At, make, withRuntime]
        | closed => exact (hplace rfl).elim
      · exact (restingState_withRuntime hclean).symm
      · rintro (hpending | hclosed)
        · exact (hclean hpending).elim
        · exact absurd (hrunning.symm.trans hclosed) Bool.false_ne_true
      · rintro provider ⟨⟩
        refine ⟨p, by simp [make, withRuntime], rfl, hprofile, rfl, ⟨profile, rfl, .refl _⟩, fun hclosed => (by cases hclosed), hid, ?_⟩
        intro hkept q hq
        exact hstored hkept q (hprofiles ▸ hq)

theorem runtime_eq {old : Runtime} (h : s.runtime provider = some old) :
    old.provider = provider ∧ s.runtimeProfileId = some old.profileId ∧
      s.runtimeProfileSnapshot = some old.snapshot := by
  unfold ProviderProfileService.runtime at h
  split at h
  next hid hsnapshot _ =>
    obtain rfl := Option.some.inj h
    exact ⟨rfl, hid, hsnapshot⟩
  next => cases h

/-- The service with its active provider revoked and retiring. -/
def retired (s : ProviderProfileService) (provider : ProviderRef) : ProviderProfileService :=
  (((s.withLifecycle .switching).onProvider provider ManagedProvider.revoke).clearRuntime).track .retiring provider

theorem retired_held (h : s.Accounted) (hactive : s.activeProvider = some provider) : Held (retired s provider) := by
  have hrevoked : ((s.withLifecycle .switching).onProvider provider ManagedProvider.revoke).Accounted :=
    (h.withLifecycle _).onProvider (fun p => (rfl : p.revoke.closeReturned = p.closeReturned)) _
  exact ⟨hrevoked.retire hactive, rfl, rfl⟩

/-- Restored after an interrupted switch, the old provider is published as it was. -/
theorem restore_free {old : Runtime} {point : Await} (h : Free kept s) (hclean : ¬s.HasPendingCleanup)
    (hrunning : s.closed = false) (hactive : s.activeProvider = some old.provider)
    (hold : s.runtime old.provider = some old) (hdrift : Drift kept point (retired s old.provider) s') :
    Free kept (restore old s') := by
  have hheld := (retired_held h.accounted hactive).drift hdrift
  obtain ⟨repository, hs'⟩ : ∃ repository, s' = { retired s old.provider with repository } := ⟨_, hdrift.others⟩
  have hsame := hdrift.active
  rw [hs'] at hheld hsame
  subst hs'
  replace hsame : s.repository.KeepsActive repository := hsame
  have htracked : old.provider ∈ insertKey s.retiringProviders old.provider := mem_insertKey.mpr (Or.inr rfl)
  have hclean' : ¬(restore old { retired s old.provider with repository }).HasPendingCleanup := by
    rw [not_pending_iff] at hclean ⊢
    rintro (_ | _) i hi
    · obtain ⟨hi, hne⟩ := mem_popKey.mp (hi : i ∈ popKey (insertKey s.retiringProviders old.provider) old.provider)
      rcases mem_insertKey.mp hi with hi | hi
      · exact hclean .retiring i hi
      · exact hne hi
    · exact hclean .candidateCleanup i hi
  constructor
  · have hresumed := (hheld.accounted.restore htracked hheld.vacant).onProvider
      (fun p => (rfl : p.resume.closeReturned = p.closeReturned)) old.provider
    refine hresumed.congr rfl rfl rfl fun i place => ?_
    cases place <;> exact Iff.rfl
  · exact (restingState_active hclean' nofun).symm
  · rintro (hpending | hclosed)
    · exact (hclean' hpending).elim
    · exact nomatch hrunning.symm.trans hclosed
  · rintro provider ⟨⟩
    obtain ⟨p, hp, hpublished⟩ := h.published _ hactive
    obtain ⟨-, hid, hsnapshot⟩ := runtime_eq hold
    have hget : (restore old { retired s old.provider with repository }).providers[old.provider]? =
        some p.revoke.resume := by
      show ((s.providers.modify old.provider ManagedProvider.revoke).modify old.provider
        ManagedProvider.resume)[old.provider]? = _
      simp [Option.mem_def.mp hp]
    refine ⟨p.revoke.resume, hget, rfl, hpublished.builtFrom, ?_, ?_, nofun, ?_, ?_⟩
    · exact hid.symm.trans hpublished.runtimeProfileId
    · obtain ⟨snapshot, hmem, hconfiguration⟩ := hpublished.snapshot
      rw [hsnapshot] at hmem
      exact ⟨old.snapshot, rfl, Option.some.inj hmem ▸ hconfiguration⟩
    · exact hsame.activeProfileId.trans hpublished.active
    · intro hkept q hq
      have hkeeps := hsame.profile p.profileId hpublished.active
      apply hpublished.stored hkept q
      rw [hpublished.builtFrom, ← hkeeps, ← hpublished.builtFrom]
      exact hq

/-- The old provider is closed, or the activation ends with it published again or retained. -/
theorem retire_leads {a : Activation} {profile : ProviderProfile} {old : Runtime} (handling : ActiveTurnHandling)
    (h : Free kept s) (hclean : ¬s.HasPendingCleanup) (hrunning : s.closed = false)
    (hactive : s.activeProvider = some old.provider) (hold : s.runtime old.provider = some old)
    (hprofile : profile.profileId = a.profileId) (hstored : kept → Stored s.repository profile) :
    Leads kept (retire a profile old handling) (fun _ => Ready kept a profile) (fun _ => Free kept) s := by
  unfold retire
  refine wp_bind.mpr (wp_modify.mpr ?_)
  show Leads kept _ _ _ (retired s old.provider)
  have hheld := retired_held h.accounted hactive
  have htracked : old.provider ∈ (retired s old.provider).tracked .retiring := mem_insertKey.mpr (Or.inr rfl)
  have honly : ∀ set i, i ∈ (retired s old.provider).tracked set → i = old.provider ∧ set = .retiring := by
    rintro (_ | _) i hi
    · rcases mem_insertKey.mp hi with hi | rfl
      · exact (not_pending_iff.mp hclean .retiring i hi).elim
      · exact ⟨rfl, rfl⟩
    · exact (not_pending_iff.mp hclean .candidateCleanup i hi).elim
  refine wp_bind.mpr (wp_await.mpr ⟨rfl, fun s' hdrift answer => ?_⟩)
  have hheld' := hheld.drift hdrift
  have hset : ∀ set, s'.tracked set = (retired s old.provider).tracked set := by
    rw [hdrift.others]
    rintro (_ | _) <;> rfl
  have hrestored := restore_free h hclean hrunning hactive hold hdrift
  cases answer with
  | cancelled => exact wp_bind.mpr (wp_modify.mpr (wp_raise.mpr hrestored))
  | raised => exact wp_bind.mpr (wp_modify.mpr (wp_raise.mpr hrestored))
  | returned =>
    have htracked' : old.provider ∈ s'.tracked .retiring := hset _ ▸ htracked
    refine wp_bind.mpr ((closeTrackedProvider_leads (some profile) hheld' htracked').imp ?_)
    rintro closed s₂ ⟨hclosing, hset₂⟩
    have hrunning₂ : s₂.closed = false := by
      rw [hclosing.closed, hdrift.others]
      exact hrunning
    refine wp_ite.mpr ⟨?_, ?_⟩
    · intro hnot
      obtain rfl : closed = false := by simpa using hnot
      have hstill : old.provider ∈ s₂.tracked .retiring := (hset₂ .retiring).symm ▸ htracked'
      exact wp_bind.mpr (wp_modify.mpr (wp_raise.mpr
        (hclosing.held.pending kept (mem_tracked_pending hstill))))
    · intro hdone
      obtain rfl : closed = true := by simpa using hdone
      refine wp_pure.mpr ⟨hclosing.held, not_pending_iff.mpr ?_, hrunning₂, hprofile, ?_⟩
      · intro set i hi
        rw [hset₂] at hi
        unfold trackedAfter at hi
        split at hi
        next hthis =>
          obtain ⟨hi, hne⟩ := mem_popKey.mp hi
          exact hne (honly _ i (hset .retiring ▸ hi)).1
        next hother =>
          exact hother ⟨rfl, (honly _ i (hset set ▸ hi)).2⟩
      · exact fun hkept => hclosing.stored hkept profile rfl (hdrift.reading hkept profile rfl (hstored hkept))

theorem activateProfile_leads (a : Activation) (h : Free kept s) :
    Leads kept (activateProfile a) (fun _ => Free kept) (fun _ => Free kept) s := by
  unfold activateProfile
  apply wp_bind.mpr
  refine (retryPendingCleanupLocked_leads h.accounted fun hpending => h.vacant (Or.inl hpending)).imp ?_
  rintro - s₁ hretried
  obtain ⟨hfree, hclean⟩ : Free kept s₁ ∧ ¬s₁.HasPendingCleanup := by
    rcases hretried with ⟨hclean, rfl⟩ | ⟨hfree, hclean, -, -⟩
    · exact ⟨h, hclean⟩
    · exact ⟨hfree, hclean⟩
  refine wp_bind.mpr (wp_get.mpr (wp_ite.mpr ⟨fun _ => hfree, fun hrunning => ?_⟩))
  have hrunning : s₁.closed = false := by simpa using hrunning
  split
  next => exact hfree
  next => exact hfree
  next profile hget =>
    have hfound := MetadataSnapshot.getProfile_ok hget
    have hprofile : profile.profileId = a.profileId := profileOf_profileId hfound.symm
    have hstored : kept → Stored s₁.repository profile := by
      intro _ q hq
      rw [hprofile, ← hfound] at hq
      obtain rfl := Option.some.inj hq
      exact .refl _
    refine wp_ite.mpr ⟨fun _ => hfree, fun _ => ?_⟩
    split
    next hactive =>
      refine wp_bind.mpr (wp_modify.mpr (publish_leads ?_))
      exact ⟨⟨hfree.accounted.withLifecycle _, rfl, hactive⟩, hclean, hrunning, hprofile, hstored⟩
    next provider hactive =>
      refine wp_ite.mpr ⟨fun _ => wp_ite.mpr ⟨fun _ => hfree, fun _ => hfree⟩, fun _ => ?_⟩
      split
      next old handling hold _ _ =>
        apply wp_bind.mpr
        obtain rfl := (runtime_eq hold).1
        exact (retire_leads handling hfree hclean hrunning hactive hold hprofile hstored).imp
          (fun _ _ hready => publish_leads hready)
      next => exact hfree

/-- Nothing is left to close, and nothing will be activated. -/
structure Finished (s : ProviderProfileService) : Prop where
  closed : s.closed = true
  clean : ¬s.HasPendingCleanup
  vacant : s.activeProvider = none

/-- Where nothing waits for cleanup, a provider is the active one or closed. -/
theorem ProviderProfileService.Accounted.active_or_closed (h : s.Accounted) (hclean : ¬s.HasPendingCleanup)
    {p : ManagedProvider} (hp : s.providers[provider]? = some p) : s.activeProvider = some provider ∨ p.closeReturned = true := by
  obtain ⟨place, hat, -⟩ := h.once provider (List.getElem?_eq_some_iff.mp hp).1
  cases place with
  | active => exact .inl hat
  | retiring => exact (not_pending_iff.mp hclean .retiring provider hat).elim
  | candidate => exact (not_pending_iff.mp hclean .candidateCleanup provider hat).elim
  | closed =>
    obtain ⟨p', hp', hclosed⟩ := hat
    obtain rfl := Option.some.inj (hp.symm.trans hp')
    exact .inr hclosed

/-- Every provider of a finished service is closed. -/
theorem Finished.all_closed (h : Finished s) (haccounted : s.Accounted) : ∀ p ∈ s.providers, p.closeReturned = true := by
  intro p hp
  obtain ⟨provider, hprovider⟩ := List.mem_iff_getElem?.mp hp
  rcases haccounted.active_or_closed h.clean hprovider with hactive | hclosed
  · rw [h.vacant] at hactive
    cases hactive
  · exact hclosed

/-- Closing the service moves its active provider to the retiring ones. -/
theorem beginClose_accounted (h : s.Accounted) :
    (beginClose s).Accounted ∧ (beginClose s).activeProvider = none ∧ (beginClose s).closed = true := by
  unfold beginClose
  split
  next provider hactive =>
    have hclosing : ({ s with closed := true } : ProviderProfileService).Accounted :=
      ⟨h.once, h.made, h.retiring_nodup, h.candidate_nodup⟩
    have hrevoked := hclosing.onProvider (fun p => (rfl : p.revoke.closeReturned = p.closeReturned)) provider
    exact ⟨hrevoked.retire hactive, rfl, rfl⟩
  next hvacant =>
    refine ⟨h.congr rfl rfl rfl fun i place => ?_, rfl, rfl⟩
    cases place with
    | active => simp [At, clearRuntime, hvacant]
    | retiring => exact Iff.rfl
    | candidate => exact Iff.rfl
    | closed => exact Iff.rfl

theorem aclose_leads (h : Free kept s) :
    Leads kept aclose (fun _ s' => Free kept s' ∧ Finished s') (fun _ => Free kept) s := by
  obtain ⟨haccounted, hvacant, hclosed⟩ := beginClose_accounted h.accounted
  unfold aclose
  refine wp_bind.mpr (wp_modify.mpr (wp_bind.mpr ?_))
  refine (retryPendingCleanupLocked_leads haccounted fun _ => hvacant).imp ?_
  rintro - s₁ hretried
  obtain ⟨haccounted₁, hclean₁, hvacant₁, hclosed₁⟩ : s₁.Accounted ∧ ¬s₁.HasPendingCleanup ∧
      s₁.activeProvider = none ∧ s₁.closed = true := by
    rcases hretried with ⟨hclean, rfl⟩ | ⟨hfree, hclean, hvacant₁, hclosed₁⟩
    · exact ⟨haccounted, hclean, hvacant, hclosed⟩
    · exact ⟨hfree.accounted, hclean, hvacant₁, hclosed₁.trans hclosed⟩
  have hresting : restingState s₁ = .closed := by rw [restingState_vacant hclean₁ hvacant₁, if_pos hclosed₁]
  refine wp_modify.mpr ⟨⟨haccounted₁.withLifecycle _, hresting.symm, fun _ => hvacant₁, ?_⟩,
    hclosed₁, hclean₁, hvacant₁⟩
  exact fun _ hactive => nomatch hvacant₁.symm.trans hactive

/-! ## Without an active provider -/

def Vacant (s : ProviderProfileService) : Prop := s.activeProvider = none

theorem Vacant.drift {point : Await} (h : Vacant s) (hdrift : Drift kept point s s') : Vacant s' := by
  rw [hdrift.others]
  exact h

theorem closeTrackedProvider_vacant (profile : Option ProviderProfile) (provider : ProviderRef) (set : TrackedSet) :
    (closeTrackedProvider profile provider set).Preserves Vacant := by
  have hclosed : (acloseProvider profile provider).Preserves Vacant := by
    refine .bind (.modify fun _ h => h) fun _ => .bind (fun _ => trivial) fun answer => ?_
    cases answer with
    | cancelled => exact trivial
    | raised => exact trivial
    | returned => exact .modify fun _ h => h
  refine .bind hclosed.attempt fun result => ?_
  split
  next => exact .bind (.modify fun _ h => h) fun _ => trivial
  next => exact trivial
  next =>
    refine .bind (.modify fun s h => ?_) fun _ => trivial
    cases set <;> exact h

theorem closeTrackedProviders_vacant (set : TrackedSet) :
    ∀ providers : List ProviderRef, (closeTrackedProviders set providers).Preserves Vacant
  | [] => trivial
  | provider :: rest => .bind (closeTrackedProvider_vacant none provider set) fun _ =>
    .bind (closeTrackedProviders_vacant set rest) fun _ => trivial

theorem retryPendingCleanupLocked_vacant : retryPendingCleanupLocked.Preserves Vacant := by
  refine .bind .get fun s => .ite trivial (.bind (.modify fun _ h => h) fun _ => ?_)
  refine .bind (closeTrackedProviders_vacant _ _) fun _ => .bind .get fun _ => .bind (closeTrackedProviders_vacant _ _) fun _ => ?_
  exact .ite (.bind (.modify fun _ h => h) fun _ => trivial) (.modify fun _ h => h)

/-- A program under the lock and what it leaves of the active provider. -/
abbrev Evacuated (kept : Prop) {α : Type} (c : Operation α) (Q : α → ProviderProfileService → Prop)
    (s : ProviderProfileService) : Prop :=
  c.Wp (interference (Drift kept) fun _ => Vacant) Q (fun _ => Vacant) s

/-- Until the new provider is published, there is none. -/
theorem publish_vacant (a : Activation) (profile : ProviderProfile) (h : Vacant s) :
    Evacuated kept (publish a profile) (fun provider s' => s'.activeProvider = some provider) s := by
  have hdiscard : ∀ provider notClosed reason (s : ProviderProfileService), Vacant s →
      Evacuated kept (discardCandidate provider notClosed reason) (fun provider s' => s'.activeProvider = some provider) s := by
    intro provider notClosed reason s hs
    have hclosed : Evacuated kept (closeTrackedProvider none provider .candidateCleanup) (fun _ => Vacant)
        (s.track .candidateCleanup provider) :=
      (closeTrackedProvider_vacant none provider .candidateCleanup).wp (fun _ _ _ hs hdrift => hs.drift hdrift) hs
    refine wp_bind.mpr (wp_modify.mpr (wp_bind.mpr ?_))
    refine hclosed.imp (fun closed s' hs' => ?_)
    exact wp_ite.mpr ⟨fun _ => hs', fun _ => hs'⟩
  unfold publish
  refine wp_bind.mpr (wp_get.mpr ?_)
  split
  next => exact h
  next delegate _ =>
    refine wp_bind.mpr (wp_modify.mpr ?_)
    refine wp_ite.mpr ⟨fun _ => hdiscard _ _ _ _ h, fun _ => ?_⟩
    split
    next => exact hdiscard _ _ _ _ h
    next repository _ => exact rfl

theorem aclose_vacant (s : ProviderProfileService) : Evacuated kept aclose (fun _ => Vacant) s := by
  have hbegun : Vacant (beginClose s) := by
    unfold beginClose
    split <;> rfl
  refine wp_bind.mpr (wp_modify.mpr (wp_bind.mpr ?_))
  refine (retryPendingCleanupLocked_vacant.wp (fun _ _ _ hs hdrift => hs.drift hdrift) hbegun).imp ?_
  exact fun _ _ hs => hs

/-! ## After the service is closed -/

section

variable (at_ : Await → ProviderProfileService → Prop)

theorem retryPendingCleanupLocked_clean (h : ¬s.HasPendingCleanup) {Q : Unit → ProviderProfileService → Prop}
    {R : Failure → ProviderProfileService → Prop} (hQ : Q () s) :
    retryPendingCleanupLocked.Wp (interference (Drift kept) at_) Q R s := by
  unfold retryPendingCleanupLocked
  refine wp_bind.mpr (wp_get.mpr (wp_ite.mpr ⟨fun _ => ?_, fun hpending => ?_⟩))
  · exact wp_pure.mpr hQ
  · exact (hpending h).elim

/-- No activation of a finished service suspends or returns. -/
theorem activateProfile_finished (a : Activation) (h : Finished s) :
    (activateProfile a).Wp (interference (Drift kept) at_) (fun _ _ => False) (fun _ => Finished) s := by
  unfold activateProfile
  refine wp_bind.mpr (retryPendingCleanupLocked_clean at_ h.clean ?_)
  refine wp_bind.mpr (wp_get.mpr (wp_ite.mpr ⟨fun _ => h, fun hrunning => ?_⟩))
  exact (hrunning h.closed).elim

/-- Closing a finished service again does not suspend. -/
theorem aclose_finished (h : Finished s) :
    aclose.Wp (interference (Drift kept) at_) (fun _ => Finished) (fun _ => Finished) s := by
  unfold aclose
  have hbegun : beginClose s = ({ s with closed := true } : ProviderProfileService).clearRuntime := by
    unfold beginClose
    rw [h.vacant]
  refine wp_bind.mpr (wp_modify.mpr (wp_bind.mpr ?_))
  rw [hbegun]
  apply retryPendingCleanupLocked_clean
  · exact h.clean
  · exact wp_modify.mpr ⟨rfl, h.clean, rfl⟩

end

end ArkClaw.Provider.ProfileService
