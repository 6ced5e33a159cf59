import ArkClaw.Provider.ProviderProfileService

/-!
# Where the service keeps each provider

Every provider the service has made is in exactly one place: it is the active one, it is retiring, it is a
candidate that waits for its cleanup, or its delegate's `aclose` has returned. The lemmas say how the writes of
the service move a provider from one place to the next.
-/

namespace ArkClaw.Provider.ProfileService

open ArkClaw.Library ArkClaw.Domain

inductive Place where
  | active | retiring | candidate | closed
deriving DecidableEq, Repr

namespace ProviderProfileService

/-- The provider is kept at the place. -/
def At (s : ProviderProfileService) (provider : ProviderRef) : Place → Prop
  | .active => s.activeProvider = some provider
  | .retiring => provider ∈ s.retiringProviders
  | .candidate => provider ∈ s.candidateCleanupPending
  | .closed => ∃ p ∈ s.providers[provider]?, p.closeReturned = true

/-- Every provider the factory has returned a delegate for is in exactly one place. -/
structure Accounted (s : ProviderProfileService) : Prop where
  once : ∀ provider < s.providers.length, ∃! place, s.At provider place
  made : ∀ provider place, s.At provider place → provider < s.providers.length
  retiring_nodup : s.retiringProviders.Nodup
  candidate_nodup : s.candidateCleanupPending.Nodup

end ProviderProfileService

open ProviderProfileService

variable {s s' : ProviderProfileService} {provider : ProviderRef}

namespace ProviderProfileService

theorem onProvider_get (f : ManagedProvider → ManagedProvider) (i : ProviderRef) :
    (s.onProvider provider f).providers[i]? = if provider = i then s.providers[i]?.map f else s.providers[i]? := by
  show (s.providers.modify provider f)[i]? = _
  rw [List.getElem?_modify]
  split <;> simp

@[simp] theorem onProvider_length (f : ManagedProvider → ManagedProvider) :
    (s.onProvider provider f).providers.length = s.providers.length := List.length_modify f _ _

/-- A place is where a provider is, and nowhere else. -/
def Only (s : ProviderProfileService) (provider : ProviderRef) (place : Place) : Prop :=
  ∀ place', s.At provider place' ↔ place' = place

theorem Accounted.only (h : s.Accounted) (place : Place) (hat : s.At provider place) : s.Only provider place := by
  intro place'
  obtain ⟨unique, -, honly⟩ := h.once provider (h.made _ _ hat)
  constructor
  · intro hat'
    rw [honly place' hat', honly place hat]
  · rintro rfl
    exact hat

theorem Only.existsUnique {place : Place} (h : s.Only provider place) : ∃! place, s.At provider place :=
  ⟨place, (h place).mpr rfl, fun place' hat => (h place').mp hat⟩

/-- Moving one provider to a place keeps the rest accounted for. -/
theorem Accounted.move (h : s.Accounted) (hlt : provider < s.providers.length)
    (hlength : s'.providers.length = s.providers.length) (hretiring : s'.retiringProviders.Nodup)
    (hcandidate : s'.candidateCleanupPending.Nodup) (place : Place) (hmoved : s'.Only provider place)
    (hothers : ∀ i, i ≠ provider → ∀ place, s'.At i place ↔ s.At i place) : s'.Accounted := by
  constructor
  · intro i hi
    by_cases heq : i = provider
    · exact heq ▸ hmoved.existsUnique
    · simpa only [hothers i heq] using h.once i (hlength ▸ hi)
  · intro i place' hat
    rw [hlength]
    by_cases heq : i = provider
    · exact heq ▸ hlt
    · exact h.made i place' ((hothers i heq place').mp hat)
  · exact hretiring
  · exact hcandidate

/-- The places depend on what the service keeps, not on the flags of the providers. -/
theorem Accounted.congr (h : s.Accounted) (hlength : s'.providers.length = s.providers.length)
    (hretiring : s'.retiringProviders = s.retiringProviders)
    (hcandidate : s'.candidateCleanupPending = s.candidateCleanupPending)
    (hplaces : ∀ i place, s'.At i place ↔ s.At i place) : s'.Accounted := by
  constructor
  · intro i hi
    simpa only [hplaces i] using h.once i (hlength ▸ hi)
  · intro i place hat
    rw [hlength]
    exact h.made i place ((hplaces i place).mp hat)
  · exact hretiring ▸ h.retiring_nodup
  · exact hcandidate ▸ h.candidate_nodup

theorem at_onProvider {f : ManagedProvider → ManagedProvider} (hf : ∀ p, (f p).closeReturned = p.closeReturned)
    (i : ProviderRef) (place : Place) : (s.onProvider provider f).At i place ↔ s.At i place := by
  cases place with
  | active => exact Iff.rfl
  | retiring => exact Iff.rfl
  | candidate => exact Iff.rfl
  | closed =>
    show (∃ p ∈ (s.onProvider provider f).providers[i]?, p.closeReturned = true) ↔
      ∃ p ∈ s.providers[i]?, p.closeReturned = true
    rw [onProvider_get]
    split
    · cases s.providers[i]? <;> simp [hf]
    · exact Iff.rfl

theorem Accounted.onProvider (h : s.Accounted) {f : ManagedProvider → ManagedProvider}
    (hf : ∀ p, (f p).closeReturned = p.closeReturned) (provider : ProviderRef) :
    (s.onProvider provider f).Accounted :=
  h.congr (onProvider_length f) rfl rfl (at_onProvider hf)

theorem Accounted.withLifecycle (h : s.Accounted) (lifecycleState : ProviderLifecycleState) :
    (s.withLifecycle lifecycleState).Accounted :=
  ⟨h.once, h.made, h.retiring_nodup, h.candidate_nodup⟩

theorem Accounted.withRepository (h : s.Accounted) (repository : MetadataSnapshot) :
    ({ s with repository } : ProviderProfileService).Accounted :=
  ⟨h.once, h.made, h.retiring_nodup, h.candidate_nodup⟩

/-- The place of the providers of a dictionary. -/
def placeOf : TrackedSet → Place
  | .retiring => .retiring
  | .candidateCleanup => .candidate

theorem at_placeOf {set : TrackedSet} : s.At provider (placeOf set) ↔ provider ∈ s.tracked set := by
  cases set <;> exact Iff.rfl

theorem markClosed_at (hlt : provider < s.providers.length) (i : ProviderRef) (place : Place) :
    (s.markClosed provider).At i place ↔ s.At i place ∨ place = .closed ∧ i = provider := by
  cases place with
  | active => simp [At, markClosed, ProviderProfileService.onProvider]
  | retiring => simp [At, markClosed, ProviderProfileService.onProvider]
  | candidate => simp [At, markClosed, ProviderProfileService.onProvider]
  | closed =>
    show (∃ p ∈ (s.markClosed provider).providers[i]?, p.closeReturned = true) ↔
      (∃ p ∈ s.providers[i]?, p.closeReturned = true) ∨ Place.closed = .closed ∧ i = provider
    unfold markClosed
    rw [onProvider_get]
    by_cases heq : provider = i
    · subst heq
      simp [hlt]
    · have hne : i ≠ provider := fun h => heq h.symm
      simp [heq, hne]

theorem untrack_at {set : TrackedSet} (i : ProviderRef) (place : Place) :
    (s.untrack set provider).At i place ↔ s.At i place ∧ ¬(place = placeOf set ∧ i = provider) := by
  cases set <;> cases place <;> simp [At, untrack, placeOf]

theorem track_at {set : TrackedSet} (i : ProviderRef) (place : Place) :
    (s.track set provider).At i place ↔ s.At i place ∨ place = placeOf set ∧ i = provider := by
  cases set <;> cases place <;> simp [At, track, placeOf]

@[simp] theorem untrack_providers (set : TrackedSet) : (s.untrack set provider).providers = s.providers := by
  cases set <;> rfl

theorem untrack_nodup (hretiring : s.retiringProviders.Nodup) (hcandidate : s.candidateCleanupPending.Nodup)
    (set : TrackedSet) :
    (s.untrack set provider).retiringProviders.Nodup ∧ (s.untrack set provider).candidateCleanupPending.Nodup := by
  cases set with
  | retiring => exact ⟨hretiring.filter _, hcandidate⟩
  | candidateCleanup => exact ⟨hretiring, hcandidate.filter _⟩

theorem track_nodup (hretiring : s.retiringProviders.Nodup) (hcandidate : s.candidateCleanupPending.Nodup)
    (set : TrackedSet) :
    (s.track set provider).retiringProviders.Nodup ∧ (s.track set provider).candidateCleanupPending.Nodup := by
  cases set with
  | retiring => exact ⟨nodup_insertKey hretiring _, hcandidate⟩
  | candidateCleanup => exact ⟨hretiring, nodup_insertKey hcandidate _⟩

/-- A tracked provider whose `aclose` has returned is closed. -/
theorem Accounted.close (h : s.Accounted) {set : TrackedSet} (htracked : provider ∈ s.tracked set) :
    ((s.markClosed provider).untrack set provider).Accounted := by
  have hat := at_placeOf.mpr htracked
  have hlt := h.made _ _ hat
  have honly := h.only _ hat
  have hnodup : ((s.markClosed provider).untrack set provider).retiringProviders.Nodup ∧
      ((s.markClosed provider).untrack set provider).candidateCleanupPending.Nodup :=
    have hretiring : (s.markClosed provider).retiringProviders.Nodup := h.retiring_nodup
    untrack_nodup hretiring h.candidate_nodup set
  refine h.move hlt (by simp [markClosed]) hnodup.1 hnodup.2 .closed ?_ ?_
  · intro place
    rw [untrack_at, markClosed_at hlt, honly place]
    cases set <;> cases place <;> simp [placeOf]
  · intro i hi place
    rw [untrack_at, markClosed_at hlt]
    simp [hi]

/-- The active provider starts to retire. -/
theorem Accounted.retire (h : s.Accounted) (hactive : s.activeProvider = some provider) :
    (s.clearRuntime.track .retiring provider).Accounted := by
  have honly := h.only .active hactive
  have hnodup : (s.clearRuntime.track .retiring provider).retiringProviders.Nodup ∧ _ :=
    track_nodup h.retiring_nodup h.candidate_nodup .retiring
  have hat : ∀ i place, s.clearRuntime.At i place ↔ s.At i place ∧ place ≠ .active := by
    intro i place
    cases place <;> simp [At, clearRuntime]
  refine h.move (h.made _ .active hactive) rfl hnodup.1 hnodup.2 .retiring ?_ ?_
  · intro place
    rw [track_at, hat, honly place]
    cases place <;> simp [placeOf]
  · intro i hi place
    rw [track_at, hat]
    cases place with
    | active => simp [At, hactive, Ne.symm hi, placeOf]
    | retiring => simp [placeOf, hi]
    | candidate => simp [placeOf]
    | closed => simp [placeOf]

/-- A retiring provider is published again. -/
theorem Accounted.restore (h : s.Accounted) (hretiring : provider ∈ s.retiringProviders)
    (hvacant : s.activeProvider = none) :
    ({ s.untrack .retiring provider with activeProvider := some provider } : ProviderProfileService).Accounted := by
  have honly := h.only .retiring hretiring
  refine h.move (h.made _ .retiring hretiring) rfl (h.retiring_nodup.filter _) h.candidate_nodup .active ?_ ?_
  · intro place
    have hplace := honly place
    cases place with
    | active => simp [At]
    | retiring => simp [At, untrack]
    | candidate => simpa [At, untrack] using hplace
    | closed => simpa [At, untrack] using hplace
  · intro i hi place
    cases place with
    | active => simp [At, hvacant, Ne.symm hi]
    | retiring => simp [At, untrack, hi]
    | candidate => exact Iff.rfl
    | closed => exact Iff.rfl

/-- A new provider is nowhere before it is put somewhere. -/
theorem Accounted.fresh (h : s.Accounted) (place : Place) : ¬s.At s.providers.length place :=
  fun hat => Nat.lt_irrefl _ (h.made _ _ hat)

/-- A provider is made and put at one place. -/
theorem Accounted.make {p : ManagedProvider} (h : s.Accounted) (hp : p.closeReturned = false)
    (hproviders : s'.providers = s.providers ++ [p]) (hretiring : s'.retiringProviders.Nodup)
    (hcandidate : s'.candidateCleanupPending.Nodup) (place : Place) (hplaces : ∀ i place', place' ≠ .closed →
      (s'.At i place' ↔ s.At i place' ∨ place' = place ∧ i = s.providers.length))
    (hplace : place ≠ .closed) : s'.Accounted := by
  have hclosed : ∀ i, s'.At i .closed ↔ s.At i .closed := by
    intro i
    show (∃ p ∈ s'.providers[i]?, p.closeReturned = true) ↔ ∃ p ∈ s.providers[i]?, p.closeReturned = true
    rw [hproviders]
    by_cases hi : i < s.providers.length
    · rw [List.getElem?_append_left hi]
    · have hle : s.providers.length ≤ i := Nat.le_of_not_lt hi
      rw [List.getElem?_append_right hle, List.getElem?_eq_none hle]
      rcases hk : i - s.providers.length with _ | k <;> simp [hp]
  have hat : ∀ i place', s'.At i place' ↔ s.At i place' ∨ place' = place ∧ i = s.providers.length := by
    intro i place'
    by_cases hc : place' = .closed
    · subst hc
      rw [hclosed i]
      simp [Ne.symm hplace]
    · exact hplaces i place' hc
  have hlength : s'.providers.length = s.providers.length + 1 := by simp [hproviders]
  constructor
  · intro i hi
    by_cases heq : i = s.providers.length
    · subst heq
      refine ⟨place, (hat _ _).mpr (Or.inr ⟨rfl, rfl⟩), fun place' hplace' => ?_⟩
      rcases (hat _ _).mp hplace' with h' | ⟨h', -⟩
      · exact (h.fresh _ h').elim
      · exact h'
    · rw [hlength] at hi
      have hlt : i < s.providers.length := Nat.lt_of_le_of_ne (Nat.le_of_lt_succ hi) heq
      simpa only [hat, heq, and_false, or_false] using h.once i hlt
  · intro i place' hplace'
    rw [hlength]
    rcases (hat _ _).mp hplace' with h' | ⟨-, rfl⟩
    · exact Nat.lt_succ_of_lt (h.made _ _ h')
    · exact Nat.lt_succ_self _
  · exact hretiring
  · exact hcandidate

end ProviderProfileService

end ArkClaw.Provider.ProfileService
