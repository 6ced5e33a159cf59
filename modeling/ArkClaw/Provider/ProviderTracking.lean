import ArkClaw.Provider.AdapterCleanup
import Mathlib.Logic.Function.Basic

/-!
# The providers the profile service tracks until they are closed

The service keeps a provider in one of two dictionaries until its `aclose` has returned. A provider that
raises stays tracked and is tried again. Whether a provider that is no longer tracked really holds nothing
rests on its adapter, and with both adapters it fails: they return from `aclose` when a close call failed.
-/

namespace ArkClaw.Provider

open ArkClaw.Library

/-- The adapters that hold SDK resources. -/
inductive AdapterKind where
  | openai | deepseek
deriving DecidableEq, Repr

/-- Revocable routing handle around an adapter. -/
structure ManagedProvider where
  kind : AdapterKind
  resources : ProviderResources := {}
  acceptingRequests : Bool := true
deriving DecidableEq, Repr

inductive ProviderLifecycleState where
  | inactive | active | switching | cleanupPending | closed
deriving DecidableEq, Repr

/-- The two dictionaries of providers that still have to be closed. -/
inductive TrackedSet where
  | retiring | candidateCleanup
deriving DecidableEq, Repr

/-- The identity of a managed provider. -/
abbrev ProviderRef := Nat

/-- The part of the profile service that closes providers, over the providers that exist. -/
structure ProviderTracking where
  providers : ProviderRef → ManagedProvider
  retiringProviders : List ProviderRef := []
  candidateCleanupPending : List ProviderRef := []
  lifecycleState : ProviderLifecycleState := .inactive

namespace ManagedProvider

def revoke (p : ManagedProvider) : ManagedProvider := { p with acceptingRequests := false }

/-- The adapter's own `aclose`. -/
def delegateAclose (env : SdkEnv) : AdapterKind → ProviderResources.Cleanup Unit
  | .openai => OpenAIProvider.aclose env
  | .deepseek => DeepSeekProvider.aclose env

def aclose (env : SdkEnv) : EStateM TaskError ManagedProvider Unit := do
  modify revoke
  onPart (·.resources) (fun p resources => { p with resources }) (delegateAclose env (← get).kind)

/-- The close calls its cleanup makes end as the adapter needs them to. -/
def CleanupEnds (env : SdkEnv) (p : ManagedProvider) : Prop :=
  match p.kind with
  | .openai => OpenAIProvider.CleanupEnds env p.resources.isolateCurrentResources
  | .deepseek => DeepSeekProvider.CleanupEnds env p.resources.isolateCurrentResources

/-- Closing a managed provider leaves nothing held exactly if its adapter's cleanup ends. -/
theorem aclose_holdsNothing (env : SdkEnv) (p : ManagedProvider) :
    Wp (aclose env) (fun _ p' => p'.resources.HoldsNothing) (fun _ _ => True) p ↔ p.CleanupEnds env := by
  unfold aclose CleanupEnds
  simp only [wp_bind, wp_modify, wp_get, wp_onPart]
  obtain ⟨kind, resources, accepting⟩ := p
  cases kind with
  | openai => exact OpenAIProvider.aclose_holdsNothing env resources
  | deepseek => exact DeepSeekProvider.aclose_holdsNothing env resources

end ManagedProvider

namespace ProviderTracking

def tracked (s : ProviderTracking) : TrackedSet → List ProviderRef
  | .retiring => s.retiringProviders
  | .candidateCleanup => s.candidateCleanupPending

def untrack (s : ProviderTracking) (set : TrackedSet) (provider : ProviderRef) : ProviderTracking :=
  match set with
  | .retiring => { s with retiringProviders := popKey s.retiringProviders provider }
  | .candidateCleanup => { s with candidateCleanupPending := popKey s.candidateCleanupPending provider }

/-- A program of the service. -/
abbrev Tracking (α : Type) := EStateM TaskError ProviderTracking α

variable (env : ProviderRef → SdkEnv)

/-- Close one provider and stop tracking it once its `aclose` has returned. -/
def closeTrackedProvider (provider : ProviderRef) (set : TrackedSet) : Tracking Bool := do
  let ended ← attempt (onPart (fun s : ProviderTracking => s.providers provider)
    (fun s p => { s with providers := Function.update s.providers provider p })
    (ManagedProvider.aclose (env provider)))
  match ended with
  | .error .cancelled =>
    modify fun s => { s with lifecycleState := .cleanupPending }
    throw .cancelled
  | .error .ordinary => return false
  | .ok _ =>
    modify fun s => s.untrack set provider
    return true

section

variable {env} {s : ProviderTracking} {provider : ProviderRef} {set : TrackedSet}

@[simp] theorem mem_tracked_untrack {r : ProviderRef} :
    r ∈ (s.untrack set provider).tracked set ↔ r ∈ s.tracked set ∧ r ≠ provider := by
  cases set <;> simp [untrack, tracked]

theorem untrack_providers : (s.untrack set provider).providers = s.providers := by cases set <;> rfl

end

/-- A tracked provider that is closed and no longer tracked holds neither a client nor a stream, exactly if the
close calls of its adapter's cleanup end as the adapter needs them to. -/
theorem closeTrackedProvider_iff (env : ProviderRef → SdkEnv) (s : ProviderTracking) (provider : ProviderRef)
    (set : TrackedSet) (htracked : provider ∈ s.tracked set) : Wp (closeTrackedProvider env provider set)
      (fun _ s' => provider ∉ s'.tracked set → (s'.providers provider).resources.HoldsNothing)
      (fun _ s' => provider ∉ s'.tracked set → (s'.providers provider).resources.HoldsNothing) s
    ↔ (s.providers provider).CleanupEnds (env provider) := by
  rw [← ManagedProvider.aclose_holdsNothing]
  have hkept : ∀ p, { s with providers := Function.update s.providers provider p }.tracked set
      = s.tracked set := by
    intro p
    cases set <;> rfl
  have hgone : ∀ p, provider ∉ ({ s with providers := Function.update s.providers provider p }.untrack set
      provider).tracked set := fun _ h => (mem_tracked_untrack.mp h).2 rfl
  unfold closeTrackedProvider
  refine wp_bind.trans (wp_attempt.trans (wp_onPart.trans ?_))
  apply Wp.congr
  · intro _ p
    simp only [wp_bind, wp_modify, wp_pure, untrack_providers, Function.update_self]
    exact ⟨fun h => h (hgone p), fun h _ => h⟩
  · intro error p
    cases error with
    | cancelled =>
      refine iff_of_true (fun h => (h ?_).elim) trivial
      cases set <;> exact htracked
    | ordinary => exact iff_of_true (fun h => (h (hkept p ▸ htracked)).elim) trivial

/-- A retiring provider that holds one client and one stream. -/
def retiringOne (kind : AdapterKind) : ProviderTracking where
  providers _ := { kind, resources := { client := some 0, activeStreams := [1] } }
  retiringProviders := [0]

/-- A retiring provider whose stream and client both close. -/
theorem closeTrackedProvider_closes : 0 ∈ (retiringOne .openai).tracked .retiring
    ∧ Wp (closeTrackedProvider (fun _ => ⟨fun _ => .closed⟩) 0 .retiring)
      (fun _ s' => 0 ∉ s'.tracked .retiring → (s'.providers 0).resources.HoldsNothing)
      (fun _ s' => 0 ∉ s'.tracked .retiring → (s'.providers 0).resources.HoldsNothing)
      (retiringOne .openai) := by
  refine ⟨by decide, (closeTrackedProvider_iff _ (retiringOne .openai) 0 .retiring (by decide)).mpr ?_⟩
  exact .inr fun _ _ => rfl

/-- Either adapter, whose stream closes and whose client does not, is forgotten while it still holds the
client. -/
theorem closeTrackedProvider_forgets :
    Wp (closeTrackedProvider (fun _ => ⟨fun i => if i = 0 then .closed else .raised⟩) 0 .retiring)
      (fun _ s' => 0 ∉ s'.tracked .retiring ∧ (s'.providers 0).resources.clients.pending = [0])
      (fun _ _ => False) (retiringOne .openai)
    ∧ Wp (closeTrackedProvider (fun _ => ⟨fun i => if i = 0 then .closed else .raised⟩) 0 .retiring)
      (fun _ s' => 0 ∉ s'.tracked .retiring ∧ (s'.providers 0).resources.clients.pending = [0])
      (fun _ _ => False) (retiringOne .deepseek) :=
  ⟨⟨by decide, rfl⟩, ⟨by decide, rfl⟩⟩

end ProviderTracking

end ArkClaw.Provider
