import ArkClaw.Library.Program
import Mathlib.Data.List.Basic
import Mathlib.Data.List.Nodup

/-!
# Closing what a provider adapter holds

Both adapters keep their SDK client and streams in dictionaries keyed by identity: what is in use, what
waits to be closed, and what is being closed. Closing is retried over those dictionaries, and any close
call may end, raise, or be cancelled. The two adapters share everything but the retry itself: OpenAI tries
every client whatever its streams did, DeepSeek tries none while a stream remains.

`aclose` drops the answer of the retry. It returns with nothing held exactly if every close call of the
cleanup ends, or one is cancelled so that it does not return at all.
-/

namespace ArkClaw.Provider

open ArkClaw.Library

/-- The identity of an SDK object. -/
abbrev ResourceId := Nat

/-- How a close call of the SDK ends: it returns, raises an ordinary exception, or is cancelled. -/
inductive CloseOutcome where
  | closed | raised | cancelled
deriving DecidableEq, Repr

/-- What an awaited call can raise: the task was cancelled while it waited, or an ordinary exception. -/
inductive TaskError where
  | cancelled | ordinary
deriving DecidableEq, Repr

/-- How the close calls of an adapter end, by number. -/
structure SdkEnv where
  close : Nat → CloseOutcome

inductive ResourceKind where
  | stream | client
deriving DecidableEq, Repr

/-- A dictionary keyed by identity, as its keys in insertion order. -/
def insertKey (keys : List ResourceId) (key : ResourceId) : List ResourceId :=
  if key ∈ keys then keys else keys ++ [key]

def popKey (keys : List ResourceId) (key : ResourceId) : List ResourceId := keys.filter (· ≠ key)

/-- The resources without repetition, each where it came first. -/
def uniqueResources (resources : List ResourceId) : List ResourceId := resources.foldl insertKey []

variable {keys : List ResourceId}

@[simp] theorem mem_insertKey {key r : ResourceId} : r ∈ insertKey keys key ↔ r ∈ keys ∨ r = key := by
  unfold insertKey
  split
  next h => exact ⟨.inl, fun hr => hr.elim id fun heq => heq ▸ h⟩
  next => simp

@[simp] theorem mem_popKey {key r : ResourceId} : r ∈ popKey keys key ↔ r ∈ keys ∧ r ≠ key := by
  simp [popKey]

theorem nodup_insertKey (h : keys.Nodup) (key : ResourceId) : (insertKey keys key).Nodup := by
  unfold insertKey
  split
  next => exact h
  next hnew => exact List.nodup_append.mpr ⟨h, List.nodup_singleton _, by
      intro a ha b hb
      rw [List.mem_singleton] at hb
      exact fun heq => hnew (hb ▸ heq ▸ ha)⟩

/-- Folding in keys adds exactly these. -/
theorem mem_foldl_insertKey {r : ResourceId} (resources keys : List ResourceId) :
    r ∈ resources.foldl insertKey keys ↔ r ∈ keys ∨ r ∈ resources := by
  induction resources generalizing keys with
  | nil => simp
  | cons key rest ih =>
    rw [List.foldl_cons, ih, mem_insertKey, List.mem_cons, or_assoc]

theorem nodup_foldl_insertKey (resources : List ResourceId) (h : keys.Nodup) :
    (resources.foldl insertKey keys).Nodup := by
  induction resources generalizing keys with
  | nil => exact h
  | cons key rest ih => exact ih (nodup_insertKey h key)

@[simp] theorem mem_uniqueResources {resources : List ResourceId} {r : ResourceId} :
    r ∈ uniqueResources resources ↔ r ∈ resources := by
  unfold uniqueResources
  rw [mem_foldl_insertKey]
  simp

theorem nodup_uniqueResources (resources : List ResourceId) : (uniqueResources resources).Nodup :=
  nodup_foldl_insertKey resources List.nodup_nil

/-! ## What an adapter holds -/

/-- The resources of one kind that wait to be closed, and those being closed. -/
structure PendingResources where
  pending : List ResourceId := []
  closing : List ResourceId := []
deriving DecidableEq, Repr

/-- The part of an adapter that owns SDK resources. -/
structure ProviderResources where
  client : Option ResourceId := none
  activeStreams : List ResourceId := []
  streams : PendingResources := {}
  clients : PendingResources := {}
  closed : Bool := false
  closeCalls : Nat := 0
deriving DecidableEq, Repr

namespace PendingResources

/-- The resource is still to be closed. -/
def Holds (p : PendingResources) (r : ResourceId) : Prop := r ∈ p.pending ∨ r ∈ p.closing

instance (p : PendingResources) (r : ResourceId) : Decidable (p.Holds r) := inferInstanceAs (Decidable (_ ∨ _))

/-- Nothing is left to close. -/
def Empty (p : PendingResources) : Prop := p.pending = [] ∧ p.closing = []

instance (p : PendingResources) : Decidable p.Empty := inferInstanceAs (Decidable (_ ∧ _))

theorem empty_iff {p : PendingResources} : p.Empty ↔ ∀ r, ¬p.Holds r := by
  simp only [Empty, Holds, not_or, forall_and, ← List.eq_nil_iff_forall_not_mem]

end PendingResources

namespace ProviderResources

/-- The adapter holds neither a client nor a stream. -/
def HoldsNothing (s : ProviderResources) : Prop :=
  s.client = none ∧ s.activeStreams = [] ∧ s.streams.Empty ∧ s.clients.Empty

instance (s : ProviderResources) : Decidable s.HoldsNothing := inferInstanceAs (Decidable (_ ∧ _ ∧ _ ∧ _))

def part (s : ProviderResources) : ResourceKind → PendingResources
  | .stream => s.streams
  | .client => s.clients

def withPart (s : ProviderResources) (kind : ResourceKind) (p : PendingResources) : ProviderResources :=
  match kind with
  | .stream => { s with streams := p }
  | .client => { s with clients := p }

/-- A program over what an adapter holds. -/
abbrev Cleanup (α : Type) := EStateM TaskError ProviderResources α

variable (env : SdkEnv)

/-! ## The operations of both adapters -/

/-- Ask the SDK to close a resource. -/
def closeCall : Cleanup CloseOutcome := do
  let s ← get
  set { s with closeCalls := s.closeCalls + 1 }
  return env.close s.closeCalls

/-- Close one pending resource: `_close_pending_stream_locked` and `_close_pending_client_locked`. -/
def closePendingLocked (kind : ResourceKind) (resource : ResourceId) : Cleanup Bool := do
  let s ← get
  let held := s.part kind
  if ¬held.Holds resource then return true
  else
    set (s.withPart kind
      { pending := popKey held.pending resource, closing := insertKey held.closing resource })
    match ← closeCall env with
    | .cancelled => throw .cancelled
    | .raised =>
      modify fun s => s.withPart kind
        { pending := insertKey (s.part kind).pending resource, closing := popKey (s.part kind).closing resource }
      return false
    | .closed =>
      modify fun s => s.withPart kind
        { pending := popKey (s.part kind).pending resource, closing := popKey (s.part kind).closing resource }
      return true

/-- Close resources one after the other; the answer says whether all of them closed. -/
def closeAll (kind : ResourceKind) : List ResourceId → Cleanup Bool
  | [] => return true
  | resource :: rest => do
    let closed ← closePendingLocked env kind resource
    let others ← closeAll kind rest
    return closed && others

/-- Move what is in use to what waits to be closed. -/
def isolateCurrentResources (s : ProviderResources) : ProviderResources :=
  { s with
    client := none
    activeStreams := []
    streams := { s.streams with pending := s.activeStreams.foldl insertKey s.streams.pending }
    clients :=
      match s.client with
      | none => s.clients
      | some client => { s.clients with pending := insertKey s.clients.pending client } }

/-- Close an adapter, by a retry of its own: isolate everything, then try to close it. The answer of the
retry is dropped. -/
def acloseWith (retry : Cleanup Bool) : Cleanup Unit := do
  let s ← get
  if s.closed ∧ s.HoldsNothing then return ()
  else
    set ({ s with closed := true }.isolateCurrentResources)
    let _ ← retry

end ProviderResources

/-! ## The two adapters -/

namespace OpenAIProvider

open ProviderResources

def streamsToClose (s : ProviderResources) : List ResourceId :=
  uniqueResources (s.streams.pending ++ s.streams.closing)

def clientsToClose (s : ProviderResources) : List ResourceId :=
  uniqueResources (s.clients.pending ++ s.clients.closing)

/-- Try to close every stream and every client. -/
def retryPendingCleanupLocked (env : SdkEnv) : Cleanup Bool := do
  let s ← get
  let streamsClosed ← closeAll env .stream (streamsToClose s)
  let clientsClosed ← closeAll env .client (clientsToClose s)
  return streamsClosed && clientsClosed

def aclose (env : SdkEnv) : Cleanup Unit := acloseWith (retryPendingCleanupLocked env)

end OpenAIProvider

namespace DeepSeekProvider

open ProviderResources

def streamsToClose (s : ProviderResources) : List ResourceId :=
  uniqueResources (s.streams.closing ++ s.streams.pending)

def clientsToClose (s : ProviderResources) : List ResourceId :=
  uniqueResources (s.clients.closing ++ s.clients.pending)

/-- Try to close every stream, and the clients once no stream remains. -/
def retryPendingCleanupLocked (env : SdkEnv) : Cleanup Bool := do
  let s ← get
  let streamsClosed ← closeAll env .stream (streamsToClose s)
  if ¬(← get).streams.Empty then return false
  else
    let clientsClosed ← closeAll env .client (clientsToClose s)
    let clientsRemain := ¬(← get).clients.Empty
    return streamsClosed && clientsClosed && !clientsRemain

def aclose (env : SdkEnv) : Cleanup Unit := acloseWith (retryPendingCleanupLocked env)

end DeepSeekProvider

/-! ## How a number of close calls end -/

/-- Each of the next `count` close calls closes its resource. -/
def AllClosed (env : SdkEnv) (first count : Nat) : Prop := ∀ i < count, env.close (first + i) = .closed

/-- One of the next `count` close calls is cancelled. -/
def SomeCancelled (env : SdkEnv) (first count : Nat) : Prop := ∃ i < count, env.close (first + i) = .cancelled

section

variable {env : SdkEnv} {first count more : Nat}

theorem allClosed_zero : AllClosed env first 0 := fun _ h => absurd h (Nat.not_lt_zero _)

theorem not_someCancelled_zero : ¬SomeCancelled env first 0 := fun ⟨_, h, _⟩ => absurd h (Nat.not_lt_zero _)

theorem allClosed_add :
    AllClosed env first (count + more) ↔ AllClosed env first count ∧ AllClosed env (first + count) more := by
  constructor
  · intro h
    refine ⟨fun i hi => h i (by omega), fun i hi => ?_⟩
    rw [Nat.add_assoc]
    exact h (count + i) (by omega)
  · rintro ⟨hfirst, hmore⟩ i hi
    by_cases hlt : i < count
    · exact hfirst i hlt
    · have h := hmore (i - count) (by omega)
      rwa [show first + count + (i - count) = first + i by omega] at h

theorem someCancelled_add : SomeCancelled env first (count + more)
      ↔ SomeCancelled env first count ∨ SomeCancelled env (first + count) more := by
  constructor
  · rintro ⟨i, hi, h⟩
    by_cases hlt : i < count
    · exact .inl ⟨i, hlt, h⟩
    · refine .inr ⟨i - count, by omega, ?_⟩
      rwa [show first + count + (i - count) = first + i by omega]
  · rintro (⟨i, hi, h⟩ | ⟨i, hi, h⟩)
    · exact ⟨i, by omega, h⟩
    · exact ⟨count + i, by omega, by rwa [← Nat.add_assoc]⟩

theorem allClosed_one : AllClosed env first 1 ↔ env.close first = .closed :=
  ⟨fun h => h 0 Nat.one_pos, fun h i hi => by obtain rfl := Nat.lt_one_iff.mp hi; exact h⟩

theorem someCancelled_one : SomeCancelled env first 1 ↔ env.close first = .cancelled := by
  constructor
  · rintro ⟨i, hi, h⟩
    obtain rfl := Nat.lt_one_iff.mp hi
    exact h
  · exact fun h => ⟨0, Nat.one_pos, h⟩

end

/-! ## What the operations do -/

namespace ProviderResources

section

variable {env : SdkEnv} {s s' : ProviderResources} {kind : ResourceKind}

/-- Close calls were made on one kind of resources, and nothing else changed. -/
def Tried (s : ProviderResources) (kind : ResourceKind) (calls : Nat) (p : PendingResources) :
    ProviderResources := { s.withPart kind p with closeCalls := s.closeCalls + calls }

@[simp] theorem tried_part (calls : Nat) (p : PendingResources) : (s.Tried kind calls p).part kind = p := by
  cases kind <;> rfl

theorem tried_tried (calls calls' : Nat) (p p' : PendingResources) :
    (s.Tried kind calls p).Tried kind calls' p' = s.Tried kind (calls + calls') p' := by
  cases kind <;> simp only [Tried, withPart, Nat.add_assoc]

/-- One close call: the resource is gone if it closed, and still held if the call raised. -/
theorem closePendingLocked_spec {resource : ResourceId} (h : (s.part kind).Holds resource) :
    Wp (closePendingLocked env kind resource)
      (fun closed s' => ∃ p, s' = s.Tried kind 1 p
        ∧ (closed = true ↔ env.close s.closeCalls = .closed) ∧ env.close s.closeCalls ≠ .cancelled
        ∧ (∀ r, r ≠ resource → (p.Holds r ↔ (s.part kind).Holds r))
        ∧ (p.Holds resource ↔ closed = false))
      (fun _ _ => env.close s.closeCalls = .cancelled) s := by
  unfold closePendingLocked
  simp only [wp_bind, wp_get]
  rw [if_neg (not_not.mpr h)]
  have hcalls : ∀ p, (s.withPart kind p).closeCalls = s.closeCalls := by cases kind <;> exact fun _ => rfl
  have htried : ∀ p q, { s.withPart kind p with closeCalls := s.closeCalls + 1 }.withPart kind q
      = s.Tried kind 1 q := by
    cases kind <;> exact fun _ _ => rfl
  have hpart : ∀ p, { s.withPart kind p with closeCalls := s.closeCalls + 1 }.part kind = p := by
    cases kind <;> exact fun _ => rfl
  simp only [wp_bind, wp_set, closeCall, wp_get, wp_pure, hcalls]
  cases hclose : env.close s.closeCalls with
  | cancelled => exact rfl
  | raised =>
    simp only [wp_bind, wp_modify, wp_pure, hpart, htried]
    refine ⟨_, rfl, by simp, by simp, fun r hr => ?_, ?_⟩
    · simp [PendingResources.Holds, hr]
    · simp [PendingResources.Holds]
  | closed =>
    simp only [wp_bind, wp_modify, wp_pure, hpart, htried]
    refine ⟨_, rfl, by simp, by simp, fun r hr => ?_, ?_⟩
    · simp [PendingResources.Holds, hr]
    · simp [PendingResources.Holds]

/-- Closing a list of held resources: each is tried once, and what closed is gone. -/
theorem closeAll_spec (rs : List ResourceId) (hnodup : rs.Nodup) (s : ProviderResources)
    (hheld : ∀ r ∈ rs, (s.part kind).Holds r) : Wp (closeAll env kind rs)
      (fun closed s' => ∃ p, s' = s.Tried kind rs.length p
        ∧ (closed = true ↔ AllClosed env s.closeCalls rs.length) ∧ ¬SomeCancelled env s.closeCalls rs.length
        ∧ (∀ r, r ∉ rs → (p.Holds r ↔ (s.part kind).Holds r))
        ∧ ((∀ r ∈ rs, ¬p.Holds r) ↔ closed = true))
      (fun _ _ => SomeCancelled env s.closeCalls rs.length) s := by
  induction rs generalizing s with
  | nil =>
    refine ⟨s.part kind, ?_, by simp [allClosed_zero], not_someCancelled_zero, fun _ _ => Iff.rfl, by simp⟩
    cases kind <;> rfl
  | cons resource rest ih =>
    obtain ⟨hnew, hrest⟩ := List.nodup_cons.mp hnodup
    have hlength : (resource :: rest).length = 1 + rest.length := Nat.add_comm _ _
    unfold closeAll
    rw [hlength, allClosed_add, someCancelled_add, allClosed_one, someCancelled_one]
    refine wp_bind.mpr ((closePendingLocked_spec (hheld resource (List.mem_cons_self ..))).mono
      (fun closed s₁ hfirst => ?_) (fun _ _ h => .inl h))
    obtain ⟨p₁, rfl, hclosed, hnot, hothers, hresource⟩ := hfirst
    have hheld₁ : ∀ r ∈ rest, ((s.Tried kind 1 p₁).part kind).Holds r := by
      intro r hr
      rw [tried_part, hothers r fun heq => hnew (heq ▸ hr)]
      exact hheld r (List.mem_cons_of_mem _ hr)
    have hcalls : (s.Tried kind 1 p₁).closeCalls = s.closeCalls + 1 := rfl
    refine wp_bind.mpr ((ih hrest _ hheld₁).mono (fun others s₂ hothers₂ => ?_)
      (fun _ _ h => .inr h))
    obtain ⟨p₂, rfl, hclosed₂, hnot₂, hkept, hgone⟩ := hothers₂
    rw [hcalls] at hclosed₂ hnot₂
    rw [tried_part] at hkept
    refine ⟨p₂, tried_tried 1 rest.length p₁ p₂, ?_, ?_, fun r hr => ?_, ?_⟩
    · rw [Bool.and_eq_true, hclosed, hclosed₂]
    · rw [not_or]
      exact ⟨hnot, hnot₂⟩
    · rw [List.mem_cons, not_or] at hr
      rw [hkept r hr.2, hothers r hr.1]
    · rw [Bool.and_eq_true, ← hgone, List.forall_mem_cons, hkept resource hnew, hresource,
        Bool.not_eq_false]

/-- Closing all that is held of one kind: nothing of it is left exactly if every call closed its resource. -/
theorem closeHeld_spec {rs : List ResourceId} (hnodup : rs.Nodup) (hrs : ∀ r, r ∈ rs ↔ (s.part kind).Holds r) :
    Wp (closeAll env kind rs)
      (fun _ s' => ∃ p, s' = s.Tried kind rs.length p ∧ ¬SomeCancelled env s.closeCalls rs.length
        ∧ (p.Empty ↔ AllClosed env s.closeCalls rs.length))
      (fun _ _ => SomeCancelled env s.closeCalls rs.length) s := by
  refine (closeAll_spec rs hnodup s fun r hr => (hrs r).mp hr).imp (fun closed s' hend => ?_)
  obtain ⟨p, rfl, hclosed, hnot, hkept, hgone⟩ := hend
  refine ⟨p, rfl, hnot, ?_⟩
  rw [PendingResources.empty_iff, ← hclosed, ← hgone]
  refine ⟨fun h r _ => h r, fun h r hholds => ?_⟩
  by_cases hr : r ∈ rs
  · exact h r hr hholds
  · exact hr ((hrs r).mpr ((hkept r hr).mp hholds))

/-- Closing an adapter leaves nothing held exactly if its retry does from the isolated resources. The condition
`ends` is that of the retry, which is met where there is nothing to close. -/
theorem acloseWith_holdsNothing {retry : Cleanup Bool} {ends : ProviderResources → Prop}
    (hretry : ∀ s : ProviderResources, s.client = none → s.activeStreams = [] →
      Wp retry (fun _ s' => s'.HoldsNothing ↔ ends s) (fun _ _ => ends s) s)
    (hclosed : ∀ s : ProviderResources, ends { s with closed := true } ↔ ends s)
    (hnothing : ∀ s : ProviderResources, s.HoldsNothing → ends s.isolateCurrentResources) :
    Wp (acloseWith retry) (fun _ s' => s'.HoldsNothing) (fun _ _ => True) s ↔ ends s.isolateCurrentResources := by
  unfold acloseWith
  refine Wp.iff_of (wp_get_bind.mpr ?_)
  split
  next hdone => exact iff_of_true hdone.2 (hnothing s hdone.2)
  next =>
    have hisolated : { s with closed := true }.isolateCurrentResources
        = { s.isolateCurrentResources with closed := true } := rfl
    have hends := hclosed s.isolateCurrentResources
    rw [← hisolated] at hends
    refine wp_bind.mpr (wp_set.mpr ?_)
    refine wp_bind.mpr ((hretry _ rfl rfl).mono (fun _ s' h => ?_) (fun _ _ h => ?_))
    · exact h.trans hends
    · exact iff_of_true trivial (hends.mp h)

end

end ProviderResources

/-! ## When an adapter is left with nothing -/

namespace OpenAIProvider

open ProviderResources

theorem mem_streamsToClose {s : ProviderResources} {r : ResourceId} : r ∈ streamsToClose s ↔ s.streams.Holds r := by
  rw [streamsToClose, mem_uniqueResources, List.mem_append]
  rfl

theorem mem_clientsToClose {s : ProviderResources} {r : ResourceId} : r ∈ clientsToClose s ↔ s.clients.Holds r := by
  rw [clientsToClose, mem_uniqueResources, List.mem_append]
  rfl

/-- Of the close calls the cleanup makes from here, one is cancelled or all close their resources. -/
def CleanupEnds (env : SdkEnv) (s : ProviderResources) : Prop :=
  SomeCancelled env s.closeCalls ((streamsToClose s).length + (clientsToClose s).length)
    ∨ AllClosed env s.closeCalls ((streamsToClose s).length + (clientsToClose s).length)

theorem retryPendingCleanupLocked_spec (env : SdkEnv) (s : ProviderResources) (hclient : s.client = none)
    (hactive : s.activeStreams = []) :
    Wp (retryPendingCleanupLocked env) (fun _ s' => s'.HoldsNothing ↔ CleanupEnds env s)
      (fun _ _ => CleanupEnds env s) s := by
  unfold retryPendingCleanupLocked CleanupEnds
  rw [someCancelled_add, allClosed_add]
  refine wp_get_bind.mpr ?_
  have hnodup : (streamsToClose s).Nodup := nodup_uniqueResources _
  refine wp_bind.mpr ((closeHeld_spec hnodup fun _ => mem_streamsToClose).mono
    (fun _ s₂ hstreams => ?_) (fun _ _ h => .inl (.inl h)))
  obtain ⟨p, rfl, hnot, hempty⟩ := hstreams
  have hnodup' : (clientsToClose s).Nodup := nodup_uniqueResources _
  have hheld : ∀ r, r ∈ clientsToClose s
      ↔ ((s.Tried .stream (streamsToClose s).length p).part .client).Holds r := fun _ => mem_clientsToClose
  refine wp_bind.mpr ((closeHeld_spec hnodup' hheld).mono (fun _ s₃ hclients => ?_)
    (fun _ _ h => .inl (.inr h)))
  obtain ⟨q, rfl, hnot', hempty'⟩ := hclients
  show s.client = none ∧ s.activeStreams = [] ∧ p.Empty ∧ q.Empty ↔ _
  rw [hempty, hempty']
  constructor
  · exact fun h => .inr h.2.2
  · exact fun h => ⟨hclient, hactive, h.resolve_left (not_or.mpr ⟨hnot, hnot'⟩)⟩

/-- The OpenAI adapter returns from `aclose` with nothing held exactly if one close call of its cleanup is
cancelled or all of them close. -/
theorem aclose_holdsNothing (env : SdkEnv) (s : ProviderResources) :
    Wp (aclose env) (fun _ s' => s'.HoldsNothing) (fun _ _ => True) s
      ↔ CleanupEnds env s.isolateCurrentResources := by
  refine acloseWith_holdsNothing (retryPendingCleanupLocked_spec env) (fun _ => Iff.rfl) (fun s h => .inr ?_)
  obtain ⟨hclient, hactive, hstreams, hclients⟩ := h
  have hcalls : (streamsToClose s.isolateCurrentResources).length
      + (clientsToClose s.isolateCurrentResources).length = 0 := by
    simp [isolateCurrentResources, streamsToClose, clientsToClose, uniqueResources, hclient, hactive,
      hstreams.1, hstreams.2, hclients.1, hclients.2]
  rw [hcalls]
  exact allClosed_zero

end OpenAIProvider

namespace DeepSeekProvider

open ProviderResources

theorem mem_streamsToClose {s : ProviderResources} {r : ResourceId} : r ∈ streamsToClose s ↔ s.streams.Holds r := by
  rw [streamsToClose, mem_uniqueResources, List.mem_append]
  exact or_comm

theorem mem_clientsToClose {s : ProviderResources} {r : ResourceId} : r ∈ clientsToClose s ↔ s.clients.Holds r := by
  rw [clientsToClose, mem_uniqueResources, List.mem_append]
  exact or_comm

/-- Of the close calls for streams one is cancelled, or all of them close and then the same holds of the calls
for clients. -/
def CleanupEnds (env : SdkEnv) (s : ProviderResources) : Prop :=
  SomeCancelled env s.closeCalls (streamsToClose s).length
    ∨ AllClosed env s.closeCalls (streamsToClose s).length
      ∧ (SomeCancelled env (s.closeCalls + (streamsToClose s).length) (clientsToClose s).length
        ∨ AllClosed env (s.closeCalls + (streamsToClose s).length) (clientsToClose s).length)

theorem retryPendingCleanupLocked_spec (env : SdkEnv) (s : ProviderResources) (hclient : s.client = none)
    (hactive : s.activeStreams = []) :
    Wp (retryPendingCleanupLocked env) (fun _ s' => s'.HoldsNothing ↔ CleanupEnds env s)
      (fun _ _ => CleanupEnds env s) s := by
  unfold retryPendingCleanupLocked CleanupEnds
  refine wp_get_bind.mpr ?_
  have hnodup : (streamsToClose s).Nodup := nodup_uniqueResources _
  refine wp_bind.mpr ((closeHeld_spec hnodup fun _ => mem_streamsToClose).mono
    (fun _ s₂ hstreams => ?_) (fun _ _ h => .inl h))
  obtain ⟨p, rfl, hnot, hempty⟩ := hstreams
  refine wp_get_bind.mpr ?_
  have hstreams : (s.Tried .stream (streamsToClose s).length p).streams = p := rfl
  rw [hstreams]
  split
  next hremain =>
    rw [hempty] at hremain
    refine iff_of_false (fun h => hremain (hempty.mp h.2.2.1)) ?_
    rintro (h | ⟨h, -⟩)
    · exact hnot h
    · exact hremain h
  next hgone =>
    have hall := hempty.mp (not_not.mp hgone)
    have hnodup' : (clientsToClose s).Nodup := nodup_uniqueResources _
    have hheld : ∀ r, r ∈ clientsToClose s
        ↔ ((s.Tried .stream (streamsToClose s).length p).part .client).Holds r := fun _ => mem_clientsToClose
    refine wp_bind.mpr ((closeHeld_spec hnodup' hheld).mono (fun _ s₃ hclients => ?_)
      (fun _ _ h => .inr ⟨hall, .inl h⟩))
    obtain ⟨q, rfl, hnot', hempty'⟩ := hclients
    refine wp_get_bind.mpr ?_
    show s.client = none ∧ s.activeStreams = [] ∧ p.Empty ∧ q.Empty ↔ _
    rw [hempty, hempty']
    constructor
    · exact fun h => .inr ⟨hall, .inr h.2.2.2⟩
    · intro h
      exact ⟨hclient, hactive, hall, (h.resolve_left hnot).2.resolve_left hnot'⟩

/-- The DeepSeek adapter returns from `aclose` with nothing held exactly if its streams close and then its
clients do, or one of the calls is cancelled before that can fail. -/
theorem aclose_holdsNothing (env : SdkEnv) (s : ProviderResources) :
    Wp (aclose env) (fun _ s' => s'.HoldsNothing) (fun _ _ => True) s
      ↔ CleanupEnds env s.isolateCurrentResources := by
  refine acloseWith_holdsNothing (retryPendingCleanupLocked_spec env) (fun _ => Iff.rfl) (fun s h => ?_)
  obtain ⟨hclient, hactive, hstreams, hclients⟩ := h
  have hcalls : (streamsToClose s.isolateCurrentResources).length = 0
      ∧ (clientsToClose s.isolateCurrentResources).length = 0 := by
    simp [isolateCurrentResources, streamsToClose, clientsToClose, uniqueResources, hclient, hactive,
      hstreams.1, hstreams.2, hclients.1, hclients.2]
  unfold CleanupEnds
  rw [hcalls.1, hcalls.2]
  exact .inr ⟨allClosed_zero, .inr allClosed_zero⟩

end DeepSeekProvider

end ArkClaw.Provider
