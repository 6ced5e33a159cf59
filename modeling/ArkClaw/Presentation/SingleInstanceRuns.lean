import ArkClaw.Presentation.SingleInstance
import Mathlib.Data.List.Perm.Basic

/-!
# The single instance over whole runs

`Keeps` is what every slot of a client does to every session: one that was answered or has expired is not answered
again, a cleanup in progress is left to the slot it belongs to, and no session that has ended is left behind without a
cleanup that raised (`Debt`). It holds however the slots nest, since it holds of the slots that a call runs.

A session whose cleanup raised stays tracked, so that `close` can try again; the lock stays held until then.
-/

namespace ArkClaw.Presentation.SingleInstance

open ArkClaw.Library

open Manager

variable {s s' s'' : Manager} {a b : Socket}
variable {p : ClientSession → Bool} {α : Type}

/-! ## What is said of a session -/

/-- Something holds of a socket's session. -/
def Manager.SessionIs (s : Manager) (p : ClientSession → Bool) (a : Socket) : Prop := ∃ x ∈ s.sessions[a]?, p x = true

def Manager.answersOf (s : Manager) (a : Socket) : Nat := s.log.count (.answered a)

/-- The activations reported for a session, and those that will be. -/
def Manager.activationsOf (s : Manager) (a : Socket) : Nat :=
  s.pending.count (.activationRequested a) + s.log.count (.activationRequested a)

/-- A session has ended and is tracked, though no cleanup of it raised or is in progress. -/
def Manager.Debt (s : Manager) (a : Socket) : Prop :=
  a ∈ s.clients ∧ .ended a ∈ s.log ∧ .cleanupRaised a ∉ s.log ∧ ¬s.SessionIs (·.cleanupInProgress) a

/-- A session is answered at most once and activates at most once, and not before it is terminal; cleaned up, it is
not tracked. -/
structure SoundAt (s : Manager) (a : Socket) : Prop where
  answered : s.answersOf a ≤ 1
  activated : s.activationsOf a ≤ 1
  silent : ¬s.SessionIs (·.terminal) a → s.answersOf a = 0 ∧ s.activationsOf a = 0
  known : a ∈ s.clients ∨ .ended a ∈ s.log → a < s.sessions.length
  gone : .cleanedUp a ∈ s.log → a < s.sessions.length ∧ a ∉ s.clients

def Sound (s : Manager) : Prop := ∀ a, SoundAt s a

/-- A terminal session is not reported again, and a cleanup in progress is left to its slot. -/
structure LeavesAt (s s' : Manager) (a : Socket) : Prop where
  frozen : s.SessionIs (·.terminal) a →
    s'.SessionIs (·.terminal) a ∧ s'.answersOf a = s.answersOf a ∧ s'.activationsOf a = s.activationsOf a
  busy : s'.SessionIs (·.cleanupInProgress) a ↔ s.SessionIs (·.cleanupInProgress) a
  kept : s.SessionIs (·.cleanupInProgress) a → (a ∈ s'.clients ↔ a ∈ s.clients)
    ∧ (s.SessionIs (·.timerCleaned) a → s'.SessionIs (·.timerCleaned) a)
    ∧ (s.SessionIs (·.socketCleaned) a → s'.SessionIs (·.socketCleaned) a)

/-- What a slot may do to a session: it leaves no debt behind either. -/
structure AlongAt (s s' : Manager) (a : Socket) : Prop extends LeavesAt s s' a where
  debt : s'.Debt a → s.Debt a

/-- A record about one client. -/
def Record.OfClient : Record → Prop
  | .tracked _ => False
  | .unlocking _ _ => False
  | _ => True

/-- What a slot of a client leaves alone. -/
structure Around (s s' : Manager) : Prop where
  clients : s'.clients.Sublist s.clients
  sessions : s'.sessions.length = s.sessions.length
  maxActiveClients : s'.maxActiveClients = s.maxActiveClients
  serverOpen : s'.serverOpen = s.serverOpen
  lockHeld : s'.lockHeld = s.lockHeld
  records : ∀ r ∈ s'.log, r ∈ s.log ∨ r.OfClient

/-- What a slot of a client does, from a sound manager on. -/
def Keeps (s s' : Manager) : Prop := Sound s → Sound s' ∧ Around s s' ∧ ∀ a, AlongAt s s' a

theorem LeavesAt.refl (s : Manager) (a : Socket) : LeavesAt s s a :=
  ⟨fun h => ⟨h, rfl, rfl⟩, Iff.rfl, fun _ => ⟨Iff.rfl, id, id⟩⟩

theorem LeavesAt.trans (h : LeavesAt s s' a) (h' : LeavesAt s' s'' a) : LeavesAt s s'' a where
  frozen hterminal := by
    obtain ⟨hmid, hanswers, hactivations⟩ := h.frozen hterminal
    obtain ⟨hlast, hanswers', hactivations'⟩ := h'.frozen hmid
    exact ⟨hlast, hanswers'.trans hanswers, hactivations'.trans hactivations⟩
  busy := h'.busy.trans h.busy
  kept hbusy := by
    obtain ⟨hclients, htimer, hsocket⟩ := h.kept hbusy
    obtain ⟨hclients', htimer', hsocket'⟩ := h'.kept (h.busy.mpr hbusy)
    exact ⟨hclients'.trans hclients, htimer' ∘ htimer, hsocket' ∘ hsocket⟩

theorem AlongAt.refl (s : Manager) (a : Socket) : AlongAt s s a := ⟨LeavesAt.refl s a, id⟩

theorem AlongAt.trans (h : AlongAt s s' a) (h' : AlongAt s' s'' a) : AlongAt s s'' a :=
  ⟨h.toLeavesAt.trans h'.toLeavesAt, h.debt ∘ h'.debt⟩

theorem Around.refl (s : Manager) : Around s s := ⟨List.Sublist.refl _, rfl, rfl, rfl, rfl, fun _ => .inl⟩

theorem Around.trans (h : Around s s') (h' : Around s' s'') : Around s s'' where
  clients := h'.clients.trans h.clients
  sessions := h'.sessions.trans h.sessions
  maxActiveClients := h'.maxActiveClients.trans h.maxActiveClients
  serverOpen := h'.serverOpen.trans h.serverOpen
  lockHeld := h'.lockHeld.trans h.lockHeld
  records r hr := by
    rcases h'.records r hr with hmid | hclient
    · exact h.records r hmid
    · exact .inr hclient

theorem Keeps.refl (s : Manager) : Keeps s s := fun hs => ⟨hs, Around.refl s, AlongAt.refl s⟩

theorem Keeps.trans (h : Keeps s s') (h' : Keeps s' s'') : Keeps s s'' := by
  intro hs
  obtain ⟨hmid, haround, halong⟩ := h hs
  obtain ⟨hlast, haround', halong'⟩ := h' hmid
  exact ⟨hlast, haround.trans haround', fun a => (halong a).trans (halong' a)⟩

instance : Std.Refl Keeps := ⟨Keeps.refl⟩

instance : Trans Keeps Keeps Keeps := ⟨Keeps.trans⟩

/-! ## Updates -/

/-- Two managers agree on what is said of a session. -/
structure AgreeAt (s s' : Manager) (a : Socket) : Prop where
  terminal : s'.SessionIs (·.terminal) a ↔ s.SessionIs (·.terminal) a
  busy : s'.SessionIs (·.cleanupInProgress) a ↔ s.SessionIs (·.cleanupInProgress) a
  timerCleaned : s'.SessionIs (·.timerCleaned) a ↔ s.SessionIs (·.timerCleaned) a
  socketCleaned : s'.SessionIs (·.socketCleaned) a ↔ s.SessionIs (·.socketCleaned) a
  tracked : a ∈ s'.clients ↔ a ∈ s.clients
  answers : s'.answersOf a = s.answersOf a
  activations : s'.activationsOf a = s.activationsOf a
  ended : .ended a ∈ s'.log ↔ .ended a ∈ s.log
  raised : .cleanupRaised a ∈ s'.log ↔ .cleanupRaised a ∈ s.log
  cleaned : .cleanedUp a ∈ s'.log ↔ .cleanedUp a ∈ s.log

theorem AgreeAt.debt (h : AgreeAt s s' a) : s'.Debt a ↔ s.Debt a := by
  unfold Manager.Debt
  rw [h.tracked, h.ended, h.raised, h.busy]

theorem AgreeAt.along (h : AgreeAt s s' a) : AlongAt s s' a where
  frozen hterminal := ⟨h.terminal.mpr hterminal, h.answers, h.activations⟩
  busy := h.busy
  kept _ := ⟨h.tracked, h.timerCleaned.mpr, h.socketCleaned.mpr⟩
  debt := h.debt.mp

theorem AgreeAt.sound (h : AgreeAt s s' a) (hlength : s'.sessions.length = s.sessions.length) (hs : SoundAt s a) :
    SoundAt s' a where
  answered := by
    rw [h.answers]
    exact hs.answered
  activated := by
    rw [h.activations]
    exact hs.activated
  silent hnot := by
    rw [h.answers, h.activations]
    exact hs.silent fun hterminal => hnot (h.terminal.mpr hterminal)
  known hknown := by
    rw [hlength]
    rw [h.tracked, h.ended] at hknown
    exact hs.known hknown
  gone hcleaned := by
    rw [hlength, h.tracked]
    exact hs.gone (h.cleaned.mp hcleaned)

theorem Keeps.of_same (hsessions : s'.sessions = s.sessions) (hclients : s'.clients = s.clients)
    (hpending : s'.pending = s.pending) (hlog : s'.log = s.log) (hmax : s'.maxActiveClients = s.maxActiveClients)
    (hserver : s'.serverOpen = s.serverOpen) (hlock : s'.lockHeld = s.lockHeld) : Keeps s s' := by
  have hagree : ∀ a, AgreeAt s s' a := fun a => by
    constructor <;>
      simp only [Manager.SessionIs, Manager.answersOf, Manager.activationsOf, hsessions, hclients, hpending, hlog]
  refine fun hs => ⟨fun a => (hagree a).sound (by rw [hsessions]) (hs a), ?_, fun a => (hagree a).along⟩
  exact ⟨by rw [hclients], by rw [hsessions], hmax, hserver, hlock, fun r hr => .inl (hlog ▸ hr)⟩

theorem sessionIs_modifySession (f : ClientSession → ClientSession) (p : ClientSession → Bool) :
    (s.modifySession a f).SessionIs p b ↔ if a = b then s.SessionIs (fun x => p (f x)) b else s.SessionIs p b := by
  simp only [Manager.SessionIs, Manager.modifySession, List.getElem?_modify]
  by_cases h : a = b
  · simp [h]
  · simp [h]

theorem sessionIs_modifySession_same (f : ClientSession → ClientSession)
    (hp : ∀ x, p (f x) = p x) : (s.modifySession a f).SessionIs p b ↔ s.SessionIs p b := by
  rw [sessionIs_modifySession]
  simp [hp]

/-- A session that becomes terminal, or whose buffer grows. -/
theorem Keeps.modifySession (f : ClientSession → ClientSession)
    (hterminal : ∀ x : ClientSession, x.terminal = true → (f x).terminal = true)
    (hbusy : ∀ x, (f x).cleanupInProgress = x.cleanupInProgress) (htimer : ∀ x, (f x).timerCleaned = x.timerCleaned)
    (hsocket : ∀ x, (f x).socketCleaned = x.socketCleaned) (a : Socket) : Keeps s (s.modifySession a f) := by
  intro hs
  have hstill : ∀ b, s.SessionIs (·.terminal) b → (s.modifySession a f).SessionIs (·.terminal) b := by
    intro b hb
    rw [sessionIs_modifySession]
    split
    next =>
      obtain ⟨x, hx, hterm⟩ := hb
      exact ⟨x, hx, hterminal x hterm⟩
    next => exact hb
  refine ⟨fun b => ⟨(hs b).answered, (hs b).activated, fun hnot => (hs b).silent fun h => hnot (hstill b h), ?_, ?_⟩, ?_,
    fun b => ⟨⟨fun h => ⟨hstill b h, rfl, rfl⟩, ?_, fun _ => ⟨Iff.rfl, ?_, ?_⟩⟩, ?_⟩⟩
  · intro hknown
    exact (List.length_modify f s.sessions a).symm ▸ (hs b).known hknown
  · intro hcleaned
    exact (List.length_modify f s.sessions a).symm ▸ (hs b).gone hcleaned
  · exact ⟨List.Sublist.refl _, List.length_modify f _ _, rfl, rfl, rfl, fun _ => .inl⟩
  · exact sessionIs_modifySession_same f hbusy
  · exact (sessionIs_modifySession_same f htimer).mpr
  · exact (sessionIs_modifySession_same f hsocket).mpr
  · rintro ⟨htracked, hended, hraised, hfree⟩
    exact ⟨htracked, hended, hraised, fun h => hfree ((sessionIs_modifySession_same f hbusy).mpr h)⟩

theorem Keeps.finishLater (a : Socket) : Keeps s { s with pending := s.pending ++ [.finishClient a] } := by
  have hagree : ∀ b, AgreeAt s { s with pending := s.pending ++ [.finishClient a] } b := fun b => by
    constructor <;> simp [Manager.SessionIs, Manager.answersOf, Manager.activationsOf]
  refine fun hs => ⟨fun b => (hagree b).sound rfl (hs b), ?_, fun b => (hagree b).along⟩
  exact ⟨List.Sublist.refl _, rfl, rfl, rfl, rfl, fun _ => .inl⟩

/-! ## Calls to the outside -/

theorem nextAnswer_keeps : Follows Keeps nextAnswer := by
  intro s
  unfold nextAnswer
  rw [wp_bind, wp_get]
  split
  next => exact Keeps.refl s
  next =>
    rw [wp_bind, wp_set]
    exact Keeps.of_same rfl rfl rfl rfl rfl rfl rfl

/-- A call uses up an answer, whether it raises or returns. -/
theorem wp_call {Q : Answer → Manager → Prop} {R : QtError → Manager → Prop}
    (hQ : ∀ rest answer, Q answer { s with answers := rest }) (hR : ∀ rest, R .raised { s with answers := rest }) :
    Wp call Q R s := by
  unfold call nextAnswer
  rw [wp_bind, wp_bind, wp_get]
  split
  next => exact hQ s.answers {}
  next answer rest _ =>
    rw [wp_bind, wp_set]
    show Wp (if answer.raises = true then _ else _) Q R _
    refine wp_ite.mpr ⟨fun _ => hR rest, fun _ => hQ rest answer⟩

theorem call_keeps : Follows Keeps call := by
  refine nextAnswer_keeps.bind fun answer => ?_
  split
  next => exact Follows.throw _
  next => exact Follows.pure _

theorem attempt_keeps {α ε' : Type} {c : Slot α} (h : Follows Keeps c) : Follows Keeps (attempt c : EStateM ε' Manager _) :=
  fun s => wp_attempt.mpr (h s)

/-- What the signals of a call do. -/
def EmitKeeps (emit : ClientSignal → Socket → Slot Unit) : Prop := ∀ signal a, Follows Keeps (emit signal a)

theorem forM_keeps {f : α → Slot Unit} (hf : ∀ x, Follows Keeps (f x)) (l : List α) :
    Follows Keeps (l.forM f) := by
  induction l with
  | nil => exact Follows.pure _
  | cons x rest ih => exact (hf x).bind fun _ => ih

section

open Manager (Debt SessionIs answersOf activationsOf clientOf)

variable {emit : ClientSignal → Socket → Slot Unit} (hemit : EmitKeeps emit)

include hemit

theorem socketCall_keeps : Follows Keeps (socketCall emit) := by
  refine nextAnswer_keeps.bind fun answer => Follows.bind ?_ fun _ => ?_
  · exact forM_keeps (fun signal => (attempt_keeps (hemit _ _)).bind fun _ => Follows.pure _) _
  · split
    next => exact Follows.throw _
    next => exact Follows.pure _

theorem respond_keeps : Follows Keeps (respond emit) :=
  (socketCall_keeps hemit).bind fun _ => (socketCall_keeps hemit).bind fun _ => socketCall_keeps hemit

end

/-! ## Cleaning a session up -/

/-- What happens to a session while a slot has its cleanup in progress. -/
structure HeldAt (s s' : Manager) (a : Socket) : Prop where
  frozen : s.SessionIs (·.terminal) a →
    s'.SessionIs (·.terminal) a ∧ s'.answersOf a = s.answersOf a ∧ s'.activationsOf a = s.activationsOf a
  busy : s'.SessionIs (·.cleanupInProgress) a
  tracked : a ∈ s'.clients ↔ a ∈ s.clients
  timerCleaned : s.SessionIs (·.timerCleaned) a → s'.SessionIs (·.timerCleaned) a
  socketCleaned : s.SessionIs (·.socketCleaned) a → s'.SessionIs (·.socketCleaned) a

/-- What a slot does that has the cleanup of a session in progress. -/
def Inside (a : Socket) (s s' : Manager) : Prop :=
  Sound s → Sound s' ∧ Around s s' ∧ (∀ b ≠ a, AlongAt s s' b) ∧ HeldAt s s' a

theorem Keeps.inside (h : Keeps s s') (hbusy : s.SessionIs (·.cleanupInProgress) a) : Inside a s s' := by
  intro hs
  obtain ⟨hs', haround, halong⟩ := h hs
  obtain ⟨htracked, htimer, hsocket⟩ := (halong a).kept hbusy
  exact ⟨hs', haround, fun b _ => halong b, (halong a).frozen, (halong a).busy.mpr hbusy, htracked, htimer, hsocket⟩

theorem Inside.trans (h : Inside a s s') (h' : Inside a s' s'') : Inside a s s'' := by
  intro hs
  obtain ⟨hs', haround, halong, hheld⟩ := h hs
  obtain ⟨hs'', haround', halong', hheld'⟩ := h' hs'
  refine ⟨hs'', haround.trans haround', fun b hb => (halong b hb).trans (halong' b hb), ?_, hheld'.busy,
    hheld'.tracked.trans hheld.tracked, hheld'.timerCleaned ∘ hheld.timerCleaned,
    hheld'.socketCleaned ∘ hheld.socketCleaned⟩
  intro hterminal
  obtain ⟨hmid, hanswers, hactivations⟩ := hheld.frozen hterminal
  obtain ⟨hlast, hanswers', hactivations'⟩ := hheld'.frozen hmid
  exact ⟨hlast, hanswers'.trans hanswers, hactivations'.trans hactivations⟩

/-- A change of the session's own that no other slot would make. -/
theorem inside_modifySession (f : ClientSession → ClientSession) (hterminal : ∀ x, (f x).terminal = x.terminal)
    (htimer : ∀ x : ClientSession, x.timerCleaned = true → (f x).timerCleaned = true)
    (hsocket : ∀ x : ClientSession, x.socketCleaned = true → (f x).socketCleaned = true)
    (hbusy : (s.modifySession a f).SessionIs (·.cleanupInProgress) a) : Inside a s (s.modifySession a f) := by
  intro hs
  have hterm : ∀ b, (s.modifySession a f).SessionIs (·.terminal) b ↔ s.SessionIs (·.terminal) b := fun b =>
    sessionIs_modifySession_same f hterminal
  refine ⟨fun b => ⟨(hs b).answered, (hs b).activated, fun hnot => (hs b).silent fun h => hnot ((hterm b).mpr h), ?_,
    ?_⟩, ?_, fun b hb => ?_, ?_⟩
  · intro hknown
    exact (List.length_modify f s.sessions a).symm ▸ (hs b).known hknown
  · intro hcleaned
    exact (List.length_modify f s.sessions a).symm ▸ (hs b).gone hcleaned
  · exact ⟨List.Sublist.refl _, List.length_modify f _ _, rfl, rfl, rfl, fun _ => .inl⟩
  · have hother : ∀ p, (s.modifySession a f).SessionIs p b ↔ s.SessionIs p b := fun p => by
      rw [sessionIs_modifySession, if_neg (Ne.symm hb)]
    exact AgreeAt.along ⟨hother _, hother _, hother _, hother _, Iff.rfl, rfl, rfl, Iff.rfl, Iff.rfl, Iff.rfl⟩
  · refine ⟨fun h => ⟨(hterm a).mpr h, rfl, rfl⟩, hbusy, Iff.rfl, ?_, ?_⟩
    · rintro ⟨x, hx, hcleaned⟩
      rw [sessionIs_modifySession, if_pos rfl]
      exact ⟨x, hx, htimer x hcleaned⟩
    · rintro ⟨x, hx, hcleaned⟩
      rw [sessionIs_modifySession, if_pos rfl]
      exact ⟨x, hx, hsocket x hcleaned⟩

theorem sessionIs_modifySession_set (f : ClientSession → ClientSession) {p q : ClientSession → Bool}
    (hset : ∀ x, p (f x) = true) (h : s.SessionIs q a) : (s.modifySession a f).SessionIs p a := by
  rw [sessionIs_modifySession, if_pos rfl]
  obtain ⟨x, hx, -⟩ := h
  exact ⟨x, hx, hset x⟩

/-- The timer is cleaned, unless a call raised. -/
theorem cleanTimer_inside (cleaned : Bool) (hs : Sound s) (hbusy : s.SessionIs (·.cleanupInProgress) a)
    (hcleaned : cleaned = true → s.SessionIs (·.timerCleaned) a) :
    Wp (cleanTimer a cleaned) (fun failed s' => Inside a s s' ∧ (failed = false → s'.SessionIs (·.timerCleaned) a))
      (fun _ _ => False) s := by
  unfold cleanTimer
  refine wp_ite.mpr ⟨fun h => ⟨Keeps.inside (Keeps.refl s) hbusy, fun _ => hcleaned h⟩, fun _ => ?_⟩
  have hcalls : Follows Keeps (do
      let _ ← call
      let _ ← call
      pure () : Slot Unit) := call_keeps.bind fun _ => call_keeps.bind fun _ => Follows.pure _
  rw [wp_bind, wp_attempt]
  refine (hcalls s).mono (fun _ s' hkeeps => ?_) fun _ s' hkeeps => ⟨hkeeps.inside hbusy, nofun⟩
  have hbusy' : s'.SessionIs (·.cleanupInProgress) a := ((hkeeps hs).2.2 a).busy.mpr hbusy
  refine ⟨(hkeeps.inside hbusy).trans (inside_modifySession _ (fun _ => rfl) (fun _ _ => rfl) (fun _ => id) ?_), fun _ => ?_⟩
  · exact (sessionIs_modifySession_same (fun x => { x with timerCleaned := true }) fun _ => rfl).mpr hbusy'
  · exact sessionIs_modifySession_set _ (fun _ => rfl) hbusy'

section

variable {emit : ClientSignal → Socket → Slot Unit} (hemit : EmitKeeps emit)

include hemit

/-- The socket is cleaned, unless a call raised. -/
theorem cleanSocket_inside (cleaned abortSocket : Bool) (hs : Sound s) (hbusy : s.SessionIs (·.cleanupInProgress) a)
    (hcleaned : cleaned = true → s.SessionIs (·.socketCleaned) a) : Wp (cleanSocket emit a cleaned abortSocket)
      (fun failed s' => Inside a s s' ∧ (failed = false → s'.SessionIs (·.socketCleaned) a)) (fun _ _ => False) s := by
  unfold cleanSocket
  refine wp_ite.mpr ⟨fun h => ⟨Keeps.inside (Keeps.refl s) hbusy, fun _ => hcleaned h⟩, fun _ => ?_⟩
  have hcalls : Follows Keeps (do
      if abortSocket then socketCall emit
      let _ ← call
      pure () : Slot Unit) := by
    cases abortSocket with
    | false => exact call_keeps.bind fun _ => Follows.pure _
    | true => exact (socketCall_keeps hemit).bind fun _ => call_keeps.bind fun _ => Follows.pure _
  rw [wp_bind, wp_attempt]
  refine (hcalls s).mono (fun _ s' hkeeps => ?_) fun _ s' hkeeps => ⟨hkeeps.inside hbusy, nofun⟩
  have hbusy' : s'.SessionIs (·.cleanupInProgress) a := ((hkeeps hs).2.2 a).busy.mpr hbusy
  refine ⟨(hkeeps.inside hbusy).trans (inside_modifySession _ (fun _ => rfl) (fun _ => id) (fun _ _ => rfl) ?_), fun _ => ?_⟩
  · exact (sessionIs_modifySession_same (fun x => { x with socketCleaned := true }) fun _ => rfl).mpr hbusy'
  · exact sessionIs_modifySession_set _ (fun _ => rfl) hbusy'

end

theorem cleanupDone_sessionIs {failed : Bool} : (s.cleanupDone a failed).SessionIs p b
    ↔ (s.modifySession a fun x => { x with cleanupInProgress := false }).SessionIs p b := Iff.rfl

theorem cleanupDone_clients {failed : Bool} : b ∈ (s.cleanupDone a failed).clients
    ↔ b ∈ s.clients ∧ ¬(b = a ∧ s.SessionIs (fun x => x.timerCleaned && x.socketCleaned) a) := by
  have hcleaned : s.SessionIs (fun x => x.timerCleaned && x.socketCleaned) a
      ↔ s.sessions[a]?.any (fun x => x.timerCleaned && x.socketCleaned) = true := by
    unfold SessionIs
    cases s.sessions[a]? <;> simp
  rw [hcleaned]
  show b ∈ (if _ then s.clients.filter (· ≠ a) else s.clients) ↔ _
  split
  next h => simp [h]
  next h => simp [h]

theorem cleanupDone_log {failed : Bool} {r : Record} :
    r ∈ (s.cleanupDone a failed).log ↔ r ∈ s.log ∨ r = if failed then .cleanupRaised a else .cleanedUp a := by
  show r ∈ s.log ++ [_] ↔ _
  rw [List.mem_append, List.mem_singleton]

theorem cleanupDone_answersOf {failed : Bool} : (s.cleanupDone a failed).answersOf b = s.answersOf b := by
  show List.count _ (s.log ++ [if failed then .cleanupRaised a else .cleanedUp a]) = _
  cases failed <;> simp [answersOf]

theorem cleanupDone_activationsOf {failed : Bool} : (s.cleanupDone a failed).activationsOf b = s.activationsOf b := by
  show List.count _ s.pending + List.count _ (s.log ++ [if failed then .cleanupRaised a else .cleanedUp a]) = _
  cases failed <;> simp [activationsOf]

theorem cleanupDone_around {failed : Bool} : Around s (s.cleanupDone a failed) where
  clients := by
    show (if _ then s.clients.filter (· ≠ a) else s.clients).Sublist s.clients
    split
    next => exact List.filter_sublist
    next => exact List.Sublist.refl _
  sessions := List.length_modify _ _ _
  maxActiveClients := rfl
  serverOpen := rfl
  lockHeld := rfl
  records r hr := by
    rcases cleanupDone_log.mp hr with h | rfl
    · exact .inl h
    · exact .inr (by cases failed <;> trivial)

/-- A cleanup that is done: the client is forgotten, or something raised. -/
theorem cleanupDone_keeps {failed : Bool} (hs : Sound s) (hfree : ¬s.SessionIs (·.cleanupInProgress) a)
    (hinside : Inside a (s.modifySession a fun x => { x with cleanupInProgress := true }) s')
    (hstarted : Inside a s (s.modifySession a fun x => { x with cleanupInProgress := true }))
    (hcleaned : failed = false → s'.SessionIs (·.timerCleaned) a ∧ s'.SessionIs (·.socketCleaned) a) :
    Keeps s (s'.cleanupDone a failed) ∧ ¬(s'.cleanupDone a failed).Debt a := by
  obtain ⟨hs', haround, halong, hheld⟩ := hstarted.trans hinside hs
  have hterminal : ∀ b, (s'.cleanupDone a failed).SessionIs (·.terminal) b ↔ s'.SessionIs (·.terminal) b := fun b =>
    sessionIs_modifySession_same (fun x => { x with cleanupInProgress := false }) fun _ => rfl
  have hforgotten : failed = false → a ∉ (s'.cleanupDone a failed).clients := by
    intro hdone htracked
    obtain ⟨⟨x, hx, htimer⟩, ⟨y, hy, hsocket⟩⟩ := hcleaned hdone
    obtain rfl := Option.some.inj (hx.symm.trans hy)
    exact (cleanupDone_clients.mp htracked).2 ⟨rfl, x, hx, by simp [htimer, hsocket]⟩
  have hpaid : ¬(s'.cleanupDone a failed).Debt a := by
    rintro ⟨htracked, -, hraised, -⟩
    cases failed with
    | true => exact hraised (cleanupDone_log.mpr (.inr rfl))
    | false => exact hforgotten rfl htracked
  have hsound : Sound (s'.cleanupDone a failed) := by
    intro b
    refine ⟨?_, ?_, fun hnot => ?_, fun hknown => ?_, fun hgone => ?_⟩
    · rw [cleanupDone_answersOf]
      exact (hs' b).answered
    · rw [cleanupDone_activationsOf]
      exact (hs' b).activated
    · rw [cleanupDone_answersOf, cleanupDone_activationsOf]
      exact (hs' b).silent fun h => hnot ((hterminal b).mpr h)
    · rw [cleanupDone_around.sessions]
      refine (hs' b).known (hknown.imp (fun h => (cleanupDone_clients.mp h).1) fun h => ?_)
      rcases cleanupDone_log.mp h with h | h
      · exact h
      · cases failed <;> cases h
    · rw [cleanupDone_around.sessions]
      rcases cleanupDone_log.mp hgone with h | h
      · exact ⟨((hs' b).gone h).1, fun htracked => ((hs' b).gone h).2 (cleanupDone_clients.mp htracked).1⟩
      · cases failed with
        | true => cases h
        | false =>
          obtain rfl := Record.cleanedUp.inj h
          obtain ⟨x, hx, -⟩ := hheld.busy
          exact ⟨(List.getElem?_eq_some_iff.mp hx).1, hforgotten rfl⟩
  refine ⟨fun _ => ⟨hsound, haround.trans cleanupDone_around, fun b => ?_⟩, hpaid⟩
  by_cases hb : b = a
  · subst hb
    refine ⟨⟨fun h => ?_, ?_, fun h => absurd h hfree⟩, fun h => absurd h hpaid⟩
    · obtain ⟨hterm, hanswers, hactivations⟩ := hheld.frozen h
      exact ⟨(hterminal b).mpr hterm, cleanupDone_answersOf.trans hanswers, cleanupDone_activationsOf.trans hactivations⟩
    · refine iff_of_false (fun h => ?_) hfree
      rw [cleanupDone_sessionIs, sessionIs_modifySession, if_pos rfl] at h
      obtain ⟨x, -, hx⟩ := h
      cases hx
  · have hother : ∀ p, (s'.cleanupDone a failed).SessionIs p b ↔ s'.SessionIs p b := fun p => by
      rw [cleanupDone_sessionIs, sessionIs_modifySession, if_neg (Ne.symm hb)]
    refine (halong b hb).trans (AgreeAt.along ⟨hother _, hother _, hother _, hother _, ?_, cleanupDone_answersOf,
      cleanupDone_activationsOf, ?_, ?_, ?_⟩)
    · rw [cleanupDone_clients]
      simp [hb]
    · rw [cleanupDone_log]
      cases failed <;> simp
    · rw [cleanupDone_log]
      cases failed <;> simp [hb]
    · rw [cleanupDone_log]
      cases failed <;> simp [hb]

/-- A cleanup leaves no debt: the client is forgotten, something raised, or it is in progress already. -/
theorem cleanupClientSession_keeps {emit : ClientSignal → Socket → Slot Unit} (hemit : EmitKeeps emit) (a : Socket)
    (abortSocket : Bool) (hs : Sound s) :
    Wp (cleanupClientSession emit a abortSocket) (fun _ s' => Keeps s s' ∧ ¬s'.Debt a) (fun _ _ => False) s := by
  unfold cleanupClientSession
  rw [wp_bind, wp_get]
  split
  next hnone =>
    refine ⟨Keeps.refl s, fun hdebt => ?_⟩
    exact Nat.not_lt.mpr (List.getElem?_eq_none_iff.mp hnone) ((hs a).known (.inl hdebt.1))
  next session hsession =>
    refine wp_ite.mpr ⟨fun hbusy => ⟨Keeps.refl s, fun hdebt => hdebt.2.2.2 ⟨session, hsession, hbusy⟩⟩, fun hnot => ?_⟩
    have hfree : ¬s.SessionIs (·.cleanupInProgress) a := by
      rintro ⟨x, hx, hbusy⟩
      obtain rfl := Option.some.inj (hsession.symm.trans hx)
      exact hnot hbusy
    have hbusy : (s.modifySession a fun x => { x with cleanupInProgress := true }).SessionIs (·.cleanupInProgress) a := by
      rw [sessionIs_modifySession, if_pos rfl]
      exact ⟨session, hsession, rfl⟩
    have hstarted : Inside a s (s.modifySession a fun x => { x with cleanupInProgress := true }) :=
      inside_modifySession _ (fun _ => rfl) (fun _ => id) (fun _ => id) hbusy
    have hstill : ∀ p : ClientSession → Bool, p { session with cleanupInProgress := true } = true →
        (s.modifySession a fun x => { x with cleanupInProgress := true }).SessionIs p a := by
      intro p hp
      rw [sessionIs_modifySession, if_pos rfl]
      exact ⟨session, hsession, hp⟩
    have hs₁ := (hstarted hs).1
    rw [wp_bind, wp_modify]
    generalize hs₁eq : (s.modifySession a fun x => { x with cleanupInProgress := true }) = s₁ at *
    rw [wp_bind]
    refine (cleanTimer_inside session.timerCleaned hs₁ hbusy (hstill (·.timerCleaned))).mono (fun timerFailed s₂ h₂ => ?_)
      fun _ _ => False.elim
    obtain ⟨hinside₂, htimerCleaned⟩ := h₂
    obtain ⟨hs₂, -, -, hheld₂⟩ := hinside₂ hs₁
    rw [wp_bind]
    refine (cleanSocket_inside hemit session.socketCleaned abortSocket hs₂ hheld₂.busy
      fun h => hheld₂.socketCleaned (hstill (·.socketCleaned) h)).mono (fun socketFailed s₃ h₃ => ?_) fun _ _ => False.elim
    obtain ⟨hinside₃, hsocketCleaned⟩ := h₃
    have hheld₃ := (hinside₃ hs₂).2.2.2
    subst hs₁eq
    refine cleanupDone_keeps hs hfree (hinside₂.trans hinside₃) hstarted fun hfailed => ?_
    rw [Bool.or_eq_false_iff] at hfailed
    exact ⟨hheld₃.timerCleaned (htimerCleaned hfailed.1), hsocketCleaned hfailed.2⟩

/-! ## The slots of a client -/

/-- A session comes to its end; the rest of the slot pays the debt. -/
def Ends (a : Socket) (s s' : Manager) : Prop :=
  Sound s → Sound s' ∧ Around s s' ∧ (∀ b ≠ a, AlongAt s s' b) ∧ LeavesAt s s' a

theorem Ends.keeps (h : Ends a s s') (hkeeps : Keeps s' s'') (hpaid : ¬s''.Debt a) : Keeps s s'' := by
  intro hs
  obtain ⟨hs', haround, hothers, hself⟩ := h hs
  obtain ⟨hs'', haround', halong⟩ := hkeeps hs'
  refine ⟨hs'', haround.trans haround', fun b => ?_⟩
  by_cases hb : b = a
  · subst hb
    exact ⟨hself.trans (halong b).toLeavesAt, fun hdebt => absurd hdebt hpaid⟩
  · exact (hothers b hb).trans (halong b)

theorem Keeps.ends (h : Keeps s s') (hends : Ends a s' s'') : Ends a s s'' := by
  intro hs
  obtain ⟨hs', haround, halong⟩ := h hs
  obtain ⟨hs'', haround', hothers, hself⟩ := hends hs'
  exact ⟨hs'', haround.trans haround', fun b hb => (halong b).trans (hothers b hb), (halong a).toLeavesAt.trans hself⟩

theorem ends_record (ha : a < s.sessions.length) : Ends a s (s.record (.ended a)) := by
  intro hs
  have hagree : ∀ b ≠ a, AgreeAt s (s.record (.ended a)) b := fun b hb => by
    constructor <;> simp [answersOf, activationsOf, Manager.record, hb, SessionIs]
  refine ⟨fun b => ?_, ⟨List.Sublist.refl _, rfl, rfl, rfl, rfl, fun r hr => ?_⟩, fun b hb => (hagree b hb).along, ?_⟩
  · by_cases hb : b = a
    · subst hb
      have hself := hs b
      refine ⟨?_, ?_, fun hnot => ?_, fun _ => ha, fun hgone => hself.gone (by simpa [Manager.record] using hgone)⟩
      · simpa [answersOf, Manager.record] using hself.answered
      · simpa [activationsOf, Manager.record] using hself.activated
      · simpa [answersOf, activationsOf, Manager.record] using hself.silent hnot
    · exact (hagree b hb).sound rfl (hs b)
  · rcases List.mem_append.mp hr with hold | hnew
    · exact .inl hold
    · rw [List.mem_singleton] at hnew
      exact .inr (hnew ▸ trivial)
  · refine ⟨fun h => ⟨h, ?_, ?_⟩, Iff.rfl, fun _ => ⟨Iff.rfl, id, id⟩⟩
    · simp [answersOf, Manager.record]
    · simp [activationsOf, Manager.record]

/-- A session that was not terminal is answered once it is. -/
theorem Ends.answer (h : Ends a s s') (hnot : ¬s.SessionIs (·.terminal) a) (hterminal : s'.SessionIs (·.terminal) a)
    (hanswers : s'.answersOf a = 0) : Ends a s (s'.record (.answered a)) := by
  intro hs
  obtain ⟨hs', haround, hothers, hself⟩ := h hs
  have hagree : ∀ b ≠ a, AgreeAt s' (s'.record (.answered a)) b := fun b hb => by
    constructor <;> simp [answersOf, activationsOf, Manager.record, Ne.symm hb, SessionIs]
  refine ⟨fun b => ?_, ⟨haround.clients, haround.sessions, haround.maxActiveClients, haround.serverOpen, haround.lockHeld,
    fun r hr => ?_⟩, fun b hb => (hothers b hb).trans (hagree b hb).along, ?_⟩
  · by_cases hb : b = a
    · subst hb
      refine ⟨?_, ?_, fun hsilent => absurd hterminal hsilent, fun hknown => (hs' b).known ?_,
        fun hgone => (hs' b).gone (by simpa [Manager.record] using hgone)⟩
      · rw [answersOf] at hanswers ⊢
        simp [Manager.record, hanswers]
      · simpa [activationsOf, Manager.record] using (hs' b).activated
      · simpa [Manager.record] using hknown
    · exact (hagree b hb).sound rfl (hs' b)
  · rcases List.mem_append.mp hr with hold | hnew
    · exact haround.records r hold
    · rw [List.mem_singleton] at hnew
      exact .inr (hnew ▸ trivial)
  · exact ⟨fun hterm => absurd hterm hnot, hself.busy, hself.kept⟩

/-- Of an unsound manager nothing is asked. -/
theorem follows_of_sound {c : Slot α} (h : ∀ s, Sound s → Wp c (fun _ => Keeps s) (fun _ => Keeps s) s) :
    Follows Keeps c := by
  intro s
  by_cases hs : Sound s
  · exact h s hs
  · exact wp_trivial c (fun _ _ hs' => absurd hs' hs) fun _ _ hs' => absurd hs' hs

theorem keeps_code (code : String) : Keeps s { s with cleanupSafeCode := code } := Keeps.of_same rfl rfl rfl rfl rfl rfl rfl

theorem keeps_ipcCode (code : String) : Keeps s { s with lastIpcSafeCode := code } :=
  Keeps.of_same rfl rfl rfl rfl rfl rfl rfl

theorem clientOf_some {session : ClientSession} (h : s.clientOf a = some session) :
    a ∈ s.clients ∧ s.sessions[a]? = some session := by
  unfold clientOf at h
  split at h
  next htracked => exact ⟨htracked, h⟩
  next => cases h

theorem clientOf_none (hs : Sound s) (h : s.clientOf a = none) : a ∉ s.clients := by
  intro htracked
  unfold clientOf at h
  rw [if_pos htracked] at h
  exact Nat.not_lt.mpr (List.getElem?_eq_none_iff.mp h) ((hs a).known (.inl htracked))

section

variable {emit : ClientSignal → Socket → Slot Unit} (hemit : EmitKeeps emit)

include hemit

theorem respondOrAbort_keeps (response : Option Response) (abortSocket : Bool) :
    Wp (respondOrAbort emit a response abortSocket)
      (fun _ s' => Keeps (if response.isSome then s.record (.answered a) else s) s') (fun _ _ => False) s := by
  unfold respondOrAbort
  cases response with
  | none => exact (Keeps.refl s : Keeps s s)
  | some response =>
    dsimp only
    rw [wp_bind, wp_modify, wp_bind, wp_attempt]
    refine (respond_keeps hemit _).mono (fun _ s' hkeeps => hkeeps) fun _ s' hkeeps => ?_
    dsimp only
    rw [wp_bind, wp_modify]
    exact hkeeps.trans (keeps_code _)

/-- A session is finished for good; one that was not terminal has not activated anything. -/
theorem finishClient_keeps (response : Option Response) (abortSocket : Bool) (hs : Sound s)
    (hresponse : response.isSome → ¬s.SessionIs (·.terminal) a) :
    Wp (finishClient emit a response abortSocket) (fun _ s' => Keeps s s' ∧ (¬s.SessionIs (·.terminal) a →
      s'.activationsOf a = 0 ∧ (a ∈ s.clients → s'.SessionIs (·.terminal) a))) (fun _ _ => False) s := by
  unfold finishClient
  rw [wp_bind, wp_get]
  split
  next hnone =>
    exact ⟨Keeps.refl s, fun hnot => ⟨((hs a).silent hnot).2, fun h => absurd h (clientOf_none hs hnone)⟩⟩
  next session hsession =>
    obtain ⟨htracked, hget⟩ := clientOf_some hsession
    have hterminal : (s.modifySession a fun x => { x with terminal := true }).SessionIs (·.terminal) a := by
      rw [sessionIs_modifySession, if_pos rfl]
      exact ⟨session, hget, rfl⟩
    have hset : Keeps s (s.modifySession a fun x => { x with terminal := true }) :=
      Keeps.modifySession (fun x => { x with terminal := true }) (fun _ _ => rfl) (fun _ => rfl) (fun _ => rfl) (fun _ => rfl) a
    have hends : Ends a s ((s.modifySession a fun x => { x with terminal := true }).record (.ended a)) := by
      refine hset.ends (ends_record ?_)
      exact (List.length_modify _ s.sessions a).symm ▸ (hs a).known (.inl htracked)
    rw [wp_bind, wp_modify]
    generalize hs₁ : (s.modifySession a fun x => { x with terminal := true }).record (.ended a) = s₁ at hends ⊢
    have hterm₁ : s₁.SessionIs (·.terminal) a := hs₁ ▸ hterminal
    have hcounts : ¬s.SessionIs (·.terminal) a → s₁.answersOf a = 0 ∧ s₁.activationsOf a = 0 := by
      intro hnot
      subst hs₁
      simpa [answersOf, activationsOf, Manager.record, Manager.modifySession] using (hs a).silent hnot
    have hends₂ : Ends a s (if response.isSome then s₁.record (.answered a) else s₁) := by
      split
      next hsome => exact hends.answer (hresponse hsome) hterm₁ (hcounts (hresponse hsome)).1
      next => exact hends
    have hactivations₂ : (if response.isSome then s₁.record (.answered a) else s₁).activationsOf a = s₁.activationsOf a := by
      split
      next => simp [activationsOf, Manager.record]
      next => rfl
    have hterm₂ : (if response.isSome then s₁.record (.answered a) else s₁).SessionIs (·.terminal) a := by
      split
      next => exact hterm₁
      next => exact hterm₁
    rw [wp_bind]
    refine (respondOrAbort_keeps hemit response abortSocket).mono (fun abort s₃ hkeeps₃ => ?_) fun _ _ => False.elim
    generalize (if response.isSome then s₁.record (.answered a) else s₁) = s₂ at *
    have hs₂ := (hends₂ hs).1
    rw [wp_bind]
    refine (cleanupClientSession_keeps hemit a abort (hkeeps₃ hs₂).1).mono (fun _ s₄ h₄ => ?_) fun _ _ => False.elim
    have hkeeps₄ : Keeps s₂ s₄ := hkeeps₃.trans h₄.1
    refine ⟨hends₂.keeps hkeeps₄ h₄.2, fun hnot => ?_⟩
    obtain ⟨hterm₄, -, hactivations₄⟩ := ((hkeeps₄ hs₂).2.2 a).frozen hterm₂
    exact ⟨hactivations₄.trans (hactivations₂.trans (hcounts hnot).2), fun _ => hterm₄⟩

theorem dropClient_keeps (a : Socket) : Follows Keeps (dropClient emit a) := by
  refine follows_of_sound fun s hs => ?_
  unfold dropClient
  rw [wp_bind, wp_get]
  split
  next => exact Keeps.refl s
  next session hsession =>
    have hends := ends_record ((hs a).known (.inl (clientOf_some hsession).1))
    have hnoted : Keeps (s.record (.ended a)) ((s.record (.ended a)).noteTruncated session) := keeps_ipcCode _
    rw [wp_bind, wp_modify, wp_bind]
    refine (cleanupClientSession_keeps hemit a false (hnoted (hends hs).1).1).mono (fun _ s' h => ?_) fun _ _ => False.elim
    exact hends.keeps (hnoted.trans h.1) h.2

omit hemit in
/-- A session that has just become terminal activates once. -/
theorem Keeps.activate (h : Keeps s s') (hnot : ¬s.SessionIs (·.terminal) a) (hterminal : s'.SessionIs (·.terminal) a)
    (hzero : s'.activationsOf a = 0) : Keeps s { s' with pending := s'.pending ++ [.activationRequested a] } := by
  intro hs
  obtain ⟨hs', haround, halong⟩ := h hs
  have hagree : ∀ b ≠ a, AgreeAt s' { s' with pending := s'.pending ++ [.activationRequested a] } b := fun b hb => by
    constructor <;> simp [answersOf, activationsOf, SessionIs, Ne.symm hb]
  refine ⟨fun b => ?_, ⟨haround.clients, haround.sessions, haround.maxActiveClients, haround.serverOpen, haround.lockHeld,
    haround.records⟩, fun b => ?_⟩
  · by_cases hb : b = a
    · subst hb
      refine ⟨(hs' b).answered, ?_, fun hsilent => absurd hterminal hsilent, (hs' b).known, (hs' b).gone⟩
      rw [activationsOf] at hzero ⊢
      simp only [List.count_append, List.count_singleton_self]
      omega
    · exact (hagree b hb).sound rfl (hs' b)
  · by_cases hb : b = a
    · subst hb
      exact ⟨⟨fun h => absurd h hnot, (halong b).busy, (halong b).kept⟩, (halong b).debt⟩
    · exact (halong b).trans (hagree b hb).along

theorem answerActivation_keeps (closing : Bool) (hs : Sound s) (htracked : a ∈ s.clients)
    (hnot : ¬s.SessionIs (·.terminal) a) :
    Wp (answerActivation emit a closing) (fun _ => Keeps s) (fun _ => Keeps s) s := by
  unfold answerActivation
  refine wp_ite.mpr ⟨fun _ => ?_, fun _ => ?_⟩
  · rw [wp_bind, wp_modify]
    have hcode := @keeps_ipcCode s "single_instance_owner_busy"
    refine (finishClient_keeps hemit (some .busy) false (hcode hs).1 fun _ => hnot).mono (fun _ s' h => ?_)
      fun _ _ => False.elim
    exact hcode.trans h.1
  · rw [wp_bind, wp_modify]
    have hcode := @keeps_ipcCode s "none"
    rw [wp_bind]
    refine (finishClient_keeps hemit (some .ack) false (hcode hs).1 fun _ => hnot).mono (fun _ s' h => ?_)
      fun _ _ => False.elim
    obtain ⟨hkeeps, hquiet⟩ := h
    obtain ⟨hzero, hterminal⟩ := hquiet hnot
    rw [wp_bind]
    have hasked : ∀ rest, Keeps s { s' with answers := rest } := fun rest =>
      (hcode.trans hkeeps).trans (Keeps.of_same rfl rfl rfl rfl rfl rfl rfl)
    refine wp_call (fun rest answer => ?_) hasked
    exact (hasked rest).activate hnot (hterminal htracked) hzero

theorem answerMessage_keeps (status : ActivationMessageStatus) (hs : Sound s) (htracked : a ∈ s.clients)
    (hnot : ¬s.SessionIs (·.terminal) a) :
    Wp (answerMessage emit a status) (fun _ => Keeps s) (fun _ => Keeps s) s := by
  cases status with
  | incomplete => exact Keeps.refl s
  | reject =>
    unfold answerMessage
    rw [wp_bind, wp_modify]
    have hcode := @keeps_ipcCode s "single_instance_activation_rejected"
    refine (finishClient_keeps hemit (some .reject) false (hcode hs).1 fun _ => hnot).mono (fun _ s' h => ?_)
      fun _ _ => False.elim
    exact hcode.trans h.1
  | activate =>
    unfold answerMessage
    rw [wp_bind, wp_attempt]
    have hasked : ∀ rest, Keeps s { s with answers := rest } := fun rest => Keeps.of_same rfl rfl rfl rfl rfl rfl rfl
    refine wp_call (fun rest answer => ?_) fun rest => ?_
    · exact (answerActivation_keeps hemit _ (hasked rest hs).1 htracked hnot).mono
        (fun _ _ h => (hasked rest).trans h) fun _ _ h => (hasked rest).trans h
    · exact (answerActivation_keeps hemit _ (hasked rest hs).1 htracked hnot).mono
        (fun _ _ h => (hasked rest).trans h) fun _ _ h => (hasked rest).trans h

theorem readClient_keeps (a : Socket) : Follows Keeps (readClient emit a) := by
  refine follows_of_sound fun s hs => ?_
  unfold readClient
  rw [wp_bind, wp_get]
  split
  next => exact Keeps.refl s
  next session hsession =>
    obtain ⟨htracked, hget⟩ := clientOf_some hsession
    refine wp_ite.mpr ⟨fun _ => Keeps.refl s, fun hopen => ?_⟩
    have hnot : ¬s.SessionIs (·.terminal) a := by
      rintro ⟨x, hx, hterminal⟩
      obtain rfl := Option.some.inj (hget.symm.trans hx)
      exact hopen hterminal
    have hasked : ∀ rest, Keeps s { s with answers := rest } := fun rest => Keeps.of_same rfl rfl rfl rfl rfl rfl rfl
    rw [wp_bind]
    refine wp_call (fun rest answer => ?_) hasked
    rw [wp_bind, wp_modify]
    have hread : Keeps s (({ s with answers := rest } : Manager).modifySession a
        fun x => { x with buffer := session.buffer ++ answer.data }) :=
      (hasked rest).trans (Keeps.modifySession (fun x => { x with buffer := session.buffer ++ answer.data })
        (fun _ => id) (fun _ => rfl) (fun _ => rfl) (fun _ => rfl) a)
    have hstill : ¬(({ s with answers := rest } : Manager).modifySession a
        fun x => { x with buffer := session.buffer ++ answer.data }).SessionIs (·.terminal) a := fun h =>
      hnot ((sessionIs_modifySession_same (fun x => { x with buffer := session.buffer ++ answer.data })
        fun _ => rfl).mp h)
    exact (answerMessage_keeps hemit _ (hread hs).1 htracked hstill).mono (fun _ _ h => hread.trans h)
      fun _ _ h => hread.trans h

end

/-- However deep its signals nest, a slot of a client keeps the sessions. -/
theorem handle_keeps (depth : Nat) : EmitKeeps (handle depth) := by
  induction depth with
  | zero => exact fun _ _ => Follows.pure _
  | succ depth ih =>
    intro signal a
    cases signal with
    | readyRead => exact readClient_keeps ih a
    | disconnected => exact dropClient_keeps ih a

theorem expireClient_keeps (a : Socket) : Follows Keeps (expireClient a) := by
  unfold expireClient
  refine Follows.get fun s => ?_
  split
  next => exact Follows.pure _
  next =>
    split
    next => exact Follows.pure _
    next =>
      have hexpired : Follows Keeps (modify fun s : Manager => s.modifySession a fun x => { x with terminal := true } :
          Slot PUnit) := Follows.modify fun s =>
        Keeps.modifySession (fun x => { x with terminal := true }) (fun _ _ => rfl) (fun _ => rfl) (fun _ => rfl)
          (fun _ => rfl) a
      refine hexpired.bind fun _ => call_keeps.bind fun _ => ?_
      refine (Follows.modify fun s => keeps_ipcCode _).bind fun _ => call_keeps.bind fun _ => ?_
      exact Follows.modify fun s => Keeps.finishLater a

/-! ## Between two slots -/

/-- A manager none of whose slots is running. -/
structure Quiet (s : Manager) : Prop where
  sound : Sound s
  idle : ∀ a, ¬s.SessionIs (·.cleanupInProgress) a
  paid : ∀ a, ¬s.Debt a
  limit : s.clients.length ≤ s.maxActiveClients
  owner : s.lockHeld = false → s.serverOpen = false ∧ s.clients = []
  tracked : ∀ clients, .tracked clients ∈ s.log → clients ≤ s.maxActiveClients
  unlocking : ∀ serverOpen clients, .unlocking serverOpen clients ∈ s.log → serverOpen = false ∧ clients = 0

theorem Quiet.keeps (h : Quiet s) (hkeeps : Keeps s s') : Quiet s' := by
  obtain ⟨hs', haround, halong⟩ := hkeeps h.sound
  refine ⟨hs', fun a => ?_, fun a => ?_, ?_, fun hfree => ?_, fun clients hr => ?_, fun serverOpen clients hr => ?_⟩
  · rw [(halong a).busy]
    exact h.idle a
  · exact fun hdebt => h.paid a ((halong a).debt hdebt)
  · rw [haround.maxActiveClients]
    exact Nat.le_trans haround.clients.length_le h.limit
  · rw [haround.lockHeld] at hfree
    obtain ⟨hserver, hclients⟩ := h.owner hfree
    refine ⟨haround.serverOpen.trans hserver, ?_⟩
    have hsub := haround.clients
    rw [hclients] at hsub
    exact List.sublist_nil.mp hsub
  · rw [haround.maxActiveClients]
    exact h.tracked clients ((haround.records _ hr).resolve_right id)
  · exact h.unlocking serverOpen clients ((haround.records _ hr).resolve_right id)

/-- A change of the server, the lock or their history. -/
theorem Quiet.of_agree (h : Quiet s) (hagree : ∀ a, AgreeAt s s' a) (hsessions : s'.sessions.length = s.sessions.length)
    (hclients : s'.clients = s.clients) (hmax : s'.maxActiveClients = s.maxActiveClients)
    (howner : s'.lockHeld = false → s'.serverOpen = false ∧ s'.clients = [])
    (hrecords : ∀ r ∈ s'.log, r ∈ s.log ∨ r = .unlocking false 0) : Quiet s' where
  sound a := (hagree a).sound hsessions (h.sound a)
  idle a hbusy := h.idle a ((hagree a).busy.mp hbusy)
  paid a hdebt := h.paid a ((hagree a).debt.mp hdebt)
  limit := by
    rw [hclients, hmax]
    exact h.limit
  owner := howner
  tracked clients hr := by
    rw [hmax]
    exact h.tracked clients ((hrecords _ hr).resolve_right nofun)
  unlocking serverOpen clients hr := by
    rcases hrecords _ hr with hold | hnew
    · exact h.unlocking serverOpen clients hold
    · cases hnew
      exact ⟨rfl, rfl⟩

theorem sessionIs_track (hp : p {} = false) : s.track.SessionIs p b ↔ s.SessionIs p b := by
  unfold SessionIs Manager.track
  simp only [List.getElem?_append]
  split
  next => exact Iff.rfl
  next hout =>
    have hnone : s.sessions[b]? = none := List.getElem?_eq_none_iff.mpr (Nat.not_lt.mp hout)
    rw [hnone]
    constructor
    · rintro ⟨x, hx, hpx⟩
      have hfresh : x ∈ [({} : ClientSession)] := List.mem_of_getElem? hx
      rw [List.mem_singleton.mp hfresh, hp] at hpx
      cases hpx
    · rintro ⟨x, hx, -⟩
      cases hx

/-- A new session under the limit. -/
theorem Quiet.track (h : Quiet s) (hserver : s.serverOpen = true) (hlimit : s.clients.length < s.maxActiveClients) :
    Quiet s.track := by
  have hlength : s.track.sessions.length = s.sessions.length + 1 := List.length_append
  have hclients : ∀ a, a ∈ s.track.clients ↔ a ∈ s.clients ∨ a = s.sessions.length := fun a => by
    simp [Manager.track]
  have hlog : ∀ r, r ∈ s.track.log ↔ r ∈ s.log ∨ r = .tracked (s.clients.length + 1) := fun r => by
    simp [Manager.track]
  have hcounts : ∀ a, s.track.answersOf a = s.answersOf a ∧ s.track.activationsOf a = s.activationsOf a := fun a => by
    simp [Manager.track, answersOf, activationsOf]
  refine ⟨fun a => ?_, fun a hbusy => h.idle a ((sessionIs_track rfl).mp hbusy), fun a hdebt => ?_, ?_, fun hfree => ?_,
    fun clients hr => ?_, fun serverOpen clients hr => ?_⟩
  · have hsound := h.sound a
    refine ⟨(hcounts a).1 ▸ hsound.answered, (hcounts a).2 ▸ hsound.activated, fun hnot => ?_, fun hknown => ?_,
      fun hgone => ?_⟩
    · rw [(hcounts a).1, (hcounts a).2]
      exact hsound.silent fun hterminal => hnot ((sessionIs_track rfl).mpr hterminal)
    · rw [hlength]
      rw [hclients, hlog] at hknown
      rcases hknown with (htracked | rfl) | (hended | hnew)
      · exact Nat.lt_succ_of_lt (hsound.known (.inl htracked))
      · exact Nat.lt_succ_self _
      · exact Nat.lt_succ_of_lt (hsound.known (.inr hended))
      · cases hnew
    · rw [hlog] at hgone
      obtain ⟨hlt, hnot⟩ := hsound.gone (hgone.resolve_right nofun)
      rw [hlength, hclients]
      exact ⟨Nat.lt_succ_of_lt hlt, fun htracked => htracked.elim hnot (Nat.ne_of_lt hlt)⟩
  · obtain ⟨htracked, hended, hraised, hfree⟩ := hdebt
    rw [hclients] at htracked
    rw [hlog] at hended hraised
    have hold : .ended a ∈ s.log := hended.resolve_right nofun
    have hlt := (h.sound a).known (.inr hold)
    exact h.paid a ⟨htracked.resolve_right (Nat.ne_of_lt hlt), hold, fun hr => hraised (.inl hr),
      fun hbusy => hfree ((sessionIs_track rfl).mpr hbusy)⟩
  · show (s.clients ++ [_]).length ≤ s.maxActiveClients
    rw [List.length_append]
    exact hlimit
  · have hopen := (h.owner hfree).1
    rw [hserver] at hopen
    cases hopen
  · rcases (hlog _).mp hr with hold | hnew
    · exact h.tracked clients hold
    · cases hnew
      exact hlimit
  · exact h.unlocking serverOpen clients (((hlog _).mp hr).resolve_right nofun)

/-- A manager between two slots, with its server open. -/
def Serving (s : Manager) : Prop := Quiet s ∧ s.serverOpen = true

theorem Serving.keeps (h : Serving s) (hkeeps : Keeps s s') : Serving s' :=
  ⟨h.1.keeps hkeeps, (hkeeps h.1.sound).2.1.serverOpen.trans h.2⟩

/-- A program that a serving manager goes on serving through. -/
def Serves (c : Slot α) : Prop := ∀ s, Serving s → Wp c (fun _ => Serving) (fun _ => Serving) s

theorem serves_of_keeps {c : Slot α} (h : Follows Keeps c) : Serves c := fun s hs =>
  (h s).mono (fun _ _ => hs.keeps) fun _ _ => hs.keeps

theorem Serves.bind {α β : Type} {c : Slot α} {f : α → Slot β} (h : Serves c) (hf : ∀ x, Serves (f x)) :
    Serves (c >>= f) := fun s hs =>
  wp_bind.mpr ((h s hs).imp (fun x s' => hf x s'))

theorem noteCleanup_keeps (result : Except QtError α) : Follows Keeps (noteCleanup result) := by
  cases result with
  | ok => exact Follows.pure _
  | error => exact Follows.modify fun s => keeps_code _

section

variable {emit : ClientSignal → Socket → Slot Unit} (hemit : EmitKeeps emit)

include hemit

theorem rejectUntrackedClient_keeps : Follows Keeps (rejectUntrackedClient emit) := by
  refine (attempt_keeps (respond_keeps hemit)).bind fun responded => Follows.bind ?_ fun _ =>
    (attempt_keeps call_keeps).bind fun _ => noteCleanup_keeps _
  cases responded with
  | ok => exact Follows.pure _
  | error => exact (attempt_keeps (socketCall_keeps hemit)).bind fun _ => noteCleanup_keeps _

theorem acceptClient_serves : Serves (acceptClient emit) := by
  intro s hs
  unfold acceptClient
  rw [wp_bind, wp_get]
  refine wp_ite.mpr ⟨fun _ => ?_, fun hroom => ?_⟩
  · have hrejected : Follows Keeps (do
        modify fun s : Manager => { s with lastIpcSafeCode := "single_instance_client_limit_reached" }
        rejectUntrackedClient emit : Slot Unit) :=
      (Follows.modify fun s => keeps_ipcCode _).bind fun _ => rejectUntrackedClient_keeps hemit
    exact serves_of_keeps hrejected s hs
  · have hasked : ∀ rest, Serving { s with answers := rest } := fun rest =>
      hs.keeps (Keeps.of_same rfl rfl rfl rfl rfl rfl rfl)
    rw [wp_bind]
    refine wp_call (fun _ _ => ?_) hasked
    rw [wp_bind]
    refine wp_call (fun _ _ => ?_) hasked
    rw [wp_bind]
    refine wp_call (fun rest _ => ?_) hasked
    unfold trackClient
    rw [wp_bind, wp_get, wp_bind, wp_set]
    have htracked : Serving ({ s with answers := rest } : Manager).track :=
      ⟨(hasked rest).1.track hs.2 (Nat.not_le.mp hroom), hs.2⟩
    refine serves_of_keeps ?_ _ htracked
    refine call_keeps.bind fun _ => call_keeps.bind fun _ => call_keeps.bind fun _ => call_keeps.bind fun _ =>
      call_keeps.bind fun available => ?_
    split
    next => exact readClient_keeps hemit _
    next => exact Follows.pure _

theorem acceptPending_serves (arrivals : Nat) : Serves (acceptPending emit arrivals) := by
  induction arrivals with
  | zero => exact serves_of_keeps (call_keeps.bind fun _ => Follows.pure _)
  | succ arrivals ih =>
    unfold acceptPending
    refine (serves_of_keeps call_keeps).bind fun _ => (serves_of_keeps call_keeps).bind fun _ => ?_
    exact (acceptClient_serves hemit).bind fun _ => ih

theorem acceptConnections_quiet (arrivals : Nat) (h : Quiet s) :
    Wp (acceptConnections emit arrivals) (fun _ => Quiet) (fun _ => Quiet) s := by
  unfold acceptConnections
  rw [wp_bind, wp_get]
  refine wp_ite.mpr ⟨fun _ => h, fun hopen => ?_⟩
  have hserver : s.serverOpen = true := by
    cases hs : s.serverOpen with
    | true => rfl
    | false => exact absurd (by simp [hs]) hopen
  exact (acceptPending_serves hemit arrivals s ⟨h, hserver⟩).mono (fun _ _ h => h.1) fun _ _ h => h.1

end

/-! ## Closing -/

theorem Quiet.closeServer (h : Quiet s) : Quiet { s with serverOpen := false } :=
  h.of_agree (fun _ => ⟨Iff.rfl, Iff.rfl, Iff.rfl, Iff.rfl, Iff.rfl, rfl, rfl, Iff.rfl, Iff.rfl, Iff.rfl⟩) rfl rfl rfl
    (fun hfree => ⟨rfl, (h.owner hfree).2⟩) fun _ => .inl

theorem closeServer_quiet (h : Quiet s) : Wp SingleInstance.closeServer (fun _ => Quiet) (fun _ _ => False) s := by
  unfold SingleInstance.closeServer
  rw [wp_bind, wp_get]
  refine wp_ite.mpr ⟨fun _ => ?_, fun _ => h⟩
  have hasked : ∀ rest, Quiet { s with answers := rest } := fun rest =>
    h.keeps (Keeps.of_same rfl rfl rfl rfl rfl rfl rfl)
  rw [wp_bind, wp_attempt]
  exact wp_call (fun rest _ => (hasked rest).closeServer) hasked

theorem cleanupClients_keeps {emit : ClientSignal → Socket → Slot Unit} (hemit : EmitKeeps emit) (sockets : List Socket)
    (failed : Bool) (hs : Sound s) (hknown : ∀ a ∈ sockets, a < s.sessions.length) :
    Wp (cleanupClients emit sockets failed) (fun _ => Keeps s) (fun _ _ => False) s := by
  induction sockets generalizing s failed with
  | nil => exact Keeps.refl s
  | cons a rest ih =>
    unfold cleanupClients
    have hends := ends_record (hknown a (List.mem_cons_self))
    rw [wp_bind, wp_modify, wp_bind]
    refine (cleanupClientSession_keeps hemit a true (hends hs).1).mono (fun cleaned s' h => ?_) fun _ _ => False.elim
    have hkeeps := hends.keeps h.1 h.2
    obtain ⟨hs', haround, -⟩ := hkeeps hs
    refine (ih (failed || !cleaned) hs' fun b hb => ?_).mono (fun _ _ h => hkeeps.trans h) fun _ _ => False.elim
    rw [haround.sessions]
    exact hknown b (List.mem_cons_of_mem a hb)

/-- The lock is released where nothing is open and no client is left. -/
theorem releaseLock_quiet (h : Quiet s) : Wp releaseLock (fun _ => Quiet) (fun _ _ => False) s := by
  unfold releaseLock
  rw [wp_bind, wp_get]
  refine wp_ite.mpr ⟨fun hfree => ?_, fun _ => h⟩
  simp only [Bool.and_eq_true, Bool.not_eq_true', List.isEmpty_iff] at hfree
  obtain ⟨⟨hserver, hclients⟩, hheld⟩ := hfree
  have hrecord : Quiet (s.record (.unlocking s.serverOpen s.clients.length)) := by
    refine h.of_agree (fun a => ?_) rfl rfl rfl (fun hfree => h.owner hfree) fun r hr => ?_
    · constructor <;> simp [SessionIs, answersOf, activationsOf, Manager.record]
    · rcases List.mem_append.mp hr with hold | hnew
      · exact .inl hold
      · rw [List.mem_singleton, hserver, hclients] at hnew
        exact .inr hnew
  rw [wp_bind, wp_modify, wp_bind, wp_attempt]
  have hasked : ∀ rest, Quiet { s.record (.unlocking s.serverOpen s.clients.length) with answers := rest } := fun rest =>
    hrecord.keeps (Keeps.of_same rfl rfl rfl rfl rfl rfl rfl)
  refine wp_call (fun rest _ => ?_) hasked
  dsimp only
  rw [wp_bind, wp_modify]
  refine (hasked rest).of_agree (fun a => ?_) rfl rfl rfl (fun _ => ⟨hserver, hclients⟩) fun _ => .inl
  exact ⟨Iff.rfl, Iff.rfl, Iff.rfl, Iff.rfl, Iff.rfl, rfl, rfl, Iff.rfl, Iff.rfl, Iff.rfl⟩

theorem close_quiet {emit : ClientSignal → Socket → Slot Unit} (hemit : EmitKeeps emit) (h : Quiet s) :
    Wp (close emit) (fun _ => Quiet) (fun _ => Quiet) s := by
  unfold close
  rw [wp_bind, wp_get]
  refine wp_ite.mpr ⟨fun _ => h, fun _ => ?_⟩
  rw [wp_bind, wp_modify, wp_bind]
  have hclosing : Quiet { s with closing := true } := h.keeps (Keeps.of_same rfl rfl rfl rfl rfl rfl rfl)
  refine (closeServer_quiet hclosing).mono (fun serverFailed s₁ h₁ => ?_) fun _ _ => False.elim
  rw [wp_bind, wp_get, wp_bind]
  refine (cleanupClients_keeps hemit s₁.clients serverFailed h₁.sound fun a ha => (h₁.sound a).known (.inl ha)).mono
    (fun clientsFailed s₂ h₂ => ?_) fun _ _ => False.elim
  rw [wp_bind]
  refine (releaseLock_quiet (h₁.keeps h₂)).mono (fun lockFailed s₃ h₃ => ?_) fun _ _ => False.elim
  exact h₃.keeps (Keeps.of_same rfl rfl rfl rfl rfl rfl rfl)

/-! ## Runs -/

theorem count_eraseIdx {l : List Callback} {i : Nat} {x : Callback} (h : l[i]? = some x) (y : Callback) :
    l.count y = (l.eraseIdx i).count y + if x = y then 1 else 0 := by
  obtain ⟨hlt, rfl⟩ := List.getElem?_eq_some_iff.mp h
  rw [← (List.getElem_cons_eraseIdx_perm hlt).count_eq y, List.count_cons]
  simp

/-- What the event loop was asked to call is called once. -/
theorem runPending_keeps {emit : ClientSignal → Socket → Slot Unit} (hemit : EmitKeeps emit) (index : Nat) :
    Follows Keeps (runPending emit index) := by
  refine follows_of_sound fun s hs => ?_
  unfold runPending
  rw [wp_bind, wp_get]
  split
  next => exact Keeps.refl s
  next callback hcallback =>
    rw [wp_bind, wp_modify]
    cases callback with
    | finishClient a =>
      have hagree : ∀ b, AgreeAt s { s with pending := s.pending.eraseIdx index } b := fun b => by
        constructor <;>
          simp [SessionIs, answersOf, activationsOf, count_eraseIdx hcallback]
      have htaken : Keeps s { s with pending := s.pending.eraseIdx index } := fun hs =>
        ⟨fun b => (hagree b).sound rfl (hs b), ⟨List.Sublist.refl _, rfl, rfl, rfl, rfl, fun _ => .inl⟩,
          fun b => (hagree b).along⟩
      exact (finishClient_keeps hemit none true (htaken hs).1 nofun).mono (fun _ _ h => htaken.trans h.1)
        fun _ _ => False.elim
    | activationRequested a =>
      have hagree : ∀ b, AgreeAt s (({ s with pending := s.pending.eraseIdx index } : Manager).record
          (.activationRequested a)) b := fun b => by
        constructor <;> simp [SessionIs, answersOf, activationsOf, Manager.record]
        have hcount := count_eraseIdx hcallback (.activationRequested b)
        simp only [Callback.activationRequested.injEq] at hcount
        rw [List.count_singleton]
        simp only [beq_iff_eq, Record.activationRequested.injEq]
        omega
      rw [wp_modify]
      refine fun hs => ⟨fun b => (hagree b).sound rfl (hs b), ⟨List.Sublist.refl _, rfl, rfl, rfl, rfl, fun r hr => ?_⟩,
        fun b => (hagree b).along⟩
      rcases List.mem_append.mp hr with hold | hnew
      · exact .inl hold
      · rw [List.mem_singleton] at hnew
        exact .inr (hnew ▸ trivial)

theorem step_quiet (s : Manager) (e : Event) (h : Quiet s) : Quiet (step s e) := by
  have hasked : Quiet { s with answers := e.answers } := h.keeps (Keeps.of_same rfl rfl rfl rfl rfl rfl rfl)
  have hfollows : ∀ {c : Slot Unit}, Follows Keeps c → Quiet (stateAfter c { s with answers := e.answers }) :=
    fun hc => hasked.keeps (hc.stateAfter _)
  have hemit := handle_keeps e.depth
  unfold step slotOf
  cases e.trigger with
  | newConnection arrivals => exact Wp.stateAfter (acceptConnections_quiet hemit arrivals hasked)
  | readyRead a => exact hfollows (readClient_keeps hemit a)
  | disconnected a => exact hfollows (dropClient_keeps hemit a)
  | timeout a => exact hfollows (expireClient_keeps a)
  | pending index => exact hfollows (runPending_keeps hemit index)
  | close => exact Wp.stateAfter (close_quiet hemit hasked)

theorem Manager.Initial.quiet (h : s.Initial) : Quiet s := by
  have hnone : ∀ p a, ¬s.SessionIs p a := by
    rintro p a ⟨x, hx, -⟩
    rw [h.sessions] at hx
    cases hx
  refine ⟨fun a => ⟨?_, ?_, fun _ => ⟨?_, ?_⟩, ?_, ?_⟩, fun a => hnone _ a, fun a hdebt => ?_, ?_, fun hfree => ?_, ?_, ?_⟩
  · simp [answersOf, h.log]
  · simp [activationsOf, h.log, h.pending]
  · simp [answersOf, h.log]
  · simp [activationsOf, h.log, h.pending]
  · simp [h.clients, h.log]
  · simp [h.log]
  · have htracked := hdebt.1
    rw [h.clients] at htracked
    cases htracked
  · simp [h.clients]
  · exact ⟨h.owner hfree, h.clients⟩
  · simp [h.log]
  · simp [h.log]

/-- What a manager has done with its clients and its lock. -/
structure Served (s : Manager) : Prop where
  limit : s.clients.length ≤ s.maxActiveClients ∧ ∀ clients, .tracked clients ∈ s.log → clients ≤ s.maxActiveClients
  answered : ∀ a, s.answersOf a ≤ 1
  activated : ∀ a, s.activationsOf a ≤ 1
  ended : ∀ a ∈ s.clients, .ended a ∈ s.log → .cleanupRaised a ∈ s.log
  cleanedUp : ∀ a, .cleanedUp a ∈ s.log → a ∉ s.clients
  unlocking : ∀ serverOpen clients, .unlocking serverOpen clients ∈ s.log → serverOpen = false ∧ clients = 0
  released : s.lockHeld = false → s.serverOpen = false ∧ s.clients = []

theorem Quiet.served (h : Quiet s) : Served s where
  limit := ⟨h.limit, h.tracked⟩
  answered a := (h.sound a).answered
  activated a := (h.sound a).activated
  ended a htracked hended := by
    by_contra hraised
    exact h.paid a ⟨htracked, hended, hraised, h.idle a⟩
  cleanedUp a hcleaned := ((h.sound a).gone hcleaned).2
  unlocking := h.unlocking
  released := h.owner

/-- In every run the limit holds, each session is answered and activates at most once, one that has ended is tracked only
after a cleanup that raised, and the lock is released only with the server closed and no client left. -/
theorem run_served (s₀ : Manager) (events : List Event) (h : s₀.Initial) : Served (run step s₀ events) :=
  (run_invariant (fun s e hs => step_quiet s e hs) s₀ events h.quiet).served

/-- A manager that owns the instance. -/
def ownerManager : Manager := { maxActiveClients := 8, serverOpen := true, lockHeld := true }

/-- A client asks for the pet and is answered, but its timer cannot be stopped. -/
def timerRaises : List Event :=
  [{ trigger := .newConnection 1, depth := 1, answers := [] },
    { trigger := .readyRead 0, depth := 1, answers := [{ data := activateMessage }, {}, {}, {}, {}, { raises := true }] }]

theorem run_served_timer : Served (run step ownerManager timerRaises) :=
  run_served ownerManager timerRaises ⟨rfl, rfl, rfl, rfl, nofun⟩

/-- The session has been answered and has ended, and is still tracked. -/
theorem ended_session_tracked : .answered 0 ∈ (run step ownerManager timerRaises).log
    ∧ .ended 0 ∈ (run step ownerManager timerRaises).log ∧ 0 ∈ (run step ownerManager timerRaises).clients := by
  decide +kernel

end ArkClaw.Presentation.SingleInstance
