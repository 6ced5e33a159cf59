import ArkClaw.Library.JsonDict
import ArkClaw.Provider.DeepSeekStream

/-!
# The turns of the DeepSeek adapter

Read to its end, the generator yields the texts that came before the first terminal event and then one event, which says
that the turn was completed exactly if the stream said so, said something before and nothing after, and was closed. The
one way out of this is `json.loads`: where it refuses a number of the continuation for its length, or a container for its
depth, `preflightError` lets the exception through and nothing is yielded at all.
-/

namespace ArkClaw.Provider

open ArkClaw.Library ArkClaw.Domain

/-! ## What a stream says -/

namespace DeepSeekEvent

/-- The event ends the response. -/
def IsTerminal (e : DeepSeekEvent) : Prop := e.kind = .completed ∨ e.kind = .failed

instance (e : DeepSeekEvent) : Decidable e.IsTerminal := inferInstanceAs (Decidable (_ ∨ _))

/-- The event holds a text that is not empty. -/
def Speaks (e : DeepSeekEvent) : Prop := e.kind = .textDelta ∧ e.text ≠ []

instance (e : DeepSeekEvent) : Decidable e.Speaks := inferInstanceAs (Decidable (_ ∧ _))

end DeepSeekEvent

namespace DeepSeekStream

/-- The texts before the first terminal event, but for those that are empty. -/
def textsBefore (events : List DeepSeekEvent) : List Text :=
  ((events.takeWhile fun e => decide ¬e.IsTerminal).filter fun e => decide e.Speaks).map (·.text)

/-- The response is completed once, with a text before that and nothing but metadata behind it. -/
def ReportsCompletion (events : List DeepSeekEvent) : Prop :=
  ∃ before e after, events = before ++ e :: after ∧ e.kind = .completed ∧ (∀ d ∈ before, ¬d.IsTerminal) ∧
    (∃ d ∈ before, d.Speaks) ∧ ∀ d ∈ after, d.kind = .metadata

/-- The same, behind events of which one may have held a text. -/
def CompletesFrom (seen : Bool) (events : List DeepSeekEvent) : Prop :=
  ∃ before e after, events = before ++ e :: after ∧ e.kind = .completed ∧ (∀ d ∈ before, ¬d.IsTerminal) ∧
    (seen = true ∨ ∃ d ∈ before, d.Speaks) ∧ ∀ d ∈ after, d.kind = .metadata

theorem completesFrom_false {events : List DeepSeekEvent} : CompletesFrom false events ↔ ReportsCompletion events := by
  simp [CompletesFrom, ReportsCompletion]

theorem completesFrom_nil {seen : Bool} : ¬CompletesFrom seen [] := by
  rintro ⟨before, e, after, h, -⟩
  cases before <;> cases h

section

variable {seen : Bool} {e : DeepSeekEvent} {rest : List DeepSeekEvent}

theorem completesFrom_cons (h : ¬e.IsTerminal) :
    CompletesFrom seen (e :: rest) ↔ CompletesFrom (seen || decide e.Speaks) rest := by
  constructor
  · rintro ⟨before, d, after, hevents, hkind, hbefore, htext, hafter⟩
    cases before with
    | nil =>
      obtain ⟨rfl, rfl⟩ := List.cons.inj hevents
      exact absurd (Or.inl hkind) h
    | cons b before =>
      obtain ⟨rfl, rfl⟩ := List.cons.inj hevents
      refine ⟨before, d, after, rfl, hkind, fun d hd => hbefore d (List.mem_cons_of_mem _ hd), ?_, hafter⟩
      rcases htext with hseen | ⟨d, hd, hspeaks⟩
      · simp [hseen]
      · rcases List.mem_cons.mp hd with rfl | hd
        · simp [hspeaks]
        · exact .inr ⟨d, hd, hspeaks⟩
  · rintro ⟨before, d, after, rfl, hkind, hbefore, htext, hafter⟩
    refine ⟨e :: before, d, after, rfl, hkind, List.forall_mem_cons.mpr ⟨h, hbefore⟩, ?_, hafter⟩
    rcases htext with hseen | ⟨d, hd, hspeaks⟩
    · rcases Bool.or_eq_true_iff.mp hseen with hseen | hspeaks
      · exact .inl hseen
      · exact .inr ⟨e, List.mem_cons_self, of_decide_eq_true hspeaks⟩
    · exact .inr ⟨d, List.mem_cons_of_mem _ hd, hspeaks⟩

theorem completesFrom_terminal (h : e.IsTerminal) :
    CompletesFrom seen (e :: rest) ↔ e.kind = .completed ∧ seen = true ∧ ∀ d ∈ rest, d.kind = .metadata := by
  constructor
  · rintro ⟨before, d, after, hevents, hkind, hbefore, htext, hafter⟩
    cases before with
    | nil =>
      obtain ⟨rfl, rfl⟩ := List.cons.inj hevents
      exact ⟨hkind, by simpa using htext, hafter⟩
    | cons b before =>
      obtain ⟨rfl, rfl⟩ := List.cons.inj hevents
      exact absurd h (hbefore e List.mem_cons_self)
  · rintro ⟨hkind, hseen, hafter⟩
    exact ⟨[], e, rest, rfl, hkind, fun _ => nofun, .inl hseen, hafter⟩

theorem textsBefore_cons (h : ¬e.IsTerminal) :
    textsBefore (e :: rest) = if e.Speaks then e.text :: textsBefore rest else textsBefore rest := by
  unfold textsBefore
  rw [List.takeWhile_cons, if_pos (decide_eq_true h), List.filter_cons]
  by_cases hspeaks : e.Speaks
  · simp [hspeaks]
  · simp [hspeaks]

theorem textsBefore_terminal (h : e.IsTerminal) : textsBefore (e :: rest) = [] := by
  unfold textsBefore
  rw [List.takeWhile_cons_of_neg (by simpa using h)]
  rfl

end

end DeepSeekStream

namespace DeepSeekProvider

open DeepSeekStream

/-! ## Reading a stream -/

/-- Behind a terminal event nothing is yielded, and anything but metadata is a failure. -/
theorem receiveAll_behind (state : Reception) {kind : DeepSeekEventKind} (h : state.terminalKind = some kind)
    (events : List DeepSeekEvent) : (receiveAll state events).2.1 = [] ∧
      (receiveAll state events).1.terminalKind = some kind ∧ (receiveAll state events).1.textSeen = state.textSeen ∧
      ((receiveAll state events).1.failureCode = none ↔
        state.failureCode = none ∧ ∀ e ∈ events, e.kind = .metadata) ∧
      ((receiveAll state events).2.2 = false → (receiveAll state events).1.failureCode ≠ none) := by
  induction events with
  | nil => simp [receiveAll, h]
  | cons e rest ih =>
    cases hkind : e.kind with
    | metadata => simpa [receiveAll, hkind] using ih
    | textDelta | completed | failed => simp [receiveAll, hkind, h]

/-- Before a terminal event the texts are yielded, and the response is complete if what follows says so. -/
theorem receiveAll_before (state : Reception) (hkind : state.terminalKind = none) (hcode : state.failureCode = none)
    (events : List DeepSeekEvent) : (receiveAll state events).2.1 = (textsBefore events).map .textDelta ∧
      ((receiveAll state events).1.failureCode = none ∧ (receiveAll state events).1.terminalKind = some .completed ∧
        (receiveAll state events).1.textSeen = true ↔ CompletesFrom state.textSeen events) ∧
      ((receiveAll state events).2.2 = false → (receiveAll state events).1.failureCode ≠ none) := by
  induction events generalizing state with
  | nil => simp [receiveAll, hkind, completesFrom_nil, textsBefore]
  | cons e rest ih =>
    cases he : e.kind with
    | metadata =>
      have hterminal : ¬e.IsTerminal := by simp [DeepSeekEvent.IsTerminal, he]
      have hsilent : ¬e.Speaks := by simp [DeepSeekEvent.Speaks, he]
      rw [textsBefore_cons hterminal, if_neg hsilent, completesFrom_cons hterminal]
      simpa [receiveAll, he, hsilent] using ih state hkind hcode
    | textDelta =>
      have hterminal : ¬e.IsTerminal := by simp [DeepSeekEvent.IsTerminal, he]
      rw [textsBefore_cons hterminal, completesFrom_cons hterminal]
      by_cases htext : e.text = []
      · have hsilent : ¬e.Speaks := by simp [DeepSeekEvent.Speaks, htext]
        simpa [receiveAll, he, hkind, htext, hsilent] using ih state hkind hcode
      · have hspeaks : e.Speaks := ⟨he, htext⟩
        have hrest := ih { state with textSeen := true } hkind hcode
        simpa [receiveAll, he, hkind, htext, hspeaks] using hrest
    | completed =>
      have hterminal : e.IsTerminal := .inl he
      obtain ⟨hyielded, hterminalKind, hseen, hfailure, hended⟩ := receiveAll_behind
        { state with terminalKind := some .completed } rfl rest
      rw [textsBefore_terminal hterminal, completesFrom_terminal hterminal]
      simp only [receiveAll, he, hkind]
      refine ⟨hyielded, ?_, hended⟩
      rw [hterminalKind, hseen, hfailure, hcode]
      simp [and_comm]
    | failed =>
      have hterminal : e.IsTerminal := .inr he
      obtain ⟨hyielded, hterminalKind, hseen, hfailure, hended⟩ := receiveAll_behind
        { state with
          terminalKind := some .failed
          failureCode := some ((e.failureCode.filter (· ≠ [])).getD (lit "provider_unavailable")) } rfl rest
      rw [textsBefore_terminal hterminal, completesFrom_terminal hterminal]
      simp only [receiveAll, he, hkind]
      refine ⟨hyielded, ?_, hended⟩
      rw [hterminalKind, hfailure]
      simp

/-- Reading a stream yields its texts, and succeeds exactly if the stream reports its completion and ends. -/
theorem readStream_spec (stream : DeepSeekStream) :
    (readStream stream).2 = (textsBefore stream.events).map .textDelta ∧
      ((readStream stream).1.failureCode = none ∧ (readStream stream).1.terminalKind = some .completed ∧
        (readStream stream).1.textSeen = true ↔ ReportsCompletion stream.events ∧ stream.ending = none) := by
  obtain ⟨hyielded, hcompletes, hended⟩ := receiveAll_before {} rfl rfl stream.events
  rw [completesFrom_false] at hcompletes
  cases hending : stream.ending with
  | none => simpa [readStream, hending] using ⟨hyielded, hcompletes⟩
  | some raised =>
    refine ⟨by simpa [readStream, hending] using hyielded, iff_of_false ?_ nofun⟩
    cases hend : (receiveAll {} stream.events).2.2 with
    | false => simp [readStream, hending, hend, hended hend]
    | true => simp [readStream, hending, hend]

/-! ## What is outside raises nothing through -/

section

variable {ε σ τ α β : Type}

/-- The program raises nothing, whatever state it runs from. -/
def Silent (c : EStateM ε σ α) : Prop := ∀ s, Wp c (fun _ _ => True) (fun _ _ => False) s

theorem Silent.pure (a : α) : Silent (pure a : EStateM ε σ α) := fun _ => trivial

theorem Silent.modify (f : σ → σ) : Silent (modify f : EStateM ε σ PUnit) := fun _ => trivial

theorem Silent.set (s : σ) : Silent (set s : EStateM ε σ PUnit) := fun _ => trivial

theorem Silent.bind {c : EStateM ε σ α} {f : α → EStateM ε σ β} (h : Silent c) (hf : ∀ a, Silent (f a)) :
    Silent (c >>= f) :=
  fun s => (h s).bind fun a s' _ => hf a s'

theorem Silent.get {f : σ → EStateM ε σ β} (h : ∀ s, Silent (f s)) : Silent (get >>= f) :=
  fun s => wp_bind.mpr (h s s)

theorem Silent.onPart {part : σ → τ} {update : σ → τ → σ} {c : EStateM ε τ α} (h : Silent c) :
    Silent (onPart part update c) :=
  fun s => wp_onPart.mpr (h (part s))

end

section

variable (outside : Outside)

theorem sdk_uncancelled (n : Nat) : outside.sdk.close n ≠ .cancelled := by
  dsimp only [Outside.sdk]
  split <;> simp

theorem closePendingLocked_silent (kind : ResourceKind) (resource : ResourceId) :
    Silent (ProviderResources.closePendingLocked outside.sdk kind resource) := by
  intro s
  by_cases h : (s.part kind).Holds resource
  · exact (ProviderResources.closePendingLocked_spec h).mono (fun _ _ _ => trivial)
      fun _ _ hcancelled => sdk_uncancelled outside _ hcancelled
  · unfold ProviderResources.closePendingLocked
    simp only [wp_bind, wp_get]
    rw [if_pos h]
    trivial

theorem closeAll_silent (kind : ResourceKind) (resources : List ResourceId) :
    Silent (ProviderResources.closeAll outside.sdk kind resources) := by
  induction resources with
  | nil => exact .pure true
  | cons resource rest ih =>
    exact (closePendingLocked_silent outside kind resource).bind fun _ => ih.bind fun _ => .pure _

theorem retryCleanup_silent : Silent (retryCleanup outside) := by
  refine .onPart (.get fun s => (closeAll_silent outside .stream _).bind fun streamsClosed => .get fun s' => ?_)
  split
  · exact .pure false
  · exact (closeAll_silent outside .client _).bind fun clientsClosed => .get fun _ => .pure _

theorem invalidateClientLocked_silent : Silent (invalidateClientLocked outside) :=
  (Silent.modify _).bind fun _ => retryCleanup_silent outside

theorem disconnect_silent (code : Text) : Silent (disconnect outside code) :=
  (invalidateClientLocked_silent outside).bind fun _ => .pure _

theorem replaceClient_silent (key : Text) (fingerprint : Bytes) : Silent (replaceClient outside key fingerprint) := by
  refine (Silent.modify _).bind fun _ => (invalidateClientLocked_silent outside).bind fun invalidated => ?_
  split
  · exact .pure _
  · cases outside.createClient key with
    | error => exact .pure _
    | ok client =>
      refine .get fun s => ?_
      split
      · exact (Silent.modify _).bind fun _ => (retryCleanup_silent outside).bind fun _ => .pure _
      · exact (Silent.modify _).bind fun _ => .pure _

theorem connect_silent (key : Text) (fingerprint : Bytes) : Silent (connect outside key fingerprint) := by
  refine .get fun s => ?_
  split
  · exact .pure _
  · split
    · exact .pure _
    · exact replaceClient_silent outside key fingerprint

theorem clientLocked_silent (provider : DeepSeekProvider) : Silent (clientLocked outside provider) := by
  refine (retryCleanup_silent outside).bind fun cleaned => ?_
  split
  · exact .pure _
  · refine .get fun s => ?_
    split
    · exact disconnect_silent outside _
    · split
      · exact .pure _
      · split
        · exact disconnect_silent outside _
        · exact disconnect_silent outside _
        · split
          · exact disconnect_silent outside _
          · exact connect_silent outside _ _

theorem registerStream_silent (client : ResourceId) (stream : DeepSeekStream) : Silent (registerStream client stream) := by
  refine .get fun s => ?_
  split
  · exact .pure _
  · split
    · exact .pure _
    · exact (Silent.set _).bind fun _ => .pure _

/-- Whatever the credential store, the client factory and the SDK raise becomes the code of a failure. -/
theorem openStream_silent (provider : DeepSeekProvider) (request : LLMRequest) :
    Silent (openStream outside provider request) := by
  refine (clientLocked_silent outside provider).bind fun connected => ?_
  split
  · exact .pure _
  · split
    · exact .pure _
    · split
      · exact .pure _
      · refine (registerStream_silent _ _).bind fun refused => ?_
        split
        · exact .pure _
        · exact .pure _

/-- The stream is closed exactly if the adapter no longer holds it. -/
theorem retireStream_spec (stream : DeepSeekStream) (registered : Bool) (s : Connections) :
    Wp (retireStream outside stream registered)
      (fun closed s' => closed = true ↔ ¬s'.resources.streams.Holds stream.id) (fun _ _ => False) s := by
  unfold retireStream onResources
  simp only [wp_bind, wp_modify, wp_onPart]
  refine (ProviderResources.closePendingLocked_spec (.inl (mem_insertKey.mpr (.inr rfl)))).mono
    (fun closed s' h => ?_) fun _ _ hcancelled => sdk_uncancelled outside _ hcancelled
  obtain ⟨p, rfl, -, -, -, hheld⟩ := h
  have hstreams : ∀ r : ProviderResources, ∀ calls, (r.Tried .stream calls p).streams = p := fun _ _ => rfl
  rw [hstreams, hheld, Bool.not_eq_false]

/-! ## A turn -/

/-- The events of the stream that was read, none if no stream was. -/
def Turn.heard (turn : Turn) : List DeepSeekEvent := (turn.stream.map (·.events)).getD []

/-- A stream was read to the end of a complete response, and is closed. -/
def Turn.Completed (turn : Turn) (s : Connections) : Prop :=
  ∃ stream, turn.stream = some stream ∧ ReportsCompletion stream.events ∧ stream.ending = none ∧
    ¬s.resources.streams.Holds stream.id

/-- The generator yields the texts it heard, and then the event that says how the turn went. -/
structure Turn.Ends (turn : Turn) (completed : Prop) (carried : Option ProviderContinuation) : Prop where
  returns : turn.raised = none
  yields : ∃ last : LLMEvent, turn.yielded = (textsBefore turn.heard).map .textDelta ++ [last] ∧
    (last.type = .completed ∧ completed ∧ last.continuation = carried ∨ last.type = .error ∧ ¬completed)

theorem Turn.Ends.failed {code : Text} {completed : Prop} (h : ¬completed) (carried : Option ProviderContinuation) :
    Turn.Ends { yielded := [failure code] } completed carried :=
  ⟨rfl, _, rfl, .inr ⟨rfl, h⟩⟩

/-- What a completed turn of the adapter carries. -/
def carried (provider : DeepSeekProvider) : Option ProviderContinuation :=
  if provider.capabilities.continuationMode = .replayMessages then some (continuation provider.profile) else none

theorem conclude_cases (provider : DeepSeekProvider) (failureCode : Option Text) (state : Reception) {completed : Prop}
    (h : completed ↔ failureCode = none ∧ state.terminalKind = some .completed ∧ state.textSeen = true) :
    (conclude provider failureCode state).type = .completed ∧ completed ∧
      (conclude provider failureCode state).continuation = carried provider ∨
    (conclude provider failureCode state).type = .error ∧ ¬completed := by
  unfold conclude
  cases failureCode with
  | some code => exact .inr ⟨rfl, fun hcompleted => nomatch (h.mp hcompleted).1⟩
  | none =>
    dsimp only
    split
    next hnot =>
      refine .inr ⟨rfl, fun hcompleted => ?_⟩
      obtain ⟨-, hkind, hseen⟩ := h.mp hcompleted
      simp [hkind, hseen] at hnot
    next hdone =>
      rw [not_or, not_not, Bool.not_eq_false] at hdone
      exact .inl ⟨rfl, h.mpr ⟨rfl, hdone⟩, rfl⟩

/-- What is read of an opened stream. -/
theorem readOpened_spec (opened : Opened) :
    (readOpened opened).2.2 = (textsBefore (((readOpened opened).1.map (·.events)).getD [])).map .textDelta ∧
      ((readOpened opened).2.1.failureCode = none ∧ (readOpened opened).2.1.terminalKind = some .completed ∧
        (readOpened opened).2.1.textSeen = true ↔
        ∃ stream, (readOpened opened).1 = some stream ∧ ReportsCompletion stream.events ∧ stream.ending = none) ∧
      ∀ stream, (readOpened opened).1 = some stream → opened.stream = some stream := by
  unfold readOpened
  split
  next stream hcode hstream =>
    obtain ⟨hyielded, hcompletes⟩ := readStream_spec stream
    exact ⟨hyielded, by simpa using hcompletes, fun _ h => hstream.trans h⟩
  next => exact ⟨rfl, by simp, fun _ => nofun⟩

theorem retireOpened_spec (opened : Opened) (s : Connections) :
    Wp (retireOpened outside opened) (fun closed s' => closed = true ↔
      ∀ stream, opened.stream = some stream → ¬s'.resources.streams.Holds stream.id) (fun _ _ => False) s := by
  unfold retireOpened
  cases hstream : opened.stream with
  | none => exact iff_of_true rfl fun _ => nofun
  | some stream =>
    refine (retireStream_spec outside stream opened.registered s).imp (fun closed s' h => ?_)
    rw [h]
    simp

/-- Behind the checks, a turn ends as it should whatever is outside. -/
theorem streamTurn_ends (provider : DeepSeekProvider) (request : LLMRequest) (s : Connections) :
    Wp (streamTurn outside provider request) (fun turn s' => turn.Ends (turn.Completed s') (carried provider))
      (fun _ _ => False) s := by
  unfold streamTurn
  refine (openStream_silent outside provider request s).bind fun opened s₁ _ => ?_
  obtain ⟨hyielded, hcompletes, hopened⟩ := readOpened_spec opened
  refine wp_modify_bind.mpr ?_
  refine (retireOpened_spec outside opened _).bind fun closed s₂ hclosed => ?_
  refine ⟨rfl, _, congrArg (· ++ _) hyielded, conclude_cases provider _ _ ?_⟩
  constructor
  · rintro ⟨stream, hread, hreports, hending, hgone⟩
    have hstream := hopened stream hread
    have hdone : closed = true := hclosed.mpr fun other hother => by
      rw [hstream] at hother
      exact Option.some.inj hother ▸ hgone
    rw [if_pos hdone]
    exact hcompletes.mpr ⟨stream, hread, hreports, hending⟩
  · rintro ⟨hcode, hkind, hseen⟩
    cases closed with
    | true =>
      obtain ⟨stream, hread, hreports, hending⟩ := hcompletes.mp ⟨hcode, hkind, hseen⟩
      exact ⟨stream, hread, hreports, hending, hclosed.mp rfl stream (hopened stream hread)⟩
    | false => simp at hcode

end

/-! ## Continuations -/

theorem uuid4Shape_ascii : ∀ allowed ∈ uuid4Shape, ∀ c, allowed c = true → c.val < 0x80 := by
  have hhex (c : CodePoint) (h : isLowerHex c = true) : c.val < 0x80 := by
    simp only [isLowerHex, isDigit, Bool.or_eq_true, decide_eq_true_eq] at h
    omega
  have hmark (mark : CodePoint) (hmark : mark.val < 0x80) (c : CodePoint) (h : decide (c = mark) = true) :
      c.val < 0x80 := of_decide_eq_true h ▸ hmark
  have hvariant (c : CodePoint) (h : (c = 0x38 || c = 0x39 || c = 0x61 || c = 0x62) = true) : c.val < 0x80 := by
    simp only [Bool.or_eq_true, decide_eq_true_eq] at h
    rcases h with ((rfl | rfl) | rfl) | rfl <;> decide
  have hreplicate (n : Nat) : ∀ allowed ∈ List.replicate n isLowerHex, ∀ c, allowed c = true → c.val < 0x80 :=
    fun allowed hmem => (List.eq_of_mem_replicate hmem) ▸ hhex
  simp only [uuid4Shape, List.drop_replicate, List.forall_mem_append, List.forall_mem_cons]
  and_intros
  any_goals exact hreplicate _
  any_goals exact hmark 0x2D (by decide)
  · exact fun _ => nofun
  · exact hmark 0x34 (by decide)
  · exact fun _ => nofun
  · exact hvariant
  · exact fun _ => nofun
  · exact fun _ => nofun

/-- An identifier of a profile is ASCII. -/
theorem profileId_ascii (id : ProfileId) : Json.IsAscii id.value := by
  have hvalid := id.valid
  unfold validateOpaqueId at hvalid
  rcases Bool.or_eq_true_iff.mp (Bool.and_eq_true_iff.mp hvalid).2 with hreserved | huuid
  · have hall : ∀ value ∈ reservedProfileIds, value.all (fun c => decide (c.val < 0x80)) = true := by decide
    intro c hc
    exact of_decide_eq_true (List.all_eq_true.mp (hall _ (of_decide_eq_true hreserved)) c hc)
  · unfold isCanonicalUuid4 at huuid
    obtain ⟨hlength, hshape⟩ := Bool.and_eq_true_iff.mp huuid
    intro c hc
    rw [← List.map_fst_zip (Nat.le_of_eq (of_decide_eq_true hlength))] at hc
    obtain ⟨⟨c, allowed⟩, hmem, rfl⟩ := List.mem_map.mp hc
    exact uuid4Shape_ascii allowed (List.of_mem_zip hmem).2 c (List.all_eq_true.mp hshape _ hmem)

theorem wellFormed_continuation (profile : ProviderProfile) :
    Json.WellFormed Json.written (continuationJson profile) := by
  have hprotocol : Json.IsAscii (protocolValue profile.protocol) := by
    have hall : ∀ c ∈ protocolValue profile.protocol, decide (c.val < 0x80) = true := by
      rw [← List.all_eq_true]
      cases profile.protocol <;> decide
    exact fun c hc => of_decide_eq_true (hall c hc)
  refine .obj ?_ ?_ ?_ ?_
  · show [lit "adapter_version", lit "profile_id", lit "protocol"].Nodup
    decide
  · simp [continuationMembers, Json.KeyLE]
    decide
  · simp only [continuationMembers, List.map_cons, List.map_nil, List.forall_mem_cons]
    exact ⟨by decide, by decide, by decide, fun _ => nofun⟩
  · simp only [continuationMembers, List.map_cons, List.map_nil, List.forall_mem_cons]
    exact ⟨.str (by decide), .str (profileId_ascii _).unpaired, .str hprotocol.unpaired, fun _ => nofun⟩

theorem restrictCapabilities_ok {maximum requested effective : ProviderCapabilities}
    (h : restrictCapabilities maximum requested = .ok effective) :
    effective.continuationMode = requested.continuationMode ∧
      (requested.continuationMode = .none ∨ requested.continuationMode = maximum.continuationMode) := by
  unfold restrictCapabilities at h
  split_ifs at h with _ _ _ _ hmode
  obtain rfl := Except.ok.inj h
  refine ⟨rfl, ?_⟩
  by_cases hnone : requested.continuationMode = .none
  · exact .inl hnone
  · exact .inr (not_not.mp fun hne => hmode ⟨hnone, hne⟩)

/-- The adapter is built as its profile says. -/
theorem build_ok {profile : ProviderProfile} {stream : Bool} {provider : DeepSeekProvider}
    (h : build profile stream = .ok provider) : provider.profile = profile ∧
      provider.capabilities.continuationMode = profile.capabilities.continuationMode ∧
      (profile.capabilities.continuationMode = .none ∨ profile.capabilities.continuationMode = .replayMessages) := by
  unfold build init at h
  cases hcheck : checkProfile profile with
  | error e => simp [hcheck, bind, Except.bind] at h
  | ok _ =>
    cases heffective : restrictCapabilities maximumCapabilities profile.capabilities with
    | error e => simp [hcheck, heffective, bind, Except.bind] at h
    | ok effective =>
      cases hagain : restrictCapabilities maximumCapabilities effective with
      | error e => simp [hcheck, heffective, hagain, bind, Except.bind] at h
      | ok capabilities =>
        simp only [hcheck, heffective, hagain, bind, Except.bind, Option.getD_some, pure, Except.pure,
          Except.ok.injEq] at h
        subst h
        obtain ⟨hmode, hallowed⟩ := restrictCapabilities_ok heffective
        exact ⟨rfl, (restrictCapabilities_ok hagain).1.trans hmode, hallowed⟩

section

variable {limit : Nat}
variable {request : LLMRequest} {provider : DeepSeekProvider}

/-- A continuation that the adapter made for its profile is accepted for that profile. -/
theorem preflightError_continuation (hlimit : 0 < limit) {profile : ProviderProfile}
    {capabilities : ProviderCapabilities} (htools : ¬UsesTools request capabilities)
    (hmode : capabilities.continuationMode ≠ .none) (hcontinuation : request.continuation = some (continuation profile)) :
    preflightError limit request profile capabilities = .ok none := by
  have hdecode : Bytes.decodeUtf8 (continuation profile).state = some (Json.dumpsCompact (continuationJson profile)) :=
    Bytes.decodeUtf8_ascii (Json.isAscii_dumpsCompact (wellFormed_continuation profile))
  have hloads : Json.jsonLoads limit (Json.dumpsCompact (continuationJson profile)) = .ok (continuationJson profile) := by
    refine Json.jsonLoads_dumpsCompact (wellFormed_continuation profile) (fun m hm => ?_) hlimit
    obtain ⟨member, -, rfl⟩ := List.mem_map.mp hm
    exact ⟨_, rfl⟩
  have hmembers : isDictOf (continuationMembers profile) (continuationJson profile) = true := by
    simp [isDictOf, continuationJson, continuationMembers, isText, Json.Members.get?]
  unfold preflightError
  rw [if_neg htools, hcontinuation]
  dsimp only
  rw [if_neg hmode, if_neg (by simp [continuation]), hdecode]
  dsimp only
  rw [hloads]
  dsimp only
  rw [if_pos hmembers]

/-- The continuation a completed turn carries is accepted by every adapter that is built for the profile. -/
def Accepted (limit : Nat) (profile : ProviderProfile) (carried : Option ProviderContinuation) : Prop :=
  ∀ stream other, build profile stream = .ok other → ∀ request : LLMRequest, ¬UsesTools request other.capabilities →
    request.continuation = carried → preflightError limit request other.profile other.capabilities = .ok none

theorem carried_accepted (hlimit : 0 < limit) {profile : ProviderProfile} {stream : Bool}
    (hbuild : build profile stream = .ok provider) : Accepted limit profile (carried provider) := by
  intro stream' other hother request htools hcarried
  obtain ⟨hprofile, hmode, -⟩ := build_ok hbuild
  obtain ⟨hprofile', hmode', -⟩ := build_ok hother
  unfold carried at hcarried
  split at hcarried
  next hreplay =>
    rw [hprofile] at hcarried
    rw [hprofile']
    refine preflightError_continuation hlimit htools ?_ hcarried
    rw [hmode', ← hmode, hreplay]
    nofun
  next =>
    unfold preflightError
    rw [if_neg htools, hcarried]

/-! ## Where `json.loads` escapes -/

/-- `json.loads` raises of the continuation what is not caught: it is too long a number, or nested too deep. -/
def LoadsEscapes (limit : Nat) (provider : DeepSeekProvider) (request : LLMRequest) : Prop :=
  ¬UsesTools request provider.capabilities ∧ provider.capabilities.continuationMode ≠ .none ∧
    ∃ continuation text, request.continuation = some continuation ∧ continuation.providerName = lit "deepseek" ∧
      continuation.version = some adapterVersion ∧ Bytes.decodeUtf8 continuation.state = some text ∧
      (Json.jsonLoads limit text = .error .value ∨ Json.jsonLoads limit text = .error .recursion)

theorem preflightError_raises_iff :
    (∃ e, preflightError limit request provider.profile provider.capabilities = .error e) ↔
      LoadsEscapes limit provider request := by
  constructor
  · rintro ⟨e, h⟩
    unfold preflightError at h
    split at h
    next => cases h
    next htools =>
      split at h
      next => cases h
      next continuation hcontinuation =>
        split at h
        next => cases h
        next hmode =>
          split at h
          next => cases h
          next hours =>
            rw [not_or, not_not, not_not] at hours
            split at h
            next => cases h
            next text htext =>
              refine ⟨htools, hmode, continuation, text, hcontinuation, hours.1, hours.2, htext, ?_⟩
              cases hloads : Json.jsonLoads limit text with
              | ok raw =>
                simp only [hloads] at h
                split at h <;> cases h
              | error e' =>
                cases e' with
                | decode =>
                  simp only [hloads] at h
                  cases h
                | value => exact .inl rfl
                | recursion => exact .inr rfl
  · rintro ⟨htools, hmode, continuation, text, hcontinuation, hname, hversion, htext, hloads⟩
    unfold preflightError
    rw [if_neg htools, hcontinuation]
    dsimp only
    rw [if_neg hmode, if_neg (by simp [hname, hversion]), htext]
    dsimp only
    rcases hloads with hloads | hloads
    · exact ⟨_, by rw [hloads]⟩
    · exact ⟨_, by rw [hloads]⟩

/-! ## Every turn -/

/-- What a turn is to be: it raises nothing, it yields the texts that came before the first terminal event and then one
terminal event. This completes the turn exactly if the request was let through and the stream was completed and closed,
and carries a continuation that is accepted. -/
structure Turn.Meets (turn : Turn) (s : Connections) (limit : Nat) (provider : DeepSeekProvider)
    (request : LLMRequest) : Prop where
  returns : turn.raised = none
  yields : ∃ last : LLMEvent, turn.yielded = (textsBefore turn.heard).map .textDelta ++ [last] ∧
    (last.type = .completed ∨ last.type = .error) ∧
    (last.type = .completed ↔
      preflightError limit request provider.profile provider.capabilities = .ok none ∧ turn.Completed s) ∧
    (last.type = .completed → Accepted limit provider.profile last.continuation)

theorem Turn.Ends.meets {turn : Turn} {s : Connections}
    (hlimit : 0 < limit) {profile : ProviderProfile} {stream : Bool} (hbuild : build profile stream = .ok provider)
    (h : turn.Ends (preflightError limit request provider.profile provider.capabilities = .ok none ∧ turn.Completed s)
      (carried provider)) : turn.Meets s limit provider request := by
  obtain ⟨hreturns, last, hyields, hlast⟩ := h
  refine ⟨hreturns, last, hyields, ?_⟩
  rcases hlast with ⟨htype, hcompleted, hcarried⟩ | ⟨htype, hnot⟩
  · refine ⟨.inl htype, iff_of_true htype hcompleted, fun _ => ?_⟩
    rw [hcarried, (build_ok hbuild).1]
    exact carried_accepted hlimit hbuild
  · refine ⟨.inr htype, iff_of_false (by simp [htype]) hnot, fun hcompleted => ?_⟩
    rw [htype] at hcompleted
    cases hcompleted

/-- What `_preflight_error` lets through leaves the generator, which has yielded nothing. -/
theorem not_meets_of_raises {e : Json.LoadsError}
    (h : preflightError limit request provider.profile provider.capabilities = .error e) (outside : Outside)
    (s : Connections) : ¬∃ turn s', (generateStream outside provider limit request).run s = .ok turn s' ∧
      turn.Meets s' limit provider request := by
  rintro ⟨turn, s', hrun, hmeets⟩
  unfold generateStream at hrun
  rw [h] at hrun
  obtain ⟨rfl, rfl⟩ := EStateM.Result.ok.inj hrun
  cases hmeets.returns

/-- A turn of an adapter, read to its end, is what it is to be exactly if `json.loads` raises nothing that
`_preflight_error` lets through: whatever the request, the credential store, the client factory and the SDK. -/
theorem generateStream_meets_iff (hlimit : 0 < limit) {profile : ProviderProfile} {stream : Bool}
    {provider : DeepSeekProvider} (hbuild : build profile stream = .ok provider) (outside : Outside)
    (request : LLMRequest) (s : Connections) :
    (∃ turn s', (generateStream outside provider limit request).run s = .ok turn s' ∧
      turn.Meets s' limit provider request) ↔ ¬LoadsEscapes limit provider request := by
  rw [← preflightError_raises_iff]
  cases hpreflight : preflightError limit request provider.profile provider.capabilities with
  | error e => exact iff_of_false (not_meets_of_raises hpreflight outside s) (not_not.mpr ⟨e, rfl⟩)
  | ok refused =>
    refine iff_of_true ?_ (by simp)
    have hruns : Wp (generateStream outside provider limit request) (fun turn s' => turn.Meets s' limit provider request)
        (fun _ _ => False) s := by
      unfold generateStream
      rw [hpreflight]
      cases refused with
      | some code =>
        exact Turn.Ends.meets hlimit hbuild (.failed (fun h => by simp [hpreflight] at h) _)
      | none =>
        dsimp only
        split
        · exact Turn.Ends.meets hlimit hbuild (.failed (fun h => nomatch h.2.choose_spec.1) _)
        · refine (streamTurn_ends outside provider request s).imp (fun turn s' hends => ?_)
          refine Turn.Ends.meets hlimit hbuild ?_
          rwa [hpreflight, eq_self, true_and]
    unfold Wp at hruns
    split at hruns
    next turn s' hrun => exact ⟨turn, s', hrun, hruns⟩
    next => exact hruns.elim

end

/-- The built-in adapter. -/
def builtIn : DeepSeekProvider where
  profile :=
    { profileId := .deepseekDefault
      displayName := lit "DeepSeek"
      providerId := .deepseek
      protocol := .chatCompletions
      baseUrl := some deepseekOfficialBaseUrl
      model := lit "deepseek-chat"
      credentialId := some .deepseekDefault
      capabilities := { continuationMode := .replayMessages, protocol := .chatCompletions } }
  capabilities := maximumCapabilities
  streamEnabled := true

/-- A credential that is there, and an SDK that gives a short response and closes what it is asked to close. -/
def serving : Outside where
  sha256 _ := []
  createClient _ := .ok 0
  createStream _ _ := .ok
    { id := 1
      events := [{ kind := .textDelta, text := lit "Hello" }, { kind := .completed }, { kind := .metadata }] }
  closes _ := true
  meanwhile := id

def unconnected : Connections where
  secretStore := some fun _ => .ok (some ⟨lit "key", by decide⟩)

theorem generateStream_meets_serving : ∃ turn s',
    (generateStream serving builtIn 1000 { instructions := [], messages := [] }).run unconnected = .ok turn s' ∧
      turn.Meets s' 1000 builtIn { instructions := [], messages := [] } :=
  (generateStream_meets_iff (by decide) (show build builtIn.profile true = .ok builtIn by rfl) serving _ _).mpr
    fun ⟨_, _, _, _, hcontinuation, _⟩ => by cases hcontinuation

/-- A request that goes on from a number of 4301 digits. -/
def longRequest : LLMRequest where
  instructions := []
  messages := []
  continuation := some
    { providerName := lit "deepseek"
      state := (List.replicate (Text.maxDigits + 1) (0x31 : CodePoint)).flatMap Text.encodeCodePoint
      version := some adapterVersion }

theorem longRequest_escapes : LoadsEscapes 1000 builtIn longRequest := by
  have hdigits : ∀ c ∈ List.replicate (Text.maxDigits + 1) (0x31 : CodePoint), Json.isDigit c = true :=
    fun c hc => (List.eq_of_mem_replicate hc) ▸ by decide
  have hascii : ∀ c ∈ List.replicate (Text.maxDigits + 1) (0x31 : CodePoint), c.val < 0x80 :=
    fun c hc => (List.eq_of_mem_replicate hc) ▸ by decide
  refine ⟨?_, by decide, _, _, rfl, rfl, rfl, Bytes.decodeUtf8_ascii hascii, .inl ?_⟩
  · rintro (⟨htools, -⟩ | ⟨message, hmem, -⟩)
    · exact htools rfl
    · cases hmem
  · exact Json.jsonLoads_digits hdigits (by decide) (by rw [List.length_replicate]; exact Nat.lt_succ_self _)

/-- The generator raises where a continuation is too long a number. -/
theorem long_number_escapes : ¬∃ turn s',
    (generateStream serving builtIn 1000 longRequest).run unconnected = .ok turn s' ∧
      turn.Meets s' 1000 builtIn longRequest :=
  have ⟨_, hraises⟩ := preflightError_raises_iff.mpr longRequest_escapes
  not_meets_of_raises hraises serving unconnected

end DeepSeekProvider

end ArkClaw.Provider
