import ArkClaw.Provider.OpenAIContinuationSignature
import ArkClaw.Provider.OpenAIStream

/-!
# What a malformed item of a response leads to

A membership test on a set asks its operand for a hash, and a list or a dictionary has none: the test raises where it
should refuse. `AsksForHash` lists the items this happens for. Every other item is sanitized or rejected, and a
generator that meets a rejected one ends in a failure; for the items that are listed the exception escapes from it.
-/

namespace ArkClaw.Provider.OpenAI

open ArkClaw.Library ArkClaw.Domain

/-! ## The items -/

/-- A value that has no hash. -/
def IsContainer : Json → Prop
  | .arr _ => True
  | .obj _ => True
  | _ => False

def IsNonemptyText (value : Json) : Prop := ∃ s, value = .str s ∧ s ≠ []

def IsTextPart (partType : String) (part : Json) : Prop :=
  ∃ members content, part = .obj members ∧ HasExactly ["text", "type"] members
    ∧ IsText (member members "type") partType ∧ member members "text" = .str content

def AreTextParts (partType : String) (value : Json) : Prop :=
  ∃ parts, value = .arr parts ∧ ∀ part ∈ parts, IsTextPart partType part

def IsCaller (value : Json) : Prop :=
  ∃ members, value = .obj members ∧
    (IsText (member members "type") "direct" ∧ HasExactly ["type"] members
      ∨ IsText (member members "type") "program" ∧ HasExactly ["caller_id", "type"] members
        ∧ IsNonemptyText (member members "caller_id"))

/-- The item gets as far as a membership test on a value that has no hash. -/
inductive AsksForHash (item : Json.Members) : Prop
  | role (htype : member item "type" = .null) (hkeys : HasExactly ["content", "role"] item)
    (hrole : IsContainer (member item "role"))
  | messageStatus (htype : IsText (member item "type") "message")
    (honly : HasOnly ["content", "id", "phase", "role", "status", "type"] item)
    (hall : HasAll ["content", "id", "role", "status", "type"] item) (hrole : IsText (member item "role") "assistant")
    (hstatus : IsContainer (member item "status"))
  | messagePhase {status : Text} (htype : IsText (member item "type") "message")
    (honly : HasOnly ["content", "id", "phase", "role", "status", "type"] item)
    (hall : HasAll ["content", "id", "role", "status", "type"] item) (hrole : IsText (member item "role") "assistant")
    (hstatus : member item "status" = .str status) (hknown : status ∈ outputStatuses)
    (hid : IsNonemptyText (member item "id")) (hphase : IsContainer (member item "phase"))
  | reasoningStatus (htype : IsText (member item "type") "reasoning")
    (honly : HasOnly ["content", "encrypted_content", "id", "status", "summary", "type"] item)
    (hall : HasAll ["id", "summary", "type"] item) (hid : IsNonemptyText (member item "id"))
    (hsummary : AreTextParts "summary_text" (member item "summary"))
    (hcontent : member item "content" = .null ∨ AreTextParts "reasoning_text" (member item "content"))
    (hencrypted : member item "encrypted_content" = .null ∨ ∃ s, member item "encrypted_content" = .str s)
    (hstatus : IsContainer (member item "status"))
  | callStatus {arguments : Text} (htype : IsText (member item "type") "function_call")
    (honly : HasOnly ["arguments", "call_id", "caller", "id", "name", "namespace", "status", "type"] item)
    (hall : HasAll ["arguments", "call_id", "name", "type"] item) (harguments : member item "arguments" = .str arguments)
    (hcallId : IsNonemptyText (member item "call_id")) (hname : IsNonemptyText (member item "name"))
    (hid : member item "id" = .null ∨ IsNonemptyText (member item "id"))
    (hcaller : member item "caller" = .null ∨ IsCaller (member item "caller"))
    (hnamespace : member item "namespace" = .null ∨ IsNonemptyText (member item "namespace"))
    (hstatus : IsContainer (member item "status"))

/-- An item of a response, or of a history, of which a hash is asked that it does not have. -/
def Unhashable (value : Json) : Prop := isDomainJson 0 value = true ∧ ∃ item, value = .obj item ∧ AsksForHash item

/-! ## Which checks raise -/

theorem require_not_unhashable {p : Prop} [Decidable p] : require p = .error .unhashable ↔ False := by
  unfold require
  split <;> simp

theorem text_not_unhashable {value : Json} : text value = .error .unhashable ↔ False := by
  cases value <;> simp [text]

theorem nonemptyText_not_unhashable {value : Json} : nonemptyText value = .error .unhashable ↔ False := by
  cases value with
  | str s =>
    unfold nonemptyText
    dsimp only
    split <;> simp
  | _ => simp [nonemptyText]

theorem oneOf_unhashable {values : List Text} {value : Json} :
    oneOf values value = .error .unhashable ↔ IsContainer value := by
  cases value with
  | str s =>
    unfold oneOf IsContainer
    dsimp only
    split <;> simp
  | _ => simp [oneOf, IsContainer]

theorem optional_unhashable {check : Json → Sanitizer Text} {value : Json} :
    optional check value = .error .unhashable ↔ value ≠ .null ∧ check value = .error .unhashable := by
  by_cases hnull : value = .null
  · subst hnull
    simp [optional]
  · have hcheck : optional check value = check value >>= fun s => pure (some s) := by
      cases value <;> first | rfl | exact absurd rfl hnull
    simp only [hcheck, check_bind_error, check_pure_error, and_false, exists_false, or_false, ne_eq, hnull,
      not_false_eq_true, true_and]

theorem optional_not_unhashable {check : Json → Sanitizer Text} {value : Json}
    (h : check value = .error .unhashable ↔ False) : optional check value = .error .unhashable ↔ False := by
  rw [optional_unhashable, h, and_false]

theorem isContainer_ne_null {value : Json} (h : IsContainer value) : value ≠ .null := by
  rintro rfl
  exact h

theorem mapM_not_unhashable {α : Type} {check : Json → Sanitizer α} {parts : List Json}
    (h : ∀ part, check part = .error .unhashable ↔ False) : parts.mapM check = .error .unhashable ↔ False :=
  ⟨fun herror => by
    obtain ⟨part, -, hpart⟩ := check_mapM_error herror
    exact (h part).mp hpart, False.elim⟩

theorem sanitizeContent_not_unhashable {value : Json} : sanitizeContent value = .error .unhashable ↔ False := by
  cases value with
  | arr parts =>
    refine mapM_not_unhashable fun part => ?_
    cases part with
    | obj members =>
      unfold sanitizeContentPart
      dsimp only
      split <;> simp only [check_bind_error, require_not_unhashable, text_not_unhashable, check_pure_error, and_false,
        exists_false, or_self]
    | _ => simp [sanitizeContentPart]
  | _ => simp [sanitizeContent]

theorem sanitizeTextParts_not_unhashable {partType : String} {value : Json} :
    sanitizeTextParts partType value = .error .unhashable ↔ False := by
  cases value with
  | arr parts =>
    refine mapM_not_unhashable fun part => ?_
    cases part with
    | obj members =>
      simp only [sanitizeTextPart, check_bind_error, require_not_unhashable, text_not_unhashable, check_pure_error,
        and_false, exists_false, or_self]
    | _ => simp [sanitizeTextPart]
  | _ => simp [sanitizeTextParts]

theorem sanitizeReasoningContent_eq {value : Json} (hnull : value ≠ .null) :
    sanitizeReasoningContent value = sanitizeTextParts "reasoning_text" value >>= fun parts => pure (some parts) := by
  cases value <;> first | rfl | exact absurd rfl hnull

theorem sanitizeReasoningContent_not_unhashable {value : Json} :
    sanitizeReasoningContent value = .error .unhashable ↔ False := by
  by_cases hnull : value = .null
  · subst hnull
    simp [sanitizeReasoningContent]
  · simp only [sanitizeReasoningContent_eq hnull, check_bind_error, sanitizeTextParts_not_unhashable, check_pure_error,
      and_false, exists_false, or_self]

theorem sanitizeCaller_not_unhashable {value : Json} : sanitizeCaller value = .error .unhashable ↔ False := by
  unfold sanitizeCaller
  split
  · simp
  · split <;> simp

/-! ## Which checks succeed -/

theorem exists_nonemptyText {value : Json} : (∃ s, nonemptyText value = .ok s) ↔ IsNonemptyText value := by
  simp only [nonemptyText_ok, IsNonemptyText]

theorem exists_optional {check : Json → Sanitizer Text} {value : Json} :
    (∃ o, optional check value = .ok o) ↔ value = .null ∨ ∃ s, check value = .ok s := by
  simp only [optional_ok]
  constructor
  · rintro ⟨_, ⟨hnull, -⟩ | ⟨-, s, hs, -⟩⟩
    · exact .inl hnull
    · exact .inr ⟨s, hs⟩
  · intro h
    by_cases hnull : value = .null
    · exact ⟨none, .inl ⟨hnull, rfl⟩⟩
    · obtain ⟨s, hs⟩ := h.resolve_left hnull
      exact ⟨some s, .inr ⟨hnull, s, hs, rfl⟩⟩

theorem exists_textParts {partType : String} {value : Json} :
    (∃ parts, sanitizeTextParts partType value = .ok parts) ↔ AreTextParts partType value := by
  have hpart : ∀ part, (∃ r, sanitizeTextPart partType part = .ok r) ↔ IsTextPart partType part := by
    intro part
    cases part with
    | obj members =>
      simp only [sanitizeTextPart, check_bind_ok, check_pure_ok, require_ok, text_ok, IsTextPart, Json.obj.injEq]
      constructor
      · rintro ⟨_, _, ⟨hkeys, htype⟩, content, hcontent, -⟩
        exact ⟨members, content, rfl, hkeys, htype, hcontent⟩
      · rintro ⟨_, content, rfl, hkeys, htype, hcontent⟩
        exact ⟨_, (), ⟨hkeys, htype⟩, content, hcontent, rfl⟩
    | _ => simp [sanitizeTextPart, IsTextPart]
  cases value with
  | arr parts =>
    simp only [sanitizeTextParts, check_mapM_exists, hpart, AreTextParts, Json.arr.injEq]
    constructor
    · exact fun h => ⟨parts, rfl, h⟩
    · rintro ⟨_, rfl, h⟩
      exact h
  | _ => simp [sanitizeTextParts, AreTextParts]

theorem exists_reasoningContent {value : Json} :
    (∃ content, sanitizeReasoningContent value = .ok content) ↔ value = .null ∨ AreTextParts "reasoning_text" value := by
  by_cases hnull : value = .null
  · subst hnull
    exact iff_of_true ⟨none, rfl⟩ (.inl rfl)
  · simp only [sanitizeReasoningContent_eq hnull, check_bind_ok, check_pure_ok, ← exists_textParts, hnull, false_or]
    constructor
    · rintro ⟨_, parts, hparts, -⟩
      exact ⟨parts, hparts⟩
    · rintro ⟨parts, hparts⟩
      exact ⟨_, parts, hparts, rfl⟩

theorem exists_functionCaller {value : Json} : (∃ caller, sanitizeFunctionCaller value = some caller) ↔ IsCaller value := by
  cases value with
  | obj members =>
    simp only [IsCaller, Json.obj.injEq, exists_eq_left', ← exists_nonemptyText]
    unfold sanitizeFunctionCaller
    dsimp only
    split_ifs with hdirect hprogram
    · simp [hdirect]
    · simp only [hdirect, hprogram.1, hprogram.2, true_and, false_or]
      cases nonemptyText (member members "caller_id") <;> simp
    · simp only [exists_false, false_iff, hdirect, false_or]
      rintro ⟨htype, hkeys, -⟩
      exact hprogram ⟨htype, hkeys⟩
  | _ => simp [sanitizeFunctionCaller, IsCaller]

theorem exists_caller {value : Json} :
    (∃ caller, sanitizeCaller value = .ok caller) ↔ value = .null ∨ IsCaller value := by
  by_cases hnull : value = .null
  · subst hnull
    exact iff_of_true ⟨none, rfl⟩ (.inl rfl)
  · simp only [hnull, false_or, ← exists_functionCaller]
    unfold sanitizeCaller
    split
    next => exact absurd rfl hnull
    next => cases sanitizeFunctionCaller value <;> simp

/-! ## When the sanitizer raises -/

/-- The sanitizer raises exactly where a hash is asked for that is not there. -/
theorem unhashable_iff {value : Json} : sanitizeHistoryItem value = .error .unhashable ↔ Unhashable value := by
  rw [sanitizeHistoryItem_eq (show (Except.error Refusal.unhashable : Sanitizer Json) ≠ .error .rejected from
    fun hrejected => by cases hrejected)]
  refine and_congr_right' (exists_congr fun item => and_congr_right' ?_)
  simp only [sanitizeInputMessage, sanitizeOutputMessage, sanitizeReasoningItem, sanitizeFunctionCall, check_bind_error,
    check_pure_error, require_not_unhashable, text_not_unhashable, nonemptyText_not_unhashable, oneOf_unhashable,
    optional_not_unhashable text_not_unhashable, optional_not_unhashable nonemptyText_not_unhashable, optional_unhashable,
    sanitizeContent_not_unhashable, sanitizeTextParts_not_unhashable, sanitizeReasoningContent_not_unhashable,
    sanitizeCaller_not_unhashable, require_ok, oneOf_ok, text_ok, and_false, exists_false, or_false, false_or]
  constructor
  · have htext : ∀ {value : Json} {o : Option Text}, optional text value = .ok o → value = .null ∨ ∃ s, value = .str s := by
      intro value o h
      simpa only [text_ok] using exists_optional.mp ⟨o, h⟩
    have hnonempty : ∀ {value : Json} {o : Option Text}, optional nonemptyText value = .ok o →
        value = .null ∨ IsNonemptyText value := by
      intro value o h
      simpa only [exists_nonemptyText] using exists_optional.mp ⟨o, h⟩
    rintro (⟨htype, _, hkeys, hrole⟩
      | ⟨htype, _, ⟨honly, hall, -, hrole⟩, hstatus | ⟨status, ⟨hstatus, hknown⟩, id, hid, -, hphase⟩⟩
      | ⟨htype, _, ⟨honly, hall, -⟩, id, hid, summary, hsummary, content, hcontent, encrypted, hencrypted, -, hstatus⟩
      | ⟨htype, _, ⟨honly, hall, -⟩, arguments, harguments, callId, hcallId, name, hname, id, hid, caller, hcaller, ns,
          hns, -, hstatus⟩)
    · exact .role htype hkeys hrole
    · exact .messageStatus htype honly hall hrole hstatus
    · exact .messagePhase htype honly hall hrole hstatus hknown (exists_nonemptyText.mp ⟨id, hid⟩) hphase
    · exact .reasoningStatus htype honly hall (exists_nonemptyText.mp ⟨id, hid⟩) (exists_textParts.mp ⟨summary, hsummary⟩)
        (exists_reasoningContent.mp ⟨content, hcontent⟩) (htext hencrypted) hstatus
    · exact .callStatus htype honly hall harguments (exists_nonemptyText.mp ⟨callId, hcallId⟩)
        (exists_nonemptyText.mp ⟨name, hname⟩) (hnonempty hid) (exists_caller.mp ⟨caller, hcaller⟩) (hnonempty hns) hstatus
  · intro h
    cases h with
    | role htype hkeys hrole => exact .inl ⟨htype, (), hkeys, hrole⟩
    | messageStatus htype honly hall hrole hstatus =>
      exact .inr (.inl ⟨htype, (), ⟨honly, hall, htype, hrole⟩, .inl hstatus⟩)
    | messagePhase htype honly hall hrole hstatus hknown hid hphase =>
      obtain ⟨id, hid⟩ := exists_nonemptyText.mpr hid
      exact .inr (.inl ⟨htype, (), ⟨honly, hall, htype, hrole⟩, .inr ⟨_, ⟨hstatus, hknown⟩, id, hid,
        isContainer_ne_null hphase, hphase⟩⟩)
    | reasoningStatus htype honly hall hid hsummary hcontent hencrypted hstatus =>
      obtain ⟨id, hid⟩ := exists_nonemptyText.mpr hid
      obtain ⟨summary, hsummary⟩ := exists_textParts.mpr hsummary
      obtain ⟨content, hcontent⟩ := exists_reasoningContent.mpr hcontent
      obtain ⟨encrypted, hencrypted⟩ := exists_optional.mpr (hencrypted.imp_right (Exists.imp fun _ => text_ok.mpr))
      exact .inr (.inr (.inl ⟨htype, (), ⟨honly, hall, htype⟩, id, hid, summary, hsummary, content, hcontent, encrypted,
        hencrypted, isContainer_ne_null hstatus, hstatus⟩))
    | callStatus htype honly hall harguments hcallId hname hid hcaller hnamespace hstatus =>
      obtain ⟨callId, hcallId⟩ := exists_nonemptyText.mpr hcallId
      obtain ⟨name, hname⟩ := exists_nonemptyText.mpr hname
      obtain ⟨id, hid⟩ := exists_optional.mpr (hid.imp_right exists_nonemptyText.mpr)
      obtain ⟨caller, hcaller⟩ := exists_caller.mpr hcaller
      obtain ⟨ns, hns⟩ := exists_optional.mpr (hnamespace.imp_right exists_nonemptyText.mpr)
      exact .inr (.inr (.inr ⟨htype, (), ⟨honly, hall, htype⟩, _, harguments, callId, hcallId, name, hname, id, hid,
        caller, hcaller, ns, hns, isContainer_ne_null hstatus, hstatus⟩))

/-! ## The output of a response -/

section

variable {p : Primitives}
variable {key : Bytes} {request : LLMRequest} {exchange : Exchange}

/-- Behind its last event a response gives no other output. -/
theorem receiveAll_terminal {state : Reception} (h : state.terminalKind.isSome = true) (events : List ResponseEvent) :
    (receiveAll p state events).1.failureCode.isSome = true
      ∨ (receiveAll p state events).1.completionOutput = state.completionOutput ∧ ∀ e ∈ events, e.kind ≠ .completed := by
  induction events with
  | nil => exact .inr ⟨rfl, nofun⟩
  | cons e rest ih =>
    by_cases hbreak : e.kind ≠ .metadata ∨ looksTerminalOrError e.rawType = true
    · have hreceive : receive p state e = breaks state := by
        rw [receive, if_pos h, if_pos hbreak]
      left
      rw [receiveAll, hreceive]
      rfl
    · have hreceive : receive p state e = { state } := by
        rw [receive, if_pos h, if_neg hbreak]
      have hstep : (receiveAll p state (e :: rest)).1 = (receiveAll p state rest).1 := by
        rw [receiveAll, hreceive]
        rfl
      rw [hstep]
      rw [not_or, not_not] at hbreak
      refine ih.imp_right (And.imp_right fun hrest => List.forall_mem_cons.mpr ⟨?_, hrest⟩)
      rw [hbreak.1]
      nofun

/-- An event that is not the completion leaves the output as it was. -/
theorem receive_output {state : Reception} {e : ResponseEvent} (h : e.kind ≠ .completed) :
    (receive p state e).state.completionOutput = state.completionOutput := by
  unfold receive
  split
  · split <;> rfl
  · split
    · split_ifs <;> rfl
    · split <;> rfl
    · split <;> rfl
    · split <;> rfl
    · split <;> rfl
    · rfl
    · exact absurd ‹e.kind = _› h

/-- The loop is left early by a failure only. -/
theorem receive_leaves {state : Reception} {e : ResponseEvent} (h : (receive p state e).goesOn = false) :
    (receive p state e).state.failureCode.isSome = true := by
  revert h
  unfold receive
  split
  · split
    · exact fun _ => rfl
    · nofun
  · split
    · split_ifs <;> nofun
    · split <;> nofun
    · split
      · nofun
      · exact fun _ => rfl
    · split
      · nofun
      · exact fun _ => rfl
    · split
      · nofun
      · exact fun _ => rfl
    · nofun
    · nofun

/-- The output of a response that does not fail is that of its completion. -/
theorem receiveAll_completed (state : Reception) (events : List ResponseEvent) :
    (receiveAll p state events).1.failureCode.isSome = true
      ∨ ∀ e ∈ events, e.kind = .completed → (receiveAll p state events).1.completionOutput = e.outputItems := by
  induction events generalizing state with
  | nil => exact .inr nofun
  | cons e rest ih =>
    cases hgoes : (receive p state e).goesOn with
    | false =>
      left
      have hleave : (receiveAll p state (e :: rest)).1 = (receive p state e).state := by
        rw [receiveAll, hgoes]
        rfl
      rw [hleave]
      exact receive_leaves hgoes
    | true =>
      have hstep : (receiveAll p state (e :: rest)).1 = (receiveAll p (receive p state e).state rest).1 := by
        rw [receiveAll, hgoes]
        rfl
      rw [hstep]
      by_cases hkind : e.kind = .completed
      · have hterminal : (receive p state e).state.terminalKind.isSome = true := by
          unfold receive
          split
          · split <;> assumption
          · rw [hkind]
            rfl
        rcases receiveAll_terminal (p := p) hterminal rest with hfail | ⟨houtput, hrest⟩
        · exact .inl hfail
        · by_cases hnone : state.terminalKind.isSome = true
          · exfalso
            have hbreak : receive p state e = breaks state := by
              rw [receive, if_pos hnone, if_pos (.inl (by rw [hkind]; nofun))]
            rw [hbreak] at hgoes
            cases hgoes
          · right
            intro e' he' hkind'
            rcases List.mem_cons.mp he' with rfl | he'
            · rw [houtput, receive, if_neg hnone, hkind]
            · exact absurd hkind' (hrest e' he')
      · refine (ih (receive p state e).state).imp_right fun hrest => ?_
        exact List.forall_mem_cons.mpr ⟨fun h => absurd h hkind, hrest⟩

/-- The output comes from the completion. -/
theorem receiveAll_output (state : Reception) (events : List ResponseEvent) :
    ∀ item ∈ (receiveAll p state events).1.completionOutput, item ∈ state.completionOutput
      ∨ ∃ e ∈ events, item ∈ e.outputItems := by
  induction events generalizing state with
  | nil => exact fun item => .inl
  | cons e rest ih =>
    have hown : ∀ item ∈ (receive p state e).state.completionOutput, item ∈ state.completionOutput
        ∨ ∃ e' ∈ e :: rest, item ∈ e'.outputItems := by
      intro item hitem
      by_cases hkind : e.kind = .completed
      · unfold receive at hitem
        split at hitem
        · split at hitem <;> exact .inl hitem
        · rw [hkind] at hitem
          exact .inr ⟨e, List.mem_cons_self, hitem⟩
      · rw [receive_output hkind] at hitem
        exact .inl hitem
    intro item hitem
    cases hgoes : (receive p state e).goesOn with
    | false =>
      rw [receiveAll, hgoes] at hitem
      exact hown item hitem
    | true =>
      rw [receiveAll, hgoes] at hitem
      rcases ih (receive p state e).state item hitem with hstate | ⟨e', he', hout⟩
      · exact hown item hstate
      · exact .inr ⟨e', List.mem_cons_of_mem _ he', hout⟩

/-- The output that is concluded with is that of the completion, whatever the network does then. -/
theorem exchangeAll_completed (exchange : Exchange) : (exchangeAll p exchange).1.failureCode.isSome = true
      ∨ ∀ e ∈ exchange.events, e.kind = .completed → (exchangeAll p exchange).1.completionOutput = e.outputItems := by
  unfold exchangeAll
  cases exchange.refusal with
  | some code => exact .inl rfl
  | none =>
    dsimp only
    have hloop := receiveAll_completed (p := p) {} exchange.events
    rcases hreceive : receiveAll p {} exchange.events with ⟨state, yielded, ended⟩
    rw [hreceive] at hloop
    dsimp only at hloop ⊢
    split_ifs
    · exact .inl rfl
    · split
      · exact .inl rfl
      · exact .inl rfl
      · exact hloop
    · exact .inl rfl
    · exact hloop

theorem exchangeAll_output (exchange : Exchange) :
    ∀ item ∈ (exchangeAll p exchange).1.completionOutput, ∃ e ∈ exchange.events, item ∈ e.outputItems := by
  unfold exchangeAll
  cases exchange.refusal with
  | some code => exact fun _ => nofun
  | none =>
    dsimp only
    intro item hitem
    have hout : item ∈ (receiveAll p {} exchange.events).1.completionOutput := by
      rcases hreceive : receiveAll p {} exchange.events with ⟨state, yielded, ended⟩
      rw [hreceive] at hitem
      dsimp only at hitem ⊢
      split_ifs at hitem
      · revert hitem
        split <;> exact id
      · revert hitem
        split <;> exact id
      · exact hitem
      · exact hitem
    exact (receiveAll_output {} exchange.events item hout).resolve_left nofun

/-! ## The end of the generator -/

theorem assistantFingerprint_not_unhashable {assistantText : Text} :
    assistantFingerprint p assistantText = .error .unhashable ↔ False := by
  have hmessage : ∀ role content, fingerprintMessage p role content = .error .unhashable ↔ False := by
    intro role content
    unfold fingerprintMessage
    generalize fingerprintMaterial role content = material
    cases material <;> simp
  unfold assistantFingerprint
  split_ifs
  · simp
  · simp only [check_bind_error, check_pure_error, hmessage, and_false, exists_false, or_self]

theorem createContinuation_unhashable {c : Creation} (h : createContinuation p c = .error .unhashable) :
    ∃ item ∈ c.history, sanitizeHistoryItem item = .error .unhashable := by
  simp only [createContinuation, Creation.payload, check_bind_error, check_pure_error, require_not_unhashable,
    assistantFingerprint_not_unhashable, and_false, exists_false, or_false, false_or] at h
  obtain ⟨_, -, _, -, h⟩ := h
  exact check_mapM_error h

theorem createContinuation_sanitizes {c : Creation} {continuation : ProviderContinuation}
    (h : createContinuation p c = .ok continuation) : ∀ item ∈ c.history, ∃ safe, sanitizeHistoryItem item = .ok safe := by
  simp only [createContinuation, Creation.payload, check_bind_ok] at h
  obtain ⟨_, ⟨_, -, _, -, safe, hsafe, -⟩, -⟩ := h
  exact check_mapM_exists.mp ⟨safe, hsafe⟩

/-- The last event says that the turn failed, or completes it with what was created. -/
theorem conclude_ok {prepared : PreparedRequest} {state : Reception} {event : LLMEvent}
    (h : conclude p prepared key state = .ok event) :
    (∃ code, event = failure code) ∨ state.failureCode = none ∧
      ∃ continuation, createContinuation p (turnCreation prepared key state) = .ok continuation := by
  unfold conclude at h
  split at h
  next code _ => exact .inl ⟨code, (Except.ok.inj h).symm⟩
  next hnone =>
    split_ifs at h
    · exact .inl ⟨_, (Except.ok.inj h).symm⟩
    · exact .inl ⟨_, (Except.ok.inj h).symm⟩
    · exact .inl ⟨_, (Except.ok.inj h).symm⟩
    · exact .inl ⟨_, (Except.ok.inj h).symm⟩
    · split at h
      next continuation hcreate => exact .inr ⟨hnone, continuation, hcreate⟩
      next => exact .inl ⟨_, (Except.ok.inj h).symm⟩
      next => cases h

theorem conclude_error {prepared : PreparedRequest} {state : Reception} {e : Refusal}
    (h : conclude p prepared key state = .error e) :
    createContinuation p (turnCreation prepared key state) = .error .unhashable := by
  unfold conclude at h
  split at h
  next => cases h
  next =>
    split_ifs at h
    split at h
    next => cases h
    next => cases h
    next hcreate => exact hcreate

theorem decoded_sanitized {continuation : ProviderContinuation} {state : ContinuationState}
    (h : decodeContinuation p continuation key = .ok state) : ∀ item ∈ state.historyItems, Sanitized item := by
  obtain ⟨payload, signature, -, -, hread⟩ := decode_ok h
  simp only [readPayload, check_bind_ok] at hread
  obtain ⟨_, -, hread⟩ := hread
  split at hread
  next =>
    simp only [check_bind_ok, check_pure_ok] at hread
    obtain ⟨_, -, _, -, history, hhistory, _, -, rfl⟩ := hread
    intro item hitem
    obtain ⟨_, -, hcheck⟩ := check_mapM_mem hhistory item hitem
    exact sanitized_of_ok hcheck
  next => cases hread

theorem messageItem_sanitized {message : ChatMessage} (h : message.role ≠ .tool) : Sanitized (messageItem message) := by
  refine .inputMessage ?_
  revert h
  cases message.role with
  | tool => exact fun h => absurd rfl h
  | _ => exact fun _ => by decide +kernel

/-- The history of a prepared request is sanitized. -/
theorem prepared_sanitized {prepared : PreparedRequest}
    (h : prepareRequest p request key = .ok (.ok prepared)) :
    ∀ item ∈ prepared.continuationHistory, Sanitized item := by
  simp only [prepareRequest, prepareMessages, check_bind_ok, check_pure_ok] at h
  obtain ⟨decoded, hdecoded, state, rfl, fingerprints, -, messages, -, _, hroles, _, -, rfl⟩ := h
  simp only [List.forall_mem_append, List.forall_mem_map]
  refine ⟨?_, fun message hmessage => messageItem_sanitized ?_⟩
  · unfold continuationState at hdecoded
    split at hdecoded
    next =>
      obtain rfl := Except.ok.inj (Except.ok.inj hdecoded)
      exact fun _ => nofun
    next =>
      split at hdecoded
      next state' hstate =>
        obtain rfl := Except.ok.inj (Except.ok.inj hdecoded)
        exact decoded_sanitized hstate
      next => cases Except.ok.inj hdecoded
      next => cases hdecoded
  · unfold permit at hroles
    split at hroles
    next hall => simpa using List.all_eq_true.mp hall message hmessage
    next => cases hroles

theorem prepareRequest_error {e : Refusal} (h : prepareRequest p request key = .error e) :
    ∃ continuation ∈ request.continuation, decodeContinuation p continuation key = .error .unhashable := by
  simp only [prepareRequest, check_bind_error, check_pure_error, and_false, exists_false, or_false] at h
  unfold continuationState at h
  split at h
  next => cases h
  next continuation hcontinuation =>
    split at h
    next => cases h
    next => cases h
    next hdecode => exact ⟨continuation, hcontinuation, hdecode⟩

/-- The history of a turn raises only where an item of the response does. -/
theorem conclude_raises {prepared : PreparedRequest} {e : Refusal}
    (hprepare : prepareRequest p request key = .ok (.ok prepared))
    (h : conclude p prepared key (exchangeAll p exchange).1 = .error e) :
    ∃ e ∈ exchange.events, ∃ item ∈ e.outputItems, Unhashable item := by
  obtain ⟨item, hitem, hraise⟩ := createContinuation_unhashable (conclude_error h)
  rcases List.mem_append.mp hitem with hhistory | houtput
  · have hsame := (prepared_sanitized hprepare item hhistory).same
    rw [hraise] at hsame
    cases hsame
  · obtain ⟨e, he, hout⟩ := exchangeAll_output exchange item houtput
    exact ⟨e, he, item, hout, unhashable_iff.mp hraise⟩

/-- The exception of the generator is that of an item of the output, unless decoding the continuation raises. -/
theorem generateStream_raised {adapter : Adapter}
    (h : (generateStream p adapter request exchange).completion = .raised) :
    (∃ continuation ∈ request.continuation, ∃ key ∈ adapter.continuationHmacKey,
        decodeContinuation p continuation key = .error .unhashable)
      ∨ ∃ e ∈ exchange.events, ∃ item ∈ e.outputItems, Unhashable item := by
  unfold generateStream at h
  split_ifs at h
  split at h
  next key hclosed hkey =>
    split at h
    next e hprepare =>
      obtain ⟨continuation, hcontinuation, hdecode⟩ := prepareRequest_error hprepare
      exact .inl ⟨continuation, hcontinuation, key, hkey, hdecode⟩
    next => cases h
    next prepared hprepare =>
      dsimp only at h
      split_ifs at h
      split at h
      next => cases h
      next e hconclude => exact .inr (conclude_raises hprepare hconclude)
  next => cases h

/-- A generator that returns has ended with a failure, if an item of its completion is rejected. -/
theorem generateStream_fails {adapter : Adapter} {item : Json}
    (hitem : ∃ e ∈ exchange.events, e.kind = .completed ∧ item ∈ e.outputItems)
    (hrejected : sanitizeHistoryItem item = .error .rejected)
    (h : (generateStream p adapter request exchange).completion = .returned) :
    ∃ code, (generateStream p adapter request exchange).yielded.getLast? = some (failure code) := by
  unfold generateStream at h ⊢
  split_ifs at h ⊢
  · exact ⟨_, rfl⟩
  · exact ⟨_, rfl⟩
  · split at h
    next key hclosed hkey =>
      split at h
      next => cases h
      next code hprepare => exact ⟨code, rfl⟩
      next prepared hprepare =>
        dsimp only at h ⊢
        split_ifs at h ⊢
        split at h
        next event hconclude =>
          dsimp only
          rw [List.getLast?_concat]
          rcases conclude_ok hconclude with ⟨code, rfl⟩ | ⟨hnone, continuation, hcreate⟩
          · exact ⟨code, rfl⟩
          · obtain ⟨e, he, hkind, hout⟩ := hitem
            rcases exchangeAll_completed (p := p) exchange with hfail | hcompleted
            · rw [hnone] at hfail
              cases hfail
            · rw [← hcompleted e he hkind] at hout
              obtain ⟨safe, hsafe⟩ := createContinuation_sanitizes hcreate item (List.mem_append_right _ hout)
              rw [hrejected] at hsafe
              cases hsafe
        next => cases h
    next => exact ⟨_, rfl⟩

end

/-! ## Every malformed item is answered -/

/-- An item of a response is sanitized or rejected; a generator whose completion has it among its output does not raise,
if nothing else makes it, and ends in a failure if the item is rejected. -/
structure Answered (p : Primitives) (item : Json) : Prop where
  sanitizer : (∃ safe, sanitizeHistoryItem item = .ok safe) ∨ sanitizeHistoryItem item = .error .rejected
  generator : ∀ adapter request exchange,
    (∀ continuation ∈ request.continuation, ∀ key ∈ adapter.continuationHmacKey,
      decodeContinuation p continuation key ≠ .error .unhashable) →
    (∃ e ∈ exchange.events, e.kind = .completed ∧ item ∈ e.outputItems) →
    (∀ e ∈ exchange.events, ∀ other ∈ e.outputItems, other = item ∨ ¬Unhashable other) →
    (generateStream p adapter request exchange).completion ≠ .raised ∧
      (sanitizeHistoryItem item = .error .rejected → (generateStream p adapter request exchange).completion = .returned →
        ∃ code, (generateStream p adapter request exchange).yielded.getLast? = some (failure code))

/-- An item is answered exactly if no hash is asked of it that it does not have. -/
theorem answered_iff (p : Primitives) (item : Json) : Answered p item ↔ ¬Unhashable item := by
  constructor
  · intro h hunhashable
    have hraise := unhashable_iff.mpr hunhashable
    rcases h.sanitizer with ⟨safe, hsafe⟩ | hrejected
    · cases hraise.symm.trans hsafe
    · cases hraise.symm.trans hrejected
  · intro h
    refine ⟨?_, fun adapter request exchange hdecode hitem hothers => ⟨fun hraised => ?_, fun hrejected hreturned =>
      generateStream_fails hitem hrejected hreturned⟩⟩
    · cases hsanitize : sanitizeHistoryItem item with
      | ok safe => exact .inl ⟨safe, rfl⟩
      | error e =>
        cases e with
        | rejected => exact .inr rfl
        | unhashable => exact absurd (unhashable_iff.mp hsanitize) h
    · rcases generateStream_raised hraised with ⟨continuation, hcontinuation, key, hkey, hraise⟩ | ⟨e, he, other, hother, hun⟩
      · exact hdecode continuation hcontinuation key hkey hraise
      · rcases hothers e he other hother with rfl | hnot
        · exact h hun
        · exact hnot hun

/-- A message of the assistant whose status is a list. -/
def listedStatus : Json :=
  .obj [(lit "content", .arr []), (lit "id", .str (lit "m")), (lit "role", .str (lit "assistant")), (lit "status", .arr []),
    (lit "type", .str (lit "message"))]

def askedAdapter : Adapter where
  capabilities := {}
  closed := false
  continuationHmacKey := some [1]

def askedRequest : LLMRequest where
  instructions := []
  messages := [⟨.user, lit "hi", by decide +kernel⟩]

def listedExchange : Exchange where
  events := [{ kind := .completed, rawType := lit "response.completed", outputItems := [listedStatus] }]

/-- A status that is a list is not rejected: the exception escapes from the generator. -/
theorem listed_status_escapes : sanitizeHistoryItem listedStatus = .error .unhashable
    ∧ ¬Answered greetingPrimitives listedStatus
    ∧ generateStream greetingPrimitives askedAdapter askedRequest listedExchange = ⟨[], .raised⟩ := by
  have hraise : sanitizeHistoryItem listedStatus = .error .unhashable := by
    refine unhashable_iff.mpr ⟨by decide +kernel, _, rfl, .messageStatus ?_ ?_ ?_ ?_ ?_⟩
    · decide +kernel
    · decide +kernel
    · decide +kernel
    · decide +kernel
    · have hstatus : member [(lit "content", .arr []), (lit "id", .str (lit "m")), (lit "role", .str (lit "assistant")),
          (lit "status", .arr []), (lit "type", .str (lit "message"))] "status" = .arr [] := by
        simp [member_cons]
      rw [hstatus]
      trivial
  refine ⟨hraise, fun h => ?_, ?_⟩
  · rcases h.sanitizer with ⟨safe, hsafe⟩ | hrejected
    · cases hraise.symm.trans hsafe
    · cases hraise.symm.trans hrejected
  · have hcompletion : (generateStream greetingPrimitives askedAdapter askedRequest listedExchange).completion = .raised
        ∧ (generateStream greetingPrimitives askedAdapter askedRequest listedExchange).yielded.length = 0 := by
      decide +kernel
    rcases hgenerated : generateStream greetingPrimitives askedAdapter askedRequest listedExchange with ⟨yielded, completion⟩
    rw [hgenerated] at hcompletion
    obtain ⟨rfl, hlength⟩ := hcompletion
    obtain rfl := List.length_eq_zero_iff.mp hlength
    rfl

end ArkClaw.Provider.OpenAI
