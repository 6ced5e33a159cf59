import ArkClaw.Library.Checks
import ArkClaw.Library.JsonDict
import ArkClaw.Provider.OpenAIContinuation

/-!
# What the sanitizer makes of an item

`Sanitized` lists the forms of an item that the sanitizer returns. Each of them is returned unchanged, and is read back
from its compact form if the surrogates of its texts do not join.
-/

namespace ArkClaw.Provider.OpenAI

open ArkClaw.Library ArkClaw.Domain

/-! ## Looking into a dictionary -/

theorem require_ok {p : Prop} [Decidable p] {u : Unit} : require p = .ok u ↔ p := by
  unfold require
  split <;> simp [*]

theorem isText_iff {value : Json} {s : String} : IsText value s ↔ value = .str (lit s) := by
  cases value <;> simp [IsText]

theorem text_ok {value : Json} {s : Text} : text value = .ok s ↔ value = .str s := by
  cases value <;> simp [text]

theorem nonemptyText_ok {value : Json} {s : Text} : nonemptyText value = .ok s ↔ value = .str s ∧ s ≠ [] := by
  cases value with
  | str t =>
    rw [nonemptyText, Json.str.injEq]
    split
    next ht =>
      subst ht
      simp only [reduceCtorEq, false_iff, not_and, not_not]
      exact Eq.symm
    next ht =>
      rw [Except.ok.injEq, iff_self_and]
      rintro rfl
      exact ht
  | _ => simp [nonemptyText]

theorem oneOf_ok {values : List Text} {value : Json} {s : Text} :
    oneOf values value = .ok s ↔ value = .str s ∧ s ∈ values := by
  cases value with
  | str t =>
    rw [oneOf, Json.str.injEq]
    split
    next ht =>
      rw [Except.ok.injEq, iff_self_and]
      rintro rfl
      exact ht
    next ht =>
      simp only [reduceCtorEq, false_iff, not_and]
      rintro rfl
      exact ht
  | _ => simp [oneOf]

theorem optional_ok {check : Json → Sanitizer Text} {value : Json} {o : Option Text} :
    optional check value = .ok o ↔ (value = .null ∧ o = none) ∨ (value ≠ .null ∧ ∃ s, check value = .ok s ∧ o = some s) := by
  by_cases hnull : value = .null
  · subst hnull
    simp [optional, eq_comm]
  · have hcheck : optional check value = check value >>= fun s => pure (some s) := by
      cases value <;> first | rfl | exact absurd rfl hnull
    simp only [hcheck, check_bind_ok, check_pure_ok, hnull, false_and, false_or, ne_eq, not_false_eq_true, true_and]
    exact exists_congr fun s => and_congr_right' eq_comm

/-- A text that may be absent is taken as it is. -/
theorem optional_str {check : Json → Sanitizer Text} {o : Option Text} (h : ∀ s ∈ o, check (.str s) = .ok s) :
    optional check ((o.map Json.str).getD .null) = .ok o := by
  cases o with
  | none => rfl
  | some s => exact optional_ok.mpr (.inr ⟨nofun, s, h s rfl, rfl⟩)

theorem member_nil (key : String) : member [] key = .null := rfl

theorem member_cons (k key : String) (value : Json) (rest : Json.Members) :
    member ((lit k, value) :: rest) key = if k = key then value else member rest key := by
  by_cases hk : k = key <;> simp [member, Json.Members.get?, hk]

theorem member_optional (k key : String) (value : Option Json) (rest : Json.Members) :
    member (optionalMember k value ++ rest) key = if k = key then value.getD (member rest key) else member rest key := by
  cases value with
  | none => simp [optionalMember]
  | some v => simp [optionalMember, member_cons]

theorem member_optional_nil (k key : String) (value : Option Json) :
    member (optionalMember k value) key = if k = key then value.getD .null else .null := by
  rw [← List.append_nil (optionalMember k value), member_optional, member_nil]

variable {keys : List String} {required others : List String} {partType : String}

theorem hasOnly_perm {members members' : Json.Members} (hperm : members.Perm members') :
    HasOnly keys members ↔ HasOnly keys members' :=
  ⟨fun h m hm => h m (hperm.mem_iff.mpr hm), fun h m hm => h m (hperm.mem_iff.mp hm)⟩

theorem hasAll_perm {members members' : Json.Members} (hperm : members.Perm members') :
    HasAll keys members ↔ HasAll keys members' :=
  forall₂_congr fun _ _ => (hperm.map Prod.fst).mem_iff

section

variable {members : Json.Members}

/-- The members of the dictionary, in the order of their keys. -/
abbrev sorted (members : Json.Members) : Json.Members := members.insertionSort Json.KeyLE

theorem member_sorted (hkeys : (members.map Prod.fst).Nodup) (key : String) :
    member (sorted members) key = member members key := by
  rw [member, Json.Members.get?_perm (Json.perm_dict members) _, member]
  exact ((Json.perm_dict members).map Prod.fst).nodup_iff.mpr hkeys

theorem hasOnly_sorted {keys : List String} : HasOnly keys (sorted members) ↔ HasOnly keys members :=
  hasOnly_perm (Json.perm_dict members)

theorem hasAll_sorted {keys : List String} : HasAll keys (sorted members) ↔ HasAll keys members :=
  hasAll_perm (Json.perm_dict members)

theorem hasExactly_sorted {keys : List String} : HasExactly keys (sorted members) ↔ HasExactly keys members :=
  and_congr hasOnly_sorted hasAll_sorted

end

/-! ## The forms of an item -/

def inputMessageMembers (role content : Text) : Json.Members := [(lit "content", .str content), (lit "role", .str role)]

def outputMessageMembers (content : List Json) (id status : Text) (phase : Option Text) : Json.Members :=
  [(lit "content", .arr content), (lit "id", .str id), (lit "role", .str (lit "assistant")), (lit "status", .str status),
    (lit "type", .str (lit "message"))] ++ optionalMember "phase" (phase.map .str)

def reasoningMembers (id : Text) (summary : List Json) (content : Option (List Json)) (encrypted status : Option Text) :
    Json.Members :=
  [(lit "id", .str id), (lit "summary", .arr summary), (lit "type", .str (lit "reasoning"))]
    ++ optionalMember "content" (content.map .arr) ++ optionalMember "encrypted_content" (encrypted.map .str)
    ++ optionalMember "status" (status.map .str)

def functionCallMembers (arguments callId name : Text) (id : Option Text) (caller : Option Json)
    («namespace» status : Option Text) : Json.Members :=
  [(lit "arguments", .str arguments), (lit "call_id", .str callId), (lit "name", .str name),
    (lit "type", .str (lit "function_call"))] ++ optionalMember "id" (id.map .str) ++ optionalMember "caller" caller
    ++ optionalMember "namespace" («namespace».map .str) ++ optionalMember "status" (status.map .str)

def textPartMembers (partType : String) (content : Text) : Json.Members :=
  [(lit "text", .str content), (lit "type", .str (lit partType))]

def outputTextMembers (content : Text) : Json.Members :=
  [(lit "annotations", .arr []), (lit "text", .str content), (lit "type", .str (lit "output_text"))]

def refusalMembers (content : Text) : Json.Members :=
  [(lit "refusal", .str content), (lit "type", .str (lit "refusal"))]

def directMembers : Json.Members := [(lit "type", .str (lit "direct"))]

def programMembers (callerId : Text) : Json.Members :=
  [(lit "caller_id", .str callerId), (lit "type", .str (lit "program"))]

inductive SanitizedPart : Json → Prop
  | outputText (content : Text) : SanitizedPart (.dict (outputTextMembers content))
  | refusal (content : Text) : SanitizedPart (.dict (refusalMembers content))

inductive SanitizedTextPart (partType : String) : Json → Prop
  | mk (content : Text) : SanitizedTextPart partType (.dict (textPartMembers partType content))

inductive SanitizedCaller : Json → Prop
  | direct : SanitizedCaller (.dict directMembers)
  | program {callerId : Text} (h : callerId ≠ []) : SanitizedCaller (.dict (programMembers callerId))

inductive Sanitized : Json → Prop
  | inputMessage {role content : Text} (hrole : role ∈ messageRoles) : Sanitized (.dict (inputMessageMembers role content))
  | outputMessage {content : List Json} {id status : Text} {phase : Option Text}
    (hcontent : ∀ part ∈ content, SanitizedPart part) (hid : id ≠ []) (hstatus : status ∈ outputStatuses)
    (hphase : ∀ s ∈ phase, s ∈ [lit "commentary", lit "final_answer"]) :
    Sanitized (.dict (outputMessageMembers content id status phase))
  | reasoning {id : Text} {summary : List Json} {content : Option (List Json)} {encrypted status : Option Text}
    (hid : id ≠ []) (hsummary : ∀ part ∈ summary, SanitizedTextPart "summary_text" part)
    (hcontent : ∀ parts ∈ content, ∀ part ∈ parts, SanitizedTextPart "reasoning_text" part)
    (hstatus : ∀ s ∈ status, s ∈ outputStatuses) : Sanitized (.dict (reasoningMembers id summary content encrypted status))
  | functionCall {arguments callId name : Text} {id : Option Text} {caller : Option Json} {«namespace» status : Option Text}
    (hcallId : callId ≠ []) (hname : name ≠ []) (hid : ∀ s ∈ id, s ≠ []) (hcaller : ∀ c ∈ caller, SanitizedCaller c)
    (hnamespace : ∀ s ∈ «namespace», s ≠ []) (hstatus : ∀ s ∈ status, s ∈ outputStatuses) :
    Sanitized (.dict (functionCallMembers arguments callId name id caller «namespace» status))

/-- The members have these keys and, behind them, some of the others. -/
structure HasKeys (required others : List String) (members : Json.Members) : Prop where
  only : (members.map Prod.fst).Sublist ((required ++ others).map lit)
  all : (required.map lit).Sublist (members.map Prod.fst)

theorem HasKeys.of_eq {members : Json.Members} (h : members.map Prod.fst = keys.map lit) :
    HasKeys keys [] members := by
  refine ⟨?_, ?_⟩
  · rw [List.append_nil, h]
  · rw [h]

theorem HasKeys.optional {members : Json.Members} (h : HasKeys required others members)
    (key : String) (value : Option Json) : HasKeys required (others ++ [key]) (members ++ optionalMember key value) := by
  have hoptional : ((optionalMember key value).map Prod.fst).Sublist ([key].map lit) := by
    cases value with
    | none => exact List.nil_sublist _
    | some v => exact List.Sublist.refl _
  refine ⟨?_, ?_⟩
  · rw [List.map_append, ← List.append_assoc, List.map_append]
    exact h.only.append hoptional
  · rw [List.map_append]
    exact h.all.trans (List.sublist_append_left _ _)

theorem HasKeys.nodup {members : Json.Members} (h : HasKeys required others members)
    (hkeys : (required ++ others).Nodup) : (members.map Prod.fst).Nodup :=
  (hkeys.map fun _ _ => lit_inj.mp).sublist h.only

theorem HasKeys.hasOnly {required others allowed : List String} {members : Json.Members}
    (h : HasKeys required others members) (hallowed : required ++ others ⊆ allowed) : HasOnly allowed members :=
  fun _ hm => List.map_subset lit hallowed (h.only.subset (List.mem_map_of_mem hm))

theorem HasKeys.hasAll {members : Json.Members} (h : HasKeys required others members) :
    HasAll required members := fun _ hkey => h.all.subset (List.mem_map_of_mem hkey)

theorem HasKeys.hasExactly {members : Json.Members} (h : HasKeys keys [] members) :
    HasExactly keys members := ⟨h.hasOnly (by rw [List.append_nil]; exact List.Subset.refl _), h.hasAll⟩

theorem keys_inputMessage {role content : Text} : HasKeys ["content", "role"] [] (inputMessageMembers role content) :=
  .of_eq rfl

theorem keys_outputMessage {content : List Json} {id status : Text} {phase : Option Text} :
    HasKeys ["content", "id", "role", "status", "type"] ["phase"] (outputMessageMembers content id status phase) :=
  .optional (.of_eq rfl) _ _

theorem keys_reasoning {id : Text} {summary : List Json} {content : Option (List Json)} {encrypted status : Option Text} :
    HasKeys ["id", "summary", "type"] ["content", "encrypted_content", "status"]
      (reasoningMembers id summary content encrypted status) :=
  .optional (.optional (.optional (.of_eq rfl) _ _) _ _) _ _

theorem keys_functionCall {arguments callId name : Text} {id : Option Text} {caller : Option Json}
    {«namespace» status : Option Text} :
    HasKeys ["arguments", "call_id", "name", "type"] ["id", "caller", "namespace", "status"]
      (functionCallMembers arguments callId name id caller «namespace» status) :=
  .optional (.optional (.optional (.optional (.of_eq rfl) _ _) _ _) _ _) _ _

theorem keys_outputText {content : Text} : HasKeys ["annotations", "text", "type"] [] (outputTextMembers content) :=
  .of_eq rfl

theorem keys_refusal {content : Text} : HasKeys ["refusal", "type"] [] (refusalMembers content) := .of_eq rfl

theorem keys_textPart {content : Text} : HasKeys ["text", "type"] [] (textPartMembers partType content) :=
  .of_eq rfl

theorem keys_direct : HasKeys ["type"] [] directMembers := .of_eq rfl

theorem keys_program {callerId : Text} : HasKeys ["caller_id", "type"] [] (programMembers callerId) := .of_eq rfl

/-! ## What is returned has one of the forms -/

/-- What is not a plain rejection is what the sanitizer of the item's form answers. -/
theorem sanitizeHistoryItem_eq {value : Json} {answer : Sanitizer Json} (hanswer : answer ≠ .error .rejected) :
    sanitizeHistoryItem value = answer ↔ isDomainJson 0 value = true ∧ ∃ item, value = .obj item ∧
      (member item "type" = .null ∧ sanitizeInputMessage item = answer
        ∨ IsText (member item "type") "message" ∧ sanitizeOutputMessage item = answer
        ∨ IsText (member item "type") "reasoning" ∧ sanitizeReasoningItem item = answer
        ∨ IsText (member item "type") "function_call" ∧ sanitizeFunctionCall item = answer) := by
  unfold sanitizeHistoryItem normalizeDomainJson require
  by_cases hdomain : isDomainJson 0 value = true
  · rw [if_pos hdomain]
    simp only [hdomain, true_and]
    constructor
    · intro h
      cases value with
      | obj item =>
        refine ⟨item, rfl, ?_⟩
        simp only [bind, Except.bind, pure, Except.pure] at h
        split at h
        next htype => exact .inl ⟨htype, h⟩
        next itemType htype =>
          split_ifs at h with hmessage hreasoning hcall
          · exact .inr (.inl ⟨hmessage, h⟩)
          · exact .inr (.inr (.inl ⟨hreasoning, h⟩))
          · exact .inr (.inr (.inr ⟨hcall, h⟩))
          · exact absurd h.symm hanswer
      | _ => exact absurd h.symm hanswer
    · rintro ⟨item, rfl, h⟩
      simp only [bind, Except.bind, pure, Except.pure]
      simp only [isText_iff] at h
      rcases h with ⟨htype, h⟩ | ⟨htype, h⟩ | ⟨htype, h⟩ | ⟨htype, h⟩
      · simp only [htype, h]
      · simp only [htype, isText_iff, if_true, h]
      · simpa only [htype, isText_iff, Json.str.injEq, lit_inj, String.reduceEq, if_false, if_true] using h
      · simpa only [htype, isText_iff, Json.str.injEq, lit_inj, String.reduceEq, if_false, if_true] using h
  · rw [if_neg hdomain]
    exact ⟨fun h => absurd (Eq.symm h) hanswer, fun h => absurd h.1 hdomain⟩

theorem answer_ne (result : Json) : (Except.ok result : Sanitizer Json) ≠ .error .rejected := nofun

theorem sanitizeContentPart_form {part result : Json} (h : sanitizeContentPart part = .ok result) : SanitizedPart result := by
  unfold sanitizeContentPart at h
  split at h
  next part =>
    split_ifs at h
    · simp only [check_bind_ok, check_pure_ok] at h
      obtain ⟨_, -, content, -, _, -, rfl⟩ := h
      exact .outputText content
    · simp only [check_bind_ok, check_pure_ok] at h
      obtain ⟨_, -, content, -, rfl⟩ := h
      exact .refusal content
  next => cases h

theorem sanitizeContent_form {value : Json} {parts : List Json} (h : sanitizeContent value = .ok parts) :
    ∀ part ∈ parts, SanitizedPart part := by
  unfold sanitizeContent at h
  split at h
  next =>
    intro part hpart
    obtain ⟨_, -, hcheck⟩ := check_mapM_mem h part hpart
    exact sanitizeContentPart_form hcheck
  next => cases h

theorem sanitizeTextParts_form {value : Json} {parts : List Json}
    (h : sanitizeTextParts partType value = .ok parts) : ∀ part ∈ parts, SanitizedTextPart partType part := by
  unfold sanitizeTextParts at h
  split at h
  next =>
    intro part hpart
    obtain ⟨raw, -, hcheck⟩ := check_mapM_mem h part hpart
    unfold sanitizeTextPart at hcheck
    split at hcheck
    next =>
      simp only [check_bind_ok, check_pure_ok] at hcheck
      obtain ⟨_, -, content, -, rfl⟩ := hcheck
      exact .mk content
    next => cases hcheck
  next => cases h

theorem sanitizeReasoningContent_form {value : Json} {content : Option (List Json)}
    (h : sanitizeReasoningContent value = .ok content) :
    ∀ parts ∈ content, ∀ part ∈ parts, SanitizedTextPart "reasoning_text" part := by
  unfold sanitizeReasoningContent at h
  split at h
  next =>
    obtain rfl := Except.ok.inj h
    nofun
  next =>
    simp only [check_bind_ok, check_pure_ok] at h
    obtain ⟨parts, hparts, rfl⟩ := h
    rintro _ ⟨⟩
    exact sanitizeTextParts_form hparts

theorem sanitizeCaller_form {value : Json} {caller : Option Json} (h : sanitizeCaller value = .ok caller) :
    ∀ c ∈ caller, SanitizedCaller c := by
  unfold sanitizeCaller at h
  split at h
  next =>
    obtain rfl := Except.ok.inj h
    nofun
  next =>
    split at h
    next caller hcaller =>
      obtain rfl := Except.ok.inj h
      rintro _ ⟨⟩
      unfold sanitizeFunctionCaller at hcaller
      split at hcaller
      next =>
        split_ifs at hcaller
        · obtain rfl := Option.some.inj hcaller
          exact .direct
        · split at hcaller
          next callerId hid =>
            obtain rfl := Option.some.inj hcaller
            exact .program (nonemptyText_ok.mp hid).2
          next => cases hcaller
      next => cases hcaller
    next => cases h

theorem optional_form {check : Json → Sanitizer Text} {P : Text → Prop} {value : Json} {o : Option Text}
    (hcheck : ∀ v s, check v = .ok s → P s) (h : optional check value = .ok o) : ∀ s ∈ o, P s := by
  rcases optional_ok.mp h with ⟨-, rfl⟩ | ⟨-, s, hs, rfl⟩
  · nofun
  · rintro _ ⟨⟩
    exact hcheck value s hs

/-- What is returned is sanitized. -/
theorem sanitized_of_ok {value result : Json} (h : sanitizeHistoryItem value = .ok result) : Sanitized result := by
  obtain ⟨-, item, rfl, ⟨-, h⟩ | ⟨-, h⟩ | ⟨-, h⟩ | ⟨-, h⟩⟩ := (sanitizeHistoryItem_eq (answer_ne _)).mp h
  · simp only [sanitizeInputMessage, check_bind_ok, check_pure_ok, oneOf_ok] at h
    obtain ⟨_, -, role, ⟨-, hrole⟩, content, -, rfl⟩ := h
    exact .inputMessage hrole
  · simp only [sanitizeOutputMessage, check_bind_ok, check_pure_ok, oneOf_ok, nonemptyText_ok] at h
    obtain ⟨_, -, status, ⟨-, hstatus⟩, id, ⟨-, hid⟩, phase, hphase, content, hcontent, rfl⟩ := h
    exact .outputMessage (sanitizeContent_form hcontent) hid hstatus
      (optional_form (fun _ _ hs => (oneOf_ok.mp hs).2) hphase)
  · simp only [sanitizeReasoningItem, check_bind_ok, check_pure_ok, nonemptyText_ok] at h
    obtain ⟨_, -, id, ⟨-, hid⟩, summary, hsummary, content, hcontent, encrypted, -, status, hstatus, rfl⟩ := h
    exact .reasoning hid (sanitizeTextParts_form hsummary) (sanitizeReasoningContent_form hcontent)
      (optional_form (fun _ _ hs => (oneOf_ok.mp hs).2) hstatus)
  · simp only [sanitizeFunctionCall, check_bind_ok, check_pure_ok, nonemptyText_ok] at h
    obtain ⟨_, -, arguments, -, callId, ⟨-, hcallId⟩, name, ⟨-, hname⟩, id, hid, caller, hcaller, «namespace»,
      hnamespace, status, hstatus, rfl⟩ := h
    exact .functionCall hcallId hname (optional_form (fun _ _ hs => (nonemptyText_ok.mp hs).2) hid)
      (sanitizeCaller_form hcaller) (optional_form (fun _ _ hs => (nonemptyText_ok.mp hs).2) hnamespace)
      (optional_form (fun _ _ hs => (oneOf_ok.mp hs).2) hstatus)

/-! ## The forms are domain values -/

theorem areDomainJson_iff {depth : Nat} {items : List Json} :
    areDomainJson depth items = true ↔ ∀ item ∈ items, isDomainJson depth item = true := by
  induction items with
  | nil => simp [areDomainJson]
  | cons item rest ih => simp [areDomainJson, ih]

theorem areDomainMembers_iff {depth : Nat} {members : Json.Members} :
    areDomainMembers depth members = true ↔ ∀ m ∈ members, isDomainJson depth m.2 = true := by
  induction members with
  | nil => simp [areDomainMembers]
  | cons m rest ih => simp only [areDomainMembers, Bool.and_eq_true, ih, List.forall_mem_cons]

theorem isDomainJson_arr {depth : Nat} {items : List Json} :
    isDomainJson depth (.arr items) = true ↔ depth ≤ 32 ∧ ∀ item ∈ items, isDomainJson (depth + 1) item = true := by
  rw [isDomainJson, Bool.and_eq_true, decide_eq_true_eq, areDomainJson_iff]

theorem isDomainJson_dict {depth : Nat} {members : Json.Members} :
    isDomainJson depth (.dict members) = true ↔ depth ≤ 32 ∧ ∀ m ∈ members, isDomainJson (depth + 1) m.2 = true := by
  rw [Json.dict, isDomainJson, Bool.and_eq_true, decide_eq_true_eq, areDomainMembers_iff]
  refine and_congr_right' (forall_congr' fun m => ?_)
  rw [(Json.perm_dict members).mem_iff]

theorem isDomainJson_of_textTree {n depth : Nat} {value : Json} (h : Json.TextTree n value) (hdepth : depth + n ≤ 32) :
    isDomainJson depth value = true := by
  induction h generalizing depth with
  | str value => exact decide_eq_true (by omega)
  | arr h ih => exact isDomainJson_arr.mpr ⟨by omega, fun item hitem => ih item hitem (by omega)⟩
  | dict hkeys h ih => exact isDomainJson_dict.mpr ⟨by omega, fun m hm => ih m hm (by omega)⟩

theorem forall_mem_optionalMember {P : Text × Json → Prop} {key : String} {value : Option Json} :
    (∀ m ∈ optionalMember key value, P m) ↔ ∀ v ∈ value, P (lit key, v) := by
  cases value <;> simp [optionalMember]

theorem textTree_texts {n : Nat} (o : Option Text) : ∀ v ∈ o.map Json.str, Json.TextTree n v := by
  intro v hv
  obtain ⟨s, -, rfl⟩ := Option.map_eq_some_iff.mp hv
  exact .str s

theorem SanitizedTextPart.textTree {part : Json} (h : SanitizedTextPart partType part) :
    Json.TextTree 2 part := by
  obtain ⟨content⟩ := h
  refine .dict (keys_textPart.nodup (by decide)) ?_
  simp only [textPartMembers, List.forall_mem_cons]
  exact ⟨.str _, .str _, nofun⟩

theorem SanitizedPart.textTree {part : Json} (h : SanitizedPart part) : Json.TextTree 2 part := by
  cases h with
  | outputText content =>
    refine .dict (keys_outputText.nodup (by decide)) ?_
    simp only [outputTextMembers, List.forall_mem_cons]
    exact ⟨.arr nofun, .str _, .str _, nofun⟩
  | refusal content =>
    refine .dict (keys_refusal.nodup (by decide)) ?_
    simp only [refusalMembers, List.forall_mem_cons]
    exact ⟨.str _, .str _, nofun⟩

theorem SanitizedCaller.textTree {caller : Json} (h : SanitizedCaller caller) {n : Nat} : Json.TextTree (n + 1) caller := by
  cases h with
  | direct => exact .dict (keys_direct.nodup (by decide)) (List.forall_mem_singleton.mpr (.str _))
  | program h =>
    refine .dict (keys_program.nodup (by decide)) ?_
    simp only [programMembers, List.forall_mem_cons]
    exact ⟨.str _, .str _, nofun⟩

/-- A sanitized item holds texts, four deep at most. -/
theorem Sanitized.textTree {value : Json} (h : Sanitized value) : Json.TextTree 4 value := by
  cases h with
  | inputMessage hrole =>
    refine .dict (keys_inputMessage.nodup (by decide)) ?_
    simp only [inputMessageMembers, List.forall_mem_cons]
    exact ⟨.str _, .str _, nofun⟩
  | outputMessage hcontent hid hstatus hphase =>
    refine .dict (keys_outputMessage.nodup (by decide)) ?_
    simp only [outputMessageMembers, List.forall_mem_append, List.forall_mem_cons, forall_mem_optionalMember]
    exact ⟨⟨.arr fun part hpart => (hcontent part hpart).textTree, .str _, .str _, .str _, .str _, nofun⟩,
      textTree_texts _⟩
  | reasoning hid hsummary hcontent hstatus =>
    refine .dict (keys_reasoning.nodup (by decide)) ?_
    simp only [reasoningMembers, List.forall_mem_append, List.forall_mem_cons, forall_mem_optionalMember]
    refine ⟨⟨⟨⟨.str _, .arr fun part hpart => (hsummary part hpart).textTree, .str _, nofun⟩, ?_⟩, textTree_texts _⟩,
      textTree_texts _⟩
    intro v hv
    obtain ⟨parts, hparts, rfl⟩ := Option.map_eq_some_iff.mp hv
    exact .arr fun part hpart => (hcontent parts hparts part hpart).textTree
  | functionCall hcallId hname hid hcaller hnamespace hstatus =>
    refine .dict (keys_functionCall.nodup (by decide)) ?_
    simp only [functionCallMembers, List.forall_mem_append, List.forall_mem_cons, forall_mem_optionalMember]
    exact ⟨⟨⟨⟨⟨.str _, .str _, .str _, .str _, nofun⟩, textTree_texts _⟩, fun c hc => (hcaller c hc).textTree⟩,
      textTree_texts _⟩, textTree_texts _⟩

/-! ## A sanitized item is returned unchanged -/

theorem SanitizedPart.same {part : Json} (h : SanitizedPart part) : sanitizeContentPart part = .ok part := by
  cases h with
  | outputText content =>
    have hmember := member_sorted (@keys_outputText content |>.nodup (by decide))
    have htype : IsText (member (sorted (outputTextMembers content)) "type") "output_text" := by
      rw [hmember, isText_iff]
      simp [outputTextMembers, member_cons]
    rw [Json.dict, sanitizeContentPart, if_pos htype]
    simp only [check_bind_ok, require_ok, text_ok, hmember]
    refine ⟨(), ⟨hasOnly_sorted.mpr (keys_outputText.hasOnly (by decide)), hasAll_sorted.mpr keys_outputText.hasAll⟩,
      content, ?_, (), ?_, rfl⟩
    · simp [outputTextMembers, member_cons]
    · simp [outputTextMembers, member_cons, member_nil, hasNoLogprobs, annotationsAreKnown]
  | refusal content =>
    have hmember := member_sorted (@keys_refusal content |>.nodup (by decide))
    have htype : member (sorted (refusalMembers content)) "type" = .str (lit "refusal") := by
      rw [hmember]
      simp [refusalMembers, member_cons]
    have hother : ¬IsText (member (sorted (refusalMembers content)) "type") "output_text" := by
      simp [isText_iff, htype]
    rw [Json.dict, sanitizeContentPart, if_neg hother]
    simp only [check_bind_ok, require_ok, text_ok]
    refine ⟨(), ⟨isText_iff.mpr htype, hasExactly_sorted.mpr keys_refusal.hasExactly⟩, content, ?_, rfl⟩
    rw [hmember]
    simp [refusalMembers, member_cons]

theorem SanitizedTextPart.same {part : Json} (h : SanitizedTextPart partType part) :
    sanitizeTextPart partType part = .ok part := by
  obtain ⟨content⟩ := h
  have hmember := member_sorted (@keys_textPart partType content |>.nodup (by decide))
  simp only [Json.dict, sanitizeTextPart, check_bind_ok, require_ok, text_ok, hmember]
  refine ⟨(), ⟨hasExactly_sorted.mpr keys_textPart.hasExactly, ?_⟩, content, ?_, rfl⟩ <;>
  simp [textPartMembers, member_cons, isText_iff]

theorem SanitizedCaller.same {caller : Json} (h : SanitizedCaller caller) : sanitizeFunctionCaller caller = some caller := by
  cases h with
  | direct =>
    have hmember := member_sorted (keys_direct.nodup (by decide))
    have htype : IsText (member (sorted directMembers) "type") "direct" := by
      rw [hmember, isText_iff]
      simp [directMembers, member_cons]
    rw [Json.dict, sanitizeFunctionCaller, if_pos ⟨htype, hasExactly_sorted.mpr keys_direct.hasExactly⟩]
    rfl
  | @program callerId hid =>
    have hmember := member_sorted (@keys_program callerId |>.nodup (by decide))
    have htype : member (sorted (programMembers callerId)) "type" = .str (lit "program") := by
      rw [hmember]
      simp [programMembers, member_cons]
    have hcaller : nonemptyText (member (sorted (programMembers callerId)) "caller_id") = .ok callerId := by
      refine nonemptyText_ok.mpr ⟨?_, hid⟩
      rw [hmember]
      simp [programMembers, member_cons]
    have hother : ¬(IsText (member (sorted (programMembers callerId)) "type") "direct"
        ∧ HasExactly ["type"] (sorted (programMembers callerId))) := by
      simp [isText_iff, htype]
    rw [Json.dict, sanitizeFunctionCaller, if_neg hother,
      if_pos ⟨isText_iff.mpr htype, hasExactly_sorted.mpr keys_program.hasExactly⟩, hcaller]
    rfl

theorem sanitizeTextParts_same {parts : List Json}
    (h : ∀ part ∈ parts, SanitizedTextPart partType part) : sanitizeTextParts partType (.arr parts) = .ok parts :=
  check_mapM_id fun part hpart => (h part hpart).same

theorem sanitizeReasoningContent_same {content : Option (List Json)}
    (h : ∀ parts ∈ content, ∀ part ∈ parts, SanitizedTextPart "reasoning_text" part) :
    sanitizeReasoningContent ((content.map Json.arr).getD .null) = .ok content := by
  cases content with
  | none => rfl
  | some parts =>
    show (sanitizeTextParts "reasoning_text" (.arr parts) >>= fun parts => pure (some parts)) = _
    rw [sanitizeTextParts_same (h parts rfl)]
    rfl

theorem sanitizeCaller_same {caller : Option Json} (h : ∀ c ∈ caller, SanitizedCaller c) :
    sanitizeCaller (caller.getD .null) = .ok caller := by
  cases caller with
  | none => rfl
  | some c =>
    have hsame := (h c rfl).same
    have hnull : c ≠ .null := by
      rintro rfl
      cases hsame
    rw [Option.getD_some, sanitizeCaller, hsame]
    exact hnull

section

variable {content : List Json} {id status : Text} {phase : Option Text}

theorem sanitizeOutputMessage_same (hcontent : ∀ part ∈ content, SanitizedPart part) (hid : id ≠ [])
    (hstatus : status ∈ outputStatuses) (hphase : ∀ s ∈ phase, s ∈ [lit "commentary", lit "final_answer"]) :
    sanitizeOutputMessage (sorted (outputMessageMembers content id status phase)) =
      .ok (.dict (outputMessageMembers content id status phase)) := by
  have hmember := member_sorted (@keys_outputMessage content id status phase |>.nodup (by decide))
  have hphaseMember : member (outputMessageMembers content id status phase) "phase" = (phase.map Json.str).getD .null := by
    simp [outputMessageMembers, member_cons, member_optional_nil]
  have hcontentMember : member (outputMessageMembers content id status phase) "content" = .arr content := by
    simp [outputMessageMembers, member_cons]
  simp only [sanitizeOutputMessage, check_bind_ok, require_ok, oneOf_ok, nonemptyText_ok, hmember, hphaseMember,
    hcontentMember]
  refine ⟨(), ⟨hasOnly_sorted.mpr (keys_outputMessage.hasOnly (by decide)),
    hasAll_sorted.mpr keys_outputMessage.hasAll, ?_, ?_⟩, status, ⟨?_, hstatus⟩, id, ⟨?_, hid⟩, phase, ?_, content, ?_, rfl⟩
  · simp [outputMessageMembers, member_cons, isText_iff]
  · simp [outputMessageMembers, member_cons, isText_iff]
  · simp [outputMessageMembers, member_cons]
  · simp [outputMessageMembers, member_cons]
  · exact optional_str fun s hs => oneOf_ok.mpr ⟨rfl, hphase s hs⟩
  · exact check_mapM_id fun part hpart => (hcontent part hpart).same

end

section

variable {id : Text} {summary : List Json} {content : Option (List Json)} {encrypted status : Option Text}

theorem sanitizeReasoningItem_same (hid : id ≠ []) (hsummary : ∀ part ∈ summary, SanitizedTextPart "summary_text" part)
    (hcontent : ∀ parts ∈ content, ∀ part ∈ parts, SanitizedTextPart "reasoning_text" part)
    (hstatus : ∀ s ∈ status, s ∈ outputStatuses) :
    sanitizeReasoningItem (sorted (reasoningMembers id summary content encrypted status)) =
      .ok (.dict (reasoningMembers id summary content encrypted status)) := by
  have hkeys := @keys_reasoning id summary content encrypted status
  have hmember := member_sorted (hkeys.nodup (by decide))
  have hsummaryMember : member (reasoningMembers id summary content encrypted status) "summary" = .arr summary := by
    simp [reasoningMembers, member_cons]
  have hcontentMember : member (reasoningMembers id summary content encrypted status) "content" =
      (content.map Json.arr).getD .null := by
    simp [reasoningMembers, member_cons, member_optional, member_optional_nil]
  have hencryptedMember : member (reasoningMembers id summary content encrypted status) "encrypted_content" =
      (encrypted.map Json.str).getD .null := by
    simp [reasoningMembers, member_cons, member_optional, member_optional_nil]
  have hstatusMember : member (reasoningMembers id summary content encrypted status) "status" =
      (status.map Json.str).getD .null := by
    simp [reasoningMembers, member_cons, member_optional, member_optional_nil]
  simp only [sanitizeReasoningItem, check_bind_ok, require_ok, nonemptyText_ok, hmember, hsummaryMember, hcontentMember,
    hencryptedMember, hstatusMember]
  refine ⟨(), ⟨hasOnly_sorted.mpr (hkeys.hasOnly (by decide)), hasAll_sorted.mpr hkeys.hasAll, ?_⟩, id, ⟨?_, hid⟩,
    summary, sanitizeTextParts_same hsummary, content, sanitizeReasoningContent_same hcontent, encrypted, ?_, status, ?_,
    rfl⟩
  · simp [reasoningMembers, member_cons, isText_iff]
  · simp [reasoningMembers, member_cons]
  · exact optional_str fun _ _ => rfl
  · exact optional_str fun s hs => oneOf_ok.mpr ⟨rfl, hstatus s hs⟩

end

section

variable {arguments callId name : Text} {id : Option Text} {caller : Option Json} {«namespace» status : Option Text}

theorem sanitizeFunctionCall_same (hcallId : callId ≠ []) (hname : name ≠ []) (hid : ∀ s ∈ id, s ≠ [])
    (hcaller : ∀ c ∈ caller, SanitizedCaller c) (hnamespace : ∀ s ∈ «namespace», s ≠ [])
    (hstatus : ∀ s ∈ status, s ∈ outputStatuses) :
    sanitizeFunctionCall (sorted (functionCallMembers arguments callId name id caller «namespace» status)) =
      .ok (.dict (functionCallMembers arguments callId name id caller «namespace» status)) := by
  have hkeys := @keys_functionCall arguments callId name id caller «namespace» status
  have hmember := member_sorted (hkeys.nodup (by decide))
  generalize hmembers : functionCallMembers arguments callId name id caller «namespace» status = members at hkeys hmember ⊢
  have hidMember : member members "id" = (id.map Json.str).getD .null := by
    simp [← hmembers, functionCallMembers, member_cons, member_optional, member_optional_nil]
  have hcallerMember : member members "caller" = caller.getD .null := by
    simp [← hmembers, functionCallMembers, member_cons, member_optional, member_optional_nil]
  have hnamespaceMember : member members "namespace" = («namespace».map Json.str).getD .null := by
    simp [← hmembers, functionCallMembers, member_cons, member_optional, member_optional_nil]
  have hstatusMember : member members "status" = (status.map Json.str).getD .null := by
    simp [← hmembers, functionCallMembers, member_cons, member_optional, member_optional_nil]
  simp only [sanitizeFunctionCall, check_bind_ok, require_ok, nonemptyText_ok, text_ok, hmember, hidMember,
    hcallerMember, hnamespaceMember, hstatusMember]
  refine ⟨(), ⟨hasOnly_sorted.mpr (hkeys.hasOnly (by decide)), hasAll_sorted.mpr hkeys.hasAll, ?_⟩, arguments, ?_,
    callId, ⟨?_, hcallId⟩, name, ⟨?_, hname⟩, id, ?_, caller, sanitizeCaller_same hcaller, «namespace», ?_, status, ?_,
    hmembers ▸ rfl⟩
  · simp [← hmembers, functionCallMembers, member_cons, isText_iff]
  · simp [← hmembers, functionCallMembers, member_cons]
  · simp [← hmembers, functionCallMembers, member_cons]
  · simp [← hmembers, functionCallMembers, member_cons]
  · exact optional_str fun s hs => nonemptyText_ok.mpr ⟨rfl, hid s hs⟩
  · exact optional_str fun s hs => nonemptyText_ok.mpr ⟨rfl, hnamespace s hs⟩
  · exact optional_str fun s hs => oneOf_ok.mpr ⟨rfl, hstatus s hs⟩

end

theorem sanitizeInputMessage_same {role content : Text} (hrole : role ∈ messageRoles) :
    sanitizeInputMessage (sorted (inputMessageMembers role content)) = .ok (.dict (inputMessageMembers role content)) := by
  have hmember := member_sorted (@keys_inputMessage role content |>.nodup (by decide))
  simp only [sanitizeInputMessage, check_bind_ok, require_ok, oneOf_ok, text_ok, hmember]
  refine ⟨(), hasExactly_sorted.mpr keys_inputMessage.hasExactly, role, ⟨?_, hrole⟩, content, ?_, rfl⟩ <;>
  simp [inputMessageMembers, member_cons]

/-- An item of one of the forms is returned unchanged. -/
theorem Sanitized.same {value : Json} (h : Sanitized value) : sanitizeHistoryItem value = .ok value := by
  refine (sanitizeHistoryItem_eq (answer_ne _)).mpr ⟨isDomainJson_of_textTree h.textTree (by decide), ?_⟩
  cases h with
  | @inputMessage role content hrole =>
    refine ⟨_, rfl, .inl ⟨?_, sanitizeInputMessage_same hrole⟩⟩
    rw [member_sorted (keys_inputMessage.nodup (by decide))]
    simp [inputMessageMembers, member_cons, member_nil]
  | outputMessage hcontent hid hstatus hphase =>
    refine ⟨_, rfl, .inr (.inl ⟨?_, sanitizeOutputMessage_same hcontent hid hstatus hphase⟩)⟩
    rw [member_sorted (keys_outputMessage.nodup (by decide)), isText_iff]
    simp [outputMessageMembers, member_cons]
  | reasoning hid hsummary hcontent hstatus =>
    refine ⟨_, rfl, .inr (.inr (.inl ⟨?_, sanitizeReasoningItem_same hid hsummary hcontent hstatus⟩))⟩
    rw [member_sorted (keys_reasoning.nodup (by decide)), isText_iff]
    simp [reasoningMembers, member_cons]
  | functionCall hcallId hname hid hcaller hnamespace hstatus =>
    refine ⟨_, rfl, .inr (.inr (.inr ⟨?_, sanitizeFunctionCall_same hcallId hname hid hcaller hnamespace hstatus⟩))⟩
    rw [member_sorted (keys_functionCall.nodup (by decide)), isText_iff]
    simp [functionCallMembers, member_cons]

end ArkClaw.Provider.OpenAI
