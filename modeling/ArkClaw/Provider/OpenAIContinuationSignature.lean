import ArkClaw.Provider.OpenAIContinuationLaws

/-!
# What the signature of a continuation shows

A continuation that was created is decoded under its key to what it was made of, if no surrogates join in the texts of
its items. `Genuine` is what is supposed of a signature: one key and one message have it, and these are those of a
creation. Then whatever is decoded was created under that key, but not as these very bytes: the signature is that of the
payload in its compact form, so the document may be laid out in another way (`spaced_is_decoded`).
-/

namespace ArkClaw.Provider.OpenAI

open ArkClaw.Library ArkClaw.Domain

variable {p : Primitives}

/-! ## Compact documents -/

theorem length_encode (s : Text) : (s.flatMap Text.encodeCodePoint).length = s.utf8Length := by
  have hpoint : ∀ c : CodePoint, (Text.encodeCodePoint c).length = Text.codePointBytes c := by
    intro c
    unfold Text.encodeCodePoint Text.codePointBytes
    dsimp only
    split_ifs <;> rfl
  rw [List.length_flatMap, Text.utf8Length]
  exact congrArg List.sum (List.map_congr_left fun c _ => hpoint c)

theorem decode_canonical {value : Json} (h : Json.WellFormed p.floats value) :
    Bytes.decodeUtf8 (canonicalJsonBytes value) = some value.dumpsCompact :=
  Bytes.decodeUtf8_ascii (Json.isAscii_dumpsCompact h)

/-- Two values of one compact form are the same. -/
theorem canonicalJsonBytes_injective {value value' : Json} (h : Json.WellFormed p.floats value)
    (h' : Json.WellFormed p.floats value') (heq : canonicalJsonBytes value = canonicalJsonBytes value') : value = value' := by
  have hdecode := decode_canonical h
  rw [heq, decode_canonical h'] at hdecode
  exact Json.dumpsCompact_injective h h' (Option.some.inj hdecode).symm

/-- A document of ASCII that is read as an object. -/
theorem strictJsonObject_ascii {s : Text} {members : Json.Members} (hascii : Json.IsAscii s)
    (hloads : Json.loads p.floats s = some (.obj members)) (hdomain : isDomainJson 0 (.obj members) = true)
    {maxBytes : Nat} (hlength : (s.flatMap Text.encodeCodePoint).length ≤ maxBytes) :
    strictJsonObjectFromBytes p (s.flatMap Text.encodeCodePoint) maxBytes = .ok members := by
  have hutf8 : s.utf8Length ≤ maxBytes := by
    rw [← length_encode]
    exact hlength
  simp only [strictJsonObjectFromBytes, check_bind_ok, require_ok, Bytes.decodeUtf8_ascii hascii]
  refine ⟨(), hlength, ?_⟩
  simp only [strictJsonObject, check_bind_ok, require_ok, hloads]
  refine ⟨(), ⟨hascii.encodable, hutf8⟩, .obj members, ?_, rfl⟩
  exact check_bind_ok.mpr ⟨(), require_ok.mpr hdomain, rfl⟩

/-- What is read of a state is well formed. -/
theorem strictJsonObject_wellFormed {bytes : Bytes} {maxBytes : Nat} {members : Json.Members}
    (h : strictJsonObjectFromBytes p bytes maxBytes = .ok members) : Json.WellFormed p.floats (.obj members) := by
  simp only [strictJsonObjectFromBytes, check_bind_ok] at h
  obtain ⟨_, -, h⟩ := h
  split at h
  next s hs =>
    simp only [strictJsonObject, check_bind_ok, normalizeDomainJson] at h
    obtain ⟨_, -, h⟩ := h
    split at h
    next raw hraw =>
      simp only [check_bind_ok, check_pure_ok] at h
      obtain ⟨_, ⟨_, -, rfl⟩, h⟩ := h
      split at h
      next members' =>
        obtain rfl := Except.ok.inj h
        exact Json.loads_wellFormed (Bytes.decodeUtf8_encodable hs) hraw
      next => cases h
    next => cases h
  next => cases h

/-! ## A payload and its envelope -/

def payloadMembers (assistantFingerprint : Option Text) (history : List Json) (messageFingerprints : List Text) :
    Json.Members :=
  [(lit "assistant_fingerprint", (assistantFingerprint.map Json.str).getD .null), (lit "history_items", .arr history),
    (lit "message_fingerprints", .arr (messageFingerprints.map .str))]

def envelopeMembers (payload : Json) (signature : Text) : Json.Members :=
  [(lit "payload", payload), (lit "signature", .str signature)]

theorem keys_payload {assistantFingerprint : Option Text} {history : List Json} {messageFingerprints : List Text} :
    HasKeys ["assistant_fingerprint", "history_items", "message_fingerprints"] []
      (payloadMembers assistantFingerprint history messageFingerprints) := .of_eq rfl

theorem keys_envelope {payload : Json} {signature : Text} :
    HasKeys ["payload", "signature"] [] (envelopeMembers payload signature) := .of_eq rfl

theorem isAscii_of_fingerprint {s : Text} (h : IsFingerprint s) : Json.IsAscii s := by
  intro c hc
  have hhex := List.all_eq_true.mp h.2 c hc
  simp only [isHexDigit, decide_eq_true_eq] at hhex
  omega

theorem unpaired_lit {s : String} (h : (lit s).all (fun c => decide (c.val < 0x80)) = true) : Json.Unpaired (lit s) :=
  Json.IsAscii.unpaired fun c hc => of_decide_eq_true (List.all_eq_true.mp h c hc)

/-- What a payload is made of, checked. -/
structure PayloadParts (assistantFingerprint : Option Text) (history : List Json) (messageFingerprints : List Text) :
    Prop where
  assistant : ∀ s ∈ assistantFingerprint, IsFingerprint s
  items : ∀ item ∈ history, Sanitized item
  itemsLength : history.length ≤ maxContinuationItems
  messages : ∀ s ∈ messageFingerprints, IsFingerprint s
  messagesLength : messageFingerprints.length ≤ maxMessageFingerprints

section

variable {assistantFingerprint : Option Text} {history : List Json} {messageFingerprints : List Text}

theorem PayloadParts.wellFormed (h : PayloadParts assistantFingerprint history messageFingerprints)
    (htexts : ∀ item ∈ history, ∀ s ∈ item.texts, Json.Unpaired s) :
    Json.WellFormed p.floats (payloadOf assistantFingerprint history messageFingerprints) := by
  refine Json.wellFormed_dict (keys_payload.nodup (by decide)) ?_
  simp only [List.forall_mem_cons]
  refine ⟨⟨unpaired_lit (by decide +kernel), ?_⟩, ⟨unpaired_lit (by decide +kernel), .arr fun item hitem => ?_⟩,
    ⟨unpaired_lit (by decide +kernel), .arr fun item hitem => ?_⟩, nofun⟩
  · cases assistantFingerprint with
    | none => exact .null
    | some s => exact .str (isAscii_of_fingerprint (h.assistant s rfl)).unpaired
  · exact (h.items item hitem).textTree.wellFormed (htexts item hitem)
  · obtain ⟨s, hs, rfl⟩ := List.mem_map.mp hitem
    exact .str (isAscii_of_fingerprint (h.messages s hs)).unpaired

theorem PayloadParts.isDomainJson (h : PayloadParts assistantFingerprint history messageFingerprints) :
    isDomainJson 1 (payloadOf assistantFingerprint history messageFingerprints) = true := by
  refine isDomainJson_dict.mpr ⟨by decide, ?_⟩
  simp only [List.forall_mem_cons]
  refine ⟨?_, isDomainJson_arr.mpr ⟨by decide, fun item hitem => ?_⟩, isDomainJson_arr.mpr ⟨by decide, fun item hitem => ?_⟩,
    nofun⟩
  · cases assistantFingerprint <;> rfl
  · exact isDomainJson_of_textTree (h.items item hitem).textTree (by decide)
  · obtain ⟨s, -, rfl⟩ := List.mem_map.mp hitem
    rfl

theorem fingerprint_same {s : Text} (h : IsFingerprint s) : fingerprint (.str s) = .ok s := if_pos h

/-- A payload of checked parts is read as these. -/
theorem PayloadParts.read (h : PayloadParts assistantFingerprint history messageFingerprints) :
    readPayload (sorted (payloadMembers assistantFingerprint history messageFingerprints)) =
      .ok { historyItems := history, messageFingerprints, assistantFingerprint } := by
  have hmember := member_sorted (@keys_payload assistantFingerprint history messageFingerprints |>.nodup (by decide))
  have hhistory : member (payloadMembers assistantFingerprint history messageFingerprints) "history_items" =
      .arr history := by
    simp [payloadMembers, member_cons]
  have hmessages : member (payloadMembers assistantFingerprint history messageFingerprints) "message_fingerprints" =
      .arr (messageFingerprints.map .str) := by
    simp [payloadMembers, member_cons]
  have hassistant : member (payloadMembers assistantFingerprint history messageFingerprints) "assistant_fingerprint" =
      (assistantFingerprint.map Json.str).getD .null := by
    simp [payloadMembers, member_cons]
  have hfingerprints : (messageFingerprints.map Json.str).mapM fingerprint = .ok messageFingerprints := by
    rw [check_mapM_ok, List.forall₂_map_left_iff, List.forall₂_same]
    exact fun s hs => fingerprint_same (h.messages s hs)
  simp only [readPayload, check_bind_ok, require_ok, hmember, hhistory, hmessages, hassistant]
  refine ⟨(), hasExactly_sorted.mpr keys_payload.hasExactly, (), ⟨h.itemsLength, ?_⟩, assistantFingerprint, ?_, history,
    ?_, messageFingerprints, hfingerprints, rfl⟩
  · rw [List.length_map]
    exact h.messagesLength
  · exact optional_str fun s hs => fingerprint_same (h.assistant s hs)
  · exact check_mapM_id fun item hitem => (h.items item hitem).same

end

/-! ## What is created -/

variable (p) in
/-- The state says what the creation was given. -/
structure Creation.Holds (c : Creation) (state : ContinuationState) : Prop where
  historyItems : c.history.mapM sanitizeHistoryItem = .ok state.historyItems
  messageFingerprints : state.messageFingerprints = c.messageFingerprints
  assistantFingerprint : OpenAI.assistantFingerprint p c.assistantText = .ok state.assistantFingerprint

/-- No text of the sanitized items has a high surrogate right before a low one. -/
def Creation.Unpaired (c : Creation) : Prop :=
  ∀ item ∈ c.history, ∀ safe, sanitizeHistoryItem item = .ok safe → ∀ s ∈ safe.texts, Json.Unpaired s

section

variable {c : Creation} {payload : Json}

theorem fingerprintMessage_form {role : MessageRole} {content s : Text} (h : fingerprintMessage p role content = .ok s) :
    IsFingerprint s := by
  unfold fingerprintMessage at h
  generalize fingerprintMaterial role content = encoded at h
  cases encoded with
  | none => cases h
  | some material =>
    obtain rfl := Except.ok.inj h
    exact (p.sha256 material).property

theorem assistantFingerprint_form {assistantText : Text} {o : Option Text}
    (h : assistantFingerprint p assistantText = .ok o) : ∀ s ∈ o, IsFingerprint s := by
  unfold assistantFingerprint at h
  split_ifs at h
  · obtain rfl := Except.ok.inj h
    exact fun s hs => absurd hs (Option.not_mem_none s)
  · obtain ⟨s, hs, ho⟩ := check_bind_ok.mp h
    intro t ht
    rw [← check_pure_ok.mp ho] at ht
    rw [← Option.some.inj ht]
    exact fingerprintMessage_form hs

/-- A payload is made of checked parts, and its texts are those of the sanitized items. -/
theorem Creation.payload_parts (h : c.payload p = .ok payload) :
    ∃ assistant history, payload = payloadOf assistant history c.messageFingerprints
      ∧ PayloadParts assistant history c.messageFingerprints
      ∧ c.Holds p ⟨history, c.messageFingerprints, assistant⟩ := by
  simp only [Creation.payload, check_bind_ok, require_ok, check_pure_ok] at h
  obtain ⟨_, ⟨hitems, hmessages, hfingerprints⟩, assistant, hassistant, history, hhistory, rfl⟩ := h
  have hlength : history.length = c.history.length := (check_mapM_ok.mp hhistory).length_eq.symm
  refine ⟨assistant, history, rfl, ⟨assistantFingerprint_form hassistant, fun item hitem => ?_, by omega, hfingerprints,
    hmessages⟩, hhistory, rfl, hassistant⟩
  obtain ⟨_, -, hcheck⟩ := check_mapM_mem hhistory item hitem
  exact sanitized_of_ok hcheck

theorem Creation.Unpaired.texts (h : c.Unpaired) {history : List Json}
    (hhistory : c.history.mapM sanitizeHistoryItem = .ok history) : ∀ item ∈ history, ∀ s ∈ item.texts, Json.Unpaired s := by
  intro safe hsafe
  obtain ⟨item, hitem, hcheck⟩ := check_mapM_mem hhistory safe hsafe
  exact h item hitem safe hcheck

/-- The document of a continuation. -/
theorem createContinuation_ok {continuation : ProviderContinuation} (h : createContinuation p c = .ok continuation) :
    ∃ payload, c.payload p = .ok payload ∧ continuation.providerName = lit "openai"
      ∧ continuation.version = some continuationVersion ∧ continuation.state.length ≤ maxContinuationBytes
      ∧ continuation.state =
        canonicalJsonBytes (envelopeOf payload (p.hmac c.continuationHmacKey (canonicalJsonBytes payload)).val) := by
  simp only [createContinuation, check_bind_ok, require_ok, check_pure_ok] at h
  obtain ⟨payload, hpayload, _, hlength, rfl⟩ := h
  exact ⟨payload, hpayload, rfl, rfl, hlength, rfl⟩

theorem wellFormed_envelope {payload : Json} {signature : Text} (hwell : Json.WellFormed p.floats payload)
    (hsignature : IsFingerprint signature) : Json.WellFormed p.floats (envelopeOf payload signature) := by
  refine Json.wellFormed_dict (keys_envelope.nodup (by decide)) ?_
  simp only [List.forall_mem_cons]
  exact ⟨⟨unpaired_lit (by decide +kernel), hwell⟩, ⟨unpaired_lit (by decide +kernel),
    .str (isAscii_of_fingerprint hsignature).unpaired⟩, nofun⟩

theorem createContinuation_length {continuation : ProviderContinuation} (h : createContinuation p c = .ok continuation) :
    continuation.state.length ≤ maxContinuationBytes := by
  obtain ⟨-, -, -, -, hlength, -⟩ := createContinuation_ok h
  exact hlength

/-- The envelope of a document that is read as a payload and its signature. -/
theorem envelope_of_loads {continuation : ProviderContinuation} {s : Text} {members : Json.Members} {signature : Text}
    (hdomain : isDomainJson 1 (.obj members) = true) (hsignature : IsFingerprint signature)
    (hname : continuation.providerName = lit "openai") (hversion : continuation.version = some continuationVersion)
    (hlength : continuation.state.length ≤ maxContinuationBytes)
    (hstate : continuation.state = s.flatMap Text.encodeCodePoint) (hascii : Json.IsAscii s)
    (hloads : Json.loads p.floats s = some (envelopeOf (.obj members) signature)) :
    envelope p continuation = .ok (members, signature) := by
  have hmember := member_sorted (@keys_envelope (.obj members) signature |>.nodup (by decide))
  have hpayload : member (envelopeMembers (.obj members) signature) "payload" = .obj members := by
    simp [envelopeMembers, member_cons]
  have hsign : member (envelopeMembers (.obj members) signature) "signature" = .str signature := by
    simp [envelopeMembers, member_cons]
  have hvalue : isDomainJson 0 (envelopeOf (.obj members) signature) = true := by
    refine isDomainJson_dict.mpr ⟨by decide, ?_⟩
    simp only [List.forall_mem_cons]
    exact ⟨hdomain, rfl, nofun⟩
  have hread : strictJsonObjectFromBytes p continuation.state maxContinuationBytes =
      .ok (sorted (envelopeMembers (.obj members) signature)) := by
    rw [hstate] at hlength ⊢
    exact strictJsonObject_ascii hascii hloads hvalue hlength
  simp only [envelope, check_bind_ok, require_ok, hread, Except.ok.injEq]
  refine ⟨(), ⟨hname, hversion, hlength⟩, _, rfl, (), hasExactly_sorted.mpr keys_envelope.hasExactly, ?_⟩
  simp only [hmember, hpayload, hsign, check_bind_ok, require_ok]
  exact ⟨(), hsignature, rfl⟩

/-- The envelope of a continuation that was created holds what was signed, with any number of blanks behind it. -/
theorem envelope_created {continuation : ProviderContinuation} (h : createContinuation p c = .ok continuation)
    (hunpaired : c.Unpaired) (blanks : Nat) (hroom : continuation.state.length + blanks ≤ maxContinuationBytes) :
    ∃ payload state, c.payload p = .ok (.obj payload) ∧ readPayload payload = .ok state ∧ c.Holds p state
      ∧ envelope p { continuation with state := continuation.state ++ List.replicate blanks 0x20 } =
        .ok (payload, (p.hmac c.continuationHmacKey (canonicalJsonBytes (.obj payload))).val) := by
  obtain ⟨_, hpayload, hname, hversion, -, hstate⟩ := createContinuation_ok h
  obtain ⟨assistant, history, rfl, hparts, hholds⟩ := c.payload_parts hpayload
  have hsignature := (p.hmac c.continuationHmacKey
    (canonicalJsonBytes (payloadOf assistant history c.messageFingerprints))).property
  have hwell := @wellFormed_envelope p _ _ (hparts.wellFormed (hunpaired.texts hholds.historyItems)) hsignature
  have hblanks : ∀ n, (List.replicate n (0x20 : CodePoint)).flatMap Text.encodeCodePoint = List.replicate n 0x20 := by
    intro n
    induction n with
    | zero => rfl
    | succ n ih =>
      rw [List.replicate_succ, List.flatMap_cons, ih]
      rfl
  have hascii : ∀ c ∈ List.replicate blanks (0x20 : CodePoint), c.val < 0x80 := by
    intro c hc
    rw [List.eq_of_mem_replicate hc]
    decide
  refine ⟨_, _, hpayload, hparts.read, hholds, ?_⟩
  refine envelope_of_loads hparts.isDomainJson hsignature hname hversion ?_ ?_
    (fun d hd => (List.mem_append.mp hd).elim (Json.isAscii_dumpsCompact hwell d) (hascii d))
    ((Json.loads_blanks _ blanks).trans (Json.loads_dumpsCompact hwell))
  · rw [List.length_append, List.length_replicate]
    exact hroom
  · rw [List.flatMap_append, hblanks, hstate]
    rfl

theorem decode_created {continuation : ProviderContinuation} (h : createContinuation p c = .ok continuation)
    (hunpaired : c.Unpaired) (blanks : Nat) (hroom : continuation.state.length + blanks ≤ maxContinuationBytes) :
    ∃ state, decodeContinuation p { continuation with state := continuation.state ++ List.replicate blanks 0x20 }
      c.continuationHmacKey = .ok state ∧ c.Holds p state := by
  obtain ⟨payload, state, -, hread, hholds, henvelope⟩ := envelope_created h hunpaired blanks hroom
  refine ⟨state, ?_, hholds⟩
  simp only [decodeContinuation, check_bind_ok, require_ok]
  exact ⟨_, henvelope, (), rfl, hread⟩

end

/-! ## Whose signature it is -/

/-- What is supposed of a signature: it is that of one message under one key, and a creation that succeeded made it. -/
structure Genuine (p : Primitives) (created : List Creation) (signature : Text) : Prop where
  once : ∀ key message key' message', (p.hmac key message).val = signature → (p.hmac key' message').val = signature →
    key = key' ∧ message = message'
  made : ∀ key message, (p.hmac key message).val = signature → ∃ c ∈ created, ∃ continuation payload,
    createContinuation p c = .ok continuation ∧ c.payload p = .ok payload ∧
      (p.hmac c.continuationHmacKey (canonicalJsonBytes payload)).val = signature

section

variable {continuation : ProviderContinuation} {key : Bytes} {state : ContinuationState}

theorem decode_ok (h : decodeContinuation p continuation key = .ok state) :
    ∃ payload signature, envelope p continuation = .ok (payload, signature)
      ∧ signature = (p.hmac key (canonicalJsonBytes (.obj payload))).val ∧ readPayload payload = .ok state := by
  simp only [decodeContinuation, check_bind_ok, require_ok] at h
  obtain ⟨⟨payload, signature⟩, henvelope, _, hsignature, hread⟩ := h
  exact ⟨payload, signature, henvelope, hsignature, hread⟩

theorem payload_wellFormed {payload : Json.Members} {signature : Text}
    (h : envelope p continuation = .ok (payload, signature)) : Json.WellFormed p.floats (.obj payload) := by
  simp only [envelope, check_bind_ok] at h
  obtain ⟨_, -, members, hread, _, -, h⟩ := h
  split at h
  next payload' signature' hpayload _ =>
    simp only [check_bind_ok, check_pure_ok, Prod.mk.injEq] at h
    obtain ⟨_, -, rfl, -⟩ := h
    have hmember : members.get? (lit "payload") = some (.obj payload') := by
      unfold member at hpayload
      cases hget : members.get? (lit "payload") with
      | none =>
        rw [hget] at hpayload
        cases hpayload
      | some value =>
        rw [hget, Option.getD_some] at hpayload
        rw [hpayload]
    cases strictJsonObject_wellFormed hread with
    | obj hkeys hsorted hunpaired hvalues =>
      exact hvalues _ ((Json.Members.get?_eq_some hkeys).mp hmember)
  next => cases h

/-- What is decoded was created under the key, and is what it was made of. -/
theorem decoded_is_created {created : List Creation} (h : decodeContinuation p continuation key = .ok state)
    (hgenuine : ∀ payload signature, envelope p continuation = .ok (payload, signature) → Genuine p created signature) :
    ∃ c ∈ created, c.continuationHmacKey = key ∧ (∃ continuation', createContinuation p c = .ok continuation')
      ∧ (c.Unpaired → c.Holds p state) := by
  obtain ⟨payload, signature, henvelope, hsignature, hread⟩ := decode_ok h
  have hsigned := hgenuine payload signature henvelope
  obtain ⟨c, hc, continuation', payload', hcreated, hpayload, hmac⟩ := hsigned.made _ _ hsignature.symm
  obtain ⟨hkey, hmessage⟩ := hsigned.once _ _ _ _ hmac hsignature.symm
  refine ⟨c, hc, hkey, ⟨continuation', hcreated⟩, fun hunpaired => ?_⟩
  obtain ⟨assistant, history, rfl, hparts, hholds⟩ := c.payload_parts hpayload
  have hsame := canonicalJsonBytes_injective (hparts.wellFormed (hunpaired.texts hholds.historyItems))
    (payload_wellFormed henvelope) hmessage
  obtain rfl := Json.obj.inj hsame
  have hstate : (⟨history, c.messageFingerprints, assistant⟩ : ContinuationState) = state :=
    Except.ok.inj (hparts.read.symm.trans hread)
  rw [← hstate]
  exact hholds

/-- What is decoded under one key is rejected under every other. -/
theorem other_key_rejected (h : decodeContinuation p continuation key = .ok state)
    (honce : ∀ payload signature, envelope p continuation = .ok (payload, signature) →
      ∀ key message key' message', (p.hmac key message).val = signature → (p.hmac key' message').val = signature → key = key')
    {key' : Bytes} (hkey : key' ≠ key) : decodeContinuation p continuation key' = .error .rejected := by
  obtain ⟨payload, signature, henvelope, hsignature, -⟩ := decode_ok h
  have hne : signature ≠ (p.hmac key' (canonicalJsonBytes (.obj payload))).val :=
    fun h' => hkey (honce payload signature henvelope _ _ _ _ h'.symm hsignature.symm)
  unfold decodeContinuation
  rw [henvelope]
  show (require (signature = _) >>= fun _ => readPayload payload) = _
  rw [require, if_neg hne]
  rfl

end

/-- A continuation that was created is decoded under its key to what it was made of, unless surrogates join in the texts
of its items. What is decoded was created under its key, if its signature is genuine, says what the creation was given,
and is rejected under every other key. A sanitized item is sanitized to itself. -/
theorem continuation_binds_creation (p : Primitives) :
    (∀ c continuation, createContinuation p c = .ok continuation → c.Unpaired →
      ∃ state, decodeContinuation p continuation c.continuationHmacKey = .ok state ∧ c.Holds p state)
    ∧ (∀ created continuation key state, decodeContinuation p continuation key = .ok state →
      (∀ payload signature, envelope p continuation = .ok (payload, signature) → Genuine p created signature) →
      (∃ c ∈ created, c.continuationHmacKey = key ∧ (∃ continuation', createContinuation p c = .ok continuation')
        ∧ (c.Unpaired → c.Holds p state))
      ∧ ∀ key' ≠ key, decodeContinuation p continuation key' = .error .rejected)
    ∧ ∀ item safe, sanitizeHistoryItem item = .ok safe → sanitizeHistoryItem safe = .ok safe := by
  refine ⟨fun c continuation h hunpaired => ?_, fun created continuation key state h hgenuine => ⟨?_, ?_⟩,
    fun item safe h => (sanitized_of_ok h).same⟩
  · have hdecode := decode_created h hunpaired 0 (createContinuation_length h)
    rwa [List.replicate_zero, List.append_nil] at hdecode
  · exact decoded_is_created h hgenuine
  · intro key' hkey
    refine other_key_rejected h ?_ hkey
    intro payload signature henvelope key message key' message' hmac hmac'
    exact ((hgenuine payload signature henvelope).once key message key' message' hmac hmac').1

/-! ## A document laid out in another way -/

/-- A message that was sent, and the fingerprint of no text. -/
def greeting : Creation where
  history := [.dict [(lit "content", .str (lit "hi")), (lit "role", .str (lit "user"))]]
  messageFingerprints := []
  assistantText := []
  continuationHmacKey := [1]

/-- What is signed for the greeting. -/
def greetingMessage : Bytes :=
  (lit "\x7b\"assistant_fingerprint\":null,\"history_items\":[\x7b\"content\":\"hi\",\"role\":\"user\"\x7d],\"message_fingerprints\":[]\x7d").flatMap
    Text.encodeCodePoint

/-- The HMAC-SHA256 of it under the greeting's key. -/
def greetingSignature : Text := lit "9e077333e9c80a974b0ff69fc3322fe738cb92e73b844d34d45b6e4d4c0b6249"

/-- The greeting has its signature, which nothing else has; no text of it is hashed. -/
def greetingPrimitives : Primitives where
  sha256 _ := ⟨List.replicate 64 0x61, by decide⟩
  hmac key message :=
    if key = [1] ∧ message = greetingMessage then ⟨greetingSignature, by decide +kernel⟩
    else ⟨List.replicate 64 0x66, by decide⟩
  floats := { read := fun _ => none, reads_back := fun _ _ h => nomatch h }

theorem greeting_created : ∃ continuation, createContinuation greetingPrimitives greeting = .ok continuation
    ∧ continuation.state.length = 196 := by
  have h : ((createContinuation greetingPrimitives greeting).toOption.map fun c => c.state.length) = some 196 := by
    decide +kernel
  cases hcreate : createContinuation greetingPrimitives greeting with
  | error e =>
    rw [hcreate] at h
    cases h
  | ok continuation =>
    rw [hcreate] at h
    exact ⟨continuation, rfl, Option.some.inj h⟩

theorem greeting_unpaired : greeting.Unpaired := by
  intro item hitem safe hsafe
  obtain rfl := List.mem_singleton.mp hitem
  have hform : Sanitized (.dict [(lit "content", .str (lit "hi")), (lit "role", .str (lit "user"))]) :=
    .inputMessage (by decide +kernel)
  obtain rfl := Except.ok.inj (hform.same.symm.trans hsafe)
  decide +kernel

theorem greeting_payload {payload : Json} (h : greeting.payload greetingPrimitives = .ok payload) :
    canonicalJsonBytes payload = greetingMessage := by
  have heval : ((greeting.payload greetingPrimitives).toOption.map canonicalJsonBytes) = some greetingMessage := by
    decide +kernel
  rw [h] at heval
  exact Option.some.inj heval

/-- The signature of the greeting is genuine. -/
theorem greeting_genuine {continuation : ProviderContinuation} {payload : Json.Members}
    (hcreate : createContinuation greetingPrimitives greeting = .ok continuation)
    (hpayload : greeting.payload greetingPrimitives = .ok (.obj payload)) :
    Genuine greetingPrimitives [greeting]
      (greetingPrimitives.hmac greeting.continuationHmacKey (canonicalJsonBytes (.obj payload))).val := by
  have hown : (greetingPrimitives.hmac greeting.continuationHmacKey (canonicalJsonBytes (.obj payload))).val =
      greetingSignature := by
    rw [greeting_payload hpayload]
    exact congrArg Subtype.val (if_pos ⟨rfl, rfl⟩)
  have hpoint : ∀ key message, (greetingPrimitives.hmac key message).val = greetingSignature →
      key = [1] ∧ message = greetingMessage := by
    intro key message hmac
    by_contra hother
    rw [show greetingPrimitives.hmac key message = ⟨List.replicate 64 0x66, by decide⟩ from if_neg hother] at hmac
    exact absurd hmac (by decide +kernel)
  rw [hown]
  refine ⟨fun key message key' message' hmac hmac' => ?_, fun key message _ =>
    ⟨greeting, List.mem_singleton_self _, continuation, _, hcreate, hpayload, hown⟩⟩
  obtain ⟨rfl, rfl⟩ := hpoint key message hmac
  obtain ⟨rfl, rfl⟩ := hpoint key' message' hmac'
  exact ⟨rfl, rfl⟩

/-- The greeting with a blank behind it is not what was created, and is decoded, though its signature is genuine. -/
theorem spaced_is_decoded : ∃ continuation spaced,
    createContinuation greetingPrimitives greeting = .ok continuation ∧ spaced.state ≠ continuation.state
    ∧ (∀ payload signature, envelope greetingPrimitives spaced = .ok (payload, signature) →
      Genuine greetingPrimitives [greeting] signature)
    ∧ ∃ state, decodeContinuation greetingPrimitives spaced greeting.continuationHmacKey = .ok state := by
  obtain ⟨continuation, hcreate, hlength⟩ := greeting_created
  have hroom : continuation.state.length + 1 ≤ maxContinuationBytes := by
    rw [hlength]
    decide
  obtain ⟨payload, -, hpayload, -, -, henvelope⟩ := envelope_created hcreate greeting_unpaired 1 hroom
  obtain ⟨state, hdecode, -⟩ := decode_created hcreate greeting_unpaired 1 hroom
  refine ⟨continuation, _, hcreate, ?_, ?_, state, hdecode⟩
  · intro hsame
    have := congrArg List.length hsame
    simp at this
  · intro payload' signature henvelope'
    obtain ⟨-, rfl⟩ := Prod.mk.inj (Except.ok.inj (henvelope.symm.trans henvelope'))
    exact greeting_genuine hcreate hpayload

/-- The greeting is decoded under its key, and under no other. -/
theorem greeting_bound : ∃ continuation state, createContinuation greetingPrimitives greeting = .ok continuation
    ∧ decodeContinuation greetingPrimitives continuation [1] = .ok state
    ∧ (∃ c ∈ [greeting], c.continuationHmacKey = [1])
    ∧ ∀ key ≠ [1], decodeContinuation greetingPrimitives continuation key = .error .rejected := by
  obtain ⟨continuation, hcreate, hlength⟩ := greeting_created
  have hroom : continuation.state.length + 0 ≤ maxContinuationBytes := by
    rw [hlength]
    decide
  obtain ⟨payload, -, hpayload, -, -, henvelope⟩ := envelope_created hcreate greeting_unpaired 0 hroom
  rw [List.replicate_zero, List.append_nil] at henvelope
  obtain ⟨hround, hbind, -⟩ := continuation_binds_creation greetingPrimitives
  obtain ⟨state, hdecode, -⟩ := hround greeting continuation hcreate greeting_unpaired
  obtain ⟨⟨c, hc, hkey, -⟩, hother⟩ := hbind [greeting] continuation [1] state hdecode fun payload' signature henvelope' => by
    obtain ⟨-, rfl⟩ := Prod.mk.inj (Except.ok.inj (henvelope.symm.trans henvelope'))
    exact greeting_genuine hcreate hpayload
  exact ⟨continuation, state, hcreate, hdecode, ⟨c, hc, hkey⟩, hother⟩

end ArkClaw.Provider.OpenAI
