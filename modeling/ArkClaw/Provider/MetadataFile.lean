import ArkClaw.Library.Decoding
import ArkClaw.Library.JsonLoading
import ArkClaw.Provider.MetadataSchema

/-!
# What the bytes of the metadata file are taken for

An operation reads the file whatever its bytes are: they may be too many, no text, no JSON, nested beyond what the
interpreter carries (`limit`), or a document of another schema. It should work on documents of the schema only and
otherwise raise an error of the repository. It does for all bytes but those of two kinds (`failsClosed_iff`): what is
nested too deep raises an error that is none of the repository's, and the version of a document may be `true` or `1.0`.
There is no migrator here.
-/

namespace ArkClaw.Provider

open ArkClaw.Library ArkClaw.Domain

/-- The digits of a decimal number, and the power of ten they are multiplied by. -/
def decimalOf (s : Text) : Nat × Int :=
  let whole := s.takeWhile Json.isDigit
  let rest := s.dropWhile Json.isDigit
  let (fraction, exponent) :=
    match rest with
    | c :: after => if c.val = 0x2E then (after.takeWhile Json.isDigit, after.dropWhile Json.isDigit) else ([], rest)
    | [] => ([], [])
  let number (digits : Text) : Nat := Text.ofDigits (digits.map fun c => c.val - 0x30)
  let power : Int :=
    match exponent.drop 1 with
    | sign :: digits =>
      if sign.val = 0x2D then -number digits else if sign.val = 0x2B then number digits else number (sign :: digits)
    | [] => 0
  (number (whole ++ fraction), power - fraction.length)

/-- A decimal number is read as one: of the numbers of 53 binary digits, one is the nearest. -/
def readsAsOne (s : Text) : Bool :=
  let (negative, body) := Json.splitSign s
  let (digits, power) := decimalOf body
  let numerator := digits * 10 ^ power.toNat
  let denominator := 10 ^ (-power).toNat
  !negative && decide ((2 ^ 54 - 1) * denominator ≤ numerator * 2 ^ 54)
    && decide (numerator * 2 ^ 53 ≤ (2 ^ 53 + 1) * denominator)

/-- A version of one, as the source compares it; floating numbers stand as they are written. -/
def isVersionOne : Option Json → Bool
  | some (.int version) => version = providerMetadataSchemaVersion
  | some (.bool value) => value
  | some (.float written) => readsAsOne written
  | _ => false

/-- What an operation raises: an error of the repository, or that the interpreter does not go deeper. -/
inductive RaisedError where
  | metadata (e : MetadataError)
  | recursion
deriving DecidableEq, Repr

namespace JsonProviderProfileRepository

section

variable (limit : Nat)

/-- The document the bytes are. -/
def loadDocument (payload : Bytes) : Except RaisedError Json.Members :=
  if maxDocumentBytes < payload.length then
    .error (.metadata (.corrupted "The provider metadata document is too large."))
  else
    match payload.decodeUtf8 with
    | none => .error (.metadata corrupted)
    | some text =>
      match Json.jsonLoads limit text with
      | .error .recursion => .error .recursion
      | .error _ => .error (.metadata corrupted)
      | .ok loaded =>
        match objectMapping loaded with
        | none => .error (.metadata corrupted)
        | some document => .ok document

/-- The snapshot the bytes are. -/
def readPayload (payload : Bytes) : Except RaisedError MetadataSnapshot :=
  match loadDocument limit payload with
  | .error e => .error e
  | .ok document =>
    if isVersionOne (document.get? (lit "schema_version")) then
      match parseSnapshot document with
      | .error e => .error (.metadata e)
      | .ok s => .ok s
    else .error (.metadata (.schema "The provider metadata schema is not supported."))

/-- `_read_snapshot` of a file that is there or not. -/
def readFile (io : FileIo) (file : Option Bytes) : Except RaisedError MetadataSnapshot :=
  if io.unreadable then .error (.metadata (.corrupted "The provider metadata could not be read safely."))
  else
    match file with
    | none => .ok emptySnapshot
    | some payload => readPayload limit payload

/-- `_write_snapshot`: the bytes that replace the file. -/
def writtenFile (io : FileIo) (s : MetadataSnapshot) : Except MetadataError Bytes :=
  match (serialize (snapshotDocument s)).encodeUtf8 with
  | some payload =>
    if io.mkdir && io.mkstemp && io.write && io.fsync && io.replace then .ok payload
    else .error (.write "The provider metadata could not be written atomically.")
  | none => .error (.write "The provider metadata could not be written atomically.")

/-- What an operation refuses before it reads. -/
def OperationKind.refusal : OperationKind → Option MetadataError
  | .saveProfile profile =>
    if validateSupportedProfile profile = .ok () ∧ ¬HasSensitiveMetadata [profile.displayName, profile.model] then none
    else some (.conflict "The provider profile cannot be persisted safely.")
  | .saveCredentialBinding binding =>
    if validateSupportedCredentialBinding binding = .ok () ∧ ¬HasSensitiveMetadata [binding.displayName] then none
    else some (.conflict "The credential binding cannot be persisted safely.")
  | _ => none

/-- What an operation makes of a snapshot: one to write, if it is no reader. -/
def OperationKind.apply (s : MetadataSnapshot) : OperationKind → Except MetadataError (Option MetadataSnapshot)
  | .saveProfile profile => (some ·.sortProfiles) <$> s.saveProfile {} profile
  | .deleteProfile profileId => some <$> s.deleteProfile {} profileId
  | .setActiveProfileId profileId => some <$> s.setActiveProfileId {} profileId
  | .saveCredentialBinding binding => (some ·.sortBindings) <$> s.saveCredentialBinding {} binding
  | .deleteCredentialBinding credentialId => some <$> s.deleteCredentialBinding {} credentialId
  | .listProfiles | .getProfile _ | .getActiveProfileId | .listCredentialBindings | .getCredentialBinding _ => .ok none

/-- An operation on the snapshot it has read: whether it raises, and the file it leaves. -/
def Operation.works (op : Operation) (s : MetadataSnapshot) (file : Option Bytes) :
    Except RaisedError Unit × Option Bytes :=
  match op.kind.apply s with
  | .error e => (.error (.metadata e), file)
  | .ok none => (.ok (), file)
  | .ok (some s') =>
    match writtenFile op.io s' with
    | .error e => (.error (.metadata e), file)
    | .ok payload => (.ok (), some payload)

/-- An operation: whether it raises, and the file it leaves. -/
def Operation.onFile (op : Operation) (file : Option Bytes) : Except RaisedError Unit × Option Bytes :=
  match op.kind.refusal with
  | some e => (.error (.metadata e), file)
  | none =>
    match readFile limit op.io file with
    | .error e => (.error e, file)
    | .ok s => op.works s file

/-- An operation on a file of these bytes works on a document of the schema, or it raises an error of the repository and
leaves the file as it was. -/
def FailsClosed (payload : Bytes) (op : Operation) : Prop :=
  match (op.onFile limit (some payload)).1 with
  | .ok () => ∃ document s, loadDocument limit payload = .ok document ∧ Schema document s
      ∧ op.onFile limit (some payload) = op.works s (some payload)
  | .error (.metadata _) => (op.onFile limit (some payload)).2 = some payload
  | .error .recursion => False

/-- The bytes are a text that is nested too deep. -/
def TooDeep (payload : Bytes) : Prop :=
  payload.length ≤ maxDocumentBytes ∧ ∃ text, payload.decodeUtf8 = some text ∧ Json.jsonLoads limit text = .error .recursion

/-- A value equal to one that is no whole number. -/
def EqualsOne (value : Json) : Prop := value = .bool true ∨ ∃ written, value = .float written ∧ readsAsOne written = true

end

section

variable {limit : Nat} {payload : Bytes} {document : Json.Members} {s : MetadataSnapshot} {op : Operation}

/-! ## Reading -/

/-- What a document is not read for: an error of the repository, unless it is nested too deep. -/
theorem loadDocument_error {e : RaisedError} (h : loadDocument limit payload = .error e) :
    (∃ e', e = .metadata e') ∨ e = .recursion ∧ TooDeep limit payload := by
  unfold loadDocument at h
  split at h
  · exact .inl ⟨_, (Except.error.inj h).symm⟩
  next hlength =>
    cases htext : payload.decodeUtf8 with
    | none =>
      rw [htext] at h
      exact .inl ⟨_, (Except.error.inj h).symm⟩
    | some text =>
      rw [htext] at h
      dsimp only at h
      cases hloads : Json.jsonLoads limit text with
      | ok loaded =>
        rw [hloads] at h
        dsimp only at h
        split at h
        · exact .inl ⟨_, (Except.error.inj h).symm⟩
        · cases h
      | error e' =>
        rw [hloads] at h
        cases e' with
        | recursion => exact .inr ⟨(Except.error.inj h).symm, Nat.not_lt.mp hlength, text, htext, hloads⟩
        | decode => exact .inl ⟨_, (Except.error.inj h).symm⟩
        | value => exact .inl ⟨_, (Except.error.inj h).symm⟩

theorem loadDocument_tooDeep (h : TooDeep limit payload) : loadDocument limit payload = .error .recursion := by
  obtain ⟨hlength, text, htext, hloads⟩ := h
  unfold loadDocument
  rw [if_neg (Nat.not_lt.mpr hlength), htext]
  dsimp only
  rw [hloads]

/-- The version of a document that is accepted is one, or it equals one. -/
theorem isVersionOne_iff {version : Option Json} : isVersionOne version = true ↔
    ∃ value, version = some value ∧ (value = .int providerMetadataSchemaVersion ∨ EqualsOne value) := by
  cases version with
  | none => exact iff_of_false (by decide) nofun
  | some value => cases value <;> simp [isVersionOne, EqualsOne]

/-- A snapshot is read from a document that has the rest of the schema and a version that is accepted. -/
theorem readPayload_eq_ok : readPayload limit payload = .ok s ↔ ∃ document, loadDocument limit payload = .ok document
    ∧ RestOfSchema document s ∧ isVersionOne (document.get? (lit "schema_version")) = true := by
  unfold readPayload
  cases hload : loadDocument limit payload with
  | error e => exact iff_of_false nofun nofun
  | ok document =>
    dsimp only
    constructor
    · intro h
      split at h
      next hversion =>
        cases hparse : parseSnapshot document with
        | error e => rw [hparse] at h; cases h
        | ok s' =>
          rw [hparse] at h
          obtain rfl := Except.ok.inj h
          exact ⟨document, rfl, parseSnapshot_iff.mp hparse, hversion⟩
      next => cases h
    · rintro ⟨document', hdocument, hrest, hversion⟩
      obtain rfl := Except.ok.inj hdocument
      rw [if_pos hversion, parseSnapshot_iff.mpr hrest]

theorem readPayload_error {e : RaisedError} (h : readPayload limit payload = .error e) :
    (∃ e', e = .metadata e') ∨ e = .recursion ∧ TooDeep limit payload := by
  unfold readPayload at h
  cases hload : loadDocument limit payload with
  | error e' =>
    rw [hload] at h
    obtain rfl := Except.error.inj h
    exact loadDocument_error hload
  | ok document =>
    rw [hload] at h
    dsimp only at h
    split at h
    · split at h
      · exact .inl ⟨_, (Except.error.inj h).symm⟩
      · cases h
    · exact .inl ⟨_, (Except.error.inj h).symm⟩

/-! ## The operations -/

/-- A file and a document are left alone both, or written with one snapshot, or the same error is raised. -/
def Agree (disk : Disk) (file : Option Bytes) : EStateM.Result MetadataError Disk Unit → Except RaisedError Unit × Option Bytes → Prop
  | .ok () disk', (.ok (), file') => disk' = disk ∧ file' = file ∨ ∃ s,
      disk'.file = some (snapshotDocument s) ∧ file' = (serialize (snapshotDocument s)).encodeUtf8
  | .error e disk', (.error (.metadata e'), file') => e = e' ∧ disk' = disk ∧ file' = file
  | _, _ => False

variable {disk : Disk} {file : Option Bytes}

theorem inspect_run {α : Type} {io : FileIo} (hread : readSnapshot none io disk = .ok s)
    (call : DocumentIo → MetadataSnapshot → Except MetadataError α) : (inspect none io call).run disk =
      match call {} s with
      | .error e => .error e disk
      | .ok a => .ok a disk := by
  unfold inspect
  show EStateM.run (match readSnapshot none io disk with | .error e => _ | .ok s => _) disk = _
  rw [hread]
  dsimp only
  cases call {} s <;> rfl

/-- What is written replaces both, or neither. -/
theorem write_agrees (io : FileIo) (s : MetadataSnapshot) : Agree disk file ((writeSnapshot io s).run disk)
    (match writtenFile io s with
      | .error e => (.error (.metadata e), file)
      | .ok payload => (.ok (), some payload)) := by
  have hrun : (writeSnapshot io s).run disk =
      if io.mkdir && io.mkstemp && decide (serialize (snapshotDocument s)).Encodable && io.write && io.fsync && io.replace
      then .ok () { file := some (snapshotDocument s) }
      else .error (.write "The provider metadata could not be written atomically.") disk := by
    unfold writeSnapshot
    dsimp only
    split <;> rfl
  rw [hrun]
  unfold writtenFile
  by_cases hencodable : (serialize (snapshotDocument s)).Encodable
  · obtain ⟨payload, hencode⟩ : ∃ payload, (serialize (snapshotDocument s)).encodeUtf8 = some payload :=
      ⟨_, if_pos hencodable⟩
    rw [hencode, decide_eq_true hencodable, Bool.and_true]
    dsimp only
    split
    · exact .inr ⟨s, rfl, hencode.symm⟩
    · exact ⟨rfl, rfl, rfl⟩
  · have hencode : (serialize (snapshotDocument s)).encodeUtf8 = none := if_neg hencodable
    rw [hencode, decide_eq_false hencodable, Bool.and_false, if_neg (by simp)]
    exact ⟨rfl, rfl, rfl⟩

theorem mutate_agrees (hread : readSnapshot none op.io disk = .ok s)
    (call : DocumentIo → MetadataSnapshot → Except MetadataError MetadataSnapshot)
    (hcall : op.kind.apply s = some <$> call {} s) : Agree disk file ((mutate none op.io call).run disk) (op.works s file) := by
  rw [mutate, EStateM.run_bind, inspect_run hread, Operation.works, hcall]
  cases call {} s with
  | error e => exact ⟨rfl, rfl, rfl⟩
  | ok s' => exact write_agrees op.io s'

/-- What a mutation refuses leaves both as they were. -/
theorem mutate_refused {e : MetadataError} (hread : readSnapshot none op.io disk = .ok s)
    {call : DocumentIo → MetadataSnapshot → Except MetadataError MetadataSnapshot} (hcall : call {} s = .error e) :
    Agree disk file ((mutate none op.io call).run disk) (.error (.metadata e), file) := by
  rw [mutate, EStateM.run_bind, inspect_run hread, hcall]
  exact ⟨rfl, rfl, rfl⟩

theorem inspect_agrees {α : Type} (hread : readSnapshot none op.io disk = .ok s)
    (call : DocumentIo → MetadataSnapshot → Except MetadataError α) (hcall : ∃ a, call {} s = .ok a)
    (hnone : op.kind.apply s = .ok none) :
    Agree disk file (((fun _ => ()) <$> inspect none op.io call).run disk) (op.works s file) := by
  obtain ⟨a, ha⟩ := hcall
  rw [map_eq_pure_bind, EStateM.run_bind, inspect_run hread, ha, Operation.works, hnone]
  exact .inl ⟨rfl, rfl⟩

theorem onFile_of_refusal {file : Option Bytes} {e : MetadataError} (h : op.kind.refusal = some e) :
    op.onFile limit file = (.error (.metadata e), file) := by
  unfold Operation.onFile
  rw [h]

/-- Where the bytes and the document are read as one snapshot, the operations do the same to both. -/
theorem onFile_agrees (hdisk : readSnapshot none op.io disk = .ok s) (hfile : readFile limit op.io file = .ok s) :
    Agree disk file ((op.program none).run disk) (op.onFile limit file) := by
  have honFile (h : op.kind.refusal = none) : op.onFile limit file = op.works s file := by
    unfold Operation.onFile
    rw [h, hfile]
  obtain ⟨kind, io⟩ := op
  cases kind with
  | listProfiles | getProfile | getActiveProfileId | listCredentialBindings | getCredentialBinding =>
    rw [honFile rfl]
    exact inspect_agrees hdisk _ ⟨_, rfl⟩ rfl
  | deleteProfile | setActiveProfileId | deleteCredentialBinding =>
    rw [honFile rfl]
    exact mutate_agrees hdisk _ rfl
  | saveProfile profile =>
    by_cases hvalid : validateSupportedProfile profile = .ok () ∧ ¬HasSensitiveMetadata [profile.displayName, profile.model]
    · rw [honFile (if_pos hvalid)]
      refine mutate_agrees hdisk (fun io s => (·.sortProfiles) <$> s.saveProfile io profile) ?_
      show (some ·.sortProfiles) <$> s.saveProfile {} profile = some <$> (·.sortProfiles) <$> s.saveProfile {} profile
      cases s.saveProfile {} profile <;> rfl
    · have hrefused : s.saveProfile {} profile = .error (.conflict "The provider profile cannot be persisted safely.") :=
        dif_neg hvalid
      have hrefusal : (OperationKind.saveProfile profile).refusal
          = some (.conflict "The provider profile cannot be persisted safely.") := if_neg hvalid
      rw [onFile_of_refusal hrefusal]
      exact mutate_refused hdisk (by rw [hrefused]; rfl)
  | saveCredentialBinding binding =>
    by_cases hvalid : validateSupportedCredentialBinding binding = .ok () ∧ ¬HasSensitiveMetadata [binding.displayName]
    · rw [honFile (if_pos hvalid)]
      refine mutate_agrees hdisk (fun io s => (·.sortBindings) <$> s.saveCredentialBinding io binding) ?_
      show (some ·.sortBindings) <$> s.saveCredentialBinding {} binding
        = some <$> (·.sortBindings) <$> s.saveCredentialBinding {} binding
      cases s.saveCredentialBinding {} binding <;> rfl
    · have hrefused : s.saveCredentialBinding {} binding
          = .error (.conflict "The credential binding cannot be persisted safely.") := if_neg hvalid
      have hrefusal : (OperationKind.saveCredentialBinding binding).refusal
          = some (.conflict "The credential binding cannot be persisted safely.") := if_neg hvalid
      rw [onFile_of_refusal hrefusal]
      exact mutate_refused hdisk (by rw [hrefused]; rfl)

/-- An operation that raises has left the file alone, and raises an error of the repository. -/
theorem works_error (file : Option Bytes) {e : RaisedError} (h : (op.works s file).1 = .error e) :
    (∃ e', e = .metadata e') ∧ (op.works s file).2 = file := by
  unfold Operation.works at h ⊢
  split at h
  next => exact ⟨⟨_, (Except.error.inj h).symm⟩, by simp [*]⟩
  next => cases h
  next =>
    split at h
    next => exact ⟨⟨_, (Except.error.inj h).symm⟩, by simp [*]⟩
    next => cases h

theorem failsClosed_raised {e : MetadataError}
    (heq : op.onFile limit (some payload) = (.error (.metadata e), some payload)) : FailsClosed limit payload op := by
  unfold FailsClosed
  rw [heq]

/-- An operation that works on a document of the schema fails closed. -/
theorem failsClosed_works (hload : loadDocument limit payload = .ok document) (hschema : Schema document s)
    (heq : op.onFile limit (some payload) = op.works s (some payload)) : FailsClosed limit payload op := by
  unfold FailsClosed
  rw [heq]
  cases hworks : (op.works s (some payload)).1 with
  | ok u => exact ⟨document, s, hload, hschema, rfl⟩
  | error e =>
    obtain ⟨⟨e', rfl⟩, hfile⟩ := works_error _ hworks
    exact hfile

theorem onFile_of_read {file : Option Bytes} (h : op.kind.refusal = none) : op.onFile limit file =
    match readFile limit op.io file with
    | .error e => (.error e, file)
    | .ok s => op.works s file := by
  unfold Operation.onFile
  rw [h]

/-- Listing the profiles raises what reading raises, and nothing else. -/
theorem listProfiles_onFile : Operation.onFile limit { kind := .listProfiles } (some payload) =
    match readPayload limit payload with
    | .error e => (.error e, some payload)
    | .ok _ => (.ok (), some payload) := rfl

/-- A document of the rest of the schema whose version equals one is worked on. -/
theorem not_failsClosed_of_equalsOne (hload : loadDocument limit payload = .ok document) (hrest : RestOfSchema document s)
    {value : Json} (hversion : Member document "schema_version" value) (hequals : EqualsOne value) :
    ¬FailsClosed limit payload { kind := .listProfiles } := by
  have hread : readPayload limit payload = .ok s :=
    readPayload_eq_ok.mpr ⟨document, hload, hrest, isVersionOne_iff.mpr ⟨value, hversion, .inr hequals⟩⟩
  intro hclosed
  unfold FailsClosed at hclosed
  rw [listProfiles_onFile, hread] at hclosed
  obtain ⟨document', s', hload', hschema, -⟩ := hclosed
  obtain rfl := Except.ok.inj (hload.symm.trans hload')
  obtain rfl := Option.some.inj (hversion.symm.trans hschema.schema_version)
  rcases hequals with hequals | ⟨written, hequals, -⟩
  · cases hequals
  · cases hequals

theorem not_failsClosed_of_tooDeep (h : TooDeep limit payload) : ¬FailsClosed limit payload { kind := .listProfiles } := by
  have hread : readPayload limit payload = .error .recursion := by
    unfold readPayload
    rw [loadDocument_tooDeep h]
  unfold FailsClosed
  rw [listProfiles_onFile, hread]
  exact id

/-- Brackets in a file that may have as many of them, and more than the interpreter goes deep. -/
theorem tooDeep_nested {n : Nat} (hdeep : limit < n) (hlength : n ≤ maxDocumentBytes) :
    TooDeep limit (List.replicate n 0x5B) := by
  have htext : ∀ n, Bytes.decodeUtf8 (List.replicate n 0x5B) = some (List.replicate n 0x5B) := by
    intro n
    induction n with
    | zero => rfl
    | succ n ih =>
      rw [List.replicate_succ, Bytes.decodeUtf8_cons (by decide), ih]
      rfl
  exact ⟨by rwa [List.length_replicate], _, htext n, Json.jsonLoads_nested hdeep⟩

end

end JsonProviderProfileRepository

end ArkClaw.Provider
