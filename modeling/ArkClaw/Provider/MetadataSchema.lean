import ArkClaw.Provider.JsonProfileRepository
import Mathlib.Data.List.Forall2
import Mathlib.Data.Option.Basic

/-!
# The schema of the metadata document

What a document must be, told by its members: which keys there are, of which type their values are and what they stand
for. The parser returns a snapshot exactly for the documents of the schema, except that it does not look at the version
of the document itself (`parseSnapshot_iff`).
-/

namespace ArkClaw.Provider

open ArkClaw.Library ArkClaw.Domain
open Option (guard_eq_some' bind_eq_some_iff bind_eq_bind)

/-- The members have these keys and no others. -/
def ExactKeys (members : Json.Members) (expected : List Text) : Prop :=
  ∀ key, key ∈ members.map Prod.fst ↔ key ∈ expected

/-- The member under a key. -/
def Member (members : Json.Members) (key : String) (value : Json) : Prop := members.get? (lit key) = some value

/-- What a base URL is stored as. -/
def NormalizesTo : Option Text → Option Text → Prop
  | none, none => True
  | some url, some baseUrl => normalizeBaseUrl url = some baseUrl
  | _, _ => False

structure CapabilitiesSchema (item : Json.Members) (capabilities : ProviderCapabilities) : Prop where
  keys : ExactKeys item capabilityKeys
  streaming : Member item "streaming" (.bool capabilities.streaming)
  tools : Member item "tools" (.bool capabilities.tools)
  embeddings : Member item "embeddings" (.bool capabilities.embeddings)
  continuation_mode : Member item "continuation_mode" (.str (continuationModeValue capabilities.continuationMode))
  protocol : Member item "protocol" (.str (protocolValue capabilities.protocol))

/-- The members of a profile, before its texts are normalized. -/
structure ProfileSchema (item : Json.Members) (profile : ProviderProfile) : Prop where
  keys : ExactKeys item profileKeys
  schema_version : Member item "schema_version" (.int 1)
  profile_id : Member item "profile_id" (.str profile.profileId.value)
  display_name : Member item "display_name" (.str profile.displayName)
  provider_id : Member item "provider_id" (.str profile.providerId.value)
  protocol : Member item "protocol" (.str (protocolValue profile.protocol))
  base_url : ∃ url, Member item "base_url" (optionalText url) ∧ NormalizesTo url profile.baseUrl
  model : Member item "model" (.str profile.model)
  credential_id : Member item "credential_id" (optionalText (profile.credentialId.map (·.value)))
  capabilities : ∃ members, Member item "capabilities" (.obj members) ∧ CapabilitiesSchema members profile.capabilities
  enabled : Member item "enabled" (.bool profile.enabled)

structure BindingSchema (item : Json.Members) (binding : CredentialBinding) : Prop where
  keys : ExactKeys item bindingKeys
  schema_version : Member item "schema_version" (.int 1)
  credential_id : Member item "credential_id" (.str binding.credentialId.value)
  provider_id : Member item "provider_id" (.str binding.providerId.value)
  allowed_origin : ∃ origin, Member item "allowed_origin" (.str origin) ∧ normalizeHttpsOrigin origin = some binding.allowedOrigin
  display_name : Member item "display_name" (.str binding.displayName)

/-- A value is the object of a profile. -/
def IsProfile (value : Json) (profile : ProviderProfile) : Prop :=
  ∃ item written, value = .obj item ∧ ProfileSchema item written ∧ written.create = .ok profile

/-- A value is the object of a binding. -/
def IsBinding (value : Json) (binding : CredentialBinding) : Prop :=
  ∃ item written, value = .obj item ∧ BindingSchema item written ∧ written.create = .ok binding

/-- The records a document lists, and the profile it names as active. -/
structure RecordsSchema (document : Json.Members) (activeProfileId : Option ProfileId) (profiles : List ProviderProfile)
    (bindings : List CredentialBinding) : Prop where
  keys : ExactKeys document rootKeys
  active_profile_id : Member document "active_profile_id" (optionalText (activeProfileId.map (·.value)))
  profiles : ∃ values, Member document "profiles" (.arr values) ∧ values.length ≤ maxRecords
    ∧ List.Forall₂ IsProfile values profiles
  credential_bindings : ∃ values, Member document "credential_bindings" (.arr values) ∧ values.length ≤ maxRecords
    ∧ List.Forall₂ IsBinding values bindings

/-- All the schema but the version of the document: its records are supported, differ in their identifiers and refer to
each other, and the snapshot holds them in order. -/
def RestOfSchema (document : Json.Members) (s : MetadataSnapshot) : Prop :=
  ∃ activeProfileId profiles bindings, RecordsSchema document activeProfileId profiles bindings
    ∧ ∃ h : Accepted activeProfileId profiles bindings, s = acceptedSnapshot activeProfileId profiles bindings h

/-- The document of a snapshot, as the schema has it. -/
structure Schema (document : Json.Members) (s : MetadataSnapshot) : Prop where
  schema_version : Member document "schema_version" (.int providerMetadataSchemaVersion)
  rest : RestOfSchema document s

/-! ## The typed readers -/

section

variable {item : Json.Members} {key : String}

theorem requireExactKeys_iff {expected : List Text} :
    requireExactKeys item expected = some () ↔ ExactKeys item expected := by
  unfold requireExactKeys ExactKeys
  rw [guard_eq_some', List.forall_mem_map.symm]
  exact ⟨fun h key => ⟨h.1 key, h.2 key⟩, fun h => ⟨fun key => (h key).mp, fun key => (h key).mpr⟩⟩

theorem field_iff {α : Type} {read : Json → Option α} {a : α} :
    field item key read = some a ↔ ∃ value, Member item key value ∧ read value = some a :=
  bind_eq_some_iff

theorem string_iff {value : Json} {s : Text} : string value = some s ↔ value = .str s := by
  cases value <;> simp [string]

theorem boolean_iff {value : Json} {b : Bool} : boolean value = some b ↔ value = .bool b := by
  cases value <;> simp [boolean]

theorem integer_iff {value : Json} {n : Int} : integer value = some n ↔ value = .int n := by
  cases value <;> simp [integer]

theorem objectList_iff {value : Json} {items : List Json} : objectList value = some items ↔ value = .arr items := by
  cases value <;> simp [objectList]

theorem objectMapping_iff {value : Json} {members : Json.Members} :
    objectMapping value = some members ↔ value = .obj members := by
  cases value <;> simp [objectMapping]

/-- A reader that takes one value for each result. -/
theorem field_eq {α : Type} {read : Json → Option α} {value : α → Json} (hread : ∀ v a, read v = some a ↔ v = value a)
    {a : α} : field item key read = some a ↔ Member item key (value a) := by
  rw [field_iff]
  constructor
  · rintro ⟨v, hmember, hv⟩
    rwa [← (hread v a).mp hv]
  · exact fun hmember => ⟨value a, hmember, (hread _ a).mpr rfl⟩

/-- Texts that are parsed: each result has one text. -/
theorem parsed_iff {α : Type} {parse : Text → Option α} {text : α → Text} (hparse : ∀ s a, parse s = some a ↔ s = text a)
    (v : Json) (a : α) : (string v >>= parse) = some a ↔ v = .str (text a) := by
  rw [bind_eq_bind, bind_eq_some_iff]
  constructor
  · rintro ⟨s, hs, ha⟩
    rw [string_iff.mp hs, (hparse s a).mp ha]
  · rintro rfl
    exact ⟨text a, rfl, (hparse _ a).mpr rfl⟩

/-- The reader of what may be null, of a reader of texts. -/
theorem optional_iff {α : Type} {read : Json → Option α} {text : α → Text}
    (hread : ∀ v a, read v = some a ↔ v = .str (text a)) (v : Json) (a : Option α) :
    optional read v = some a ↔ v = optionalText (a.map text) := by
  cases a with
  | none =>
    cases v with
    | null => exact iff_of_true rfl rfl
    | _ => exact iff_of_false (fun h => by obtain ⟨_, _, h⟩ := Option.map_eq_some_iff.mp h; cases h) nofun
  | some a =>
    cases v with
    | null => exact iff_of_false nofun nofun
    | _ =>
      show Option.map some (read _) = some (some a) ↔ _
      rw [Option.map_eq_some_iff]
      simp [hread, optionalText]

end

/-- A value that is made of the texts that are valid is made of its own text. -/
theorem validated_iff {α : Type} (valid : Text → Bool) (make : (s : Text) → valid s = true → α) (text : α → Text)
    (hvalid : ∀ a, valid (text a) = true) (htext : ∀ s h, text (make s h) = s) (hmake : ∀ a h, make (text a) h = a)
    (s : Text) (a : α) : (if h : valid s = true then some (make s h) else none) = some a ↔ s = text a := by
  constructor
  · intro h
    split at h
    next hs => rw [← Option.some.inj h, htext]
    next => cases h
  · rintro rfl
    rw [dif_pos (hvalid a), hmake]

theorem parseProfileId_iff (s : Text) (a : ProfileId) : parseProfileId s = some a ↔ s = a.value :=
  validated_iff (validateOpaqueId · reservedProfileIds) ProfileId.mk ProfileId.value ProfileId.valid (fun _ _ => rfl) (fun _ _ => rfl) s a

theorem parseCredentialId_iff (s : Text) (a : CredentialId) : parseCredentialId s = some a ↔ s = a.value :=
  validated_iff (validateOpaqueId · reservedCredentialIds) CredentialId.mk CredentialId.value CredentialId.valid (fun _ _ => rfl) (fun _ _ => rfl) s a

theorem parseProviderId_iff (s : Text) (a : ProviderId) : parseProviderId s = some a ↔ s = a.value :=
  validated_iff isProviderId ProviderId.mk ProviderId.value ProviderId.valid (fun _ _ => rfl) (fun _ _ => rfl) s a

theorem parseProtocol_iff (s : Text) (a : ApiProtocol) : parseProtocol s = some a ↔ s = protocolValue a := by
  constructor
  · intro h
    have hfound := List.find?_some h
    exact (of_decide_eq_true hfound).symm
  · rintro rfl
    cases a <;> decide

theorem parseContinuationMode_iff (s : Text) (a : ContinuationMode) :
    parseContinuationMode s = some a ↔ s = continuationModeValue a := by
  constructor
  · intro h
    have hfound := List.find?_some h
    exact (of_decide_eq_true hfound).symm
  · rintro rfl
    cases a <;> decide

/-! ## The records -/

theorem parseCapabilities_iff {value : Json} {capabilities : ProviderCapabilities} :
    parseCapabilities value = some capabilities ↔ ∃ item, value = .obj item ∧ CapabilitiesSchema item capabilities := by
  unfold parseCapabilities
  simp only [bind_eq_bind, bind_eq_some_iff, objectMapping_iff]
  constructor
  · rintro ⟨item, rfl, _, hkeys, streaming, hstreaming, tools, htools, embeddings, hembeddings, mode, hmode, protocol,
      hprotocol, h⟩
    obtain rfl := Option.some.inj h
    exact ⟨item, rfl, requireExactKeys_iff.mp hkeys, (field_eq (fun v a => boolean_iff)).mp hstreaming,
      (field_eq (fun v a => boolean_iff)).mp htools, (field_eq (fun v a => boolean_iff)).mp hembeddings,
      (field_eq (parsed_iff parseContinuationMode_iff)).mp hmode, (field_eq (parsed_iff parseProtocol_iff)).mp hprotocol⟩
  · rintro ⟨item, rfl, h⟩
    exact ⟨item, rfl, (), requireExactKeys_iff.mpr h.keys, _, (field_eq (fun v a => boolean_iff)).mpr h.streaming,
      _, (field_eq (fun v a => boolean_iff)).mpr h.tools, _, (field_eq (fun v a => boolean_iff)).mpr h.embeddings,
      _, (field_eq (parsed_iff parseContinuationMode_iff)).mpr h.continuation_mode,
      _, (field_eq (parsed_iff parseProtocol_iff)).mpr h.protocol, rfl⟩

theorem toOption_iff {ε α : Type} {x : Except ε α} {a : α} : x.toOption = some a ↔ x = .ok a := by
  cases x <;> simp [Except.toOption]

theorem normalizesTo_iff {url baseUrl : Option Text} :
    url.elim (some none) (fun url => some <$> normalizeBaseUrl url) = some baseUrl ↔ NormalizesTo url baseUrl := by
  cases url with
  | none => cases baseUrl <;> simp [NormalizesTo]
  | some url => cases baseUrl <;> simp [NormalizesTo]

theorem field_capabilities_iff {item : Json.Members} {capabilities : ProviderCapabilities} :
    field item "capabilities" parseCapabilities = some capabilities ↔
      ∃ members, Member item "capabilities" (.obj members) ∧ CapabilitiesSchema members capabilities := by
  rw [field_iff]
  constructor
  · rintro ⟨v, hmember, hv⟩
    obtain ⟨members, rfl, hschema⟩ := parseCapabilities_iff.mp hv
    exact ⟨members, hmember, hschema⟩
  · rintro ⟨members, hmember, hschema⟩
    exact ⟨_, hmember, parseCapabilities_iff.mpr ⟨members, rfl, hschema⟩⟩

theorem parseProfile_iff {value : Json} {profile : ProviderProfile} :
    parseProfile value = some profile ↔ IsProfile value profile := by
  constructor
  · intro h
    obtain ⟨item, hitem, h⟩ := bind_eq_some_iff.mp h
    obtain ⟨_, hkeys, h⟩ := bind_eq_some_iff.mp h
    obtain ⟨capabilities, hcaps, h⟩ := bind_eq_some_iff.mp h
    obtain ⟨url, hurl, h⟩ := bind_eq_some_iff.mp h
    obtain ⟨profileId, hprofile, h⟩ := bind_eq_some_iff.mp h
    obtain ⟨displayName, hdisplay, h⟩ := bind_eq_some_iff.mp h
    obtain ⟨providerId, hprovider, h⟩ := bind_eq_some_iff.mp h
    obtain ⟨protocol, hprotocol, h⟩ := bind_eq_some_iff.mp h
    obtain ⟨baseUrl, hbase, h⟩ := bind_eq_some_iff.mp h
    obtain ⟨model, hmodel, h⟩ := bind_eq_some_iff.mp h
    obtain ⟨credentialId, hcredential, h⟩ := bind_eq_some_iff.mp h
    obtain ⟨enabled, henabled, h⟩ := bind_eq_some_iff.mp h
    obtain ⟨version, hversion, h⟩ := bind_eq_some_iff.mp h
    obtain ⟨_, hone, hcreate⟩ := bind_eq_some_iff.mp h
    obtain rfl := (guard_eq_some' _).mp hone
    refine ⟨item, _, objectMapping_iff.mp hitem, ?_, toOption_iff.mp hcreate⟩
    constructor
    · exact requireExactKeys_iff.mp hkeys
    · exact (field_eq (fun v a => integer_iff)).mp hversion
    · exact (field_eq (parsed_iff parseProfileId_iff)).mp hprofile
    · exact (field_eq (fun v a => string_iff)).mp hdisplay
    · exact (field_eq (parsed_iff parseProviderId_iff)).mp hprovider
    · exact (field_eq (parsed_iff parseProtocol_iff)).mp hprotocol
    · exact ⟨url, by simpa using (field_eq (optional_iff (fun v a => string_iff))).mp hurl, normalizesTo_iff.mp hbase⟩
    · exact (field_eq (fun v a => string_iff)).mp hmodel
    · exact (field_eq (optional_iff (parsed_iff parseCredentialId_iff))).mp hcredential
    · exact field_capabilities_iff.mp hcaps
    · exact (field_eq (fun v a => boolean_iff)).mp henabled
  · rintro ⟨item, written, rfl, h, hcreate⟩
    obtain ⟨url, hurl, hbase⟩ := h.base_url
    have hurl' : field item "base_url" (optional string) = some url :=
      (field_eq (optional_iff (fun v a => string_iff))).mpr (by simpa using hurl)
    refine bind_eq_some_iff.mpr ⟨(), requireExactKeys_iff.mpr h.keys, ?_⟩
    refine bind_eq_some_iff.mpr ⟨_, field_capabilities_iff.mpr h.capabilities, ?_⟩
    refine bind_eq_some_iff.mpr ⟨url, hurl', ?_⟩
    refine bind_eq_some_iff.mpr ⟨_, (field_eq (parsed_iff parseProfileId_iff)).mpr h.profile_id, ?_⟩
    refine bind_eq_some_iff.mpr ⟨_, (field_eq (fun v a => string_iff)).mpr h.display_name, ?_⟩
    refine bind_eq_some_iff.mpr ⟨_, (field_eq (parsed_iff parseProviderId_iff)).mpr h.provider_id, ?_⟩
    refine bind_eq_some_iff.mpr ⟨_, (field_eq (parsed_iff parseProtocol_iff)).mpr h.protocol, ?_⟩
    refine bind_eq_some_iff.mpr ⟨_, normalizesTo_iff.mpr hbase, ?_⟩
    refine bind_eq_some_iff.mpr ⟨_, (field_eq (fun v a => string_iff)).mpr h.model, ?_⟩
    refine bind_eq_some_iff.mpr
      ⟨_, (field_eq (optional_iff (parsed_iff parseCredentialId_iff))).mpr h.credential_id, ?_⟩
    refine bind_eq_some_iff.mpr ⟨_, (field_eq (fun v a => boolean_iff)).mpr h.enabled, ?_⟩
    refine bind_eq_some_iff.mpr ⟨_, (field_eq (fun v a => integer_iff)).mpr h.schema_version, ?_⟩
    exact bind_eq_some_iff.mpr ⟨(), rfl, toOption_iff.mpr hcreate⟩

theorem parseBinding_iff {value : Json} {binding : CredentialBinding} :
    parseBinding value = some binding ↔ IsBinding value binding := by
  constructor
  · intro h
    obtain ⟨item, hitem, h⟩ := bind_eq_some_iff.mp h
    obtain ⟨_, hkeys, h⟩ := bind_eq_some_iff.mp h
    obtain ⟨written, hwritten, h⟩ := bind_eq_some_iff.mp h
    obtain ⟨credentialId, hcredential, h⟩ := bind_eq_some_iff.mp h
    obtain ⟨providerId, hprovider, h⟩ := bind_eq_some_iff.mp h
    obtain ⟨allowedOrigin, horigin, h⟩ := bind_eq_some_iff.mp h
    obtain ⟨displayName, hdisplay, h⟩ := bind_eq_some_iff.mp h
    obtain ⟨version, hversion, h⟩ := bind_eq_some_iff.mp h
    obtain ⟨_, hone, hcreate⟩ := bind_eq_some_iff.mp h
    obtain rfl := (guard_eq_some' _).mp hone
    refine ⟨item, _, objectMapping_iff.mp hitem, ?_, toOption_iff.mp hcreate⟩
    constructor
    · exact requireExactKeys_iff.mp hkeys
    · exact (field_eq (fun v a => integer_iff)).mp hversion
    · exact (field_eq (parsed_iff parseCredentialId_iff)).mp hcredential
    · exact (field_eq (parsed_iff parseProviderId_iff)).mp hprovider
    · exact ⟨written, (field_eq (fun v a => string_iff)).mp hwritten, horigin⟩
    · exact (field_eq (fun v a => string_iff)).mp hdisplay
  · rintro ⟨item, written, rfl, h, hcreate⟩
    obtain ⟨origin, hwritten, horigin⟩ := h.allowed_origin
    refine bind_eq_some_iff.mpr ⟨(), requireExactKeys_iff.mpr h.keys, ?_⟩
    refine bind_eq_some_iff.mpr ⟨origin, (field_eq (fun v a => string_iff)).mpr hwritten, ?_⟩
    refine bind_eq_some_iff.mpr ⟨_, (field_eq (parsed_iff parseCredentialId_iff)).mpr h.credential_id, ?_⟩
    refine bind_eq_some_iff.mpr ⟨_, (field_eq (parsed_iff parseProviderId_iff)).mpr h.provider_id, ?_⟩
    refine bind_eq_some_iff.mpr ⟨_, horigin, ?_⟩
    refine bind_eq_some_iff.mpr ⟨_, (field_eq (fun v a => string_iff)).mpr h.display_name, ?_⟩
    refine bind_eq_some_iff.mpr ⟨_, (field_eq (fun v a => integer_iff)).mpr h.schema_version, ?_⟩
    exact bind_eq_some_iff.mpr ⟨(), rfl, toOption_iff.mpr hcreate⟩

/-! ## The document -/

/-- The values of a list are read one by one. -/
theorem mapM_iff {α : Type} {read : Json → Option α} {R : Json → α → Prop}
    (hread : ∀ v a, read v = some a ↔ R v a) {values : List Json} {results : List α} :
    values.mapM read = some results ↔ List.Forall₂ R values results := by
  induction values generalizing results with
  | nil =>
    rw [List.mapM_nil, List.forall₂_nil_left_iff]
    exact ⟨fun h => (Option.some.inj h).symm, fun h => congrArg some h.symm⟩
  | cons v rest ih =>
    rw [List.mapM_cons, List.forall₂_cons_left_iff]
    simp only [bind_eq_bind, bind_eq_some_iff, ih, hread]
    constructor
    · rintro ⟨a, ha, results', hrest, h⟩
      exact ⟨a, results', ha, hrest, (Option.some.inj h).symm⟩
    · rintro ⟨a, results', ha, hrest, rfl⟩
      exact ⟨a, ha, results', hrest, rfl⟩

/-- The parser accepts the documents of the schema, whatever their version is. -/
theorem parseSnapshot_iff {document : Json.Members} {s : MetadataSnapshot} :
    parseSnapshot document = .ok s ↔ RestOfSchema document s := by
  have hprofile : ∀ v a, parseProfile v = some a ↔ IsProfile v a := fun v a => parseProfile_iff
  have hbinding : ∀ v a, parseBinding v = some a ↔ IsBinding v a := fun v a => parseBinding_iff
  unfold parseSnapshot
  dsimp only
  constructor
  · intro h
    split at h
    next => cases h
    next snapshot hparsed =>
      obtain rfl : snapshot = s := Except.ok.inj h
      obtain ⟨_, hkeys, h⟩ := bind_eq_some_iff.mp hparsed
      obtain ⟨activeProfileId, hactive, h⟩ := bind_eq_some_iff.mp h
      obtain ⟨profileValues, hprofiles, h⟩ := bind_eq_some_iff.mp h
      obtain ⟨bindingValues, hbindings, h⟩ := bind_eq_some_iff.mp h
      obtain ⟨_, hlimit, h⟩ := bind_eq_some_iff.mp h
      obtain ⟨profiles, hprofileItems, h⟩ := bind_eq_some_iff.mp h
      obtain ⟨bindings, hbindingItems, h⟩ := bind_eq_some_iff.mp h
      obtain ⟨hprofileLimit, hbindingLimit⟩ := (guard_eq_some' _).mp hlimit
      split at h
      next haccepted =>
        refine ⟨activeProfileId, profiles, bindings, ?_, haccepted, (Option.some.inj h).symm⟩
        constructor
        · exact requireExactKeys_iff.mp hkeys
        · exact (field_eq (optional_iff (parsed_iff parseProfileId_iff))).mp hactive
        · exact ⟨profileValues, (field_eq (fun v a => objectList_iff)).mp hprofiles, hprofileLimit,
            (mapM_iff hprofile).mp hprofileItems⟩
        · exact ⟨bindingValues, (field_eq (fun v a => objectList_iff)).mp hbindings, hbindingLimit,
            (mapM_iff hbinding).mp hbindingItems⟩
      next => cases h
  · rintro ⟨activeProfileId, profiles, bindings, h, haccepted, rfl⟩
    obtain ⟨profileValues, hprofiles, hprofileLimit, hprofileItems⟩ := h.profiles
    obtain ⟨bindingValues, hbindings, hbindingLimit, hbindingItems⟩ := h.credential_bindings
    rw [requireExactKeys_iff.mpr h.keys, (field_eq (optional_iff (parsed_iff parseProfileId_iff))).mpr h.active_profile_id,
      (field_eq (fun v a => objectList_iff)).mpr hprofiles, (field_eq (fun v a => objectList_iff)).mpr hbindings]
    simp only [bind_eq_bind, Option.bind_some, hprofileLimit, hbindingLimit, and_self, guard_true, Option.pure_def,
      (mapM_iff hprofile).mpr hprofileItems, (mapM_iff hbinding).mpr hbindingItems, dif_pos haccepted]

end ArkClaw.Provider
