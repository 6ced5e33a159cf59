import ArkClaw.Library.JsonText
import ArkClaw.Library.Program
import ArkClaw.Provider.MetadataRepository
import Mathlib.Data.List.Lex
import Mathlib.Order.Fin.Basic

/-!
# The repository in a file

The metadata is one JSON document in a file, which is there or not. A call reads the whole document, parses it strictly,
and a mutation writes the whole of it into a temporary file that replaces the old one. That `json.loads` gives back what
`json.dumps` has printed is assumed here: the file is given by the value, not by its text.
-/

namespace ArkClaw.Provider

open ArkClaw.Library ArkClaw.Domain

/-! ## URLs -/

/-- `urllib.parse.urlsplit`, with the absent parts empty. -/
structure SplitUrl where
  scheme : Text := []
  netloc : Text := []
  path : Text := []
  query : Text := []
  fragment : Text := []

def isSchemeChar (c : CodePoint) : Bool :=
  isLower c || isDigit c || decide (0x41 ≤ c.val ∧ c.val ≤ 0x5A) || c = 0x2B || c = 0x2D || c = 0x2E

/-- The text up to a code point, and what follows it. -/
def partitionAt (c : CodePoint) (s : Text) : Text × Option Text :=
  let before := s.takeWhile (· ≠ c)
  (before, if before.length < s.length then some (s.drop (before.length + 1)) else none)

/-- A host in brackets must be closed. The host itself is not looked at: no URL of the policy has brackets. -/
def urlsplit (url : Text) : Option SplitUrl :=
  let url := (url.dropWhile fun c => decide (c.val ≤ 0x20)).filter fun c => c ≠ 0x09 ∧ c ≠ 0x0A ∧ c ≠ 0x0D
  let (scheme, url) :=
    match partitionAt 0x3A url with
    | (c :: rest, some after) =>
      if (isSchemeChar c && !isDigit c && c ≠ 0x2B && c ≠ 0x2D && c ≠ 0x2E) && rest.all isSchemeChar then
        (Text.lower (c :: rest), after)
      else ([], url)
    | _ => ([], url)
  let (netloc, url) :=
    if url.take 2 = lit "//" then
      let netloc := (url.drop 2).takeWhile fun c => c ≠ 0x2F ∧ c ≠ 0x3F ∧ c ≠ 0x23
      (netloc, url.drop (2 + netloc.length))
    else ([], url)
  if decide (0x5B ∈ netloc) ≠ decide (0x5D ∈ netloc) then none
  else
    let (url, fragment) := partitionAt 0x23 url
    let (path, query) := partitionAt 0x3F url
    some { scheme, netloc, path, query := query.getD [], fragment := fragment.getD [] }

/-- There is a user name or a password. -/
def SplitUrl.hasUserInfo (u : SplitUrl) : Bool := decide (0x40 ∈ u.netloc)

/-- `_normalize_https_origin`. -/
def normalizeHttpsOrigin (value : Text) : Option Text := do
  guard (value.length ≤ 2048)
  let parsed ← urlsplit value.strip
  guard (parsed.scheme = lit "https" ∧ parsed.netloc ≠ [] ∧ !parsed.hasUserInfo
    ∧ (parsed.path = [] ∨ parsed.path = lit "/") ∧ parsed.query = [] ∧ parsed.fragment = [])
  return lit "https://" ++ parsed.netloc.lower

/-- The base URL as a profile stores it. -/
def normalizeBaseUrl (value : Text) : Option Text := do
  guard (value.length ≤ 2048)
  let normalized := value.strip.rdropWhile (· = 0x2F)
  let parsed ← urlsplit normalized
  guard ((parsed.scheme = lit "http" ∨ parsed.scheme = lit "https") ∧ parsed.netloc ≠ [] ∧ !parsed.hasUserInfo
    ∧ parsed.query = [] ∧ parsed.fragment = [])
  return normalized

/-! ## The document -/

def providerMetadataSchemaVersion : Int := 1
def maxDocumentBytes : Nat := 4 * 1024 * 1024
def maxRecords : Nat := 1000

def protocolValue : ApiProtocol → Text
  | .internal => lit "internal"
  | .responses => lit "responses"
  | .chatCompletions => lit "chat_completions"
  | .ollamaChat => lit "ollama_chat"

def continuationModeValue : ContinuationMode → Text
  | .none => lit "none"
  | .replayMessages => lit "replay_messages"
  | .replayProviderItems => lit "replay_provider_items"
  | .serverReference => lit "server_reference"

def optionalText (value : Option Text) : Json := value.elim .null .str

def profileDocument (profile : ProviderProfile) : Json := .obj
  [(lit "schema_version", .int 1), (lit "profile_id", .str profile.profileId.value),
    (lit "display_name", .str profile.displayName), (lit "provider_id", .str profile.providerId.value),
    (lit "protocol", .str (protocolValue profile.protocol)), (lit "base_url", optionalText profile.baseUrl),
    (lit "model", .str profile.model), (lit "credential_id", optionalText (profile.credentialId.map (·.value))),
    (lit "capabilities", .obj
      [(lit "streaming", .bool profile.capabilities.streaming), (lit "tools", .bool profile.capabilities.tools),
        (lit "embeddings", .bool profile.capabilities.embeddings),
        (lit "continuation_mode", .str (continuationModeValue profile.capabilities.continuationMode)),
        (lit "protocol", .str (protocolValue profile.capabilities.protocol))]),
    (lit "enabled", .bool profile.enabled)]

def bindingDocument (binding : CredentialBinding) : Json := .obj
  [(lit "schema_version", .int 1), (lit "credential_id", .str binding.credentialId.value),
    (lit "provider_id", .str binding.providerId.value), (lit "allowed_origin", .str binding.allowedOrigin),
    (lit "display_name", .str binding.displayName)]

/-- `_snapshot_document`. -/
def snapshotDocument (s : MetadataSnapshot) : Json.Members :=
  [(lit "schema_version", .int providerMetadataSchemaVersion),
    (lit "active_profile_id", optionalText (s.activeProfileId.map (·.value))),
    (lit "profiles", .arr (s.profiles.map profileDocument)),
    (lit "credential_bindings", .arr (s.credentialBindings.map bindingDocument))]

/-! ## Parsing -/

def objectMapping : Json → Option Json.Members
  | .obj members => some members
  | _ => none

def objectList : Json → Option (List Json)
  | .arr items => some items
  | _ => none

def string : Json → Option Text
  | .str value => some value
  | _ => none

def boolean : Json → Option Bool
  | .bool value => some value
  | _ => none

def integer : Json → Option Int
  | .int value => some value
  | _ => none

/-- `null`, or what is read of the value. -/
def optional {α : Type} (read : Json → Option α) : Json → Option (Option α)
  | .null => some none
  | value => some <$> read value

/-- The members have these keys and no others. -/
def requireExactKeys (members : Json.Members) (expected : List Text) : Option Unit :=
  guard ((∀ m ∈ members, m.1 ∈ expected) ∧ ∀ key ∈ expected, key ∈ members.map Prod.fst)

def rootKeys : List Text :=
  [lit "schema_version", lit "active_profile_id", lit "profiles", lit "credential_bindings"]

def profileKeys : List Text :=
  [lit "schema_version", lit "profile_id", lit "display_name", lit "provider_id", lit "protocol", lit "base_url",
    lit "model", lit "credential_id", lit "capabilities", lit "enabled"]

def capabilityKeys : List Text :=
  [lit "streaming", lit "tools", lit "embeddings", lit "continuation_mode", lit "protocol"]

def bindingKeys : List Text :=
  [lit "schema_version", lit "credential_id", lit "provider_id", lit "allowed_origin", lit "display_name"]

def parseProfileId (value : Text) : Option ProfileId :=
  if h : validateOpaqueId value reservedProfileIds = true then some ⟨value, h⟩ else none

def parseCredentialId (value : Text) : Option CredentialId :=
  if h : validateOpaqueId value reservedCredentialIds = true then some ⟨value, h⟩ else none

def parseProviderId (value : Text) : Option ProviderId :=
  if h : isProviderId value = true then some ⟨value, h⟩ else none

def parseProtocol (value : Text) : Option ApiProtocol :=
  [.internal, .responses, .chatCompletions, .ollamaChat].find? fun p => protocolValue p = value

def parseContinuationMode (value : Text) : Option ContinuationMode :=
  [.none, .replayMessages, .replayProviderItems, .serverReference].find? fun m => continuationModeValue m = value

/-- The member under a key, read. -/
def field {α : Type} (members : Json.Members) (key : String) (read : Json → Option α) : Option α :=
  members.get? (lit key) >>= read

def parseCapabilities (value : Json) : Option ProviderCapabilities := do
  let item ← objectMapping value
  requireExactKeys item capabilityKeys
  return {
    streaming := ← field item "streaming" boolean
    tools := ← field item "tools" boolean
    embeddings := ← field item "embeddings" boolean
    continuationMode := ← field item "continuation_mode" fun v => string v >>= parseContinuationMode
    protocol := ← field item "protocol" fun v => string v >>= parseProtocol }

def parseProfile (value : Json) : Option ProviderProfile := do
  let item ← objectMapping value
  requireExactKeys item profileKeys
  let capabilities ← field item "capabilities" parseCapabilities
  let baseUrl ← field item "base_url" (optional string)
  let profile : ProviderProfile := {
    profileId := ← field item "profile_id" fun v => string v >>= parseProfileId
    displayName := ← field item "display_name" string
    providerId := ← field item "provider_id" fun v => string v >>= parseProviderId
    protocol := ← field item "protocol" fun v => string v >>= parseProtocol
    baseUrl := ← baseUrl.elim (some none) fun url => some <$> normalizeBaseUrl url
    model := ← field item "model" string
    credentialId := ← field item "credential_id" (optional fun v => string v >>= parseCredentialId)
    capabilities
    enabled := ← field item "enabled" boolean }
  guard ((← field item "schema_version" integer) = 1)
  profile.create.toOption

def parseBinding (value : Json) : Option CredentialBinding := do
  let item ← objectMapping value
  requireExactKeys item bindingKeys
  let allowedOrigin ← field item "allowed_origin" string
  let binding : CredentialBinding := {
    credentialId := ← field item "credential_id" fun v => string v >>= parseCredentialId
    providerId := ← field item "provider_id" fun v => string v >>= parseProviderId
    allowedOrigin := ← normalizeHttpsOrigin allowedOrigin
    displayName := ← field item "display_name" string }
  guard ((← field item "schema_version" integer) = 1)
  binding.create.toOption

def sortedProfiles (profiles : List ProviderProfile) : List ProviderProfile :=
  profiles.mergeSort fun a b => a.profileId.value ≤ b.profileId.value

def sortedBindings (bindings : List CredentialBinding) : List CredentialBinding :=
  bindings.mergeSort fun a b => a.credentialId.value ≤ b.credentialId.value

/-- What `_parse_snapshot` requires of the records together. -/
structure Accepted (activeProfileId : Option ProfileId) (profiles : List ProviderProfile)
    (bindings : List CredentialBinding) : Prop where
  profile_ids : (profiles.map (·.profileId)).Nodup
  credential_ids : (bindings.map (·.credentialId)).Nodup
  supported : ∀ p ∈ profiles, validateSupportedProfile p = .ok ()
  insensitive : ∀ p ∈ profiles, ¬HasSensitiveMetadata [p.displayName, p.model]
  bound : ∀ p ∈ profiles, p.credentialId ≠ none → MetadataSnapshot.bindingForProfile p bindings ≠ none
  supported_bindings : ∀ b ∈ bindings, validateSupportedCredentialBinding b = .ok ()
  insensitive_bindings : ∀ b ∈ bindings, ¬HasSensitiveMetadata [b.displayName]
  active_stored : ∀ profileId, activeProfileId = some profileId → ∃ p ∈ profiles, p.profileId = profileId

instance (activeProfileId : Option ProfileId) (profiles : List ProviderProfile) (bindings : List CredentialBinding) :
    Decidable (Accepted activeProfileId profiles bindings) :=
  decidable_of_iff
    ((profiles.map (·.profileId)).Nodup ∧ (bindings.map (·.credentialId)).Nodup ∧
      (∀ p ∈ profiles, validateSupportedProfile p = .ok ()) ∧
      (∀ p ∈ profiles, ¬HasSensitiveMetadata [p.displayName, p.model]) ∧
      (∀ p ∈ profiles, p.credentialId ≠ none → MetadataSnapshot.bindingForProfile p bindings ≠ none) ∧
      (∀ b ∈ bindings, validateSupportedCredentialBinding b = .ok ()) ∧
      (∀ b ∈ bindings, ¬HasSensitiveMetadata [b.displayName]) ∧
      ∀ profileId ∈ activeProfileId, ∃ p ∈ profiles, p.profileId = profileId)
    ⟨fun ⟨h₁, h₂, h₃, h₄, h₅, h₆, h₇, h₈⟩ => ⟨h₁, h₂, h₃, h₄, h₅, h₆, h₇, h₈⟩,
      fun ⟨h₁, h₂, h₃, h₄, h₅, h₆, h₇, h₈⟩ => ⟨h₁, h₂, h₃, h₄, h₅, h₆, h₇, h₈⟩⟩

theorem mem_sortedProfiles {profiles : List ProviderProfile} {p : ProviderProfile} :
    p ∈ sortedProfiles profiles ↔ p ∈ profiles := List.mem_mergeSort

theorem mem_sortedBindings {bindings : List CredentialBinding} {b : CredentialBinding} :
    b ∈ sortedBindings bindings ↔ b ∈ bindings := List.mem_mergeSort

theorem profileOf_ne_none {profiles : List ProviderProfile} {profileId : ProfileId} :
    profileOf profiles profileId ≠ none ↔ ∃ p ∈ profiles, p.profileId = profileId := by
  simp [profileOf]

namespace MetadataSnapshot

/-- The snapshot with its profiles in order. -/
def sortProfiles (s : MetadataSnapshot) : MetadataSnapshot where
  activeProfileId := s.activeProfileId
  profiles := sortedProfiles s.profiles
  credentialBindings := s.credentialBindings
  supported p hp := s.supported p (mem_sortedProfiles.mp hp)
  active_stored profileId h := by
    obtain ⟨p, hp, hid⟩ := profileOf_ne_none.mp (s.active_stored profileId h)
    exact profileOf_ne_none.mpr ⟨p, mem_sortedProfiles.mpr hp, hid⟩

/-- The snapshot with its bindings in order. -/
def sortBindings (s : MetadataSnapshot) : MetadataSnapshot :=
  { s with credentialBindings := sortedBindings s.credentialBindings }

end MetadataSnapshot

def corrupted : MetadataError := .corrupted "The provider metadata document is corrupted."

/-- The snapshot of accepted records, in order. -/
def acceptedSnapshot (activeProfileId : Option ProfileId) (profiles : List ProviderProfile)
    (bindings : List CredentialBinding) (h : Accepted activeProfileId profiles bindings) : MetadataSnapshot :=
  MetadataSnapshot.sortBindings (MetadataSnapshot.sortProfiles {
    activeProfileId, profiles, credentialBindings := bindings, supported := h.supported
    active_stored := fun profileId hid => profileOf_ne_none.mpr (h.active_stored profileId hid) })

/-- `_parse_snapshot`. -/
def parseSnapshot (document : Json.Members) : Except MetadataError MetadataSnapshot :=
  let parsed : Option MetadataSnapshot := do
    requireExactKeys document rootKeys
    let activeProfileId ← field document "active_profile_id" (optional fun v => string v >>= parseProfileId)
    let profileValues ← field document "profiles" objectList
    let bindingValues ← field document "credential_bindings" objectList
    guard (profileValues.length ≤ maxRecords ∧ bindingValues.length ≤ maxRecords)
    let profiles ← profileValues.mapM parseProfile
    let bindings ← bindingValues.mapM parseBinding
    if h : Accepted activeProfileId profiles bindings then
      some (acceptedSnapshot activeProfileId profiles bindings h)
    else none
  match parsed with
  | none => .error corrupted
  | some snapshot => .ok snapshot

/-! ## The file -/

/-- The metadata file: the document in it, if it is there. -/
structure Disk where
  file : Option Json.Members := none

/-- How the file system answers one call. -/
structure FileIo where
  /-- Reading the file raises. -/
  unreadable : Bool := false
  mkdir : Bool := true
  mkstemp : Bool := true
  write : Bool := true
  fsync : Bool := true
  replace : Bool := true

/-- The text of a document. -/
def serialize (document : Json.Members) : Text := Json.dumps 0 (.obj document) ++ lit "\n"

namespace JsonProviderProfileRepository

/-- What a migrator makes of an older document; it may raise. -/
abbrev Migrator := Json.Members → Option Json.Members

/-- A version of one, as the source compares it: `1`, `true` and `1.0` are equal. -/
def isCurrentVersion (document : Json.Members) : Bool :=
  match document.get? (lit "schema_version") with
  | some (.int version) => version = providerMetadataSchemaVersion
  | some (.bool value) => value
  | some (.float repr) => repr = lit "1.0"
  | _ => false

variable (migrator : Option Migrator) (io : FileIo)

/-- The document brought to the current version. -/
def migrate (document : Json.Members) : Except MetadataError Json.Members :=
  if isCurrentVersion document then .ok document
  else
    match migrator with
    | none => .error (.schema "The provider metadata schema is not supported.")
    | some migrator =>
      match migrator document with
      | none => .error (.schema "The provider metadata migration failed safely.")
      | some migrated =>
        if isCurrentVersion migrated then .ok migrated
        else .error (.schema "The provider metadata migration is incomplete.")

/-- What a file that is not there is read as. -/
def emptySnapshot : MetadataSnapshot := {}

/-- `_read_snapshot`. -/
def readSnapshot (disk : Disk) : Except MetadataError MetadataSnapshot :=
  if io.unreadable then .error (.corrupted "The provider metadata could not be read safely.")
  else
    match disk.file with
    | none => .ok emptySnapshot
    | some document =>
      if maxDocumentBytes < (serialize document).utf8Length then
        .error (.corrupted "The provider metadata document is too large.")
      else do
        let document ← migrate migrator document
        parseSnapshot document

/-- `_write_snapshot`. Only the replacement at the end touches the file. -/
def writeSnapshot (s : MetadataSnapshot) : EStateM MetadataError Disk Unit := do
  let document := snapshotDocument s
  if io.mkdir && io.mkstemp && decide (serialize document).Encodable && io.write && io.fsync && io.replace then
    set ({ file := some document } : Disk)
  else throw (.write "The provider metadata could not be written atomically.")

/-- A call that reads the file. -/
def inspect {α : Type} (call : DocumentIo → MetadataSnapshot → Except MetadataError α) :
    EStateM MetadataError Disk α := do
  match readSnapshot migrator io (← get) with
  | .error e => getOrRaise (call { unreadable := some e } {})
  | .ok s => getOrRaise (call {} s)

/-- A call that reads the file and writes what becomes of it. -/
def mutate (call : DocumentIo → MetadataSnapshot → Except MetadataError MetadataSnapshot) :
    EStateM MetadataError Disk Unit := do
  let s ← inspect migrator io call
  writeSnapshot io s

def listProfiles : EStateM MetadataError Disk (List ProviderProfile) :=
  inspect migrator io fun io s => (·.profiles) <$> s.read io

def getProfile (profileId : ProfileId) : EStateM MetadataError Disk (Option ProviderProfile) :=
  inspect migrator io fun io s => s.getProfile io profileId

def saveProfile (profile : ProviderProfile) : EStateM MetadataError Disk Unit :=
  mutate migrator io fun io s => (·.sortProfiles) <$> s.saveProfile io profile

def deleteProfile (profileId : ProfileId) : EStateM MetadataError Disk Unit :=
  mutate migrator io fun io s => s.deleteProfile io profileId

def getActiveProfileId : EStateM MetadataError Disk (Option ProfileId) :=
  inspect migrator io fun io s => (·.activeProfileId) <$> s.read io

def setActiveProfileId (profileId : ProfileId) : EStateM MetadataError Disk Unit :=
  mutate migrator io fun io s => s.setActiveProfileId io profileId

def listCredentialBindings : EStateM MetadataError Disk (List CredentialBinding) :=
  inspect migrator io fun io s => s.listCredentialBindings io

def getCredentialBinding (credentialId : CredentialId) : EStateM MetadataError Disk (Option CredentialBinding) :=
  inspect migrator io fun io s => s.getCredentialBinding io credentialId

def saveCredentialBinding (binding : CredentialBinding) : EStateM MetadataError Disk Unit :=
  mutate migrator io fun io s => (·.sortBindings) <$> s.saveCredentialBinding io binding

def deleteCredentialBinding (credentialId : CredentialId) : EStateM MetadataError Disk Unit :=
  mutate migrator io fun io s => s.deleteCredentialBinding io credentialId

/-! ## The operations -/

inductive OperationKind where
  | listProfiles
  | getProfile (profileId : ProfileId)
  | saveProfile (profile : ProviderProfile)
  | deleteProfile (profileId : ProfileId)
  | getActiveProfileId
  | setActiveProfileId (profileId : ProfileId)
  | listCredentialBindings
  | getCredentialBinding (credentialId : CredentialId)
  | saveCredentialBinding (binding : CredentialBinding)
  | deleteCredentialBinding (credentialId : CredentialId)

structure Operation where
  kind : OperationKind
  io : FileIo := {}

/-- The program of an operation, what it returns dropped. -/
def Operation.program (op : Operation) : EStateM MetadataError Disk Unit :=
  match op.kind with
  | .listProfiles => (fun _ => ()) <$> JsonProviderProfileRepository.listProfiles migrator op.io
  | .getProfile profileId => (fun _ => ()) <$> JsonProviderProfileRepository.getProfile migrator op.io profileId
  | .saveProfile profile => JsonProviderProfileRepository.saveProfile migrator op.io profile
  | .deleteProfile profileId => JsonProviderProfileRepository.deleteProfile migrator op.io profileId
  | .getActiveProfileId => (fun _ => ()) <$> JsonProviderProfileRepository.getActiveProfileId migrator op.io
  | .setActiveProfileId profileId => JsonProviderProfileRepository.setActiveProfileId migrator op.io profileId
  | .listCredentialBindings => (fun _ => ()) <$> JsonProviderProfileRepository.listCredentialBindings migrator op.io
  | .getCredentialBinding credentialId =>
    (fun _ => ()) <$> JsonProviderProfileRepository.getCredentialBinding migrator op.io credentialId
  | .saveCredentialBinding binding => JsonProviderProfileRepository.saveCredentialBinding migrator op.io binding
  | .deleteCredentialBinding credentialId =>
    JsonProviderProfileRepository.deleteCredentialBinding migrator op.io credentialId

def step (disk : Disk) (op : Operation) : Disk := stateAfter (op.program migrator) disk

end JsonProviderProfileRepository

end ArkClaw.Provider
