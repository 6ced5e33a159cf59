import ArkClaw.Pet.ExternalAssets

/-!
# When the external assets are loaded

A port may answer anything at any call. `Observed` says what it answers to the calls of a load that is not cut short, and
`Matches` what the loader checks of these answers. `loads_exactly`: the load succeeds exactly when the port answers every
call, the answers match, no file has alternate data streams and every handle is set back to its start; the snapshot then
holds the bytes that were hashed, and otherwise all that was opened is closed, the last first. Without the last two
conditions this fails (`streams_not_loaded`).
-/

namespace ArkClaw.Pet

open ArkClaw.Library

namespace ExternalPetAssetLoader

open ExternalAssets

variable {σ ρ η : Type}

/-! ## What the port answers -/

/-- The port gives the blocks and then an empty one. -/
inductive Reads (fs : ExternalPetAssetFilesystem σ ρ η) (handle : η) : σ → List Bytes → σ → Prop
  | done {s s' : σ} : Gives (fs.read handle chunkBytes) s [] s' → Reads fs handle s [] s'
  | block {s s' s'' : σ} {b : Bytes} {bs : List Bytes} : Gives (fs.read handle chunkBytes) s b s' → b ≠ [] →
    Reads fs handle s' bs s'' → Reads fs handle s (b :: bs) s''

/-- What the port says of a file. -/
structure FileReading where
  initial : ExternalFileIdentity
  alternateStreams : Bool
  blocks : List Bytes
  final : ExternalFileIdentity

/-- The bytes that were read. -/
def FileReading.data (reading : FileReading) : Bytes := reading.blocks.flatten

/-- The calls of a file's reading, none of which raises. -/
def Answers (fs : ExternalPetAssetFilesystem σ ρ η) (handle : η) (s : σ) (reading : FileReading) (s' : σ) : Prop :=
  ∃ s₁ s₂ position s₃ s₄, Gives (fs.identity handle) s reading.initial s₁
    ∧ Gives (fs.hasAlternateDataStreams handle) s₁ reading.alternateStreams s₂
    ∧ Gives (fs.seek handle 0) s₂ position s₃
    ∧ Reads fs handle s₃ reading.blocks s₄
    ∧ Gives (fs.currentIdentity handle) s₄ reading.final s'

/-- What the port has opened, and what it says of it. -/
structure Transcript (ρ η : Type) where
  root : ρ
  skeletonHandle : η
  atlasHandle : η
  textureHandle : η
  skeleton : FileReading
  atlas : FileReading
  texture : FileReading

/-- The calls up to the last reading, none of which raises. -/
def Observed (fs : ExternalPetAssetFilesystem σ ρ η) (descriptor : ExternalPetAssetDescriptor) (s : σ)
    (t : Transcript ρ η) (s' : σ) : Prop :=
  ∃ s₁ s₂ s₃ s₄ s₅ s₆, Gives (fs.openRoot descriptor.assetRoot) s t.root s₁
    ∧ Gives (fs.openFile t.root descriptor.skeletonFilename) s₁ t.skeletonHandle s₂
    ∧ Gives (fs.openFile t.root descriptor.atlasFilename) s₂ t.atlasHandle s₃
    ∧ Gives (fs.openFile t.root descriptor.textureFilename) s₃ t.textureHandle s₄
    ∧ Answers fs t.skeletonHandle s₄ t.skeleton s₅
    ∧ Answers fs t.atlasHandle s₅ t.atlas s₆
    ∧ Answers fs t.textureHandle s₆ t.texture s'

/-- Each handle is set back to its start. -/
def Rewinds (fs : ExternalPetAssetFilesystem σ ρ η) : List η → σ → σ → Prop
  | [], s, s' => s = s'
  | handle :: rest, s, s'' => ∃ position s', Gives (fs.seek handle 0) s position s' ∧ Rewinds fs rest s' s''

/-! ## What is checked -/

/-- A file is as large as declared and as allowed, and the same before and after. -/
structure FileMatches (maximumBytes : Int) (reading : FileReading) : Prop where
  limit : reading.initial.sizeBytes ≤ maximumBytes
  size : (reading.data.length : Int) = reading.initial.sizeBytes
  unchanged : reading.final = reading.initial

/-- What was read passes every check of the loader. -/
structure Matches (sha256 : Bytes → Text) (descriptor : ExternalPetAssetDescriptor) (t : Transcript ρ η) : Prop where
  skeleton : FileMatches descriptor.limits.skeletonMaxBytes t.skeleton
  atlas : FileMatches descriptor.limits.atlasMaxBytes t.atlas
  texture : FileMatches descriptor.limits.textureMaxBytes t.texture
  bundle : (t.skeleton.data.length + t.atlas.data.length + t.texture.data.length : Int)
    ≤ descriptor.limits.bundleMaxBytes
  hashes : ∀ expected, descriptor.expectedSha256 = some expected →
    (∀ digest, expected.skeletonSha256 = some digest → digest = sha256 t.skeleton.data)
      ∧ (∀ digest, expected.atlasSha256 = some digest → digest = sha256 t.atlas.data)
      ∧ ∀ digest, expected.textureSha256 = some digest → digest = sha256 t.texture.data
  headers : ∃ texture atlas skeleton,
    parsePngMetadata (t.texture.data.take pngPrefixBytes) (sha256 t.texture.data) = .ok texture
      ∧ parseAtlasMetadata t.atlas.data (sha256 t.atlas.data) descriptor.textureFilename = .ok atlas
      ∧ atlas.pageWidth = texture.width ∧ atlas.pageHeight = texture.height
      ∧ parseSkeletonMetadata (t.skeleton.data.take skeletonPrefixBytes) (sha256 t.skeleton.data)
        descriptor.expectedSpineMajor descriptor.expectedSpineMinor = .ok skeleton

/-- No file has streams besides its own. -/
structure Plain (t : Transcript ρ η) : Prop where
  skeleton : t.skeleton.alternateStreams = false
  atlas : t.atlas.alternateStreams = false
  texture : t.texture.alternateStreams = false

/-! ## The readings -/

section

variable {fs : ExternalPetAssetFilesystem σ ρ η} {sha256 : Bytes → Text} {load load' : AssetLoad σ ρ η}

theorem gives_call {α : Type} {program : EStateM AssetError σ α} {a : α} :
    Gives (call program : Loading σ ρ η α) load a load' ↔
      ∃ port, Gives program load.port a port ∧ { load with port } = load' := gives_onPart

theorem gives_check {α : Type} {result : Check α} {a : α} :
    Gives (check result : Loading σ ρ η α) load a load' ↔ result = .ok a ∧ load = load' := by
  cases result <;> simp [check]

theorem readBlocks_gives {handle : η} {maximumBytes : Int} {data digest : Bytes} {rounds : Nat} {d g : Bytes}
    (hpos : 0 < rounds) (hrounds : maximumBytes < data.length + rounds) :
    Gives (readBlocks fs handle maximumBytes data digest rounds) load (d, g) load' ↔
      ∃ blocks port, Reads fs handle load.port blocks port
        ∧ (blocks ≠ [] → (data.length + blocks.flatten.length : Int) ≤ maximumBytes)
        ∧ data ++ blocks.flatten = d ∧ digest ++ blocks.flatten = g ∧ { load with port } = load' := by
  induction rounds generalizing data digest load with
  | zero => omega
  | succ rounds ih =>
    unfold readBlocks
    simp only [gives_bind, gives_call]
    constructor
    · rintro ⟨block, load₁, ⟨port₁, hread, rfl⟩, hrest⟩
      split at hrest
      next hempty =>
        obtain ⟨hvalue, rfl⟩ := gives_pure.mp hrest
        obtain ⟨rfl, rfl⟩ := Prod.mk.inj hvalue
        subst hempty
        exact ⟨[], port₁, .done hread, fun h => absurd rfl h, by simp, by simp, rfl⟩
      next hblock =>
        split at hrest
        next => exact absurd hrest gives_throw
        next hlimit =>
          have hlength := List.length_pos_of_ne_nil hblock
          have hpos' : 0 < rounds := by omega
          have hrounds' : maximumBytes < ((data ++ block).length : Int) + rounds := by
            rw [List.length_append]
            omega
          obtain ⟨blocks, port, hreads, hfits, rfl, rfl, rfl⟩ := (ih hpos' hrounds').mp hrest
          refine ⟨block :: blocks, port, .block hread hblock hreads, fun _ => ?_, by simp, by simp, rfl⟩
          rw [List.flatten_cons, List.length_append]
          by_cases hlast : blocks = []
          · subst hlast
            simp only [List.flatten_nil, List.length_nil]
            omega
          · have hfits := hfits hlast
            rw [List.length_append] at hfits
            omega
    · rintro ⟨blocks, port, hreads, hfits, rfl, rfl, rfl⟩
      cases hreads with
      | done hread => exact ⟨[], _, ⟨port, hread, rfl⟩, by simp⟩
      | @block _ port₁ _ block rest hread hblock hreads =>
        have hfits := hfits (List.cons_ne_nil _ _)
        have hlength := List.length_pos_of_ne_nil hblock
        rw [List.flatten_cons, List.length_append] at hfits
        refine ⟨block, _, ⟨port₁, hread, rfl⟩, ?_⟩
        rw [if_neg hblock, if_neg (by omega)]
        have hpos' : 0 < rounds := by omega
        have hrounds' : maximumBytes < ((data ++ block).length : Int) + rounds := by
          rw [List.length_append]
          omega
        refine (ih hpos' hrounds').mpr ⟨rest, port, hreads, fun _ => ?_, by simp, by simp, rfl⟩
        rw [List.length_append]
        omega

/-- A file is read when the port answers, nothing is hidden in it and its size is right. -/
theorem readVerified_gives {handle : η} {maximumBytes : Int} {result : ReadResult} :
    Gives (readVerified fs sha256 handle maximumBytes) load result load' ↔
      ∃ reading port, Answers fs handle load.port reading port ∧ FileMatches maximumBytes reading
        ∧ reading.alternateStreams = false
        ∧ { data := reading.data, sha256 := sha256 reading.data, sizeBytes := reading.data.length } = result
        ∧ { load with port } = load' := by
  unfold readVerified
  simp only [gives_bind, gives_call]
  constructor
  · rintro ⟨initial, _, ⟨port₁, hinitial, rfl⟩, hrest⟩
    split at hrest
    next => exact absurd hrest gives_throw
    next hlimit =>
      simp only [gives_bind, gives_call] at hrest
      obtain ⟨streams, _, ⟨port₂, hstreams, rfl⟩, hrest⟩ := hrest
      split at hrest
      next => exact absurd hrest gives_throw
      next hplain =>
        simp only [gives_bind, gives_call] at hrest
        obtain ⟨position, _, ⟨port₃, hseek, rfl⟩, ⟨data, digest⟩, _, hblocks, final, _, ⟨port₅, hfinal, rfl⟩, hrest⟩ :=
          hrest
        obtain ⟨blocks, port₄, hreads, -, hdata, hdigest, rfl⟩ :=
          (readBlocks_gives (by omega) (by simp only [List.length_nil]; omega)).mp hblocks
        split at hrest
        next => exact absurd hrest gives_throw
        next hsame =>
          obtain ⟨rfl, rfl⟩ := gives_pure.mp hrest
          simp only [List.nil_append] at hdata hdigest
          obtain rfl := hdata
          obtain rfl := hdigest
          rw [not_or, not_not, not_not] at hsame
          refine ⟨⟨initial, streams, blocks, final⟩, port₅, ⟨port₁, port₂, position, port₃, port₄, hinitial, hstreams,
            hseek, hreads, hfinal⟩, ⟨by simpa using hlimit, hsame.2, hsame.1⟩, by simpa using hplain, rfl, rfl⟩
  · rintro ⟨reading, port₅, ⟨port₁, port₂, position, port₃, port₄, hinitial, hstreams, hseek, hreads, hfinal⟩, hmatches,
      hplain, rfl, rfl⟩
    have hsize := hmatches.size
    have hlimit := hmatches.limit
    refine ⟨_, _, ⟨port₁, hinitial, rfl⟩, ?_⟩
    rw [if_neg (by omega)]
    simp only [gives_bind, gives_call]
    refine ⟨_, _, ⟨port₂, hstreams, rfl⟩, ?_⟩
    rw [hplain]
    simp only [Bool.false_eq_true, if_false, gives_bind, gives_call]
    refine ⟨_, _, ⟨port₃, hseek, rfl⟩, (reading.data, reading.data), { load with port := port₄ }, ?_, reading.final, _,
      ⟨port₅, hfinal, rfl⟩, ?_⟩
    · refine (readBlocks_gives (by omega) (by simp only [List.length_nil]; omega)).mpr
        ⟨reading.blocks, port₄, hreads, fun _ => ?_, rfl, rfl, rfl⟩
      have hdata : (reading.blocks.flatten.length : Int) = reading.data.length := rfl
      simp only [List.length_nil]
      omega
    · rw [if_neg (by rw [not_or, not_not, not_not]; exact ⟨hmatches.unchanged, hsize⟩)]
      exact gives_pure.mpr ⟨rfl, rfl⟩

/-! ## The load -/

theorem min_matches {reading : FileReading} {a b : Int} :
    FileMatches (min a b) reading ↔ FileMatches a reading ∧ reading.initial.sizeBytes ≤ b :=
  ⟨fun h => ⟨⟨(Int.le_min.mp h.limit).1, h.size, h.unchanged⟩, (Int.le_min.mp h.limit).2⟩,
    fun h => ⟨Int.le_min.mpr ⟨h.1.limit, h.2⟩, h.1.size, h.1.unchanged⟩⟩

/-- What `_read_verified` returns of a reading. -/
def resultOf (sha256 : Bytes → Text) (reading : FileReading) : ReadResult where
  data := reading.data
  sha256 := sha256 reading.data
  sizeBytes := reading.data.length

theorem verifyExpectedHashes_ok {expected : Option ExternalPetAssetHashes} {skeleton atlas texture : ReadResult} :
    verifyExpectedHashes expected skeleton atlas texture = .ok () ↔ ∀ hashes, expected = some hashes →
      (∀ digest, hashes.skeletonSha256 = some digest → digest = skeleton.sha256)
        ∧ (∀ digest, hashes.atlasSha256 = some digest → digest = atlas.sha256)
        ∧ ∀ digest, hashes.textureSha256 = some digest → digest = texture.sha256 := by
  have hpair : ∀ (value : Option Text) (actual : Text),
      (value.isSome && decide (value ≠ some actual)) = false ↔ ∀ digest, value = some digest → digest = actual := by
    intro value actual
    cases value <;> simp
  cases expected with
  | none => simp [verifyExpectedHashes]
  | some hashes =>
    unfold verifyExpectedHashes
    dsimp only
    split
    next hany =>
      simp only [reduceCtorEq, false_iff]
      intro h
      obtain ⟨hskeleton, hatlas, htexture⟩ := h hashes rfl
      simp only [List.any_cons, List.any_nil, Bool.or_false, (hpair _ _).mpr hskeleton, (hpair _ _).mpr hatlas,
        (hpair _ _).mpr htexture] at hany
      cases hany
    next hany =>
      simp only [List.any_cons, List.any_nil, Bool.or_false, Bool.not_eq_true, Bool.or_eq_false_iff, hpair] at hany
      simp only [true_iff]
      intro hashes' heq
      obtain rfl := Option.some.inj heq
      exact hany

theorem check_bind_ok {α β : Type} {c : Check α} {f : α → Check β} {b : β} :
    (c >>= f) = .ok b ↔ ∃ a, c = .ok a ∧ f a = .ok b := by
  cases c <;> simp [bind, Except.bind]

/-- The checks of what was read, and what they return. -/
theorem checkFiles_ok {descriptor : ExternalPetAssetDescriptor} {skeleton atlas texture : ReadResult}
    {metadata : ExternalPetAssetMetadata} : checkFiles descriptor skeleton atlas texture = .ok metadata ↔
      ((skeleton.sizeBytes + atlas.sizeBytes + texture.sizeBytes : Nat) : Int) ≤ descriptor.limits.bundleMaxBytes
      ∧ verifyExpectedHashes descriptor.expectedSha256 skeleton atlas texture = .ok ()
      ∧ parsePngMetadata (texture.data.take pngPrefixBytes) texture.sha256 = .ok metadata.texture
      ∧ parseAtlasMetadata atlas.data atlas.sha256 descriptor.textureFilename = .ok metadata.atlas
      ∧ metadata.atlas.pageWidth = metadata.texture.width ∧ metadata.atlas.pageHeight = metadata.texture.height
      ∧ parseSkeletonMetadata (skeleton.data.take skeletonPrefixBytes) skeleton.sha256
        descriptor.expectedSpineMajor descriptor.expectedSpineMinor = .ok metadata.skeleton
      ∧ metadata.totalSizeBytes = skeleton.sizeBytes + atlas.sizeBytes + texture.sizeBytes := by
  unfold checkFiles
  dsimp only
  split
  next hlarge =>
    simp only [reduceCtorEq, false_iff]
    intro h
    omega
  next hlarge =>
    simp only [check_bind_ok]
    constructor
    · rintro ⟨_, hhashes, texture, htexture, atlas, hatlas, hrest⟩
      split at hrest
      next => cases hrest
      next hpage =>
        obtain ⟨skeleton, hskeleton, hmetadata⟩ := check_bind_ok.mp hrest
        obtain rfl := Except.ok.inj hmetadata
        rw [not_or, not_not, not_not] at hpage
        exact ⟨by omega, hhashes, htexture, hatlas, hpage.1, hpage.2, hskeleton, rfl⟩
    · rintro ⟨-, hhashes, htexture, hatlas, hwidth, hheight, hskeleton, htotal⟩
      refine ⟨_, hhashes, _, htexture, _, hatlas, ?_⟩
      rw [if_neg (by rw [not_or, not_not, not_not]; exact ⟨hwidth, hheight⟩)]
      refine check_bind_ok.mpr ⟨_, hskeleton, ?_⟩
      rw [← htotal]
      rfl

theorem rewind_gives {handles : List η} {a : PUnit} :
    Gives (rewind fs handles : Loading σ ρ η PUnit) load a load' ↔
      ∃ port, Rewinds fs handles load.port port ∧ { load with port } = load' := by
  induction handles generalizing load with
  | nil =>
    unfold rewind
    rw [gives_pure]
    constructor
    · rintro ⟨-, rfl⟩
      exact ⟨_, rfl, rfl⟩
    · rintro ⟨_, rfl, rfl⟩
      exact ⟨rfl, rfl⟩
  | cons handle rest ih =>
    unfold rewind
    simp only [gives_bind, gives_call, ih]
    constructor
    · rintro ⟨position, _, ⟨port₁, hseek, rfl⟩, port, hrest, rfl⟩
      exact ⟨port, ⟨position, port₁, hseek, hrest⟩, rfl⟩
    · rintro ⟨port, ⟨position, port₁, hseek, hrest⟩, rfl⟩
      exact ⟨position, _, ⟨port₁, hseek, rfl⟩, port, hrest, rfl⟩

/-- The three files are read within the limits of each and of the bundle. -/
theorem readFiles_gives {limits : ExternalPetAssetLimits} {skeleton atlas texture : η}
    {results : ReadResult × ReadResult × ReadResult} :
    Gives (readFiles fs sha256 limits skeleton atlas texture) load results load' ↔
      ∃ k a x s₁ s₂ s₃, Answers fs skeleton load.port k s₁ ∧ Answers fs atlas s₁ a s₂ ∧ Answers fs texture s₂ x s₃
        ∧ (FileMatches limits.skeletonMaxBytes k ∧ FileMatches limits.atlasMaxBytes a
          ∧ FileMatches limits.textureMaxBytes x
          ∧ (k.data.length + a.data.length + x.data.length : Int) ≤ limits.bundleMaxBytes)
        ∧ (k.alternateStreams = false ∧ a.alternateStreams = false ∧ x.alternateStreams = false)
        ∧ (resultOf sha256 k, resultOf sha256 a, resultOf sha256 x) = results ∧ { load with port := s₃ } = load' := by
  unfold readFiles
  simp only [gives_bind, readVerified_gives, min_matches]
  constructor
  · rintro ⟨_, _, ⟨k, s₁, hk, ⟨hkm, hkb⟩, hks, rfl, rfl⟩, _, _, ⟨a, s₂, ha, ⟨ham, hab⟩, has, rfl, rfl⟩, _, _,
      ⟨x, s₃, hx, ⟨hxm, hxb⟩, hxs, rfl, rfl⟩, hresults⟩
    obtain ⟨rfl, rfl⟩ := gives_pure.mp hresults
    have hsize := hxm.size
    refine ⟨k, a, x, s₁, s₂, s₃, hk, ha, hx, ⟨hkm, ham, hxm, ?_⟩, ⟨hks, has, hxs⟩, rfl, rfl⟩
    dsimp only at hxb
    omega
  · rintro ⟨k, a, x, s₁, s₂, s₃, hk, ha, hx, ⟨hkm, ham, hxm, hsum⟩, ⟨hks, has, hxs⟩, rfl, rfl⟩
    have hksize := hkm.size
    have hasize := ham.size
    have hxsize := hxm.size
    refine ⟨_, _, ⟨k, s₁, hk, ⟨hkm, by omega⟩, hks, rfl, rfl⟩, _, _, ⟨a, s₂, ha, ⟨ham, ?_⟩, has, rfl, rfl⟩, _, _,
      ⟨x, s₃, hx, ⟨hxm, ?_⟩, hxs, rfl, rfl⟩, gives_pure.mpr ⟨rfl, rfl⟩⟩
    · dsimp only
      omega
    · dsimp only
      omega

/-- What has been checked of a transcript is what it has to match. -/
theorem matches_iff {descriptor : ExternalPetAssetDescriptor} {t : Transcript ρ η} :
    Matches sha256 descriptor t ↔
      (FileMatches descriptor.limits.skeletonMaxBytes t.skeleton ∧ FileMatches descriptor.limits.atlasMaxBytes t.atlas
        ∧ FileMatches descriptor.limits.textureMaxBytes t.texture
        ∧ (t.skeleton.data.length + t.atlas.data.length + t.texture.data.length : Int)
          ≤ descriptor.limits.bundleMaxBytes)
      ∧ ∃ metadata, checkFiles descriptor (resultOf sha256 t.skeleton) (resultOf sha256 t.atlas)
        (resultOf sha256 t.texture) = .ok metadata := by
  simp only [checkFiles_ok, verifyExpectedHashes_ok]
  constructor
  · intro h
    obtain ⟨texture, atlas, skeleton, htexture, hatlas, hwidth, hheight, hskeleton⟩ := h.headers
    refine ⟨⟨h.skeleton, h.atlas, h.texture, h.bundle⟩, ⟨texture, atlas, skeleton, _⟩, ?_, h.hashes, htexture, hatlas,
      hwidth, hheight, hskeleton, rfl⟩
    have hbundle := h.bundle
    simp only [resultOf]
    omega
  · rintro ⟨⟨hk, ha, hx, hsum⟩, metadata, -, hhashes, htexture, hatlas, hwidth, hheight, hskeleton, -⟩
    exact ⟨hk, ha, hx, hsum, hhashes, _, _, _, htexture, hatlas, hwidth, hheight, hskeleton⟩

/-- The bundle of a transcript. -/
def bundleOf (descriptor : ExternalPetAssetDescriptor) (t : Transcript ρ η) (metadata : ExternalPetAssetMetadata) :
    ExternalPetAssetBundle ρ η where
  opaqueAssetId := descriptor.opaqueAssetId
  rootHandle := t.root
  skeletonHandle := t.skeletonHandle
  atlasHandle := t.atlasHandle
  textureHandle := t.textureHandle
  metadata := metadata
  snapshot := {
    skeletonBytes := t.skeleton.data
    atlasBytes := t.atlas.data
    textureBytes := t.texture.data }

/-- What a transcript has opened. -/
def Transcript.resources (t : Transcript ρ η) : List (AssetResource ρ η) :=
  [.root t.root, .file t.skeletonHandle, .file t.atlasHandle, .file t.textureHandle]

theorem openRoot_gives {path : Text} {root : ρ} :
    Gives (openRoot fs path) load root load' ↔ ∃ s, Gives (fs.openRoot path) load.port root s
      ∧ { load with port := s, root := some root, opened := load.opened ++ [.root root] } = load' := by
  unfold openRoot
  simp only [gives_bind, gives_call, gives_modify, gives_pure]
  constructor
  · rintro ⟨root', _, ⟨s, hroot, rfl⟩, _, _, rfl, rfl, rfl⟩
    exact ⟨s, hroot, rfl⟩
  · rintro ⟨s, hroot, rfl⟩
    exact ⟨root, _, ⟨s, hroot, rfl⟩, ⟨⟩, _, rfl, rfl, rfl⟩

theorem openFile_gives {root : ρ} {filename : Text} {handle : η} :
    Gives (openFile fs root filename) load handle load' ↔ ∃ s, Gives (fs.openFile root filename) load.port handle s
      ∧ { load with
          port := s
          handles := load.handles ++ [handle]
          opened := load.opened ++ [.file handle] } = load' := by
  unfold openFile
  simp only [gives_bind, gives_call, gives_modify, gives_pure]
  constructor
  · rintro ⟨handle', _, ⟨s, hhandle, rfl⟩, _, _, rfl, rfl, rfl⟩
    exact ⟨s, hhandle, rfl⟩
  · rintro ⟨s, hhandle, rfl⟩
    exact ⟨handle, _, ⟨s, hhandle, rfl⟩, ⟨⟩, _, rfl, rfl, rfl⟩

theorem loadBundle_gives {descriptor : ExternalPetAssetDescriptor} {s : σ} {bundle : ExternalPetAssetBundle ρ η} :
    Gives (loadBundle fs sha256 descriptor) { port := s } bundle load' ↔
      ∃ t s' s'' metadata, Observed fs descriptor s t s' ∧ Matches sha256 descriptor t ∧ Plain t
        ∧ Rewinds fs [t.skeletonHandle, t.atlasHandle, t.textureHandle] s' s''
        ∧ checkFiles descriptor (resultOf sha256 t.skeleton) (resultOf sha256 t.atlas) (resultOf sha256 t.texture)
          = .ok metadata
        ∧ bundleOf descriptor t metadata = bundle
        ∧ { port := s'', root := some t.root, handles := [t.skeletonHandle, t.atlasHandle, t.textureHandle],
            opened := t.resources } = load' := by
  unfold loadBundle
  simp only [gives_bind, openRoot_gives, openFile_gives]
  constructor
  · rintro ⟨root, _, ⟨s₁, hroot, rfl⟩, kh, _, ⟨s₂, hk, rfl⟩, ah, _, ⟨s₃, ha, rfl⟩, xh, _, ⟨s₄, hx, rfl⟩,
      ⟨kr, ar, xr⟩, load₁, hfiles, metadata, load₂, hcheck, _, load₃, hrewind, hbundle⟩
    obtain ⟨k, a, x, s₅, s₆, s₇, hka, haa, hxa, hmatches, hplain, hresults, rfl⟩ := readFiles_gives.mp hfiles
    obtain ⟨hmetadata, rfl⟩ := gives_check.mp hcheck
    obtain ⟨s₈, hrewinds, rfl⟩ := rewind_gives.mp hrewind
    obtain ⟨rfl, rfl⟩ := gives_pure.mp hbundle
    obtain ⟨rfl, rfl, rfl⟩ : resultOf sha256 k = kr ∧ resultOf sha256 a = ar ∧ resultOf sha256 x = xr := by
      simpa using hresults
    exact ⟨⟨root, kh, ah, xh, k, a, x⟩, s₇, s₈, metadata,
      ⟨s₁, s₂, s₃, s₄, s₅, s₆, hroot, hk, ha, hx, hka, haa, hxa⟩, matches_iff.mpr ⟨hmatches, metadata, hmetadata⟩,
      ⟨hplain.1, hplain.2.1, hplain.2.2⟩, hrewinds, hmetadata, rfl, rfl⟩
  · rintro ⟨t, s₇, s₈, metadata, ⟨s₁, s₂, s₃, s₄, s₅, s₆, hroot, hk, ha, hx, hka, haa, hxa⟩, hmatches, hplain, hrewinds,
      hmetadata, rfl, rfl⟩
    have hfiles := (matches_iff.mp hmatches).1
    exact ⟨t.root, _, ⟨s₁, hroot, rfl⟩, _, _, ⟨s₂, hk, rfl⟩, _, _, ⟨s₃, ha, rfl⟩, _, _, ⟨s₄, hx, rfl⟩, _, _,
      readFiles_gives.mpr ⟨_, _, _, s₅, s₆, s₇, hka, haa, hxa, hfiles, ⟨hplain.1, hplain.2, hplain.3⟩, rfl, rfl⟩,
      metadata, _, gives_check.mpr ⟨hmetadata, rfl⟩, ⟨⟩, _, rewind_gives.mpr ⟨s₈, hrewinds, rfl⟩,
      gives_pure.mpr ⟨rfl, rfl⟩⟩

/-! ## What is closed -/

/-- What is open, and what has been closed, is the same. -/
structure SameResources (load load' : AssetLoad σ ρ η) : Prop where
  root : load'.root = load.root
  handles : load'.handles = load.handles
  opened : load'.opened = load.opened
  closed : load'.closed = load.closed

instance : Std.Refl (@SameResources σ ρ η) := ⟨fun _ => ⟨rfl, rfl, rfl, rfl⟩⟩

instance : Trans (@SameResources σ ρ η) SameResources SameResources where
  trans h h' := ⟨h'.root.trans h.root, h'.handles.trans h.handles, h'.opened.trans h.opened, h'.closed.trans h.closed⟩

/-- Nothing has been closed, and the locals name what has been opened, in order. -/
structure Tracked (load : AssetLoad σ ρ η) : Prop where
  closed : load.closed = []
  opened : load.opened = load.root.toList.map .root ++ load.handles.map .file

theorem SameResources.tracked (h : SameResources load load') (htracked : Tracked load) : Tracked load' :=
  ⟨h.closed.trans htracked.closed, by rw [h.opened, h.root, h.handles]; exact htracked.opened⟩

theorem call_same {α : Type} (program : EStateM AssetError σ α) :
    Follows SameResources (call program : Loading σ ρ η α) := by
  intro load
  rw [call, wp_onPart]
  exact wp_trivial _ (fun _ _ => ⟨rfl, rfl, rfl, rfl⟩) fun _ _ => ⟨rfl, rfl, rfl, rfl⟩

theorem check_same {α : Type} (result : Check α) : Follows SameResources (check result : Loading σ ρ η α) := by
  cases result with
  | ok a => exact Follows.pure a
  | error status => exact Follows.throw _

theorem readBlocks_same (handle : η) (maximumBytes : Int) (data digest : Bytes) (rounds : Nat) :
    Follows SameResources (readBlocks fs handle maximumBytes data digest rounds) := by
  induction rounds generalizing data digest with
  | zero => exact Follows.throw _
  | succ rounds ih =>
    unfold readBlocks
    apply (call_same _).bind
    intro block
    split
    next => exact Follows.pure _
    next =>
      split
      next => exact Follows.throw _
      next => exact ih _ _

theorem readVerified_same (handle : η) (maximumBytes : Int) :
    Follows SameResources (readVerified fs sha256 handle maximumBytes) := by
  unfold readVerified
  apply (call_same _).bind
  intro initial
  split
  next => exact Follows.throw _
  next =>
    apply (call_same _).bind
    intro streams
    split
    next => exact Follows.throw _
    next =>
      apply (call_same _).bind
      intro _
      apply (readBlocks_same _ _ _ _ _).bind
      intro _
      apply (call_same _).bind
      intro final
      split
      next => exact Follows.throw _
      next => exact Follows.pure _

theorem readFiles_same (limits : ExternalPetAssetLimits) (skeleton atlas texture : η) :
    Follows SameResources (readFiles fs sha256 limits skeleton atlas texture) :=
  (readVerified_same _ _).bind fun _ => (readVerified_same _ _).bind fun _ => (readVerified_same _ _).bind fun _ =>
    Follows.pure _

theorem rewind_same (handles : List η) : Follows SameResources (rewind fs handles : Loading σ ρ η PUnit) := by
  induction handles with
  | nil => exact Follows.pure _
  | cons handle rest ih => exact (call_same _).bind fun _ => ih

theorem openFile_tracked (root : ρ) (filename : Text) (h : Tracked load) :
    Wp (openFile fs root filename) (fun _ => Tracked) (fun _ => Tracked) load := by
  unfold openFile
  rw [wp_bind]
  apply (call_same _ load).mono ?_ fun _ _ hsame => hsame.tracked h
  intro handle load₁ hsame
  have h₁ := hsame.tracked h
  refine ⟨h₁.closed, ?_⟩
  dsimp only
  rw [h₁.opened, List.append_assoc, List.map_append, List.map_singleton]

/-- At every point where the body of a load can end, the locals name what is open. -/
theorem loadBundle_tracked (descriptor : ExternalPetAssetDescriptor) (s : σ) :
    Wp (loadBundle fs sha256 descriptor) (fun _ => Tracked) (fun _ => Tracked) { port := s } := by
  have hstart : Tracked ({ port := s } : AssetLoad σ ρ η) := ⟨rfl, rfl⟩
  unfold loadBundle openRoot
  simp only [wp_bind, wp_modify, wp_pure]
  apply (call_same _ _).mono ?_ fun _ _ hsame => hsame.tracked hstart
  intro root load₁ hsame
  have h₁ : Tracked { load₁ with root := some root, opened := load₁.opened ++ [.root root] } := by
    refine ⟨hsame.closed, ?_⟩
    dsimp only
    rw [hsame.opened, hsame.handles]
    rfl
  apply (openFile_tracked root _ h₁).imp ?_
  intro skeleton load₂ h₂
  apply (openFile_tracked root _ h₂).imp ?_
  intro atlas load₃ h₃
  apply (openFile_tracked root _ h₃).imp ?_
  intro texture load₄ h₄
  -- what follows the opening touches no resource
  apply (readFiles_same _ _ _ _ _).mono ?_ fun _ _ hsame => hsame.tracked h₄
  intro reads load₅ hsame₅
  have h₅ := hsame₅.tracked h₄
  apply (check_same _ _).mono ?_ fun _ _ hsame => hsame.tracked h₅
  intro metadata load₆ hsame₆
  have h₆ := hsame₆.tracked h₅
  exact (rewind_same _ _).mono (fun _ _ hsame => hsame.tracked h₆) fun _ _ hsame => hsame.tracked h₆

theorem closeQuietly_spec (resource : AssetResource ρ η) : Wp (closeQuietly fs resource)
      (fun _ load' => load'.opened = load.opened ∧ load'.closed = load.closed ++ [resource] ∧ load'.root = load.root)
      (fun _ _ => True) load := by
  unfold closeQuietly
  simp only [wp_bind, wp_modify, wp_attempt, wp_pure]
  cases resource with
  | root root =>
    exact (call_same _ _).mono (fun _ _ hsame => ⟨hsame.opened, hsame.closed, hsame.root⟩)
      fun _ _ hsame => ⟨hsame.opened, hsame.closed, hsame.root⟩
  | file handle =>
    exact (call_same _ _).mono (fun _ _ hsame => ⟨hsame.opened, hsame.closed, hsame.root⟩)
      fun _ _ hsame => ⟨hsame.opened, hsame.closed, hsame.root⟩

/-- All that is open is closed, the last first. -/
theorem closePartial_spec (h : Tracked load) :
    Wp (closePartial fs) (fun _ load' => load'.opened = load.opened ∧ load'.closed = load.opened.reverse)
      (fun _ _ => True) load := by
  have hloop := @wp_forM Empty (AssetLoad σ ρ η) (AssetResource ρ η)
    (fun done load' => load'.opened = load.opened ∧ load'.closed = done ∧ load'.root = load.root) (fun _ _ => True)
    (closeQuietly fs) (load.handles.reverse.map .file)
    (fun done resource _ load' _ hdone => (closeQuietly_spec resource).imp
      (fun _ _ hclosed => ⟨hclosed.1.trans hdone.1, by rw [hclosed.2.1, hdone.2.1], hclosed.2.2.trans hdone.2.2⟩)) load ⟨rfl, h.closed, rfl⟩
  have hreverse : load.opened.reverse = load.handles.reverse.map .file ++ (load.root.toList.map .root).reverse := by
    rw [h.opened, List.reverse_append, List.map_reverse]
  unfold closePartial
  simp only [wp_bind, wp_get]
  apply hloop.imp ?_
  rintro _ load₁ ⟨hopened, hclosed, _⟩
  rw [hreverse]
  cases hroot : load.root with
  | none => exact ⟨hopened, by rw [hclosed]; simp⟩
  | some root =>
    apply (closeQuietly_spec _).imp ?_
    rintro _ load₂ ⟨hopened', hclosed', _⟩
    exact ⟨hopened'.trans hopened, by rw [hclosed', hclosed]; simp⟩

end

/-! ## Whole loads -/

section

variable (fs : ExternalPetAssetFilesystem σ ρ η) (sha256 : Bytes → Text) (descriptor : Option ExternalPetAssetDescriptor)
  (s : σ)

/-- The port answers every call and what it answers passes the checks; what is hidden in a file and whether the handles
can be set back is left open. -/
def Sound : Prop :=
  ∃ d, descriptor = some d ∧ validateExternalAssetDescriptor d = .valid
    ∧ ∃ t s', Observed fs d s t s' ∧ Matches sha256 d t

/-- The port answers every call, what it answers passes the checks, no file has streams besides its own and every handle
is set back. -/
def Loadable : Prop :=
  ∃ d, descriptor = some d ∧ validateExternalAssetDescriptor d = .valid
    ∧ ∃ t s' s'', Observed fs d s t s' ∧ Matches sha256 d t ∧ Plain t
      ∧ Rewinds fs [t.skeletonHandle, t.atlasHandle, t.textureHandle] s' s''

/-- What is published holds the bytes that were read and hashed, and the open handles. -/
structure Published (bundle : ExternalPetAssetBundle ρ η) (load : AssetLoad σ ρ η) : Prop where
  read : ∃ d t s', descriptor = some d ∧ Observed fs d s t s' ∧ Matches sha256 d t ∧ bundle.snapshot = {
    skeletonBytes := t.skeleton.data
    atlasBytes := t.atlas.data
    textureBytes := t.texture.data }
  skeleton : bundle.metadata.skeleton.sha256 = sha256 bundle.snapshot.skeletonBytes
  atlas : bundle.metadata.atlas.sha256 = sha256 bundle.snapshot.atlasBytes
  texture : bundle.metadata.texture.sha256 = sha256 bundle.snapshot.textureBytes
  opened : load.opened = [.root bundle.rootHandle, .file bundle.skeletonHandle, .file bundle.atlasHandle,
    .file bundle.textureHandle]
  closed : load.closed = []

/-- A load succeeds exactly when it should, and publishes what was hashed or closes what was opened. -/
structure Exact (result : ExternalPetAssetLoadResult ρ η) (load : AssetLoad σ ρ η) : Prop where
  succeeded : result.succeeded = true ↔ Loadable fs sha256 descriptor s
  published : ∀ bundle, result.bundle = some bundle →
    result.succeeded = true ∧ Published fs sha256 descriptor s bundle load
  undone : result.succeeded = false → result.bundle = none ∧ load.closed = load.opened.reverse

end

section

variable {fs : ExternalPetAssetFilesystem σ ρ η} {sha256 : Bytes → Text} {descriptor : Option ExternalPetAssetDescriptor}
  {s : σ}

theorem parsePngMetadata_sha256 {data : Bytes} {digest : Text} {metadata : PngAssetMetadata}
    (h : parsePngMetadata data digest = .ok metadata) : metadata.sha256 = digest := by
  unfold parsePngMetadata at h
  dsimp only at h
  split_ifs at h
  obtain rfl := Except.ok.inj h
  rfl

theorem parseAtlasMetadata_sha256 {data : Bytes} {digest filename : Text} {metadata : AtlasAssetMetadata}
    (h : parseAtlasMetadata data digest filename = .ok metadata) : metadata.sha256 = digest := by
  unfold parseAtlasMetadata at h
  split at h
  next => cases h
  next =>
    split at h
    next => cases h
    next =>
      split at h
      next => cases h
      next =>
        split at h
        next => cases h
        next =>
          obtain ⟨state, -, h⟩ := check_bind_ok.mp h
          unfold checkAtlas at h
          obtain ⟨page, -, h⟩ := check_bind_ok.mp h
          obtain ⟨filters, -, h⟩ := check_bind_ok.mp h
          dsimp only at h
          split at h
          next => cases h
          next =>
            obtain ⟨_, -, h⟩ := check_bind_ok.mp h
            obtain rfl := Except.ok.inj h
            rfl

theorem parseSkeletonMetadata_sha256 {data : Bytes} {digest : Text} {major minor : Int}
    {metadata : SkeletonAssetMetadata} (h : parseSkeletonMetadata data digest major minor = .ok metadata) :
    metadata.sha256 = digest := by
  unfold parseSkeletonMetadata at h
  dsimp only at h
  split at h
  next =>
    split at h
    next => cases h
    next =>
      split at h
      next => cases h
      next =>
        split at h
        next => cases h
        next =>
          obtain rfl := Except.ok.inj h
          rfl
  next => cases h

theorem Exact.of_failure {status : ExternalPetAssetStatus} {load : AssetLoad σ ρ η}
    (hloadable : ¬Loadable fs sha256 descriptor s) (hclosed : load.closed = load.opened.reverse) :
    Exact fs sha256 descriptor s { status } load where
  succeeded := ⟨fun h => by simp [ExternalPetAssetLoadResult.succeeded] at h, fun h => absurd h hloadable⟩
  published := nofun
  undone := fun _ => ⟨rfl, hclosed⟩

theorem load_exact :
    Wp (load fs sha256 descriptor) (Exact fs sha256 descriptor s) (fun _ _ => True) { port := s } := by
  unfold load
  cases descriptor with
  | none =>
    refine Exact.of_failure ?_ rfl
    rintro ⟨d, hd, -⟩
    cases hd
  | some d =>
    dsimp only
    split
    next hinvalid =>
      refine Exact.of_failure ?_ rfl
      rintro ⟨d', hd', hvalid, -⟩
      obtain rfl := Option.some.inj hd'
      exact hinvalid hvalid
    next hvalid =>
      rw [wp_bind, wp_attempt]
      apply ((wp_run _ _).and (loadBundle_tracked d s)).mono
      · rintro bundle load' ⟨hgives, _⟩
        obtain ⟨t, s', s'', metadata, hobserved, hmatches, hplain, hrewinds, hmetadata, rfl, rfl⟩ :=
          loadBundle_gives.mp hgives
        obtain ⟨-, -, htexture, hatlas, -, -, hskeleton, -⟩ := checkFiles_ok.mp hmetadata
        exact {
          succeeded := ⟨fun _ => ⟨d, rfl, not_not.mp hvalid, t, s', s'', hobserved, hmatches, hplain, hrewinds⟩,
            fun _ => rfl⟩
          published := by
            intro bundle hbundle
            obtain rfl := Option.some.inj hbundle
            exact ⟨rfl, {
              read := ⟨d, t, s', rfl, hobserved, hmatches, rfl⟩
              skeleton := parseSkeletonMetadata_sha256 hskeleton
              atlas := parseAtlasMetadata_sha256 hatlas
              texture := parsePngMetadata_sha256 htexture
              opened := rfl
              closed := rfl }⟩
          undone := fun h => nomatch h }
      · rintro error load' ⟨hraises, htracked⟩
        rw [wp_bind]
        apply (closePartial_spec htracked).imp ?_
        rintro _ load'' ⟨hopened, hclosed⟩
        refine Exact.of_failure ?_ (by rw [hclosed, hopened])
        rintro ⟨d', hd', -, t, s', s'', hobserved, hmatches, hplain, hrewinds⟩
        obtain rfl := Option.some.inj hd'
        obtain ⟨metadata, hmetadata⟩ := (matches_iff.mp hmatches).2
        have hgives : Gives (loadBundle fs sha256 d) { port := s } _ _ :=
          loadBundle_gives.mpr ⟨t, s', s'', metadata, hobserved, hmatches, hplain, hrewinds, hmetadata, rfl, rfl⟩
        cases hgives.symm.trans hraises

end

/-- Every load succeeds exactly when it should, and publishes what was hashed or closes what was opened. -/
theorem loads_exactly (fs : ExternalPetAssetFilesystem σ ρ η) (sha256 : Bytes → Text)
    (descriptor : Option ExternalPetAssetDescriptor) (s : σ) :
    Exact fs sha256 descriptor s (loadFrom fs sha256 descriptor s).1 (loadFrom fs sha256 descriptor s).2 := by
  have hexact := @load_exact σ ρ η fs sha256 descriptor s
  unfold Wp at hexact
  split at hexact
  next result load' hrun =>
    have heq : loadFrom fs sha256 descriptor s = (result, load') := by
      unfold loadFrom
      rw [hrun]
    rw [heq]
    exact hexact
  next error _ _ => cases error

/-! ## A file with another stream -/

/-- A port whose files are there to be read; it remembers which have been. -/
def smallPort (files : Nat → Bytes) (streams : Nat → Bool) : ExternalPetAssetFilesystem (List Nat) PUnit Nat where
  openRoot _ := pure ⟨⟩
  openFile _ filename :=
    pure (if filename = lit "a.skel" then 0 else if filename = lit "a.atlas" then 1 else 2)
  identity handle := pure ⟨1, handle, (files handle).length, 1, 0⟩
  currentIdentity handle := pure ⟨1, handle, (files handle).length, 1, 0⟩
  hasAlternateDataStreams handle := pure (streams handle)
  read handle _ := do
    let done ← get
    if handle ∈ done then return []
    else
      modify fun done => handle :: done
      return files handle
  seek handle offset := do
    modify fun done => done.filter (· ≠ handle)
    return offset
  close _ := pure ⟨⟩
  closeRoot _ := pure ⟨⟩

/-- A skeleton, an atlas of one region and a texture of one pixel. -/
def smallFiles (handle : Nat) : Bytes :=
  match handle with
  | 0 => [1, 4, 0x33, 0x2E, 0x38] ++ List.replicate 16 0
  | 1 => (lit "a.png\nsize:1,1\nformat:R\nfilter:L,L\nr\nbounds:0,0,1,1").map fun c => UInt8.ofNat c.val
  | _ => pngSignature ++ [0, 0, 0, 13] ++ ihdr ++ [0, 0, 0, 1, 0, 0, 0, 1, 8, 6, 0, 0, 0, 0, 0, 0, 0]

def smallDescriptor : ExternalPetAssetDescriptor where
  opaqueAssetId := lit "a"
  assetRoot := lit "X:\\a"
  skeletonFilename := lit "a.skel"
  atlasFilename := lit "a.atlas"
  textureFilename := lit "a.png"
  limits := { atlasMaxBytes := 99, skeletonMaxBytes := 99, textureMaxBytes := 99, bundleMaxBytes := 297 }

/-- What the small port says of a file. -/
def smallReading (streams : Nat → Bool) (handle : Nat) : FileReading where
  initial := ⟨1, handle, (smallFiles handle).length, 1, 0⟩
  alternateStreams := streams handle
  blocks := [smallFiles handle]
  final := ⟨1, handle, (smallFiles handle).length, 1, 0⟩

theorem smallPort_answers (streams : Nat → Bool) (handle : Nat) (hfile : smallFiles handle ≠ []) (done : List Nat) :
    Answers (smallPort smallFiles streams) handle done (smallReading streams handle)
      (handle :: done.filter (· ≠ handle)) := by
  have hread : ∀ done, handle ∉ done →
      Gives ((smallPort smallFiles streams).read handle chunkBytes) done (smallFiles handle) (handle :: done) := by
    intro done hdone
    unfold smallPort
    simp only [gives_bind, gives_get]
    exact ⟨done, done, ⟨rfl, rfl⟩, by rw [if_neg hdone]; exact gives_bind.mpr ⟨⟨⟩, _, rfl, rfl⟩⟩
  have hend : ∀ done, Gives ((smallPort smallFiles streams).read handle chunkBytes) (handle :: done) []
      (handle :: done) := by
    intro done
    unfold smallPort
    simp only [gives_bind, gives_get]
    exact ⟨_, _, ⟨rfl, rfl⟩, by rw [if_pos List.mem_cons_self]; exact gives_pure.mpr ⟨rfl, rfl⟩⟩
  refine ⟨done, done, 0, done.filter (· ≠ handle), _, rfl, rfl, rfl, .block (hread _ ?_) hfile (.done (hend _)), rfl⟩
  simp

/-- What the small port says of its files, the last of which has another stream. -/
def smallTranscript : Transcript PUnit Nat where
  root := ⟨⟩
  skeletonHandle := 0
  atlasHandle := 1
  textureHandle := 2
  skeleton := smallReading (fun handle => handle = 2) 0
  atlas := smallReading (fun handle => handle = 2) 1
  texture := smallReading (fun handle => handle = 2) 2

theorem smallTranscript_matches : Matches (fun _ => []) smallDescriptor smallTranscript := by
  have hfile : ∀ handle maximumBytes, ((smallFiles handle).length : Int) ≤ maximumBytes →
      FileMatches maximumBytes (smallReading (fun handle => handle = 2) handle) :=
    fun handle _ hlimit => ⟨hlimit, by simp [smallReading, FileReading.data], rfl⟩
  have hchecked : (checkFiles smallDescriptor (resultOf (fun _ => []) smallTranscript.skeleton)
      (resultOf (fun _ => []) smallTranscript.atlas) (resultOf (fun _ => []) smallTranscript.texture)).toBool = true := by
    decide +kernel
  refine matches_iff.mpr ⟨⟨hfile 0 _ (by decide +kernel), hfile 1 _ (by decide +kernel), hfile 2 _ (by decide +kernel),
    by decide +kernel⟩, ?_⟩
  cases hresult : checkFiles smallDescriptor (resultOf (fun _ => []) smallTranscript.skeleton)
      (resultOf (fun _ => []) smallTranscript.atlas) (resultOf (fun _ => []) smallTranscript.texture) with
  | error =>
    rw [hresult] at hchecked
    cases hchecked
  | ok metadata => exact ⟨metadata, rfl⟩

/-- The files are as declared, but the texture has another stream: it is not loaded. -/
theorem streams_not_loaded :
    ¬((loadFrom (smallPort smallFiles fun handle => handle = 2) (fun _ => []) (some smallDescriptor) []).1.succeeded = true
      ↔ Sound (smallPort smallFiles fun handle => handle = 2) (fun _ => []) (some smallDescriptor) []) := by
  have hfailed : (loadFrom (smallPort smallFiles fun handle => handle = 2) (fun _ => []) (some smallDescriptor)
      []).1.succeeded = false := by decide +kernel
  have hsound : Sound (smallPort smallFiles fun handle => handle = 2) (fun _ => []) (some smallDescriptor) [] :=
    ⟨smallDescriptor, rfl, by decide +kernel, smallTranscript, _,
      ⟨[], [], [], [], _, _, rfl, gives_pure.mpr ⟨by decide +kernel, rfl⟩, gives_pure.mpr ⟨by decide +kernel, rfl⟩,
        gives_pure.mpr ⟨by decide +kernel, rfl⟩, smallPort_answers _ 0 (by decide +kernel) _,
        smallPort_answers _ 1 (by decide +kernel) _, smallPort_answers _ 2 (by decide +kernel) _⟩,
      smallTranscript_matches⟩
  rw [hfailed]
  simp [hsound]

end ExternalPetAssetLoader

end ArkClaw.Pet
