import ArkClaw.Library.Decoding
import ArkClaw.Library.Program
import Mathlib.Data.List.Infix

/-!
# The external assets of a pet

Three files are opened below a root, read and checked, and published together or not at all. The file system is a port:
its operations are programs over a state of its own, so that any of them may raise, answer differently from call to call
or change what the others answer. An exception of the port is an `Exception`.

`opened` and `closed` record what the loader has opened and what it has asked the port to close, in order. A digest is
given by the bytes it was updated with.
-/

namespace ArkClaw.Pet

open ArkClaw.Library

/-! ## The descriptor -/

inductive ExternalAssetConfigStatus where
  | valid
  | invalidAssetId
  | invalidRoot
  | invalidFilename
  | invalidVersion
  | invalidHash
  | invalidLimit
deriving DecidableEq

structure ExternalPetAssetHashes where
  skeletonSha256 : Option Text := none
  atlasSha256 : Option Text := none
  textureSha256 : Option Text := none

structure ExternalPetAssetLimits where
  atlasMaxBytes : Int := 1 * 1024 * 1024
  skeletonMaxBytes : Int := 16 * 1024 * 1024
  textureMaxBytes : Int := 64 * 1024 * 1024
  bundleMaxBytes : Int := 80 * 1024 * 1024

structure ExternalPetAssetDescriptor where
  opaqueAssetId : Text
  assetRoot : Text
  skeletonFilename : Text
  atlasFilename : Text
  textureFilename : Text
  expectedSpineMajor : Int := 3
  expectedSpineMinor : Int := 8
  expectedSha256 : Option ExternalPetAssetHashes := none
  limits : ExternalPetAssetLimits := {}

namespace ExternalAssets

def isAsciiLetter (c : CodePoint) : Bool := decide (0x41 ≤ c.val ∧ c.val ≤ 0x5A ∨ 0x61 ≤ c.val ∧ c.val ≤ 0x7A)

def isAsciiDigit (c : CodePoint) : Bool := decide (0x30 ≤ c.val ∧ c.val ≤ 0x39)

/-- `[A-Za-z0-9][A-Za-z0-9._-]{0,63}`. -/
def validAssetId (value : Text) : Bool :=
  match value with
  | [] => false
  | c :: rest =>
    (isAsciiLetter c || isAsciiDigit c) && decide (rest.length ≤ 63)
      && rest.all fun c => isAsciiLetter c || isAsciiDigit c || decide (c ∈ lit "._-")

def isSlash (c : CodePoint) : Bool := decide (c ∈ lit "/\\")

/-- The names of `PureWindowsPath(value).parts` after the drive. -/
def windowsNames (rest : Text) : List Text :=
  (Text.splitAt 0x5C (rest.map fun c => if isSlash c then 0x5C else c)).filter fun name => name ≠ [] ∧ name ≠ lit "."

/-- `_valid_local_asset_root`: a path below a drive letter. -/
def validLocalAssetRoot (value : Text) : Bool :=
  if value = [] || decide (lit "://" <:+: value) || value.any (fun c => decide (c.val < 32))
      || (lit "\\\\").isPrefixOf value then false
  else match value with
    | letter :: colon :: slash :: rest =>
      !isSlash letter && decide (colon.val = 0x3A) && isSlash slash && decide (lit ".." ∉ windowsNames rest)
    | _ => false

/-- The small letter of an ASCII capital; the Kelvin sign also has one. -/
def lowerCodePoint (c : CodePoint) : CodePoint :=
  if 0x41 ≤ c.val ∧ c.val ≤ 0x5A then c + 32 else if c.val = 0x212A then 0x6B else c

/-- `PureWindowsPath(value).suffix.lower()` of a name. -/
def suffix (value : Text) : Text :=
  let tail := (value.reverse.takeWhile (· ≠ 0x2E)).reverse
  if tail = [] ∨ value.length ≤ tail.length + 1 then [] else (0x2E :: tail).map lowerCodePoint

/-- `_valid_filename`. -/
def validFilename (value : Text) (expected : Text) : Bool :=
  if value = [] || decide (lit ".." <:+: value) || value.any (fun c => decide (c ∈ lit "/\\:\x00"))
      || value.any (fun c => decide (c.val < 32)) then false
  else value ≠ lit "." && decide (suffix value = expected)

/-- `_valid_optional_sha256`. -/
def validOptionalSha256 (value : Option Text) : Bool :=
  value.all fun value => decide (value.length = 64)
    && value.all fun c => isAsciiDigit c || decide (0x61 ≤ c.val ∧ c.val ≤ 0x66)

/-- `validate_external_asset_descriptor`. -/
def validateExternalAssetDescriptor (descriptor : ExternalPetAssetDescriptor) : ExternalAssetConfigStatus :=
  let limits := descriptor.limits
  if !validAssetId descriptor.opaqueAssetId then .invalidAssetId
  else if !validLocalAssetRoot descriptor.assetRoot then .invalidRoot
  else if !(validFilename descriptor.skeletonFilename (lit ".skel")
      && validFilename descriptor.atlasFilename (lit ".atlas")
      && validFilename descriptor.textureFilename (lit ".png")) then .invalidFilename
  else if descriptor.expectedSpineMajor < 0 ∨ descriptor.expectedSpineMinor < 0 then .invalidVersion
  else if !descriptor.expectedSha256.all (fun hashes => validOptionalSha256 hashes.skeletonSha256
      && validOptionalSha256 hashes.atlasSha256 && validOptionalSha256 hashes.textureSha256) then .invalidHash
  else if limits.atlasMaxBytes ≤ 0 ∨ limits.skeletonMaxBytes ≤ 0 ∨ limits.textureMaxBytes ≤ 0
      ∨ limits.bundleMaxBytes ≤ 0 then .invalidLimit
  else .valid

end ExternalAssets

/-! ## The port -/

inductive ExternalPetAssetStatus where
  | ok
  | notConfigured
  | rootInvalid
  | pathEscape
  | reparsePoint
  | hardlinkInvalid
  | missing
  | notRegular
  | tooLarge
  | changedDuringRead
  | hashMismatch
  | textureHeaderInvalid
  | atlasInvalid
  | atlasTextureMismatch
  | skeletonHeaderInvalid
  | spineVersionIncompatible
  | readFailed
deriving DecidableEq

structure ExternalFileIdentity where
  volumeId : Int
  fileId : Int
  sizeBytes : Int
  linkCount : Int
  modifiedTicks : Int
deriving DecidableEq

/-- The exceptions a load may meet. -/
inductive AssetError where
  /-- `ExternalAssetFilesystemError`. -/
  | filesystem (status : ExternalPetAssetStatus)
  | other
deriving DecidableEq

/-- The file system: `σ` is its state, `ρ` are its roots and `η` its file handles. -/
structure ExternalPetAssetFilesystem (σ ρ η : Type) where
  openRoot : Text → EStateM AssetError σ ρ
  openFile : ρ → Text → EStateM AssetError σ η
  identity : η → EStateM AssetError σ ExternalFileIdentity
  currentIdentity : η → EStateM AssetError σ ExternalFileIdentity
  hasAlternateDataStreams : η → EStateM AssetError σ Bool
  read : η → Nat → EStateM AssetError σ Bytes
  seek : η → Nat → EStateM AssetError σ Int
  close : η → EStateM AssetError σ PUnit
  closeRoot : ρ → EStateM AssetError σ PUnit

/-! ## Metadata -/

structure PngAssetMetadata where
  width : Nat
  height : Nat
  bitDepth : Nat
  colorType : Nat
  interlace : Nat
  sha256 : Text
deriving DecidableEq

structure AtlasAssetMetadata where
  pageCount : Nat
  pageFilename : Text
  pageWidth : Int
  pageHeight : Int
  pixelFormat : Text
  minFilter : Text
  magFilter : Text
  repeat' : Text
  regionCount : Nat
  sha256 : Text
deriving DecidableEq

structure SkeletonAssetMetadata where
  version : Text
  major : Nat
  minor : Nat
  sha256 : Text
deriving DecidableEq

structure ExternalPetAssetMetadata where
  texture : PngAssetMetadata
  atlas : AtlasAssetMetadata
  skeleton : SkeletonAssetMetadata
  totalSizeBytes : Nat
deriving DecidableEq

structure ExternalPetAssetSnapshot where
  skeletonBytes : Bytes
  atlasBytes : Bytes
  textureBytes : Bytes
deriving DecidableEq

structure ExternalPetAssetBundle (ρ η : Type) where
  opaqueAssetId : Text
  rootHandle : ρ
  skeletonHandle : η
  atlasHandle : η
  textureHandle : η
  metadata : ExternalPetAssetMetadata
  snapshot : ExternalPetAssetSnapshot

structure ExternalPetAssetLoadResult (ρ η : Type) where
  status : ExternalPetAssetStatus
  bundle : Option (ExternalPetAssetBundle ρ η) := none

/-- `succeeded`. -/
def ExternalPetAssetLoadResult.succeeded {ρ η : Type} (result : ExternalPetAssetLoadResult ρ η) : Bool :=
  decide (result.status = .ok) && result.bundle.isSome

namespace ExternalAssets

/-- A check of the loader: a value, or the status of the exception it raises. -/
abbrev Check := Except ExternalPetAssetStatus

/-- `valid_depths`. -/
def validDepths (colorType : Nat) : List Nat :=
  match colorType with
  | 0 => [1, 2, 4, 8, 16]
  | 2 => [8, 16]
  | 3 => [1, 2, 4, 8]
  | 4 => [8, 16]
  | 6 => [8, 16]
  | _ => []

def byteAt (data : Bytes) (i : Nat) : Nat := ((data[i]?).map UInt8.toNat).getD 0

/-- `data[start:stop]`. -/
def slice (data : Bytes) (start stop : Nat) : Bytes := (data.take stop).drop start

def pngSignature : Bytes := [0x89, 0x50, 0x4E, 0x47, 0x0D, 0x0A, 0x1A, 0x0A]

def ihdr : Bytes := [0x49, 0x48, 0x44, 0x52]

/-- `_parse_png_metadata`. -/
def parsePngMetadata (data : Bytes) (sha256 : Text) : Check PngAssetMetadata :=
  if data.length < 33 ∨ data.take 8 ≠ pngSignature ∨ Bytes.bigEndian (slice data 8 12) ≠ 13
      ∨ slice data 12 16 ≠ ihdr then .error .textureHeaderInvalid
  else
    let width := Bytes.bigEndian (slice data 16 20)
    let height := Bytes.bigEndian (slice data 20 24)
    if width = 0 ∨ height = 0 ∨ byteAt data 24 ∉ validDepths (byteAt data 25) ∨ byteAt data 26 ≠ 0
        ∨ byteAt data 27 ≠ 0 ∨ byteAt data 28 ∉ [0, 1] then .error .textureHeaderInvalid
    else .ok {
      width
      height
      bitDepth := byteAt data 24
      colorType := byteAt data 25
      interlace := byteAt data 28
      sha256 }

/-! ## The atlas -/

/-- The values under the keys of a page or of a region. -/
abbrev Values := List (Text × Text)

/-- What has been read of the lines after the page's name. The region being read is the last one. -/
structure AtlasLines where
  pageValues : Values := []
  regions : List Values := []
  inRegion : Bool := false
  afterBlank : Bool := false

/-- The values with a new one under a key. -/
def assign (values : Values) (key value : Text) : Check Values :=
  if key = [] || (values.lookup key).isSome then .error .atlasInvalid else .ok (values ++ [(key, value)])

/-- One line of the loop. -/
def readLine (state : AtlasLines) (rawLine : Text) : Check AtlasLines :=
  let stripped := rawLine.strip
  if stripped = [] then .ok { state with afterBlank := true, inRegion := false }
  else match stripped.splitOnce 0x3A with
    | none =>
      if state.afterBlank then .error .atlasTextureMismatch
      else .ok { state with regions := state.regions ++ [[]], inRegion := true }
    | some (key, value) =>
      match state.inRegion, state.regions.getLast? with
      | true, some region => do
        let region ← assign region key.strip value.strip
        return { state with regions := state.regions.dropLast ++ [region], afterBlank := false }
      | _, _ => do
        let pageValues ← assign state.pageValues key.strip value.strip
        return { state with pageValues, afterBlank := false }

def readLines (state : AtlasLines) : List Text → Check AtlasLines
  | [] => .ok state
  | line :: rest => do
    let state ← readLine state line
    readLines state rest

def toInts : List Text → Check (List Int)
  | [] => .ok []
  | part :: rest =>
    match part.toInt with
    | none => .error .atlasInvalid
    | some n => do return n :: (← toInts rest)

/-- `_parse_integer_parts`. -/
def parseIntegerParts (value : Option Text) (count : Nat) : Check (List Int) :=
  match value with
  | none => .error .atlasInvalid
  | some value =>
    let parts := (Text.splitAt 0x2C value).map Text.strip
    if parts.length ≠ count then .error .atlasInvalid else toInts parts

/-- `_parse_pair`. -/
def parsePair (value : Option Text) : Check (Int × Int) := do
  match ← parseIntegerParts value 2 with
  | [x, y] => return (x, y)
  | _ => .error .atlasInvalid

/-- `_parse_quad`. -/
def parseQuad (value : Option Text) : Check (Int × Int × Int × Int) := do
  match ← parseIntegerParts value 4 with
  | [x, y, width, height] => return (x, y, width, height)
  | _ => .error .atlasInvalid

/-- `_parse_string_pair`. -/
def parseStringPair (value : Option Text) : Check (Text × Text) :=
  match value with
  | none => .error .atlasInvalid
  | some value =>
    match (Text.splitAt 0x2C value).map Text.strip with
    | [a, b] => if a = [] ∨ b = [] then .error .atlasInvalid else .ok (a, b)
    | _ => .error .atlasInvalid

/-- The place and the size of a region. -/
def regionBounds (region : Values) : Check (Int × Int × Int × Int) :=
  match region.lookup (lit "bounds") with
  | some bounds => parseQuad (some bounds)
  | none => do
    let (x, y) ← parsePair (region.lookup (lit "xy"))
    let (width, height) ← parsePair (region.lookup (lit "size"))
    return (x, y, width, height)

/-- The check of a region. -/
def checkRegion (pageWidth pageHeight : Int) (region : Values) : Check Unit := do
  let rotate := (region.lookup (lit "rotate")).getD (lit "false")
  if rotate ∉ [lit "false", lit "true", lit "0", lit "90", lit "180", lit "270"] then .error .atlasInvalid
  else
    let (x, y, width, height) ← regionBounds region
    let (packedWidth, packedHeight) := if rotate ∈ [lit "true", lit "90"] then (height, width) else (width, height)
    if x < 0 ∨ y < 0 ∨ width ≤ 0 ∨ height ≤ 0 ∨ pageWidth < x + packedWidth ∨ pageHeight < y + packedHeight then
      .error .atlasInvalid
    else .ok ()

/-- What is checked of an atlas whose lines have been read. -/
def checkAtlas (pageFilename : Text) (state : AtlasLines) (sha256 : Text) : Check AtlasAssetMetadata := do
  let (pageWidth, pageHeight) ← parsePair (state.pageValues.lookup (lit "size"))
  let pixelFormat := (state.pageValues.lookup (lit "format")).getD []
  let (minFilter, magFilter) ← parseStringPair (state.pageValues.lookup (lit "filter"))
  let repeat' := (state.pageValues.lookup (lit "repeat")).getD (lit "none")
  if pageWidth ≤ 0 ∨ pageHeight ≤ 0 ∨ pixelFormat = [] ∨ repeat' ∉ [lit "none", lit "x", lit "y", lit "xy"]
      ∨ state.regions.length = 0 then .error .atlasInvalid
  else
    state.regions.forM (checkRegion pageWidth pageHeight)
    return {
      pageCount := 1
      pageFilename
      pageWidth
      pageHeight
      pixelFormat
      minFilter
      magFilter
      repeat'
      regionCount := state.regions.length
      sha256 }

/-- `_parse_atlas_metadata`. -/
def parseAtlasMetadata (data : Bytes) (sha256 expectedTextureFilename : Text) : Check AtlasAssetMetadata :=
  match data.decodeUtf8 with
  | none => .error .atlasInvalid
  | some text =>
    if 0 ∈ text then .error .atlasInvalid
    else match text.splitLines.dropWhile fun line => decide (line.strip = []) with
      | [] => .error .atlasInvalid
      | first :: rest =>
        if first.strip ≠ expectedTextureFilename then .error .atlasTextureMismatch
        else do
          let state ← readLines {} rest
          checkAtlas first.strip state sha256

/-! ## The skeleton -/

/-- `_read_varint` with `rounds` bytes left to read. -/
def readVarint (data : Bytes) (offset shift result : Nat) : Nat → Option (Nat × Nat)
  | 0 => none
  | rounds + 1 =>
    match data[offset]? with
    | none => none
    | some b =>
      let result := result + (b.toNat % 0x80) * 2 ^ shift
      if b.toNat < 0x80 then some (result, offset + 1) else readVarint data (offset + 1) (shift + 7) result rounds

/-- `_read_binary_string`. -/
def readBinaryString (data : Bytes) (offset : Nat) : Option (Option Text × Nat) := do
  let (length, offset) ← readVarint data offset 0 0 5
  if length = 0 then return (none, offset)
  else
    let byteCount := length - 1
    if 256 < byteCount ∨ data.length < offset + byteCount then none
    else
      let value ← (slice data offset (offset + byteCount)).decodeUtf8
      return (some value, offset + byteCount)

/-- The numbers of `^(\d+)\.(\d+)(?:\.\d+)?`. -/
def matchVersion (version : Text) : Option (Nat × Nat) :=
  let digitsOf (s : Text) := s.takeWhile fun c => (Text.decimal c).isSome
  let major := digitsOf version
  match version.drop major.length with
  | dot :: rest =>
    let minor := digitsOf rest
    if major = [] ∨ dot.val ≠ 0x2E ∨ minor = [] then none
    else some (Text.ofDigits (major.filterMap Text.decimal), Text.ofDigits (minor.filterMap Text.decimal))
  | [] => none

/-- `_parse_skeleton_metadata`. -/
def parseSkeletonMetadata (data : Bytes) (sha256 : Text) (expectedMajor expectedMinor : Int) :
    Check SkeletonAssetMetadata :=
  let strings : Option (Option Text × Nat) := do
    let (_, offset) ← readBinaryString data 0
    readBinaryString data offset
  match strings with
  | some (some version, offset) =>
    if data.length < offset + 16 then .error .skeletonHeaderInvalid
    else match matchVersion version with
      | none => .error .skeletonHeaderInvalid
      | some (major, minor) =>
        if (major : Int) ≠ expectedMajor ∨ (minor : Int) ≠ expectedMinor then .error .spineVersionIncompatible
        else .ok { version, major, minor, sha256 }
  | _ => .error .skeletonHeaderInvalid

end ExternalAssets

/-! ## The loader -/

/-- What the loader can have open. -/
inductive AssetResource (ρ η : Type) where
  | root (root : ρ)
  | file (handle : η)
deriving DecidableEq

/-- A load: the port's state and the loader's locals. -/
structure AssetLoad (σ ρ η : Type) where
  port : σ
  root : Option ρ := none
  handles : List η := []
  opened : List (AssetResource ρ η) := []
  closed : List (AssetResource ρ η) := []

/-- `_ReadResult`. -/
structure ReadResult where
  data : Bytes
  sha256 : Text
  sizeBytes : Nat

namespace ExternalPetAssetLoader

open ExternalAssets

variable {σ ρ η : Type}

abbrev Loading (σ ρ η : Type) := EStateM AssetError (AssetLoad σ ρ η)

/-- `_CHUNK_BYTES`. -/
def chunkBytes : Nat := 64 * 1024

/-- `_PNG_PREFIX_BYTES`. -/
def pngPrefixBytes : Nat := 33

/-- `_SKELETON_PREFIX_BYTES`. -/
def skeletonPrefixBytes : Nat := 1024

/-- A call of the port. -/
def call {α : Type} (program : EStateM AssetError σ α) : Loading σ ρ η α :=
  onPart AssetLoad.port (fun load port => { load with port }) program

/-- A check of the loader. -/
def check {α : Type} (result : Check α) : Loading σ ρ η α :=
  match result with
  | .ok a => pure a
  | .error status => throw (.filesystem status)

def openRoot (fs : ExternalPetAssetFilesystem σ ρ η) (path : Text) : Loading σ ρ η ρ := do
  let root ← call (fs.openRoot path)
  modify fun load => { load with root := some root, opened := load.opened ++ [.root root] }
  return root

def openFile (fs : ExternalPetAssetFilesystem σ ρ η) (root : ρ) (filename : Text) : Loading σ ρ η η := do
  let handle ← call (fs.openFile root filename)
  modify fun load => { load with handles := load.handles ++ [handle], opened := load.opened ++ [.file handle] }
  return handle

/-- The loop of `_read_verified`: the bytes that were read, and those the digest was updated with. Every block but the
last has a byte, so the rounds do not run out before the limit is passed. -/
def readBlocks (fs : ExternalPetAssetFilesystem σ ρ η) (handle : η) (maximumBytes : Int) (data digest : Bytes) :
    Nat → Loading σ ρ η (Bytes × Bytes)
  | 0 => throw (.filesystem .tooLarge)
  | rounds + 1 => do
    let block ← call (fs.read handle chunkBytes)
    if block = [] then return (data, digest)
    else if maximumBytes < data.length + block.length then throw (.filesystem .tooLarge)
    else readBlocks fs handle maximumBytes (data ++ block) (digest ++ block) rounds

/-- `_read_verified`. -/
def readVerified (fs : ExternalPetAssetFilesystem σ ρ η) (sha256 : Bytes → Text) (handle : η) (maximumBytes : Int) :
    Loading σ ρ η ReadResult := do
  let initial ← call (fs.identity handle)
  if maximumBytes < initial.sizeBytes then throw (.filesystem .tooLarge)
  else if ← call (fs.hasAlternateDataStreams handle) then throw (.filesystem .notRegular)
  else
    let _ ← call (fs.seek handle 0)
    let (data, digest) ← readBlocks fs handle maximumBytes [] [] (maximumBytes.toNat + 1)
    let final ← call (fs.currentIdentity handle)
    if final ≠ initial ∨ (data.length : Int) ≠ initial.sizeBytes then throw (.filesystem .changedDuringRead)
    else return { data, sha256 := sha256 digest, sizeBytes := data.length }

/-- `_verify_expected_hashes`. -/
def verifyExpectedHashes (expected : Option ExternalPetAssetHashes) (skeleton atlas texture : ReadResult) :
    Check Unit :=
  match expected with
  | none => .ok ()
  | some expected =>
    let pairs := [(expected.skeletonSha256, skeleton.sha256), (expected.atlasSha256, atlas.sha256),
      (expected.textureSha256, texture.sha256)]
    if pairs.any fun (value, actual) => value.isSome && decide (value ≠ some actual) then .error .hashMismatch
    else .ok ()

/-- `_configuration_error`. -/
def configurationError (status : ExternalAssetConfigStatus) : ExternalPetAssetStatus :=
  match status with
  | .invalidRoot => .rootInvalid
  | .invalidFilename => .pathEscape
  | _ => .readFailed

/-- The three files, read within their limits. -/
def readFiles (fs : ExternalPetAssetFilesystem σ ρ η) (sha256 : Bytes → Text) (limits : ExternalPetAssetLimits)
    (skeleton atlas texture : η) : Loading σ ρ η (ReadResult × ReadResult × ReadResult) := do
  let remaining := limits.bundleMaxBytes
  let skeletonRead ← readVerified fs sha256 skeleton (min limits.skeletonMaxBytes remaining)
  let remaining := remaining - skeletonRead.sizeBytes
  let atlasRead ← readVerified fs sha256 atlas (min limits.atlasMaxBytes remaining)
  let remaining := remaining - atlasRead.sizeBytes
  let textureRead ← readVerified fs sha256 texture (min limits.textureMaxBytes remaining)
  return (skeletonRead, atlasRead, textureRead)

/-- The checks of what was read. -/
def checkFiles (descriptor : ExternalPetAssetDescriptor) (skeleton atlas texture : ReadResult) :
    Check ExternalPetAssetMetadata := do
  let totalSize := skeleton.sizeBytes + atlas.sizeBytes + texture.sizeBytes
  if descriptor.limits.bundleMaxBytes < totalSize then .error .tooLarge
  else
    verifyExpectedHashes descriptor.expectedSha256 skeleton atlas texture
    let textureMetadata ← parsePngMetadata (texture.data.take pngPrefixBytes) texture.sha256
    let atlasMetadata ← parseAtlasMetadata atlas.data atlas.sha256 descriptor.textureFilename
    if atlasMetadata.pageWidth ≠ textureMetadata.width ∨ atlasMetadata.pageHeight ≠ textureMetadata.height then
      .error .atlasTextureMismatch
    else
      let skeletonMetadata ← parseSkeletonMetadata (skeleton.data.take skeletonPrefixBytes) skeleton.sha256
        descriptor.expectedSpineMajor descriptor.expectedSpineMinor
      return {
        texture := textureMetadata
        atlas := atlasMetadata
        skeleton := skeletonMetadata
        totalSizeBytes := totalSize }

/-- Each handle is set back to its start. -/
def rewind (fs : ExternalPetAssetFilesystem σ ρ η) : List η → Loading σ ρ η PUnit
  | [] => pure ()
  | handle :: rest => do
    let _ ← call (fs.seek handle 0)
    rewind fs rest

/-- The body of `load`. -/
def loadBundle (fs : ExternalPetAssetFilesystem σ ρ η) (sha256 : Bytes → Text) (descriptor : ExternalPetAssetDescriptor) :
    Loading σ ρ η (ExternalPetAssetBundle ρ η) := do
  let root ← openRoot fs descriptor.assetRoot
  let skeleton ← openFile fs root descriptor.skeletonFilename
  let atlas ← openFile fs root descriptor.atlasFilename
  let texture ← openFile fs root descriptor.textureFilename
  let (skeletonRead, atlasRead, textureRead) ← readFiles fs sha256 descriptor.limits skeleton atlas texture
  let metadata ← check (checkFiles descriptor skeletonRead atlasRead textureRead)
  rewind fs [skeleton, atlas, texture]
  return {
    opaqueAssetId := descriptor.opaqueAssetId
    rootHandle := root
    skeletonHandle := skeleton
    atlasHandle := atlas
    textureHandle := texture
    metadata
    snapshot := {
      skeletonBytes := skeletonRead.data
      atlasBytes := atlasRead.data
      textureBytes := textureRead.data } }

/-- Ask the port to close something; its exception is suppressed. -/
def closeQuietly (fs : ExternalPetAssetFilesystem σ ρ η) (resource : AssetResource ρ η) :
    EStateM Empty (AssetLoad σ ρ η) PUnit := do
  modify fun load => { load with closed := load.closed ++ [resource] }
  let _ ← attempt (match resource with
    | .file handle => call (fs.close handle)
    | .root root => call (fs.closeRoot root))

/-- `_close_partial`. -/
def closePartial (fs : ExternalPetAssetFilesystem σ ρ η) : EStateM Empty (AssetLoad σ ρ η) PUnit := do
  let load ← get
  (load.handles.reverse.map AssetResource.file).forM (closeQuietly fs)
  match load.root with
  | none => pure ()
  | some root => closeQuietly fs (.root root)

/-- What an exception is reported as. -/
def reportedStatus : AssetError → ExternalPetAssetStatus
  | .filesystem status => status
  | .other => .readFailed

/-- `load`. -/
def load (fs : ExternalPetAssetFilesystem σ ρ η) (sha256 : Bytes → Text)
    (descriptor : Option ExternalPetAssetDescriptor) :
    EStateM Empty (AssetLoad σ ρ η) (ExternalPetAssetLoadResult ρ η) := do
  match descriptor with
  | none => return { status := .notConfigured }
  | some descriptor =>
    let configStatus := validateExternalAssetDescriptor descriptor
    if configStatus ≠ .valid then return { status := configurationError configStatus }
    else
      match ← attempt (loadBundle fs sha256 descriptor) with
      | .ok bundle => return { status := .ok, bundle := some bundle }
      | .error error =>
        closePartial fs
        return { status := reportedStatus error }

/-- A load from a state of the port: its result, and what it leaves. -/
def loadFrom (fs : ExternalPetAssetFilesystem σ ρ η) (sha256 : Bytes → Text)
    (descriptor : Option ExternalPetAssetDescriptor) (port : σ) :
    ExternalPetAssetLoadResult ρ η × AssetLoad σ ρ η :=
  match (load fs sha256 descriptor).run { port } with
  | .ok result load => (result, load)
  | .error error _ => nomatch error

end ExternalPetAssetLoader

end ArkClaw.Pet
