import ArkClaw.Library.FileTree
import ArkClaw.Library.Json
import ArkClaw.Library.Program
import Mathlib.Algebra.GroupWithZero.Nat
import Mathlib.Data.List.Sort

/-!
# The transactional archive

Directories are moved into a staging directory, which is checked and then renamed to the archive; when an operation
raises, what has been moved is moved back. The tree holds directories, regular files and reparse points, and a reparse
point leads to something that is not a directory. Paths are given by their names below the repository's root, without
`..`.

The renamer and the snapshotter are the defaults, `os.rename` and `snapshot_directory`, that may raise at any call
instead: the n-th call raises what the environment says. A rename that raises moves nothing, and as on Windows a
destination that exists is never replaced. `history` is every tree a run has made.
-/

namespace ArkClaw.Packaging

open ArkClaw.Library

/-! ## Trees -/

abbrev Name := { s : String // s ≠ ".." }

abbrev Path := List Name

/-- `as_posix`. -/
def asPosix (path : Path) : String := if path = [] then "." else "/".intercalate (path.map Subtype.val)

/-- `Path(text).name`. -/
def pathName (text : Name) : List Char :=
  let chars := match text.val.toList with
    | _ :: ':' :: rest => rest
    | chars => chars
  (((chars.splitOnP fun c => c = '/' ∨ c = '\\').filter fun part => part ≠ [] ∧ part ≠ ['.']).getLast?).getD []

inductive Leaf (χ : Type) where
  | regular (content : χ)
  | reparse

abbrev Disk (χ : Type) := FileTree Name (Leaf χ)

/-- Why the operating system refuses an operation. -/
inductive Refusal where
  | missing
  | exists
  | noParent
  | intoItself
  | notDirectory
deriving DecidableEq

variable {χ : Type}

namespace Disk

/-- `_is_reparse_point`. -/
def isReparsePoint (disk : Disk χ) (path : Path) : Bool :=
  !disk.has path || disk.nodes.any fun n => decide (n.path = path) && match n.kind with
    | .file .reparse => true
    | _ => false

/-- `is_symlink`. -/
def isSymlink (disk : Disk χ) (path : Path) : Bool := disk.has path && isReparsePoint disk path

/-- The names `os.scandir` lists. -/
def scandir (disk : Disk χ) (path : Path) : List Name :=
  disk.nodes.filterMap fun n => match relativeTo path n.path with
    | some [name] => some name
    | _ => none

/-- `_validate_existing_chain` from the root. -/
def validateExistingChain (disk : Disk χ) (path : Path) : Bool :=
  path.inits.tail.all fun current => !disk.has current || !isReparsePoint disk current

/-- Make a directory or a file that is not there. -/
def make (disk : Disk χ) (path : Path) (kind : FileKind (Leaf χ)) : Except Refusal (Disk χ) :=
  if free : disk.has path = true then .error .exists
  else if parent : disk.isDir path.dropLast = true then
    .ok (disk.insert path kind (Bool.eq_false_iff.mpr free) parent)
  else .error .noParent

/-- `os.rename`. -/
def rename (disk : Disk χ) (source destination : Path) : Except Refusal (Disk χ) :=
  if disk.has source = false then .error .missing
  else if source = destination then .ok disk
  else if out : source <+: destination then .error .intoItself
  else if free : disk.has destination = true then .error .exists
  else if parent : disk.isDir destination.dropLast = true then
    .ok (FileTree.rename disk source destination (Bool.eq_false_iff.mpr free) parent out)
  else .error .noParent

end Disk

/-! ## Errors and results -/

inductive OperationStage where
  | preflight
  | createPart
  | moveSource
  | verifyPart
  | publish
  | rollback
deriving DecidableEq

/-- `SOURCE_CLASSES`. -/
def sourceClasses : List String := ["dist", "deployment", "build_output", "temp_output", "failed_part"]

inductive ExceptionCategory where
  | destinationExists
  | sourceMissing
  | accessDenied
  | sharingViolation
  | pathNotFound
  | renameFailed
  | manifestMismatch
  | rollbackFailed
  | unexpectedFilesystemError
deriving DecidableEq

/-- The classes of `OSError` that are told apart. -/
inductive OSErrorClass where
  /-- `_ArchiveStateError`. -/
  | archiveState (category : ExceptionCategory)
  | permissionError
  | fileExistsError
  | fileNotFoundError
  | other
deriving DecidableEq

structure OSError where
  errorClass : OSErrorClass
  winerror : Option Int := none
  errno : Option Int := none
deriving DecidableEq

/-- `_ArchiveStateError`. -/
def archiveStateError (category : ExceptionCategory) : OSError := { errorClass := .archiveState category }

/-- `_exception_category`. -/
def exceptionCategory (error : OSError) (stage : OperationStage) : ExceptionCategory :=
  match error.errorClass with
  | .archiveState category => category
  | errorClass =>
    if error.winerror = some 32 ∨ error.winerror = some 33 then .sharingViolation
    else match errorClass with
      | .permissionError => .accessDenied
      | .fileExistsError => .destinationExists
      | .fileNotFoundError => if stage = .preflight then .sourceMissing else .pathNotFound
      | _ => if stage = .moveSource ∨ stage = .publish then .renameFailed else .unexpectedFilesystemError

/-- `getattr(error, "winerror", None) or error.errno`. -/
def numericCode (error : OSError) : Option Int :=
  match error.winerror with
  | none | some 0 => error.errno
  | some code => some code

structure ArchiveSource where
  sourceClass : String
  sourceRelativePath : Path
  archiveRelativePath : Path
deriving DecidableEq

structure DirectorySnapshot where
  directories : List String
  /-- The size and the digest of each file. -/
  files : List (String × Nat × String)
deriving DecidableEq

structure ArchiveDiagnostic where
  operationStage : OperationStage
  sourceClass : Option String
  exceptionCategory : ExceptionCategory
  winerrorOrErrno : Option Int
  rollbackAttempted : Bool
  rollbackCompleted : Bool
  originalSourcesRestored : Bool
  failedPartPreserved : Bool
deriving DecidableEq

structure TransactionalArchiveOutcome where
  completed : Bool
  safeCode : String
  archiveName : Name
  fileCount : Nat
  totalSizeBytes : Nat
  manifestSha256 : Option String
  diagnostic : Option ArchiveDiagnostic := none
deriving DecidableEq

/-! ## The environment -/

/-- What the function is called with, and what the system it runs on does. -/
structure Environment (χ : Type) where
  /-- The exception of a refused operation. -/
  raises : Refusal → OSError
  size : χ → Nat
  /-- `_sha256_file`. -/
  sha256File : χ → String
  /-- `hashlib.sha256(text.encode("utf-8")).hexdigest()`. -/
  sha256 : String → String
  /-- The bytes a JSON document is dumped to. -/
  dump : Json → χ
  /-- The volume a path is on. -/
  device : Path → Nat
  stagingNameFactory : Name → Name
  /-- What the n-th call of the renamer raises. -/
  renamerRaises : Nat → Option OSError
  /-- What the n-th call of the snapshotter raises. -/
  snapshotterRaises : Nat → Option OSError

/-- The arguments of `transactional_archive`. -/
structure ArchiveRequest where
  archiveParentRelativePath : Path
  archiveName : Name
  sources : List ArchiveSource

namespace ArchiveRequest

def archiveTarget (request : ArchiveRequest) : Path := request.archiveParentRelativePath ++ [request.archiveName]

def staging (env : Environment χ) (request : ArchiveRequest) : Path :=
  request.archiveParentRelativePath ++ [env.stagingNameFactory request.archiveName]

end ArchiveRequest

/-- The locals of a run, and the tree it works on. -/
structure ArchiveRun (χ : Type) where
  disk : Disk χ
  /-- Every tree the run has made, the latest first. -/
  history : List (Disk χ)
  renames : Nat := 0
  snapshotsTaken : Nat := 0
  stage : OperationStage := .preflight
  currentSourceClass : Option String := none
  moved : List ArchiveSource := []
  stalePartDetected : Bool := false
  staging : Option Path := none
  archiveTarget : Option Path := none
  snapshots : List (Path × DirectorySnapshot) := []
  fileCount : Nat := 0
  totalSize : Nat := 0
  aggregate : Option String := none

abbrev Archiving (χ : Type) := EStateM OSError (ArchiveRun χ)

/-! ## Snapshots and the manifest -/

/-- `snapshot_directory`. -/
def snapshotDirectory (env : Environment χ) (disk : Disk χ) (directory : Path) : Except OSError DirectorySnapshot :=
  let entries := (disk.subtree directory).filter fun entry => entry.1 ≠ []
  if !disk.isDir directory then .error { errorClass := .other }
  else if entries.any fun entry => match entry.2.2 with | .file .reparse => true | _ => false then
    .error { errorClass := .other }
  else
    let directories := entries.filterMap fun entry => match entry.2.2 with
      | .dir => some (asPosix entry.1)
      | .file _ => none
    let files := entries.filterMap fun entry => match entry.2.2 with
      | .file (.regular content) => some (asPosix entry.1, env.size content, env.sha256File content)
      | _ => none
    .ok { directories := directories.insertionSort (· ≤ ·), files := files.insertionSort (·.1 ≤ ·.1) }

/-- `combined_file_manifest`. -/
def combinedFileManifest (snapshots : List (Path × DirectorySnapshot)) : List (String × Nat × String) :=
  (snapshots.flatMap fun (source, snapshot) =>
    snapshot.files.map fun (relative, details) => (asPosix source ++ "/" ++ relative, details)).insertionSort
      (·.1 ≤ ·.1)

/-- `manifest_sha256`. -/
def manifestSha256 (env : Environment χ) (manifest : List (String × Nat × String)) : String :=
  env.sha256 ("\n".intercalate ((manifest.insertionSort (·.1 ≤ ·.1)).map fun (name, size, digest) =>
    name ++ "\t" ++ toString size ++ "\t" ++ digest))

def totalSizeOf (files : List (String × Nat × String)) : Nat := (files.map fun file => file.2.1).sum

/-- `_snapshot_payload`. -/
def snapshotPayload (env : Environment χ) (snapshot : DirectorySnapshot) : Json :=
  .obj [(lit "directory_count", .int snapshot.directories.length), (lit "file_count", .int snapshot.files.length),
    (lit "total_size_bytes", .int (totalSizeOf snapshot.files)),
    (lit "manifest_sha256", .str (lit (manifestSha256 env snapshot.files))),
    (lit "directories", .arr (snapshot.directories.map fun name => .str (lit name))),
    (lit "files", .obj (snapshot.files.map fun (name, size, digest) =>
      (lit name, .obj [(lit "size", .int size), (lit "sha256", .str (lit digest))])))]

/-- The document `_write_manifest` writes. -/
def manifestPayload (env : Environment χ) (archiveName : Name) (snapshots : List (Path × DirectorySnapshot)) : Json :=
  let combined := combinedFileManifest snapshots
  .obj [(lit "schema_version", .int 1), (lit "archive_name", .str (lit archiveName.val)),
    (lit "file_count", .int combined.length), (lit "total_size_bytes", .int (totalSizeOf combined)),
    (lit "manifest_sha256", .str (lit (manifestSha256 env combined))),
    (lit "sources", .obj ((snapshots.insertionSort (asPosix ·.1 ≤ asPosix ·.1)).map fun (source, snapshot) =>
      (lit (asPosix source), snapshotPayload env snapshot))),
    (lit "same_volume_renames", .bool true), (lit "absolute_paths_recorded", .bool false),
    (lit "environment_values_recorded", .bool false)]

def manifestName : Name := ⟨"archive_manifest.json", by decide⟩

/-! ## The operations -/

/-- The tree becomes another one, or the operation is refused. -/
def change (env : Environment χ) (operation : Disk χ → Except Refusal (Disk χ)) : Archiving χ PUnit := do
  match operation (← get).disk with
  | .ok disk => modify fun run => { run with disk, history := disk :: run.history }
  | .error refusal => throw (env.raises refusal)

/-- A call of the renamer. -/
def renamer (env : Environment χ) (source destination : Path) : Archiving χ PUnit := do
  let calls := (← get).renames
  modify fun run => { run with renames := run.renames + 1 }
  match env.renamerRaises calls with
  | some error => throw error
  | none => change env fun disk => disk.rename source destination

/-- A call of the snapshotter. -/
def snapshotter (env : Environment χ) (directory : Path) : Archiving χ DirectorySnapshot := do
  let run ← get
  modify fun run => { run with snapshotsTaken := run.snapshotsTaken + 1 }
  match env.snapshotterRaises run.snapshotsTaken with
  | some error => throw error
  | none => getOrRaise (snapshotDirectory env run.disk directory)

/-- One directory of `mkdir(parents=True, exist_ok=True)`. -/
def mkdirExistOk (env : Environment χ) (path : Path) : Archiving χ PUnit := do
  if (← get).disk.isDir path then pure () else change env fun disk => disk.make path .dir

/-- `mkdir(parents=True, exist_ok=True)`. -/
def mkdirParents (env : Environment χ) (path : Path) : Archiving χ PUnit := path.inits.forM (mkdirExistOk env)

/-- The snapshot is the one that was taken at first. -/
def matchesSnapshot (source : ArchiveSource) (snapshot : DirectorySnapshot) : Archiving χ Bool := do
  return (← get).snapshots.lookup source.sourceRelativePath = some snapshot

def setStage (stage : OperationStage) : Archiving χ PUnit := modify fun run => { run with stage }

def setSourceClass (sourceClass : Option String) : Archiving χ PUnit :=
  modify fun run => { run with currentSourceClass := sourceClass }

/-! ## The archive -/

/-- The directories of the sources are there, none is given twice and no two go to one place. -/
def checkSources (sourcePaths destinationPaths : List Path) : List ArchiveSource → Archiving χ PUnit
  | [] => pure ()
  | source :: rest => do
    setSourceClass (some source.sourceClass)
    let disk := (← get).disk
    if source.sourceClass ∉ sourceClasses || source.sourceRelativePath ∈ sourcePaths
        || source.archiveRelativePath ∈ destinationPaths || !disk.validateExistingChain source.sourceRelativePath
        || !disk.isDir source.sourceRelativePath then
      throw (archiveStateError .sourceMissing)
    else
      checkSources (source.sourceRelativePath :: sourcePaths) (source.archiveRelativePath :: destinationPaths) rest

/-- `_same_volume`. -/
def sameVolume (env : Environment χ) (disk : Disk χ) (paths : List Path) : Bool :=
  let devices := paths.map fun path => (path.inits.reverse.find? fun parent => disk.has parent).map env.device
  devices.all (·.isSome) && devices.dedup.length = 1

def isStalePart (name : Name) : Bool :=
  ['.'].isPrefixOf name.val.toList && ['.', 'p', 'a', 'r', 't'].isSuffixOf name.val.toList

/-- Nothing an interrupted run has left is in the directory of the archives. -/
def checkStaleParts (env : Environment χ) (request : ArchiveRequest) : Archiving χ PUnit := do
  let disk := (← get).disk
  if disk.has request.archiveParentRelativePath then
    if !disk.isDir request.archiveParentRelativePath then throw (env.raises .notDirectory)
    else
      let stale := (disk.scandir request.archiveParentRelativePath).any isStalePart
      modify fun run => { run with stalePartDetected := stale }
      if stale then throw (archiveStateError .destinationExists) else pure ()
  else pure ()

/-- The snapshots of the sources, each under the source's path. -/
def takeSnapshots (env : Environment χ) : List ArchiveSource → Archiving χ (List (Path × DirectorySnapshot))
  | [] => pure []
  | source :: rest => do
    let snapshot ← snapshotter env source.sourceRelativePath
    let snapshots ← takeSnapshots env rest
    return (source.sourceRelativePath, snapshot) :: snapshots

def checkRequest (env : Environment χ) (request : ArchiveRequest) : Archiving χ PUnit := do
  if !(← get).disk.has [] then throw (env.raises .missing)
  else
    modify fun run => { run with archiveTarget := some request.archiveTarget }
    if request.archiveName.val = "" || pathName request.archiveName ≠ request.archiveName.val.toList
        || request.sources = [] then
      throw (archiveStateError .unexpectedFilesystemError)
    else checkSources [] [] request.sources

def checkDestination (env : Environment χ) (request : ArchiveRequest) : Archiving χ PUnit := do
  let disk := (← get).disk
  if disk.has request.archiveTarget || disk.isSymlink request.archiveTarget then
    throw (archiveStateError .destinationExists)
  else
    checkStaleParts env request
    if !sameVolume env disk ([] :: request.sources.map (·.sourceRelativePath) ++ [request.archiveTarget]) then
      throw (archiveStateError .renameFailed)
    else pure ()

def preflight (env : Environment χ) (request : ArchiveRequest) : Archiving χ PUnit := do
  checkRequest env request
  checkDestination env request
  let snapshots ← takeSnapshots env request.sources
  modify fun run => { run with snapshots }

/-- `_write_manifest`. -/
def writeManifest (env : Environment χ) (path : Path) (archiveName : Name) : Archiving χ PUnit := do
  let snapshots := (← get).snapshots
  let combined := combinedFileManifest snapshots
  change env fun disk => disk.make path (.file (.regular (env.dump (manifestPayload env archiveName snapshots))))
  modify fun run => { run with
    fileCount := combined.length
    totalSize := totalSizeOf combined
    aggregate := some (manifestSha256 env combined) }

/-- The directory of the archives is a directory of the repository. -/
def checkParent (request : ArchiveRequest) : Archiving χ PUnit := do
  let disk := (← get).disk
  if !disk.validateExistingChain request.archiveParentRelativePath
      || disk.isReparsePoint request.archiveParentRelativePath then
    throw (archiveStateError .accessDenied)
  else pure ()

def makeStaging (env : Environment χ) (request : ArchiveRequest) : Archiving χ PUnit := do
  modify fun run => { run with staging := some (request.staging env) }
  let disk := (← get).disk
  if disk.has (request.staging env) || disk.isSymlink (request.staging env) then
    throw (archiveStateError .destinationExists)
  else change env fun disk => disk.make (request.staging env) .dir

def createPart (env : Environment χ) (request : ArchiveRequest) : Archiving χ PUnit := do
  setStage .createPart
  setSourceClass none
  mkdirParents env request.archiveParentRelativePath
  checkParent request
  makeStaging env request
  request.sources.forM fun source => mkdirParents env (request.staging env ++ source.archiveRelativePath).dropLast
  writeManifest env (request.staging env ++ [manifestName]) request.archiveName

def moveSource (env : Environment χ) (request : ArchiveRequest) (source : ArchiveSource) : Archiving χ PUnit := do
  setSourceClass (some source.sourceClass)
  renamer env source.sourceRelativePath (request.staging env ++ source.archiveRelativePath)
  modify fun run => { run with moved := run.moved ++ [source] }

/-- What has been archived below `root` is what was found at first. -/
def verifySource (env : Environment χ) (root : Path) (source : ArchiveSource) : Archiving χ PUnit := do
  setSourceClass (some source.sourceClass)
  let snapshot ← snapshotter env (root ++ source.archiveRelativePath)
  if ← matchesSnapshot source snapshot then pure () else throw (archiveStateError .manifestMismatch)

def publish (env : Environment χ) (request : ArchiveRequest) : Archiving χ PUnit := do
  setStage .publish
  setSourceClass none
  renamer env (request.staging env) request.archiveTarget
  modify fun run => { run with staging := none }
  request.sources.forM (verifySource env request.archiveTarget)
  let disk := (← get).disk
  if request.sources.any fun source => disk.has source.sourceRelativePath then
    throw (archiveStateError .manifestMismatch)
  else pure ()

/-- The part of `transactional_archive` that may raise. -/
def archive (env : Environment χ) (request : ArchiveRequest) : Archiving χ TransactionalArchiveOutcome := do
  preflight env request
  createPart env request
  setStage .moveSource
  request.sources.forM (moveSource env request)
  setStage .verifyPart
  request.sources.forM (verifySource env (request.staging env))
  publish env request
  let run ← get
  return {
    completed := true
    safeCode := "transactional_archive_complete"
    archiveName := request.archiveName
    fileCount := run.fileCount
    totalSizeBytes := run.totalSize
    manifestSha256 := run.aggregate }

/-! ## The way back -/

/-- Where what has been moved is. -/
def ArchiveRun.rollbackRoot (run : ArchiveRun χ) : Option Path :=
  match run.archiveTarget with
  | some target => if run.disk.has target then some target else run.staging
  | none => run.staging

def moveBack (env : Environment χ) (root : Path) (source : ArchiveSource) : Archiving χ PUnit := do
  let archived := root ++ source.archiveRelativePath
  let original := source.sourceRelativePath
  let disk := (← get).disk
  if disk.has archived && !disk.has original then
    mkdirParents env original.dropLast
    renamer env archived original
  else pure ()

/-- Every source is a directory with the snapshot it had. -/
def allRestored (env : Environment χ) : List ArchiveSource → Archiving χ Bool
  | [] => pure true
  | source :: rest => do
    if !(← get).disk.isDir source.sourceRelativePath then return false
    else
      let snapshot ← snapshotter env source.sourceRelativePath
      if ← matchesSnapshot source snapshot then allRestored env rest else return false

/-- Move back what has been moved, the last one first, and see whether all is as it was. -/
def rollback (env : Environment χ) (request : ArchiveRequest) (root : Option Path) (moved : List ArchiveSource) :
    Archiving χ Bool := do
  match root with
  | none => throw (archiveStateError .rollbackFailed)
  | some root =>
    if !(← get).disk.has [] then throw (env.raises .missing)
    else
      moved.reverse.forM (moveBack env root)
      allRestored env request.sources

/-- The result of a run that has raised. -/
def failed (request : ArchiveRequest) (run : ArchiveRun χ) (error : OSError) (stage : OperationStage)
    (sourceClass : Option String) (category : ExceptionCategory) (attempted completed restored : Bool) :
    TransactionalArchiveOutcome where
  completed := false
  safeCode := "transactional_archive_failed"
  archiveName := request.archiveName
  fileCount := run.fileCount
  totalSizeBytes := run.totalSize
  manifestSha256 := run.aggregate
  diagnostic := some {
    operationStage := stage
    sourceClass := sourceClass
    exceptionCategory := category
    winerrorOrErrno := numericCode error
    rollbackAttempted := attempted
    rollbackCompleted := completed
    originalSourcesRestored := restored
    failedPartPreserved := run.stalePartDetected || run.staging.any (run.disk.has ·)
      || (run.archiveTarget.any (run.disk.has ·) && !completed) }

/-- What follows when `archive` raises. -/
def handle (env : Environment χ) (request : ArchiveRequest) (error : OSError) :
    EStateM Empty (ArchiveRun χ) TransactionalArchiveOutcome := do
  let before ← get
  let category := exceptionCategory error before.stage
  if before.moved = [] then
    let restored := request.sources.all fun source => before.disk.isDir source.sourceRelativePath
    return failed request before error before.stage before.currentSourceClass category false false restored
  else
    modify fun run => { run with stage := .rollback }
    let outcome ← attempt (rollback env request before.rollbackRoot before.moved)
    let run ← get
    match outcome with
    | .ok restored =>
      return failed request run error before.stage before.currentSourceClass category true restored restored
    | .error rollbackError =>
      return failed request run rollbackError .rollback (before.moved.getLast?.map (·.sourceClass)) .rollbackFailed
        true false false

def archiveOrHandle (env : Environment χ) (request : ArchiveRequest) :
    EStateM Empty (ArchiveRun χ) TransactionalArchiveOutcome := do
  match ← attempt (archive env request) with
  | .ok outcome => return outcome
  | .error error => handle env request error

/-- `transactional_archive`: the result, and what the run has left. -/
def transactionalArchive (env : Environment χ) (disk : Disk χ) (request : ArchiveRequest) :
    TransactionalArchiveOutcome × ArchiveRun χ :=
  match (archiveOrHandle env request).run { disk, history := [disk] } with
  | .ok outcome run => (outcome, run)
  | .error error _ => nomatch error

end ArkClaw.Packaging
