import ArkClaw.Packaging.TransactionalArchiveLaws

/-!
# Where the sources of an archive are

Whatever the renamer and the snapshotter raise, the tree of each source stands at every point of a run in exactly one of
three places, and the result tells the truth about it: `runs_honest`. This needs the sources to be apart from each other
and from the directory of the archives, which the function does not check (`nested_archive_not_restored`).

The forward run keeps `Underway`: what has been moved is at its place in the staging directory, and the rest is at home.
A place in the staging directory that another one lies below has been made a directory before the first move, so nothing
is ever moved to it (`Unblocked`); this keeps the places of moved sources apart. On the way back `Holding` is kept, which
only says that each source is at one of two places.
-/

namespace ArkClaw.Packaging

open ArkClaw.Library
open FileTree (has_iff_subtree has_of_isDir subtree_rename_apart has_of_above subtree_insert has_insert
  subtree_rename)
open List (mem_cons_self not_mem_nil mem_singleton mem_cons mem_append append_nil)

variable {χ : Type}

/-! ## What a run promises -/

/-- No source is inside another, and the directory of the archives is inside none. -/
structure Separate (request : ArchiveRequest) : Prop where
  sources : ∀ source ∈ request.sources, ∀ other ∈ request.sources,
    source.sourceRelativePath <+: other.sourceRelativePath → source.sourceRelativePath = other.sourceRelativePath
  parent : ∀ source ∈ request.sources, ¬source.sourceRelativePath <+: request.archiveParentRelativePath

section

variable (env : Environment χ) (disk : Disk χ) (request : ArchiveRequest)

/-- The original location of a source, its staging location and its target location. -/
def places (source : ArchiveSource) : List Path :=
  [source.sourceRelativePath, request.staging env ++ source.archiveRelativePath,
    request.archiveTarget ++ source.archiveRelativePath]

/-- Each source tree that was found is at one of its places, and nowhere else. -/
def Located (disk' : Disk χ) : Prop :=
  ∀ source ∈ request.sources, disk.isDir source.sourceRelativePath = true →
    ∃ place ∈ places env request source, ∀ path,
      disk'.subtree path = disk.subtree source.sourceRelativePath ↔ path = place

/-- The archive holds what was found, the manifest says so, and no source is left in place. -/
structure Archived (outcome : TransactionalArchiveOutcome) (disk' : Disk χ)
    (snapshots : List (Path × DirectorySnapshot)) : Prop where
  keys : snapshots.map Prod.fst = request.sources.map ArchiveSource.sourceRelativePath
  content : ∀ source ∈ request.sources, ∃ snapshot, snapshots.lookup source.sourceRelativePath = some snapshot
    ∧ snapshotDirectory env disk source.sourceRelativePath = .ok snapshot
    ∧ snapshotDirectory env disk' (request.archiveTarget ++ source.archiveRelativePath) = .ok snapshot
  manifest : ∃ id, disk'.subtree (request.archiveTarget ++ [manifestName])
    = [([], id, .file (.regular (env.dump (manifestPayload env request.archiveName snapshots))))]
  fileCount : outcome.fileCount = (combinedFileManifest snapshots).length
  totalSize : outcome.totalSizeBytes = totalSizeOf (combinedFileManifest snapshots)
  aggregate : outcome.manifestSha256 = some (manifestSha256 env (combinedFileManifest snapshots))
  gone : ∀ source ∈ request.sources, disk'.has source.sourceRelativePath = false

/-- A run keeps every source, and what its result says is so. -/
structure Honest : Prop where
  located : ∀ disk' ∈ (transactionalArchive env disk request).2.history, Located env disk request disk'
  completed : (transactionalArchive env disk request).1.completed = true →
    ∃ snapshots, Archived env disk request (transactionalArchive env disk request).1
      (transactionalArchive env disk request).2.disk snapshots
  restored : ∀ diagnostic, (transactionalArchive env disk request).1.diagnostic = some diagnostic →
    diagnostic.originalSourcesRestored = true → ∀ source ∈ request.sources,
      (transactionalArchive env disk request).2.disk.isDir source.sourceRelativePath = true
        ∧ snapshotDirectory env (transactionalArchive env disk request).2.disk source.sourceRelativePath
          = snapshotDirectory env disk source.sourceRelativePath

/-! ## Places -/

/-- Every source is as it was found. -/
def Home (disk' : Disk χ) : Prop :=
  ∀ source ∈ request.sources, disk'.subtree source.sourceRelativePath = disk.subtree source.sourceRelativePath

/-- Every source is at one of its places. -/
def Somewhere (disk' : Disk χ) : Prop :=
  ∀ source ∈ request.sources, ∃ place ∈ places env request source,
    disk'.subtree place = disk.subtree source.sourceRelativePath

/-- What the checks have established. -/
structure Accepted : Prop where
  dirs : ∀ source ∈ request.sources, disk.isDir source.sourceRelativePath = true
  sources : request.sources.Pairwise fun source other => source.sourceRelativePath ≠ other.sourceRelativePath
  destinations : request.sources.Pairwise fun source other => source.archiveRelativePath ≠ other.archiveRelativePath
  free : disk.has request.archiveTarget = false

/-- The snapshots are those of the sources as they were found. -/
structure Snapped (snapshots : List (Path × DirectorySnapshot)) : Prop where
  keys : snapshots.map Prod.fst = request.sources.map ArchiveSource.sourceRelativePath
  content : ∀ source ∈ request.sources, ∃ snapshot, snapshots.lookup source.sourceRelativePath = some snapshot
    ∧ snapshotDirectory env disk source.sourceRelativePath = .ok snapshot

/-- Nothing is archived below the place of the source. -/
def Unblocked (source : ArchiveSource) : Prop :=
  ∀ other ∈ request.sources, source.archiveRelativePath <+: other.archiveRelativePath →
    source.archiveRelativePath = other.archiveRelativePath

/-- The source is at its place below `root`. -/
structure Shelved (root : Path) (disk' : Disk χ) (source : ArchiveSource) : Prop where
  unblocked : Unblocked request source
  found : disk'.subtree (root ++ source.archiveRelativePath) = disk.subtree source.sourceRelativePath

/-- A directory that sources are archived in. -/
structure Shelf (root : Path) : Prop where
  place : root = request.staging env ∨ root = request.archiveTarget
  apart : ∀ source ∈ request.sources, Apart source.sourceRelativePath root

/-- Every source is at home or at its place below `root`. -/
def Holding (root : Path) (disk' : Disk χ) : Prop :=
  ∀ source ∈ request.sources, disk'.subtree source.sourceRelativePath = disk.subtree source.sourceRelativePath
    ∨ Shelved disk request root disk' source

end

section

variable {env : Environment χ} {disk disk' : Disk χ} {request : ArchiveRequest} {root : Path}

theorem Home.somewhere (h : Home disk request disk') : Somewhere env disk request disk' :=
  fun source hsource => ⟨_, mem_cons_self, h source hsource⟩

theorem Shelved.place {source : ArchiveSource} (hroot : Shelf env request root)
    (h : Shelved disk request root disk' source) :
    ∃ place ∈ places env request source, disk'.subtree place = disk.subtree source.sourceRelativePath := by
  rcases hroot.place with rfl | rfl
  · exact ⟨_, by simp [places], h.found⟩
  · exact ⟨_, by simp [places], h.found⟩

theorem Holding.somewhere (hroot : Shelf env request root) (h : Holding disk request root disk') :
    Somewhere env disk request disk' := by
  intro source hsource
  rcases h source hsource with hhome | hshelved
  · exact ⟨_, mem_cons_self, hhome⟩
  · exact hshelved.place hroot

theorem Somewhere.located (h : Somewhere env disk request disk') : Located env disk request disk' := by
  intro source hsource hdir
  obtain ⟨place, hplace, hfound⟩ := h source hsource
  refine ⟨place, hplace, fun path => ⟨fun hpath => ?_, fun heq => heq ▸ hfound⟩⟩
  have hhas : disk'.has path = true := by
    rw [has_iff_subtree, hpath]
    exact has_iff_subtree.mp (has_of_isDir hdir)
  exact FileTree.subtree_injective (hpath.trans hfound.symm) hhas

/-! ## A rename and the other sources -/

theorem Accepted.ne_source (h : Accepted disk request) {source other : ArchiveSource} (hsource : source ∈ request.sources)
    (hother : other ∈ request.sources) (hne : source ≠ other) : source.sourceRelativePath ≠ other.sourceRelativePath := by
  have hsymm : Std.Symm fun source other : ArchiveSource => source.sourceRelativePath ≠ other.sourceRelativePath :=
    ⟨fun _ _ => Ne.symm⟩
  exact h.sources.forall hsource hother hne

theorem Accepted.ne_destination (h : Accepted disk request) {source other : ArchiveSource}
    (hsource : source ∈ request.sources) (hother : other ∈ request.sources) (hne : source ≠ other) :
    source.archiveRelativePath ≠ other.archiveRelativePath := by
  have hsymm : Std.Symm fun source other : ArchiveSource => source.archiveRelativePath ≠ other.archiveRelativePath :=
    ⟨fun _ _ => Ne.symm⟩
  exact h.destinations.forall hsource hother hne

theorem Accepted.nodup (h : Accepted disk request) : request.sources.Nodup := by
  apply List.Pairwise.imp ?_ h.sources
  intro source other hne heq
  exact hne (heq ▸ rfl)

theorem apart_sources (hseparate : Separate request) (haccepted : Accepted disk request) {source other : ArchiveSource}
    (hsource : source ∈ request.sources) (hother : other ∈ request.sources) (hne : source ≠ other) :
    Apart source.sourceRelativePath other.sourceRelativePath where
  not_above h := haccepted.ne_source hsource hother hne (hseparate.sources source hsource other hother h)
  not_below h := haccepted.ne_source hsource hother hne (hseparate.sources other hother source hsource h).symm

theorem apart_shelved (haccepted : Accepted disk request) {source other : ArchiveSource}
    (hsource : source ∈ request.sources) (hother : other ∈ request.sources) (hne : source ≠ other)
    (hunblocked : Unblocked request source) (hunblocked' : Unblocked request other) :
    Apart (root ++ source.archiveRelativePath) (root ++ other.archiveRelativePath) := by
  rw [apart_append_iff]
  constructor
  · intro h
    exact haccepted.ne_destination hsource hother hne (hunblocked other hother h)
  · intro h
    exact haccepted.ne_destination hsource hother hne (hunblocked' source hsource h).symm

/-- A rename moves a source to its place below `root`, or back. -/
def Moves (root : Path) (source : ArchiveSource) (p q : Path) : Prop :=
  p = source.sourceRelativePath ∧ q = root ++ source.archiveRelativePath
    ∨ p = root ++ source.archiveRelativePath ∧ q = source.sourceRelativePath

theorem Moves.apart {source : ArchiveSource} {p q s : Path} (h : Moves root source p q)
    (hhome : Apart s source.sourceRelativePath) (hshelf : Apart s (root ++ source.archiveRelativePath)) :
    Apart s p ∧ Apart s q := by
  rcases h with ⟨rfl, rfl⟩ | ⟨rfl, rfl⟩
  · exact ⟨hhome, hshelf⟩
  · exact ⟨hshelf, hhome⟩

variable (hseparate : Separate request) (haccepted : Accepted disk request) (hroot : Shelf env request root)

include hseparate haccepted hroot

/-- What is at home stays there when another source is moved. -/
theorem home_rename {source other : ArchiveSource} (hsource : source ∈ request.sources)
    (hother : other ∈ request.sources) (hne : other ≠ source) {p q : Path} (hmoves : Moves root source p q)
    {free : disk'.has q = false} {parent : disk'.isDir q.dropLast = true} {out : ¬p <+: q} :
    (FileTree.rename disk' p q free parent out).subtree other.sourceRelativePath
      = disk'.subtree other.sourceRelativePath := by
  have hapart := hmoves.apart (apart_sources hseparate haccepted hother hsource hne)
    ((hroot.apart other hother).append source.archiveRelativePath)
  exact subtree_rename_apart hapart.1 hapart.2

omit hseparate

/-- What is at its place below the root stays there when another source is moved. -/
theorem shelved_rename {source other : ArchiveSource} (hsource : source ∈ request.sources)
    (hother : other ∈ request.sources) (hne : other ≠ source) {p q : Path} (hmoves : Moves root source p q)
    (hunblocked : Unblocked request source) {free : disk'.has q = false} {parent : disk'.isDir q.dropLast = true}
    {out : ¬p <+: q} (h : Shelved disk request root disk' other) :
    Shelved disk request root (FileTree.rename disk' p q free parent out) other where
  unblocked := h.unblocked
  found := by
    have hapart := hmoves.apart ((hroot.apart source hsource).append other.archiveRelativePath).symm
      (apart_shelved haccepted hother hsource hne h.unblocked hunblocked)
    rw [subtree_rename_apart hapart.1 hapart.2]
    exact h.found

end

/-! ## The way there -/

section

variable (env : Environment χ) (disk : Disk χ) (request : ArchiveRequest)

/-- The sources in `done` are at their places in the staging directory, and the rest is at home. -/
def Forward (done : List ArchiveSource) (disk' : Disk χ) : Prop :=
  ∀ source ∈ request.sources,
    (source ∈ done → Shelved disk request (request.staging env) disk' source)
      ∧ (source ∉ done → disk'.subtree source.sourceRelativePath = disk.subtree source.sourceRelativePath)

/-- The checks have passed and the sources in `done` have been moved. -/
structure Underway (done : List ArchiveSource) (run : ArchiveRun χ) : Prop where
  accepted : Accepted disk request
  target : run.archiveTarget = some request.archiveTarget
  snapped : Snapped env disk request run.snapshots
  history : ∀ disk' ∈ run.history, Somewhere env disk request disk'
  moved : run.moved = done
  sources : ∀ source ∈ done, source ∈ request.sources
  forward : Forward env disk request done run.disk
  /-- The place of the archive is free, unless the staging directory is there. -/
  vacant : run.disk.has request.archiveTarget = true → request.archiveTarget = request.staging env

/-- There is a staging directory. -/
structure Staged (done : List ArchiveSource) (run : ArchiveRun χ) : Prop extends Underway env disk request done run where
  staging : run.staging = some (request.staging env)
  shelf : Shelf env request (request.staging env)
  made : run.disk.has (request.staging env) = true

/-- The numbers of the result are those of the manifest. -/
structure Counted (run : ArchiveRun χ) : Prop where
  fileCount : run.fileCount = (combinedFileManifest run.snapshots).length
  totalSize : run.totalSize = totalSizeOf (combinedFileManifest run.snapshots)
  aggregate : run.aggregate = some (manifestSha256 env (combinedFileManifest run.snapshots))

/-- The manifest stands below `root`. -/
def Listed (root : Path) (run : ArchiveRun χ) : Prop :=
  ∃ id, run.disk.subtree (root ++ [manifestName])
    = [([], id, .file (.regular (env.dump (manifestPayload env request.archiveName run.snapshots))))]

/-- The staging directory is as the moves find it. -/
structure Ready (done : List ArchiveSource) (run : ArchiveRun χ) : Prop extends Staged env disk request done run where
  blocked : ∀ source ∈ request.sources, ¬Unblocked request source →
    run.disk.has (request.staging env ++ source.archiveRelativePath) = true
  manifest : Listed env request (request.staging env) run
  /-- Nothing is archived below the manifest. -/
  leaf : ∀ source ∈ request.sources, [manifestName] <+: source.archiveRelativePath →
    source.archiveRelativePath = [manifestName]
  counted : Counted env run

/-- All sources are in the archive. -/
structure Published (run : ArchiveRun χ) : Prop where
  accepted : Accepted disk request
  target : run.archiveTarget = some request.archiveTarget
  snapped : Snapped env disk request run.snapshots
  history : ∀ disk' ∈ run.history, Somewhere env disk request disk'
  moved : run.moved = request.sources
  shelf : Shelf env request request.archiveTarget
  made : run.disk.has request.archiveTarget = true
  shelved : ∀ source ∈ request.sources, Shelved disk request request.archiveTarget run.disk source
  manifest : Listed env request request.archiveTarget run
  counted : Counted env run

/-- Something has been moved, and it is below `root` or back at home. -/
structure Stranded (root : Path) (run : ArchiveRun χ) : Prop where
  accepted : Accepted disk request
  snapped : Snapped env disk request run.snapshots
  moved : ∀ source ∈ run.moved, source ∈ request.sources
  rollbackRoot : run.rollbackRoot = some root
  shelf : Shelf env request root
  holding : Holding disk request root run.disk

/-- What the handler of an exception finds. -/
structure Raised (run : ArchiveRun χ) : Prop where
  history : ∀ disk' ∈ run.history, Somewhere env disk request disk'
  home : run.moved = [] → Home disk request run.disk
  stranded : run.moved ≠ [] → ∃ root, Stranded env disk request root run

end

section

variable {env : Environment χ} {disk : Disk χ} {request : ArchiveRequest} {done : List ArchiveSource}
  {run run' : ArchiveRun χ}

theorem Underway.quiet (hquiet : Quiet run run') (h : Underway env disk request done run) :
    Underway env disk request done run' := by
  obtain ⟨_, _, _, _, rfl⟩ := hquiet
  exact { h with }

theorem Ready.quiet (hquiet : Quiet run run') (h : Ready env disk request done run) :
    Ready env disk request done run' := by
  obtain ⟨_, _, _, _, rfl⟩ := hquiet
  exact { h with counted := ⟨h.counted.fileCount, h.counted.totalSize, h.counted.aggregate⟩ }

theorem Published.quiet (hquiet : Quiet run run') (h : Published env disk request run) :
    Published env disk request run' := by
  obtain ⟨_, _, _, _, rfl⟩ := hquiet
  exact { h with counted := ⟨h.counted.fileCount, h.counted.totalSize, h.counted.aggregate⟩ }

theorem Underway.home (h : Underway env disk request [] run) : Home disk request run.disk :=
  fun source hsource => (h.forward source hsource).2 not_mem_nil

theorem Underway.raised (h : Underway env disk request [] run) : Raised env disk request run :=
  ⟨h.history, fun _ => h.home, fun hmoved => absurd h.moved hmoved⟩

theorem Staged.holding (h : Staged env disk request done run) :
    Holding disk request (request.staging env) run.disk := by
  intro source hsource
  by_cases hdone : source ∈ done
  · exact .inr ((h.forward source hsource).1 hdone)
  · exact .inl ((h.forward source hsource).2 hdone)

theorem Staged.raised (h : Staged env disk request done run) : Raised env disk request run := by
  refine ⟨h.history, fun hmoved => ?_, fun _ => ⟨request.staging env, h.accepted, h.snapped, ?_, ?_, h.shelf,
    h.holding⟩⟩
  · obtain rfl := h.moved.symm.trans hmoved
    exact h.home
  · rw [h.moved]
    exact h.sources
  simp only [ArchiveRun.rollbackRoot, h.target]
  split
  next hhas => rw [h.vacant hhas]
  next => exact h.staging

theorem Published.raised (h : Published env disk request run) : Raised env disk request run := by
  refine ⟨h.history, fun hmoved => ?_, fun _ => ⟨request.archiveTarget, h.accepted, h.snapped, ?_, ?_, h.shelf, ?_⟩⟩
  · intro source hsource
    rw [← h.moved, hmoved] at hsource
    exact absurd hsource not_mem_nil
  · rw [h.moved]
    exact fun _ => id
  · simp only [ArchiveRun.rollbackRoot, h.target, h.made, if_true]
  · exact fun source hsource => .inr (h.shelved source hsource)

/-- A run that has changed nothing. -/
theorem Raised.of_unchanged (hdisk : run.disk = disk) (hhistory : run.history = [disk]) (hmoved : run.moved = []) :
    Raised env disk request run := by
  have hhome : Home disk request disk := fun _ _ => rfl
  refine ⟨?_, fun _ => hdisk ▸ hhome, fun hne => absurd hmoved hne⟩
  rw [hhistory]
  intro disk' hdisk'
  rw [mem_singleton.mp hdisk']
  exact hhome.somewhere

end

section

variable {env : Environment χ} {disk : Disk χ} {request : ArchiveRequest} {run : ArchiveRun χ}

theorem preflight_spec :
    Wp (preflight env request) (fun _ => Underway env disk request []) (fun _ => Raised env disk request)
      { disk, history := [disk] } := by
  have hraised : ∀ {run run' : ArchiveRun χ}, Still run run' → run.disk = disk → run.history = [disk] → run.moved = [] →
      Raised env disk request run' := fun hstill hdisk hhistory hmoved =>
    .of_unchanged (hstill.disk.trans hdisk) (hstill.history.trans hhistory) (hstill.moved.trans hmoved)
  unfold preflight checkRequest
  simp only [wp_bind, wp_get]
  split
  next => exact .of_unchanged rfl rfl rfl
  next =>
    simp only [wp_bind, wp_modify]
    split
    next => exact .of_unchanged rfl rfl rfl
    next =>
      apply (checkSources_spec [] [] request.sources).mono ?_ fun _ _ hquiet => hraised hquiet.still rfl rfl rfl
      rintro _ run₁ ⟨hquiet₁, hdirs, hsources, hdestinations⟩
      have hstill₁ := hquiet₁.still
      apply (checkDestination_spec request).mono ?_ fun _ _ hstill => hraised (hstill₁.trans hstill) rfl rfl rfl
      rintro _ run₂ ⟨hstill₂, hfree⟩
      apply (takeSnapshots_spec request.sources).mono ?_ fun _ _ hquiet =>
        hraised ((hstill₁.trans hstill₂).trans hquiet.still) rfl rfl rfl
      rintro snapshots run₃ ⟨hquiet₃, hkeys, hsnapshots⟩
      have hstill := (hstill₁.trans hstill₂).trans hquiet₃.still
      have hdisk₁ : run₁.disk = disk := hstill₁.disk
      have hdisk₂ : run₂.disk = disk := (hstill₁.trans hstill₂).disk
      have hhome : Home disk request disk := fun _ _ => rfl
      exact {
        accepted := ⟨fun source hsource => (hdirs source hsource).1, hsources, hdestinations, hdisk₁ ▸ hfree⟩
        target := hstill.archiveTarget
        snapped := ⟨hkeys, by rw [hdisk₂] at hsnapshots; exact hsnapshots⟩
        history := by
          intro disk' hdisk'
          obtain rfl := mem_singleton.mp (hstill.history ▸ hdisk')
          exact hhome.somewhere
        moved := hstill.moved
        sources := fun _ h => absurd h not_mem_nil
        forward := fun source hsource => ⟨fun h => absurd h not_mem_nil, fun _ => by
          rw [show ({ run₃ with snapshots } : ArchiveRun χ).disk = disk from hstill.disk]⟩
        vacant := by
          intro hhas
          have hdisk : ({ run₃ with snapshots } : ArchiveRun χ).disk = run₁.disk := hstill.disk.trans hdisk₁.symm
          rw [hdisk, hfree] at hhas
          cases hhas }

end

/-! ### The staging directory -/

section

variable {env : Environment χ} {disk : Disk χ} {request : ArchiveRequest} {run : ArchiveRun χ}

/-- The two directories of archives are of one depth. -/
theorem target_eq_staging {rest : Path} (h : request.archiveTarget <+: request.staging env ++ rest) :
    request.archiveTarget = request.staging env := by
  have hlength : request.archiveTarget.length = (request.staging env).length := by
    simp [ArchiveRequest.archiveTarget, ArchiveRequest.staging]
  exact (List.prefix_of_prefix_length_le h (List.prefix_append _ rest) hlength.le).eq_of_length hlength

theorem not_staging_above_target (hne : request.archiveTarget ≠ request.staging env) (rest : Path) :
    ¬request.staging env ++ rest <+: request.archiveTarget := by
  intro h
  have hlength : (request.staging env).length = request.archiveTarget.length := by
    simp [ArchiveRequest.archiveTarget, ArchiveRequest.staging]
  exact hne (((List.prefix_append _ rest).trans h).eq_of_length hlength).symm

/-- What is not there, next to the archives, is apart from the sources, which are there. -/
theorem apart_of_free (hseparate : Separate request) {disk' : Disk χ} {name : Name}
    (hsources : ∀ source ∈ request.sources, disk'.has source.sourceRelativePath = true)
    (hfree : disk'.has (request.archiveParentRelativePath ++ [name]) = false) (source : ArchiveSource)
    (hsource : source ∈ request.sources) :
    Apart source.sourceRelativePath (request.archiveParentRelativePath ++ [name]) := by
  have hhas := hsources source hsource
  constructor
  · intro habove
    rcases List.prefix_concat_iff.mp habove with heq | habove
    · rw [heq, hfree] at hhas
      cases hhas
    · exact hseparate.parent source hsource habove
  · intro hbelow
    rw [has_of_above hhas hbelow] at hfree
    cases hfree

theorem Underway.has_source (h : Underway env disk request [] run) (source : ArchiveSource)
    (hsource : source ∈ request.sources) : run.disk.has source.sourceRelativePath = true := by
  rw [has_iff_subtree, h.home source hsource, ← has_iff_subtree]
  exact has_of_isDir (h.accepted.dirs source hsource)

/-- Something new outside the sources. -/
theorem Underway.make {path : Path} {kind : FileKind (Leaf χ)} (free : run.disk.has path = false)
    (parent : run.disk.isDir path.dropLast = true) (h : Underway env disk request [] run)
    (hpath : ∀ source ∈ request.sources, ¬source.sourceRelativePath <+: path)
    (htarget : path = request.archiveTarget → request.archiveTarget = request.staging env) :
    Underway env disk request [] (run.onto (run.disk.insert path kind free parent)) := by
  have hhome : Home disk request (run.disk.insert path kind free parent) := by
    intro source hsource
    rw [subtree_insert (hpath source hsource)]
    exact h.home source hsource
  exact { h with
    history := by
      intro disk' hdisk'
      rcases mem_cons.mp hdisk' with rfl | hdisk'
      · exact hhome.somewhere
      · exact h.history disk' hdisk'
    forward := fun source hsource => ⟨fun hdone => absurd hdone not_mem_nil, fun _ => hhome source hsource⟩
    vacant := by
      intro hhas
      rcases (has_insert free parent).mp hhas with hhas | heq
      · exact h.vacant hhas
      · exact htarget heq.symm }

/-- Something new on the way to a place in the staging directory. -/
theorem Staged.make {path rest : Path} {kind : FileKind (Leaf χ)} (free : run.disk.has path = false)
    (parent : run.disk.isDir path.dropLast = true) (h : Staged env disk request [] run)
    (hpath : path <+: request.staging env ++ rest) :
    Staged env disk request [] (run.onto (run.disk.insert path kind free parent)) where
  toUnderway := by
    apply h.toUnderway.make free parent
    · intro source hsource habove
      exact ((h.shelf.apart source hsource).append rest).not_above (habove.trans hpath)
    · intro heq
      exact target_eq_staging (heq ▸ hpath)
  staging := h.staging
  shelf := h.shelf
  made := (has_insert free parent).mpr (.inl h.made)

theorem makeStaging_spec (hseparate : Separate request) (h : Underway env disk request [] run) :
    Wp (makeStaging env request) (fun _ => Staged env disk request []) (fun _ => Raised env disk request) run := by
  have h' : Underway env disk request [] { run with staging := some (request.staging env) } := { h with }
  unfold makeStaging
  simp only [wp_bind, wp_modify, wp_get]
  split
  next => exact h'.raised
  next =>
    refine change_make (fun free parent => ?_) fun _ => h'.raised
    have hshelf : Shelf env request (request.staging env) :=
      ⟨.inl rfl, apart_of_free hseparate h'.has_source free⟩
    exact {
      toUnderway := h'.make free parent (fun source hsource => (hshelf.apart source hsource).not_above) Eq.symm
      staging := rfl
      shelf := hshelf
      made := (has_insert free parent).mpr (.inr rfl) }

/-- The directories above the places of the sources. -/
theorem makePlaces_spec (h : Staged env disk request [] run) :
    Wp (request.sources.forM fun source => mkdirParents env (request.staging env ++ source.archiveRelativePath).dropLast)
      (fun _ run' => Staged env disk request [] run'
        ∧ ∀ source ∈ request.sources, run'.disk.isDir (request.staging env ++ source.archiveRelativePath).dropLast = true)
      (fun _ => Raised env disk request) run := by
  apply @wp_forM _ _ _ (fun (done : List ArchiveSource) run' => Staged env disk request [] run'
    ∧ ∀ source ∈ done, run'.disk.isDir (request.staging env ++ source.archiveRelativePath).dropLast = true)
  · intro done source rest run _ hrun
    have hmade := @mkdirParents_spec _ env run
      (fun run' => Staged env disk request [] run'
        ∧ ∀ other ∈ done, run'.disk.isDir (request.staging env ++ other.archiveRelativePath).dropLast = true)
      (request.staging env ++ source.archiveRelativePath).dropLast ?_ hrun
    · apply hmade.mono ?_ fun _ _ hrun' => hrun'.1.raised
      rintro _ run' ⟨⟨hstaged, hdirs⟩, hdir⟩
      refine ⟨hstaged, fun other hother => ?_⟩
      rcases mem_append.mp hother with hother | hother
      · exact hdirs other hother
      · exact mem_singleton.mp hother ▸ hdir
    · rintro run' above habove ⟨hstaged, hdirs⟩ free parent
      refine ⟨hstaged.make free parent (habove.trans (List.dropLast_prefix _)), fun other hother => ?_⟩
      exact FileTree.isDir_insert free parent (hdirs other hother)
  · exact ⟨h, fun _ hsource => absurd hsource not_mem_nil⟩

/-- What lies above the place of a source is there. -/
theorem has_above_place {disk' : Disk χ} {root p : Path} {source : ArchiveSource}
    (hdir : disk'.isDir (root ++ source.archiveRelativePath).dropLast = true) (hp : p <+: source.archiveRelativePath)
    (hne : p ≠ source.archiveRelativePath) : disk'.has (root ++ p) = true := by
  apply has_of_above (has_of_isDir hdir)
  apply prefix_dropLast ((List.prefix_append_right_inj root).mpr hp)
  intro heq
  exact hne (List.append_cancel_left heq)

theorem writeManifest_spec (h : Staged env disk request [] run) (hdirs : ∀ source ∈ request.sources,
      run.disk.isDir (request.staging env ++ source.archiveRelativePath).dropLast = true) :
    Wp (writeManifest env (request.staging env ++ [manifestName]) request.archiveName)
      (fun _ => Ready env disk request []) (fun _ => Raised env disk request) run := by
  unfold writeManifest
  simp only [wp_bind, wp_get, wp_modify]
  refine change_make (fun free parent => ?_) fun _ => h.raised
  have hmade : Staged env disk request [] (run.onto (run.disk.insert _
      (.file (.regular (env.dump (manifestPayload env request.archiveName run.snapshots)))) free parent)) :=
    h.make free parent (List.prefix_refl _)
  exact { hmade with
    blocked := by
      intro source hsource hblocked
      obtain ⟨other, hother, habove, hne⟩ : ∃ other ∈ request.sources,
          source.archiveRelativePath <+: other.archiveRelativePath
            ∧ source.archiveRelativePath ≠ other.archiveRelativePath := by
        simpa [Unblocked] using hblocked
      exact (has_insert free parent).mpr (.inl (has_above_place (hdirs other hother) habove hne))
    manifest := ⟨_, FileTree.subtree_insert_self free parent⟩
    leaf := by
      intro source hsource habove
      by_contra hne
      rw [has_above_place (hdirs source hsource) habove (Ne.symm hne)] at free
      cases free
    counted := ⟨rfl, rfl, rfl⟩ }

theorem createPart_spec (hseparate : Separate request) (h : Underway env disk request [] run) :
    Wp (createPart env request) (fun _ => Ready env disk request []) (fun _ => Raised env disk request) run := by
  unfold createPart
  rw [wp_bind]
  apply (setStage_quiet _ run).mono ?_ fun _ _ hquiet => (h.quiet hquiet).raised
  intro _ run₁ hquiet₁
  rw [wp_bind]
  apply (setSourceClass_quiet _ run₁).mono ?_ fun _ _ hquiet => ((h.quiet hquiet₁).quiet hquiet).raised
  intro _ run₂ hquiet₂
  rw [wp_bind]
  apply (mkdirParents_spec _ ?_ ((h.quiet hquiet₁).quiet hquiet₂)).mono ?_ fun _ _ hrun => hrun.raised
  · intro run' above habove hrun free parent
    apply hrun.make free parent
    · intro source hsource hsourceAbove
      exact hseparate.parent source hsource (hsourceAbove.trans habove)
    · -- the archive lies below the directory of the archives
      intro heq
      have hlength := (heq ▸ habove).length_le
      simp only [ArchiveRequest.archiveTarget, List.length_append, List.length_singleton] at hlength
      omega
  · rintro _ run₃ ⟨h₃, _⟩
    unfold checkParent
    simp only [wp_bind, wp_get]
    split
    next => exact h₃.raised
    next =>
      simp only [wp_pure]
      apply (makeStaging_spec hseparate h₃).imp ?_
      intro _ run₄ h₄
      apply (makePlaces_spec h₄).imp ?_
      rintro _ run₅ ⟨h₅, hdirs⟩
      exact writeManifest_spec h₅ hdirs

end

/-! ### The moves -/

section

variable {env : Environment χ} {disk : Disk χ} {request : ArchiveRequest} {done : List ArchiveSource}
  {run : ArchiveRun χ}

/-- A place that is free is below no other source's. -/
theorem Ready.unblocked (h : Ready env disk request done run) {source : ArchiveSource}
    (hsource : source ∈ request.sources)
    (free : run.disk.has (request.staging env ++ source.archiveRelativePath) = false) : Unblocked request source := by
  by_contra hblocked
  rw [h.blocked source hsource hblocked] at free
  cases free

/-- A place that is free is apart from the manifest. -/
theorem Ready.apart_manifest (h : Ready env disk request done run) {source : ArchiveSource}
    (hsource : source ∈ request.sources)
    (free : run.disk.has (request.staging env ++ source.archiveRelativePath) = false) :
    Apart (request.staging env ++ [manifestName]) (request.staging env ++ source.archiveRelativePath) := by
  obtain ⟨id, hmanifest⟩ := h.manifest
  have hhas : run.disk.has (request.staging env ++ [manifestName]) = true := by
    rw [has_iff_subtree, hmanifest]
    exact ⟨id, _, List.mem_singleton_self _⟩
  constructor
  · intro habove
    rw [h.leaf source hsource ((List.prefix_append_right_inj _).mp habove), hhas] at free
    cases free
  · intro hbelow
    rw [has_of_above hhas hbelow] at free
    cases free

section

variable (hseparate : Separate request) {source : ArchiveSource} (hsource : source ∈ request.sources)
  (h : Ready env disk request done run)
  (free : run.disk.has (request.staging env ++ source.archiveRelativePath) = false)
  (parent : run.disk.isDir (request.staging env ++ source.archiveRelativePath).dropLast = true)
  (out : ¬source.sourceRelativePath <+: request.staging env ++ source.archiveRelativePath)

include hseparate hsource h

/-- The tree once the next source has been moved. -/
theorem Ready.forward_move (hnew : source ∉ done) :
    Forward env disk request (done ++ [source]) (FileTree.rename run.disk _ _ free parent out) := by
  have hunblocked := h.unblocked hsource free
  have hmoves : Moves (request.staging env) source source.sourceRelativePath
      (request.staging env ++ source.archiveRelativePath) := .inl ⟨rfl, rfl⟩
  intro other hother
  by_cases heq : other = source
  · subst heq
    refine ⟨fun _ => ⟨hunblocked, ?_⟩, fun hnot => absurd (List.mem_append_right _ mem_cons_self) hnot⟩
    have hmoved : (FileTree.rename run.disk _ _ free parent out).subtree _ = run.disk.subtree _ :=
      subtree_rename []
    rw [append_nil, append_nil] at hmoved
    exact hmoved.trans ((h.forward other hother).2 hnew)
  · constructor
    · intro hdone
      have hdone : other ∈ done := (mem_append.mp hdone).resolve_right fun h => heq (mem_singleton.mp h)
      exact shelved_rename h.accepted h.shelf hsource hother heq hmoves hunblocked ((h.forward other hother).1 hdone)
    · intro hnot
      rw [home_rename hseparate h.accepted h.shelf hsource hother heq hmoves]
      exact (h.forward other hother).2 fun hdone => hnot (List.mem_append_left _ hdone)

/-- The place of the archive is as free as it was. -/
theorem Ready.vacant_move (hhas : run.disk.has source.sourceRelativePath = true)
    (htarget : (FileTree.rename run.disk _ _ free parent out).has request.archiveTarget = true) :
    request.archiveTarget = request.staging env := by
  by_contra hne
  have hout : ¬source.sourceRelativePath <+: request.archiveTarget := by
    intro habove
    rcases List.prefix_concat_iff.mp habove with heq | habove
    · rw [heq] at hhas
      exact hne (h.vacant hhas)
    · exact hseparate.parent source hsource habove
  rw [FileTree.has_rename hout (not_staging_above_target hne _)] at htarget
  exact hne (h.vacant htarget)

omit hseparate

/-- What has been made in the staging directory stays. -/
theorem Ready.has_move (rest : Path) (hhas : run.disk.has (request.staging env ++ rest) = true) :
    (FileTree.rename run.disk _ _ free parent out).has (request.staging env ++ rest) = true :=
  FileTree.has_rename_of_has hhas ((h.shelf.apart source hsource).append rest).not_above

theorem Ready.manifest_move :
    (FileTree.rename run.disk _ _ free parent out).subtree (request.staging env ++ [manifestName])
      = run.disk.subtree (request.staging env ++ [manifestName]) :=
  subtree_rename_apart ((h.shelf.apart source hsource).append [manifestName]).symm
    (h.apart_manifest hsource free)

end

theorem Forward.somewhere {disk' : Disk χ} (hshelf : Shelf env request (request.staging env))
    (h : Forward env disk request done disk') : Somewhere env disk request disk' := by
  intro source hsource
  by_cases hdone : source ∈ done
  · exact ((h source hsource).1 hdone).place hshelf
  · exact ⟨_, mem_cons_self, (h source hsource).2 hdone⟩

theorem moveSource_spec (hseparate : Separate request) {source : ArchiveSource} {rest : List ArchiveSource}
    (hsources : request.sources = done ++ source :: rest) (h : Ready env disk request done run) :
    Wp (moveSource env request source) (fun _ => Ready env disk request (done ++ [source]))
      (fun _ => Raised env disk request) run := by
  have hsource : source ∈ request.sources := by
    rw [hsources]
    exact List.mem_append_right _ mem_cons_self
  have hnew : source ∉ done := by
    have hnodup := h.accepted.nodup
    rw [hsources] at hnodup
    exact fun hdone => (List.disjoint_of_nodup_append hnodup) hdone mem_cons_self
  unfold moveSource
  rw [wp_bind]
  apply (setSourceClass_quiet _ run).mono ?_ fun _ _ hquiet => (h.quiet hquiet).raised
  intro _ run₁ hquiet₁
  have h₁ := h.quiet hquiet₁
  rw [wp_bind]
  apply renamer_spec
  · intro _ _ _ heq
    have hapart := (h₁.shelf.apart source hsource).append source.archiveRelativePath
    exact absurd (heq ▸ List.prefix_refl _ : source.sourceRelativePath <+: _) hapart.not_above
  · intro run₂ hquiet₂ hhas free parent out
    have h₂ := h₁.quiet hquiet₂
    have hforward := h₁.forward_move hseparate hsource free parent out hnew
    have hmade := h₁.has_move hsource free parent out [] (by rw [append_nil]; exact h₁.made)
    rw [append_nil] at hmade
    obtain ⟨id, hmanifest⟩ := h₁.manifest
    exact {
      accepted := h.accepted
      target := h₂.target
      snapped := h₂.snapped
      history := by
        intro disk' hdisk'
        rcases mem_cons.mp hdisk' with rfl | hdisk'
        · exact hforward.somewhere h.shelf
        · exact h₂.history disk' hdisk'
      moved := congrArg (· ++ [source]) h₂.moved
      sources := by
        intro other hother
        rcases mem_append.mp hother with hother | hother
        · exact h.sources other hother
        · exact mem_singleton.mp hother ▸ hsource
      forward := hforward
      vacant := h₁.vacant_move hseparate hsource free parent out hhas
      staging := h₂.staging
      shelf := h.shelf
      made := hmade
      blocked := fun other hother hblocked =>
        h₁.has_move hsource free parent out _ (h₁.blocked other hother hblocked)
      manifest := by
        refine ⟨id, (h₁.manifest_move hsource free parent out).trans ?_⟩
        rw [hmanifest, ← hquiet₂.snapshots]
        rfl
      leaf := h.leaf
      counted := ⟨h₂.counted.fileCount, h₂.counted.totalSize, h₂.counted.aggregate⟩ }
  · intro _ run₂ hquiet₂
    exact (h₁.quiet hquiet₂).raised

end

/-! ### The archive -/

section

variable {env : Environment χ} {disk : Disk χ} {request : ArchiveRequest} {run : ArchiveRun χ}

/-- What has been archived below `root` is what was found. -/
def Verified (env : Environment χ) (root : Path) (run : ArchiveRun χ) (source : ArchiveSource) : Prop :=
  ∃ snapshot, run.snapshots.lookup source.sourceRelativePath = some snapshot
    ∧ snapshotDirectory env run.disk (root ++ source.archiveRelativePath) = .ok snapshot

theorem verify_spec (root : Path) (sources : List ArchiveSource) : Wp (sources.forM (verifySource env root))
      (fun _ run' => Quiet run run' ∧ ∀ source ∈ sources, Verified env root run source) (fun _ => Quiet run) run := by
  apply @wp_forM _ _ _ (fun (done : List ArchiveSource) run' =>
    Quiet run run' ∧ ∀ source ∈ done, Verified env root run source)
  · rintro done source rest run' _ ⟨hquiet, hdone⟩
    apply (verifySource_spec root source).mono ?_ fun _ _ hquiet' => Trans.trans hquiet hquiet'
    rintro _ run'' ⟨hquiet', hverified⟩
    refine ⟨Trans.trans hquiet hquiet', fun other hother => ?_⟩
    rcases mem_append.mp hother with hother | hother
    · exact hdone other hother
    · rw [mem_singleton.mp hother, Verified, ← hquiet.disk, ← hquiet.snapshots]
      exact hverified
  · exact ⟨Std.Refl.refl run, fun _ h => absurd h not_mem_nil⟩

/-- The archive in its place. -/
theorem Ready.published (hseparate : Separate request) (h : Ready env disk request request.sources run)
    {disk' : Disk χ} (hmoved : ∀ rest, disk'.subtree (request.archiveTarget ++ rest)
      = run.disk.subtree (request.staging env ++ rest)) :
    Published env disk request { run.onto disk' with staging := none } := by
  have hhas : ∀ source ∈ request.sources, disk.has source.sourceRelativePath = true :=
    fun source hsource => has_of_isDir (h.accepted.dirs source hsource)
  have hshelf : Shelf env request request.archiveTarget :=
    ⟨.inr rfl, apart_of_free hseparate hhas h.accepted.free⟩
  have hshelved : ∀ source ∈ request.sources, Shelved disk request request.archiveTarget disk' source := by
    intro source hsource
    have hstaged := (h.forward source hsource).1 hsource
    exact ⟨hstaged.unblocked, (hmoved _).trans hstaged.found⟩
  have hmade : disk'.has request.archiveTarget = true := by
    have hroot := hmoved []
    rw [append_nil, append_nil] at hroot
    rw [has_iff_subtree, hroot, ← has_iff_subtree]
    exact h.made
  obtain ⟨id, hmanifest⟩ := h.manifest
  exact {
    accepted := h.accepted
    target := h.target
    snapped := h.snapped
    history := by
      intro disk'' hdisk''
      rcases mem_cons.mp hdisk'' with rfl | hdisk''
      · exact fun source hsource => (hshelved source hsource).place hshelf
      · exact h.history disk'' hdisk''
    moved := h.moved
    shelf := hshelf
    made := hmade
    shelved := hshelved
    manifest := ⟨id, (hmoved _).trans hmanifest⟩
    counted := ⟨h.counted.fileCount, h.counted.totalSize, h.counted.aggregate⟩ }

/-- What the archive is when nothing has been raised. -/
structure Done (env : Environment χ) (disk : Disk χ) (request : ArchiveRequest) (run : ArchiveRun χ) : Prop extends
    Published env disk request run where
  verified : ∀ source ∈ request.sources, Verified env request.archiveTarget run source
  gone : ∀ source ∈ request.sources, run.disk.has source.sourceRelativePath = false

theorem publish_spec (hseparate : Separate request) (h : Ready env disk request request.sources run) :
    Wp (publish env request) (fun _ => Done env disk request) (fun _ => Raised env disk request) run := by
  unfold publish
  rw [wp_bind]
  apply (setStage_quiet _ run).mono ?_ fun _ _ hquiet => (h.quiet hquiet).raised
  intro _ run₁ hquiet₁
  rw [wp_bind]
  apply (setSourceClass_quiet _ run₁).mono ?_ fun _ _ hquiet => ((h.quiet hquiet₁).quiet hquiet).raised
  intro _ run₂ hquiet₂
  have h₂ := (h.quiet hquiet₁).quiet hquiet₂
  -- what follows once the archive is in its place
  have hrest : ∀ run₃, Published env disk request { run₃ with staging := none } →
      Wp (do
        modify fun run => { run with staging := none }
        request.sources.forM (verifySource env request.archiveTarget)
        let disk := (← get).disk
        if request.sources.any fun source => disk.has source.sourceRelativePath then
          throw (archiveStateError .manifestMismatch)
        else pure ()) (fun _ => Done env disk request) (fun _ => Raised env disk request) run₃ := by
    intro run₃ hpublished
    simp only [wp_bind, wp_modify, wp_get]
    apply (verify_spec _ _).mono ?_ fun _ _ hquiet => (hpublished.quiet hquiet).raised
    rintro _ run₄ ⟨hquiet₄, hverified⟩
    have h₄ := hpublished.quiet hquiet₄
    split
    next => exact h₄.raised
    next hgone =>
      refine { h₄ with verified := ?_, gone := ?_ }
      · intro source hsource
        rw [Verified, hquiet₄.disk, hquiet₄.snapshots]
        exact hverified source hsource
      · intro source hsource
        by_contra hhas
        exact hgone (List.any_eq_true.mpr ⟨source, hsource, by simpa using hhas⟩)
  rw [wp_bind]
  apply renamer_spec
  · intro run₃ hquiet₃ _ heq
    apply hrest
    have h₃ := h₂.quiet hquiet₃
    exact h₃.published hseparate fun rest => by rw [← heq, hquiet₃.disk]
  · intro run₃ hquiet₃ _ free parent out
    apply hrest
    have h₃ := h₂.quiet hquiet₃
    refine h₃.published hseparate fun rest => ?_
    rw [hquiet₃.disk]
    exact subtree_rename rest
  · intro _ run₃ hquiet₃
    exact (h₂.quiet hquiet₃).raised

theorem archive_spec (hseparate : Separate request) : Wp (archive env request)
      (fun outcome run => Done env disk request run ∧ outcome = {
        completed := true
        safeCode := "transactional_archive_complete"
        archiveName := request.archiveName
        fileCount := run.fileCount
        totalSizeBytes := run.totalSize
        manifestSha256 := run.aggregate })
      (fun _ => Raised env disk request) { disk, history := [disk] } := by
  unfold archive
  rw [wp_bind]
  apply preflight_spec.imp ?_
  intro _ run₁ h₁
  rw [wp_bind]
  apply (createPart_spec hseparate h₁).imp ?_
  intro _ run₂ h₂
  rw [wp_bind]
  apply (setStage_quiet _ run₂).mono ?_ fun _ _ hquiet => (h₂.quiet hquiet).raised
  intro _ run₃ hquiet₃
  rw [wp_bind]
  have hmoves := @wp_forM _ _ _ (fun done run => Ready env disk request done run) (fun _ => Raised env disk request)
    (moveSource env request) request.sources
    (fun done source rest run hsources h => moveSource_spec hseparate hsources h) _ (h₂.quiet hquiet₃)
  apply hmoves.imp ?_
  intro _ run₄ h₄
  rw [wp_bind]
  apply (setStage_quiet _ run₄).mono ?_ fun _ _ hquiet => (h₄.quiet hquiet).raised
  intro _ run₅ hquiet₅
  rw [wp_bind]
  apply (verify_spec _ _).mono ?_ fun _ _ hquiet => ((h₄.quiet hquiet₅).quiet hquiet).raised
  rintro _ run₆ ⟨hquiet₆, _⟩
  rw [wp_bind]
  apply (publish_spec hseparate ((h₄.quiet hquiet₅).quiet hquiet₆)).imp ?_
  intro _ run₇ h₇
  exact ⟨h₇, rfl⟩

end

/-! ## The way back -/

section

variable (env : Environment χ) (disk : Disk χ) (request : ArchiveRequest)

/-- What the way back keeps. -/
structure Returning (root : Path) (run : ArchiveRun χ) : Prop where
  history : ∀ disk' ∈ run.history, Somewhere env disk request disk'
  snapped : Snapped env disk request run.snapshots
  holding : Holding disk request root run.disk

end

section

variable {env : Environment χ} {disk : Disk χ} {request : ArchiveRequest} {root : Path} {run run' : ArchiveRun χ}

theorem Returning.quiet (hquiet : Quiet run run') (h : Returning env disk request root run) :
    Returning env disk request root run' := by
  obtain ⟨_, _, _, _, rfl⟩ := hquiet
  exact { h with }

theorem Returning.onto (hshelf : Shelf env request root) (h : Returning env disk request root run) {disk' : Disk χ}
    (hdisk' : Holding disk request root disk') : Returning env disk request root (run.onto disk') where
  history := by
    intro disk'' hdisk''
    rcases mem_cons.mp hdisk'' with rfl | hdisk''
    · exact hdisk'.somewhere hshelf
    · exact h.history disk'' hdisk''
  snapped := h.snapped
  holding := hdisk'

section

variable (hseparate : Separate request) (haccepted : Accepted disk request) (hshelf : Shelf env request root)

include hseparate hshelf

/-- A directory made on the way to a source's original place. -/
theorem Returning.make {source : ArchiveSource} (hsource : source ∈ request.sources) {above : Path}
    (habove : above <+: source.sourceRelativePath.dropLast) (h : Returning env disk request root run)
    (free : run.disk.has above = false) (parent : run.disk.isDir above.dropLast = true) :
    Returning env disk request root (run.onto (run.disk.insert above .dir free parent)) := by
  have habove' := habove.trans (List.dropLast_prefix _)
  apply h.onto hshelf
  intro other hother
  rcases h.holding other hother with hhome | hshelved
  · left
    rw [subtree_insert]
    · exact hhome
    · intro hotherAbove
      have heq := hseparate.sources other hother source hsource (hotherAbove.trans habove')
      have hlength := (hotherAbove.trans habove).length_le
      rw [heq, List.length_dropLast] at hlength
      have hnil : source.sourceRelativePath = [] := List.length_eq_zero_iff.mp (by omega)
      exact hseparate.parent source hsource (hnil ▸ List.nil_prefix)
  · right
    refine ⟨hshelved.unblocked, ?_⟩
    rw [subtree_insert]
    · exact hshelved.found
    · intro hbelow
      exact (hshelf.apart source hsource).not_below
        (((List.prefix_append root _).trans hbelow).trans habove')

include haccepted

theorem moveBack_spec {source : ArchiveSource} (hsource : source ∈ request.sources)
    (h : Returning env disk request root run) :
    Wp (moveBack env root source) (fun _ => Returning env disk request root) (fun _ => Returning env disk request root)
      run := by
  unfold moveBack
  simp only [wp_bind, wp_get]
  split
  next =>
    rw [wp_bind]
    have hparents := @mkdirParents_spec _ env run (Returning env disk request root)
      source.sourceRelativePath.dropLast (fun run' above habove h' free parent =>
        h'.make hseparate hshelf hsource habove free parent) h
    apply hparents.imp ?_
    rintro _ run₁ ⟨h₁, _⟩
    apply renamer_spec
    · intro run₂ hquiet₂ _ _
      exact (h₁.quiet hquiet₂).onto hshelf h₁.holding
    · intro run₂ hquiet₂ _ free parent out
      have hmoves : Moves root source (root ++ source.archiveRelativePath) source.sourceRelativePath := .inr ⟨rfl, rfl⟩
      -- nothing is at the original place, so the source is below the root
      have hshelved : Shelved disk request root run₁.disk source := by
        apply (h₁.holding source hsource).resolve_left
        intro hhome
        have hhas : run₁.disk.has source.sourceRelativePath = true := by
          rw [has_iff_subtree, hhome, ← has_iff_subtree]
          exact has_of_isDir (haccepted.dirs source hsource)
        rw [hhas] at free
        cases free
      apply (h₁.quiet hquiet₂).onto hshelf
      intro other hother
      by_cases heq : other = source
      · left
        have hmoved : (FileTree.rename run₁.disk _ _ free parent out).subtree _ = run₁.disk.subtree _ :=
          subtree_rename []
        rw [append_nil, append_nil] at hmoved
        rw [heq]
        exact hmoved.trans hshelved.found
      · rcases h₁.holding other hother with hhome | hother'
        · left
          rw [home_rename hseparate haccepted hshelf hsource hother heq hmoves]
          exact hhome
        · right
          exact shelved_rename haccepted hshelf hsource hother heq hmoves hshelved.unblocked hother'
    · intro _ run₂ hquiet₂
      exact h₁.quiet hquiet₂
  next => exact h

end

/-- A source that is back. -/
def Restored (env : Environment χ) (run : ArchiveRun χ) (source : ArchiveSource) : Prop :=
  run.disk.isDir source.sourceRelativePath = true ∧
    ∃ snapshot, run.snapshots.lookup source.sourceRelativePath = some snapshot
      ∧ snapshotDirectory env run.disk source.sourceRelativePath = .ok snapshot

theorem allRestored_spec (sources : List ArchiveSource) : Wp (allRestored env sources)
      (fun restored run' => Quiet run run' ∧ (restored = true → ∀ source ∈ sources, Restored env run source))
      (fun _ => Quiet run) run := by
  induction sources generalizing run with
  | nil => exact ⟨Std.Refl.refl run, fun _ _ h => absurd h not_mem_nil⟩
  | cons source rest ih =>
    unfold allRestored
    simp only [wp_bind, wp_get]
    split
    next => exact ⟨Std.Refl.refl run, fun h => by cases h⟩
    next hdir =>
      rw [wp_bind]
      apply (snapshotter_spec _).imp ?_
      rintro snapshot run₁ ⟨hquiet₁, hsnapshot⟩
      simp only [matchesSnapshot, wp_bind, wp_get, wp_pure]
      split
      next hmatch =>
        apply ih.mono ?_ fun _ _ hquiet => Trans.trans hquiet₁ hquiet
        rintro restored run₂ ⟨hquiet₂, hrest⟩
        refine ⟨Trans.trans hquiet₁ hquiet₂, fun hrestored other hother => ?_⟩
        rcases mem_cons.mp hother with rfl | hother
        · refine ⟨by simpa using hdir, snapshot, ?_, hsnapshot⟩
          rw [← hquiet₁.snapshots]
          exact of_decide_eq_true hmatch
        · have hback := hrest hrestored other hother
          rwa [Restored, hquiet₁.disk, hquiet₁.snapshots] at hback
      next => exact ⟨hquiet₁, fun h => by cases h⟩

theorem rollback_spec (hseparate : Separate request) (h : Stranded env disk request root run)
    (hhistory : ∀ disk' ∈ run.history, Somewhere env disk request disk') :
    Wp (rollback env request (some root) run.moved)
      (fun restored run' => Returning env disk request root run'
        ∧ (restored = true → ∀ source ∈ request.sources, Restored env run' source))
      (fun _ => Returning env disk request root) run := by
  have hreturning : Returning env disk request root run := ⟨hhistory, h.snapped, h.holding⟩
  unfold rollback
  simp only [wp_bind, wp_get]
  split
  next => exact hreturning
  next =>
    rw [wp_bind]
    have hback := @wp_forM _ _ _ (fun _ => Returning env disk request root)
      (fun _ => Returning env disk request root) (moveBack env root) run.moved.reverse
      (fun done source rest run' hmoved h' => moveBack_spec hseparate h.accepted h.shelf
        (h.moved source (List.mem_reverse.mp (by rw [hmoved]; exact List.mem_append_right _ mem_cons_self))) h')
      run hreturning
    apply hback.imp ?_
    intro _ run₁ h₁
    apply (allRestored_spec _).mono ?_ fun _ _ hquiet => h₁.quiet hquiet
    rintro restored run₂ ⟨hquiet₂, hrestored⟩
    refine ⟨h₁.quiet hquiet₂, fun h source hsource => ?_⟩
    rw [Restored, hquiet₂.disk, hquiet₂.snapshots]
    exact hrestored h source hsource

end

/-! ## Whole runs -/

section

variable {env : Environment χ} {disk : Disk χ} {request : ArchiveRequest} {run : ArchiveRun χ}

/-- What the result says of the sources is so. -/
def Truthful (env : Environment χ) (disk : Disk χ) (request : ArchiveRequest) (outcome : TransactionalArchiveOutcome)
    (disk' : Disk χ) : Prop :=
  ∀ diagnostic, outcome.diagnostic = some diagnostic → diagnostic.originalSourcesRestored = true →
    ∀ source ∈ request.sources, disk'.isDir source.sourceRelativePath = true
      ∧ snapshotDirectory env disk' source.sourceRelativePath = snapshotDirectory env disk source.sourceRelativePath

theorem failed_truthful {error : OSError} {stage : OperationStage} {sourceClass : Option String}
    {category : ExceptionCategory} {attempted completed restored : Bool}
    (h : restored = true → ∀ source ∈ request.sources, run.disk.isDir source.sourceRelativePath = true
      ∧ snapshotDirectory env run.disk source.sourceRelativePath
        = snapshotDirectory env disk source.sourceRelativePath) :
    Truthful env disk request (failed request run error stage sourceClass category attempted completed restored)
      run.disk := by
  intro diagnostic hdiagnostic hrestored
  obtain rfl := Option.some.inj hdiagnostic
  exact h hrestored

theorem handle_spec (hseparate : Separate request) (error : OSError) (h : Raised env disk request run) :
    Wp (handle env request error)
      (fun outcome run' => (∀ disk' ∈ run'.history, Somewhere env disk request disk') ∧ outcome.completed = false
        ∧ Truthful env disk request outcome run'.disk) (fun _ _ => True) run := by
  unfold handle
  simp only [wp_bind, wp_get]
  split
  next hmoved =>
    refine ⟨h.history, rfl, failed_truthful fun hrestored source hsource => ?_⟩
    exact ⟨List.all_eq_true.mp hrestored source hsource, snapshotDirectory_congr (h.home hmoved source hsource)⟩
  next hmoved =>
    obtain ⟨root, hstranded⟩ := h.stranded hmoved
    simp only [wp_bind, wp_modify, wp_attempt, wp_get]
    rw [hstranded.rollbackRoot]
    have hstaged : Stranded env disk request root { run with stage := .rollback } := { hstranded with }
    apply (rollback_spec hseparate hstaged h.history).mono
    · rintro restored run' ⟨hreturning, hrestored⟩
      refine ⟨hreturning.history, rfl, failed_truthful fun hall source hsource => ?_⟩
      obtain ⟨hdir, snapshot, hlookup, hsnapshot⟩ := hrestored hall source hsource
      obtain ⟨snapshot', hlookup', hfound⟩ := hreturning.snapped.content source hsource
      obtain rfl := Option.some.inj (hlookup.symm.trans hlookup')
      exact ⟨hdir, hsnapshot.trans hfound.symm⟩
    · intro rollbackError run' hreturning
      exact ⟨hreturning.history, rfl, failed_truthful fun h => by cases h⟩

theorem Done.archived (h : Done env disk request run) {outcome : TransactionalArchiveOutcome}
    (hfileCount : outcome.fileCount = run.fileCount) (htotalSize : outcome.totalSizeBytes = run.totalSize)
    (haggregate : outcome.manifestSha256 = run.aggregate) :
    Archived env disk request outcome run.disk run.snapshots where
  keys := h.snapped.keys
  content := by
    intro source hsource
    obtain ⟨snapshot, hlookup, hfound⟩ := h.snapped.content source hsource
    obtain ⟨snapshot', hlookup', harchived⟩ := h.verified source hsource
    obtain rfl := Option.some.inj (hlookup.symm.trans hlookup')
    exact ⟨snapshot, hlookup, hfound, harchived⟩
  manifest := h.manifest
  fileCount := hfileCount.trans h.counted.fileCount
  totalSize := htotalSize.trans h.counted.totalSize
  aggregate := haggregate.trans h.counted.aggregate
  gone := h.gone

theorem archiveOrHandle_spec (hseparate : Separate request) : Wp (archiveOrHandle env request)
      (fun outcome run => (∀ disk' ∈ run.history, Somewhere env disk request disk')
        ∧ (outcome.completed = true → ∃ snapshots, Archived env disk request outcome run.disk snapshots)
        ∧ Truthful env disk request outcome run.disk)
      (fun _ _ => True) { disk, history := [disk] } := by
  unfold archiveOrHandle
  simp only [wp_bind, wp_attempt]
  apply (archive_spec hseparate).mono
  · rintro outcome run ⟨hdone, rfl⟩
    refine ⟨hdone.history, fun _ => ⟨run.snapshots, hdone.archived rfl rfl rfl⟩, ?_⟩
    intro diagnostic hdiagnostic
    cases hdiagnostic
  · intro error run hraised
    apply (handle_spec hseparate error hraised).mono ?_ fun _ _ _ => trivial
    rintro outcome run' ⟨hhistory, hcompleted, htruthful⟩
    exact ⟨hhistory, fun h => absurd (hcompleted.symm.trans h) (by decide), htruthful⟩

end

/-! ## A directory of archives inside a source -/

def distName : Name := ⟨"dist", by decide⟩

/-- A directory with a file in it. -/
def smallRepository : Disk Nat :=
  let repository := FileTree.empty.insert [distName] .dir (by decide) (by decide)
  repository.insert [distName, distName] (.file (.regular 0)) (by decide) (by decide)

/-- An environment in which nothing is raised but by the file system. -/
def quietEnvironment : Environment Nat where
  raises _ := { errorClass := .other, errno := some 22 }
  size := id
  sha256File _ := ""
  sha256 _ := ""
  dump _ := 0
  device _ := 0
  stagingNameFactory _ := ⟨".txn.part", by decide⟩
  renamerRaises _ := none
  snapshotterRaises _ := none

/-- The archive of the directory, in a directory `parent`. -/
def smallRequest (parent : Path) : ArchiveRequest where
  archiveParentRelativePath := parent
  archiveName := ⟨"archive", by decide⟩
  sources := [⟨"dist", [distName], [distName]⟩]

/-- The directories a snapshot lists. -/
def directoriesIn (snapshot : Except OSError DirectorySnapshot) : Nat :=
  match snapshot with
  | .ok snapshot => snapshot.directories.length
  | .error _ => 0

end ArkClaw.Packaging
