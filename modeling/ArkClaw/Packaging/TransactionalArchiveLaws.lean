import ArkClaw.Packaging.TransactionalArchive

/-!
# What the operations of an archive do

A disk is changed by making a directory and by a rename, and by nothing else; what stands apart from the paths of a
change is not touched by it. The rest of an operation is bookkeeping (`Quiet`).
-/

namespace ArkClaw.Packaging

open ArkClaw.Library

variable {χ : Type} {env : Environment χ} {run run' : ArchiveRun χ}

/-! ## Bookkeeping -/

/-- Only the counts of calls, the stage and the class at hand differ. -/
def Quiet (run run' : ArchiveRun χ) : Prop :=
  ∃ renames snapshotsTaken stage currentSourceClass,
    run' = { run with renames, snapshotsTaken, stage, currentSourceClass }

instance : Std.Refl (@Quiet χ) := ⟨fun run => ⟨run.renames, run.snapshotsTaken, run.stage, _, rfl⟩⟩

instance : Trans (@Quiet χ) Quiet Quiet where
  trans := by
    rintro _ _ _ ⟨_, _, _, _, rfl⟩ ⟨_, _, _, _, rfl⟩
    exact ⟨_, _, _, _, rfl⟩

theorem Quiet.disk (h : Quiet run run') : run'.disk = run.disk := by
  obtain ⟨_, _, _, _, rfl⟩ := h
  rfl

theorem Quiet.snapshots (h : Quiet run run') : run'.snapshots = run.snapshots := by
  obtain ⟨_, _, _, _, rfl⟩ := h
  rfl

theorem setStage_quiet (stage : OperationStage) : Follows Quiet (setStage stage : Archiving χ PUnit) :=
  Follows.modify fun run => ⟨run.renames, run.snapshotsTaken, stage, _, rfl⟩

theorem setSourceClass_quiet (sourceClass : Option String) :
    Follows Quiet (setSourceClass sourceClass : Archiving χ PUnit) :=
  Follows.modify fun run => ⟨run.renames, run.snapshotsTaken, _, sourceClass, rfl⟩

/-! ## Snapshots -/

/-- A snapshot sees a subtree and nothing else. -/
theorem snapshotDirectory_congr {disk disk' : Disk χ} {path path' : Path}
    (h : disk.subtree path = disk'.subtree path') :
    snapshotDirectory env disk path = snapshotDirectory env disk' path' := by
  have hdir : disk.isDir path = disk'.isDir path' := by
    rw [Bool.eq_iff_iff, FileTree.isDir_iff_subtree, FileTree.isDir_iff_subtree, h]
  unfold snapshotDirectory
  rw [h, hdir]

theorem snapshotter_spec (path : Path) : Wp (snapshotter env path)
      (fun snapshot run' => Quiet run run' ∧ snapshotDirectory env run.disk path = .ok snapshot)
      (fun _ => Quiet run) run := by
  have hquiet : Quiet run { run with snapshotsTaken := run.snapshotsTaken + 1 } :=
    ⟨run.renames, _, run.stage, _, rfl⟩
  unfold snapshotter
  simp only [wp_bind, wp_get, wp_modify]
  split
  next => exact hquiet
  next =>
    rw [wp_getOrRaise]
    exact ⟨fun _ hsnapshot => ⟨hquiet, hsnapshot⟩, fun _ _ => hquiet⟩

/-- What is found to match is what was found at first. -/
theorem verifySource_spec (root : Path) (source : ArchiveSource) : Wp (verifySource env root source)
      (fun _ run' => Quiet run run' ∧ ∃ snapshot, run.snapshots.lookup source.sourceRelativePath = some snapshot
        ∧ snapshotDirectory env run.disk (root ++ source.archiveRelativePath) = .ok snapshot)
      (fun _ => Quiet run) run := by
  unfold verifySource
  rw [wp_bind]
  apply (setSourceClass_quiet _ run).imp ?_
  intro _ run₁ hquiet₁
  rw [wp_bind]
  apply (snapshotter_spec _).mono ?_ fun _ _ hquiet => Trans.trans hquiet₁ hquiet
  rintro snapshot run₂ ⟨hquiet₂, hsnapshot⟩
  have hquiet : Quiet run run₂ := Trans.trans hquiet₁ hquiet₂
  simp only [matchesSnapshot, wp_bind, wp_get, wp_pure, wp_ite, wp_throw, decide_eq_true_eq]
  refine ⟨fun hmatch => ⟨hquiet, snapshot, ?_, ?_⟩, fun _ => hquiet⟩
  · rw [← hmatch, hquiet.snapshots]
  · rw [← hquiet₁.disk]
    exact hsnapshot

theorem takeSnapshots_spec (sources : List ArchiveSource) : Wp (takeSnapshots env sources)
      (fun snapshots run' => Quiet run run'
        ∧ snapshots.map Prod.fst = sources.map ArchiveSource.sourceRelativePath
        ∧ ∀ source ∈ sources, ∃ snapshot, snapshots.lookup source.sourceRelativePath = some snapshot
          ∧ snapshotDirectory env run.disk source.sourceRelativePath = .ok snapshot)
      (fun _ => Quiet run) run := by
  induction sources generalizing run with
  | nil => exact ⟨Std.Refl.refl run, rfl, fun _ h => absurd h List.not_mem_nil⟩
  | cons source rest ih =>
    unfold takeSnapshots
    rw [wp_bind]
    apply (snapshotter_spec _).imp ?_
    rintro snapshot run₁ ⟨hquiet₁, hsnapshot⟩
    rw [wp_bind]
    apply ih.mono ?_ fun _ _ hquiet => Trans.trans hquiet₁ hquiet
    rintro snapshots run₂ ⟨hquiet₂, hkeys, hall⟩
    refine ⟨Trans.trans hquiet₁ hquiet₂, by rw [List.map_cons, List.map_cons, hkeys], ?_⟩
    intro other hother
    by_cases hsame : other.sourceRelativePath = source.sourceRelativePath
    · exact ⟨snapshot, by rw [hsame, List.lookup_cons_self], by rw [hsame]; exact hsnapshot⟩
    · have hmem : other ∈ rest := (List.mem_cons.mp hother).resolve_left fun h => hsame (h ▸ rfl)
      obtain ⟨found, hlookup, hfound⟩ := hall other hmem
      refine ⟨found, ?_, by rw [← hquiet₁.disk]; exact hfound⟩
      rw [List.lookup_cons, beq_eq_false_iff_ne.mpr hsame]
      exact hlookup

/-! ## Changes -/

/-- The run with another tree. -/
def ArchiveRun.onto (run : ArchiveRun χ) (disk : Disk χ) : ArchiveRun χ :=
  { run with disk, history := disk :: run.history }

theorem change_make {path : Path} {kind : FileKind (Leaf χ)} {Q : PUnit → ArchiveRun χ → Prop}
    {R : OSError → ArchiveRun χ → Prop}
    (hmade : ∀ free parent, Q ⟨⟩ (run.onto (run.disk.insert path kind free parent))) (hraised : ∀ error, R error run) :
    Wp (change env fun disk => disk.make path kind) Q R run := by
  unfold change
  simp only [wp_bind, wp_get]
  split
  next disk hdisk =>
    unfold Disk.make at hdisk
    split_ifs at hdisk with free parent
    obtain rfl := Except.ok.inj hdisk
    exact hmade _ _
  next => exact hraised _

/-- A rename that returns found nothing at the destination, or source and destination are one path. -/
theorem renamer_spec {source destination : Path} {Q : PUnit → ArchiveRun χ → Prop} {R : OSError → ArchiveRun χ → Prop}
    (hsame : ∀ run', Quiet run run' → run.disk.has source = true → source = destination → Q ⟨⟩ (run'.onto run.disk))
    (hmoved : ∀ run', Quiet run run' → run.disk.has source = true → ∀ free parent out,
      Q ⟨⟩ (run'.onto (FileTree.rename run.disk source destination free parent out)))
    (hraised : ∀ error run', Quiet run run' → R error run') : Wp (renamer env source destination) Q R run := by
  have hquiet : Quiet run { run with renames := run.renames + 1 } := ⟨_, run.snapshotsTaken, run.stage, _, rfl⟩
  unfold renamer
  simp only [wp_bind, wp_get, wp_modify]
  split
  next => exact hraised _ _ hquiet
  next =>
    unfold change
    simp only [wp_bind, wp_get]
    split
    next disk hdisk =>
      unfold Disk.rename at hdisk
      split_ifs at hdisk with hmissing heq out free parent
      · obtain rfl := Except.ok.inj hdisk
        exact hsame _ hquiet (by simpa using hmissing) heq
      · obtain rfl := Except.ok.inj hdisk
        exact hmoved _ hquiet (by simpa using hmissing) _ _ _
    next => exact hraised _ _ hquiet

/-- What holds of a run and is kept by each directory made on the way to a path holds after all of them are. -/
theorem mkdirParents_spec {P : ArchiveRun χ → Prop} (path : Path)
    (hmake : ∀ run above, above <+: path → P run → ∀ free parent, P (run.onto (run.disk.insert above .dir free parent)))
    (hrun : P run) :
    Wp (mkdirParents env path) (fun _ run' => P run' ∧ run'.disk.isDir path = true) (fun _ => P) run := by
  have hloop : Wp (path.inits.forM (mkdirExistOk env))
      (fun _ run' => P run' ∧ ∀ above ∈ path.inits, run'.disk.isDir above = true) (fun _ => P) run := by
    apply @wp_forM _ _ _ (fun done run' => P run' ∧ ∀ above ∈ done, run'.disk.isDir above = true)
    · rintro done above rest run hpath ⟨hrun, hdone⟩
      have habove : above <+: path := (List.mem_inits _ _).mp (by rw [hpath]; simp)
      unfold mkdirExistOk
      simp only [wp_bind, wp_get]
      split
      next hdir =>
        refine ⟨hrun, ?_⟩
        intro p hp
        rcases List.mem_append.mp hp with hp | hp
        · exact hdone p hp
        · exact List.mem_singleton.mp hp ▸ hdir
      next hdir =>
        refine change_make (fun free parent => ⟨hmake run above habove hrun free parent, ?_⟩) fun _ => hrun
        intro p hp
        rcases List.mem_append.mp hp with hp | hp
        · exact FileTree.isDir_insert free parent (hdone p hp)
        · obtain rfl := List.mem_singleton.mp hp
          exact FileTree.isDir_insert_self free parent
    · exact ⟨hrun, fun _ h => absurd h List.not_mem_nil⟩
  exact hloop.imp (fun _ run' h => ⟨h.1, h.2 path ((List.mem_inits _ _).mpr (List.prefix_refl _))⟩)

/-! ## The checks -/

/-- The tree is as it was, and nothing has been moved since. -/
structure Still (run run' : ArchiveRun χ) : Prop where
  disk : run'.disk = run.disk
  history : run'.history = run.history
  moved : run'.moved = run.moved
  archiveTarget : run'.archiveTarget = run.archiveTarget

theorem Quiet.still (h : Quiet run run') : Still run run' := by
  obtain ⟨_, _, _, _, rfl⟩ := h
  exact ⟨rfl, rfl, rfl, rfl⟩

theorem Still.trans {run'' : ArchiveRun χ} (h : Still run run') (h' : Still run' run'') : Still run run'' :=
  ⟨h'.disk.trans h.disk, h'.history.trans h.history, h'.moved.trans h.moved, h'.archiveTarget.trans h.archiveTarget⟩

/-- Sources that pass are directories, and differ from each other and from those before them in both of their paths. -/
theorem checkSources_spec (sourcePaths destinationPaths : List Path) (sources : List ArchiveSource) :
    Wp (checkSources sourcePaths destinationPaths sources)
      (fun _ run' => Quiet run run'
        ∧ (∀ source ∈ sources, run.disk.isDir source.sourceRelativePath = true
          ∧ source.sourceRelativePath ∉ sourcePaths ∧ source.archiveRelativePath ∉ destinationPaths)
        ∧ (sources.Pairwise fun source other => source.sourceRelativePath ≠ other.sourceRelativePath)
        ∧ sources.Pairwise fun source other => source.archiveRelativePath ≠ other.archiveRelativePath)
      (fun _ => Quiet run) run := by
  induction sources generalizing run sourcePaths destinationPaths with
  | nil => exact ⟨Std.Refl.refl run, fun _ h => absurd h List.not_mem_nil, List.Pairwise.nil, List.Pairwise.nil⟩
  | cons source rest ih =>
    unfold checkSources
    rw [wp_bind]
    apply (setSourceClass_quiet _ run).imp ?_
    intro _ run₁ hquiet₁
    simp only [wp_bind, wp_get]
    split
    next => exact hquiet₁
    next hchecks =>
      simp only [Bool.or_eq_true, decide_eq_true_eq, Bool.not_eq_true', not_or, Bool.not_eq_false] at hchecks
      obtain ⟨⟨⟨⟨-, hsource⟩, hdestination⟩, -⟩, hdir⟩ := hchecks
      apply (ih _ _).mono ?_ fun _ _ hquiet => Trans.trans hquiet₁ hquiet
      rintro _ run₂ ⟨hquiet₂, hall, hsources, hdestinations⟩
      refine ⟨Trans.trans hquiet₁ hquiet₂, ?_, List.pairwise_cons.mpr ⟨?_, hsources⟩,
        List.pairwise_cons.mpr ⟨?_, hdestinations⟩⟩
      · intro other hother
        rcases List.mem_cons.mp hother with rfl | hother
        · exact ⟨hquiet₁.disk ▸ hdir, hsource, hdestination⟩
        · obtain ⟨hotherDir, hfresh, hfresh'⟩ := hall other hother
          exact ⟨hquiet₁.disk ▸ hotherDir, fun h => hfresh (List.mem_cons_of_mem _ h),
            fun h => hfresh' (List.mem_cons_of_mem _ h)⟩
      · intro other hother heq
        exact (hall other hother).2.1 (heq ▸ List.mem_cons_self)
      · intro other hother heq
        exact (hall other hother).2.2 (heq ▸ List.mem_cons_self)

theorem checkStaleParts_spec (request : ArchiveRequest) :
    Wp (checkStaleParts env request) (fun _ => Still run) (fun _ => Still run) run := by
  have hrefl : ∀ stale, Still run { run with stalePartDetected := stale } := fun _ => ⟨rfl, rfl, rfl, rfl⟩
  unfold checkStaleParts
  simp only [wp_bind, wp_get]
  split
  next =>
    split
    next => exact hrefl run.stalePartDetected
    next =>
      simp only [wp_bind, wp_modify]
      split
      next => exact hrefl _
      next => exact hrefl _
  next => exact hrefl run.stalePartDetected

theorem checkDestination_spec (request : ArchiveRequest) : Wp (checkDestination env request)
      (fun _ run' => Still run run' ∧ run.disk.has request.archiveTarget = false) (fun _ => Still run) run := by
  have hrefl : Still run run := ⟨rfl, rfl, rfl, rfl⟩
  unfold checkDestination
  simp only [wp_bind, wp_get]
  split
  next => exact hrefl
  next hfree =>
    simp only [Bool.or_eq_true, not_or, Bool.not_eq_true] at hfree
    rw [wp_bind]
    apply (checkStaleParts_spec request).imp ?_
    intro _ run' hstill
    split
    next => exact hstill
    next => exact ⟨hstill, hfree.1⟩

end ArkClaw.Packaging
