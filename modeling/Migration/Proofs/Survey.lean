import Migration.Proofs.Action
import Migration.Proofs.DistinctFiles
import Migration.Proofs.FileEdit
import Migration.Run

namespace Migration

/-! Looking a tree over.

Everything that comes before the first file is migrated only reads the disk.
-/

theorem TableSource.fetch_keepsDisk (source : TableSource) : source.fetch.KeepsDisk := by
  refine .bind (.lift _) fun _ => .bind .disk fun disk => ?_
  split
  · exact .pure _
  · exact .fail _

theorem Correspondences.load_keepsDisk (symbols artifacts : TableSource) :
    (Correspondences.load symbols artifacts).KeepsDisk :=
  .bind symbols.fetch_keepsDisk fun _ => .bind (.lift _) fun _ =>
    .bind artifacts.fetch_keepsDisk fun _ => .bind (.lift _) fun _ => .lift _

theorem Correspondences.auditFile_keepsDisk (known : Correspondences) (file : TreeFile) :
    (known.auditFile file).KeepsDisk := by
  rw [Correspondences.auditFile]
  split
  · exact .bind .disk fun _ => .bind (.ofExcept _) fun _ => .lift _
  · exact .pure _

theorem Correspondences.audit_keepsDisk (known : Correspondences) (files : List TreeFile) :
    (known.audit files).KeepsDisk :=
  .bind (.forEach known.auditFile_keepsDisk files) fun _ => .pure _

namespace Run

theorem survey_keepsDisk (options : RunOptions) : (survey options).KeepsDisk :=
  .bind .disk fun _ => .bind (.ofExcept _) fun _ => .bind (.ofExcept _) fun _ =>
    .bind (Correspondences.load_keepsDisk _ _) fun _ => .bind .disk fun _ =>
      .bind (.lift _) fun _ => .bind (Correspondences.audit_keepsDisk _ _) fun _ => .pure _

theorem scan_keepsDisk (options : RunOptions) : (scan options).KeepsDisk :=
  .bind (survey_keepsDisk options) fun _ => .pure _

theorem describe_keepsDisk (options : RunOptions) : (describe options).KeepsDisk :=
  .bind .disk fun _ => .bind (.ofExcept _) fun _ =>
    .bind (Correspondences.load_keepsDisk _ _) fun _ => .pure _

theorem migrate_preview_keepsDisk (options : RunOptions) :
    (migrate { options with mode := .preview }).KeepsDisk :=
  .bind (survey_keepsDisk _) fun _ =>
    .bind (.forEach (fun file verbosity disk =>
      (FileEdit.migrateFile_preview _ _ file verbosity disk).2) _) fun _ =>
      .bind (.lift _) fun _ => .pure _

theorem answer_survey (options : RunOptions) (verbosity : Verbosity) (disk : Disk) :
    (survey options).answer verbosity disk = (do
      let setup ← prepare disk options
      let classifier ← setup.config.classifier
      let known ←
        (Correspondences.load setup.symbolTable setup.artifactTable).answer verbosity disk
      let files ← (classifier.scan disk options.root).answer verbosity
      let versionReplacements ← (known.audit files).answer verbosity disk
      return { setup, known, files, versionReplacements }) := by
  have loaded (symbols artifacts : TableSource) :
      (Correspondences.load symbols artifacts).after verbosity disk = disk :=
    Correspondences.load_keepsDisk symbols artifacts verbosity disk
  simp only [survey, Action.answer_bind, Action.answer_disk, Action.after_disk,
    Action.answer_ofExcept, Action.after_ofExcept, Action.answer_lift, Action.after_lift,
    Action.answer_pure, ok_bind, loaded]
  rfl

theorem survey_eq_ok {options : RunOptions} {verbosity : Verbosity} {disk : Disk} {found : Survey}
    (surveyed : (survey options).answer verbosity disk = .ok found) :
    ∃ classifier : Classifier,
      (Correspondences.load found.setup.symbolTable found.setup.artifactTable).answer verbosity
        disk = .ok found.known ∧
      (classifier.scan disk options.root).answer verbosity = .ok found.files ∧
      (found.known.audit found.files).answer verbosity disk = .ok found.versionReplacements := by
  rw [answer_survey] at surveyed
  obtain ⟨setup, _, surveyed⟩ := bind_eq_ok.mp surveyed
  obtain ⟨classifier, _, surveyed⟩ := bind_eq_ok.mp surveyed
  obtain ⟨known, loaded, surveyed⟩ := bind_eq_ok.mp surveyed
  obtain ⟨files, scanned, surveyed⟩ := bind_eq_ok.mp surveyed
  obtain ⟨versionReplacements, audited, surveyed⟩ := bind_eq_ok.mp surveyed
  cases surveyed
  exact ⟨classifier, loaded, scanned, audited⟩

theorem survey_distinct {options : RunOptions} {verbosity : Verbosity} {disk : Disk}
    {found : Survey} (surveyed : (survey options).answer verbosity disk = .ok found) :
    found.files.Pairwise fun first second =>
      disk.realPath first.path ≠ disk.realPath second.path := by
  obtain ⟨classifier, _, scanned, _⟩ := survey_eq_ok surveyed
  exact Classifier.scan_pairwise scanned

def reportOf (options : RunOptions) (found : Survey) (outcomes : List FileOutcome) :
    MigrationReport where
  root := options.root
  preview := options.mode = .preview
  filesScanned := found.files.length
  files := outcomes.filter (·.isChange)
  versionReplacements := found.versionReplacements

def editOptions (options : RunOptions) (found : Survey) : EditOptions where
  mode := options.mode
  trailer := found.setup.config.configTrailer

/-- After the survey, a run is its files one after the other. -/
theorem migrate_of_survey {options : RunOptions} {verbosity : Verbosity} {disk : Disk}
    {found : Survey} (surveyed : (survey options).answer verbosity disk = .ok found) :
    (migrate options).answer verbosity disk =
        ((Action.forEach (FileEdit.migrateFile found.known (editOptions options found))
          found.files).answer verbosity disk).map (reportOf options found) ∧
      (migrate options).after verbosity disk =
        (Action.forEach (FileEdit.migrateFile found.known (editOptions options found))
          found.files).after verbosity disk := by
  rw [migrate, (Action.bind_of_ok surveyed).1, (Action.bind_of_ok surveyed).2,
    survey_keepsDisk options verbosity disk]
  cases answered : (Action.forEach (FileEdit.migrateFile found.known (editOptions options found))
      found.files).answer verbosity disk with
  | error failure => exact Action.bind_of_error answered
  | ok outcomes => exact Action.bind_of_ok answered

theorem migrate_of_error {options : RunOptions} {verbosity : Verbosity} {disk : Disk}
    {failure : Failure} (surveyed : (survey options).answer verbosity disk = .error failure) :
    (migrate options).answer verbosity disk = .error failure ∧
      (migrate options).after verbosity disk = disk := by
  obtain ⟨failed, kept⟩ := Action.bind_of_error surveyed
  exact ⟨failed, kept.trans (survey_keepsDisk options verbosity disk)⟩

end Run

end Migration
