import Migration.Proofs.Rewritten
import Migration.Proofs.Survey

namespace Migration

/-! A preview says what publishing will do.

The files of a tree are files of their own and their staging paths are clear, so what is published
for one file has no part in what is read for the next.  A run that publishes therefore ends as its
preview does, and up to the first file that fails it leaves exactly the previewed texts behind.
-/

/-- The report of a run that publishes, read off the report of its preview. -/
def MigrationReport.published (report : MigrationReport) : MigrationReport :=
  { report with preview := false, files := report.files.map FileOutcome.published }

namespace Run

variable {known : Correspondences} {trailer : List Text} {verbosity : Verbosity}
  {start current : Disk} {touched : List Location}

/-- The files that a preview gets through before the first that fails, with what it reports of
them. -/
def previewedFiles (known : Correspondences) (trailer : List Text) (verbosity : Verbosity)
    (disk : Disk) : List TreeFile → List (TreeFile × FileOutcome)
  | [] => []
  | file :: rest =>
      match (FileEdit.migrateFile known { mode := .preview, trailer } file).answer
          verbosity disk with
      | .ok outcome => (file, outcome) :: previewedFiles known trailer verbosity disk rest
      | .error _ => []

/-- The disk `final` is `current` with the previewed texts in the place of the files that change. -/
structure HoldsPreviewed (start current final : Disk) (previewed : List (TreeFile × FileOutcome)) :
    Prop where
  changed : ∀ file outcome, (file, outcome) ∈ previewed → outcome.isChange = true →
    ∃ location text, start.resolve file.path = .ok location ∧ outcome.output = some text ∧
      final.root.surface? location = some (.file (Utf8.encode text))
  others : ∀ location,
    (∀ file outcome, (file, outcome) ∈ previewed → outcome.isChange = true →
      start.resolve file.path ≠ .ok location) →
    final.root.surface? location = current.root.surface? location

theorem HoldsPreviewed.nil (start current : Disk) : HoldsPreviewed start current current [] where
  changed file outcome member := by simp at member
  others location _ := rfl

theorem HoldsPreviewed.unchanged {final : Disk} {previewed : List (TreeFile × FileOutcome)}
    {file : TreeFile} {outcome : FileOutcome} (same : outcome.isChange = false)
    (later : HoldsPreviewed start current final previewed) :
    HoldsPreviewed start current final ((file, outcome) :: previewed) where
  changed other reported member isChange := by
    rcases List.mem_cons.mp member with first | member
    · cases first
      simp [same] at isChange
    · exact later.changed other reported member isChange
  others location elsewhere := later.others location fun other reported member isChange =>
    elsewhere other reported (List.mem_cons_of_mem _ member) isChange

/-- A file published first holds its text to the end, as no later file is the same. -/
theorem HoldsPreviewed.publish {final : Disk} {previewed : List (TreeFile × FileOutcome)}
    {file : TreeFile} {outcome : FileOutcome} {location : Location} {old : List UInt8}
    {text : Text} (formed : current.WellFormed)
    (present : current.root.node? location = some (.file old))
    (resolved : start.resolve file.path = .ok location) (output : outcome.output = some text)
    (changes : outcome.isChange = true)
    (distinct : ∀ other reported, (other, reported) ∈ previewed →
      start.resolve other.path ≠ .ok location)
    (later : HoldsPreviewed start (current.setFile location (Utf8.encode text)) final previewed) :
    HoldsPreviewed start current final ((file, outcome) :: previewed) where
  changed other reported member isChange := by
    rcases List.mem_cons.mp member with first | member
    · cases first
      refine ⟨location, text, resolved, output, ?_⟩
      rw [later.others location fun other reported member _ => distinct other reported member,
        Disk.setFile, Node.surface?_put_file formed.tree present, if_pos rfl]
    · exact later.changed other reported member isChange
  others other elsewhere := by
    have different : other ≠ location := by
      rintro rfl
      exact elsewhere file outcome List.mem_cons_self changes resolved
    rw [later.others other fun file reported member isChange =>
        elsewhere file reported (List.mem_cons_of_mem _ member) isChange,
      Disk.setFile, Node.surface?_put_file formed.tree present, if_neg different]

/-- What is previewed are files, each with what its preview reports. -/
theorem of_mem_previewedFiles {files : List TreeFile} {file : TreeFile} {outcome : FileOutcome}
    (member : (file, outcome) ∈ previewedFiles known trailer verbosity start files) :
    file ∈ files ∧
      (FileEdit.migrateFile known { mode := .preview, trailer } file).answer verbosity start =
        .ok outcome := by
  induction files with
  | nil => simp [previewedFiles] at member
  | cons first rest ih =>
      rw [previewedFiles] at member
      split at member
      · next answered =>
          rcases List.mem_cons.mp member with same | member
          · cases same
            exact ⟨List.mem_cons_self, answered⟩
          · exact (ih member).imp_left (List.mem_cons_of_mem _)
      · simp at member

theorem map_published_cons (answer : Except Failure (List FileOutcome)) (outcome : FileOutcome) :
    (answer.map (List.map FileOutcome.published)).map (outcome.published :: ·) =
      (answer.map (outcome :: ·)).map (List.map FileOutcome.published) := by
  cases answer <;> rfl

/-- Publishing the files one after the other answers as previewing them on the disk they were
found on. -/
theorem forEach_apply {files : List TreeFile} (granted : ∀ call, start.refused call = none)
    (clear : ∀ file ∈ files, Publication.StagingClear start file.path)
    (distinct : files.Pairwise fun first second => ∀ location,
      start.resolve first.path = .ok location → start.resolve second.path ≠ .ok location)
    (rewritten : start.Rewritten current touched)
    (untouched : ∀ file ∈ files, ∀ location, start.resolve file.path = .ok location →
      location ∉ touched) :
    (Action.forEach (FileEdit.migrateFile known { mode := .apply, trailer }) files).answer
        verbosity current =
      ((Action.forEach (FileEdit.migrateFile known { mode := .preview, trailer }) files).answer
        verbosity start).map (List.map FileOutcome.published) ∧
    HoldsPreviewed start current
      ((Action.forEach (FileEdit.migrateFile known { mode := .apply, trailer }) files).after
        verbosity current)
      (previewedFiles known trailer verbosity start files) := by
  induction files generalizing current touched with
  | nil => exact ⟨rfl, .nil start current⟩
  | cons file rest ih =>
      obtain ⟨fileClear, restClear⟩ := List.forall_mem_cons.mp clear
      obtain ⟨fileDistinct, restDistinct⟩ := List.pairwise_cons.mp distinct
      obtain ⟨fileUntouched, restUntouched⟩ := List.forall_mem_cons.mp untouched
      obtain ⟨previewAnswer, previewAfter⟩ :=
        FileEdit.migrateFile_preview known trailer file verbosity start
      have same : FileEdit.editedText known trailer file verbosity current =
          FileEdit.editedText known trailer file verbosity start := by
        rw [FileEdit.editedText, FileEdit.editedText, rewritten.readText fileUntouched]
      rw [Action.answer_forEach_cons, Action.answer_forEach_cons, Action.after_forEach_cons,
        previewedFiles, previewAfter, previewAnswer]
      cases reached : FileEdit.editedText known trailer file verbosity start with
      | error failure =>
          obtain ⟨failed, kept⟩ := FileEdit.migrateFile_of_error { mode := .apply, trailer }
            (same.trans reached)
          rw [failed, kept]
          exact ⟨rfl, .nil start current⟩
      | ok edited =>
          cases changes : (FileOutcome.ofEdited file edited).isChange with
          | false =>
              obtain ⟨answered, kept⟩ :=
                FileEdit.migrateFile_apply_unchanged (same.trans reached) changes
              obtain ⟨answers, holds⟩ := ih restClear restDistinct rewritten restUntouched
              rw [answered, kept]
              refine ⟨?_, holds.unchanged changes⟩
              rw [ok_bind, answers, ← FileOutcome.published_preview changes, map_published_cons]
              rfl
          | true =>
              obtain ⟨location, content, resolved, present, answered, written⟩ :=
                FileEdit.migrateFile_apply_changed rewritten.formed (rewritten.refused ▸ granted)
                  (rewritten.stagingClear fileClear) (same.trans reached) changes
              have atStart := (rewritten.resolve file.path).symm.trans resolved
              have others : ∀ other ∈ rest, ∀ place, start.resolve other.path = .ok place →
                  place ∉ location :: touched := by
                intro other member place found
                rw [List.mem_cons, not_or]
                refine ⟨?_, restUntouched other member place found⟩
                rintro rfl
                exact fileDistinct other member place atStart found
              obtain ⟨answers, holds⟩ := ih restClear restDistinct
                (rewritten.setFile present (Utf8.encode edited.text)) others
              rw [answered, written]
              refine ⟨?_, .publish rewritten.formed present atStart rfl changes ?_ holds⟩
              · rw [ok_bind, answers, ← FileOutcome.published_preview changes, map_published_cons]
                rfl
              · intro other reported member found
                exact fileDistinct other (of_mem_previewedFiles member).1 location atStart found

theorem isChange_published (outcome : FileOutcome) :
    outcome.published.isChange = outcome.isChange := rfl

theorem published_reportOf (options : RunOptions) (found : Survey) (outcomes : List FileOutcome) :
    reportOf { options with mode := .apply } found (outcomes.map FileOutcome.published) =
      (reportOf { options with mode := .preview } found outcomes).published := by
  simp only [reportOf, MigrationReport.published, List.filter_map, Function.comp_def,
    isChange_published]
  rfl

/-- What the preview of a whole run gets through: nothing, if the survey fails. -/
def previewed (options : RunOptions) (verbosity : Verbosity) (disk : Disk) :
    List (TreeFile × FileOutcome) :=
  match (survey options).answer verbosity disk with
  | .ok found =>
      previewedFiles found.known found.setup.config.configTrailer verbosity disk found.files
  | .error _ => []

theorem previewedFiles_cases (known : Correspondences) (trailer : List Text)
    (verbosity : Verbosity) (disk : Disk) (files : List TreeFile) :
    (∃ outcomes, (previewedFiles known trailer verbosity disk files).map (·.1) = files ∧
      (previewedFiles known trailer verbosity disk files).map (·.2) = outcomes ∧
      (Action.forEach (FileEdit.migrateFile known { mode := .preview, trailer }) files).answer
        verbosity disk = .ok outcomes) ∨
    ∃ file rest failure,
      files = (previewedFiles known trailer verbosity disk files).map (·.1) ++ file :: rest ∧
      (FileEdit.migrateFile known { mode := .preview, trailer } file).answer verbosity disk =
        .error failure ∧
      (Action.forEach (FileEdit.migrateFile known { mode := .preview, trailer }) files).answer
        verbosity disk = .error failure := by
  induction files with
  | nil => exact .inl ⟨[], rfl, rfl, rfl⟩
  | cons file rest ih =>
      have kept := (FileEdit.migrateFile_preview known trailer file verbosity disk).2
      rw [Action.answer_forEach_cons, previewedFiles, kept]
      cases answered : (FileEdit.migrateFile known { mode := .preview, trailer } file).answer
          verbosity disk with
      | error failure => exact .inr ⟨file, rest, failure, rfl, answered, rfl⟩
      | ok outcome =>
          rcases ih with
            ⟨outcomes, names, reports, ended⟩ | ⟨next, later, failure, names, failed, ended⟩
          · refine .inl ⟨outcome :: outcomes, ?_, ?_, ?_⟩
            · exact congrArg (file :: ·) names
            · exact congrArg (outcome :: ·) reports
            · rw [ok_bind, ended]
              rfl
          · refine .inr ⟨next, later, failure, ?_, failed, ?_⟩
            · exact congrArg (file :: ·) names
            · rw [ok_bind, ended]
              rfl

theorem preview_of_survey {options : RunOptions} {verbosity : Verbosity} {disk : Disk}
    {found : Survey} (surveyed : (survey options).answer verbosity disk = .ok found) :
    ((previewed options verbosity disk).map (·.1) = found.files ∧
      (migrate { options with mode := .preview }).answer verbosity disk =
        .ok (reportOf { options with mode := .preview } found
          ((previewed options verbosity disk).map (·.2)))) ∨
    ∃ file rest failure,
      found.files = (previewed options verbosity disk).map (·.1) ++ file :: rest ∧
      (FileEdit.migrateFile found.known (editOptions { options with mode := .preview } found)
        file).answer verbosity disk = .error failure ∧
      (migrate { options with mode := .preview }).answer verbosity disk = .error failure := by
  have ended := (@migrate_of_survey { options with mode := .preview } _ _ _ surveyed).1
  rw [previewed, surveyed, ended]
  rcases previewedFiles_cases found.known found.setup.config.configTrailer verbosity disk
      found.files with
    ⟨outcomes, names, reports, answered⟩ | ⟨file, rest, failure, names, failed, answered⟩
  · refine .inl ⟨names, ?_⟩
    rw [reports]
    exact congrArg (Except.map _) answered
  · refine .inr ⟨file, rest, failure, names, failed, ?_⟩
    exact congrArg (Except.map _) answered

/-- A preview that gives a report has got through all files that were found. -/
theorem preview_eq_ok {options : RunOptions} {verbosity : Verbosity} {disk : Disk}
    {report : MigrationReport}
    (answered : (migrate { options with mode := .preview }).answer verbosity disk = .ok report) :
    ∃ found, (survey options).answer verbosity disk = .ok found ∧
      (previewed options verbosity disk).map (·.1) = found.files ∧
      report = reportOf { options with mode := .preview } found
        ((previewed options verbosity disk).map (·.2)) := by
  cases surveyed : (survey options).answer verbosity disk with
  | error failure =>
      rw [(@migrate_of_error { options with mode := .preview } _ _ _ surveyed).1] at answered
      cases answered
  | ok found =>
      rcases preview_of_survey surveyed with ⟨names, ended⟩ | ⟨_, _, _, _, _, ended⟩
      · rw [ended] at answered
        cases answered
        exact ⟨found, rfl, names, rfl⟩
      · rw [ended] at answered
        cases answered

theorem HoldsPreviewed.stagingClear {disk final : Disk}
    {previewed : List (TreeFile × FileOutcome)} {path : Text} {place : Location}
    (holds : HoldsPreviewed disk disk final previewed)
    (clear : Publication.StagingClear disk path)
    (stages : Publication.StagesAt disk path place) : final.root.node? place = none := by
  have absent := clear.nothing place stages
  have unseen : final.root.surface? place = disk.root.surface? place := by
    apply holds.others
    intro file outcome _ _ resolved
    obtain ⟨location, _, present⟩ := bind_eq_ok.mp resolved
    rw [Disk.present] at present
    split at present
    · next found =>
        cases present
        simp [absent] at found
    · cases present
  rw [Node.surface?, Node.surface?, absent] at unseen
  simpa using unseen

theorem map_published_reportOf (options : RunOptions) (found : Survey)
    (answer : Except Failure (List FileOutcome)) :
    (answer.map (List.map FileOutcome.published)).map
        (reportOf { options with mode := .apply } found) =
      (answer.map (reportOf { options with mode := .preview } found)).map
        MigrationReport.published := by
  cases answer with
  | error failure => rfl
  | ok outcomes => exact congrArg Except.ok (published_reportOf options found outcomes)

/-- Files found with texts that can be staged are files of their own. -/
theorem survey_apart {options : RunOptions} {verbosity : Verbosity} {disk : Disk} {found : Survey}
    (surveyed : (survey options).answer verbosity disk = .ok found)
    (clear : ∀ file ∈ found.files, Publication.StagingClear disk file.path) :
    found.files.Pairwise fun first second => ∀ location,
      disk.resolve first.path = .ok location → disk.resolve second.path ≠ .ok location := by
  refine (survey_distinct surveyed).imp_of_mem fun {first second} firstMember secondMember
    different location firstFound secondFound => ?_
  obtain ⟨_, firstReal⟩ := (clear first firstMember).isReal
  obtain ⟨_, secondReal⟩ := (clear second secondMember).isReal
  rw [Disk.realPath_of_realLocation firstReal, Disk.realPath_of_realLocation secondReal,
    Disk.realLocation_unique firstReal firstFound,
    Disk.realLocation_unique secondReal secondFound] at different
  exact different rfl

theorem migrate_apply {options : RunOptions} {verbosity : Verbosity} {disk : Disk}
    (formed : disk.WellFormed) (granted : ∀ call, disk.refused call = none)
    (clear : ∀ found, (survey options).answer verbosity disk = .ok found →
      ∀ file ∈ found.files, Publication.StagingClear disk file.path) :
    (migrate { options with mode := .apply }).answer verbosity disk =
        ((migrate { options with mode := .preview }).answer verbosity disk).map
          MigrationReport.published ∧
      HoldsPreviewed disk disk ((migrate { options with mode := .apply }).after verbosity disk)
        (previewed options verbosity disk) := by
  rw [previewed]
  cases surveyed : (survey options).answer verbosity disk with
  | error failure =>
      have applied := @migrate_of_error { options with mode := .apply } _ _ _ surveyed
      have previewed := @migrate_of_error { options with mode := .preview } _ _ _ surveyed
      rw [applied.1, applied.2, previewed.1]
      exact ⟨rfl, .nil disk disk⟩
  | ok found =>
      have applied := @migrate_of_survey { options with mode := .apply } _ _ _ surveyed
      have previewed := @migrate_of_survey { options with mode := .preview } _ _ _ surveyed
      obtain ⟨answers, holds⟩ := @forEach_apply found.known found.setup.config.configTrailer
        verbosity disk disk [] found.files granted (clear found surveyed)
        (survey_apart surveyed (clear found surveyed)) (.refl formed) (by simp)
      rw [applied.1, applied.2, previewed.1]
      exact ⟨(congrArg (Except.map _) answers).trans
        (map_published_reportOf options found _), holds⟩

/-- Previewing, scanning and describing leave the disk as it is.  Publishing succeeds or fails as
its preview does and reports the same of every file; it leaves the previewed text in every file
that the preview got through and found to change, everything else as it was, and nothing where a
text was staged. -/
theorem migrate_apply_agrees_with_preview (options : RunOptions) (verbosity : Verbosity)
    (disk : Disk) :
    ((migrate { options with mode := .preview }).after verbosity disk = disk ∧
      (scan options).after verbosity disk = disk ∧
      (describe options).after verbosity disk = disk) ∧
    (disk.WellFormed → (∀ call, disk.refused call = none) →
      (∀ found, (survey options).answer verbosity disk = .ok found →
        ∀ file ∈ found.files, Publication.StagingClear disk file.path) →
      (migrate { options with mode := .apply }).answer verbosity disk =
          ((migrate { options with mode := .preview }).answer verbosity disk).map
            MigrationReport.published ∧
        HoldsPreviewed disk disk ((migrate { options with mode := .apply }).after verbosity disk)
          (previewed options verbosity disk) ∧
        ∀ found, (survey options).answer verbosity disk = .ok found →
          (∀ file ∈ found.files, ∀ place, Publication.StagesAt disk file.path place →
            ((migrate { options with mode := .apply }).after verbosity disk).root.node? place =
              none) ∧
          (((previewed options verbosity disk).map (·.1) = found.files ∧
              (migrate { options with mode := .preview }).answer verbosity disk =
                .ok (reportOf { options with mode := .preview } found
                  ((previewed options verbosity disk).map (·.2)))) ∨
            ∃ file rest failure,
              found.files = (previewed options verbosity disk).map (·.1) ++ file :: rest ∧
              (FileEdit.migrateFile found.known
                (editOptions { options with mode := .preview } found) file).answer verbosity disk =
                .error failure ∧
              (migrate { options with mode := .preview }).answer verbosity disk =
                .error failure)) := by
  refine ⟨⟨migrate_preview_keepsDisk options verbosity disk,
    scan_keepsDisk options verbosity disk, describe_keepsDisk options verbosity disk⟩, ?_⟩
  intro formed granted clear
  obtain ⟨answers, holds⟩ := migrate_apply formed granted clear
  refine ⟨answers, holds, ?_⟩
  intro found surveyed
  refine ⟨?_, preview_of_survey surveyed⟩
  intro file member place stages
  exact holds.stagingClear (clear found surveyed file member) stages

/-- A tree with one source file, a link to it, and both tables beside it. -/
def sampleDisk : Disk where
  root := .folder [
    ("a".toList, .file (Utf8.encode "o,n\ng:m,x:y:1\n".toList)),
    ("p".toList, .folder [
      ("A.java".toList, .file (Utf8.encode "a.B\n".toList)),
      ("L.java".toList, .link "A.java".toList)]),
    ("s".toList, .file (Utf8.encode "o,n\na.B,c.D\n".toList))]
  workingFolder := []

def sampleOptions : RunOptions where
  root := "p".toList
  symbols := some "s".toList
  artifacts := some "a".toList

theorem sampleDisk_wellFormed : sampleDisk.WellFormed where
  isFolder := rfl
  tree := by decide +kernel

theorem sampleDisk_files {found : Survey}
    (surveyed : (survey sampleOptions).answer .quiet sampleDisk = .ok found) :
    found.files = [⟨"p/A.java".toList, .source⟩] := by
  have files : (match (survey sampleOptions).answer .quiet sampleDisk with
      | .ok found => found.files
      | .error _ => []) = [⟨"p/A.java".toList, .source⟩] := by decide +kernel
  rwa [surveyed] at files

theorem sampleDisk_stagingClear : Publication.StagingClear sampleDisk "p/A.java".toList := by
  have isReal : sampleDisk.realLocation "p/A.java".toList = .ok ["p".toList, "A.java".toList] :=
    ok_of_toOption (by decide +kernel)
  have stages : stagingPath (Disk.pathOf ["p".toList, "A.java".toList]) =
      .ok "/p/A.java.nsmigrate.tmp".toList := rfl
  have leads : sampleDisk.entryLocation "/p/A.java.nsmigrate.tmp".toList =
      .ok ["p".toList, "A.java.nsmigrate.tmp".toList] := ok_of_toOption (by decide +kernel)
  have creates : sampleDisk.createFile "/p/A.java.nsmigrate.tmp".toList =
      .ok ["p".toList, "A.java.nsmigrate.tmp".toList] := ok_of_toOption (by decide +kernel)
  refine ⟨⟨_, isReal⟩, ?_, ?_⟩
  · rintro place ⟨location, staging, real, staged, entry⟩
    cases isReal.symm.trans real
    cases stages.symm.trans staged
    cases leads.symm.trans entry
    rfl
  · intro location staging real staged
    cases isReal.symm.trans real
    cases stages.symm.trans staged
    exact ⟨_, creates⟩

/-- The file is reached by its own path and by the link, and published once. -/
theorem sampleRun_apply_agrees_with_preview :
    sampleDisk.WellFormed ∧
      (∀ found, (survey sampleOptions).answer .quiet sampleDisk = .ok found →
        ∀ file ∈ found.files, Publication.StagingClear sampleDisk file.path) ∧
      (previewed sampleOptions .quiet sampleDisk).map (·.2.output) = [some "c.D\n".toList] ∧
      (migrate { sampleOptions with mode := .apply }).answer .quiet sampleDisk =
        ((migrate { sampleOptions with mode := .preview }).answer .quiet sampleDisk).map
          MigrationReport.published ∧
      HoldsPreviewed sampleDisk sampleDisk
        ((migrate { sampleOptions with mode := .apply }).after .quiet sampleDisk)
        (previewed sampleOptions .quiet sampleDisk) := by
  have clear : ∀ found, (survey sampleOptions).answer .quiet sampleDisk = .ok found →
      ∀ file ∈ found.files, Publication.StagingClear sampleDisk file.path := by
    intro found surveyed file member
    rw [sampleDisk_files surveyed, List.mem_singleton] at member
    exact member ▸ sampleDisk_stagingClear
  obtain ⟨agrees, holds, _⟩ := (migrate_apply_agrees_with_preview sampleOptions .quiet sampleDisk).2
    sampleDisk_wellFormed (fun _ => rfl) clear
  exact ⟨sampleDisk_wellFormed, clear, by decide +kernel, agrees, holds⟩

end Run

end Migration
