import Mathlib
import Migration.Proofs.BuildLine
import Migration.Proofs.Decisions
import Migration.Proofs.Preview
import Migration.Proofs.Sequences

namespace Migration

/-! The audit lists what the migration changes.

Every build line that the migration changes is listed by the audit with its number, and no other
line is, so the audit of a tree and the preview of its build files count the same lines.
-/

namespace Correspondences

/-- The version placeholders on lines, the first of which has the given number. -/
def versionsOn (known : Correspondences) (path : Text) (number : Nat) (lines : List Text) :
    List VersionReplacement :=
  (lines.zipIdx number).filterMap fun entry =>
    known.versionOn path entry.2 (Text.lineBody entry.1)

def changedNumbers (known : Correspondences) (verbosity : Verbosity) (kind : FileKind)
    (lines : List Text) : List Nat :=
  (lines.zipIdx 1).filterMap fun entry =>
    match (known.migrateLine kind entry.1).answer verbosity with
    | .ok (some new) => if new = entry.1 then none else some entry.2
    | _ => none

theorem answer_versionsFrom (known : Correspondences) (path : Text) (verbosity : Verbosity)
    (number : Nat) (lines : List Text) :
    (known.versionsFrom path number lines).answer verbosity =
      .ok (known.versionsOn path number lines) := by
  induction lines generalizing number with
  | nil => rfl
  | cons line rest ih =>
      rw [versionsFrom, versionsOn, List.zipIdx_cons, List.filterMap_cons]
      cases known.versionOn path number (Text.lineBody line) with
      | none => exact ih (number + 1)
      | some found =>
          simp only [Reporting.answer_bind, Reporting.answer_debug, ok_bind, ih,
            Reporting.answer_pure]
          rfl

theorem map_line_versionsOn {known : Correspondences} (hasRows : known.HasRows) (path : Text)
    (verbosity : Verbosity) (lines : List Text) :
    (known.versionsOn path 1 lines).map (·.line) =
      known.changedNumbers verbosity .buildFile lines := by
  rw [versionsOn, changedNumbers, List.map_filterMap]
  congr 1
  funext entry
  rw [answer_migrateLine]
  have both := known.isSome_versionOn path entry.2 entry.1
  cases built : known.builtLine entry.1 with
  | none =>
      rw [built, Option.isSome_none, Option.isSome_eq_false_iff, Option.isNone_iff_eq_none] at both
      rw [both]
      rfl
  | some new =>
      rw [built, Option.isSome_some] at both
      obtain ⟨found, listed⟩ := Option.isSome_iff_exists.mp both
      have numbered : found.line = entry.2 := by
        rw [versionOn_lineBody, Option.bind_eq_some_iff] at listed
        obtain ⟨_, _, listed⟩ := listed
        obtain ⟨token, _, rfl⟩ := Option.map_eq_some_iff.mp listed
        rfl
      simp [listed, numbered, builtLine_ne hasRows built]

theorem length_versionsOn (known : Correspondences) (path : Text) (number : Nat)
    (lines : List Text) :
    (known.versionsOn path number lines).length =
      lines.countP fun line => (known.builtLine line).isSome := by
  induction lines generalizing number with
  | nil => rfl
  | cons line rest ih =>
      rw [versionsOn, List.zipIdx_cons, List.filterMap_cons, List.countP_cons,
        ← known.isSome_versionOn path number line, ← ih (number + 1)]
      cases known.versionOn path number (Text.lineBody line) <;> rfl

theorem file_of_mem_versionsOn {known : Correspondences} {path : Text} {number : Nat}
    {lines : List Text} {found : VersionReplacement}
    (member : found ∈ known.versionsOn path number lines) : found.file = path := by
  obtain ⟨entry, _, listed⟩ := List.mem_filterMap.mp member
  rw [versionOn_lineBody, Option.bind_eq_some_iff] at listed
  obtain ⟨_, _, listed⟩ := listed
  obtain ⟨token, _, rfl⟩ := Option.map_eq_some_iff.mp listed
  rfl

def auditOf (known : Correspondences) (disk : Disk) (file : TreeFile) : List VersionReplacement :=
  match file.kind, disk.readText file.path with
  | .buildFile, .ok text => known.versionsOn file.path 1 (Text.lines text)
  | _, _ => []

theorem auditFile_eq_ok {known : Correspondences} {file : TreeFile} {verbosity : Verbosity}
    {disk : Disk} {found : List VersionReplacement}
    (audited : (known.auditFile file).answer verbosity disk = .ok found) :
    found = known.auditOf disk file ∧
      (file.kind = .buildFile → ∃ text, disk.readText file.path = .ok text) := by
  rw [auditFile] at audited
  split at audited
  · next isBuild =>
      simp only [Action.answer_bind, Action.answer_disk, Action.after_disk, ok_bind,
        Action.answer_ofExcept, Action.after_ofExcept, Action.answer_lift] at audited
      obtain ⟨text, read, audited⟩ := bind_eq_ok.mp audited
      rw [answer_versionsFrom] at audited
      cases audited
      refine ⟨?_, fun _ => ⟨text, read⟩⟩
      rw [auditOf, isBuild, read]
  · next isOther =>
      cases audited
      refine ⟨?_, fun isBuild => absurd isBuild isOther⟩
      rw [auditOf]
      split
      · next isBuild _ => exact absurd isBuild isOther
      · rfl

theorem audit_eq_ok {known : Correspondences} {files : List TreeFile} {verbosity : Verbosity}
    {disk : Disk} {found : List VersionReplacement}
    (audited : (known.audit files).answer verbosity disk = .ok found) :
    found = files.flatMap (known.auditOf disk) ∧
      ∀ file ∈ files, file.kind = .buildFile → ∃ text, disk.readText file.path = .ok text := by
  simp only [audit, Action.answer_bind, Action.answer_pure] at audited
  obtain ⟨lists, listed, audited⟩ := bind_eq_ok.mp audited
  cases audited
  rw [Action.answer_forEach known.auditFile_keepsDisk, mapM_eq_ok] at listed
  have audited : List.Forall₂ (fun file list =>
      (file.kind = .buildFile → ∃ text, disk.readText file.path = .ok text) ∧
        known.auditOf disk file = list) files lists :=
    listed.imp fun _ _ answered => (auditFile_eq_ok answered).symm.imp_right Eq.symm
  obtain ⟨read, same⟩ := (List.forall₂_and_left _ _).mp audited
  rw [← List.forall₂_map_left_iff, List.forall₂_eq_eq_eq] at same
  exact ⟨by rw [← same, List.flatMap_def], read⟩

theorem auditOf_buildFile {known : Correspondences} {disk : Disk} {file : TreeFile} {text : Text}
    (isBuild : file.kind = .buildFile) (read : disk.readText file.path = .ok text) :
    known.auditOf disk file = known.versionsOn file.path 1 (Text.lines text) := by
  rw [auditOf, isBuild, read]

theorem auditOf_other {known : Correspondences} {disk : Disk} {file : TreeFile}
    (isOther : file.kind ≠ .buildFile) : known.auditOf disk file = [] := by
  rw [auditOf]
  split
  · next isBuild _ => exact absurd isBuild isOther
  · rfl

theorem filter_auditOf_self (known : Correspondences) (disk : Disk) (file : TreeFile) :
    (known.auditOf disk file).filter (·.file = file.path) = known.auditOf disk file := by
  rw [List.filter_eq_self]
  intro found member
  rw [auditOf] at member
  split at member
  · simpa using file_of_mem_versionsOn member
  · cases member

theorem filter_auditOf_of_ne (known : Correspondences) (disk : Disk) {file : TreeFile}
    {path : Text} (different : file.path ≠ path) :
    (known.auditOf disk file).filter (·.file = path) = [] := by
  rw [List.filter_eq_nil_iff]
  intro found member
  rw [auditOf] at member
  split at member
  · simpa [file_of_mem_versionsOn member] using different
  · cases member

/-- Files with paths of their own have audits that can be told from one another. -/
theorem filter_flatMap_auditOf {known : Correspondences} {disk : Disk} {files : List TreeFile}
    (distinct : files.Pairwise fun first second => first.path ≠ second.path)
    {file : TreeFile} (member : file ∈ files) :
    (files.flatMap (known.auditOf disk)).filter (·.file = file.path) = known.auditOf disk file := by
  induction files with
  | nil => cases member
  | cons first rest ih =>
      obtain ⟨apart, distinct⟩ := List.pairwise_cons.mp distinct
      rw [List.flatMap_cons, List.filter_append]
      rcases List.mem_cons.mp member with rfl | member
      · have others : (rest.flatMap (known.auditOf disk)).filter (·.file = file.path) = [] := by
          rw [List.filter_flatMap, List.flatMap_eq_nil_iff]
          intro other member
          exact filter_auditOf_of_ne known disk (apart other member).symm
        rw [filter_auditOf_self, others, List.append_nil]
      · rw [filter_auditOf_of_ne known disk (apart file member), ih distinct member,
          List.nil_append]

end Correspondences

namespace Run

open Correspondences

theorem decideAll_buildFile {known : Correspondences} {file : TreeFile}
    (isBuild : file.kind = .buildFile) (verbosity : Verbosity) (number : Nat) (lines : List Text) :
    FileEdit.decideAll (FileEdit.decideLine known file) verbosity number lines =
      .ok (lines.map known.builtLine) := by
  induction lines generalizing number with
  | nil => rfl
  | cons line rest ih =>
      have decided : (FileEdit.decideLine known file number line).answer verbosity =
          .ok (known.builtLine line) := by
        rw [FileEdit.decideLine, Reporting.answer_mapFailure, isBuild, answer_migrateLine]
        rfl
      rw [FileEdit.decideAll, decided, ih]
      rfl

theorem changedCount_map {decide : Text → Option Text}
    (changes : ∀ line new, decide line = some new → new ≠ line) (lines : List Text) :
    changedCount (decidedLines lines (lines.map decide)) =
      lines.countP fun line => (decide line).isSome := by
  induction lines with
  | nil => rfl
  | cons line rest ih =>
      rw [List.map_cons, decidedLines_cons, changedCount, List.countP_cons, List.countP_cons,
        ← ih, changedCount]
      cases decided : decide line with
      | none => simp
      | some new => simp [changes line new decided]

theorem previewed_outcome {known : Correspondences} {trailer : List Text} {verbosity : Verbosity}
    {disk : Disk} {file : TreeFile} {outcome : FileOutcome}
    (answered : (FileEdit.migrateFile known { mode := .preview, trailer } file).answer verbosity
      disk = .ok outcome) :
    ∃ text edited, disk.readText file.path = .ok text ∧
      FileEdit.editText known trailer file verbosity text = .ok edited ∧
      outcome = FileOutcome.preview file edited := by
  rw [(FileEdit.migrateFile_preview known trailer file verbosity disk).1] at answered
  cases reached : FileEdit.editedText known trailer file verbosity disk with
  | error failure =>
      rw [reached] at answered
      cases answered
  | ok edited =>
      rw [reached] at answered
      cases answered
      obtain ⟨text, read, reached⟩ := bind_eq_ok.mp reached
      exact ⟨text, edited, read, reached, rfl⟩

theorem changedLines_buildFile {known : Correspondences} {trailer : List Text}
    {verbosity : Verbosity} {disk : Disk} {file : TreeFile} {outcome : FileOutcome}
    (hasRows : known.HasRows) (isBuild : file.kind = .buildFile)
    (answered : (FileEdit.migrateFile known { mode := .preview, trailer } file).answer verbosity
      disk = .ok outcome) :
    outcome.changedLines = (known.auditOf disk file).length := by
  obtain ⟨text, edited, read, reached, rfl⟩ := previewed_outcome answered
  rw [FileEdit.editText_eq, decideAll_buildFile isBuild] at reached
  cases reached
  rw [auditOf_buildFile isBuild read, length_versionsOn]
  exact changedCount_map (fun line new built => builtLine_ne hasRows built) (Text.lines text)

/-- Only files whose text changes are reported, which loses no changed line. -/
theorem sum_changedLines_filter (outcomes : List FileOutcome) :
    (((outcomes.filter (·.isChange)).filter (·.kind = .buildFile)).map (·.changedLines)).sum =
      ((outcomes.filter (·.kind = .buildFile)).map (·.changedLines)).sum := by
  rw [List.filter_filter]
  induction outcomes with
  | nil => rfl
  | cons outcome rest ih =>
      cases changes : outcome.isChange with
      | true => by_cases isBuild : outcome.kind = .buildFile <;> simp [changes, isBuild, ih]
      | false =>
          have none : outcome.changedLines = 0 := by
            simp only [FileOutcome.isChange, Bool.or_eq_false_iff, decide_eq_false_iff_not,
              Nat.not_lt, Nat.le_zero] at changes
            exact changes.1
          by_cases isBuild : outcome.kind = .buildFile <;> simp [changes, isBuild, ih, none]

theorem sum_changedLines {known : Correspondences} {disk : Disk}
    {pairs : List (TreeFile × FileOutcome)}
    (kinds : ∀ file outcome, (file, outcome) ∈ pairs → outcome.kind = file.kind)
    (counts : ∀ file outcome, (file, outcome) ∈ pairs → file.kind = .buildFile →
      outcome.changedLines = (known.auditOf disk file).length) :
    (((pairs.map (·.2)).filter (·.kind = .buildFile)).map (·.changedLines)).sum =
      ((pairs.map (·.1)).flatMap (known.auditOf disk)).length := by
  induction pairs with
  | nil => rfl
  | cons pair rest ih =>
      obtain ⟨file, outcome⟩ := pair
      have kind := kinds file outcome List.mem_cons_self
      have ih := ih (fun file outcome member => kinds file outcome (List.mem_cons_of_mem _ member))
        (fun file outcome member => counts file outcome (List.mem_cons_of_mem _ member))
      rw [List.map_cons, List.map_cons, List.flatMap_cons, List.length_append, ← ih]
      by_cases isBuild : file.kind = .buildFile
      · simp [kind, isBuild, counts file outcome List.mem_cons_self isBuild]
      · simp [kind, isBuild, auditOf_other isBuild]

theorem line_agrees {known : Correspondences} (hasRows : known.HasRows) (verbosity : Verbosity)
    (path : Text) (number : Nat) (line : Text) :
    (known.versionOn path number (Text.lineBody line) = none ∧
      (known.migrateLine .buildFile line).answer verbosity = .ok none) ∨
    ∃ rule parts token, known.AppliesFirst line rule parts token ∧
      known.versionOn path number (Text.lineBody line) =
        some ⟨path, number, token, rule.versionVariable, rule.targetVersion⟩ ∧
      (known.migrateLine .buildFile line).answer verbosity =
        .ok (some (Rule.annotate rule.targetVersion (parts.flatMap (Part.filled rule.fill)))) ∧
      Rule.annotate rule.targetVersion (parts.flatMap (Part.filled rule.fill)) ≠ line := by
  rw [answer_migrateLine, versionOn_lineBody]
  cases found : known.applicable line with
  | none => exact .inl ⟨rfl, by rw [builtLine, found]; rfl⟩
  | some first =>
      obtain ⟨rule, parts⟩ := first
      obtain ⟨token, version, applies⟩ := applicable_eq_some found
      have built : known.builtLine line = some (Rule.annotate rule.targetVersion
          (parts.flatMap (Part.filled rule.fill))) := by
        rw [builtLine, found]
        rfl
      refine .inr ⟨rule, parts, token, applies, ?_, congrArg Except.ok built,
        builtLine_ne hasRows built⟩
      simp [version]

theorem previewed_agrees {options : RunOptions} {verbosity : Verbosity} {disk : Disk}
    {found : Survey} (surveyed : (survey options).answer verbosity disk = .ok found)
    {file : TreeFile} {outcome : FileOutcome}
    (member : (file, outcome) ∈ previewed options verbosity disk) :
    outcome.kind = file.kind ∧ (file.kind = .buildFile →
      outcome.changedLines = (found.known.auditOf disk file).length ∧
      ∃ text, disk.readText file.path = .ok text ∧
        found.versionReplacements.filter (·.file = file.path) = found.known.auditOf disk file ∧
        (found.known.auditOf disk file).map (·.line) =
          found.known.changedNumbers verbosity .buildFile (Text.lines text)) := by
  obtain ⟨classifier, loaded, _, audited⟩ := survey_eq_ok surveyed
  have hasRows := load_hasRows loaded
  rw [previewed, surveyed] at member
  have answered := (of_mem_previewedFiles member).2
  obtain ⟨text, edited, read, _, isPreview⟩ := previewed_outcome answered
  refine ⟨by rw [isPreview]; rfl, fun isBuild => ?_⟩
  refine ⟨changedLines_buildFile hasRows isBuild answered, text, read, ?_, ?_⟩
  · have distinct := (survey_distinct surveyed).imp fun different same =>
      different (congrArg disk.realPath same)
    rw [(audit_eq_ok audited).1]
    exact filter_flatMap_auditOf distinct (of_mem_previewedFiles member).1
  · rw [auditOf_buildFile isBuild read]
    exact map_line_versionsOn hasRows file.path verbosity (Text.lines text)

/-- The audit and the migration agree on every build line: both find something or neither does,
by the same rule, and the version listed is the leftmost that is written anew.  In a preview, the
lines listed for a build file are those that change, and as many are listed as change. -/
theorem audit_agrees_with_migration :
    (∀ (symbolRows artifactRows : List Row) (source : String) (verbosity : Verbosity)
      (known : Correspondences),
      (Correspondences.ofRows symbolRows artifactRows source).answer verbosity = .ok known →
      ∀ (path : Text) (number : Nat) (line : Text),
        (known.versionOn path number (Text.lineBody line) = none ∧
          (known.migrateLine .buildFile line).answer verbosity = .ok none) ∨
        ∃ rule parts token, known.AppliesFirst line rule parts token ∧
          known.versionOn path number (Text.lineBody line) =
            some ⟨path, number, token, rule.versionVariable, rule.targetVersion⟩ ∧
          (known.migrateLine .buildFile line).answer verbosity =
            .ok (some (Rule.annotate rule.targetVersion
              (parts.flatMap (Part.filled rule.fill)))) ∧
          Rule.annotate rule.targetVersion (parts.flatMap (Part.filled rule.fill)) ≠ line) ∧
    ∀ (options : RunOptions) (verbosity : Verbosity) (disk : Disk) (report : MigrationReport),
      (migrate { options with mode := .preview }).answer verbosity disk = .ok report →
      ∃ found, (survey options).answer verbosity disk = .ok found ∧
        (previewed options verbosity disk).map (·.1) = found.files ∧
        report.files = ((previewed options verbosity disk).map (·.2)).filter (·.isChange) ∧
        (∀ file outcome, (file, outcome) ∈ previewed options verbosity disk →
          file.kind = .buildFile → ∃ text, disk.readText file.path = .ok text ∧
            (report.versionReplacements.filter (·.file = file.path)).map (·.line) =
              found.known.changedNumbers verbosity .buildFile (Text.lines text) ∧
            outcome.changedLines =
              (found.known.changedNumbers verbosity .buildFile (Text.lines text)).length) ∧
        report.versionReplacements.length =
          ((report.files.filter (·.kind = .buildFile)).map (·.changedLines)).sum := by
  refine ⟨?_, ?_⟩
  · intro symbolRows artifactRows source verbosity known loaded path number line
    exact line_agrees (ofRows_hasRows loaded) verbosity path number line
  · intro options verbosity disk report answered
    obtain ⟨found, surveyed, files, rfl⟩ := preview_eq_ok answered
    refine ⟨found, surveyed, files, rfl, ?_, ?_⟩
    · intro file outcome member isBuild
      obtain ⟨_, agrees⟩ := previewed_agrees surveyed member
      obtain ⟨counted, text, read, listed, numbered⟩ := agrees isBuild
      refine ⟨text, read, ?_, ?_⟩
      · rw [← numbered, ← listed]
        rfl
      · rw [counted, ← numbered, List.length_map]
    · obtain ⟨_, _, _, audited⟩ := survey_eq_ok surveyed
      have total := @sum_changedLines found.known disk (previewed options verbosity disk)
        (fun file outcome member => (previewed_agrees surveyed member).1)
        (fun file outcome member isBuild => ((previewed_agrees surveyed member).2 isBuild).1)
      rw [files, ← (audit_eq_ok audited).1] at total
      exact total.symm.trans (sum_changedLines_filter _).symm

/-- A build file with two declarations, one of them without a version to rename. -/
def sampleBuild : Disk where
  root := .folder [
    ("a".toList, .file (Utf8.encode "o,n\ng:m,x:y:1\n".toList)),
    ("p".toList, .folder [
      ("build.gradle".toList, .file (Utf8.encode "g:m:2\n'g:m:$v'\r\n".toList))]),
    ("s".toList, .file (Utf8.encode "o,n\na.B,c.D\n".toList))]
  workingFolder := []

/-- The second line is listed and changed, and the first is neither. -/
theorem sampleBuild_audit_agrees_with_migration :
    (∃ known, (Correspondences.ofRows [] [⟨"g:m".toList, "x:y:1".toList, 2⟩] "a").answer .quiet =
        .ok known ∧
      ∃ rule parts token, known.AppliesFirst "'g:m:$v'\r\n".toList rule parts token) ∧
    ∃ report, (migrate { sampleOptions with mode := .preview }).answer .quiet sampleBuild =
        .ok report ∧
      report.versionReplacements.map (·.line) = [2] ∧
      report.versionReplacements.length =
        ((report.files.filter (·.kind = .buildFile)).map (·.changedLines)).sum := by
  refine ⟨?_, ?_⟩
  · have found : (match (Correspondences.ofRows [] [⟨"g:m".toList, "x:y:1".toList, 2⟩] "a").answer
          .quiet with
        | .ok known => (known.versionOn [] 1 (Text.lineBody "'g:m:$v'\r\n".toList)).isSome
        | .error _ => false) = true := by decide +kernel
    cases loaded : (Correspondences.ofRows [] [⟨"g:m".toList, "x:y:1".toList, 2⟩] "a").answer
        .quiet with
    | error failure =>
        rw [loaded] at found
        cases found
    | ok known =>
        rw [loaded] at found
        rcases audit_agrees_with_migration.1 _ _ _ _ known loaded [] 1 "'g:m:$v'\r\n".toList with
          ⟨missing, _⟩ | ⟨rule, parts, token, applies, _⟩
        · simp only [missing] at found
          cases found
        · exact ⟨known, rfl, rule, parts, token, applies⟩
  · have listed : (match (migrate { sampleOptions with mode := .preview }).answer .quiet
          sampleBuild with
        | .ok report => report.versionReplacements.map (·.line)
        | .error _ => []) = [2] := by decide +kernel
    cases answered : (migrate { sampleOptions with mode := .preview }).answer .quiet
        sampleBuild with
    | error failure =>
        rw [answered] at listed
        cases listed
    | ok report =>
        rw [answered] at listed
        obtain ⟨_, _, _, _, _, total⟩ :=
          audit_agrees_with_migration.2 sampleOptions .quiet sampleBuild report answered
        exact ⟨report, rfl, listed, total⟩

end Run

end Migration
