import Migration.Proofs.ChangedFiles
import Migration.Proofs.Reference

namespace Migration

/-! Lines that cannot be migrated.

The lines of a file are migrated in order, and the first one that fails ends the migration of the
file before anything of it is published.  Its failure is reported with what it said, and with the
path of the file and the number of the line besides.  If no line fails, only publishing can.
-/

namespace Failure

theorem details_locatedAt {failure : Failure} (unplaced : failure.place? = none) (path : String)
    (line : Nat) :
    (failure.locatedAt path line).details.Perm
      (failure.details ++ [("file", Json.ofString path), ("lineNumber", Json.ofNat line)]) := by
  have placed : (failure.locatedAt path line).place? = some (path, line) := by
    rw [place?, locatedAt, List.foldl_append]
    rfl
  rw [details, details, placed, unplaced]
  refine (List.mergeSort_perm _ _).trans (.append_right _ ?_)
  rw [List.append_nil]
  exact (List.mergeSort_perm _ _).symm

end Failure

namespace Correspondences

variable {known : Correspondences} {verbosity : Verbosity} {kind : FileKind}

def FailsOn (known : Correspondences) (verbosity : Verbosity) (kind : FileKind)
    (line : Text) : Prop :=
  ∃ failure, (known.migrateLine kind line).answer verbosity = .error failure

/-- A line fails that has the given number, counted from one, and none before it does. -/
def FirstFailure (known : Correspondences) (verbosity : Verbosity) (kind : FileKind)
    (lines : List Text) (number : Nat) (failure : Failure) : Prop :=
  ∃ before line after, lines = before ++ line :: after ∧ before.length + 1 = number ∧
    (∀ earlier ∈ before, ¬ known.FailsOn verbosity kind earlier) ∧
    (known.migrateLine kind line).answer verbosity = .error failure

/-- What stands for a line: its replacement if it has one. -/
def lineAfter (known : Correspondences) (verbosity : Verbosity) (kind : FileKind)
    (line : Text) : Text :=
  match (known.migrateLine kind line).answer verbosity with
  | .ok (some new) => new
  | _ => line

/-- What comes behind the text of a config file: the trailer, on lines of its own. -/
def trailing (trailer : List Text) (text : Text) : Text :=
  let newline := LineEditor.lastNewline (Text.lines text)
  if trailer = [] then []
  else
    (if text = [] ∨ text.getLast? = some '\n' then [] else newline) ++
      trailer.flatMap (· ++ newline)

/-- What stands for a text: what stands for each of its lines, and the trailer of a config file. -/
def textAfter (known : Correspondences) (verbosity : Verbosity) (kind : FileKind)
    (trailer : List Text) (text : Text) : Text :=
  (Text.lines text).flatMap (known.lineAfter verbosity kind) ++
    if kind = .config then trailing trailer text else []

theorem exists_decision {line : Text} (fine : ¬ known.FailsOn verbosity kind line) :
    ∃ decision, (known.migrateLine kind line).answer verbosity = .ok decision ∧
      known.lineAfter verbosity kind line = decision.getD line := by
  rw [lineAfter]
  cases answered : (known.migrateLine kind line).answer verbosity with
  | error failure => exact absurd ⟨failure, answered⟩ fine
  | ok decision => cases decision <;> exact ⟨_, rfl, rfl⟩

theorem config_not_failsOn (line : Text) : ¬ known.FailsOn verbosity .config line := by
  rintro ⟨failure, failed⟩
  cases failed

theorem flatMap_lineAfter_config (text : Text) :
    (Text.lines text).flatMap (known.lineAfter verbosity .config) = text := by
  have kept : known.lineAfter verbosity .config = id := rfl
  rw [kept, List.flatMap_id, Text.flatten_lines]

/-- Only a wildcard for several packages fails, and it does not know where it stands. -/
theorem failure_of_migrateLine {line : Text} {failure : Failure}
    (failed : (known.migrateLine kind line).answer verbosity = .error failure) :
    ∃ reference package targets,
      failure = (Cause.ambiguousProjection reference package targets : Failure) := by
  cases kind with
  | source =>
      obtain ⟨_, name, _, _, _, _, rfl⟩ := QualifiedName.migrate_eq_error.mp failed
      exact ⟨_, _, _, rfl⟩
  | buildFile =>
      rw [answer_migrateLine] at failed
      cases failed
  | config => cases failed

theorem details_of_migrateLine {line : Text} {failure : Failure}
    (failed : (known.migrateLine kind line).answer verbosity = .error failure) (path : String)
    (number : Nat) :
    (failure.locatedAt path number).details.Perm
        (failure.details ++ [("file", Json.ofString path), ("lineNumber", Json.ofNat number)]) ∧
      ((failure.locatedAt path number).details.map (·.1)).Nodup := by
  obtain ⟨reference, package, targets, rfl⟩ := failure_of_migrateLine failed
  have located := @Failure.details_locatedAt
    (Cause.ambiguousProjection reference package targets) rfl path number
  refine ⟨located, (located.map Prod.fst).nodup_iff.mpr ?_⟩
  have own : (Cause.ambiguousProjection reference package targets : Failure).details.Perm
      (Cause.ambiguousProjection reference package targets).details := by
    have unplaced : (Cause.ambiguousProjection reference package targets : Failure).place? =
        none := rfl
    rw [Failure.details, unplaced, List.append_nil]
    exact List.mergeSort_perm _ _
  rw [((own.append_right _).map Prod.fst).nodup_iff]
  change ["package", "reference", "targets", "file", "lineNumber"].Nodup
  decide

theorem exists_firstFailure {lines : List Text}
    (fails : ∃ line ∈ lines, known.FailsOn verbosity kind line) :
    ∃ number failure, known.FirstFailure verbosity kind lines number failure := by
  obtain ⟨before, line, after, split, fine, failure, failed⟩ := exists_first fails
  exact ⟨_, failure, before, line, after, split, rfl, fine, failed⟩

end Correspondences

namespace FileEdit

variable {known : Correspondences} {trailer : List Text} {file : TreeFile}
  {verbosity : Verbosity} {disk : Disk}

theorem answer_decideLine {number : Nat} {line : Text} {decision : Option Text}
    (decided : (known.migrateLine file.kind line).answer verbosity = .ok decision) :
    (decideLine known file number line).answer verbosity = .ok decision := by
  rw [decideLine, Reporting.answer_mapFailure, decided]
  rfl

variable (file) in
theorem decideAll_of_fine {lines : List Text}
    (fine : ∀ line ∈ lines, ¬ known.FailsOn verbosity file.kind line) (number : Nat) :
    ∃ decided, decideAll (decideLine known file) verbosity number lines = .ok decided ∧
      (decidedLines lines decided).map (·.2) =
        lines.map (known.lineAfter verbosity file.kind) := by
  induction lines generalizing number with
  | nil => exact ⟨[], rfl, rfl⟩
  | cons line rest ih =>
      obtain ⟨here, later⟩ := List.forall_mem_cons.mp fine
      obtain ⟨decision, answered, stands⟩ := Correspondences.exists_decision here
      obtain ⟨decided, all, stand⟩ := ih later (number + 1)
      refine ⟨decision :: decided, ?_, ?_⟩
      · rw [decideAll, answer_decideLine answered, ok_bind, all]
        rfl
      · rw [decidedLines_cons, List.map_cons, List.map_cons, stand, stands]

theorem decideAll_of_firstFailure {lines : List Text} {number : Nat} {failure : Failure}
    (first : known.FirstFailure verbosity file.kind lines number failure) (skipped : Nat) :
    decideAll (decideLine known file) verbosity (skipped + 1) lines =
      .error (failure.locatedAt file.path.str (skipped + number)) := by
  obtain ⟨before, line, after, rfl, rfl, fine, failed⟩ := first
  induction before generalizing skipped with
  | nil =>
      rw [List.nil_append, decideAll, decideLine, Reporting.answer_mapFailure, failed]
      rfl
  | cons earlier before ih =>
      obtain ⟨here, later⟩ := List.forall_mem_cons.mp fine
      obtain ⟨decision, answered, _⟩ := Correspondences.exists_decision here
      rw [List.cons_append, decideAll, answer_decideLine answered, ok_bind,
        ih (skipped + 1) later, List.length_cons, Nat.add_right_comm skipped 1]
      rfl

theorem editedText_of_fine {text : Text} (read : disk.readText file.path = .ok text)
    (fine : ∀ line ∈ Text.lines text, ¬ known.FailsOn verbosity file.kind line)
    (trailer : List Text) :
    ∃ edited, editedText known trailer file verbosity disk = .ok edited ∧
      edited.text = known.textAfter verbosity file.kind trailer text := by
  obtain ⟨decided, all, stand⟩ := decideAll_of_fine file fine 1
  refine ⟨decidedText file.kind trailer text decided, ?_, ?_⟩
  · rw [editedText, read, ok_bind, editText_eq, all]
    rfl
  · simp only [decidedText, Correspondences.textAfter, stand, ← List.flatMap_def]
    by_cases config : file.kind = .config
    · simp only [config, Correspondences.flatMap_lineAfter_config, Correspondences.trailing,
        true_and, if_true]
      by_cases nothing : trailer = [] <;> simp [nothing, List.flatMap_def]
    · simp [config]

theorem editedText_of_firstFailure {text : Text} {number : Nat} {failure : Failure}
    (read : disk.readText file.path = .ok text)
    (first : known.FirstFailure verbosity file.kind (Text.lines text) number failure) :
    editedText known trailer file verbosity disk =
      .error (failure.locatedAt file.path.str number) := by
  rw [editedText, read, ok_bind, editText_eq, decideAll_of_firstFailure first 0, Nat.zero_add]
  rfl

theorem migrateFile_of_fine {options : EditOptions} {text output : Text} {edited : EditedText}
    (read : disk.readText file.path = .ok text)
    (reached : editedText known options.trailer file verbosity disk = .ok edited)
    (whole : edited.text = output) :
    let outcome := FileOutcome.preview file edited
    let migrated := migrateFile known options file
    let published := Publication.publish file.path output
    (options.mode = .preview → migrated.Yields verbosity disk outcome disk) ∧
      (options.mode = .apply → output = text →
        migrated.Yields verbosity disk { outcome with written := false, output := none } disk) ∧
      (options.mode = .apply → output ≠ text →
        let written := { outcome with written := true, output := none }
        migrated.answer verbosity disk =
            (published.answer verbosity disk).map (fun _ => written) ∧
          migrated.after verbosity disk = published.after verbosity disk ∧
          (disk.WellFormed → (∀ call, disk.refused call = none) →
            Publication.StagingClear disk file.path →
            ∃ location, disk.resolve file.path = .ok location ∧
              migrated.Yields verbosity disk written
                (disk.setFile location (Utf8.encode output)))) := by
  obtain ⟨mode, trailer⟩ := options
  subst whole
  obtain ⟨_, same, edits⟩ := bind_eq_ok.mp reached
  cases read.symm.trans same
  have isChange := isChange_iff_text_ne edits
  refine ⟨?_, ?_, ?_⟩
  · rintro rfl
    exact migrateFile_yields _ reached fun editor same => same ▸ finish_preview_yields editor
  · rintro rfl same
    refine migrateFile_apply_unchanged reached (Bool.eq_false_iff.mpr fun changed => ?_)
    exact isChange.mp changed same
  · rintro rfl different
    have changed := isChange.mpr different
    obtain ⟨answered, leaves⟩ := migrateFile_apply_publishes reached changed
    refine ⟨answered, leaves, fun formed granted clear => ?_⟩
    obtain ⟨location, _, resolved, _, yields⟩ :=
      migrateFile_apply_changed formed granted clear reached changed
    exact ⟨location, resolved, yields⟩

/-- Where no line fails, only publishing can fail. -/
theorem fails_iff_of_fine {options : EditOptions} {text output : Text} {edited : EditedText}
    (read : disk.readText file.path = .ok text)
    (reached : editedText known options.trailer file verbosity disk = .ok edited)
    (whole : edited.text = output) :
    (∃ failure, (migrateFile known options file).answer verbosity disk = .error failure) ↔
      options.mode = .apply ∧ output ≠ text ∧
        ∃ failure, (Publication.publish file.path output).answer verbosity disk =
          .error failure := by
  obtain ⟨previews, keeps, publishes⟩ := migrateFile_of_fine read reached whole
  constructor
  · rintro ⟨failure, failed⟩
    have mode : options.mode = .apply := by
      cases mode : options.mode with
      | apply => rfl
      | preview => cases failed.symm.trans (previews mode).1
    have changed : output ≠ text := fun same => by
      cases failed.symm.trans (keeps mode same).1
    refine ⟨mode, changed, ?_⟩
    have answered := failed.symm.trans (publishes mode changed).1
    cases outcome : (Publication.publish file.path output).answer verbosity disk with
    | error reason => exact ⟨reason, rfl⟩
    | ok done =>
        rw [outcome] at answered
        cases answered
  · rintro ⟨mode, changed, failure, failed⟩
    refine ⟨failure, (publishes mode changed).1.trans ?_⟩
    rw [failed]
    rfl

/-- The first line that fails is reported and nothing is changed.  If no line fails, the new text is
made of what stands for each line, and it is previewed, published or found to be the old one. -/
theorem migrateFile_reports_first_failure (known : Correspondences) (options : EditOptions)
    (file : TreeFile) (verbosity : Verbosity) {disk : Disk} {text : Text}
    (read : disk.readText file.path = .ok text) :
    let lines := Text.lines text
    let output := known.textAfter verbosity file.kind options.trailer text
    let migrated := migrateFile known options file
    let published := Publication.publish file.path output
    (∀ number failure, known.FirstFailure verbosity file.kind lines number failure →
      let located := failure.locatedAt file.path.str number
      migrated.answer verbosity disk = .error located ∧ migrated.after verbosity disk = disk ∧
        located.details.Perm (failure.details ++
          [("file", Json.ofString file.path.str), ("lineNumber", Json.ofNat number)]) ∧
        (located.details.map (·.1)).Nodup) ∧
    ((∃ line ∈ lines, known.FailsOn verbosity file.kind line) →
      ∃ number failure, known.FirstFailure verbosity file.kind lines number failure) ∧
    ((∀ line ∈ lines, ¬ known.FailsOn verbosity file.kind line) →
      ∃ outcome : FileOutcome, outcome.path = file.path ∧ outcome.output = some output ∧
        (options.mode = .preview → migrated.Yields verbosity disk outcome disk) ∧
        (options.mode = .apply → output = text →
          migrated.Yields verbosity disk { outcome with written := false, output := none } disk) ∧
        (options.mode = .apply → output ≠ text →
          let written := { outcome with written := true, output := none }
          migrated.answer verbosity disk =
              (published.answer verbosity disk).map (fun _ => written) ∧
            migrated.after verbosity disk = published.after verbosity disk ∧
            (disk.WellFormed → (∀ call, disk.refused call = none) →
              Publication.StagingClear disk file.path →
              ∃ location, disk.resolve file.path = .ok location ∧
                migrated.Yields verbosity disk written
                  (disk.setFile location (Utf8.encode output))))) ∧
    ((∃ failure, migrated.answer verbosity disk = .error failure) ↔
      (∃ line ∈ lines, known.FailsOn verbosity file.kind line) ∨
        options.mode = .apply ∧ (∀ line ∈ lines, ¬ known.FailsOn verbosity file.kind line) ∧
          output ≠ text ∧ ∃ failure, published.answer verbosity disk = .error failure) ∧
    (file.kind = .config →
      (∀ line ∈ lines, ¬ known.FailsOn verbosity file.kind line) ∧
        output = text ++ Correspondences.trailing options.trailer text) := by
  intro lines output migrated published
  have reports : ∀ number failure, known.FirstFailure verbosity file.kind lines number failure →
      migrated.answer verbosity disk = .error (failure.locatedAt file.path.str number) ∧
        migrated.after verbosity disk = disk := fun number failure first =>
    migrateFile_of_error options (editedText_of_firstFailure read first)
  have config : file.kind = .config →
      ∀ line ∈ lines, ¬ known.FailsOn verbosity file.kind line := fun kind line _ =>
    kind ▸ Correspondences.config_not_failsOn line
  refine ⟨?_, Correspondences.exists_firstFailure, ?_, ?_, ?_⟩
  · intro number failure first
    obtain ⟨answered, kept⟩ := reports number failure first
    obtain ⟨_, _, _, _, _, _, failed⟩ := first
    exact ⟨answered, kept, Correspondences.details_of_migrateLine failed _ number⟩
  · intro fine
    obtain ⟨edited, reached, whole⟩ := editedText_of_fine read fine options.trailer
    exact ⟨FileOutcome.preview file edited, rfl, congrArg some whole,
      migrateFile_of_fine read reached whole⟩
  · by_cases fine : ∀ line ∈ lines, ¬ known.FailsOn verbosity file.kind line
    · obtain ⟨edited, reached, whole⟩ := editedText_of_fine read fine options.trailer
      rw [fails_iff_of_fine read reached whole]
      constructor
      · rintro ⟨mode, changed, failed⟩
        exact .inr ⟨mode, fine, changed, failed⟩
      · rintro (⟨line, member, fails⟩ | ⟨mode, _, changed, failed⟩)
        · exact absurd fails (fine line member)
        · exact ⟨mode, changed, failed⟩
    · push Not at fine
      obtain ⟨number, failure, first⟩ := Correspondences.exists_firstFailure fine
      exact iff_of_true ⟨_, (reports number failure first).1⟩ (.inl fine)
  · intro kind
    refine ⟨config kind, ?_⟩
    simp only [output, Correspondences.textAfter, kind, if_true,
      Correspondences.flatMap_lineAfter_config]

def wildcardRows : List Row := [⟨"a.B".toList, "c.B".toList, 2⟩, ⟨"a.D".toList, "e.D".toList, 3⟩]

def wildcardDisk : Disk where
  root := .folder [("A".toList, .file (Utf8.encode "a.B\na.*\na.*\n".toList))]
  workingFolder := []

/-- The second line fails and the first, which would change, is not written. -/
theorem wildcardDisk_reports_first_failure :
    wildcardDisk.readText "A".toList = .ok "a.B\na.*\na.*\n".toList ∧
      ∃ known failure, (Correspondences.ofRows wildcardRows [] "a").answer .quiet = .ok known ∧
        (known.migrateLine .source "a.B\n".toList).answer .quiet = .ok (some "c.B\n".toList) ∧
        known.FirstFailure .quiet .source (Text.lines "a.B\na.*\na.*\n".toList) 2 failure ∧
        (migrateFile known { mode := .apply } ⟨"A".toList, .source⟩).answer .quiet wildcardDisk =
          .error (failure.locatedAt "A" 2) ∧
        (migrateFile known { mode := .apply } ⟨"A".toList, .source⟩).after .quiet wildcardDisk =
          wildcardDisk := by
  have read : wildcardDisk.readText "A".toList = .ok "a.B\na.*\na.*\n".toList := by
    have content : wildcardDisk.readFile "A".toList =
      .ok (Utf8.encode "a.B\na.*\na.*\n".toList) := rfl
    rw [Disk.readText, content]
    simp only [Utf8.decode_encode]
  have answered : ((Correspondences.ofRows wildcardRows [] "a").answer .quiet).toOption.map
      (fun known => (((known.migrateLine .source "a.B\n".toList).answer .quiet).toOption,
        ((known.migrateLine .source "a.*\n".toList).answer .quiet).toOption)) =
      some (some (some "c.B\n".toList), none) := by
    decide
  obtain ⟨known, made, answers⟩ := Option.map_eq_some_iff.mp answered
  obtain ⟨changes, stuck⟩ := Prod.mk.inj answers
  have first := ok_of_toOption changes
  obtain ⟨failure, second⟩ := error_of_toOption stuck
  have fails : known.FirstFailure .quiet .source (Text.lines "a.B\na.*\na.*\n".toList) 2
      failure := by
    refine ⟨["a.B\n".toList], "a.*\n".toList, ["a.*\n".toList], by decide, rfl, ?_, second⟩
    rintro earlier member ⟨reason, failed⟩
    cases List.mem_singleton.mp member
    cases first.symm.trans failed
  obtain ⟨reports, _⟩ := migrateFile_reports_first_failure known { mode := .apply }
    ⟨"A".toList, .source⟩ .quiet read
  obtain ⟨located, kept, _⟩ := reports 2 failure fails
  exact ⟨read, known, failure, ok_of_toOption made, first, fails, located, kept⟩

/-- The staging file cannot be made where a folder is in its place. -/
def blockedDisk : Disk where
  root := .folder [("p".toList, .folder [
    ("b".toList, .file (Utf8.encode "k=v\n".toList)),
    ("b.nsmigrate.tmp".toList, .folder [])])]
  workingFolder := []

theorem blockedDisk_fails_without_failing_line :
    blockedDisk.WellFormed ∧ (∀ call, blockedDisk.refused call = none) ∧
      blockedDisk.readText "p/b".toList = .ok "k=v\n".toList ∧
      ∀ known : Correspondences,
        (∀ line ∈ Text.lines "k=v\n".toList,
          (known.migrateLine .config line).answer .quiet = .ok none) ∧
        ∃ failure, (migrateFile known { mode := .apply } ⟨"p/b".toList, .config⟩).answer .quiet
          blockedDisk = .error failure :=
  ⟨⟨rfl, by decide⟩, fun _ => rfl, rfl, fun _ => ⟨fun _ _ => rfl, _, rfl⟩⟩

end FileEdit

end Migration
