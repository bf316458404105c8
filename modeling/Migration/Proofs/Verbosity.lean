import Migration.Proofs.Action
import Migration.Run

namespace Migration

/-! What the verbosity decides.

It decides which messages are kept, and nothing else.  A computation is leveled if its answer, and
the disk behind it, are those of the run that keeps all messages, and if it keeps those of that
run's messages that the verbosity shows.  Every part of a migration is leveled, and so is what is
put together from leveled parts.  Only looking whether a level is shown is not, so a part that does
so must report nothing below that level and answer nothing.
-/

namespace Verbosity

/-- The entries that a verbosity shows. -/
def shown (verbosity : Verbosity) (entries : List Entry) : List Entry :=
  entries.filter fun entry => verbosity.shows entry.level

@[simp] theorem shown_nil (verbosity : Verbosity) : verbosity.shown [] = [] := rfl

@[simp] theorem shown_append (verbosity : Verbosity) (entries more : List Entry) :
    verbosity.shown (entries ++ more) = verbosity.shown entries ++ verbosity.shown more :=
  List.filter_append ..

theorem raw_shows {level : Verbosity} (reported : level ≠ quiet) : raw.shows level = true := by
  cases level with
  | quiet => exact absurd rfl reported
  | warn | info | debug | raw => rfl

theorem shows_quiet (verbosity : Verbosity) : verbosity.shows quiet = false := by
  simp [shows]

theorem shows_eq_decide (verbosity : Verbosity) {level : Verbosity} (reported : level ≠ quiet) :
    verbosity.shows level = decide (level.rank ≤ verbosity.rank) := by
  simp [shows, reported]

/-- Where only what can be shown is reported, a message is shown unless its level is above the
verbosity. -/
theorem shown_eq_filter (verbosity : Verbosity) {entries : List Entry}
    (whole : entries = raw.shown entries) :
    verbosity.shown entries = entries.filter (·.level.rank ≤ verbosity.rank) := by
  refine List.filter_congr fun entry member => ?_
  rw [whole, shown, List.mem_filter] at member
  refine shows_eq_decide verbosity fun unreported => ?_
  rw [unreported, shows_quiet] at member
  cases member.2

theorem shown_quiet (entries : List Entry) : quiet.shown entries = [] := by
  rw [shown, List.filter_eq_nil_iff]
  intro entry _
  cases level : entry.level <;> simp [shows, rank]

end Verbosity

open Verbosity (shown)

namespace Reporting

def entries (computation : Reporting α) (verbosity : Verbosity) : List Entry :=
  (computation.run verbosity).2

def Leveled (computation : Reporting α) : Prop :=
  ∀ verbosity, computation.run verbosity =
    (computation.answer .raw, verbosity.shown (computation.entries .raw))

namespace Leveled

theorem pure (value : α) : Leveled (Pure.pure value : Reporting α) :=
  fun _ => rfl

theorem bind {first : Reporting α} {next : α → Reporting β} (leveled : first.Leveled)
    (leveledNext : ∀ value, (next value).Leveled) : (first >>= next).Leveled := by
  intro verbosity
  rcases whole : first .raw with ⟨outcome, entries⟩
  have here : first verbosity = (outcome, verbosity.shown entries) := by
    have agreed := leveled verbosity
    rwa [answer, Reporting.entries, run, run, whole] at agreed
  cases outcome with
  | error failure =>
      simp only [run, answer, Reporting.entries, Bind.bind, whole, here]
  | ok value =>
      have ended : next value verbosity =
          ((next value).answer .raw, verbosity.shown ((next value).entries .raw)) :=
        leveledNext value verbosity
      simp only [run, answer, Reporting.entries, Bind.bind, whole, here, ended,
        Verbosity.shown_append]

theorem fail (failure : Failure) : Leveled (Reporting.fail failure : Reporting α) :=
  fun _ => rfl

theorem ofExcept (outcome : Except Failure α) : (Reporting.ofExcept outcome).Leveled := by
  cases outcome with
  | ok value => exact .pure value
  | error failure => exact .fail failure

theorem emit (level : Verbosity) (message : String) : (Reporting.emit level message).Leveled := by
  intro verbosity
  have kept : (if verbosity.shows level then [⟨level, message⟩] else []) =
      verbosity.shown (if Verbosity.raw.shows level then [⟨level, message⟩] else []) := by
    by_cases reported : level = .quiet
    · simp [reported, Verbosity.shows_quiet]
    · rw [Verbosity.raw_shows reported, if_pos rfl]
      cases visible : verbosity.shows level <;> simp [shown, visible]
  exact congrArg (Prod.mk _) kept

theorem forEach {step : α → Reporting β} (leveled : ∀ value, (step value).Leveled)
    (values : List α) : (Reporting.forEach step values).Leveled := by
  induction values with
  | nil => exact .pure []
  | cons first rest ih => exact (leveled first).bind fun _ => ih.bind fun _ => .pure _

theorem mapFailure {computation : Reporting α} (leveled : computation.Leveled)
    (change : Failure → Failure) : (computation.mapFailure change).Leveled := by
  intro verbosity
  rcases whole : computation .raw with ⟨outcome, entries⟩
  have here : computation verbosity = (outcome, verbosity.shown entries) := by
    have agreed := leveled verbosity
    rwa [answer, Reporting.entries, run, run, whole] at agreed
  cases outcome <;>
    simp only [run, answer, Reporting.entries, Reporting.mapFailure, whole, here]

end Leveled

/-- A computation that answers nothing and reports at one level only. -/
def OnlyAt (level : Verbosity) (computation : Reporting PUnit) : Prop :=
  ∀ verbosity, computation.answer verbosity = .ok () ∧
    ∀ entry ∈ computation.entries verbosity, entry.level = level

namespace OnlyAt

variable {level : Verbosity}

theorem pure : OnlyAt level (Pure.pure () : Reporting PUnit) :=
  fun _ => ⟨rfl, fun _ member => absurd member List.not_mem_nil⟩

theorem emit (message : String) : OnlyAt level (Reporting.emit level message) := by
  intro verbosity
  refine ⟨rfl, ?_⟩
  intro entry member
  change entry ∈ (if verbosity.shows level then [⟨level, message⟩] else []) at member
  split at member
  · rw [List.mem_singleton.mp member]
  · cases member

theorem bind {first : Reporting PUnit} {next : PUnit → Reporting PUnit}
    (only : OnlyAt level first) (onlyNext : OnlyAt level (next ())) :
    OnlyAt level (first >>= next) := by
  intro verbosity
  obtain ⟨answered, levels⟩ := only verbosity
  obtain ⟨answeredNext, levelsNext⟩ := onlyNext verbosity
  rcases ran : first verbosity with ⟨outcome, entries⟩
  rw [answer, run, ran] at answered
  rw [Reporting.entries, run, ran] at levels
  cases answered
  refine ⟨?_, ?_⟩
  · rw [answer_bind, answer, run, ran]
    exact answeredNext
  · intro entry member
    have split : (first >>= next).entries verbosity = entries ++ (next ()).entries verbosity := by
      simp only [Reporting.entries, run, Bind.bind, ran]
    rcases List.mem_append.mp (split ▸ member) with early | late
    · exact levels entry early
    · exact levelsNext entry late

theorem emitAll (messages : List String) : OnlyAt level (Reporting.emitAll level messages) := by
  induction messages with
  | nil => exact .pure
  | cons message rest ih => exact (OnlyAt.emit message).bind ih

end OnlyAt

theorem Leveled.emitAll (level : Verbosity) (messages : List String) :
    (Reporting.emitAll level messages).Leveled := by
  induction messages with
  | nil => exact .pure ()
  | cons message rest ih => exact (Leveled.emit level message).bind fun _ => ih

/-- What is done only where a level is shown leaves no trace elsewhere, as nothing it reports would
be shown there. -/
theorem Leveled.ifShown {level : Verbosity} {block : Reporting PUnit} (leveled : block.Leveled)
    (only : block.OnlyAt level) :
    Leveled (do if ← isShown level then block else Pure.pure ()) := by
  have ran (verbosity : Verbosity) :
      run (do if ← isShown level then block else Pure.pure ()) verbosity =
        if verbosity.shows level then block.run verbosity else (.ok (), []) := by
    simp only [run, Bind.bind, isShown]
    split <;> rfl
  obtain ⟨answered, levels⟩ := only .raw
  intro verbosity
  rw [answer, entries, ran, ran]
  by_cases reported : level = .quiet
  · rw [reported, Verbosity.shows_quiet, Verbosity.shows_quiet]
    rfl
  · rw [Verbosity.raw_shows reported, if_pos rfl]
    cases visible : verbosity.shows level with
    | true => exact leveled verbosity
    | false =>
        have nothing : verbosity.shown (block.entries .raw) = [] := by
          rw [shown, List.filter_eq_nil_iff]
          intro entry member
          rw [levels entry member, visible]
          exact Bool.false_ne_true
        exact Prod.ext answered.symm nothing.symm

/-- Whatever the verbosity is, the answer is the same, and the diagnostics are those of the run
that keeps all messages, in order, without the messages above the verbosity. -/
structure IgnoresVerbosity (computation : Reporting α) : Prop where
  answer : ∀ verbosity other, computation.answer verbosity = computation.answer other
  entries : ∀ verbosity, computation.entries verbosity =
    (computation.entries .raw).filter (·.level.rank ≤ verbosity.rank)
  quiet : computation.entries .quiet = []

theorem Leveled.ignoresVerbosity {computation : Reporting α} (leveled : computation.Leveled) :
    computation.IgnoresVerbosity := by
  have answered (verbosity : Verbosity) :
      computation.answer verbosity = computation.answer .raw := by
    rw [answer, leveled verbosity]
  have kept (verbosity : Verbosity) :
      computation.entries verbosity = verbosity.shown (computation.entries .raw) := by
    rw [entries, leveled verbosity]
  refine ⟨fun verbosity other => (answered verbosity).trans (answered other).symm, ?_, ?_⟩
  · intro verbosity
    rw [kept verbosity, Verbosity.shown_eq_filter verbosity (kept .raw)]
  · rw [kept .quiet, Verbosity.shown_quiet]

end Reporting

namespace Action

def entries (action : Action α) (verbosity : Verbosity) (start : Disk) : List Entry :=
  (action.run verbosity start).2.2

def Leveled (action : Action α) : Prop :=
  ∀ verbosity start, action.run verbosity start =
    (action.answer .raw start, action.after .raw start,
      verbosity.shown (action.entries .raw start))

namespace Leveled

theorem pure (value : α) : Leveled (Pure.pure value : Action α) :=
  fun _ _ => rfl

theorem bind {first : Action α} {next : α → Action β} (leveled : first.Leveled)
    (leveledNext : ∀ value, (next value).Leveled) : (first >>= next).Leveled := by
  intro verbosity start
  rcases whole : first .raw start with ⟨outcome, disk, entries⟩
  have here : first verbosity start = (outcome, disk, verbosity.shown entries) := by
    have agreed := leveled verbosity start
    rwa [answer, after, Action.entries, run, run, whole] at agreed
  cases outcome with
  | error failure =>
      simp only [run, answer, after, Action.entries, Bind.bind, whole, here]
  | ok value =>
      have ended : next value verbosity disk =
          ((next value).answer .raw disk, (next value).after .raw disk,
            verbosity.shown ((next value).entries .raw disk)) :=
        leveledNext value verbosity disk
      simp only [run, answer, after, Action.entries, Bind.bind, whole, here, ended,
        Verbosity.shown_append]

theorem lift {computation : Reporting α} (leveled : computation.Leveled) :
    (liftM computation : Action α).Leveled := by
  intro verbosity start
  have agreed := leveled verbosity
  rw [Reporting.run] at agreed
  have lifted : (liftM computation : Action α) verbosity start =
      ((computation verbosity).1, start, (computation verbosity).2) := rfl
  rw [Action.run, lifted, agreed]
  rfl

theorem disk : Action.disk.Leveled :=
  fun _ _ => rfl

theorem setDisk (new : Disk) : (Action.setDisk new).Leveled :=
  fun _ _ => rfl

theorem fail (failure : Failure) : Leveled (Action.fail failure : Action α) :=
  fun _ _ => rfl

theorem ofExcept (outcome : Except Failure α) : (Action.ofExcept outcome).Leveled := by
  cases outcome with
  | ok value => exact .pure value
  | error failure => exact .fail failure

theorem forEach {step : α → Action β} (leveled : ∀ value, (step value).Leveled)
    (values : List α) : (Action.forEach step values).Leveled := by
  induction values with
  | nil => exact .pure []
  | cons first rest ih => exact (leveled first).bind fun _ => ih.bind fun _ => .pure _

end Leveled

/-- Whatever the verbosity is, the answer and the disk behind it are the same, and the diagnostics
are those of the run that keeps all messages, in order, without the messages above the
verbosity. -/
structure IgnoresVerbosity (action : Action α) : Prop where
  answer : ∀ verbosity other start, action.answer verbosity start = action.answer other start
  after : ∀ verbosity other start, action.after verbosity start = action.after other start
  entries : ∀ verbosity start, action.entries verbosity start =
    (action.entries .raw start).filter (·.level.rank ≤ verbosity.rank)
  quiet : ∀ start, action.entries .quiet start = []

theorem Leveled.ignoresVerbosity {action : Action α} (leveled : action.Leveled) :
    action.IgnoresVerbosity := by
  have answered (verbosity : Verbosity) (start : Disk) :
      action.answer verbosity start = action.answer .raw start := by
    rw [answer, leveled verbosity start]
  have left (verbosity : Verbosity) (start : Disk) :
      action.after verbosity start = action.after .raw start := by
    rw [after, leveled verbosity start]
  have kept (verbosity : Verbosity) (start : Disk) :
      action.entries verbosity start = verbosity.shown (action.entries .raw start) := by
    rw [entries, leveled verbosity start]
  refine ⟨?_, ?_, ?_, ?_⟩
  · exact fun verbosity other start => (answered verbosity start).trans (answered other start).symm
  · exact fun verbosity other start => (left verbosity start).trans (left other start).symm
  · intro verbosity start
    rw [kept verbosity start, Verbosity.shown_eq_filter verbosity (kept .raw start)]
  · intro start
    rw [kept .quiet start, Verbosity.shown_quiet]

end Action

/-! The parts of a migration. -/

theorem Table.readRow_leveled (source : String) (oldKey newKey : Text) (record : Csv.Record) :
    (Table.readRow source oldKey newKey record).Leveled := by
  rw [Table.readRow]
  split
  · exact .fail _
  · exact .bind (.emit _ _) fun _ => .pure _

theorem Table.readRows_leveled (source : String) (text : Text) :
    (Table.readRows source text).Leveled := by
  rw [Table.readRows]
  split
  · exact .bind (.emit _ _) fun _ => .bind (.emit _ _) fun _ => .forEach (readRow_leveled _ _ _) _
  · exact .fail _

theorem SymbolTable.extend_leveled (table : SymbolTable) (rows : List Row) :
    (table.extend rows).Leveled := by
  induction rows generalizing table with
  | nil => exact .pure table
  | cons row rest ih =>
      rw [extend]
      cases table.conflict? row with
      | some conflict => exact .bind (.emit _ _) fun _ => ih (table.insert row)
      | none => exact ih (table.insert row)

namespace QualifiedName

variable (symbols : SymbolTable) (projections : Projections)

theorem replacement_leveled (name : Text) : (replacement symbols projections name).Leveled := by
  rw [replacement]
  split
  · exact .bind (.emit _ _) fun _ => .pure _
  · refine .bind (.ofExcept _) fun projected => ?_
    split
    · exact .bind (.emit _ _) fun _ => .pure _
    · exact .pure _

theorem renew_leveled (piece : Piece) : (renew symbols projections piece).Leveled := by
  cases piece with
  | gap text => exact .pure text
  | name name => exact (replacement_leveled symbols projections name).bind fun _ => .pure _

theorem migrate_leveled (line : Text) : (migrate symbols projections line).Leveled :=
  .bind (.forEach (renew_leveled symbols projections) _) fun _ => .pure _

end QualifiedName

namespace Correspondences

theorem listEntries_onlyAt (known : Correspondences) : known.listEntries.OnlyAt .debug :=
  .bind (.emitAll _) (.bind (.emitAll _) (.emitAll _))

theorem listEntries_leveled (known : Correspondences) : known.listEntries.Leveled :=
  .bind (.emitAll _ _) fun _ => .bind (.emitAll _ _) fun _ => .emitAll _ _

theorem report_leveled (known : Correspondences) : known.report.Leveled :=
  .bind (.emit _ _) fun _ => .ifShown known.listEntries_leveled known.listEntries_onlyAt

theorem ofRows_leveled (symbolRows artifactRows : List Row) (source : String) :
    (ofRows symbolRows artifactRows source).Leveled :=
  .bind (SymbolTable.extend_leveled {} symbolRows) fun _ => .bind (.ofExcept _) fun _ =>
    .bind (report_leveled _) fun _ => .pure _

theorem fetch_leveled (source : TableSource) : source.fetch.Leveled := by
  refine .bind (.lift (.emit _ _)) fun _ => .bind .disk fun disk => ?_
  split
  · exact .pure _
  · exact .fail _

theorem load_leveled (symbols artifacts : TableSource) : (load symbols artifacts).Leveled :=
  .bind (fetch_leveled symbols) fun _ => .bind (.lift (Table.readRows_leveled _ _)) fun _ =>
    .bind (fetch_leveled artifacts) fun _ => .bind (.lift (Table.readRows_leveled _ _)) fun _ =>
      .lift (ofRows_leveled _ _ _)

theorem migrateBuildLine_leveled (known : Correspondences) (line : Text) :
    (known.migrateBuildLine line).Leveled := by
  rw [migrateBuildLine]
  split
  · exact .pure _
  · exact .bind (.emit _ _) fun _ => .pure _

theorem migrateLine_leveled (known : Correspondences) (kind : FileKind) (line : Text) :
    (known.migrateLine kind line).Leveled :=
  match kind with
  | .source => QualifiedName.migrate_leveled known.symbols known.projections line
  | .buildFile => known.migrateBuildLine_leveled line
  | .config => .pure none

theorem versionsFrom_leveled (known : Correspondences) (path : Text) (number : Nat)
    (lines : List Text) : (known.versionsFrom path number lines).Leveled := by
  induction lines generalizing number with
  | nil => exact .pure []
  | cons line rest ih =>
      rw [versionsFrom]
      split
      · exact ih (number + 1)
      · exact .bind (.emit _ _) fun _ => .bind (ih (number + 1)) fun _ => .pure _

theorem auditFile_leveled (known : Correspondences) (file : TreeFile) :
    (known.auditFile file).Leveled := by
  rw [auditFile]
  split
  · exact .bind .disk fun _ => .bind (.ofExcept _) fun _ =>
      .lift (known.versionsFrom_leveled file.path 1 _)
  · exact .pure _

theorem audit_leveled (known : Correspondences) (files : List TreeFile) :
    (known.audit files).Leveled :=
  .bind (.forEach known.auditFile_leveled files) fun _ => .pure _

end Correspondences

namespace Classifier

variable (classifier : Classifier) (disk : Disk)

theorem leavesOut_leveled (path name : Text) : (classifier.leavesOut path name).Leveled := by
  rw [leavesOut]
  split
  · exact .pure _
  · split
    · exact .bind (.emit _ _) fun _ => .pure _
    · exact .pure _

theorem recordOf_leveled (path : Text) : (classifier.recordOf path).Leveled := by
  rw [recordOf]
  split
  · exact .pure _
  · exact .bind (.emit _ _) fun _ => .pure _

mutual

theorem walkEntry_leveled (path name : Text) (node : Node) :
    (classifier.walkEntry disk path name node).Leveled :=
  match node with
  | .folder entries => by
      rw [walkEntry]
      refine .bind (classifier.leavesOut_leveled path name) fun leftOut => ?_
      split
      · exact .pure _
      · split
        · exact .fail _
        · exact walkEntries_leveled path entries
  | .link _ => by
      rw [walkEntry]
      split
      · exact classifier.recordOf_leveled path
      · exact .bind (.emit _ _) fun _ => .pure _
  | .file _ => by
      rw [walkEntry]
      exact classifier.recordOf_leveled path

theorem walkEntries_leveled (path : Text) (entries : List (Text × Node)) :
    (classifier.walkEntries disk path entries).Leveled :=
  match entries with
  | [] => by
      rw [walkEntries]
      exact .pure []
  | (name, node) :: rest => by
      rw [walkEntries]
      exact .bind (walkEntry_leveled (Path.join path name) name node) fun _ =>
        .bind (walkEntries_leveled path rest) fun _ => .pure _

end

theorem firstPaths_leveled (seen : List Text) (files : List TreeFile) :
    (firstPaths disk seen files).Leveled := by
  induction files generalizing seen with
  | nil => exact .pure []
  | cons file rest ih =>
      rw [firstPaths]
      split
      · exact .bind (.emit _ _) fun _ => ih seen
      · exact .bind (ih _) fun _ => .pure _

theorem scan_leveled (root : Text) : (classifier.scan disk root).Leveled := by
  rw [scan]
  split
  · exact .bind (walkEntries_leveled classifier disk root _) fun _ =>
      .bind (firstPaths_leveled disk [] _) fun _ => .bind (.emit _ _) fun _ => .pure _
  · exact .fail _

end Classifier

namespace Publication

theorem attempt_leveled (context : String) (outcome : Except DiskError α) :
    (attempt context outcome).Leveled := by
  cases outcome with
  | ok value => exact .pure value
  | error error => exact .fail _

theorem plainCall_leveled (call : PublishCall) (context : String) :
    (plainCall call context).Leveled :=
  .bind .disk fun _ => attempt_leveled _ _

theorem writeStaging_leveled (staging : Text) : (writeStaging staging).Leveled := by
  refine .bind .disk fun disk => ?_
  split
  · exact .pure _
  · split
    · exact .bind (.setDisk _) fun _ => .fail _
    · exact .bind (.pure _) fun _ => .fail _

theorem publish_leveled (path text : Text) : (publish path text).Leveled := by
  refine .bind (.bind .disk fun _ => attempt_leveled _ _) fun location => ?_
  refine .bind (.ofExcept _) fun staging => ?_
  refine .bind (.bind .disk fun _ => .bind (attempt_leveled _ _) fun _ =>
    .bind (.setDisk _) fun _ => .pure _) fun opened => ?_
  refine .bind (writeStaging_leveled staging) fun _ => ?_
  refine .bind (.bind .disk fun _ => .bind (attempt_leveled _ _) fun _ => .setDisk _) fun _ => ?_
  refine .bind (plainCall_leveled _ _) fun _ => .bind (plainCall_leveled _ _) fun _ => ?_
  exact .bind .disk fun _ => .bind (attempt_leveled _ _) fun _ => .setDisk _

end Publication

namespace FileEdit

theorem decideLines_leveled {decide : Nat → Text → Reporting (Option Text)}
    (leveled : ∀ number line, (decide number line).Leveled) (waiting : List Text)
    (editor : LineEditor) : (decideLines decide waiting editor).Leveled := by
  induction waiting generalizing editor with
  | nil => exact .pure editor
  | cons line waiting ih =>
      rw [decideLines]
      split
      · exact .pure _
      · refine .bind (leveled _ _) fun decided => ?_
        split
        · exact ih _
        · exact ih _

theorem finish_leveled (file : TreeFile) (mode : WriteMode) (editor : LineEditor) :
    (finish file mode editor).Leveled := by
  cases mode with
  | preview => exact .bind (.lift (.emit _ _)) fun _ => .pure _
  | apply =>
      unfold finish
      dsimp only
      split
      · exact .bind (Publication.publish_leveled _ _) fun _ =>
          .bind (.lift (.emit _ _)) fun _ => .pure _
      · exact .pure _

theorem migrateFile_leveled (known : Correspondences) (options : EditOptions) (file : TreeFile) :
    (migrateFile known options file).Leveled := by
  refine .bind (.lift (.emit _ _)) fun _ => ?_
  refine .bind (.bind .disk fun _ => .bind (.ofExcept _) fun _ => .pure _) fun editor => ?_
  refine .bind (.lift (decideLines_leveled ?_ _ _)) fun edited => finish_leveled _ _ _
  exact fun number line => (known.migrateLine_leveled file.kind line).mapFailure _

end FileEdit

namespace Run

theorem survey_leveled (options : RunOptions) : (survey options).Leveled :=
  .bind .disk fun _ => .bind (.ofExcept _) fun _ => .bind (.ofExcept _) fun _ =>
    .bind (Correspondences.load_leveled _ _) fun _ => .bind .disk fun _ =>
      .bind (.lift (Classifier.scan_leveled _ _ _)) fun _ =>
        .bind (Correspondences.audit_leveled _ _) fun _ => .pure _

theorem migrate_leveled (options : RunOptions) : (migrate options).Leveled :=
  .bind (survey_leveled options) fun _ =>
    .bind (.forEach (FileEdit.migrateFile_leveled _ _) _) fun _ =>
      .bind (.lift (.emit _ _)) fun _ => .pure _

theorem scan_leveled (options : RunOptions) : (scan options).Leveled :=
  .bind (survey_leveled options) fun _ => .pure _

theorem describe_leveled (options : RunOptions) : (describe options).Leveled :=
  .bind .disk fun _ => .bind (.ofExcept _) fun _ =>
    .bind (Correspondences.load_leveled _ _) fun _ => .pure _

/-- The verbosity decides which messages are kept and nothing else: migrating a tree, scanning it,
describing its tables, reading a table, putting both tables together and migrating a line do and
answer the same at every verbosity. -/
theorem migration_ignores_verbosity :
    (∀ options, (migrate options).IgnoresVerbosity) ∧
    (∀ options, (scan options).IgnoresVerbosity) ∧
    (∀ options, (describe options).IgnoresVerbosity) ∧
    (∀ source text, (Table.readRows source text).IgnoresVerbosity) ∧
    (∀ symbolRows artifactRows source,
      (Correspondences.ofRows symbolRows artifactRows source).IgnoresVerbosity) ∧
    ∀ (known : Correspondences) (kind : FileKind) (line : Text),
      (known.migrateLine kind line).IgnoresVerbosity :=
  ⟨fun options => (migrate_leveled options).ignoresVerbosity,
    fun options => (scan_leveled options).ignoresVerbosity,
    fun options => (describe_leveled options).ignoresVerbosity,
    fun source text => (Table.readRows_leveled source text).ignoresVerbosity,
    fun symbolRows artifactRows source =>
      (Correspondences.ofRows_leveled symbolRows artifactRows source).ignoresVerbosity,
    fun known kind line => (known.migrateLine_leveled kind line).ignoresVerbosity⟩

end Run

end Migration
