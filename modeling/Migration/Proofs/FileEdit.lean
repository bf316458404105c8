import Migration.FileEdit
import Migration.Proofs.Publication

namespace Migration

/-! Migrating one file.

Reading and deciding are the same for a preview and for publishing.  A preview reports the new
text and leaves the disk alone; otherwise that text is published if anything changed.
-/

namespace FileOutcome

/-- What is known of an edited file before it is previewed or published. -/
def ofEdited (file : TreeFile) (edited : EditedText) : FileOutcome where
  path := file.path
  kind := file.kind
  lines := edited.lineCount
  changedLines := edited.changed
  appended := edited.appended
  written := false
  output := none

def preview (file : TreeFile) (edited : EditedText) : FileOutcome :=
  { ofEdited file edited with output := some edited.text }

/-- What is reported once the text of a preview is published: the file was written if its text
changes, and the text is not reported. -/
def published (outcome : FileOutcome) : FileOutcome :=
  { outcome with written := outcome.isChange, output := none }

theorem published_preview {file : TreeFile} {edited : EditedText} {changes : Bool}
    (isChange : (ofEdited file edited).isChange = changes) :
    (preview file edited).published = { ofEdited file edited with written := changes } := by
  rw [← isChange]
  rfl

end FileOutcome

namespace Disk

theorem file_of_readText {disk : Disk} {path text : Text} (read : disk.readText path = .ok text) :
    ∃ location content, disk.resolve path = .ok location ∧
      disk.root.node? location = some (.file content) ∧ Utf8.decode content = .ok text := by
  rw [readText] at read
  cases content : disk.readFile path with
  | error reason => simp [content] at read
  | ok bytes =>
      rw [content] at read
      obtain ⟨location, resolved, found⟩ := bind_eq_ok.mp content
      refine ⟨location, bytes, resolved, ?_, ?_⟩
      · split at found
        · next present => exact (Except.ok.inj found) ▸ present
        · cases found
        · cases found
      · cases decoded : Utf8.decode bytes with
        | error fault => simp [decoded] at read
        | ok text => simpa [decoded] using read

end Disk

namespace FileEdit

variable {known : Correspondences} {trailer : List Text} {file : TreeFile}
  {verbosity : Verbosity} {disk : Disk}

def decideLine (known : Correspondences) (file : TreeFile) (number : Nat) (line : Text) :
    Reporting (Option Text) :=
  (known.migrateLine file.kind line).mapFailure (·.locatedAt file.path.str number)

def editText (known : Correspondences) (trailer : List Text) (file : TreeFile)
    (verbosity : Verbosity) (text : Text) : Except Failure EditedText :=
  ((decideLines (decideLine known file) (Text.lines text)
    (LineEditor.ofText file.kind trailer text)).answer verbosity).map LineEditor.finish

def editedText (known : Correspondences) (trailer : List Text) (file : TreeFile)
    (verbosity : Verbosity) (disk : Disk) : Except Failure EditedText :=
  disk.readText file.path >>= editText known trailer file verbosity

theorem migrateFile_eq (known : Correspondences) (options : EditOptions) (file : TreeFile) :
    migrateFile known options file = (do
      Reporting.debug s!"Migrating {file.kind.name} file {file.path.str}"
      let editor ← FileEdit.open file options
      let edited ← decideLines (decideLine known file) editor.upcoming editor
      finish file options.mode edited) := rfl

theorem answer_open (options : EditOptions) :
    (FileEdit.open file options).answer verbosity disk =
      (disk.readText file.path).map (LineEditor.ofText file.kind options.trailer) := by
  simp only [FileEdit.open, Action.answer_bind, Action.after_disk, Action.answer_disk,
    Action.answer_ofExcept, Action.answer_pure, ok_bind]
  cases disk.readText file.path <;> rfl

theorem open_keepsDisk (options : EditOptions) : (FileEdit.open file options).KeepsDisk :=
  .bind .disk fun _ => .bind (.ofExcept _) fun _ => .pure _

theorem finish_preview_yields (editor : LineEditor) :
    (finish file .preview editor).Yields verbosity disk
      (FileOutcome.preview file editor.finish) disk :=
  ⟨rfl, rfl⟩

theorem finish_apply_unchanged {editor : LineEditor}
    (unchanged : (FileOutcome.ofEdited file editor.finish).isChange = false) :
    (finish file .apply editor).Yields verbosity disk
      { FileOutcome.ofEdited file editor.finish with written := false } disk := by
  rw [FileOutcome.ofEdited] at unchanged
  simp only [finish, unchanged]
  exact ⟨rfl, rfl⟩

theorem finish_apply_changed {editor : LineEditor} {final : Disk}
    (changed : (FileOutcome.ofEdited file editor.finish).isChange = true)
    (published : (Publication.publish file.path editor.finish.text).Yields verbosity disk ()
      final) :
    (finish file .apply editor).Yields verbosity disk
      { FileOutcome.ofEdited file editor.finish with written := true } final := by
  rw [FileOutcome.ofEdited] at changed
  simp only [finish, changed, if_true]
  exact .bind published (.bind ⟨rfl, rfl⟩ ⟨rfl, rfl⟩)

/-- Whatever the mode, the editing ends with the edited text. -/
theorem migrateFile_yields (options : EditOptions) {edited : EditedText} {outcome : FileOutcome}
    {final : Disk} (reached : editedText known options.trailer file verbosity disk = .ok edited)
    (ended : ∀ editor : LineEditor, editor.finish = edited →
      (finish file options.mode editor).Yields verbosity disk outcome final) :
    (migrateFile known options file).Yields verbosity disk outcome final := by
  obtain ⟨text, read, reached⟩ := bind_eq_ok.mp reached
  unfold editText at reached
  cases decided : (decideLines (decideLine known file) (Text.lines text)
      (LineEditor.ofText file.kind options.trailer text)).answer verbosity with
  | error failure =>
      rw [decided] at reached
      cases reached
  | ok editor =>
      rw [decided] at reached
      have opened : (FileEdit.open file options).Yields verbosity disk
          (LineEditor.ofText file.kind options.trailer text) disk :=
        ⟨by rw [answer_open, read]; rfl, open_keepsDisk options verbosity disk⟩
      have reply := ended editor (Except.ok.inj reached)
      rw [migrateFile_eq]
      exact .bind ⟨rfl, rfl⟩ (.bind opened (.bind ⟨decided, rfl⟩ reply))

theorem migrateFile_of_error (options : EditOptions) {failure : Failure}
    (failed : editedText known options.trailer file verbosity disk = .error failure) :
    (migrateFile known options file).answer verbosity disk = .error failure ∧
      (migrateFile known options file).after verbosity disk = disk := by
  rw [migrateFile_eq]
  have kept : (FileEdit.open file options).after verbosity disk = disk :=
    open_keepsDisk options verbosity disk
  simp only [Action.answer_bind, Action.after_bind, Action.answer_lift, Action.after_lift,
    Reporting.answer_debug, ok_bind, answer_open, kept]
  unfold editedText at failed
  cases read : disk.readText file.path with
  | error reason =>
      rw [read] at failed
      cases failed
      exact ⟨rfl, rfl⟩
  | ok text =>
      rw [read, ok_bind, editText] at failed
      have lines : (LineEditor.ofText file.kind options.trailer text).upcoming =
          Text.lines text := rfl
      simp only [Except.map, ok_bind, lines]
      cases decided : (decideLines (decideLine known file) (Text.lines text)
          (LineEditor.ofText file.kind options.trailer text)).answer verbosity with
      | error reason =>
          rw [decided] at failed
          cases failed
          exact ⟨rfl, rfl⟩
      | ok editor =>
          rw [decided] at failed
          cases failed

theorem migrateFile_preview (known : Correspondences) (trailer : List Text) (file : TreeFile)
    (verbosity : Verbosity) (disk : Disk) :
    (migrateFile known { mode := .preview, trailer } file).answer verbosity disk =
        (editedText known trailer file verbosity disk).map (FileOutcome.preview file) ∧
      (migrateFile known { mode := .preview, trailer } file).after verbosity disk = disk := by
  cases reached : editedText known trailer file verbosity disk with
  | error failure => exact migrateFile_of_error { mode := .preview, trailer } reached
  | ok edited =>
      exact migrateFile_yields { mode := .preview, trailer } reached
        fun editor same => same ▸ finish_preview_yields editor

theorem migrateFile_apply_changed {edited : EditedText} (formed : disk.WellFormed)
    (granted : ∀ call, disk.refused call = none)
    (clear : Publication.StagingClear disk file.path)
    (reached : editedText known trailer file verbosity disk = .ok edited)
    (changed : (FileOutcome.ofEdited file edited).isChange = true) :
    ∃ location content, disk.resolve file.path = .ok location ∧
      disk.root.node? location = some (.file content) ∧
      (migrateFile known { mode := .apply, trailer } file).Yields verbosity disk
        { FileOutcome.ofEdited file edited with written := true }
        (disk.setFile location (Utf8.encode edited.text)) := by
  obtain ⟨text, read, _⟩ := bind_eq_ok.mp reached
  obtain ⟨location, content, resolved, present, _⟩ := Disk.file_of_readText read
  refine ⟨location, content, resolved, present, ?_⟩
  refine migrateFile_yields { mode := .apply, trailer } reached ?_
  rintro editor rfl
  exact finish_apply_changed changed
    (Publication.publish_yields formed granted clear resolved present)

theorem migrateFile_apply_unchanged {edited : EditedText}
    (reached : editedText known trailer file verbosity disk = .ok edited)
    (unchanged : (FileOutcome.ofEdited file edited).isChange = false) :
    (migrateFile known { mode := .apply, trailer } file).Yields verbosity disk
      { FileOutcome.ofEdited file edited with written := false } disk := by
  refine migrateFile_yields { mode := .apply, trailer } reached ?_
  rintro editor rfl
  exact finish_apply_unchanged unchanged

end FileEdit

end Migration
