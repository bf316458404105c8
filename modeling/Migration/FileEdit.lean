import Migration.Correspondences
import Migration.Publication

namespace Migration

/-! Migrating one file: reading it, editing its lines, and publishing or previewing the result. -/

inductive WriteMode where
  | apply
  | preview
deriving DecidableEq, Repr

/-- Lines appended to config files unless the configuration says otherwise. -/
def defaultTrailer : List Text :=
  ["android.useAndroidX=true".toList, "android.enableJetifier=true".toList]

structure EditOptions where
  mode : WriteMode
  trailer : List Text := defaultTrailer

/-- What happened to a file. -/
structure FileOutcome where
  path : Text
  kind : FileKind
  lines : Nat
  changedLines : Nat
  appended : Bool
  /-- Whether the file on the disk was replaced. -/
  written : Bool
  /-- The whole new text, in a preview. -/
  output : Option Text
deriving DecidableEq, Repr

/-- Whether a file's text differs afterwards, or would. -/
def FileOutcome.isChange (outcome : FileOutcome) : Bool :=
  0 < outcome.changedLines || outcome.appended

namespace FileEdit

def «open» (file : TreeFile) (options : EditOptions) : Action LineEditor := do
  let text ← .ofExcept ((← .disk).readText file.path)
  return LineEditor.ofText file.kind options.trailer text

/-- Runs the lines through `decide` one after the other; `waiting` are the lines still to come. -/
def decideLines (decide : Nat → Text → Reporting (Option Text)) :
    (waiting : List Text) → LineEditor → Reporting LineEditor
  | [], editor => pure editor
  | _ :: waiting, editor =>
      match editor.next with
      | (editor, none) => pure editor
      | (editor, some (number, line)) => do
          match ← decide number line with
          | some new => decideLines decide waiting (editor.replace new)
          | none => decideLines decide waiting editor

/-- Ends the editing of a file.  A text that did not change is not written. -/
def finish (file : TreeFile) (mode : WriteMode) (editor : LineEditor) : Action FileOutcome := do
  let edited := editor.finish
  let outcome : FileOutcome := {
    path := file.path
    kind := file.kind
    lines := edited.lineCount
    changedLines := edited.changed
    appended := edited.appended
    written := false
    output := none }
  match mode with
  | .preview => do
      Reporting.raw s!"--- {file.path.str} (dry run) ---\n{edited.text.str}"
      return { outcome with output := some edited.text }
  | .apply =>
      if outcome.isChange then do
        Publication.publish file.path edited.text
        Reporting.info s!"Rewrote {file.path.str} ({edited.changed} lines changed)"
        return { outcome with written := true }
      else return outcome

/-- Migrates a file.  A failure on a line names the file and the line. -/
def migrateFile (known : Correspondences) (options : EditOptions) (file : TreeFile) :
    Action FileOutcome := do
  Reporting.debug s!"Migrating {file.kind.name} file {file.path.str}"
  let editor ← FileEdit.open file options
  let decide := fun number line =>
    (known.migrateLine file.kind line).mapFailure (·.locatedAt file.path.str number)
  let edited ← decideLines decide editor.upcoming editor
  finish file options.mode edited

end FileEdit

end Migration
