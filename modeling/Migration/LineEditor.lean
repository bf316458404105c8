import Migration.FileKind
import Migration.Text.Basic

namespace Migration

/-! Editing a file line by line.

The editor hands out the lines of a text in order.  For the line handed out last, the caller may
decide on another text; the decision is final once the next line is asked for or the editing ends.
Lines that were never handed out are kept, and a config file gets further lines at its end.
-/

structure LineEditor where
  /-- Lines to append. -/
  trailer : List Text
  /-- The terminator of appended lines. -/
  newline : Text
  lineCount : Nat
  /-- Lines not handed out yet. -/
  upcoming : List Text
  /-- The line that waits for a decision. -/
  pending : Option Text := none
  decision : Option Text := none
  /-- What has been decided, last line first. -/
  done : List Text := []
  changed : Nat := 0

/-- The text that comes out of an editor. -/
structure EditedText where
  text : Text
  lineCount : Nat
  changed : Nat
  appended : Bool
deriving DecidableEq, Repr

namespace LineEditor

/-- The terminator of the last line that has one; a line feed if none has. -/
def newlineOf (lines : List Text) : Text :=
  (lines.reverse.map Text.lineEnding).find? (· ≠ []) |>.getD ['\n']

/-- An editor of a text.  Only config files get the trailer. -/
def ofText (kind : FileKind) (trailer : List Text) (text : Text) : LineEditor where
  trailer := if kind = .config then trailer else []
  newline := newlineOf (Text.lines text)
  lineCount := (Text.lines text).length
  upcoming := Text.lines text

/-- Makes the decision on the pending line final. -/
def commit (editor : LineEditor) : LineEditor :=
  match editor.pending with
  | none => editor
  | some line =>
      match editor.decision with
      | none => { editor with pending := none, done := line :: editor.done }
      | some new =>
          { editor with
            pending := none
            decision := none
            done := new :: editor.done
            changed := editor.changed + if new = line then 0 else 1 }

/-- Hands out the next line with its number, counted from one. -/
def next (editor : LineEditor) : LineEditor × Option (Nat × Text) :=
  let committed := editor.commit
  match committed.upcoming with
  | [] => (committed, none)
  | line :: rest =>
      ({ committed with upcoming := rest, pending := some line },
        some (committed.lineCount - rest.length, line))

/-- Decides on the pending line; without one, nothing happens. -/
def replace (editor : LineEditor) (new : Text) : LineEditor :=
  if editor.pending.isSome then { editor with decision := some new } else editor

/-- The appended lines, on a line of their own. -/
def ending (editor : LineEditor) (body : Text) : Text :=
  (if body = [] || body.getLast? = some '\n' then [] else editor.newline) ++
    editor.trailer.flatMap (· ++ editor.newline)

def finish (editor : LineEditor) : EditedText :=
  let committed := editor.commit
  let body := (committed.done.reverse ++ committed.upcoming).flatten
  { text := if committed.trailer = [] then body else body ++ committed.ending body
    lineCount := committed.lineCount
    changed := committed.changed
    appended := committed.trailer ≠ [] }

end LineEditor

end Migration
