import Migration.Disk.Action
import Migration.LineEditor

namespace Migration

/-! Putting an edited text in the place of a file.

The text is written to a staging file beside the real file, links being resolved, and then renamed
over it.  A staging file whose writing fails is removed again.
-/

def stagingSuffix : Text := ".nsmigrate.tmp".toList

/-- The staging file of a path that is a text: its sibling with the suffix added to the name. -/
def stagingPath (path : Text) : Except Failure Text :=
  match Path.split? path with
  | some (parent, name) => .ok (Path.join parent (name ++ stagingSuffix))
  | none => .error (Cause.device s!"Invalid path: {path.str}" (some "stage rewrite"))

namespace Publication

/-- Whether the device takes part in a call. -/
def granted (disk : Disk) (call : PublishCall) : Except DiskError PUnit :=
  match disk.refused call with
  | some error => .error error
  | none => .ok ()

def attempt (context : String) (outcome : Except DiskError α) : Action α :=
  match outcome with
  | .ok value => pure value
  | .error error => .fail (error.during context)

/-- A call that changes nothing the tree shows. -/
def plainCall (call : PublishCall) (context : String) : Action PUnit := do
  attempt context (granted (← .disk) call)

/-- The location of the real file. -/
def resolveTarget (path : Text) : Action Location := do
  let disk ← .disk
  attempt s!"resolve {path.str}" (granted disk .resolve *> disk.realLocation path)

/-- Makes the staging file and answers where the text will be written, which is elsewhere if there
is a link in its place. -/
def createStaging (staging : Text) : Action Location := do
  let disk ← .disk
  let opened ← attempt s!"create {staging.str}" (granted disk .create *> disk.createFile staging)
  .setDisk (disk.setFile opened [])
  return opened

/-- Hands the text over for writing; if this fails, the staging file is removed. -/
def writeStaging (staging : Text) : Action PUnit := do
  let disk ← .disk
  match granted disk .write with
  | .ok () => return ()
  | .error error =>
      match disk.entryLocation staging with
      | .ok location => .setDisk (disk.removeEntry location)
      | .error _ => pure ()
      .fail (error.during s!"write {staging.str}")

/-- Brings the text onto the disk. -/
def flushStaging (opened : Location) (text : Text) (target : Text) : Action PUnit := do
  let disk ← .disk
  attempt s!"flush {target.str}" (granted disk .flush)
  .setDisk (disk.setFile opened (Utf8.encode text))

/-- Renames the staging file over the real one. -/
def renameStaging (staging : Text) (location : Location) : Action PUnit := do
  let disk ← .disk
  let source ← attempt s!"replace {(Disk.pathOf location).str}"
    (granted disk .rename *> disk.entryLocation staging)
  .setDisk (disk.moveEntry source location)

/-- Replaces the content of the file that a path leads to. -/
def publish (path text : Text) : Action PUnit := do
  let location ← resolveTarget path
  let target := Disk.pathOf location
  let staging ← .ofExcept (stagingPath target)
  let opened ← createStaging staging
  writeStaging staging
  flushStaging opened text target
  plainCall .sync s!"sync {target.str}"
  plainCall .setPermissions s!"copy permissions of {target.str}"
  renameStaging staging location

end Publication

end Migration
