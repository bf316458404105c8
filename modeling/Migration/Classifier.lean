import Migration.Disk.Action
import Migration.FileKind
import Migration.Glob
import Migration.Pattern.Parser
import Migration.Pattern.Search

namespace Migration

/-! Which files of a tree are to be migrated, and how.

A file's kind is decided by its name.  The tree is walked in the order of names; folders that hold
no sources, folders that an exclude pattern fits and links to folders are left out, and a file that
is reached by two paths is taken once, by the first of them.
-/

/-- File name globs for one kind. -/
structure KindRule where
  kind : FileKind
  globs : List Text
deriving DecidableEq, Repr

structure Classifier where
  rules : List KindRule
  excludes : List Pattern := []

/-- The rules that hold unless the configuration says otherwise. -/
def defaultRules : List KindRule := [
  ⟨.source, ["*.java".toList, "*.kt".toList, "*.xml".toList]⟩,
  ⟨.buildFile, ["*.gradle".toList]⟩,
  ⟨.config, ["gradle.properties".toList]⟩]

/-- Folders of version control, development tools and build output. -/
def skippedFolders : List Text :=
  [".git", ".svn", ".hg", ".gradle", ".idea", "build"].map String.toList

namespace Classifier

/-- The kind of a name; the first rule with a fitting glob decides. -/
def kindOfName (classifier : Classifier) (name : Text) : Option FileKind := do
  let rule ← classifier.rules.find? fun rule => rule.globs.any (Glob.matches · name)
  return rule.kind

/-- The kind of a file by its name. -/
def kindOf (classifier : Classifier) (path : Text) : Option FileKind := do
  let name ← Path.fileName? path
  classifier.kindOfName name

/-- Whether a folder is left out. -/
def leavesOut (classifier : Classifier) (path name : Text) : Reporting Bool :=
  if skippedFolders.contains name then pure true
  else if classifier.excludes.any (·.occursIn path) then do
    .info s!"Discarding source dir: {path.str}"
    return true
  else pure false

/-- The record of a file whose name tells its kind. -/
def recordOf (classifier : Classifier) (path : Text) : Reporting (List TreeFile) :=
  match classifier.kindOf path with
  | none => pure []
  | some kind => do
      .debug s!"{kind.name} file at '{path.str}'"
      return [⟨path, kind⟩]

mutual

/-- The files at and below an entry of a folder. -/
def walkEntry (classifier : Classifier) (disk : Disk) (path name : Text) :
    Node → Reporting (List TreeFile)
  | .folder entries => do
      if ← classifier.leavesOut path name then return []
      else if Disk.isTooLong path then .fail (DiskError.nameTooLong.during s!"read dir {path.str}")
      else walkEntries classifier disk path entries
  | .link _ =>
      if disk.isFile path then classifier.recordOf path
      else do
        .info s!"Not following symlink: {path.str}"
        return []
  | .file _ => classifier.recordOf path

/-- The files among the entries of the folder at `path`. -/
def walkEntries (classifier : Classifier) (disk : Disk) (path : Text) :
    List (Text × Node) → Reporting (List TreeFile)
  | [] => pure []
  | (name, node) :: rest => do
      let first ← walkEntry classifier disk (Path.join path name) name node
      let others ← walkEntries classifier disk path rest
      return first ++ others

end

/-- Keeps the first of the records that lead to the same file; `seen` are the files met before. -/
def firstPaths (disk : Disk) : (seen : List Text) → List TreeFile → Reporting (List TreeFile)
  | _, [] => pure []
  | seen, file :: rest =>
      let real := disk.realPath file.path
      if seen.contains real then do
        .info s!"Skipping second path to the same file: {file.path.str}"
        firstPaths disk seen rest
      else do
        let others ← firstPaths disk (real :: seen) rest
        return file :: others

/-- The files to migrate below a folder, in the order of their paths. -/
def scan (classifier : Classifier) (disk : Disk) (root : Text) : Reporting (List TreeFile) :=
  match disk.nodeAt? root with
  | some (.folder entries) => do
      let found ← walkEntries classifier disk root entries
      let files ← firstPaths disk [] found
      .info s!"Found {files.length} files to migrate under {root.str}"
      return files
  | _ => .fail (Cause.invalidArgument "root" s!"'{root.str}' is not a directory")

end Classifier

end Migration
