import Migration.Failure

namespace Migration

/-! Kinds of files that a migration treats differently. -/

inductive FileKind where
  /-- Sources and resources: qualified names are migrated. -/
  | source
  /-- Build scripts: dependency declarations are migrated. -/
  | buildFile
  /-- Build settings: lines are appended and none is changed. -/
  | config
deriving DecidableEq, Repr

namespace FileKind

def name : FileKind → String
  | source => "source"
  | buildFile => "build-file"
  | config => "config"

def ofName (name : Text) : Except Failure FileKind :=
  if name = "source".toList then .ok source
  else if name = "build-file".toList then .ok buildFile
  else if name = "config".toList then .ok config
  else
    .error (Cause.invalidSetting "classify.kind" (some name.str)
      s!"unknown file kind '{name.str}'. Use: source, build-file, config")

end FileKind

/-- A file to migrate and how to treat it. -/
structure TreeFile where
  path : Text
  kind : FileKind
deriving DecidableEq, Repr

end Migration
