import Migration.Artifact.Coordinate
import Migration.Artifact.FormPattern
import Migration.Artifact.VersionVariable

namespace Migration

/-! Artifact rules: one row of the artifact table, ready to be applied to build lines.

On a line that declares its old coordinate, a rule writes the new one, renames the version
placeholder after the new module, and notes the new version at the end of the line.
-/

structure Rule where
  source : Coordinate
  target : Coordinate
  /-- The new group and module as the table has them. -/
  artifact : Text
  targetVersion : Text
  versionVariable : Text
deriving DecidableEq, Repr

/-- A version placeholder of a build file and what it is to become. -/
structure VersionReplacement where
  file : Text
  line : Nat
  oldVariable : Text
  newVariable : Text
  version : Text
deriving DecidableEq, Repr

def VersionReplacement.text (found : VersionReplacement) : String :=
  s!"Version replacement on '{found.file.str}:{found.line}'. Varname = {found.oldVariable.str}, Substitution: {found.newVariable.str} = {found.version.str}"

namespace Rule

/-- Whether declarations of a coordinate can be searched for.  The room is measured only for
coordinates that are not modest, which spares the measuring for all that are met in practice. -/
def checkRoom (source : Coordinate) : Except Coordinate.Problem PUnit :=
  if source.size ≤ Coordinate.modestSize then .ok ()
  else if !(Declaration.coordinatePattern source.group source.module).isSmall then
    .error (.tooLarge "coordinate")
  else if !(Declaration.keywordPattern source.group source.module).isSmall then
    .error (.tooLarge "keyword")
  else .ok ()

def ofRow (old new : Text) : Except Coordinate.Problem Rule := do
  let source ← Coordinate.ofSource old
  let (target, artifact) ← Coordinate.ofTarget new
  checkRoom source
  return {
    source, target, artifact
    targetVersion := target.version.getD []
    versionVariable := Migration.versionVariable target.module }

def text (rule : Rule) : String :=
  s!"From '{rule.source.group.str}:{rule.source.module.str}' to '{rule.artifact.str}' version: {rule.versionVariable.str}={rule.targetVersion.str}"

def parts? (rule : Rule) (line : Text) : Option (List Part) :=
  Declaration.parts? rule.source.group rule.source.module line

def fill (rule : Rule) : Slot → Text
  | .coordinate => rule.artifact
  | .group => rule.target.group
  | .module => rule.target.module
  | .version => rule.versionVariable

/-- The remark that names the new version, in front of the line's terminator. -/
def annotate (version line : Text) : Text :=
  Text.lineBody line ++ " // Latest version: ".toList ++ version ++ Text.lineEnding line

/-- The line with its declarations migrated, if it holds any of this rule. -/
def migrate (rule : Rule) (line : Text) : Option Text :=
  (rule.parts? line).map fun parts =>
    annotate rule.targetVersion (parts.flatMap (Part.filled rule.fill))

/-- The version placeholder of the first declaration on the line. -/
def versionOn (rule : Rule) (line : Text) : Option Text :=
  (rule.parts? line).bind Declaration.firstVersion?

def replacementOn (rule : Rule) (file : Text) (number : Nat) (line : Text) :
    Option VersionReplacement :=
  (rule.versionOn line).map fun token =>
    ⟨file, number, token, rule.versionVariable, rule.targetVersion⟩

end Rule

end Migration
