import Migration.Artifact.Rule
import Migration.FileKind
import Migration.QualifiedName
import Migration.Table.Source
import Migration.Text.Quoted

namespace Migration

/-! Correspondences between old and new names: what both tables say together, and what they make of
a line of each kind of file.
-/

structure Correspondences where
  symbols : SymbolTable
  projections : Projections
  rules : List Rule

def Projection.summary (projection : Projection) : String :=
  match projection.targets with
  | [target] =>
      s!"Source package '{projection.package.str}*' can be replaced with {target.str}*"
  | targets =>
      s!"Source package '{projection.package.str}' maps to more than one destination: {(Text.quotedList targets).str}"

namespace Correspondences

/-- The rule of a row of the artifact table. -/
def ruleOf (source : String) (row : Row) : Except Failure Rule :=
  match Rule.ofRow row.old row.new with
  | .ok rule => .ok rule
  | .error problem => .error (Cause.invalidTable source (some row.line) problem.message)

def rulesOf (source : String) : List Row → Except Failure (List Rule)
  | [] => .ok []
  | row :: rest => do
      let rule ← ruleOf source row
      let rules ← rulesOf source rest
      return rule :: rules

/-- Every entry of the tables. -/
def listEntries (known : Correspondences) : Reporting PUnit := do
  .emitAll .debug (known.symbols.entries.map fun (old, new) => s!"{old.str} -> {new.str}")
  .emitAll .debug (known.projections.list.map Projection.summary)
  .emitAll .debug (known.rules.map Rule.text)

def report (known : Correspondences) : Reporting PUnit := do
  .info s!"Loaded {known.symbols.size} symbols, {known.projections.size} packages, {known.rules.length} artifact rules"
  if ← .isShown .debug then known.listEntries

/-- Nothing can be used if a row of the artifact table is no rule. -/
def ofRows (symbolRows artifactRows : List Row) (artifactSource : String) :
    Reporting Correspondences := do
  let symbols ← SymbolTable.ofRows symbolRows
  let rules ← .ofExcept (rulesOf artifactSource artifactRows)
  let known := { symbols, projections := Projections.ofRows symbolRows, rules }
  known.report
  return known

/-- Reads both tables, the symbol table first. -/
def load (symbols artifacts : TableSource) : Action Correspondences := do
  let symbolRows ← Table.readRows symbols.label.str (← symbols.fetch)
  let artifactRows ← Table.readRows artifacts.label.str (← artifacts.fetch)
  ofRows symbolRows artifactRows artifacts.label.str

/-- The build line migrated by the first rule that applies to it. -/
def migrateBuildLine (known : Correspondences) (line : Text) : Reporting (Option Text) :=
  match known.rules.findSome? fun rule => (rule.migrate line).map (rule, ·) with
  | none => pure none
  | some (rule, migrated) => do
      .raw s!"Replace '{(Text.trim line).str}' with '{(Text.trim migrated).str}' ({rule.text})"
      return some migrated

/-- What a line of a file of the given kind becomes, if it changes. -/
def migrateLine (known : Correspondences) (kind : FileKind) (line : Text) :
    Reporting (Option Text) :=
  match kind with
  | .source => QualifiedName.migrate known.symbols known.projections line
  | .buildFile => known.migrateBuildLine line
  | .config => pure none

/-- The version placeholder that the first rule to find one finds on a line. -/
def versionOn (known : Correspondences) (path : Text) (number : Nat) (line : Text) :
    Option VersionReplacement :=
  known.rules.findSome? (·.replacementOn path number line)

/-- The version placeholders on the lines of a build file, counted from `number`. -/
def versionsFrom (known : Correspondences) (path : Text) :
    (number : Nat) → List Text → Reporting (List VersionReplacement)
  | _, [] => pure []
  | number, line :: rest =>
      match known.versionOn path number (Text.lineBody line) with
      | none => known.versionsFrom path (number + 1) rest
      | some found => do
          .debug s!"Found version replacement: {found.text}"
          let others ← known.versionsFrom path (number + 1) rest
          return found :: others

/-- The version placeholders of a file; only build files have any. -/
def auditFile (known : Correspondences) (file : TreeFile) : Action (List VersionReplacement) :=
  if file.kind = .buildFile then do
    let text ← .ofExcept ((← .disk).readText file.path)
    known.versionsFrom file.path 1 (Text.lines text)
  else pure []

def audit (known : Correspondences) (files : List TreeFile) :
    Action (List VersionReplacement) := do
  return (← .forEach known.auditFile files).flatten

end Correspondences

end Migration
