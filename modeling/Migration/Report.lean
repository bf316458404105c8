import Migration.Run

namespace Migration

/-! Reports as JSON.  The members of an object stand in the order of their names. -/

def VersionReplacement.toJson (found : VersionReplacement) : Json :=
  .record [
    ("file", .text found.file),
    ("line", .ofNat found.line),
    ("target_variable", .text found.newVariable),
    ("variable", .text found.oldVariable),
    ("version", .text found.version)]

def TreeFile.toJson (file : TreeFile) : Json :=
  .record [("kind", .ofString file.kind.name), ("path", .text file.path)]

def FileOutcome.toJson (outcome : FileOutcome) : Json :=
  .record [
    ("appended", .bool outcome.appended),
    ("changed_lines", .ofNat outcome.changedLines),
    ("kind", .ofString outcome.kind.name),
    ("lines", .ofNat outcome.lines),
    ("path", .text outcome.path),
    ("written", .bool outcome.written)]

def Conflict.toJson (conflict : Conflict) : Json :=
  .record [
    ("current", .text conflict.current),
    ("line", .ofNat conflict.line),
    ("previous", .text conflict.previous),
    ("symbol", .text conflict.symbol)]

def Projection.toJson (projection : Projection) : Json :=
  .record [
    ("package", .text projection.package),
    ("targets", .texts projection.targets),
    ("unique", .bool projection.isUnique)]

def Rule.toJson (rule : Rule) : Json :=
  .record [
    ("source", .text rule.source.text),
    ("target", .text rule.target.text),
    ("target_version", .text rule.targetVersion),
    ("version_variable", .text rule.versionVariable)]

def MigrationReport.members (report : MigrationReport) : List (String × Json) := [
  ("dry_run", .bool report.preview),
  ("files", .array (report.files.map FileOutcome.toJson)),
  ("files_changed", .ofNat report.files.length),
  ("files_scanned", .ofNat report.filesScanned),
  ("lines_changed", .ofNat report.linesChanged),
  ("root", .text report.root),
  ("version_replacements", .array (report.versionReplacements.map VersionReplacement.toJson))]

def ScanReport.members (report : ScanReport) : List (String × Json) := [
  ("build_files", .ofNat (report.count .buildFile)),
  ("config_files", .ofNat (report.count .config)),
  ("files", .array (report.files.map TreeFile.toJson)),
  ("root", .text report.root),
  ("sources", .ofNat (report.count .source)),
  ("version_replacements", .array (report.versionReplacements.map VersionReplacement.toJson))]

def MappingReport.members (report : MappingReport) : List (String × Json) := [
  ("artifact_table", .text report.artifactTable),
  ("artifacts", .array (report.rules.map Rule.toJson)),
  ("duplicates", .array (report.conflicts.map Conflict.toJson)),
  ("projections", .array (report.projections.map Projection.toJson)),
  ("symbol_table", .text report.symbolTable),
  ("symbols", .ofNat report.symbols)]

/-- An object with its members in the order of their names. -/
def Json.sorted (members : List (String × Json)) : Json :=
  .record (members.mergeSort fun left right => decide (left.1 ≤ right.1))

/-- The answer of a command that succeeded. -/
def Json.success (data : List (String × Json)) : Json :=
  .record [("success", .bool true), ("data", .sorted data)]

/-- The answer of a command that failed. -/
def Failure.toJson (failure : Failure) : Json :=
  let hints := failure.hints.map fun hint => Json.record [("message", .ofString hint)]
  .record [
    ("success", .bool false),
    ("error", .record (
      [("code", .ofString failure.code),
        ("message", .ofString failure.message),
        ("details", .sorted failure.details)] ++
      if hints.isEmpty then [] else [("hints", .array hints)]))]

end Migration
