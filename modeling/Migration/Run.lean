import Migration.Config

namespace Migration

/-! Migrating a tree.

The configuration, both tables and the classifier must be good before any file is looked at, and
the version placeholders of all build files are listed before any file is changed.
-/

structure RunOptions where
  root : Text
  /-- Takes precedence over the configuration's symbol table. -/
  symbols : Option Text := none
  /-- Takes precedence over the configuration's artifact table. -/
  artifacts : Option Text := none
  config : Option Text := none
  /-- Added to the configuration's patterns. -/
  excludes : List Text := []
  mode : WriteMode := .preview

structure MigrationReport where
  root : Text
  preview : Bool
  filesScanned : Nat
  /-- The files whose text changes. -/
  files : List FileOutcome
  versionReplacements : List VersionReplacement

def MigrationReport.linesChanged (report : MigrationReport) : Nat :=
  report.files.foldl (fun total outcome => total + outcome.changedLines) 0

structure ScanReport where
  root : Text
  files : List TreeFile
  versionReplacements : List VersionReplacement

def ScanReport.count (report : ScanReport) (kind : FileKind) : Nat :=
  report.files.countP (·.kind = kind)

/-- What both tables contain. -/
structure MappingReport where
  symbolTable : Text
  artifactTable : Text
  symbols : Nat
  conflicts : List Conflict
  projections : List Projection
  rules : List Rule

/-- What is settled before the tables are read. -/
structure Setup where
  config : Config
  symbolTable : TableSource
  artifactTable : TableSource

namespace Run

/-- A table can be given by an option or by the configuration. -/
structure TableSetting where
  key : String
  description : String
  flag : String

def symbolSetting : TableSetting := ⟨"symbol_table", "symbol table", "--symbols"⟩

def artifactSetting : TableSetting := ⟨"artifact_table", "artifact table", "--artifacts"⟩

/-- An option's value is taken as it is; a path in the configuration is taken from the root. -/
def tableSource (home : Option Text) (root : Text) (setting : TableSetting)
    (option configured : Option Text) : Except Failure TableSource :=
  match option, configured with
  | some raw, _ => .ok (TableSource.parse home raw)
  | none, some raw => .ok ((TableSource.parse home raw).relativeTo root)
  | none, none =>
      let failure : Failure :=
        Cause.invalidSetting setting.key none s!"no {setting.description} given"
      .error (failure.withHint
        s!"Pass {setting.flag} or set \"{setting.key}\" in nsmigrate.json")

def prepare (disk : Disk) (options : RunOptions) : Except Failure Setup := do
  let config ← Config.load disk options.root options.config
  let symbolTable ←
    tableSource disk.home options.root symbolSetting options.symbols config.symbolTable
  let artifactTable ←
    tableSource disk.home options.root artifactSetting options.artifacts config.artifactTable
  return {
    config := { config with excludes := config.excludes ++ options.excludes }
    symbolTable, artifactTable }

/-- Everything known about a tree before its files are migrated. -/
structure Survey where
  setup : Setup
  known : Correspondences
  files : List TreeFile
  versionReplacements : List VersionReplacement

def survey (options : RunOptions) : Action Survey := do
  let setup ← .ofExcept (prepare (← .disk) options)
  let classifier ← .ofExcept setup.config.classifier
  let known ← Correspondences.load setup.symbolTable setup.artifactTable
  let files ← classifier.scan (← .disk) options.root
  let versionReplacements ← known.audit files
  return { setup, known, files, versionReplacements }

/-- Migrates every file of the tree.  The first file that fails ends the run; the files before it
keep their new text. -/
def migrate (options : RunOptions) : Action MigrationReport := do
  let survey ← survey options
  let editOptions : EditOptions :=
    { mode := options.mode, trailer := survey.setup.config.configTrailer }
  let outcomes ← .forEach (FileEdit.migrateFile survey.known editOptions) survey.files
  let changed := outcomes.filter (·.isChange)
  let verb := if options.mode = .preview then "Would change" else "Changed"
  Reporting.info s!"{verb} {changed.length} of {survey.files.length} files"
  return {
    root := options.root
    preview := options.mode = .preview
    filesScanned := survey.files.length
    files := changed
    versionReplacements := survey.versionReplacements }

/-- Lists the files of the tree and the version placeholders in its build files. -/
def scan (options : RunOptions) : Action ScanReport := do
  let survey ← survey options
  return {
    root := options.root
    files := survey.files
    versionReplacements := survey.versionReplacements }

/-- Describes both tables. -/
def describe (options : RunOptions) : Action MappingReport := do
  let setup ← .ofExcept (prepare (← .disk) options)
  let known ← Correspondences.load setup.symbolTable setup.artifactTable
  return {
    symbolTable := setup.symbolTable.label
    artifactTable := setup.artifactTable.label
    symbols := known.symbols.size
    conflicts := known.symbols.conflicts
    projections := known.projections.list
    rules := known.rules }

end Run

end Migration
