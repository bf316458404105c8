import Migration.Classifier
import Migration.FileEdit
import Migration.Json.Reader

namespace Migration

/-! The configuration file.

A configuration is a JSON object, each of whose members may be missing; members it does not know
are skipped.  An object may also be written as the array of its members in order, the last ones
left out where they may be missing.
-/

/-- Globs for a kind of file, as they are written. -/
structure KindSetting where
  kind : Text
  patterns : List Text
deriving DecidableEq, Repr

def KindSetting.toJson (setting : KindSetting) : Json :=
  .record [("kind", .text setting.kind), ("patterns", .texts setting.patterns)]

def defaultKindSettings : List KindSetting :=
  defaultRules.map fun rule => ⟨rule.kind.name.toList, rule.globs⟩

structure Config where
  symbolTable : Option Text := none
  artifactTable : Option Text := none
  /-- Patterns of folders to leave out. -/
  excludes : List Text := []
  classify : List KindSetting := defaultKindSettings
  /-- Lines to append to config files. -/
  configTrailer : List Text := defaultTrailer
deriving DecidableEq, Repr

namespace Config

/-- The name of the configuration file in the root of a tree. -/
def fileName : Text := "nsmigrate.json".toList

/-! Reading. -/

def readText : Json → Option Text
  | .string content => content
  | _ => none

def readTexts : Json → Option (List Text)
  | .array items => items.mapM readText
  | _ => none

/-- A text that may be absent, as `null` is. -/
def readOptionalText : Json → Option (Option Text)
  | .null => some none
  | value => (readText value).map some

/-- The members of an object that have a known name; none of these must come twice. -/
def readMembers (known : List String) (members : List (Option Text × Json)) :
    Option (List (Text × Json)) :=
  members.foldlM
    (fun found (name, value) => do
      let name ← name
      if known.any (·.toList = name) then
        if (found.lookup name).isSome then none else some ((name, value) :: found)
      else some found)
    []

/-- The member values in order, for an object or for an array of them. -/
def readRecord (known : List String) : Json → Option (List (Option Json))
  | .object members => do
      let found ← readMembers known members
      return known.map fun name => found.lookup name.toList
  | .array items =>
      if known.length < items.length then none
      else some (items.map some ++ List.replicate (known.length - items.length) none)
  | _ => none

/-- The value of a member that has a default. -/
def readOr (default : α) (read : Json → Option α) : Option Json → Option α
  | none => some default
  | some value => read value

def readKindSetting (value : Json) : Option KindSetting := do
  match ← readRecord ["kind", "patterns"] value with
  | [some kind, some patterns] => return ⟨← readText kind, ← readTexts patterns⟩
  | _ => none

def readKindSettings : Json → Option (List KindSetting)
  | .array items => items.mapM readKindSetting
  | _ => none

def ofJson (value : Json) : Option Config := do
  match ← readRecord
      ["symbol_table", "artifact_table", "excludes", "classify", "config_trailer"] value with
  | [symbolTable, artifactTable, excludes, classify, configTrailer] =>
      return {
        symbolTable := ← readOr none readOptionalText symbolTable
        artifactTable := ← readOr none readOptionalText artifactTable
        excludes := ← readOr [] readTexts excludes
        classify := ← readOr defaultKindSettings readKindSettings classify
        configTrailer := ← readOr defaultTrailer readTexts configTrailer }
  | _ => none

def parse (source : Text) : Option Config := do
  ofJson (← Json.read? source)

/-! Writing. -/

def toJson (config : Config) : Json :=
  .record (
    (config.symbolTable.toList.map fun table => ("symbol_table", .text table)) ++
    (config.artifactTable.toList.map fun table => ("artifact_table", .text table)) ++
    [("excludes", .texts config.excludes),
      ("classify", .array (config.classify.map KindSetting.toJson)),
      ("config_trailer", .texts config.configTrailer)])

/-! Loading and use. -/

def ofFile (disk : Disk) (path : Text) : Except Failure Config :=
  match disk.readWhole path with
  | .error problem => .error (Cause.device problem (some s!"read {path.str}"))
  | .ok text =>
      match parse text with
      | some config => .ok config
      | none => .error (Cause.malformedConfig path.str "not a configuration")

/-- The given file, or the one in the tree's root, or the defaults. -/
def load (disk : Disk) (root : Text) (explicit : Option Text) : Except Failure Config :=
  match explicit with
  | some path =>
      if disk.exists path then ofFile disk path
      else
        .error (Cause.invalidSetting "config" (some path.str)
          s!"config file '{path.str}' does not exist")
  | none =>
      let path := Path.join root fileName
      if disk.exists path then ofFile disk path else .ok {}

def readRule (setting : KindSetting) : Except Failure KindRule := do
  return ⟨← FileKind.ofName setting.kind, setting.patterns⟩

def readExclude (source : Text) : Except Failure Pattern :=
  match Pattern.parse source with
  | .ok pattern => .ok pattern
  | .error problem =>
      .error (Cause.invalidSetting "excludes" (some source.str) problem.message)

/-- The classifier of a tree.  Kinds are checked before patterns. -/
def classifier (config : Config) : Except Failure Classifier := do
  let rules ← config.classify.mapM readRule
  let excludes ← config.excludes.mapM readExclude
  return { rules, excludes }

end Config

end Migration
