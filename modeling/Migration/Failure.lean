import Migration.Json.Basic

namespace Migration

/-! What can go wrong.

A failure is a cause, together with the notes that were attached to it on its way out: hints for
the user, and the place in a file where it happened.  The code, the message, the details and the
exit status are all read off it here.
-/

inductive Cause where
  /-- The configuration file is not a configuration. -/
  | malformedConfig (path problem : String)
  /-- A setting has a value that cannot be used. -/
  | invalidSetting (key : String) (value : Option String) (problem : String)
  | invalidArgument (field problem : String)
  | unreadableTable (source problem : String)
  | invalidTable (source : String) (line : Option Nat) (problem : String)
  /-- A wildcard reference to a package whose members moved to several packages. -/
  | ambiguousProjection (reference package : String) (targets : List String)
  | undecodableFile (path : String) (line : Nat) (problem : String)
  | device (problem : String) (context : Option String)
  | encoding (problem : String) (context : Option String)
  | unexpected (problem : String)
deriving DecidableEq

inductive Note where
  | hint (message : String)
  | place (path : String) (line : Nat)
deriving DecidableEq

structure Failure where
  cause : Cause
  notes : List Note := []
deriving DecidableEq

namespace Cause

def code : Cause → String
  | malformedConfig .. => "config.invalid_json"
  | invalidSetting .. => "config.invalid_value"
  | invalidArgument .. => "validation.invalid_argument"
  | unreadableTable .. => "table.fetch_failed"
  | invalidTable .. => "table.invalid"
  | ambiguousProjection .. => "projection.ambiguous"
  | undecodableFile .. => "file.decode_failed"
  | device .. => "internal.io_error"
  | encoding .. => "internal.json_error"
  | unexpected .. => "internal.unexpected"

def message : Cause → String
  | malformedConfig .. => "Invalid JSON in configuration"
  | invalidSetting _ _ problem => s!"Invalid configuration value: {problem}"
  | invalidArgument _ problem => s!"Invalid argument: {problem}"
  | unreadableTable source problem => s!"Failed to fetch mapping table '{source}': {problem}"
  | invalidTable source (some line) problem =>
      s!"Invalid mapping table '{source}' at line {line}: {problem}"
  | invalidTable source none problem => s!"Invalid mapping table '{source}': {problem}"
  | ambiguousProjection reference package targets =>
      let listed := ", ".intercalate targets
      s!"Package projection '{reference}' is ambiguous: '{package}' maps to {targets.length} packages ({listed})"
  | undecodableFile path line problem =>
      s!"File '{path}' is not valid UTF-8 (line {line}): {problem}"
  | device problem (some context) => s!"IO error ({context}): {problem}"
  | device problem none => s!"IO error: {problem}"
  | encoding .. => "JSON error"
  | unexpected _ => "Unexpected error"

/-- A member that is left out when there is nothing to say. -/
private def optional (name : String) (value : Option Json) : List (String × Json) :=
  value.toList.map fun value => (name, value)

def details : Cause → List (String × Json)
  | malformedConfig path problem =>
      [("error", .ofString problem), ("path", .ofString path)]
  | invalidSetting key value problem =>
      [("key", .ofString key), ("problem", .ofString problem)] ++
        optional "value" (value.map .ofString)
  | invalidArgument field problem =>
      [("field", .ofString field), ("problem", .ofString problem)]
  | unreadableTable source problem =>
      [("problem", .ofString problem), ("source", .ofString source)]
  | invalidTable source line problem =>
      optional "line" (line.map .ofNat) ++
        [("problem", .ofString problem), ("source", .ofString source)]
  | ambiguousProjection reference package targets =>
      [("package", .ofString package), ("reference", .ofString reference),
        ("targets", .array (targets.map .ofString))]
  | undecodableFile path line problem =>
      [("error", .ofString problem), ("line", .ofNat line), ("path", .ofString path)]
  | device problem context =>
      optional "context" (context.map .ofString) ++ [("error", .ofString problem)]
  | encoding problem context =>
      optional "context" (context.map .ofString) ++ [("error", .ofString problem)]
  | unexpected problem => [("error", .ofString problem)]

/-- Hints that belong to the cause, whoever raises it. -/
def hints : Cause → List String
  | unreadableTable .. => ["Check the table URL or path; no file has been modified"]
  | ambiguousProjection .. =>
      ["Replace the wildcard import with explicit imports before migrating"]
  | _ => []

def exitStatus : Cause → Nat
  | malformedConfig .. | invalidSetting .. | invalidArgument .. => 2
  | unreadableTable .. | invalidTable .. => 3
  | ambiguousProjection .. => 4
  | undecodableFile .. => 5
  | device .. | encoding .. | unexpected .. => 1

end Cause

namespace Failure

def withHint (failure : Failure) (message : String) : Failure :=
  { failure with notes := failure.notes ++ [.hint message] }

/-- The failure, known to have happened on a line of a file. -/
def locatedAt (failure : Failure) (path : String) (line : Nat) : Failure :=
  { failure with notes := failure.notes ++ [.place path line] }

def code (failure : Failure) : String :=
  failure.cause.code

/-- The cause's message followed by every place noted, in order. -/
def message (failure : Failure) : String :=
  failure.notes.foldl
    (fun message note =>
      match note with
      | .hint _ => message
      | .place path line => s!"{message} (at {path}:{line})")
    failure.cause.message

/-- The place noted last. -/
def place? (failure : Failure) : Option (String × Nat) :=
  failure.notes.foldl
    (fun found note =>
      match note with
      | .hint _ => found
      | .place path line => some (path, line))
    none

def hints (failure : Failure) : List String :=
  failure.cause.hints ++
    failure.notes.filterMap fun note =>
      match note with
      | .hint message => some message
      | .place .. => none

/-- Details by name, in the order of their names. -/
def details (failure : Failure) : List (String × Json) :=
  let place := match failure.place? with
    | none => []
    | some (path, line) => [("file", Json.ofString path), ("lineNumber", Json.ofNat line)]
  (failure.cause.details ++ place).mergeSort fun left right => decide (left.1 ≤ right.1)

def exitStatus (failure : Failure) : Nat :=
  failure.cause.exitStatus

end Failure

instance : Coe Cause Failure := ⟨fun cause => { cause }⟩

end Migration
