import Migration.Pattern.Footprint

namespace Migration

/-! Dependency coordinates, as the artifact table writes them.

An old coordinate is a group and a module, and whatever follows them is its version.  A new
coordinate must have a version, which is what follows its last colon.  White space around the
fields does not count.
-/

structure Coordinate where
  group : Text
  module : Text
  version : Option Text
deriving DecidableEq, Repr

namespace Coordinate

/-- The coordinate with colons between its fields. -/
def text (coordinate : Coordinate) : Text :=
  coordinate.group ++ ':' :: coordinate.module ++
    match coordinate.version with
    | some version => ':' :: version
    | none => []

/-- The length of group and module in bytes. -/
def size (coordinate : Coordinate) : Nat :=
  coordinate.group.str.utf8ByteSize + coordinate.module.str.utf8ByteSize

inductive Problem where
  | noModule (raw : Text)
  | noVersion (raw : Text)
  | incomplete (raw : Text)
  /-- The search for the coordinate in one of its forms takes too much room. -/
  | tooLarge (form : String)
deriving DecidableEq, Repr

/-- The room in bytes that the search for one form may take. -/
def roomLimit : Nat := Pattern.Footprint.limit

/-- Up to this size the search for a coordinate has room enough in either form. -/
def modestSize : Nat := 65536

def Problem.message : Problem → String
  | noModule raw => s!"'{raw.str}' is not a group:module coordinate"
  | noVersion raw => s!"'{raw.str}' has no version part"
  | incomplete raw => s!"'{raw.str}' is not a group:module:version coordinate"
  | tooLarge form =>
      s!"cannot build {form} matcher: Compiled regex exceeds size limit of {roomLimit} bytes."

/-- The fields between the colons, without the white space around them. -/
def trimmedFields (raw : Text) : List Text :=
  (Text.fields ':' raw).map Text.trim

def ofSource (raw : Text) : Except Problem Coordinate :=
  match trimmedFields (Text.trim raw) with
  | group :: module :: rest =>
      if group.isEmpty || module.isEmpty then .error (.noModule raw)
      else .ok {
        group, module
        version := if rest.isEmpty then none else some ([':'].intercalate rest) }
  | _ => .error (.noModule raw)

/-- A new coordinate, and the text before its version as the table has it. -/
def ofTarget (cell : Text) : Except Problem (Coordinate × Text) :=
  let raw := Text.trim cell
  match Text.splitLast ':' raw with
  | none => .error (.noVersion raw)
  | some (before, after) =>
      let artifact := Text.trim before
      let version := Text.trim after
      match trimmedFields artifact with
      | group :: module :: _ =>
          if group.isEmpty || module.isEmpty || version.isEmpty then .error (.incomplete raw)
          else .ok ({ group, module, version := some version }, artifact)
      | _ => .error (.incomplete raw)

end Coordinate

end Migration
