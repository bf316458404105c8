import Migration.Classifier
import Migration.Publication

namespace Migration

/-! Paths whose names are any bytes.

A path is cut at its slashes, whether or not its names can be read.  A name has a kind only if it is
a text, and a staging file has a text for its name whatever the file itself is called.
-/

/-- The text that is shown for bytes, with U+FFFD for every sequence that cannot be read. -/
def Utf8.lossy (bytes : List UInt8) : Text :=
  match _read : decode bytes with
  | .ok text => text
  | .error fault =>
      let readable :=
        match decode (bytes.take fault.index) with
        | .ok text => text
        | .error _ => []
      let behind :=
        match fault.width with
        | some width => bytes.drop (fault.index + max width 1)
        | none => []
      readable ++ '\uFFFD' :: lossy behind
termination_by bytes.length
decreasing_by
  cases bytes with
  | nil => cases _read
  | cons first rest =>
      split <;> simp only [List.length_drop, List.length_cons, List.length_nil] <;> omega

abbrev RawPath := List UInt8

namespace RawPath

/-- The bytes as characters, each one by itself.  What a path is cut at and what leads nowhere in it
are single bytes, so that it can be cut like a text of such characters. -/
def letters (bytes : List UInt8) : Text :=
  bytes.map fun byte => Char.ofNat byte.toNat

def bytesOf (letters : Text) : List UInt8 :=
  letters.map Char.toUInt8

/-- The path to the folder a path's file is in, and the file's name. -/
def split? (path : RawPath) : Option (RawPath × List UInt8) :=
  (Path.split? (letters path)).map fun (parent, name) => (bytesOf parent, bytesOf name)

def fileName? (path : RawPath) : Option (List UInt8) :=
  path.split?.map (·.2)

def join (base addition : RawPath) : RawPath :=
  bytesOf (Path.join (letters base) (letters addition))

/-- The staging file of a path: its sibling with the suffix added to the text of the name. -/
def stagingPath (path : RawPath) : Except Failure RawPath :=
  match path.split? with
  | some (parent, name) => .ok (join parent (Utf8.encode (Utf8.lossy name ++ stagingSuffix)))
  | none => .error (Cause.device s!"Invalid path: {(Utf8.lossy path).str}" (some "stage rewrite"))

/-- The kind of a file by its name, if that is a text. -/
def kindOf (classifier : Classifier) (path : RawPath) : Option FileKind := do
  let name ← path.fileName?
  let text ← (Utf8.decode name).toOption
  classifier.kindOfName text

end RawPath

end Migration
