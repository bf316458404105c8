import Migration.Text.Basic

namespace Migration.Path

/-! Paths as they are written.

Names are separated by slashes.  Repeated slashes, slashes at the end and inner single dots do not
matter for where a path leads, but a path is reported the way it was put together.
-/

/-- Whether a field between slashes adds nothing to a path. -/
def isTrivial (field : Text) : Bool :=
  field = [] || field = ['.']

def trimFields (fields : List Text) : List Text :=
  (fields.reverse.dropWhile isTrivial).reverse

def isAbsolute (path : Text) : Bool :=
  path.head? = some '/'

/-- The path `base/addition`; an absolute addition replaces the base. -/
def join (base addition : Text) : Text :=
  if isAbsolute addition then addition
  else if base = [] then addition
  else if base.getLast? = some '/' then base ++ addition
  else base ++ '/' :: addition

/-- The path to the folder a path's file is in, and the file's name.  Paths that end in `..` and
paths without any name have no file name. -/
def split? (path : Text) : Option (Text × Text) :=
  match Text.fields '/' path with
  | [] => none
  | head :: tail =>
      match (trimFields tail).getLast? with
      | some name =>
          if name = ['.', '.'] then none
          else
            let parents := trimFields (trimFields tail).dropLast
            if parents = [] && head = [] then some (['/'], name)
            else some (['/'].intercalate (head :: parents), name)
      | none => if isTrivial head || head = ['.', '.'] then none else some ([], head)

def fileName? (path : Text) : Option Text :=
  (split? path).map (·.2)

/-- The steps to take one after the other.  A slash at the end asks for a folder, like a dot. -/
def steps (path : Text) : List Text :=
  let fields := Text.fields '/' path
  fields.dropLast.filter (· ≠ []) ++
    match fields.getLast? with
    | none => []
    | some [] => [['.']]
    | some last => [last]

/-- The path with a leading tilde replaced by the home folder. -/
def expandHome (home : Option Text) (path : Text) : Text :=
  match home, path with
  | some home, ['~'] => home
  | some home, '~' :: '/' :: rest => home ++ '/' :: rest
  | _, path => path

end Migration.Path
