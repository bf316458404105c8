import Migration.Text.Case
import Migration.Text.Word

namespace Migration

/-! Names of version variables.

The version of a module is kept in a variable named after it: the words of the module's name in
camel case, followed by `Version`.
-/

/-- The words of a name: what stands between its runs of other characters.  The first or the last
word is empty if the name begins or ends with such a run. -/
def wordsOf (name : Text) : List Text :=
  (name.foldr
    (fun c (rest : List Text × Bool) =>
      if Text.isWord c then
        match rest.1 with
        | [] => ([[c]], false)
        | first :: others => ((c :: first) :: others, false)
      else if rest.2 then rest
      else ([] :: rest.1, true))
    ([[]], false)).1

/-- The first word in lower case and the others capitalized. -/
def camelCase : List Text → Text
  | [] => []
  | first :: rest => Text.lower first ++ rest.flatMap Text.capitalize

def versionVariable (module : Text) : Text :=
  camelCase (wordsOf module) ++ "Version".toList

end Migration
