import Migration.Character.Age
import Migration.Character.Break

namespace Migration.Character

/-! Sets of characters by the names of their properties.

What a property is called does not depend on case, spaces, hyphens and underscores.
-/

/-- A name without what does not count in it: case, spaces, hyphens, underscores, characters
outside of ASCII, and `is` at its very start.  The comment property `isc` keeps its full name,
because what is left of it would be the name of a category. -/
def plainName (name : Text) : Text :=
  let plain (text : Text) : Text :=
    (text.filter fun c => c ≠ ' ' && c ≠ '_' && c ≠ '-' && c.toNat < 128).map Char.toLower
  match name with
  | first :: second :: rest =>
      if first.toLower = 'i' && second.toLower = 's' then
        if plain rest = ['c'] then ['i', 's', 'c'] else plain rest
      else plain name
  | _ => plain name

/-- The characters with the property, category or script of a name. -/
def named? (name : Text) : Option CharSet :=
  let plain := plainName name
  (trait? plain <|> category? plain) <|> script? plain

/-- The characters for which a property has a value. -/
def valued? (property value : Text) : Option CharSet :=
  let value := plainName value
  match (plainName property).str with
  | "gc" | "generalcategory" => category? value
  | "sc" | "script" => script? value
  | "scx" | "scriptextensions" => extension? value
  | "age" => age? value
  | "gcb" | "graphemeclusterbreak" => class? Cluster.classes value
  | "wb" | "wordbreak" => class? Word.classes value
  | "sb" | "sentencebreak" => class? Sentence.classes value
  | _ => none

end Migration.Character
