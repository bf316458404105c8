import Migration.Artifact.Declaration
import Migration.Character.Trait
import Migration.Pattern.Basic

namespace Migration.Declaration

/-! The forms of a declaration as patterns.

Groups stand around what a migration writes anew: group and module, and the version token.  How
much room a search takes is a matter of these patterns.
-/

/-- The set that is written `[^"'}\s]`. -/
def tokenCharacters : CharSet :=
  (CharSet.unions [.single '"', .single '\x27', .single '\x7d', Character.whiteSpace]).complement

/-- The set that is written `[^"'}\s,)]`. -/
def bareTokenCharacters : CharSet :=
  (CharSet.unions [.single '"', .single '\x27', .single '\x7d', Character.whiteSpace, .single ',',
    .single ')']).complement

/-- The set that is written `[A-Za-z_]`. -/
def identifierStarts : CharSet :=
  CharSet.unions [.range 0x41 0x5A, .range 0x61 0x7A, .single '_']

/-- The pattern that is written `[A-Za-z_]\w*\.`. -/
def property : Pattern :=
  .sequence [.one identifierStarts, .repeated (.one Text.wordCharacters) 0 none, .literal ['.']]

/-- The pattern that is written `(?:[A-Za-z_]\w*\.)*`. -/
def properties : Pattern :=
  .repeated property 0 none

/-- The pattern of a token, which is a numbered group. -/
def token (number : Nat) (set : CharSet) : Pattern :=
  .group number (.repeated (.one set) 1 none)

/-- The pattern of a mark that may be missing. -/
def optional (mark : Char) : Pattern :=
  .repeated (.literal [mark]) 0 (some 1)

/-- The pattern of a token in braces, with `close` directly behind them. -/
def braces (number : Nat) (close : Text) : List Pattern :=
  [.literal ['\x7b'], properties, token number tokenCharacters, .literal ('\x7d' :: close)]

/-- The pattern of a version's value.  Quotes and braces must be balanced, so that there is an
alternative for each combination. -/
def value : Pattern :=
  .either [
    .sequence (.literal ['"'] :: optional '$' :: braces 5 ['"']),
    .sequence [.literal ['"'], optional '$', properties, token 6 tokenCharacters, .literal ['"']],
    .sequence (.literal ['\x27'] :: optional '$' :: braces 7 ['\x27']),
    .sequence [.literal ['\x27'], optional '$', properties, token 8 tokenCharacters,
      .literal ['\x27']],
    .sequence (optional '$' :: braces 9 []),
    .sequence [optional '$', properties, token 10 bareTokenCharacters]]

/-- The groups of a value, one for each alternative. -/
def versionGroups : List Nat := [5, 6, 7, 8, 9, 10]

/-- The pattern that is written `\s*`. -/
def spaces : Pattern :=
  .repeated (.one Character.whiteSpace) 0 none

/-- The pattern of a literal in matching quotes, with a group for either quote. -/
def quoted (double single : Nat) (literal : Text) : Pattern :=
  .either [.sequence [.literal ['"'], .group double (.literal literal), .literal ['"']],
    .sequence [.literal ['\x27'], .group single (.literal literal), .literal ['\x27']]]

/-- The pattern of the coordinate form. -/
def coordinatePattern (group module : Text) : Pattern :=
  .sequence [.group 1 (.literal (group ++ ':' :: module)), .literal [':', '$'], optional '\x7b',
    properties, token 2 tokenCharacters, optional '\x7d']

/-- The pattern of the keyword form. -/
def keywordPattern (group module : Text) : Pattern :=
  .sequence [.literal "group".toList, spaces, .literal [':'], spaces, quoted 1 2 group,
    spaces, .literal [','], spaces,
    .literal "name".toList, spaces, .literal [':'], spaces, quoted 3 4 module,
    spaces, .literal [','], spaces,
    .literal "version".toList, spaces, .literal [':'], spaces, value]

end Migration.Declaration
