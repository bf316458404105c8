import Migration.Text.Word

namespace Migration

/-! Patterns that a text can contain, and the conditions on positions they are made of. -/

/-- What the characters on both sides of a position can say about words. -/
inductive WordEdge where
  | boundary
  | inside
  | start
  | stop
  /-- No word before the position. -/
  | startHalf
  /-- No word behind the position. -/
  | stopHalf
deriving DecidableEq, Repr

/-- A condition on a position. -/
inductive Place where
  | textStart
  | textEnd
  /-- Line ends are line feeds; with `carriageReturn` also carriage returns, alone or before a line
  feed. -/
  | lineStart (carriageReturn : Bool)
  | lineEnd (carriageReturn : Bool)
  | word (edge : WordEdge) (unicode : Bool)
deriving DecidableEq, Repr

def isAsciiWord (c : Char) : Bool :=
  c.isAlphanum || c = '_'

/-- Whether the condition holds between two characters; at the ends of the text there is none. -/
def Place.holds (before after : Option Char) : Place → Bool
  | textStart => before.isNone
  | textEnd => after.isNone
  | lineStart carriageReturn =>
      before.isNone || before = some '\n' ||
        (carriageReturn && before = some '\r' && after ≠ some '\n')
  | lineEnd carriageReturn =>
      after.isNone || (carriageReturn && after = some '\r') ||
        (after = some '\n' && !(carriageReturn && before = some '\r'))
  | word edge unicode =>
      let isWord := if unicode then Text.isWord else isAsciiWord
      let left := before.any isWord
      let right := after.any isWord
      match edge with
      | .boundary => left != right
      | .inside => left == right
      | .start => !left && right
      | .stop => left && !right
      | .startHalf => !left
      | .stopHalf => !right

inductive Pattern where
  | empty
  | literal (text : Text)
  /-- One character out of a set. -/
  | one (set : CharSet)
  | position (place : Place)
  | sequence (parts : List Pattern)
  | either (alternatives : List Pattern)
  /-- At least `least` and, if there is a bound, at most `most` times in a row. -/
  | repeated (body : Pattern) (least : Nat) (most : Option Nat)
  /-- A numbered group, which matches what its body matches. -/
  | group (number : Nat) (body : Pattern)

end Migration
