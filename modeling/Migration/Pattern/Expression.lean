import Migration.Pattern.Basic

namespace Migration.Pattern

/-! Patterns as they are written.

An expression keeps what the source says: flags where they stand, sets with their operations, and
repetitions of repetitions.  How deep an expression is nested is decided on this form.
-/

inductive Flag where
  | ignoreCase
  | multiLine
  | dotAll
  /-- Which of a repetition and its reluctant form is meant; both match the same texts. -/
  | swapGreed
  | carriageReturn
  | unicode
  | verbose
deriving DecidableEq, Repr

/-- Flags that are turned on or off, in the order in which they are written. -/
abbrev FlagChange := List (Flag × Bool)

/-- A single character.  Two digits behind `\x` can also mean a byte. -/
structure Letter where
  char : Char
  isByte : Bool := false
deriving DecidableEq, Repr

inductive BasicSet where
  | digit
  | space
  | word
deriving DecidableEq, Repr

/-- How a property of characters is asked for. -/
inductive PropertyQuery where
  | named (name : Text)
  /-- The property has the value, or with `different` any other. -/
  | valued (property value : Text) (different : Bool)
deriving DecidableEq, Repr

inductive SetOperation where
  | intersection
  | difference
  | symmetricDifference
deriving DecidableEq, Repr

inductive SetExpression where
  | letter (letter : Letter)
  | range (low high : Letter)
  /-- A set of ASCII characters that is written by its name between colons. -/
  | ascii (members : CharSet) (negated : Bool)
  | basic (kind : BasicSet) (negated : Bool)
  | property (query : PropertyQuery) (negated : Bool)
  | brackets (body : SetExpression) (negated : Bool)
  | union (items : List SetExpression)
  | operation (operation : SetOperation) (left right : SetExpression)

inductive Anchor where
  | lineStart
  | lineEnd
  | textStart
  | textEnd
  | word (edge : WordEdge)
deriving DecidableEq, Repr

inductive Expression where
  | letter (letter : Letter)
  | any
  | anchor (anchor : Anchor)
  | set (set : SetExpression)
  | flags (change : FlagChange)
  /-- A group without a number is not counted among the groups. -/
  | group (number : Option Nat) (change : FlagChange) (body : Expression)
  | repeated (body : Expression) (least : Nat) (most : Option Nat)
  | sequence (items : List Expression)
  | either (alternatives : List Expression)

mutual

/-- How deep a set is nested.  Several items next to each other are one level. -/
def SetExpression.depth : SetExpression → Nat
  | .letter _ => 0
  | .range _ _ => 0
  | .ascii _ _ => 0
  | .basic _ _ => 0
  | .property _ _ => 0
  | .brackets body _ => body.depth + 1
  | .union items =>
      SetExpression.deepest 0 items + if items.length < 2 then 0 else 1
  | .operation _ left right => max left.depth right.depth + 1

def SetExpression.deepest (depth : Nat) : List SetExpression → Nat
  | [] => depth
  | item :: rest => SetExpression.deepest (max depth item.depth) rest

end

mutual

/-- How deep an expression is nested.  Groups, repetitions, sequences, alternatives and bracketed
sets are one level each; a sequence of one item is that item. -/
def Expression.depth : Expression → Nat
  | .letter _ => 0
  | .any => 0
  | .anchor _ => 0
  | .set members => members.depth
  | .flags _ => 0
  | .group _ _ body => body.depth + 1
  | .repeated body _ _ => body.depth + 1
  | .sequence items => Expression.deepest 0 items + if items.length < 2 then 0 else 1
  | .either alternatives => Expression.deepest 0 alternatives + 1

def Expression.deepest (depth : Nat) : List Expression → Nat
  | [] => depth
  | item :: rest => Expression.deepest (max depth item.depth) rest

end

end Migration.Pattern
