import Migration.Text.Basic

namespace Migration

/-! Sets of characters given by the boundaries of their ranges.

The list reads "in from the first number, out from the second, in from the third" and so on; a set
with an odd number of boundaries goes on to the last character there is.  Membership walks the list
once and stops at the first boundary beyond the character.
-/

structure CharSet where
  bounds : List Nat
deriving DecidableEq, Repr

namespace CharSet

/-- The first number behind all characters. -/
def beyond : Nat := 0x110000

/-- Whether `code` lies between an odd and the following even boundary. -/
def covers : List Nat → Nat → Bool
  | [], _ => false
  | [first], code => first ≤ code
  | first :: past :: rest, code =>
      if code < first then false
      else if code < past then true
      else covers rest code

def contains (set : CharSet) (c : Char) : Bool :=
  covers set.bounds c.toNat

def empty : CharSet := ⟨[]⟩

def all : CharSet := ⟨[0]⟩

/-- The characters from number `low` to number `high`, both included. -/
def range (low high : Nat) : CharSet :=
  if high + 1 < beyond then ⟨[low, high + 1]⟩ else ⟨[low]⟩

def single (c : Char) : CharSet :=
  range c.toNat c.toNat

/-- Walks the boundaries of two sets side by side; `inLeft` and `inRight` say what has been entered
and not left again.  The result has a boundary wherever `choose` changes its mind. -/
def sweep (choose : Bool → Bool → Bool) :
    (fuel : Nat) → (inLeft inRight : Bool) → (left right : List Nat) → List Nat
  | 0, _, _, _, _ => []
  | fuel + 1, inLeft, inRight, left, right =>
      let cross (bound : Nat) (nowLeft nowRight : Bool) (left right : List Nat) : List Nat :=
        let later := sweep choose fuel nowLeft nowRight left right
        if choose inLeft inRight = choose nowLeft nowRight then later else bound :: later
      match left, right with
      | [], [] => []
      | first :: left, [] => cross first (!inLeft) inRight left []
      | [], first :: right => cross first inLeft (!inRight) [] right
      | first :: left, second :: right =>
          if first < second then cross first (!inLeft) inRight left (second :: right)
          else if second < first then cross second inLeft (!inRight) (first :: left) right
          else cross first (!inLeft) (!inRight) left right

/-- The set of the characters that `choose` takes, given whether they are in the two sets.  It may
not take what is in neither. -/
def combine (choose : Bool → Bool → Bool) (left right : CharSet) : CharSet :=
  ⟨sweep choose (left.bounds.length + right.bounds.length) false false left.bounds right.bounds⟩

def union : CharSet → CharSet → CharSet :=
  combine (· || ·)

def intersection : CharSet → CharSet → CharSet :=
  combine (· && ·)

def difference : CharSet → CharSet → CharSet :=
  combine fun inLeft inRight => inLeft && !inRight

def symmetricDifference : CharSet → CharSet → CharSet :=
  combine (· != ·)

/-- Numbers that no character has lie between the last character before them and the first one
behind them.  A range of nothing but these numbers takes in the two characters beside it. -/
def widenGaps : List Nat → List Nat
  | first :: past :: rest =>
      if first = 0xD800 && past = 0xE000 then 0xD7FF :: 0xE001 :: widenGaps rest
      else first :: past :: widenGaps rest
  | bounds => bounds

/-- All other characters. -/
def complement (set : CharSet) : CharSet :=
  match set.bounds with
  | 0 :: rest => ⟨widenGaps rest⟩
  | bounds => ⟨widenGaps (0 :: bounds)⟩

def unions (sets : List CharSet) : CharSet :=
  sets.foldl union empty

/-- The set with the given boundaries, where a boundary that comes twice in a row is none. -/
def ofBounds (bounds : List Nat) : CharSet :=
  ⟨bounds.foldr
    (fun bound later =>
      match later with
      | next :: rest => if bound = next then rest else bound :: later
      | [] => if bound < beyond then [bound] else [])
    []⟩

/-- The characters with the given numbers. -/
def ofCodes (codes : List Nat) : CharSet :=
  ofBounds ((codes.mergeSort.eraseReps).flatMap fun code => [code, code + 1])

/-- Numbers written in decimal, with spaces between them. -/
def numbers (line : String) : List Nat :=
  (Text.fields ' ' line.toList).map fun digits =>
    digits.foldl (fun total digit => 10 * total + (digit.toNat - '0'.toNat)) 0

/-- The boundaries behind `last`, given the distance of each from the one before it. -/
def boundsAfter (last : Nat) : List Nat → List Nat
  | [] => []
  | distance :: rest => (last + distance) :: boundsAfter (last + distance) rest

/-- A set written as the distance of each boundary from the one before it. -/
def ofDistances (lines : List String) : CharSet :=
  ⟨boundsAfter 0 (lines.flatMap numbers)⟩

/-- The ranges of the set, each with its first and last number. -/
def rangesFrom : List Nat → List (Nat × Nat)
  | [] => []
  | [first] => [(first, beyond - 1)]
  | first :: past :: rest => (first, past - 1) :: rangesFrom rest

def ranges (set : CharSet) : List (Nat × Nat) :=
  rangesFrom set.bounds

/-- The only character of the set, if it has exactly one. -/
def only? (set : CharSet) : Option Char :=
  match set.bounds with
  | [first, past] => if past = first + 1 then some (Char.ofNat first) else none
  | [first] => if first + 1 = beyond then some (Char.ofNat first) else none
  | _ => none

end CharSet

end Migration
