import Migration.Pattern.Normal
import Migration.Text.Utf8
import Std.Data.HashMap

namespace Migration.Pattern

/-! How much room a pattern takes.

A pattern is run as an automaton that reads a text byte by byte, and a second one that reads it
backwards.  Either may take a certain room and not more.  Repetitions are written out, so counts
make a pattern large, and sets beyond ASCII need several states, of which some are shared.
-/

/-- The states of an automaton, and the bytes they take. -/
structure Footprint where
  states : Nat := 0
  bytes : Nat := 0
deriving DecidableEq, Repr

namespace Footprint

/-- The room that an automaton may take. -/
def limit : Nat := 10 * 1024 * 1024

def fits (footprint : Footprint) : Bool :=
  footprint.bytes ≤ limit

/-- Adds states, and bytes for what they hold. -/
def add (footprint : Footprint) (states : Nat) (contents : Nat) : Footprint :=
  { states := footprint.states + states, bytes := footprint.bytes + 32 * states + contents }

/-- Room for one step from a state to another on a range of bytes. -/
def stepSize : Nat := 8

/-- Room for one of several states that may follow without a byte. -/
def choiceSize : Nat := 4

/-- Adds the same parts over and over, until they no longer fit. -/
def addTimes (part : Footprint → Footprint) : (count : Nat) → Footprint → Footprint
  | 0, footprint => footprint
  | count + 1, footprint =>
      if footprint.fits then addTimes part count (part footprint) else footprint

end Footprint

inductive Direction where
  | forward
  | backward
deriving DecidableEq, Repr

/-! Sets of characters as sequences of byte ranges. -/

abbrev ByteRange := Nat × Nat

/-- Where a range of characters has to be cut so that the last `count` bytes take all their values
or one range of them: the last number of the first part. -/
def cutWithin (low high unit : Nat) : Option Nat :=
  if low / unit = high / unit then none
  else if low % unit ≠ 0 then some ((low / unit + 1) * unit - 1)
  else if high % unit ≠ unit - 1 then some (high / unit * unit - 1)
  else none

/-- Where a range of characters has to be cut so that both parts are easier to encode. -/
def cut? (low high : Nat) : Option Nat :=
  match [0x7F, 0x7FF, 0xFFFF].find? fun last => low ≤ last && last < high with
  | some last => some last
  | none =>
      if high ≤ 0x7F then none
      else (cutWithin low high 0x40 <|> cutWithin low high 0x1000) <|> cutWithin low high 0x40000

/-- The parts of a range of characters whose encodings are the sequences of one range for each
byte.  Numbers that no character has are left out. -/
def encodable : (fuel : Nat) → (low high : Nat) → List (Nat × Nat)
  | 0, _, _ => []
  | fuel + 1, low, high =>
      if high < low then []
      else if low < 0xE000 && 0xD7FF < high then
        encodable fuel low 0xD7FF ++ encodable fuel 0xE000 high
      else
        match cut? low high with
        | some last => encodable fuel low last ++ encodable fuel (last + 1) high
        | none => [(low, high)]

def encoding (code : Nat) : List Nat :=
  (String.utf8EncodeChar (Char.ofNat code)).map UInt8.toNat

/-- The sequences of byte ranges that encode the characters of a set, in ascending order. -/
def byteSequences (set : CharSet) : List (List ByteRange) :=
  set.ranges.flatMap fun (low, high) =>
    (encodable 32 low high).map fun (low, high) => (encoding low).zip (encoding high)

/-! States that can be shared are found again by a table with a fixed number of places.  A state
takes the place of the one that was there before it. -/

/-- Mixes a number into the place of a state. -/
def mix (place : UInt64) (number : Nat) : UInt64 :=
  (place ^^^ number.toUInt64) * 1099511628211

def unmixed : UInt64 := 14695981039346656037

/-- A table from places to the state that was put there last and its number. -/
abbrev Shared (State : Type) := Std.HashMap Nat (State × Nat)

/-- The number of a state: that of an equal one in its place, or else of a new one. -/
def share {State : Type} [BEq State] (place : Nat) (state : State) (contents : Nat)
    (table : Shared State) (footprint : Footprint) : Nat × Shared State × Footprint :=
  match table[place]? with
  | some (known, number) =>
      if known == state then (number, table, footprint)
      else
        (footprint.states, table.insert place (state, footprint.states), footprint.add 1 contents)
  | none =>
      (footprint.states, table.insert place (state, footprint.states), footprint.add 1 contents)

/-- A state that reads one byte of several ranges, each with the number of the next state. -/
abbrev Fork := List (ByteRange × Nat)

def forkPlaces : Nat := 10000

def Fork.place (fork : Fork) : Nat :=
  (fork.foldl (fun place ((low, high), next) => mix (mix (mix place low) high) next)
    unmixed).toNat % forkPlaces

mutual

/-- Adds the states that read one of the sequences and then go to state `last`; sequences have at
most `fuel` ranges.  Equal states are shared. -/
def addFork (last : Nat) : (fuel : Nat) → List (List ByteRange) → Shared Fork → Footprint →
    Nat × Shared Fork × Footprint
  | 0, _, table, footprint => (last, table, footprint)
  | fuel + 1, sequences, table, footprint =>
      let groups := sequences.splitBy fun one other => one.head? == other.head?
      let (fork, table, footprint) := addBranches last fuel groups [] table footprint
      share fork.place fork (Footprint.stepSize * fork.length) table footprint
termination_by fuel => (fuel, 0)

/-- The branches of a fork, one for each group of sequences with the same first range. -/
def addBranches (last : Nat) (fuel : Nat) : List (List (List ByteRange)) → Fork → Shared Fork →
    Footprint → Fork × Shared Fork × Footprint
  | [], fork, table, footprint => (fork.reverse, table, footprint)
  | alike :: rest, fork, table, footprint =>
      match alike with
      | [range] :: _ => addBranches last fuel rest ((range, last) :: fork) table footprint
      | (range :: _) :: _ =>
          let (next, table, footprint) := addFork last fuel (alike.map List.tail) table footprint
          addBranches last fuel rest ((range, next) :: fork) table footprint
      | _ => addBranches last fuel rest fork table footprint
termination_by groups => (fuel, groups.length + 1)

end

/-- A state that reads one byte of a range. -/
abbrev Link := Nat × ByteRange

def linkPlaces : Nat := 1000

def Link.place : Link → Nat
  | (next, (low, high)) => (mix (mix (mix unmixed next) low) high).toNat % linkPlaces

/-- Adds states that read a sequence backwards, the last of which leads to state `next`. -/
def addChain (next : Nat) (table : Shared Link) (footprint : Footprint) :
    List ByteRange → Shared Link × Footprint
  | [] => (table, footprint)
  | range :: rest =>
      let link : Link := (next, range)
      let (number, table, footprint) := share link.place link 0 table footprint
      addChain number table footprint rest

def addSet (direction : Direction) (set : CharSet) (footprint : Footprint) : Footprint :=
  let ranges := set.ranges
  if ranges.all fun (_, high) => high < 128 then
    footprint.add 2 (Footprint.stepSize * ranges.length)
  else
    match direction with
    | .forward => (addFork footprint.states 4 (byteSequences set) {} (footprint.add 1 0)).2.2
    | .backward =>
        let sequences := byteSequences set
        let last := footprint.states + 1
        (sequences.foldl
          (fun (table, footprint) sequence => addChain last table footprint sequence)
          (({} : Shared Link), footprint.add 2 (Footprint.choiceSize * sequences.length))).2

/-! Alternatives that are all literals are read together, byte by byte. -/

/-- Literals that are tried one after the other: those before the first one that has been read to
its end, those between it and the next, and so on. -/
def trials : (current : List (List UInt8)) → List (List UInt8) → List (List (List UInt8))
  | current, [] => [current.reverse]
  | current, [] :: rest => current.reverse :: trials [] rest
  | current, bytes :: rest => trials (bytes :: current) rest

/-- The first bytes of literals, ascending, each with what follows it in the literals. -/
def branches (literals : List (List UInt8)) : List (List (List UInt8)) :=
  let firsts := (literals.filterMap List.head?).mergeSort.eraseReps
  firsts.map fun first =>
    literals.filterMap fun bytes => match bytes with
      | byte :: rest => if byte = first then some rest else none
      | [] => none

/-- Adds the states that read one of the literals, which have at most `fuel` bytes. -/
def addLiterals : (fuel : Nat) → List (List UInt8) → Footprint → Footprint
  | 0, _, footprint => footprint
  | fuel + 1, literals, footprint =>
      let leading := literals.takeWhile List.isEmpty
      let literals := leading.take 1 ++ literals.drop leading.length
      let trials := trials [] literals
      let footprint := trials.foldl
        (fun footprint trial =>
          let branches := branches trial
          let footprint := branches.foldl
            (fun footprint branch =>
              if branch.all List.isEmpty then footprint else addLiterals fuel branch footprint)
            footprint
          match branches.length with
          | 0 => footprint
          | 1 => footprint.add 1 Footprint.choiceSize
          | count => footprint.add 1 (Footprint.stepSize * count + Footprint.choiceSize))
        footprint
      footprint.add 1 (Footprint.choiceSize * (trials.length - 1))

def literal? : Pattern → Option Text
  | .literal wanted => some wanted
  | _ => none

mutual

/-- How many characters a match has at least; none if there is no match. -/
def leastLength : Pattern → Option Nat
  | .empty => some 0
  | .literal wanted => some wanted.length
  | .one set => if set.bounds.isEmpty then none else some 1
  | .position _ => some 0
  | .sequence parts => leastOfAll parts
  | .either alternatives => leastOfAny alternatives
  | .repeated body least _ => (leastLength body).map (· * least)
  | .group _ body => leastLength body

def leastOfAll : List Pattern → Option Nat
  | [] => some 0
  | part :: rest =>
      match leastLength part, leastOfAll rest with
      | some first, some others => some (first + others)
      | _, _ => none

def leastOfAny : List Pattern → Option Nat
  | [] => none
  | [alternative] => leastLength alternative
  | alternative :: rest =>
      match leastLength alternative, leastOfAny rest with
      | some first, some others => some (min first others)
      | _, _ => none

end

mutual

/-- Whether matches can be only where `place` holds: at their start, or with `backward` at their
end. -/
def anchored (direction : Direction) (place : Place) : Pattern → Bool
  | .empty => false
  | .literal _ => false
  | .one _ => false
  | .position other => other = place
  | .sequence parts =>
      match direction with
      | .forward => startAnchored place parts
      | .backward => endAnchored place parts
  | .either alternatives => allAnchored direction place alternatives
  | .repeated body least _ => least ≠ 0 && anchored direction place body
  | .group _ body => anchored direction place body

def startAnchored (place : Place) : List Pattern → Bool
  | [] => false
  | part :: rest =>
      anchored .forward place part || (part.onlyEmpty && startAnchored place rest)

def endAnchored (place : Place) : List Pattern → Bool
  | [] => false
  | part :: rest =>
      (allOnlyEmpty rest && anchored .backward place part) || endAnchored place rest

def allAnchored (direction : Direction) (place : Place) : List Pattern → Bool
  | [] => true
  | alternative :: rest =>
      anchored direction place alternative && allAnchored direction place rest

end

mutual

/-- Adds the states of a pattern.  Groups are marked only when reading forward. -/
def addPattern (direction : Direction) : Pattern → Footprint → Footprint
  | .empty, footprint => footprint.add 1 0
  | .literal wanted, footprint => footprint.add (Utf8.encode wanted).length 0
  | .one set, footprint => addSet direction set footprint
  | .position _, footprint => footprint.add 1 0
  | .sequence parts, footprint => addAll direction parts footprint
  | .either alternatives, footprint =>
      match alternatives.mapM literal? with
      | some literals =>
          let literals := literals.map fun wanted => match direction with
            | .forward => Utf8.encode wanted
            | .backward => (Utf8.encode wanted).reverse
          let longest := literals.foldl (fun longest bytes => max longest bytes.length) 0
          addLiterals longest literals (footprint.add 1 0)
      | none => addAny direction 0 alternatives footprint
  | .repeated body least most, footprint =>
      let part := addPattern direction body
      let choices (footprint : Footprint) : Footprint :=
        footprint.add 1 (2 * Footprint.choiceSize)
      match most with
      | none =>
          if least = 0 then
            if (leastLength body).any (0 < ·) then part (choices footprint)
            else (choices (choices (part footprint))).add 1 0
          else choices (Footprint.addTimes part least footprint)
      | some most =>
          if least = 0 && most = 1 then (part (choices footprint)).add 1 0
          else if least = most then Footprint.addTimes part least footprint
          else
            let first :=
              if least = 0 then footprint.add 1 0 else Footprint.addTimes part least footprint
            Footprint.addTimes (fun footprint => part (choices footprint)) (most - least)
              (first.add 1 0)
  | .group _ body, footprint =>
      match direction with
      | .forward => (addPattern direction body (footprint.add 1 0)).add 1 0
      | .backward => addPattern direction body footprint

/-- Adds the states of parts, those of the part that is read first in front. -/
def addAll (direction : Direction) : List Pattern → Footprint → Footprint
  | [], footprint => footprint
  | part :: rest, footprint =>
      match direction with
      | .forward => addAll direction rest (addPattern direction part footprint)
      | .backward => addPattern direction part (addAll direction rest footprint)

/-- Adds the states of alternatives.  The states in which they part and meet again follow the first
two of them. -/
def addAny (direction : Direction) (index : Nat) : List Pattern → Footprint → Footprint
  | [], footprint => footprint
  | alternative :: rest, footprint =>
      let footprint := addPattern direction alternative footprint
      addAny direction (index + 1) rest
        (footprint.add (if index = 1 then 2 else 0) Footprint.choiceSize)

end

/-- The automaton that finds a pattern in a text.  Unless matches are only at the end of the text
where reading begins, it can begin anywhere. -/
def footprint (direction : Direction) (pattern : Pattern) : Footprint :=
  let fixed := match direction with
    | .forward => anchored direction .textStart pattern
    | .backward => anchored direction .textEnd pattern
  let start : Footprint :=
    if fixed then Footprint.add {} 1 0
    else Footprint.add {} 3 (Footprint.stepSize + 2 * Footprint.choiceSize)
  match direction with
  | .forward => (addPattern direction pattern (start.add 1 0)).add 2 0
  | .backward => (addPattern direction pattern start).add 1 0

/-- Whether both automata of a pattern take no more room than they may. -/
def isSmall (pattern : Pattern) : Bool :=
  (pattern.footprint .forward).fits && (pattern.footprint .backward).fits

end Migration.Pattern
