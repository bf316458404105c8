import Migration.Pattern.Basic

namespace Migration.Pattern

/-! Patterns in their plainest form.

Parts that match nothing but the empty text are dropped or written once, literals next to each
other are one literal, alternatives of single characters are a set, and what all alternatives begin
with stands in front of them.  The form matches the same texts and is what a pattern's size is
measured on.
-/

mutual

/-- Whether the pattern has matches, all of them empty. -/
def onlyEmpty : Pattern → Bool
  | .empty => true
  | .literal wanted => wanted.isEmpty
  | .one _ => false
  | .position _ => true
  | .sequence parts => allOnlyEmpty parts
  | .either alternatives => allOnlyEmpty alternatives
  | .repeated body _ most => most.isSome && onlyEmpty body
  | .group _ body => onlyEmpty body

def allOnlyEmpty : List Pattern → Bool
  | [] => true
  | part :: rest => onlyEmpty part && allOnlyEmpty rest

end

mutual

/-- Whether two patterns are written the same way. -/
def same : Pattern → Pattern → Bool
  | .empty, .empty => true
  | .literal wanted, .literal other => wanted = other
  | .one set, .one other => set = other
  | .position place, .position other => place = other
  | .sequence parts, .sequence others => allSame parts others
  | .either alternatives, .either others => allSame alternatives others
  | .repeated body least most, .repeated other otherLeast otherMost =>
      least = otherLeast && most = otherMost && same body other
  | .group number body, .group otherNumber other => number = otherNumber && same body other
  | _, _ => false

def allSame : List Pattern → List Pattern → Bool
  | [], [] => true
  | part :: rest, other :: others => same part other && allSame rest others
  | _, _ => false

end

/-- One character out of a set.  A set of one character is a literal. -/
def ofSet (set : CharSet) : Pattern :=
  match set.only? with
  | some c => .literal [c]
  | none => .one set

/-- Puts a part in front of others. -/
def prepend (part : Pattern) (later : List Pattern) : List Pattern :=
  match part, later with
  | .literal wanted, .literal next :: rest => .literal (wanted ++ next) :: rest
  | part, later => part :: later

/-- The parts one after the other. -/
def inSequence (parts : List Pattern) : Pattern :=
  let flat := parts.flatMap fun part => match part with
    | .empty => []
    | .sequence inner => inner
    | part => [part]
  match flat.foldr prepend [] with
  | [] => .empty
  | [part] => part
  | parts => .sequence parts

/-- The body repeated.  What matches only the empty text is needed at most once. -/
def times (body : Pattern) (least : Nat) (most : Option Nat) : Pattern :=
  let (least, most) :=
    if body.onlyEmpty then (min least 1, some (min (most.getD 1) 1)) else (least, most)
  if most = some 0 then .empty
  else if least = 1 && most = some 1 then body
  else .repeated body least most

/-- How many parts two sequences have in common at their start. -/
def commonLength : List Pattern → List Pattern → Nat
  | part :: rest, other :: others => if same part other then commonLength rest others + 1 else 0
  | _, _ => 0

def parts? : Pattern → Option (List Pattern)
  | .sequence parts => some parts
  | _ => none

def single? : Pattern → Option Nat
  | .literal [c] => some c.toNat
  | _ => none

def set? : Pattern → Option CharSet
  | .one set => some set
  | _ => none

/-- One of the alternatives.  What all of them begin with is taken out, which may be possible again
for what remains, `fuel` times at most. -/
def anyOfWithin : (fuel : Nat) → List Pattern → Pattern
  | fuel, alternatives =>
      let flat := alternatives.flatMap fun alternative => match alternative with
        | .either inner => inner
        | alternative => [alternative]
      match flat with
      | [alternative] => alternative
      | flat =>
          match flat.mapM single?, flat.mapM set?, flat.mapM parts?, fuel with
          | some codes, _, _, _ => ofSet (.ofCodes codes)
          | none, some sets, _, _ => ofSet (.unions sets)
          | none, none, some (first :: rest), fuel + 1 =>
              let shared := rest.foldl (fun shared parts => min shared (commonLength first parts))
                first.length
              if shared = 0 then .either flat
              else
                let remaining := (first :: rest).map fun parts => inSequence (parts.drop shared)
                inSequence (first.take shared ++ [anyOfWithin fuel remaining])
          | none, none, _, _ => .either flat

/-- Patterns are not nested deeper than this. -/
def nestingLimit : Nat := 250

/-- One of the alternatives. -/
def anyOf (alternatives : List Pattern) : Pattern :=
  anyOfWithin nestingLimit alternatives

end Migration.Pattern
