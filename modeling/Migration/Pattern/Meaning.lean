import Migration.Character.Property
import Migration.Pattern.Expression
import Migration.Pattern.Normal
import Migration.Pattern.Problem

namespace Migration.Pattern

/-! What an expression matches, under the flags that hold where it stands. -/

structure Flags where
  ignoreCase : Bool := false
  multiLine : Bool := false
  dotAll : Bool := false
  carriageReturn : Bool := false
  unicode : Bool := true

def Flags.set (flags : Flags) : Flag × Bool → Flags
  | (.ignoreCase, on) => { flags with ignoreCase := on }
  | (.multiLine, on) => { flags with multiLine := on }
  | (.dotAll, on) => { flags with dotAll := on }
  | (.carriageReturn, on) => { flags with carriageReturn := on }
  | (.unicode, on) => { flags with unicode := on }
  | (.swapGreed, _) => flags
  | (.verbose, _) => flags

def Flags.change (flags : Flags) (change : FlagChange) : Flags :=
  change.foldl Flags.set flags

/-- A set closed under a change of case, if case is ignored. -/
def Flags.fold (flags : Flags) (set : CharSet) : CharSet :=
  if flags.ignoreCase then
    if flags.unicode then Character.folded set else Character.foldedAscii set
  else set

/-- A set that may be the complement.  Without Unicode, a complement would hold bytes that are no
characters. -/
def Flags.complementIf (flags : Flags) (negated : Bool) (set : CharSet) : Except Problem CharSet :=
  if negated then
    if flags.unicode then .ok set.complement else .error .notText
  else .ok set

/-- The character that a letter of a set stands for. -/
def Flags.member (flags : Flags) (letter : Letter) : Except Problem Nat :=
  if !flags.unicode && 128 ≤ letter.char.toNat then .error .notText else .ok letter.char.toNat

def asciiSpaces : CharSet := ⟨[0x09, 0x0E, 0x20, 0x21]⟩

def asciiDigits : CharSet := .range 0x30 0x39

def asciiWords : CharSet := ⟨[0x30, 0x3A, 0x41, 0x5B, 0x5F, 0x60, 0x61, 0x7B]⟩

def BasicSet.members (flags : Flags) : BasicSet → CharSet
  | digit => if flags.unicode then Character.decimalDigits else asciiDigits
  | space => if flags.unicode then Character.whiteSpace else asciiSpaces
  | word => if flags.unicode then Text.wordCharacters else asciiWords

def PropertyQuery.members? : PropertyQuery → Option CharSet
  | named name => Character.named? name
  | valued property value _ => Character.valued? property value

/-- Whether the query asks for a value other than the one it names. -/
def PropertyQuery.isNegated : PropertyQuery → Bool
  | named _ => false
  | valued _ _ different => different

def SetOperation.apply : SetOperation → CharSet → CharSet → CharSet
  | intersection => CharSet.intersection
  | difference => CharSet.difference
  | symmetricDifference => CharSet.symmetricDifference

mutual

def SetExpression.members (flags : Flags) : SetExpression → Except Problem CharSet
  | .letter member => do
      let code ← flags.member member
      return .range code code
  | .range low high => do return .range (← flags.member low) (← flags.member high)
  | .ascii members negated => flags.complementIf negated (flags.fold members)
  | .basic kind negated => flags.complementIf negated (kind.members flags)
  | .property query negated =>
      if !flags.unicode then .error .notText
      else
        match query.members? with
        | some members => flags.complementIf (negated != query.isNegated) (flags.fold members)
        | none => .error .unknownProperty
  | .brackets body negated => do
      flags.complementIf negated (flags.fold (← body.members flags))
  | .union items => SetExpression.allMembers flags .empty items
  | .operation kind left right => do
      let left ← left.members flags
      let right ← right.members flags
      return kind.apply (flags.fold left) (flags.fold right)

/-- The members of all items, and those found before. -/
def SetExpression.allMembers (flags : Flags) (found : CharSet) :
    List SetExpression → Except Problem CharSet
  | [] => .ok found
  | item :: rest => do
      SetExpression.allMembers flags (found.union (← item.members flags)) rest

end

/-- The pattern of a single character.  A byte beyond ASCII is not a character. -/
def Flags.letter (flags : Flags) (letter : Letter) : Except Problem Pattern :=
  if !flags.unicode && letter.isByte && 128 ≤ letter.char.toNat then .error .notText
  else .ok (ofSet (flags.fold (.single letter.char)))

/-- Any character, but for line ends unless the flags include them. -/
def Flags.any (flags : Flags) : Except Problem Pattern :=
  if !flags.unicode then .error .notText
  else if flags.dotAll then .ok (.one .all)
  else if flags.carriageReturn then .ok (.one (CharSet.ofCodes [0x0A, 0x0D]).complement)
  else .ok (.one (CharSet.range 0x0A 0x0A).complement)

def Flags.place (flags : Flags) : Anchor → Place
  | .lineStart => if flags.multiLine then .lineStart flags.carriageReturn else .textStart
  | .lineEnd => if flags.multiLine then .lineEnd flags.carriageReturn else .textEnd
  | .textStart => .textStart
  | .textEnd => .textEnd
  | .word edge => .word edge flags.unicode

mutual

/-- The pattern of an expression, and the flags that hold behind it. -/
def Expression.meaning (flags : Flags) : Expression → Except Problem (Pattern × Flags)
  | .letter single => do return (← flags.letter single, flags)
  | .any => do return (← flags.any, flags)
  | .anchor condition => .ok (.position (flags.place condition), flags)
  | .set choice => do return (ofSet (← choice.members flags), flags)
  | .flags change => .ok (.empty, flags.change change)
  | .group number change body => do
      let (pattern, _) ← body.meaning (flags.change change)
      match number with
      | some number => return (.group number pattern, flags)
      | none => return (pattern, flags)
  | .repeated body least most => do
      let (pattern, flags) ← body.meaning flags
      return (times pattern least most, flags)
  | .sequence items => do
      let (parts, flags) ← Expression.meanings flags [] items
      return (inSequence parts, flags)
  | .either alternatives => do
      let (alternatives, flags) ← Expression.meanings flags [] alternatives
      return (anyOf alternatives, flags)

/-- The patterns of expressions, each under the flags that the one before it leaves; `done` are
those of earlier ones, the last one first. -/
def Expression.meanings (flags : Flags) (done : List Pattern) :
    List Expression → Except Problem (List Pattern × Flags)
  | [] => .ok (done.reverse, flags)
  | item :: rest => do
      let (pattern, flags) ← item.meaning flags
      Expression.meanings flags (pattern :: done) rest

end

end Migration.Pattern
