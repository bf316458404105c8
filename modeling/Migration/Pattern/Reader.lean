import Migration.Character.Trait
import Migration.Pattern.Expression
import Migration.Pattern.Normal
import Migration.Pattern.Problem

namespace Migration.Pattern

/-! Reading expressions.

The notation is the usual one for regular expressions, without backreferences and without looking
around: `.`, sets in brackets, `*`, `+`, `?` and counts in braces, alternatives, groups, anchors and
word boundaries, escapes, and flags.  In verbose patterns white space and comments may stand almost
everywhere, also inside of counts, numbers and names.
-/

/-- The source without the comments and white space at its start; `comment` says whether a comment
has begun before it. -/
def skipBlanks (comment : Bool) : Text → Text
  | [] => []
  | c :: rest =>
      if comment then skipBlanks (c ≠ '\n') rest
      else if c = '#' then skipBlanks true rest
      else if Text.isBlank c then skipBlanks false rest
      else c :: rest

/-- The source from the next character that counts. -/
def skip (verbose : Bool) (source : Text) : Text :=
  if verbose then skipBlanks false source else source

/-- The characters up to the first one that is not accepted, and the source from there; `blanks`
says whether white space and comments are passed over first, and `comment` whether a comment has
begun before. -/
def takeFrom (verbose : Bool) (accept : Char → Bool) (blanks comment : Bool) :
    Text → Text × Text
  | [] => ([], [])
  | c :: rest =>
      if comment then takeFrom verbose accept true (c ≠ '\n') rest
      else if blanks && c = '#' then takeFrom verbose accept true true rest
      else if blanks && Text.isBlank c then takeFrom verbose accept true false rest
      else if accept c then
        let (more, behind) := takeFrom verbose accept verbose false rest
        (c :: more, behind)
      else ([], c :: rest)

/-- The characters up to the first one that is not accepted, and the source from there. -/
def takeWhile (verbose : Bool) (accept : Char → Bool) (source : Text) : Text × Text :=
  takeFrom verbose accept false false source

/-! Escape sequences. -/

/-- What an escape sequence stands for. -/
inductive Escape where
  | letter (letter : Letter)
  | set (set : SetExpression)
  | anchor (anchor : Anchor)

def isPunctuationMark (c : Char) : Bool :=
  c.toNat < 128 && !c.isAlphanum && c ≠ '<' && c ≠ '>'

def hexValue (c : Char) : Option Nat :=
  if '0' ≤ c && c ≤ '9' then some (c.toNat - '0'.toNat)
  else if 'a' ≤ c && c ≤ 'f' then some (c.toNat - 'a'.toNat + 10)
  else if 'A' ≤ c && c ≤ 'F' then some (c.toNat - 'A'.toNat + 10)
  else none

/-- The character with a number written in hexadecimal digits. -/
def hexChar (digits : Text) : Except Problem Char :=
  match digits.mapM hexValue with
  | none => .error .badEscape
  | some values =>
      let code := values.foldl (fun total value => 16 * total + value) 0
      if !values.isEmpty && code.isValidChar then .ok (Char.ofNat code) else .error .badEscape

/-- A fixed number of digits. -/
def takeDigits (verbose : Bool) : (count : Nat) → Text → Except Problem (Text × Text)
  | 0, source => .ok ([], source)
  | count + 1, c :: rest => do
      let (digits, rest) ← takeDigits verbose count (skip verbose rest)
      return (c :: digits, rest)
  | _ + 1, [] => .error .badEscape

/-- A number behind `\x`, `\u` or `\U`: a fixed count of digits, or digits in braces. -/
def readHex (verbose : Bool) (count : Nat) (source : Text) : Except Problem (Letter × Text) :=
  match skip verbose source with
  | '\x7b' :: rest =>
      match takeWhile verbose (· ≠ '\x7d') (skip verbose rest) with
      | (digits, _ :: rest) => do return (⟨← hexChar digits, false⟩, skip verbose rest)
      | (_, []) => .error .badEscape
  | source => do
      let (digits, rest) ← takeDigits verbose count source
      return (⟨← hexChar digits, count = 2⟩, rest)

/-- What stands before and behind the first occurrence of `mark`, which is not empty. -/
def splitFirst? (mark : Text) : Text → Option (Text × Text)
  | [] => none
  | c :: rest =>
      match mark.isPrefixOf? (c :: rest) with
      | some behind => some ([], behind)
      | none => (splitFirst? mark rest).map fun (before, behind) => (c :: before, behind)

/-- What is asked for in braces: a name, or a property with the value it is to have or not to
have. -/
def propertyQuery (name : Text) : PropertyQuery :=
  match splitFirst? ['!', '='] name, splitFirst? [':'] name, splitFirst? ['='] name with
  | some (property, value), _, _ => .valued property value true
  | none, some (property, value), _ => .valued property value false
  | none, none, some (property, value) => .valued property value false
  | none, none, none => .named name

/-- A property behind `\p`: one letter, or a name in braces. -/
def readProperty (verbose : Bool) (source : Text) : Except Problem (PropertyQuery × Text) :=
  match skip verbose source with
  | [] => .error .badEscape
  | '\x7b' :: rest =>
      match takeWhile verbose (· ≠ '\x7d') (skip verbose rest) with
      | (name, _ :: rest) => .ok (propertyQuery name, rest)
      | (_, []) => .error .badEscape
  | c :: rest =>
      if c = '\\' then .error .badEscape else .ok (.named [c], skip verbose rest)

/-- The names of boundaries that stand in braces behind `\b`. -/
def namedEdge? (name : Text) : Option WordEdge :=
  match name.str with
  | "start" => some .start
  | "end" => some .stop
  | "start-half" => some .startHalf
  | "end-half" => some .stopHalf
  | _ => none

def isBoundaryLetter (c : Char) : Bool :=
  c.isAlpha || c = '-'

/-- A word boundary, whose backslash and letter have been read.  Braces that do not hold a name are
left to be read as a count. -/
def readBoundary (verbose : Bool) (source : Text) : Except Problem (WordEdge × Text) :=
  match source with
  | '\x7b' :: rest =>
      match takeWhile verbose isBoundaryLetter (skip verbose rest) with
      | ([], _) => .ok (.boundary, source)
      | (name, '\x7d' :: rest) =>
          match namedEdge? name with
          | some edge => .ok (edge, rest)
          | none => .error .badEscape
      | _ => .error .badEscape
  | _ => .ok (.boundary, source)

def basicSet? : Char → Option BasicSet
  | 'd' => some .digit
  | 's' => some .space
  | 'w' => some .word
  | _ => none

/-- An escape sequence, whose backslash has been read. -/
def readEscape (verbose : Bool) : Text → Except Problem (Escape × Text)
  | [] => .error .badEscape
  | c :: rest =>
      let letter (c : Char) : Except Problem (Escape × Text) := .ok (.letter ⟨c, false⟩, rest)
      let anchor (anchor : Anchor) : Except Problem (Escape × Text) := .ok (.anchor anchor, rest)
      if c = 'x' then (readHex verbose 2 rest).map fun (c, rest) => (.letter c, rest)
      else if c = 'u' then (readHex verbose 4 rest).map fun (c, rest) => (.letter c, rest)
      else if c = 'U' then (readHex verbose 8 rest).map fun (c, rest) => (.letter c, rest)
      else if c = 'p' || c = 'P' then
        (readProperty verbose rest).map fun (query, rest) =>
          (.set (.property query (c = 'P')), rest)
      else if let some kind := basicSet? c then .ok (.set (.basic kind false), rest)
      else if let some kind := basicSet? c.toLower then .ok (.set (.basic kind true), rest)
      else if isPunctuationMark c then letter c
      else if c = 'a' then letter '\x07'
      else if c = 'f' then letter '\x0c'
      else if c = 't' then letter '\t'
      else if c = 'n' then letter '\n'
      else if c = 'r' then letter '\r'
      else if c = 'v' then letter '\x0b'
      else if c = 'A' then anchor .textStart
      else if c = 'z' then anchor .textEnd
      else if c = 'b' then
        (readBoundary verbose rest).map fun (edge, rest) => (.anchor (.word edge), rest)
      else if c = 'B' then anchor (.word .inside)
      else if c = '<' then anchor (.word .start)
      else if c = '>' then anchor (.word .stop)
      else .error .badEscape

/-! Sets in brackets. -/

/-- The sets that are written `[:name:]`. -/
def asciiSet? (name : Text) : Option CharSet :=
  match name.str with
  | "alnum" => some ⟨[0x30, 0x3A, 0x41, 0x5B, 0x61, 0x7B]⟩
  | "alpha" => some ⟨[0x41, 0x5B, 0x61, 0x7B]⟩
  | "ascii" => some ⟨[0x00, 0x80]⟩
  | "blank" => some ⟨[0x09, 0x0A, 0x20, 0x21]⟩
  | "cntrl" => some ⟨[0x00, 0x20, 0x7F, 0x80]⟩
  | "digit" => some ⟨[0x30, 0x3A]⟩
  | "graph" => some ⟨[0x21, 0x7F]⟩
  | "lower" => some ⟨[0x61, 0x7B]⟩
  | "print" => some ⟨[0x20, 0x7F]⟩
  | "punct" => some ⟨[0x21, 0x30, 0x3A, 0x41, 0x5B, 0x61, 0x7B, 0x7F]⟩
  | "space" => some ⟨[0x09, 0x0E, 0x20, 0x21]⟩
  | "upper" => some ⟨[0x41, 0x5B]⟩
  | "word" => some ⟨[0x30, 0x3A, 0x41, 0x5B, 0x5F, 0x60, 0x61, 0x7B]⟩
  | "xdigit" => some ⟨[0x30, 0x3A, 0x41, 0x47, 0x61, 0x67]⟩
  | _ => none

/-- A set written `[:name:]`, whose opening bracket has been read. -/
def readAsciiSet? (source : Text) : Option (SetExpression × Text) :=
  match source with
  | ':' :: rest =>
      let negated := rest.head? = some '^'
      let rest := if negated then rest.tail else rest
      match rest.dropWhile (· ≠ ':') with
      | ':' :: ']' :: behind =>
          (asciiSet? (rest.takeWhile (· ≠ ':'))).map fun members =>
            (.ascii members negated, behind)
      | _ => none
  | _ => none

/-- A single character of a set, or a set named by an escape sequence. -/
def readSetItem (verbose : Bool) : Text → Except Problem (Escape × Text)
  | '\\' :: rest => readEscape verbose rest
  | c :: rest => .ok (.letter ⟨c, false⟩, rest)
  | [] => .error .badSet

/-- The character behind the next one and the white space that follows it.  Only the mark of a
comment is passed over, not its text. -/
def peek? (verbose : Bool) (source : Text) : Option Char :=
  if verbose then
    match source.tail.dropWhile Text.isBlank with
    | '#' :: rest => (rest.dropWhile Text.isBlank).head?
    | rest => rest.head?
  else source.tail.head?

/-- An item of a set, or the range that it begins. -/
def readSetRange (verbose : Bool) (source : Text) : Except Problem (SetExpression × Text) := do
  let (low, rest) ← readSetItem verbose source
  let rest := skip verbose rest
  let next := peek? verbose rest
  match rest with
  | [] => .error .badSet
  | '-' :: behind =>
      if next = some ']' || next = some '-' then
        match low with
        | .letter letter => return (.letter letter, rest)
        | .set set => return (set, rest)
        | .anchor _ => .error .badSet
      else
        match low, ← readSetItem verbose (skip verbose behind) with
        | .letter low, (.letter high, rest) =>
            if high.char < low.char then .error .badSet else return (.range low high, rest)
        | _, _ => .error .badSet
  | _ =>
      match low with
      | .letter letter => return (.letter letter, rest)
      | .set set => return (set, rest)
      | .anchor _ => .error .badSet

/-- Hyphens at the start of a set are its members, and so is a closing bracket without hyphens
before it. -/
def leadingItems (verbose : Bool) (source : Text) : List SetExpression × Text :=
  match takeWhile verbose (· = '-') source with
  | ([], ']' :: rest) => ([.letter ⟨']', false⟩], skip verbose rest)
  | (hyphens, rest) => (hyphens.map fun c => .letter ⟨c, false⟩, rest)

/-- Where the reading of a set stands. -/
structure SetReading where
  /-- What stands in front of the current operand. -/
  left : Option (SetOperation × SetExpression) := none
  /-- Items of the current operand, the last one first. -/
  items : List SetExpression := []

namespace SetReading

def push (reading : SetReading) (item : SetExpression) : SetReading :=
  { reading with items := item :: reading.items }

/-- What has been read so far. -/
def body (reading : SetReading) : SetExpression :=
  match reading.left with
  | none => .union reading.items.reverse
  | some (operation, left) => .operation operation left (.union reading.items.reverse)

def operate (reading : SetReading) (operation : SetOperation) : SetReading :=
  { left := some (operation, reading.body), items := [] }

end SetReading

mutual

/-- A set, whose opening bracket has been read. -/
def readSet (verbose : Bool) :
    (fuel depth : Nat) → Text → Except Problem (SetExpression × Text)
  | 0, _, _ => .error .badSet
  | fuel + 1, depth, source => do
      if nestingLimit ≤ depth then .error .tooDeep
      let source := skip verbose source
      let negated := source.head? = some '^'
      let source := if negated then skip verbose source.tail else source
      let (first, rest) := leadingItems verbose source
      let (body, rest) ← readSetItems verbose fuel (depth + 1) { items := first.reverse } rest
      return (.brackets body negated, rest)

/-- The items up to the closing bracket. -/
def readSetItems (verbose : Bool) :
    (fuel depth : Nat) → SetReading → Text → Except Problem (SetExpression × Text)
  | 0, _, _, _ => .error .badSet
  | fuel + 1, depth, reading, source =>
      match skip verbose source with
      | [] => .error .badSet
      | ']' :: rest => .ok (reading.body, rest)
      | '&' :: '&' :: rest => readSetItems verbose fuel depth (reading.operate .intersection) rest
      | '-' :: '-' :: rest => readSetItems verbose fuel depth (reading.operate .difference) rest
      | '~' :: '~' :: rest =>
          readSetItems verbose fuel depth (reading.operate .symmetricDifference) rest
      | '[' :: rest =>
          match readAsciiSet? rest with
          | some (item, rest) => readSetItems verbose fuel depth (reading.push item) rest
          | none => do
              let (item, rest) ← readSet verbose fuel depth rest
              readSetItems verbose fuel depth (reading.push item) rest
      | source => do
          let (item, rest) ← readSetRange verbose source
          readSetItems verbose fuel depth (reading.push item) rest

end

/-! Repetitions. -/

/-- Counts have 32 bits. -/
def countLimit : Nat := 0x100000000

/-- A decimal number with white space around it. -/
def readCount (verbose : Bool) (source : Text) : Except Problem (Nat × Text) :=
  let (digits, rest) := takeWhile verbose Char.isDigit (source.dropWhile Text.isBlank)
  let number := digits.foldl (fun total digit => 10 * total + (digit.toNat - '0'.toNat)) 0
  if digits.isEmpty || countLimit ≤ number then .error .badCount
  else .ok (number, (takeWhile verbose Text.isBlank rest).2)

/-- The bounds of a repetition, whose opening brace has been read. -/
def readBounds (verbose : Bool) (source : Text) :
    Except Problem ((Nat × Option Nat) × Text) := do
  let (least, rest) ← readCount verbose (skip verbose source)
  match rest with
  | '\x7d' :: rest => return ((least, some least), rest)
  | ',' :: rest =>
      match skip verbose rest with
      | '\x7d' :: rest => return ((least, none), rest)
      | rest =>
          match ← readCount verbose rest with
          | (most, '\x7d' :: rest) =>
              if most < least then .error .badCount else return ((least, some most), rest)
          | _ => .error .badCount
  | _ => .error .badCount

/-- The source without a question mark that makes a repetition reluctant. -/
def skipReluctant (source : Text) : Text :=
  match source with
  | '?' :: rest => rest
  | source => source

/-! Groups. -/

def flag? : Char → Option Flag
  | 'i' => some .ignoreCase
  | 'm' => some .multiLine
  | 's' => some .dotAll
  | 'U' => some .swapGreed
  | 'R' => some .carriageReturn
  | 'u' => some .unicode
  | 'x' => some .verbose
  | _ => none

/-- Flags up to the character that ends them, a colon or a closing parenthesis; `seen` is what has
been read, the last character first. -/
def readFlags (on : Bool) (seen : Text) (change : FlagChange) :
    Text → Except Problem (FlagChange × Text)
  | [] => .error .badFlags
  | c :: rest =>
      if c = ':' || c = ')' then
        if seen.head? = some '-' then .error .badFlags else .ok (change.reverse, c :: rest)
      else if seen.contains c then .error .badFlags
      else if c = '-' then readFlags false (c :: seen) change rest
      else
        match flag? c with
        | some flag => readFlags on (c :: seen) ((flag, on) :: change) rest
        | none => .error .badFlags

/-- Letters and digits that Unicode 17 has added. -/
def laterLetters : CharSet := ⟨[
  0x88F, 0x890, 0xC5C, 0xC5D, 0xCDC, 0xCDD, 0xA7CE, 0xA7D0, 0xA7D2, 0xA7D3, 0xA7D4, 0xA7D5, 0xA7F1,
  0xA7F2, 0x10940, 0x1095A, 0x10EC5, 0x10EC8, 0x10EFA, 0x10EFC, 0x11B60, 0x11B68, 0x11DB0, 0x11DDC,
  0x16EA0, 0x16EB9, 0x16EBB, 0x16ED4, 0x16FF2, 0x16FF7, 0x187F8, 0x18800, 0x18D09, 0x18D1F, 0x18D80,
  0x18DF3, 0x1E6C0, 0x1E6DF, 0x1E6E0, 0x1E6F6, 0x1E6FE, 0x1E700, 0x2B73A, 0x2B740, 0x2CEA2, 0x2CEAE,
  0x323B0, 0x3347A]⟩

def laterDigits : CharSet := .range 0x11DE0 0x11DE9

def isGroupNameStart (c : Char) : Bool :=
  c = '_' || Character.alphabetic.contains c || laterLetters.contains c

def isGroupNameChar (c : Char) : Bool :=
  isGroupNameStart c || c = '.' || c = '[' || c = ']' || Character.numerals.contains c ||
    laterDigits.contains c

/-- The name of a group, whose opening angle bracket has been read. -/
def readGroupName (names : List Text) (source : Text) : Except Problem (Text × Text) :=
  let name := source.takeWhile (· ≠ '>')
  match name, source.dropWhile (· ≠ '>') with
  | c :: others, _ :: rest =>
      if isGroupNameStart c && others.all isGroupNameChar && !names.contains name then
        .ok (name, rest)
      else .error .badGroup
  | _, _ => .error .badGroup

/-- Where the reading of a group stands. -/
structure Reading where
  verbose : Bool := false
  /-- Names of groups read so far. -/
  names : List Text := []
  /-- How many numbered groups have been read. -/
  groups : Nat := 0
  depth : Nat := 0
  /-- Earlier alternatives, the last one first. -/
  alternatives : List Expression := []
  /-- Items of the current alternative, the last one first. -/
  items : List Expression := []

namespace Reading

def push (reading : Reading) (item : Expression) : Reading :=
  { reading with items := item :: reading.items }

def nextAlternative (reading : Reading) : Reading :=
  { reading with
    alternatives := .sequence reading.items.reverse :: reading.alternatives
    items := [] }

def expression (reading : Reading) : Expression :=
  if reading.alternatives.isEmpty then .sequence reading.items.reverse
  else .either reading.nextAlternative.alternatives.reverse

/-- The last item, repeated.  Flags cannot be repeated. -/
def repeatLast (reading : Reading) (least : Nat) (most : Option Nat) : Except Problem Reading :=
  match reading.items with
  | [] => .error .nothingToRepeat
  | .flags _ :: _ => .error .nothingToRepeat
  | body :: others => .ok { reading with items := .repeated body least most :: others }

end Reading

/-- Whether white space is passed over, once a change of flags has been made. -/
def verboseAfter (verbose : Bool) (change : FlagChange) : Bool :=
  (change.lookup .verbose).getD verbose

namespace Reading

/-- Reads an item that is not a group, or what stands between items; sets have at most `fuel`
items and brackets. -/
def readItem (reading : Reading) (fuel : Nat) : Text → Except Problem (Reading × Text)
  | '|' :: rest => .ok (reading.nextAlternative, rest)
  | '*' :: rest => do return (← reading.repeatLast 0 none, skipReluctant rest)
  | '+' :: rest => do return (← reading.repeatLast 1 none, skipReluctant rest)
  | '?' :: rest => do return (← reading.repeatLast 0 (some 1), skipReluctant rest)
  | '\x7b' :: rest => do
      let ((least, most), rest) ← readBounds reading.verbose rest
      return (← reading.repeatLast least most, skipReluctant (skip reading.verbose rest))
  | '.' :: rest => .ok (reading.push .any, rest)
  | '^' :: rest => .ok (reading.push (.anchor .lineStart), rest)
  | '$' :: rest => .ok (reading.push (.anchor .lineEnd), rest)
  | '[' :: rest => do
      let (set, rest) ← readSet reading.verbose fuel 0 rest
      return (reading.push (.set set), rest)
  | '\\' :: rest => do
      match ← readEscape reading.verbose rest with
      | (.letter letter, rest) => return (reading.push (.letter letter), rest)
      | (.set set, rest) => return (reading.push (.set set), rest)
      | (.anchor anchor, rest) => return (reading.push (.anchor anchor), rest)
  | c :: rest => .ok (reading.push (.letter ⟨c, false⟩), rest)
  | [] => .ok (reading, [])

/-- The reading of a group that is opened, with what it adds to the names and numbers. -/
def inside (reading : Reading) (change : FlagChange) : Reading :=
  { verbose := verboseAfter reading.verbose change, names := reading.names,
    groups := reading.groups, depth := reading.depth + 1 }

/-- A numbered group, whose name, if it has one, has been read. -/
def insideNumbered (reading : Reading) (name : Option Text) : Reading :=
  { reading.inside [] with
    names := name.toList ++ reading.names
    groups := reading.groups + 1 }

/-- The reading behind a group. -/
def behind (reading : Reading) (group : Expression) (inner : Reading) : Reading :=
  { reading with names := inner.names, groups := inner.groups, items := group :: reading.items }

end Reading

/-- What an opening parenthesis begins. -/
inductive Opening where
  | flags (change : FlagChange)
  | group (number : Option Nat) (change : FlagChange) (inner : Reading)

/-- Reads what follows an opening parenthesis up to where the group's body begins. -/
def readOpening (reading : Reading) (source : Text) : Except Problem (Opening × Text) :=
  let numbered (name : Option Text) : Opening :=
    .group (some (reading.groups + 1)) [] (reading.insideNumbered name)
  match skip reading.verbose source with
  | '?' :: '=' :: _ => .error .badGroup
  | '?' :: '!' :: _ => .error .badGroup
  | '?' :: '<' :: '=' :: _ => .error .badGroup
  | '?' :: '<' :: '!' :: _ => .error .badGroup
  | '?' :: 'P' :: '<' :: rest => do
      let (name, rest) ← readGroupName reading.names rest
      return (numbered (some name), rest)
  | '?' :: '<' :: rest => do
      let (name, rest) ← readGroupName reading.names rest
      return (numbered (some name), rest)
  | '?' :: rest => do
      match ← readFlags true [] [] rest with
      | (change, ':' :: rest) => return (.group none change (reading.inside change), rest)
      | ([], _) => .error .badFlags
      | (change, rest) => return (.flags change, rest.tail)
  | rest => .ok (numbered none, rest)

/-- Reads the items of a group up to its end: the group's expression, what has been read, and what
follows. -/
def readItems : (fuel : Nat) → Reading → Text → Except Problem (Expression × Reading × Text)
  | 0, _, _ => .error .tooLarge
  | fuel + 1, reading, source => do
      match skip reading.verbose source with
      | [] =>
          if reading.depth = 0 then return (reading.expression, reading, [])
          else .error .unclosedGroup
      | ')' :: rest =>
          if reading.depth = 0 then .error .unopenedGroup
          else return (reading.expression, reading, rest)
      | '(' :: rest =>
          match ← readOpening reading rest with
          | (.flags change, rest) =>
              readItems fuel
                { reading.push (.flags change) with
                  verbose := verboseAfter reading.verbose change }
                rest
          | (.group number change inner, rest) =>
              if nestingLimit < inner.depth then .error .tooDeep
              else
                let (body, inner, rest) ← readItems fuel inner rest
                readItems fuel (reading.behind (.group number change body) inner) rest
      | rest =>
          let (reading, rest) ← reading.readItem fuel rest
          readItems fuel reading rest

/-- The expression that a text denotes. -/
def Expression.read (source : Text) : Except Problem Expression := do
  let (expression, _, _) ← readItems (2 * source.length + 2) {} source
  return expression

end Migration.Pattern
