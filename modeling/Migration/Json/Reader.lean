import Migration.Json.Basic

namespace Migration.Json

/-! Reading JSON.

The reader accepts the standard grammar and nothing else.  An escaped surrogate that is not part of
a pair is accepted as grammar, but the string around it has no text.
-/

def isSpace (c : Char) : Bool :=
  c = ' ' || c = '\n' || c = '\t' || c = '\r'

def skipSpace (source : Text) : Text :=
  source.dropWhile isSpace

def hexDigit? (c : Char) : Option Nat :=
  if '0' ≤ c && c ≤ '9' then some (c.toNat - '0'.toNat)
  else if 'a' ≤ c && c ≤ 'f' then some (c.toNat - 'a'.toNat + 10)
  else if 'A' ≤ c && c ≤ 'F' then some (c.toNat - 'A'.toNat + 10)
  else none

def hexCode? (a b c d : Char) : Option Nat := do
  let a ← hexDigit? a
  let b ← hexDigit? b
  let c ← hexDigit? c
  let d ← hexDigit? d
  return ((a * 16 + b) * 16 + c) * 16 + d

/-- What stands between the quotes of a string: characters, and numbered code units. -/
inductive StringPart where
  | char (c : Char)
  | code (unit : Nat)

/-- The character a short escape stands for. -/
def shortEscape? : Char → Option Char
  | '"' => some '"'
  | '\\' => some '\\'
  | '/' => some '/'
  | 'b' => some '\x08'
  | 'f' => some '\x0c'
  | 'n' => some '\n'
  | 'r' => some '\r'
  | 't' => some '\t'
  | _ => none

/-- The parts up to the closing quote, and what follows it. -/
def readParts : Text → Option (List StringPart × Text)
  | [] => none
  | '"' :: rest => some ([], rest)
  | '\\' :: 'u' :: a :: b :: c :: d :: rest => do
      let unit ← hexCode? a b c d
      let (parts, rest) ← readParts rest
      return (.code unit :: parts, rest)
  | '\\' :: c :: rest => do
      let meant ← shortEscape? c
      let (parts, rest) ← readParts rest
      return (.char meant :: parts, rest)
  | c :: rest =>
      if c = '\\' || c.toNat < 0x20 then none
      else do
        let (parts, rest) ← readParts rest
        return (.char c :: parts, rest)

def isLeading (unit : Nat) : Bool :=
  0xD800 ≤ unit && unit ≤ 0xDBFF

def isTrailing (unit : Nat) : Bool :=
  0xDC00 ≤ unit && unit ≤ 0xDFFF

/-- The text of a string, if each surrogate in it is part of a pair. -/
def assemble : List StringPart → Option Text
  | [] => some []
  | .char c :: rest => (assemble rest).map (c :: ·)
  | .code high :: .code low :: rest =>
      if isLeading high then
        if isTrailing low then
          (assemble rest).map
            (Char.ofNat (0x10000 + (high - 0xD800) * 0x400 + (low - 0xDC00)) :: ·)
        else none
      else if isTrailing high then none
      else (assemble (.code low :: rest)).map (Char.ofNat high :: ·)
  | .code unit :: rest =>
      if isLeading unit || isTrailing unit then none
      else (assemble rest).map (Char.ofNat unit :: ·)

/-- The string whose opening quote has been read. -/
def readString (source : Text) : Option (Option Text × Text) := do
  let (parts, rest) ← readParts source
  return (assemble parts, rest)

def isDigit (c : Char) : Bool :=
  '0' ≤ c && c ≤ '9'

/-- One or more digits. -/
def readDigits (source : Text) : Option (Text × Text) :=
  let digits := source.takeWhile isDigit
  if digits.isEmpty then none else some (digits, source.dropWhile isDigit)

/-- The digits before the point: zero alone, or digits that do not begin with zero. -/
def readWhole : Text → Option (Text × Text)
  | '0' :: c :: rest => if isDigit c then none else some (['0'], c :: rest)
  | source => readDigits source

def readFraction : Text → Option (Text × Text)
  | '.' :: rest => do
      let (digits, rest) ← readDigits rest
      return ('.' :: digits, rest)
  | source => some ([], source)

def readExponent : Text → Option (Text × Text)
  | c :: rest =>
      if c = 'e' || c = 'E' then
        let (sign, rest) : Text × Text := match rest with
          | '+' :: rest => (['+'], rest)
          | '-' :: rest => (['-'], rest)
          | rest => ([], rest)
        do
          let (digits, rest) ← readDigits rest
          return (c :: sign ++ digits, rest)
      else some ([], c :: rest)
  | [] => some ([], [])

def readNumber (source : Text) : Option (Text × Text) := do
  let (sign, rest) : Text × Text := match source with
    | '-' :: rest => (['-'], rest)
    | rest => ([], rest)
  let (whole, rest) ← readWhole rest
  let (fraction, rest) ← readFraction rest
  let (exponent, rest) ← readExponent rest
  return (sign ++ whole ++ fraction ++ exponent, rest)

mutual

/-- A value after optional white space, and what follows it.  Each step of the reading takes a unit
of `fuel`; a text needs no more of it than twice its length. -/
def readValue : Nat → Text → Option (Json × Text)
  | 0, _ => none
  | fuel + 1, source =>
      match skipSpace source with
      | [] => none
      | '"' :: rest => do
          let (content, rest) ← readString rest
          return (.string content, rest)
      | '[' :: rest =>
          match skipSpace rest with
          | ']' :: rest => some (.array [], rest)
          | _ => do
              let (items, rest) ← readItems fuel rest
              return (.array items, rest)
      | '\x7b' :: rest =>
          match skipSpace rest with
          | '\x7d' :: rest => some (.object [], rest)
          | _ => do
              let (members, rest) ← readMembers fuel rest
              return (.object members, rest)
      | 'n' :: 'u' :: 'l' :: 'l' :: rest => some (.null, rest)
      | 't' :: 'r' :: 'u' :: 'e' :: rest => some (.bool true, rest)
      | 'f' :: 'a' :: 'l' :: 's' :: 'e' :: rest => some (.bool false, rest)
      | source => do
          let (literal, rest) ← readNumber source
          return (.number literal, rest)

/-- The items of an array up to its closing bracket; there is at least one. -/
def readItems : Nat → Text → Option (List Json × Text)
  | 0, _ => none
  | fuel + 1, source => do
      let (item, rest) ← readValue fuel source
      match skipSpace rest with
      | ',' :: rest => do
          let (items, rest) ← readItems fuel rest
          return (item :: items, rest)
      | ']' :: rest => return ([item], rest)
      | _ => none

/-- The members of an object up to its closing brace; there is at least one. -/
def readMembers : Nat → Text → Option (List (Option Text × Json) × Text)
  | 0, _ => none
  | fuel + 1, source =>
      match skipSpace source with
      | '"' :: rest => do
          let (key, rest) ← readString rest
          match skipSpace rest with
          | ':' :: rest => do
              let (value, rest) ← readValue fuel rest
              match skipSpace rest with
              | ',' :: rest => do
                  let (members, rest) ← readMembers fuel rest
                  return ((key, value) :: members, rest)
              | '\x7d' :: rest => return ([(key, value)], rest)
              | _ => none
          | _ => none
      | _ => none

end

/-- The value that the whole text is, with nothing but white space around it. -/
def read? (source : Text) : Option Json := do
  let (value, rest) ← readValue (2 * source.length + 2) source
  if (skipSpace rest).isEmpty then some value else none

end Migration.Json
