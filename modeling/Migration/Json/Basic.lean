import Migration.Text.Basic

namespace Migration

/-! JSON values and their written form.

A number is kept as it is written.  A string is kept as its text; a string that holds half of a
surrogate pair stands for no text and is kept as `none`.
-/

inductive Json where
  | null
  | bool (value : Bool)
  | number (literal : Text)
  | string (content : Option Text)
  | array (items : List Json)
  | object (members : List (Option Text × Json))

namespace Json

def text (content : Text) : Json :=
  .string (some content)

def ofString (content : String) : Json :=
  .text content.toList

def ofNat (value : Nat) : Json :=
  .number (Nat.toDigits 10 value)

def texts (contents : List Text) : Json :=
  .array (contents.map Json.text)

/-- An object whose members stand in the given order. -/
def record (members : List (String × Json)) : Json :=
  .object (members.map fun member => (some member.1.toList, member.2))

/-- Two hexadecimal digits. -/
def hexPair (code : Nat) : Text :=
  [Nat.digitChar (code / 16 % 16), Nat.digitChar (code % 16)]

/-- A character inside a written string. -/
def escape (c : Char) : Text :=
  if c = '"' then ['\\', '"']
  else if c = '\\' then ['\\', '\\']
  else if c = '\x08' then ['\\', 'b']
  else if c = '\x0c' then ['\\', 'f']
  else if c = '\n' then ['\\', 'n']
  else if c = '\r' then ['\\', 'r']
  else if c = '\t' then ['\\', 't']
  else if c.toNat < 0x20 then ['\\', 'u', '0', '0'] ++ hexPair c.toNat
  else [c]

/-- A written string.  Where there is no text, a lone half of a surrogate pair is written, which
reads as no text again. -/
def quote : Option Text → Text
  | some content => '"' :: content.flatMap escape ++ ['"']
  | none => "\"\\ud800\"".toList

/-- A line break followed by the indentation of the given depth. -/
def lineBreak (depth : Nat) : Text :=
  '\n' :: List.replicate (2 * depth) ' '

mutual

/-- The value written over several lines, two spaces deeper for each level. -/
def render (depth : Nat) : Json → Text
  | .null => "null".toList
  | .bool true => "true".toList
  | .bool false => "false".toList
  | .number literal => literal
  | .string content => quote content
  | .array [] => "[]".toList
  | .array (item :: rest) =>
      '[' :: lineBreak (depth + 1) ++ render (depth + 1) item ++ renderItems (depth + 1) rest ++
        lineBreak depth ++ [']']
  | .object [] => "\x7b\x7d".toList
  | .object ((key, value) :: rest) =>
      '\x7b' :: lineBreak (depth + 1) ++ quote key ++ [':', ' '] ++ render (depth + 1) value ++
        renderMembers (depth + 1) rest ++ lineBreak depth ++ ['\x7d']

/-- The further items of an array. -/
def renderItems (depth : Nat) : List Json → Text
  | [] => []
  | item :: rest => ',' :: lineBreak depth ++ render depth item ++ renderItems depth rest

/-- The further members of an object. -/
def renderMembers (depth : Nat) : List (Option Text × Json) → Text
  | [] => []
  | (key, value) :: rest =>
      ',' :: lineBreak depth ++ quote key ++ [':', ' '] ++ render depth value ++
        renderMembers depth rest

end

def pretty (value : Json) : Text :=
  render 0 value

end Json

end Migration
