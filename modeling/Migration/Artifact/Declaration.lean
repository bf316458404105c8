import Migration.Text.Word
import Migration.Text.Basic

namespace Migration

/-! Dependency declarations on the lines of a build file.

A declaration names a group, a module and a version, where the version is a placeholder.  It comes
in two forms:

  * the coordinate form, `group:module:$version` with optional braces around the placeholder;
  * the keyword form, `group: 'group', name: 'module', version: "$version"`.

A placeholder may be reached through properties, as in `rootProject.ext.version`; only its last
part is the version token.  Finding the declarations of a line cuts it into parts: slots, which a
migration fills anew, and the text around them, which it keeps.
-/

/-- What a migration writes anew. -/
inductive Slot where
  /-- Group and module with the colon between them. -/
  | coordinate
  | group
  | module
  | version
deriving DecidableEq, Repr

inductive Part where
  | kept (text : Text)
  | slot (role : Slot) (old : Text)
deriving DecidableEq, Repr

namespace Part

/-- What stands on the line. -/
def old : Part → Text
  | kept text => text
  | slot _ text => text

/-- What stands there once the slots are filled. -/
def filled (fill : Slot → Text) : Part → Text
  | kept text => text
  | slot role _ => fill role

def slot? : Part → Option (Slot × Text)
  | kept _ => none
  | slot role old => some (role, old)

end Part

namespace Declaration

/-- Characters of a version token inside quotes or braces. -/
def isTokenChar (c : Char) : Bool :=
  !(c = '"' || c = '\x27' || c = '\x7d' || Text.isBlank c)

/-- Characters of a version token that stands on its own; it also ends at the next argument. -/
def isBareTokenChar (c : Char) : Bool :=
  isTokenChar c && !(c = ',' || c = ')')

def isIdentifierStart (c : Char) : Bool :=
  ('a' ≤ c && c ≤ 'z') || ('A' ≤ c && c ≤ 'Z') || c = '_'

def isIdentifier : Text → Bool
  | [] => false
  | c :: rest => isIdentifierStart c && rest.all Text.isWord

/-- Splits the fields of a placeholder, cut at its dots, into the properties on the way to it and
the token.  Every identifier in front is a property as long as something is left for the token. -/
def splitProperties : List Text → List Text × List Text
  | [] => ([], [])
  | field :: rest =>
      if isIdentifier field && !rest.isEmpty && rest != [[]] then
        (field :: (splitProperties rest).1, (splitProperties rest).2)
      else ([], field :: rest)

/-- The property access in front of a token, and the token. -/
def splitAccess (placeholder : Text) : Text × Text :=
  let split := splitProperties (Text.fields '.' placeholder)
  (split.1.flatMap (· ++ ['.']), ['.'].intercalate split.2)

/-- The text without `mark` in front of it, if it begins with it and has more to it. -/
def dropLeading (mark : Char) : Text → Text × Text
  | c :: next :: rest => if c = mark then ([c], next :: rest) else ([], c :: next :: rest)
  | text => ([], text)

/-- A placeholder cut into what is written in front of its token, the token, and what is written
behind it. -/
structure Placeholder where
  opening : Text
  token : Text
  closing : Text
deriving DecidableEq, Repr

/-- A placeholder made of the run of characters at the start of `text` that satisfy `allowed`, with
one optional `mark` in front. -/
def Placeholder.ofRun (allowed : Char → Bool) (mark : Char) (text : Text) :
    Option (Placeholder × Text) :=
  match text.takeWhile allowed with
  | [] => none
  | run =>
      let marked := dropLeading mark run
      let access := splitAccess marked.2
      some (⟨marked.1 ++ access.1, access.2, []⟩, text.dropWhile allowed)

/-- A placeholder in braces, with one optional dollar sign in front. -/
def Placeholder.braced (text : Text) : Option (Placeholder × Text) :=
  let dollar := match text with
    | '$' :: _ => ['$']
    | _ => []
  match text.drop dollar.length with
  | '\x7b' :: inner =>
      match inner.takeWhile isTokenChar, inner.dropWhile isTokenChar with
      | [], _ => none
      | run, '\x7d' :: rest =>
          let access := splitAccess run
          some (⟨dollar ++ '\x7b' :: access.1, access.2, ['\x7d']⟩, rest)
      | _, _ => none
  | _ => none

/-- A placeholder between two quotes. -/
def Placeholder.between (quote : Char) (inner : Option (Placeholder × Text)) :
    Option Placeholder :=
  match inner with
  | some (found, c :: _) =>
      if c = quote then
        some ⟨quote :: found.opening, found.token, found.closing ++ [quote]⟩
      else none
  | _ => none

/-- The version of the keyword form: in double or single quotes or bare, each time in braces or
not. -/
def Placeholder.value (text : Text) : Option Placeholder :=
  match text with
  | [] => none
  | c :: inner =>
      if c = '"' || c = '\x27' then
        (between c (braced inner)).or (between c (ofRun isTokenChar '$' inner))
      else
        ((braced text).or (ofRun isBareTokenChar '$' text)).map (·.1)

/-- The coordinate form at the start of `text`. -/
def coordinateAt (group module text : Text) : Option (List Part) := do
  let coordinate := group ++ ':' :: module
  let rest ← (coordinate ++ [':', '$']).isPrefixOf? text
  let (found, rest) ← Placeholder.ofRun isTokenChar '\x7b' rest
  let closing := match rest with
    | '\x7d' :: _ => ['\x7d']
    | _ => []
  return [.slot .coordinate coordinate, .kept ([':', '$'] ++ found.opening),
    .slot .version found.token, .kept closing]

/-- A separator with the white space around it. -/
def separator (mark : Char) (text : Text) : Option (Text × Text) :=
  match text.dropWhile Text.isBlank with
  | c :: rest =>
      if c = mark then
        some (text.takeWhile Text.isBlank ++ c :: rest.takeWhile Text.isBlank,
          rest.dropWhile Text.isBlank)
      else none
  | [] => none

/-- A literal between two equal quotes: the quote and what follows. -/
def quotedLiteral (literal : Text) : Text → Option (Char × Text)
  | [] => none
  | quote :: rest =>
      if quote = '"' || quote = '\x27' then
        ((literal ++ [quote]).isPrefixOf? rest).map fun rest => (quote, rest)
      else none

/-- A keyword with the colon behind it. -/
def keyword (word : Text) (text : Text) : Option (Text × Text) := do
  let rest ← word.isPrefixOf? text
  let (colon, rest) ← separator ':' rest
  return (word ++ colon, rest)

/-- The keyword form at the start of `text`. -/
def keywordAt (group module text : Text) : Option (List Part) := do
  let (groupKey, rest) ← keyword "group".toList text
  let (groupQuote, rest) ← quotedLiteral group rest
  let (firstComma, rest) ← separator ',' rest
  let (nameKey, rest) ← keyword "name".toList rest
  let (moduleQuote, rest) ← quotedLiteral module rest
  let (secondComma, rest) ← separator ',' rest
  let (versionKey, rest) ← keyword "version".toList rest
  let found ← Placeholder.value rest
  return [.kept (groupKey ++ [groupQuote]), .slot .group group,
    .kept (groupQuote :: firstComma ++ nameKey ++ [moduleQuote]), .slot .module module,
    .kept (moduleQuote :: secondComma ++ versionKey ++ found.opening),
    .slot .version found.token, .kept found.closing]

/-- Cuts a line into the parts of the declarations on it, found from left to right without overlap,
and the characters between them.  The first `skip` characters belong to a declaration already
found. -/
def partsFrom (declarationAt : Text → Option (List Part)) : (skip : Nat) → Text → List Part
  | _, [] => []
  | skip + 1, _ :: rest => partsFrom declarationAt skip rest
  | 0, c :: rest =>
      match declarationAt (c :: rest) with
      | some parts =>
          parts ++ partsFrom declarationAt ((parts.flatMap Part.old).length - 1) rest
      | none => .kept [c] :: partsFrom declarationAt 0 rest

def coordinateParts (group module line : Text) : List Part :=
  partsFrom (coordinateAt group module) 0 line

def keywordParts (group module line : Text) : List Part :=
  partsFrom (keywordAt group module) 0 line

/-- The parts of a line if it holds a declaration of the group's module: in coordinate form, or
failing that in keyword form. -/
def parts? (group module line : Text) : Option (List Part) :=
  let coordinate := coordinateParts group module line
  let keyword := keywordParts group module line
  if coordinate.any (·.slot?.isSome) then some coordinate
  else if keyword.any (·.slot?.isSome) then some keyword
  else none

/-- The version token of the first declaration. -/
def firstVersion? (parts : List Part) : Option Text :=
  parts.findSome? fun part =>
    match part with
    | .slot .version token => some token
    | _ => none

end Declaration

end Migration
