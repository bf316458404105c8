import Migration.Text.Utf8

namespace Migration.Glob

/-! File name globs.

A glob is matched against the bytes of a file name: `*` stands for any bytes, `?` for one byte,
`[a-z]` for one byte of a set and `{a,b}` for one of several globs, a backslash takes the byte
behind it literally, and each `!` in front of the glob turns the answer around.

Matching scans both sides once.  There is one place to return to, the last star, which then takes
one byte more.  A group in braces tries its options in turn and keeps the one that reaches
furthest; it is only entered while there are bytes left to match.  Inside a group the last star is
that of the option.  A file name holds no slash, so a slash in the glob matches nothing.
-/

/-- Where to return to: the star, and the byte to go on from.  Position zero means nowhere. -/
structure Retry where
  glob : Nat := 0
  name : Nat := 0

structure State where
  glob : Nat := 0
  name : Nat := 0
  retry : Retry := {}

structure Matcher where
  state : State
  /-- States in which the open groups were entered, the innermost first. -/
  groups : List State := []
  /-- The furthest position that an option of the open groups has reached. -/
  furthest : Nat := 0

inductive Verdict where
  | matched
  | unmatched
  /-- The glob turned out to be no glob. -/
  | malformed
deriving DecidableEq, Repr

inductive Progress where
  | going (matcher : Matcher)
  | ended (verdict : Verdict)

def byte (c : Char) : UInt8 :=
  c.toUInt8

/-- The byte that an escaped byte stands for. -/
def unescape (escaped : UInt8) : UInt8 :=
  if escaped = byte 'b' then 8
  else if escaped = byte 'n' then 10
  else if escaped = byte 'r' then 13
  else if escaped = byte 't' then 9
  else escaped

/-- A literal byte, possibly escaped, and what follows it. -/
def takeLiteral : List UInt8 → Option (UInt8 × List UInt8)
  | [] => none
  | first :: rest =>
      if first = byte '\\' then
        match rest with
        | [] => none
        | escaped :: rest => some (unescape escaped, rest)
      else some (first, rest)

/-- Reads the ranges of a set up to its closing bracket, and tells whether one of them holds
`wanted`.  A bracket directly at the start is a member of the set. -/
def readSet (wanted : UInt8) : (fuel : Nat) → (first found : Bool) → List UInt8 →
    Option (Bool × List UInt8)
  | 0, _, _, _ => none
  | fuel + 1, first, found, glob =>
      match glob with
      | [] => none
      | next :: rest =>
          if next = byte ']' && !first then some (found, rest)
          else
            match takeLiteral glob with
            | none => none
            | some (low, rest) =>
                match rest with
                | dash :: high :: _ =>
                    if dash = byte '-' && high != byte ']' then
                      match takeLiteral rest.tail with
                      | none => none
                      | some (high, rest) =>
                          readSet wanted fuel false (found || (low ≤ wanted && wanted ≤ high)) rest
                    else readSet wanted fuel false (found || low = wanted) rest
                | _ => readSet wanted fuel false (found || low = wanted) rest

inductive Skipped where
  /-- The next option of the group starts here. -/
  | option (index : Nat)
  /-- The group ends before this position. -/
  | closed (index : Nat)
  | unclosed

/-- Skips to the end of a group that is `depth` braces deep or, on request, to its next option. -/
def skipGroup (stopAtOption : Bool) :
    (depth : Nat) → (inSet : Bool) → (index : Nat) → List UInt8 → Skipped
  | 0, _, index, _ => .closed index
  | _ + 1, _, _, [] => .unclosed
  | depth + 1, inSet, index, next :: rest =>
      if next = byte '\x7b' && !inSet then skipGroup stopAtOption (depth + 2) inSet (index + 1) rest
      else if next = byte '\x7d' && !inSet then skipGroup stopAtOption depth inSet (index + 1) rest
      else if next = byte ',' && stopAtOption && depth = 0 && !inSet then .option (index + 1)
      else if next = byte '[' && !inSet then
        skipGroup stopAtOption (depth + 1) true (index + 1) rest
      else if next = byte ']' then skipGroup stopAtOption (depth + 1) false (index + 1) rest
      else if next = byte '\\' then
        match rest with
        | [] => .unclosed
        | _ :: rest => skipGroup stopAtOption (depth + 1) inSet (index + 2) rest
      else skipGroup stopAtOption (depth + 1) inSet (index + 1) rest

/-- Leaves the innermost group at the given positions; the star before the group counts again. -/
def leaveGroup (matcher : Matcher) (glob name : Nat) : Matcher :=
  match matcher.groups with
  | [] => { matcher with state := { matcher.state with glob, name } }
  | entered :: groups =>
      { state := { glob, name, retry := entered.retry }
        groups
        furthest := if groups.isEmpty then 0 else matcher.furthest }

def canReturn (state : State) (nameSize : Nat) : Bool :=
  0 < state.retry.name && state.retry.name ≤ nameSize

def returned (state : State) : State :=
  { state with glob := state.retry.glob, name := state.retry.name }

/-- Goes on behind a byte that does not match, if there is a star or an option left to try. -/
def mismatch (glob : List UInt8) (nameSize : Nat) (matcher : Matcher) : Progress :=
  let state := matcher.state
  if canReturn state nameSize then .going { matcher with state := returned state }
  else
    match matcher.groups with
    | [] => .ended .unmatched
    | entered :: groups =>
        match skipGroup true 1 false state.glob (glob.drop state.glob) with
        | .unclosed => .ended .malformed
        | .option index =>
            .going { matcher with state := { state with glob := index, name := entered.name } }
        | .closed index =>
            if 0 < matcher.furthest then .going (leaveGroup matcher index matcher.furthest)
            else if canReturn entered nameSize then
              .going { matcher with state := returned entered, groups }
            else .ended .unmatched

/-- Where a series of `**` separated by slashes, the first one at `index`, has its last one. -/
def lastGlobstar : (index : Nat) → (behind : List UInt8) → Nat
  | index, slash :: first :: second :: rest =>
      if slash = byte '/' && first = byte '*' && second = byte '*' then
        lastGlobstar (index + 3) rest
      else index
  | index, _ => index

/-- The position behind a star.  A pair of stars that fills a path component takes the slash behind
it along at the start of the name. -/
def behindStar (glob : List UInt8) (star name : Nat) (doubled : Bool) : Nat :=
  if doubled then
    let next := star + 2
    if (star = 0 || glob[star - 1]? = some (byte '/')) && glob[next]? = some (byte '/') && name = 0
    then next + 1
    else next
  else star + 1

def star (glob : List UInt8) (matcher : Matcher) : Progress :=
  let state := matcher.state
  let doubled := glob[state.glob + 1]? = some (byte '*')
  let position :=
    if doubled then lastGlobstar state.glob (glob.drop (state.glob + 2)) else state.glob
  let next := behindStar glob position state.name doubled
  let retry : Retry := { glob := position, name := state.name + 1 }
  let atSeparator := glob[next]? = some (byte ',') || glob[next]? = some (byte '\x7d')
  if !matcher.groups.isEmpty && atSeparator then
    match skipGroup false 1 false next (glob.drop next) with
    | .closed index => .going { matcher with state := { state with glob := index, retry } }
    | _ => .ended .malformed
  else .going { matcher with state := { state with glob := next, retry } }

def set (glob : List UInt8) (nameSize : Nat) (wanted : UInt8) (matcher : Matcher) : Progress :=
  let state := matcher.state
  let inside := glob.drop (state.glob + 1)
  let negated := match inside with
    | next :: _ => next = byte '^' || next = byte '!'
    | [] => false
  match readSet wanted (glob.length + 1) true false (if negated then inside.tail else inside) with
  | none => .ended .malformed
  | some (found, rest) =>
      let state := { state with glob := glob.length - rest.length }
      if found != negated then .going { matcher with state := { state with name := state.name + 1 } }
      else mismatch glob nameSize { matcher with state }

def literal (glob : List UInt8) (nameSize : Nat) (wanted : UInt8) (matcher : Matcher) : Progress :=
  let state := matcher.state
  match takeLiteral (glob.drop state.glob) with
  | none => .ended .malformed
  | some (meant, rest) =>
      let position := glob.length - rest.length - 1
      if meant = wanted then
        let behindGroup := 0 < position && glob[position - 1]? = some (byte '\x7d')
        if behindGroup && !matcher.groups.isEmpty then
          .going (leaveGroup { matcher with furthest := state.name } (position + 1) (state.name + 1))
        else
          .going { matcher with
            state := { state with glob := position + 1, name := state.name + 1 } }
      else mismatch glob nameSize { matcher with state := { state with glob := position } }

/-- How many groups may be open at a time. -/
def groupLimit : Nat := 10

/-- One step of the scan. -/
def step (glob name : List UInt8) (matcher : Matcher) : Progress :=
  let state := matcher.state
  let nameSize := name.length
  match glob[state.glob]?, name[state.name]? with
  | none, none => .ended .matched
  | none, some _ => mismatch glob nameSize matcher
  | some next, wanted? =>
      if next = byte '*' then star glob matcher
      else if next = byte '\x7d' && !matcher.groups.isEmpty then
        let furthest := max matcher.furthest state.name
        .going (leaveGroup { matcher with furthest } (state.glob + 1) furthest)
      else if next = byte ',' && !matcher.groups.isEmpty then
        let back := (matcher.groups.head?.map (·.name)).getD 0
        .going { matcher with
          state := { glob := state.glob + 1, name := back }
          furthest := max matcher.furthest state.name }
      else
        match wanted? with
        | none => mismatch glob nameSize matcher
        | some wanted =>
            if next = byte '?' then
              .going { matcher with
                state := { state with glob := state.glob + 1, name := state.name + 1 } }
            else if next = byte '[' then set glob nameSize wanted matcher
            else if next = byte '\x7b' then
              if groupLimit ≤ matcher.groups.length then .ended .malformed
              else
                .going { matcher with
                  state := { glob := state.glob + 1, name := state.name }
                  groups := state :: matcher.groups }
            else literal glob nameSize wanted matcher

/-- Takes steps until there is a verdict. -/
def scan (glob name : List UInt8) : (fuel : Nat) → Matcher → Verdict
  | 0, _ => .unmatched
  | fuel + 1, matcher =>
      match step glob name matcher with
      | .ended verdict => verdict
      | .going matcher => scan glob name fuel matcher

/-- More steps than a scan can take: each open group multiplies them by the number of positions. -/
def enoughSteps (glob name : List UInt8) : Nat :=
  Nat.pow ((glob.length + 2) * (name.length + 2)) (min groupLimit (glob.count (byte '\x7b')) + 2)

/-- Whether a file name matches a glob, both given by their bytes. -/
def accepts (glob name : List UInt8) : Bool :=
  let marks := glob.takeWhile (· = byte '!')
  let negated := marks.length % 2 = 1
  match scan glob name (enoughSteps glob name) { state := { glob := marks.length } } with
  | .matched => !negated
  | .unmatched => negated
  | .malformed => false

def «matches» (glob name : Text) : Bool :=
  accepts (Utf8.encode glob) (Utf8.encode name)

end Migration.Glob
