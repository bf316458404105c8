import Migration.Projections
import Migration.Table.Symbols
import Migration.Text.Word

namespace Migration.QualifiedName

/-! Qualified names on source lines.

A line is cut into qualified names and the gaps between them.  A qualified name is a run of words
joined by dots: at least two words, or words followed by a dot and a star.  Each name is looked up
in the symbol table and, failing that, projected as a wildcard reference.
-/

/-- A maximal run of word characters, or another character. -/
inductive Token where
  | word (text : Text)
  | mark (c : Char)
deriving DecidableEq, Repr

def Token.text : Token → Text
  | word text => text
  | mark c => [c]

def tokens (line : Text) : List Token :=
  line.foldr
    (fun c rest =>
      if Text.isWord c then
        match rest with
        | .word text :: others => .word (c :: text) :: others
        | _ => .word [c] :: rest
      else .mark c :: rest)
    []

theorem flatMap_tokens (line : Text) : (tokens line).flatMap Token.text = line := by
  induction line with
  | nil => rfl
  | cons c rest ih =>
      have step : tokens (c :: rest) = if Text.isWord c then
          match tokens rest with
          | .word text :: others => .word (c :: text) :: others
          | _ => .word [c] :: tokens rest
        else .mark c :: tokens rest := rfl
      rw [step]
      by_cases word : Text.isWord c
      · rw [if_pos word]
        split
        · rename_i text others found
          rw [found] at ih
          simpa [Token.text] using ih
        · simp [Token.text, ih]
      · rw [if_neg word]
        simp [Token.text, ih]

inductive Piece where
  | gap (text : Text)
  | name (text : Text)
deriving DecidableEq, Repr

def Piece.text : Piece → Text
  | gap text => text
  | name text => text

@[simp] theorem Piece.text_gap (text : Text) : (gap text).text = text := rfl

@[simp] theorem Piece.text_name (text : Text) : (name text).text = text := rfl

/-- Words read so far that may still be continued by a dot. -/
structure Path where
  text : Text
  /-- Whether there is more than one word. -/
  dotted : Bool

/-- A path that is not continued is a name if it has a dot. -/
def Path.piece (path : Path) : Piece :=
  if path.dotted then .name path.text else .gap path.text

@[simp] theorem Path.text_piece (path : Path) : path.piece.text = path.text := by
  unfold Path.piece
  split <;> rfl

/-- The pieces of the tokens that follow `path`. -/
def piecesFrom : Option Path → List Token → List Piece
  | none, [] => []
  | some path, [] => [path.piece]
  | some path, .mark '.' :: .mark '*' :: rest =>
      .name (path.text ++ ['.', '*']) :: piecesFrom none rest
  | some path, .mark '.' :: .word text :: rest =>
      piecesFrom (some ⟨path.text ++ '.' :: text, true⟩) rest
  | some path, .mark c :: rest => path.piece :: .gap [c] :: piecesFrom none rest
  | some path, .word text :: rest => path.piece :: piecesFrom (some ⟨text, false⟩) rest
  | none, .mark c :: rest => .gap [c] :: piecesFrom none rest
  | none, .word text :: rest => piecesFrom (some ⟨text, false⟩) rest

def pieces (line : Text) : List Piece :=
  piecesFrom none (tokens line)

theorem flatMap_piecesFrom (path : Option Path) (rest : List Token) :
    (piecesFrom path rest).flatMap Piece.text =
      (path.map Path.text).getD [] ++ rest.flatMap Token.text := by
  fun_induction piecesFrom path rest <;> simp_all [Token.text]

/-- Cutting a line into pieces loses nothing. -/
theorem flatMap_pieces (line : Text) : (pieces line).flatMap Piece.text = line := by
  simp [pieces, flatMap_piecesFrom, flatMap_tokens]

/-- What a name becomes, if the table or the projections say so. -/
def replacement (symbols : SymbolTable) (projections : Projections) (name : Text) :
    Reporting (Option Text) :=
  match symbols.lookup name with
  | some new => do
      .raw s!"Subst '{name.str}' with '{new.str}'"
      return some new
  | none => do
      match ← .ofExcept (projections.unique name) with
      | some new => do
          .raw s!"Star-Subst '{name.str}' with '{new.str}'"
          return some new
      | none => return none

/-- The text that stands for a piece afterwards. -/
def renew (symbols : SymbolTable) (projections : Projections) : Piece → Reporting Text
  | .gap text => pure text
  | .name text => do
      return (← replacement symbols projections text).getD text

/-- The line with every name replaced, or nothing if each name stays as it is. -/
def migrate (symbols : SymbolTable) (projections : Projections) (line : Text) :
    Reporting (Option Text) := do
  let before := pieces line
  let after ← .forEach (renew symbols projections) before
  return if after = before.map Piece.text then none else some after.flatten

end Migration.QualifiedName
