import Migration.Text.CharSet

namespace Migration.Character.Runs

/-! Properties that give every character a label, written as runs of characters with one label.

A run is written as its label and its length; a run of one character has no length.
-/

def isDigit (c : Char) : Bool :=
  '0' ≤ c && c ≤ '9'

/-- A run's label and its length. -/
def run (token : Text) : Text × Nat :=
  let digits := token.dropWhile (!isDigit ·)
  let length := digits.foldl (fun total digit => 10 * total + (digit.toNat - '0'.toNat)) 0
  (token.takeWhile (!isDigit ·), if digits.isEmpty then 1 else length)

def ofCode (lines : List String) : List (Text × Nat) :=
  lines.flatMap fun line => (Text.fields ' ' line.toList).map run

/-- The boundaries of the runs that are kept, for runs that begin at `start`. -/
def boundsFrom (keep : Text → Bool) (start : Nat) : List (Text × Nat) → List Nat
  | [] => []
  | (label, length) :: rest =>
      let later := boundsFrom keep (start + length) rest
      if keep label then start :: (start + length) :: later else later

/-- The characters whose label is kept. -/
def select (keep : Text → Bool) (runs : List (Text × Nat)) : CharSet :=
  .ofBounds (boundsFrom keep 0 runs)

end Migration.Character.Runs
