import Migration.Diagnostics
import Migration.Table.Csv

namespace Migration

/-! Rows of a mapping table.

The first column holds old names and the second one new names; what the header calls them is only
reported.  Further columns are ignored.
-/

structure Row where
  old : Text
  new : Text
  /-- The line of the record in the table. -/
  line : Nat
deriving DecidableEq, Repr

namespace Table

inductive RowProblem where
  | shortHeader (found : Nat)
  | missingColumn (oldKey newKey : Text)
  | emptyCell

def RowProblem.message : RowProblem → String
  | shortHeader found => s!"header row needs two columns, found {found}"
  | missingColumn oldKey newKey => s!"expected columns '{oldKey.str}' and '{newKey.str}'"
  | emptyCell => "empty mapping cell"

def invalid (source : String) (line : Nat) (problem : RowProblem) : Failure :=
  Cause.invalidTable source (some line) problem.message

/-- A row holds two cells, neither of them blank. -/
def rowOf (oldKey newKey : Text) (record : Csv.Record) : Except RowProblem Row :=
  match record.cells with
  | old :: new :: _ =>
      if (Text.trim old).isEmpty || (Text.trim new).isEmpty then .error .emptyCell
      else .ok ⟨old, new, record.line⟩
  | _ => .error (.missingColumn oldKey newKey)

def readRow (source : String) (oldKey newKey : Text) (record : Csv.Record) : Reporting Row :=
  match rowOf oldKey newKey record with
  | .error problem => .fail (invalid source record.line problem)
  | .ok row => do
      .raw s!"rowFrom = {row.old.str}"
      return row

/-- The rows below the header.  The first record that is no row refuses the table. -/
def readRows (source : String) (text : Text) : Reporting (List Row) :=
  let records := Csv.records text
  match (records.head?.map (·.cells)).getD [] with
  | oldKey :: newKey :: _ => do
      .debug s!"FromKey = {oldKey.str}"
      .debug s!"ToKey = {newKey.str}"
      .forEach (readRow source oldKey newKey) records.tail
  | header => .fail (invalid source 1 (.shortHeader header.length))

end Table

end Migration
