import Std.Data.TreeMap
import Migration.Table.Rows

namespace Migration

/-! The symbol table: which new name each old name has.

The last row for a name counts.  Rows that change the name given before are remembered, since the
table then contradicts itself.
-/

/-- A row that gave a name already in the table another new name. -/
structure Conflict where
  symbol : Text
  previous : Text
  current : Text
  line : Nat
deriving DecidableEq, Repr

def Conflict.warning (conflict : Conflict) : String :=
  s!"Symbol '{conflict.symbol.str}' mapped twice ('{conflict.previous.str}', then '{conflict.current.str}' at line {conflict.line}); using the later one"

structure SymbolTable where
  names : Std.TreeMap Text Text := {}
  conflicts : List Conflict := []

namespace SymbolTable

def lookup (table : SymbolTable) (symbol : Text) : Option Text :=
  table.names[symbol]?

def size (table : SymbolTable) : Nat :=
  table.names.size

def isEmpty (table : SymbolTable) : Bool :=
  table.names.isEmpty

/-- Old and new names in the order of the old ones. -/
def entries (table : SymbolTable) : List (Text × Text) :=
  table.names.toList

/-- The conflict that a row brings about, if there is one. -/
def conflict? (table : SymbolTable) (row : Row) : Option Conflict :=
  match table.lookup row.old with
  | some previous =>
      if previous = row.new then none else some ⟨row.old, previous, row.new, row.line⟩
  | none => none

def insert (table : SymbolTable) (row : Row) : SymbolTable where
  names := table.names.insert row.old row.new
  conflicts := table.conflicts ++ (table.conflict? row).toList

/-- The table with further rows, each conflict reported where it arises. -/
def extend (table : SymbolTable) : List Row → Reporting SymbolTable
  | [] => pure table
  | row :: rest => do
      match table.conflict? row with
      | some conflict => .warn conflict.warning
      | none => pure ()
      (table.insert row).extend rest

def ofRows (rows : List Row) : Reporting SymbolTable :=
  extend {} rows

end SymbolTable

end Migration
