import Migration.Text.Basic

namespace Migration.Csv

/-! Comma-separated records.

Cells are separated by commas and records by line ends: a line feed, a carriage return, or both.
Empty lines hold no record.  A cell that begins with a double quote runs to the closing quote and
may hold commas and line ends; a doubled quote inside it stands for one.  Records need not have the
same number of cells.

The reader takes one character at a time.  A record carries the line on which the reader turned to
it, counted in line feeds: directly behind the end of the record before.
-/

structure Record where
  line : Nat
  cells : List Text
deriving DecidableEq, Repr

inductive Phase where
  /-- Before a record: line ends are skipped. -/
  | outside
  | cellStart
  | plain
  | quoted
  /-- Behind a quote inside a quoted cell, which closes it unless another quote follows. -/
  | closing
deriving DecidableEq, Repr

/-- The reader's state; cells, their characters and the records are kept last first. -/
structure Reader where
  /-- The line the next character is on. -/
  line : Nat := 1
  /-- The line on which the reader turned to the current record. -/
  start : Nat := 1
  phase : Phase := .outside
  cell : Text := []
  cells : List Text := []
  records : List Record := []

namespace Reader

def push (reader : Reader) (c : Char) (phase : Phase) : Reader :=
  { reader with cell := c :: reader.cell, phase }

def endCell (reader : Reader) : Reader :=
  { reader with cell := [], cells := reader.cell.reverse :: reader.cells, phase := .cellStart }

def endRecord (reader : Reader) : Reader :=
  { reader with
    start := reader.line
    phase := .outside
    cell := []
    cells := []
    records := ⟨reader.start, (reader.cell.reverse :: reader.cells).reverse⟩ :: reader.records }

/-- A character outside quotes. -/
def plainStep (reader : Reader) (c : Char) : Reader :=
  if c = ',' then reader.endCell
  else if c = '\n' || c = '\r' then reader.endRecord
  else reader.push c .plain

def countLine (reader : Reader) (c : Char) : Reader :=
  if c = '\n' then { reader with line := reader.line + 1 } else reader

def step (before : Reader) (c : Char) : Reader :=
  let reader := before.countLine c
  match reader.phase with
  | .outside =>
      if c = '\n' || c = '\r' then reader
      else if c = '"' then { reader with phase := .quoted }
      else reader.plainStep c
  | .cellStart =>
      if c = '"' then { reader with phase := .quoted } else reader.plainStep c
  | .plain => reader.plainStep c
  | .quoted =>
      if c = '"' then { reader with phase := .closing } else reader.push c .quoted
  | .closing =>
      if c = '"' then reader.push c .quoted else reader.plainStep c

/-- The records, once the text has ended. -/
def finish (reader : Reader) : List Record :=
  match reader.phase with
  | .outside => reader.records.reverse
  | _ => reader.endRecord.records.reverse

end Reader

/-- The text without a leading byte order mark. -/
def dropMark : Text → Text
  | '\ufeff' :: rest => rest
  | text => text

def records (text : Text) : List Record :=
  ((dropMark text).foldl Reader.step {}).finish

end Migration.Csv
