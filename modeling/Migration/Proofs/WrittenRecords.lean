import Migration.Table.Csv

namespace Migration.Csv

/-! Records as they are written.

A written record has empty lines in front of it, cells in quotes or bare, and one of three line
ends.  The reader takes it cell by cell and gives back what the cells hold.  The line that it tells
for a record is the one on which it found the end of the record before, where it has not come to the
line feed behind a carriage return yet.
-/

/-- What ends a record or an empty line. -/
inductive Ending where
  | lineFeed
  | carriageReturn
  /-- A carriage return with a line feed behind it. -/
  | both
deriving DecidableEq, Repr

def Ending.text : Ending → Text
  | lineFeed => ['\n']
  | carriageReturn => ['\r']
  | both => ['\r', '\n']

def feeds (text : Text) : Nat :=
  text.count '\n'

@[simp] theorem feeds_nil : feeds [] = 0 := rfl

@[simp] theorem feeds_append (first second : Text) :
    feeds (first ++ second) = feeds first + feeds second :=
  List.count_append

theorem feeds_cons (c : Char) (text : Text) : feeds (c :: text) = feeds [c] + feeds text :=
  feeds_append [c] text

/-- Characters that end a cell if they are not in quotes. -/
def endsCell (c : Char) : Bool :=
  c = ',' || c = '\n' || c = '\r'

/-- A cell as it is written: what stands in quotes, if it has any, and what stands behind them. -/
structure Cell where
  inside : Option Text
  behind : Text
  plain : ∀ c ∈ behind, endsCell c = false
  apart : behind.head? ≠ some '"'

def double (c : Char) : Text :=
  if c = '"' then ['"', '"'] else [c]

/-- A text in quotes, where the quotes that belong to it are doubled. -/
def enquote (text : Text) : Text :=
  '"' :: (text.flatMap double ++ ['"'])

namespace Cell

def text (cell : Cell) : Text :=
  (cell.inside.map enquote).getD [] ++ cell.behind

def value (cell : Cell) : Text :=
  cell.inside.getD [] ++ cell.behind

/-- The cell that holds a text in quotes. -/
def enclosed (text : Text) : Cell where
  inside := some text
  behind := []
  plain := by simp
  apart := by simp

@[simp] theorem text_enclosed (text : Text) : (enclosed text).text = enquote text :=
  List.append_nil _

/-- The phase behind a cell that was begun in phase `before`. -/
def phase (cell : Cell) (before : Phase) : Phase :=
  if cell.behind ≠ [] then .plain else if cell.inside.isSome then .closing else before

theorem phase_cases (cell : Cell) (before : Phase) :
    cell.phase before = .plain ∨ cell.phase before = .closing ∨
      cell.phase before = before ∧ cell.text = [] := by
  rw [phase, text]
  by_cases nothing : cell.behind = []
  · cases inside : cell.inside with
    | none => simp [nothing]
    | some text => simp [nothing]
  · simp [nothing]

end Cell

/-- The cells of a record with commas between them. -/
def cellsText (cells : List Cell) : Text :=
  [','].intercalate (cells.map Cell.text)

def gapText (gap : List Ending) : Text :=
  gap.flatMap Ending.text

/-- A record as it is written: the empty lines in front of it, its cells and its end.  With nothing
written in its cells it would be another empty line. -/
structure Block where
  gap : List Ending
  cells : List Cell
  ending : Ending
  notEmpty : cellsText cells ≠ []

namespace Block

def text (block : Block) : Text :=
  gapText block.gap ++ cellsText block.cells ++ block.ending.text

def values (block : Block) : List Text :=
  block.cells.map Cell.value

end Block

def written (blocks : List Block) : Text :=
  blocks.flatMap Block.text

/-- The line feed of a line end that the reader has not come to when it closes the record. -/
def Ending.uncounted : Ending → Nat
  | both => 1
  | _ => 0

/-- What the reader has not counted yet of the last of the records. -/
def uncounted (blocks : List Block) : Nat :=
  (blocks.getLast?.map (·.ending.uncounted)).getD 0

/-- The line that the reader tells for the record behind others. -/
def toldLine (before : List Block) : Nat :=
  1 + feeds (written before) - uncounted before

/-- What the reader makes of records that follow others. -/
def recordsFrom (before : List Block) : List Block → List Record
  | [] => []
  | block :: rest => ⟨toldLine before, block.values⟩ :: recordsFrom (before ++ [block]) rest

namespace Reader

/-! Cells. -/

theorem countLine_eq (reader : Reader) (c : Char) :
    reader.countLine c = { reader with line := reader.line + feeds [c] } := by
  by_cases feed : c = '\n'
  · simp [countLine, feeds, feed]
  · simp [countLine, feeds, feed]

theorem not_endsCell {c : Char} (plain : endsCell c = false) : c ≠ ',' ∧ c ≠ '\n' ∧ c ≠ '\r' := by
  simpa [endsCell, and_assoc] using plain

theorem countLine_plain (reader : Reader) {c : Char} (plain : endsCell c = false) :
    reader.countLine c = reader := by
  rw [countLine, if_neg (not_endsCell plain).2.1]

theorem plainStep_plain (reader : Reader) {c : Char} (plain : endsCell c = false) :
    reader.plainStep c = reader.push c .plain := by
  obtain ⟨comma, feed, carriage⟩ := not_endsCell plain
  simp [plainStep, comma, feed, carriage]

theorem foldl_plain (reader : Reader) {text : Text} (plain : ∀ c ∈ text, endsCell c = false)
    (phase : reader.phase = .plain) :
    text.foldl step reader = { reader with cell := text.reverse ++ reader.cell } := by
  induction text generalizing reader with
  | nil => rfl
  | cons c rest ih =>
      obtain ⟨first, others⟩ := List.forall_mem_cons.mp plain
      have stepped : step reader c = { reader with cell := c :: reader.cell } := by
        simp only [step, countLine_plain reader first, phase, plainStep_plain reader first, push]
      rw [List.foldl_cons, stepped, ih { reader with cell := c :: reader.cell } others phase]
      simp

/-- What stands outside quotes at the start of a cell or behind its quotes. -/
theorem foldl_behind {reader : Reader} {text : Text} (plain : ∀ c ∈ text, endsCell c = false)
    (apart : text.head? ≠ some '"')
    (phase : reader.phase = .outside ∨ reader.phase = .cellStart ∨ reader.phase = .closing) :
    text.foldl step reader = { reader with
      phase := if text ≠ [] then .plain else reader.phase
      cell := text.reverse ++ reader.cell } := by
  cases text with
  | nil => rfl
  | cons c rest =>
      obtain ⟨first, others⟩ := List.forall_mem_cons.mp plain
      have noQuote : c ≠ '"' := fun same => apart (by simp [same])
      obtain ⟨_, feed, carriage⟩ := not_endsCell first
      have stepped : step reader c = reader.push c .plain := by
        rcases phase with phase | phase | phase <;>
          simp [step, countLine_plain reader first, phase, plainStep_plain reader first, noQuote,
            feed, carriage]
      rw [List.foldl_cons, stepped, foldl_plain (reader.push c .plain) others rfl]
      simp [push]

/-- What stands in quotes is taken as it is, with one quote for two. -/
theorem foldl_double (reader : Reader) (text : Text) (phase : reader.phase = .quoted) :
    (text.flatMap double).foldl step reader = { reader with
      line := reader.line + feeds text
      cell := text.reverse ++ reader.cell } := by
  induction text generalizing reader with
  | nil => rfl
  | cons c rest ih =>
      have taken : (double c).foldl step reader = { reader with
          line := reader.line + feeds [c]
          cell := c :: reader.cell } := by
        by_cases quote : c = '"'
        · simp [double, quote, step, countLine, phase, push, feeds]
        · simp [double, quote, step, countLine_eq, phase, push]
      rw [List.flatMap_cons, List.foldl_append, taken,
        ih { reader with line := reader.line + feeds [c], cell := c :: reader.cell } phase,
        feeds_cons c rest]
      simp [Nat.add_assoc]

theorem feeds_double (text : Text) : feeds (text.flatMap double) = feeds text := by
  induction text with
  | nil => rfl
  | cons c rest ih =>
      have same : feeds (double c) = feeds [c] := by
        by_cases quote : c = '"'
        · simp [double, quote, feeds]
        · simp [double, quote]
      rw [List.flatMap_cons, feeds_append, same, ih, ← feeds_cons]

theorem feeds_enquote (text : Text) : feeds (enquote text) = feeds text := by
  rw [enquote, feeds_cons, feeds_append, feeds_double]
  simp [feeds]

theorem feeds_plain {text : Text} (plain : ∀ c ∈ text, endsCell c = false) : feeds text = 0 :=
  List.count_eq_zero.mpr fun member => (not_endsCell (plain '\n' member)).2.1 rfl

theorem foldl_enquote {reader : Reader} (text : Text)
    (phase : reader.phase = .outside ∨ reader.phase = .cellStart) :
    (enquote text).foldl step reader = { reader with
      line := reader.line + feeds text
      phase := .closing
      cell := text.reverse ++ reader.cell } := by
  have opened : step reader '"' = { reader with phase := .quoted } := by
    rcases phase with phase | phase <;> simp [step, countLine, phase]
  rw [enquote, List.foldl_cons, opened, List.foldl_append,
    foldl_double { reader with phase := .quoted } text rfl]
  rfl

/-- A cell that is read from its start leaves what it holds. -/
theorem foldl_cell {reader : Reader} (cell : Cell) (empty : reader.cell = [])
    (phase : reader.phase = .outside ∨ reader.phase = .cellStart) :
    cell.text.foldl step reader = { reader with
      line := reader.line + feeds cell.text
      phase := cell.phase reader.phase
      cell := cell.value.reverse } := by
  have behind := @feeds_plain cell.behind cell.plain
  rw [Cell.text, Cell.value, Cell.phase]
  cases cell.inside with
  | none =>
      simp only [Option.map_none, Option.getD_none, List.nil_append, behind]
      rw [foldl_behind cell.plain cell.apart (phase.imp_right .inl), empty]
      simp
  | some text =>
      simp only [Option.map_some, Option.getD_some, feeds_append, feeds_enquote, behind]
      rw [List.foldl_append, foldl_enquote text phase,
        foldl_behind cell.plain cell.apart (.inr (.inr rfl)), empty]
      simp

/-- The next comma or line end closes a cell. -/
def InCell (reader : Reader) : Prop :=
  reader.phase = .plain ∨ reader.phase = .closing ∨ reader.phase = .cellStart

/-- The cells of a record are read, up to the comma or line end that closes the last one. -/
structure HasRead (reader before : Reader) (cells : List Cell) : Prop where
  line : reader.line = before.line + feeds (cellsText cells)
  start : reader.start = before.start
  records : reader.records = before.records
  values : (reader.cell.reverse :: reader.cells).reverse =
    before.cells.reverse ++ cells.map Cell.value
  phase : InCell reader ∨ reader.phase = .outside ∧ before.phase = .outside ∧ cellsText cells = []

theorem hasRead_cell {reader : Reader} (cell : Cell) (empty : reader.cell = [])
    (phase : reader.phase = .outside ∨ reader.phase = .cellStart) :
    HasRead (cell.text.foldl step reader) reader [cell] := by
  have only : cellsText [cell] = cell.text := List.intercalate_singleton
  rw [foldl_cell cell empty phase]
  constructor
  · rw [only]
  · rfl
  · rfl
  · simp
  · rw [only]
    rcases cell.phase_cases reader.phase with plain | closing | ⟨same, nothing⟩
    · exact .inl (.inl plain)
    · exact .inl (.inr (.inl closing))
    · rcases phase with outside | cellStart
      · exact .inr ⟨same.trans outside, outside, nothing⟩
      · exact .inl (.inr (.inr (same.trans cellStart)))

theorem step_comma {reader : Reader} (phase : reader.phase ≠ .quoted) :
    step reader ',' = reader.endCell := by
  have stays : reader.countLine ',' = reader := rfl
  cases found : reader.phase with
  | quoted => exact absurd found phase
  | outside | cellStart | plain | closing => simp [step, plainStep, stays, found]

theorem HasRead.notQuoted {reader before : Reader} {cells : List Cell}
    (read : HasRead reader before cells) : reader.phase ≠ .quoted := by
  rcases read.phase with (phase | phase | phase) | ⟨phase, _⟩ <;> simp [phase]

theorem hasRead_cells {cells : List Cell} (some : cells ≠ []) {reader : Reader}
    (empty : reader.cell = []) (phase : reader.phase = .outside ∨ reader.phase = .cellStart) :
    HasRead ((cellsText cells).foldl step reader) reader cells := by
  induction cells generalizing reader with
  | nil => contradiction
  | cons cell rest ih =>
      have first := hasRead_cell cell empty phase
      cases rest with
      | nil => rwa [cellsText, List.map_singleton, List.intercalate_singleton]
      | cons next rest =>
          have cut : cellsText (cell :: next :: rest) =
              cell.text ++ ',' :: cellsText (next :: rest) := by
            rw [cellsText, List.map_cons, List.map_cons, List.intercalate_cons_cons]
            simp [cellsText]
          have only : cellsText [cell] = cell.text := List.intercalate_singleton
          have comma : feeds [','] = 0 := rfl
          have later := @ih (List.cons_ne_nil _ _) (cell.text.foldl step reader).endCell rfl
            (.inr rfl)
          rw [cut, List.foldl_append, List.foldl_cons, step_comma first.notQuoted]
          constructor
          · rw [later.line, endCell, first.line, cut, only, feeds_append, feeds_cons ',', comma]
            omega
          · exact later.start.trans first.start
          · exact later.records.trans first.records
          · rw [later.values, endCell, first.values]
            simp
          · exact later.phase.imp_right fun outside => by cases outside.2.1

/-! Records. -/

theorem step_lineEnd {reader : Reader} {c : Char} (inCell : InCell reader)
    (isEnd : c = '\n' ∨ c = '\r') : step reader c = (reader.countLine c).endRecord := by
  rcases inCell with phase | phase | phase <;> rcases isEnd with rfl | rfl <;>
    simp [step, phase, plainStep, countLine]

theorem foldl_ending {reader : Reader} (ending : Ending) (inCell : InCell reader) :
    ending.text.foldl step reader = {
      line := reader.line + feeds ending.text
      start := reader.line + feeds ending.text - ending.uncounted
      records := ⟨reader.start, (reader.cell.reverse :: reader.cells).reverse⟩ ::
        reader.records } := by
  cases ending with
  | lineFeed => exact step_lineEnd inCell (.inl rfl)
  | carriageReturn => exact step_lineEnd inCell (.inr rfl)
  | both =>
      have closed : step reader '\r' = reader.endRecord := step_lineEnd inCell (.inr rfl)
      rw [Ending.text, List.foldl_cons, closed]
      rfl

theorem step_outside {reader : Reader} {c : Char} (phase : reader.phase = .outside)
    (isEnd : c = '\n' ∨ c = '\r') : step reader c = reader.countLine c := by
  have same : (reader.countLine c).phase = .outside := by rwa [countLine_eq]
  rcases isEnd with rfl | rfl <;> simp [step, same]

theorem foldl_gap {reader : Reader} (gap : List Ending) (phase : reader.phase = .outside) :
    (gapText gap).foldl step reader =
      { reader with line := reader.line + feeds (gapText gap) } := by
  induction gap generalizing reader with
  | nil => rfl
  | cons ending rest ih =>
      have skipped : ending.text.foldl step reader =
          { reader with line := reader.line + feeds ending.text } := by
        have carriage : step reader '\r' = reader := step_outside phase (.inr rfl)
        cases ending with
        | lineFeed => exact step_outside phase (.inl rfl)
        | carriageReturn => exact carriage
        | both =>
            rw [Ending.text, List.foldl_cons, carriage]
            exact step_outside phase (.inl rfl)
      rw [gapText, List.flatMap_cons, List.foldl_append, skipped, ← gapText,
        @ih { reader with line := reader.line + feeds ending.text } phase, feeds_append]
      simp [Nat.add_assoc]

/-- The reader behind records of which it has made others. -/
def behind (before : List Block) (records : List Record) : Reader where
  line := 1 + feeds (written before)
  start := toldLine before
  records := records

theorem foldl_block (before : List Block) (records : List Record) (block : Block) :
    block.text.foldl step (behind before records) =
      behind (before ++ [block]) (⟨toldLine before, block.values⟩ :: records) := by
  have some : block.cells ≠ [] := fun nothing => block.notEmpty (by rw [nothing]; rfl)
  have skipped := @foldl_gap (behind before records) block.gap rfl
  have read := @hasRead_cells _ some
    { behind before records with
      line := (behind before records).line + feeds (gapText block.gap) } rfl (.inl rfl)
  have inCell := read.phase.resolve_right fun outside => block.notEmpty outside.2.2
  rw [Block.text, List.foldl_append, List.foldl_append, skipped, foldl_ending block.ending inCell,
    read.line, read.start, read.records, read.values]
  simp [behind, toldLine, uncounted, written, Block.text, Block.values, Nat.add_assoc]

theorem foldl_written (before rest : List Block) (records : List Record) :
    (written rest).foldl step (behind before records) =
      behind (before ++ rest) ((recordsFrom before rest).reverse ++ records) := by
  induction rest generalizing before records with
  | nil => simp [written, recordsFrom]
  | cons block rest ih =>
      rw [written, List.flatMap_cons, List.foldl_append, foldl_block, ← written, ih]
      simp [recordsFrom]

end Reader

/-- What the reader makes of a written table, which may have a byte order mark in front and empty
lines behind the last record. -/
theorem records_written {text : Text} {blocks : List Block} {trailing : List Ending}
    (whole : dropMark text = written blocks ++ gapText trailing) :
    records text = recordsFrom [] blocks := by
  have began : ({} : Reader) = Reader.behind [] [] := rfl
  rw [records, whole, List.foldl_append, began, Reader.foldl_written, Reader.foldl_gap trailing rfl]
  simp [Reader.finish, Reader.behind]

/-- Each record is told with those in front of it. -/
theorem recordsFrom_append (before middle rest : List Block) :
    recordsFrom before (middle ++ rest) =
      recordsFrom before middle ++ recordsFrom (before ++ middle) rest := by
  induction middle generalizing before with
  | nil => simp [recordsFrom]
  | cons block middle ih => simp [recordsFrom, ih]

theorem map_cells_recordsFrom (before blocks : List Block) :
    (recordsFrom before blocks).map (·.cells) = blocks.map Block.values := by
  induction blocks generalizing before with
  | nil => rfl
  | cons block rest ih => rw [recordsFrom, List.map_cons, List.map_cons, ih]

theorem length_recordsFrom (before blocks : List Block) :
    (recordsFrom before blocks).length = blocks.length := by
  simpa using congrArg List.length (map_cells_recordsFrom before blocks)

theorem recordsFrom_eq_append {before blocks : List Block} {told later : List Record}
    {record : Record} (split : recordsFrom before blocks = told ++ record :: later) :
    ∃ middle block after, blocks = middle ++ block :: after ∧
      told = recordsFrom before middle ∧
      record = ⟨toldLine (before ++ middle), block.values⟩ := by
  induction told generalizing before blocks with
  | nil =>
      match blocks, split with
      | block :: after, split =>
          cases split
          exact ⟨[], block, after, rfl, rfl, by rw [List.append_nil]⟩
  | cons first told ih =>
      match blocks, split with
      | block :: blocks, split =>
          obtain ⟨rfl, tail⟩ := List.cons.inj split
          obtain ⟨middle, found, after, rfl, rfl, rfl⟩ := ih tail
          exact ⟨block :: middle, found, after, rfl, rfl, by simp⟩

end Migration.Csv
