import Migration.Proofs.Sequences
import Migration.Proofs.Trimmed
import Migration.Proofs.WrittenRecords
import Migration.Table.Rows

namespace Migration.Table

open Csv

/-! Rows of a written table.

A table whose header has two cells gives one row for each of its records, made of what the first two
cells hold, however they are written.  A record that makes no row refuses the table, and of several
the first one does.
-/

/-- What a row is made of: two cells, and neither of them blank. -/
def IsRow (values : List Text) : Prop :=
  ∃ old new rest, values = old :: new :: rest ∧ ¬ old.Blank ∧ ¬ new.Blank

/-- What is wrong with cells that make no row. -/
def problemOf (oldKey newKey : Text) (values : List Text) : RowProblem :=
  if values.length < 2 then .missingColumn oldKey newKey else .emptyCell

/-- The row is made of the record. -/
structure Gives (record : Record) (row : Row) : Prop where
  cells : record.cells.take 2 = [row.old, row.new]
  oldSome : ¬ row.old.Blank
  newSome : ¬ row.new.Blank
  line : row.line = record.line

section Records

variable {oldKey newKey : Text} {record : Record}

theorem rowOf_of_gives {row : Row} (gives : Gives record row) :
    rowOf oldKey newKey record = .ok row := by
  obtain ⟨line, cells⟩ := record
  obtain ⟨old, new, number⟩ := row
  obtain ⟨taken, oldSome, newSome, same⟩ := gives
  match cells, taken with
  | _ :: _ :: _, taken =>
      cases taken
      cases same
      rw [← Text.trim_eq_nil_iff] at oldSome newSome
      simp [rowOf, oldSome, newSome]

theorem exists_gives (row : IsRow record.cells) : ∃ row, Gives record row := by
  obtain ⟨old, new, rest, cells, oldSome, newSome⟩ := row
  exact ⟨⟨old, new, record.line⟩, by rw [cells]; rfl, oldSome, newSome, rfl⟩

theorem Gives.isRow {row : Row} (gives : Gives record row) : IsRow record.cells := by
  obtain ⟨taken, oldSome, newSome, _⟩ := gives
  match cells : record.cells, taken with
  | _ :: _ :: rest, taken =>
      cases taken
      exact ⟨_, _, rest, rfl, oldSome, newSome⟩

theorem rowOf_of_not_isRow (notRow : ¬ IsRow record.cells) :
    rowOf oldKey newKey record = .error (problemOf oldKey newKey record.cells) := by
  obtain ⟨line, cells⟩ := record
  match cells with
  | [] => rfl
  | [_] => rfl
  | old :: new :: rest =>
      have blank : Text.trim old = [] ∨ Text.trim new = [] := by
        rw [Text.trim_eq_nil_iff, Text.trim_eq_nil_iff]
        by_contra neither
        rw [not_or] at neither
        exact notRow ⟨old, new, rest, rfl, neither⟩
      simp [rowOf, problemOf, blank]

variable {source : String} {verbosity : Verbosity}

theorem readRow_eq_ok {row : Row} :
    (readRow source oldKey newKey record).answer verbosity = .ok row ↔ Gives record row := by
  by_cases isRow : IsRow record.cells
  · obtain ⟨found, gives⟩ := exists_gives isRow
    have answered : (readRow source oldKey newKey record).answer verbosity = .ok found := by
      rw [readRow, rowOf_of_gives gives]
      rfl
    rw [answered, Except.ok.injEq]
    constructor
    · rintro rfl
      exact gives
    · intro other
      exact Except.ok.inj ((rowOf_of_gives gives).symm.trans
        (@rowOf_of_gives oldKey newKey _ _ other))
  · refine iff_of_false ?_ fun gives => isRow gives.isRow
    rw [readRow, rowOf_of_not_isRow isRow]
    exact nofun

theorem readRow_eq_error {failure : Failure} :
    (readRow source oldKey newKey record).answer verbosity = .error failure ↔
      ¬ IsRow record.cells ∧
        failure = invalid source record.line (problemOf oldKey newKey record.cells) := by
  by_cases isRow : IsRow record.cells
  · obtain ⟨row, gives⟩ := exists_gives isRow
    rw [readRow_eq_ok.mpr gives]
    exact iff_of_false nofun fun refused => refused.1 isRow
  · rw [readRow, rowOf_of_not_isRow isRow]
    simp [isRow, eq_comm]

end Records

section Sheet

variable {source : String} {verbosity : Verbosity} {text : Text} {header : Block}
  {blocks : List Block} {trailing : List Ending}

theorem answer_readRows_shortHeader
    (whole : dropMark text = written (header :: blocks) ++ gapText trailing)
    (short : header.values.length < 2) :
    (readRows source text).answer verbosity =
      .error (invalid source 1 (.shortHeader header.values.length)) := by
  rw [readRows, records_written whole]
  match keys : header.values, short with
  | [], _ => simp [recordsFrom, keys]
  | [_], _ => simp [recordsFrom, keys]

theorem answer_readRows {oldKey newKey : Text} {others : List Text}
    (whole : dropMark text = written (header :: blocks) ++ gapText trailing)
    (keys : header.values = oldKey :: newKey :: others) :
    (readRows source text).answer verbosity =
      (Reporting.forEach (readRow source oldKey newKey)
        (recordsFrom [header] blocks)).answer verbosity := by
  rw [readRows, records_written whole]
  simp [recordsFrom, keys]

section

variable {oldKey newKey : Text} {others : List Text}
  (whole : dropMark text = written (header :: blocks) ++ gapText trailing)
  (keys : header.values = oldKey :: newKey :: others)
include whole keys

theorem readRows_eq_ok {rows : List Row} :
    (readRows source text).answer verbosity = .ok rows ↔
      List.Forall₂ Gives (recordsFrom [header] blocks) rows := by
  rw [answer_readRows whole keys, Reporting.forEach_eq_ok]
  simp only [readRow_eq_ok]

/-- The first record that makes no row refuses the table. -/
theorem readRows_eq_error {failure : Failure} :
    (readRows source text).answer verbosity = .error failure ↔
      ∃ before block after, blocks = before ++ block :: after ∧
        (∀ earlier ∈ before, IsRow earlier.values) ∧ ¬ IsRow block.values ∧
        failure = invalid source (toldLine (header :: before))
          (problemOf oldKey newKey block.values) := by
  rw [answer_readRows whole keys, Reporting.forEach_eq_error]
  simp only [readRow_eq_ok, readRow_eq_error]
  constructor
  · rintro ⟨told, record, later, split, fine, notRow, rfl⟩
    obtain ⟨before, block, after, rfl, rfl, rfl⟩ := recordsFrom_eq_append split
    refine ⟨before, block, after, rfl, fun earlier member => ?_, notRow, rfl⟩
    have listed : earlier.values ∈ (recordsFrom [header] before).map (·.cells) := by
      rw [map_cells_recordsFrom]
      exact List.mem_map_of_mem member
    obtain ⟨record, member, same⟩ := List.mem_map.mp listed
    obtain ⟨row, gives⟩ := fine record member
    exact same ▸ gives.isRow
  · rintro ⟨before, block, after, rfl, fine, notRow, rfl⟩
    refine ⟨_, _, _, recordsFrom_append [header] before (block :: after), fun record member => ?_,
      notRow, rfl⟩
    have listed : record.cells ∈ before.map Block.values := by
      rw [← map_cells_recordsFrom [header]]
      exact List.mem_map_of_mem member
    obtain ⟨earlier, member, same⟩ := List.mem_map.mp listed
    exact exists_gives (same ▸ fine earlier member)

end

end Sheet

/-! Records with all cells in quotes. -/

/-- A record to be written with every cell in quotes, behind empty lines. -/
structure QuotedRecord where
  gap : List Ending
  values : List Text
  ending : Ending
  notEmpty : values ≠ []

namespace QuotedRecord

def text (record : QuotedRecord) : Text :=
  gapText record.gap ++ [','].intercalate (record.values.map enquote) ++ record.ending.text

def block (record : QuotedRecord) : Block where
  gap := record.gap
  cells := record.values.map Cell.enclosed
  ending := record.ending
  notEmpty := by
    obtain ⟨value, rest, values⟩ := List.exists_cons_of_ne_nil record.notEmpty
    rw [values, cellsText, List.map_cons, List.map_cons, Cell.text_enclosed]
    cases rest <;> simp [enquote, List.intercalate_cons_cons]

/-- The first character is a quote or belongs to a line end. -/
theorem exists_first (record : QuotedRecord) :
    ∃ c rest, record.text = c :: rest ∧ c ≠ '\ufeff' := by
  obtain ⟨value, others, values⟩ := List.exists_cons_of_ne_nil record.notEmpty
  have cells : ∃ rest, [','].intercalate (record.values.map enquote) = '"' :: rest := by
    rw [values, List.map_cons]
    cases others with
    | nil => exact ⟨_, List.intercalate_singleton⟩
    | cons second others => exact ⟨_, List.intercalate_cons_cons⟩
  obtain ⟨rest, quoted⟩ := cells
  rw [text, quoted]
  match record.gap with
  | [] => exact ⟨'"', _, rfl, by decide⟩
  | .lineFeed :: _ => exact ⟨'\n', _, rfl, by decide⟩
  | .carriageReturn :: _ => exact ⟨'\r', _, rfl, by decide⟩
  | .both :: _ => exact ⟨'\r', _, rfl, by decide⟩

end QuotedRecord

end Migration.Table
