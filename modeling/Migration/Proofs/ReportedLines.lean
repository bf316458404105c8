import Migration.Proofs.Conflicts
import Migration.Proofs.TableRows

namespace Migration

/-! The lines that rows of a table are reported with.

A record is told with the line on which the record in front of it ended.  That is the line on which
it begins if the record in front ends in a line feed alone and no empty line stands between them.
Otherwise the line told is too low, by one where a carriage return stands in front of that line
feed, and by one for every empty line.
-/

namespace Csv

/-- The line on which a record begins, which is one more than the line feeds in front of it. -/
def firstLine (before : List Block) (block : Block) : Nat :=
  1 + feeds (written before ++ gapText block.gap)

/-- All line ends have a line feed. -/
def Block.IsFed (block : Block) : Prop :=
  block.ending ≠ .carriageReturn ∧ .carriageReturn ∉ block.gap

/-- What the line told for a record behind others has to do with the line on which it begins. -/
structure IsTold (before : List Block) (block : Block) (line : Nat) : Prop where
  lag : line + uncounted before + block.gap.length = firstLine before block
  exact_iff : line = firstLine before block ↔
    block.gap = [] ∧ ∀ last ∈ before.getLast?, last.ending = .lineFeed

section Told

variable {before : List Block} {block : Block}

theorem uncounted_le_feeds (before : List Block) : uncounted before ≤ feeds (written before) := by
  rcases List.eq_nil_or_concat before with rfl | ⟨front, last, rfl⟩
  · rfl
  · have counted : last.ending.uncounted ≤ feeds last.ending.text := by
      cases last.ending <;> decide
    simp only [List.concat_eq_append, uncounted, written, List.getLast?_append, List.flatMap_append,
      feeds_append]
    simp only [List.getLast?_singleton, Option.some_or, Option.map_some, Option.getD_some,
      List.flatMap_singleton, Block.text, feeds_append]
    omega

theorem feeds_gapText {gap : List Ending} (fed : .carriageReturn ∉ gap) :
    feeds (gapText gap) = gap.length := by
  induction gap with
  | nil => rfl
  | cons ending gap ih =>
      rw [List.mem_cons, not_or] at fed
      have one : feeds ending.text = 1 := by
        cases ending with
        | lineFeed => rfl
        | carriageReturn => exact absurd rfl fed.1
        | both => rfl
      rw [gapText, List.flatMap_cons, feeds_append, one, ← gapText, ih fed.2, List.length_cons,
        Nat.add_comm]

theorem uncounted_eq_zero_iff (fed : ∀ block ∈ before, block.IsFed) :
    uncounted before = 0 ↔ ∀ last ∈ before.getLast?, last.ending = .lineFeed := by
  rw [uncounted]
  cases found : before.getLast? with
  | none => simp
  | some last =>
      have notReturn := (fed last (List.mem_of_getLast? found)).1
      cases ending : last.ending with
      | lineFeed => simp [ending, Ending.uncounted]
      | carriageReturn => exact absurd ending notReturn
      | both => simp [ending, Ending.uncounted]

theorem toldLine_isTold (fed : ∀ block ∈ before, block.IsFed) (blockFed : block.IsFed) :
    IsTold before block (toldLine before) := by
  have some := uncounted_le_feeds before
  have gap := feeds_gapText blockFed.2
  have lag : toldLine before + uncounted before + block.gap.length = firstLine before block := by
    rw [toldLine, firstLine, feeds_append, gap]
    omega
  refine ⟨lag, ?_⟩
  rw [← uncounted_eq_zero_iff fed, ← List.length_eq_zero_iff, ← lag]
  omega

end Told

end Csv

namespace SymbolTable

/-- A conflict carries the line of the row that brings it about. -/
theorem row_of_conflict {rows : List Row} {verbosity : Verbosity} {table : SymbolTable}
    (made : (ofRows rows).answer verbosity = .ok table) {conflict : Conflict}
    (member : conflict ∈ table.conflicts) :
    ∃ row ∈ rows, conflict.symbol = row.old ∧ conflict.current = row.new ∧
      conflict.line = row.line := by
  rw [ofRows, answer_extend, Except.ok.injEq] at made
  obtain ⟨places, _, _, paired⟩ := (Records.foldl_insert rows).conflicts
  rw [made] at paired
  obtain ⟨place, found⟩ : ∃ place, Contradicts rows place conflict := by
    obtain ⟨index, inside, rfl⟩ := List.getElem_of_mem member
    exact ⟨_, (List.forall₂_iff_get.mp paired).2 index (paired.length_eq ▸ inside) inside⟩
  obtain ⟨row, _, _, there, _, _, rfl⟩ := found
  exact ⟨row, List.mem_of_getElem? there, rfl, rfl, rfl⟩

end SymbolTable

namespace Table

open Csv

theorem exists_keys {values : List Text} (keys : ¬ values.length < 2) :
    ∃ oldKey newKey others, values = oldKey :: newKey :: others := by
  match values, keys with
  | oldKey :: newKey :: others, _ => exact ⟨oldKey, newKey, others, rfl⟩
  | [], keys => exact absurd (by decide) keys
  | [_], keys => exact absurd (by simp) keys

/-- The row of a record stands at its place among the rows. -/
theorem exists_row {header : Block} {before after : List Block} {block : Block} {rows : List Row}
    (paired : List.Forall₂ Gives (recordsFrom [header] (before ++ block :: after)) rows) :
    ∃ row, rows[before.length]? = some row ∧
      Gives ⟨toldLine (header :: before), block.values⟩ row := by
  have size := paired.length_eq
  rw [length_recordsFrom] at size
  have inside : before.length < rows.length := by
    rw [← size]
    simp
  have told : (recordsFrom [header] (before ++ block :: after))[before.length]? =
      some ⟨toldLine (header :: before), block.values⟩ := by
    rw [recordsFrom_append, List.getElem?_append_right (length_recordsFrom _ _).le,
      length_recordsFrom, Nat.sub_self]
    rfl
  obtain ⟨listed, same⟩ := List.getElem?_eq_some_iff.mp told
  have gives := (List.forall₂_iff_get.mp paired).2 before.length listed inside
  rw [List.get_eq_getElem, same] at gives
  exact ⟨rows[before.length], List.getElem?_eq_getElem inside, gives⟩

/-- Rows, conflicts and refusals carry the line that is told for their record.  It is the line on
which the record begins if and only if no empty line stands in front of the record and the record
before it ends in a line feed alone; the line told is too low by the number of empty lines, and by
one more behind a carriage return with a line feed. -/
theorem reported_lines (source : String) (verbosity : Verbosity) {text : Text} {header : Block}
    {blocks : List Block} {trailing : List Ending}
    (whole : dropMark text = written (header :: blocks) ++ gapText trailing)
    (fed : ∀ block ∈ header :: blocks, block.IsFed) :
    (∀ rows, (readRows source text).answer verbosity = .ok rows →
      rows.length = blocks.length ∧
      (∀ before block after, blocks = before ++ block :: after →
        ∃ row, rows[before.length]? = some row ∧ block.values.take 2 = [row.old, row.new] ∧
          IsTold (header :: before) block row.line) ∧
      ∀ table, (SymbolTable.ofRows rows).answer verbosity = .ok table →
        ∀ conflict ∈ table.conflicts, ∃ row ∈ rows, conflict.symbol = row.old ∧
          conflict.current = row.new ∧ conflict.line = row.line) ∧
    ∀ failure, (readRows source text).answer verbosity = .error failure →
      ∃ before block after line problem, header :: blocks = before ++ block :: after ∧
        IsTold before block line ∧ failure = invalid source line problem := by
  have told {before after : List Block} {block : Block}
      (split : header :: blocks = before ++ block :: after) :
      IsTold before block (toldLine before) := by
    rw [split, List.forall_mem_append, List.forall_mem_cons] at fed
    exact toldLine_isTold fed.1 fed.2.1
  by_cases short : header.values.length < 2
  · have refused := @answer_readRows_shortHeader source verbosity _ _ _ _ whole short
    constructor
    · intro rows answered
      cases refused.symm.trans answered
    · intro failure answered
      cases refused.symm.trans answered
      exact ⟨[], header, blocks, 1, _, rfl, told rfl, rfl⟩
  · obtain ⟨oldKey, newKey, others, keys⟩ := exists_keys short
    constructor
    · intro rows answered
      have paired := (readRows_eq_ok whole keys).mp answered
      have size := paired.length_eq
      rw [length_recordsFrom] at size
      refine ⟨size.symm, ?_, fun table made conflict => SymbolTable.row_of_conflict made⟩
      rintro before block after rfl
      obtain ⟨row, there, gives⟩ := exists_row paired
      refine ⟨row, there, gives.cells, ?_⟩
      rw [gives.line]
      exact told (by rw [List.cons_append])
    · intro failure answered
      obtain ⟨before, block, after, rfl, _, _, rfl⟩ := (readRows_eq_error whole keys).mp answered
      exact ⟨header :: before, block, after, _, _, rfl, told rfl, rfl⟩

def bareCell (text : Text) (plain : text.any endsCell = false)
    (apart : text.head? ≠ .some '"') : Cell :=
  ⟨none, text, fun c member => eq_false_of_ne_true (List.any_eq_false.mp plain c member), apart⟩

def keysBlock : Block :=
  ⟨[], [bareCell "h".toList rfl (by decide), bareCell "k".toList rfl (by decide)], .both,
    by decide⟩

def firstBlock : Block :=
  ⟨[], [bareCell "a.B".toList rfl (by decide), bareCell "x.B".toList rfl (by decide)], .lineFeed,
    by decide⟩

/-- A record behind an empty line, with a line feed in one of its cells. -/
def secondBlock : Block :=
  ⟨[.lineFeed], [bareCell "a.B".toList rfl (by decide), .enclosed "y\n".toList], .lineFeed,
    by decide⟩

def thirdBlock : Block :=
  ⟨[], [.enclosed "c.D".toList, bareCell "z.D".toList rfl (by decide)], .both, by decide⟩

def mixedSheet : Text := "h,k\r\na.B,x.B\n\na.B,\"y\n\"\n\"c.D\",z.D\r\n".toList

def mixedRows : List Row :=
  [⟨"a.B".toList, "x.B".toList, 1⟩, ⟨"a.B".toList, "y\n".toList, 3⟩,
    ⟨"c.D".toList, "z.D".toList, 6⟩]

theorem mixedSheet_lines :
    (readRows "t.csv" mixedSheet).answer .quiet = .ok mixedRows ∧
      IsTold [keysBlock] firstBlock 1 ∧ IsTold [keysBlock, firstBlock] secondBlock 3 ∧
      IsTold [keysBlock, firstBlock, secondBlock] thirdBlock 6 := by
  have answered : (readRows "t.csv" mixedSheet).answer .quiet = .ok mixedRows := rfl
  have fed : ∀ block ∈ [keysBlock, firstBlock, secondBlock, thirdBlock], block.IsFed := by
    simp [Block.IsFed, keysBlock, firstBlock, secondBlock, thirdBlock]
  obtain ⟨_, told, _⟩ := (@reported_lines "t.csv" .quiet mixedSheet keysBlock
    [firstBlock, secondBlock, thirdBlock] [] rfl fed).1 mixedRows answered
  obtain ⟨_, first, _, firstTold⟩ := told [] firstBlock [secondBlock, thirdBlock] rfl
  obtain ⟨_, second, _, secondTold⟩ := told [firstBlock] secondBlock [thirdBlock] rfl
  obtain ⟨_, third, _, thirdTold⟩ := told [firstBlock, secondBlock] thirdBlock [] rfl
  cases first
  cases second
  cases third
  exact ⟨answered, firstTold, secondTold, thirdTold⟩

/-- Behind a carriage return with a line feed, the row on the second line is told to be on the
first one. -/
theorem mixedSheet_told_too_low :
    dropMark "h,k\r\na.B,x.B\n".toList = written [keysBlock, firstBlock] ∧
      firstLine [keysBlock] firstBlock = 2 ∧
      (readRows "t.csv" "h,k\r\na.B,x.B\n".toList).answer .quiet =
        .ok [⟨"a.B".toList, "x.B".toList, 1⟩] :=
  ⟨rfl, rfl, rfl⟩

end Table

end Migration
