import Mathlib.Data.Finset.Card
import Mathlib.Data.List.Induction
import Migration.Proofs.ByteOrder
import Migration.Proofs.NameTables

namespace Migration

/-! What a symbol table made of rows holds, and which conflicts it reports.

Every row is recorded in the light of the rows in front of it: its new name counts from now on, and
it contradicts the nearest row in front that has its old name, if that one has another new name.  So
a table that records some rows records one more after its insertion, and by induction a table
records the rows that it is made of.
-/

/-- The row at a place has the name, and no row behind has it. -/
def LastOf (rows : List Row) (symbol : Text) (place : Nat) (row : Row) : Prop :=
  rows[place]? = some row ∧ row.old = symbol ∧
    ∀ later other, rows[later]? = some other → other.old = symbol → later ≤ place

/-- The row at a place has another new name than the nearest row in front with the same old one. -/
def Contradicts (rows : List Row) (place : Nat) (conflict : Conflict) : Prop :=
  ∃ row earlierPlace earlier, rows[place]? = some row ∧
    LastOf (rows.take place) row.old earlierPlace earlier ∧ earlier.new ≠ row.new ∧
      conflict = ⟨row.old, earlier.new, row.new, row.line⟩

/-- One conflict for every row that contradicts one in front, in the order of the rows. -/
def AreConflictsOf (rows : List Row) (conflicts : List Conflict) : Prop :=
  ∃ places : List Nat, places.Pairwise (· < ·) ∧
    (∀ place, place ∈ places ↔ ∃ conflict, Contradicts rows place conflict) ∧
      List.Forall₂ (Contradicts rows) places conflicts

section OneMore

variable {rows : List Row} {row : Row} {place : Nat}

theorem getElem?_oneMore {found : Row} :
    (rows ++ [row])[place]? = some found ↔
      rows[place]? = some found ∨ place = rows.length ∧ found = row := by
  rcases Nat.lt_trichotomy place rows.length with inside | back | outside
  · rw [List.getElem?_append_left inside]
    simp [Nat.ne_of_lt inside]
  · simp [back, eq_comm]
  · rw [List.getElem?_eq_none (by simp; omega), List.getElem?_eq_none (Nat.le_of_lt outside)]
    simp [Nat.ne_of_gt outside]

theorem place_lt {found : Row} (there : rows[place]? = some found) : place < rows.length :=
  (List.getElem?_eq_some_iff.mp there).1

theorem lastOf_oneMore_same {symbol : Text} {found : Row} (same : row.old = symbol) :
    LastOf (rows ++ [row]) symbol place found ↔ place = rows.length ∧ found = row := by
  constructor
  · rintro ⟨there, _, last⟩
    have back : rows.length ≤ place :=
      last rows.length row (getElem?_oneMore.mpr (.inr ⟨rfl, rfl⟩)) same
    rcases getElem?_oneMore.mp there with inside | isBack
    · exact absurd (place_lt inside) (Nat.not_lt.mpr back)
    · exact isBack
  · rintro ⟨rfl, rfl⟩
    refine ⟨getElem?_oneMore.mpr (.inr ⟨rfl, rfl⟩), same, fun later other there _ => ?_⟩
    rcases getElem?_oneMore.mp there with inside | ⟨isBack, _⟩
    · exact Nat.le_of_lt (place_lt inside)
    · exact Nat.le_of_eq isBack

theorem lastOf_oneMore_other {symbol : Text} {found : Row} (differs : row.old ≠ symbol) :
    LastOf (rows ++ [row]) symbol place found ↔ LastOf rows symbol place found := by
  have same {position : Nat} {other : Row} (old : other.old = symbol) :
      (rows ++ [row])[position]? = some other ↔ rows[position]? = some other := by
    refine getElem?_oneMore.trans (or_iff_left ?_)
    rintro ⟨_, rfl⟩
    exact differs old
  constructor
  · rintro ⟨there, old, last⟩
    exact ⟨(same old).mp there, old, fun later other there isOld =>
      last later other ((same isOld).mpr there) isOld⟩
  · rintro ⟨there, old, last⟩
    exact ⟨(same old).mpr there, old, fun later other there isOld =>
      last later other ((same isOld).mp there) isOld⟩

theorem Contradicts.place_lt {conflict : Conflict} (contradicts : Contradicts rows place conflict) :
    place < rows.length := by
  obtain ⟨_, _, _, there, _⟩ := contradicts
  exact Migration.place_lt there

theorem Contradicts.place_le {conflict : Conflict}
    (contradicts : Contradicts (rows ++ [row]) place conflict) : place ≤ rows.length := by
  have bound := contradicts.place_lt
  rw [List.length_append, List.length_singleton] at bound
  exact Nat.le_of_lt_succ bound

theorem contradicts_oneMore_inside {conflict : Conflict} (inside : place < rows.length) :
    Contradicts (rows ++ [row]) place conflict ↔ Contradicts rows place conflict := by
  rw [Contradicts, Contradicts, List.getElem?_append_left inside,
    List.take_append_of_le_length (Nat.le_of_lt inside)]

theorem contradicts_oneMore_back {conflict : Conflict} :
    Contradicts (rows ++ [row]) rows.length conflict ↔
      ∃ earlierPlace earlier, LastOf rows row.old earlierPlace earlier ∧ earlier.new ≠ row.new ∧
        conflict = ⟨row.old, earlier.new, row.new, row.line⟩ := by
  simp [Contradicts]

end OneMore

namespace SymbolTable

/-- A table that records its rows: the last new name of every old one, once and in the order of the
bytes, and every conflict. -/
structure Records (table : SymbolTable) (rows : List Row) : Prop where
  lookup_some : ∀ symbol new, table.lookup symbol = some new ↔
    ∃ place row, LastOf rows symbol place row ∧ row.new = new
  lookup_none : ∀ symbol, table.lookup symbol = none ↔ ∀ row ∈ rows, row.old ≠ symbol
  size : table.size = (rows.map (·.old)).toFinset.card
  ascending : table.entries.Pairwise fun entry later =>
    Utf8.encode entry.1 < Utf8.encode later.1
  mem_entries : ∀ old new, (old, new) ∈ table.entries ↔ table.lookup old = some new
  conflicts : AreConflictsOf rows table.conflicts

section Insert

variable {table : SymbolTable} {rows : List Row}

theorem entries_ascending (table : SymbolTable) :
    table.entries.Pairwise fun entry later => Utf8.encode entry.1 < Utf8.encode later.1 :=
  Std.TreeMap.ordered_keys_toList.imp Utf8.encode_lt_of_compare

theorem mem_entries_iff (table : SymbolTable) (old new : Text) :
    (old, new) ∈ table.entries ↔ table.lookup old = some new :=
  Std.TreeMap.mem_toList_iff_getElem?_eq_some

theorem mem_names (table : SymbolTable) (symbol : Text) :
    symbol ∈ table.names ↔ table.lookup symbol ≠ none := by
  rw [lookup, Std.TreeMap.mem_iff_isSome_getElem?, Option.isSome_iff_ne_none]

theorem Records.lookup_of_lastOf (records : table.Records rows) {symbol : Text} {place : Nat}
    {row : Row} (last : LastOf rows symbol place row) : table.lookup symbol = some row.new :=
  (records.lookup_some symbol row.new).mpr ⟨place, row, last, rfl⟩

/-- A row contradicts the table if it contradicts the rows that the table records. -/
theorem Records.conflict?_eq_some (records : table.Records rows) {row : Row} {conflict : Conflict} :
    table.conflict? row = some conflict ↔
      Contradicts (rows ++ [row]) rows.length conflict := by
  rw [contradicts_oneMore_back, SymbolTable.conflict?]
  cases found : table.lookup row.old with
  | none =>
      refine ⟨nofun, ?_⟩
      rintro ⟨_, _, last, _⟩
      exact absurd (records.lookup_of_lastOf last) (by simp [found])
  | some previous =>
      have only {place : Nat} {earlier : Row} (last : LastOf rows row.old place earlier) :
          earlier.new = previous :=
        Option.some.inj ((records.lookup_of_lastOf last).symm.trans found)
      obtain ⟨place, earlier, last, rfl⟩ := (records.lookup_some row.old previous).mp found
      dsimp only
      split
      · next same =>
          refine ⟨nofun, ?_⟩
          rintro ⟨_, _, other, changed, _⟩
          exact absurd ((only other).trans same) changed
      · next changed =>
          constructor
          · intro isConflict
            exact ⟨place, earlier, last, changed, (Option.some.inj isConflict).symm⟩
          · rintro ⟨_, _, other, _, rfl⟩
            rw [only other]

theorem Records.conflicts_insert (records : table.Records rows) (row : Row) :
    AreConflictsOf (rows ++ [row]) (table.insert row).conflicts := by
  obtain ⟨places, ascend, places_iff, paired⟩ := records.conflicts
  have kept : List.Forall₂ (Contradicts (rows ++ [row])) places table.conflicts :=
    paired.imp fun _ _ contradicts =>
      (contradicts_oneMore_inside contradicts.place_lt).mpr contradicts
  have inside {place : Nat} (member : place ∈ places) : place < rows.length := by
    obtain ⟨_, contradicts⟩ := (places_iff place).mp member
    exact contradicts.place_lt
  have places_oneMore (place : Nat) : (∃ conflict, Contradicts (rows ++ [row]) place conflict) ↔
      place ∈ places ∨ place = rows.length ∧ ∃ conflict, table.conflict? row = some conflict := by
    constructor
    · rintro ⟨conflict, contradicts⟩
      rcases Nat.lt_or_eq_of_le contradicts.place_le with before | rfl
      · exact .inl ((places_iff place).mpr
          ⟨conflict, (contradicts_oneMore_inside before).mp contradicts⟩)
      · exact .inr ⟨rfl, conflict, records.conflict?_eq_some.mpr contradicts⟩
    · rintro (member | ⟨rfl, conflict, isConflict⟩)
      · obtain ⟨conflict, contradicts⟩ := (places_iff place).mp member
        exact ⟨conflict, (contradicts_oneMore_inside (inside member)).mpr contradicts⟩
      · exact ⟨conflict, records.conflict?_eq_some.mp isConflict⟩
  cases arises : table.conflict? row with
  | none =>
      refine ⟨places, ascend, fun place => ?_, ?_⟩
      · simp [places_oneMore, arises]
      · simpa [SymbolTable.insert, arises] using kept
  | some conflict =>
      refine ⟨places ++ [rows.length], ?_, fun place => ?_, ?_⟩
      · rw [List.pairwise_append]
        refine ⟨ascend, List.pairwise_singleton _ _, fun place member back isBack => ?_⟩
        rw [List.mem_singleton.mp isBack]
        exact inside member
      · simp [places_oneMore, arises]
      · rw [SymbolTable.insert, arises]
        exact List.rel_append kept (.cons (records.conflict?_eq_some.mp arises) .nil)

theorem Records.insert (records : table.Records rows) (row : Row) :
    (table.insert row).Records (rows ++ [row]) where
  lookup_some symbol new := by
    rw [lookup_insert]
    split
    · next same => simp [lastOf_oneMore_same same]
    · next differs =>
        simpa only [lastOf_oneMore_other differs] using records.lookup_some symbol new
  lookup_none symbol := by
    rw [lookup_insert]
    simp only [List.mem_append, List.mem_singleton]
    split
    · next same => exact ⟨nofun, fun absent => absurd same (absent row (.inr rfl))⟩
    · next differs =>
        rw [records.lookup_none]
        constructor
        · rintro absent other (member | rfl)
          · exact absent other member
          · exact differs
        · exact fun absent other member => absent other (.inl member)
  size := by
    have listed : row.old ∈ table.names ↔ row.old ∈ (rows.map (·.old)).toFinset := by
      rw [mem_names, ne_eq, records.lookup_none]
      simp
    have grown : (table.insert row).size =
        if row.old ∈ table.names then table.size else table.size + 1 := Std.TreeMap.size_insert
    have olds : ((rows ++ [row]).map (·.old)).toFinset =
        Insert.insert row.old (rows.map (·.old)).toFinset := by
      rw [List.map_append, List.toFinset_append, Finset.union_comm]
      rfl
    rw [grown, olds, Finset.card_insert_eq_ite, records.size]
    exact if_congr listed rfl rfl
  ascending := entries_ascending _
  mem_entries := mem_entries_iff _
  conflicts := records.conflicts_insert row

theorem Records.empty : ({} : SymbolTable).Records [] where
  lookup_some symbol new := by
    simp [lookup, LastOf]
  lookup_none symbol := by
    simp [lookup]
  size := rfl
  ascending := entries_ascending _
  mem_entries := mem_entries_iff _
  conflicts := ⟨[], .nil, fun place => by simp [Contradicts], .nil⟩

theorem Records.foldl_insert (rows : List Row) :
    (rows.foldl SymbolTable.insert {}).Records rows := by
  induction rows using List.reverseRecOn with
  | nil => exact .empty
  | append_singleton rows row ih =>
      rw [List.foldl_append]
      exact ih.insert row

end Insert

theorem run_warn_bind (message : String) (next : Reporting α) (verbosity : Verbosity) :
    (Reporting.warn message >>= fun _ => next).run verbosity = ((next.run verbosity).1,
      (if verbosity.shows .warn then [⟨.warn, message⟩] else []) ++ (next.run verbosity).2) := rfl

/-- The table is made together with a warning for every conflict that the rows add. -/
theorem run_extend (table : SymbolTable) (rows : List Row) :
    ∃ more, (rows.foldl SymbolTable.insert table).conflicts = table.conflicts ++ more ∧
      ∀ verbosity, (table.extend rows).run verbosity = (.ok (rows.foldl SymbolTable.insert table),
        if verbosity.shows .warn then more.map fun conflict => ⟨.warn, conflict.warning⟩
        else []) := by
  induction rows generalizing table with
  | nil => exact ⟨[], by simp, fun verbosity => by simp [extend]; rfl⟩
  | cons row rest ih =>
      obtain ⟨more, added, ran⟩ := ih (table.insert row)
      refine ⟨(table.conflict? row).toList ++ more, ?_, fun verbosity => ?_⟩
      · rw [List.foldl_cons, added, SymbolTable.insert, List.append_assoc]
      · rw [extend]
        cases table.conflict? row with
        | none => exact ran verbosity
        | some conflict =>
            refine (run_warn_bind conflict.warning _ verbosity).trans ?_
            rw [ran]
            cases verbosity.shows .warn <;> simp

/-- The table made of rows has the last new name of every old one, holds every old name once and in
the order of the bytes, and reports one conflict, with a warning, for every row that gives another
new name than the nearest row in front with the same old one. -/
theorem ofRows_records (rows : List Row) :
    ∃ table : SymbolTable, table.Records rows ∧
      ∀ verbosity, (ofRows rows).run verbosity = (.ok table,
        if verbosity.shows .warn then
          table.conflicts.map fun conflict => ⟨.warn, conflict.warning⟩
        else []) := by
  obtain ⟨more, added, ran⟩ := run_extend {} rows
  refine ⟨rows.foldl SymbolTable.insert {}, .foldl_insert rows, fun verbosity => ?_⟩
  rw [added, List.nil_append]
  exact ran verbosity

end SymbolTable

end Migration
