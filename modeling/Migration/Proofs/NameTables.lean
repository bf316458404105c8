import Migration.Correspondences
import Migration.Proofs.Action

namespace Migration

/-! What the rows of the symbol table say.

The new name of an old one is that of its last row.  A package went wherever some row takes one of
its members.
-/

namespace SymbolTable

theorem lookup_insert (table : SymbolTable) (row : Row) (symbol : Text) :
    (table.insert row).lookup symbol =
      if row.old = symbol then some row.new else table.lookup symbol := by
  rw [lookup, insert, Std.TreeMap.getElem?_insert]
  by_cases same : row.old = symbol
  · rw [if_pos (by simp [same]), if_pos same]
  · rw [if_neg (by simpa using same), if_neg same]
    rfl

theorem answer_extend (table : SymbolTable) (rows : List Row) (verbosity : Verbosity) :
    (table.extend rows).answer verbosity = .ok (rows.foldl insert table) := by
  induction rows generalizing table with
  | nil => rfl
  | cons row rest ih =>
      rw [extend]
      cases table.conflict? row with
      | some conflict => exact (Reporting.answer_bind ..).trans (ih (table.insert row))
      | none => exact ih (table.insert row)

theorem lookup_foldl_insert (table : SymbolTable) (rows : List Row) (symbol : Text) :
    (rows.foldl insert table).lookup symbol =
      ((rows.reverse.find? (·.old = symbol)).map (·.new)).or (table.lookup symbol) := by
  induction rows generalizing table with
  | nil => rfl
  | cons row rest ih =>
      rw [List.foldl_cons, ih, lookup_insert, List.reverse_cons, List.find?_append]
      cases later : rest.reverse.find? (·.old = symbol) with
      | some found => rfl
      | none => by_cases same : row.old = symbol <;> simp [same]

/-- The last row of a name gives its new name. -/
theorem lookup_ofRows {rows : List Row} {verbosity : Verbosity} {table : SymbolTable}
    (made : (ofRows rows).answer verbosity = .ok table) (symbol : Text) :
    table.lookup symbol = (rows.reverse.find? (·.old = symbol)).map (·.new) := by
  rw [ofRows, answer_extend, Except.ok.injEq] at made
  have nothing : ({} : SymbolTable).lookup symbol = none := Std.TreeMap.getElem?_emptyc
  rw [← made, lookup_foldl_insert, nothing, Option.or_none]

theorem row_of_lookup {rows : List Row} {verbosity : Verbosity} {table : SymbolTable}
    (made : (ofRows rows).answer verbosity = .ok table) {symbol new : Text}
    (found : table.lookup symbol = some new) : ∃ row ∈ rows, row.old = symbol ∧ row.new = new := by
  rw [lookup_ofRows made] at found
  obtain ⟨row, last, isNew⟩ := Option.map_eq_some_iff.mp found
  have isOld := List.find?_some last
  exact ⟨row, List.mem_reverse.mp (List.mem_of_find?_eq_some last), by simpa using isOld, isNew⟩

end SymbolTable

namespace Projections

theorem targetsOf_add (projections : Projections) (package target other : Text) :
    (projections.add package target).targetsOf other =
      if package = other then
        if target ∈ projections.targetsOf package then projections.targetsOf package
        else projections.targetsOf package ++ [target]
      else projections.targetsOf other := by
  rw [targetsOf, add, Std.TreeMap.getElem?_insert]
  by_cases same : package = other
  · rw [if_pos (by simp [same]), if_pos same]
    rfl
  · rw [if_neg (by simpa using same), if_neg same]
    rfl

theorem mem_targetsOf_add (projections : Projections) (row : Row) (package target : Text) :
    target ∈ (projections.addRow row).targetsOf package ↔
      target ∈ projections.targetsOf package ∨
        (packageOf row.old = package ∧ packageOf row.new = target) := by
  rw [addRow, targetsOf_add]
  by_cases same : packageOf row.old = package
  · rw [if_pos same, same]
    by_cases known : packageOf row.new ∈ projections.targetsOf package
    · rw [if_pos known]
      constructor
      · exact .inl
      · rintro (member | ⟨_, rfl⟩)
        · exact member
        · exact known
    · rw [if_neg known, List.mem_append, List.mem_singleton]
      simp [eq_comm]
  · simp [same]

theorem mem_targetsOf_foldl (projections : Projections) (rows : List Row)
    (package target : Text) :
    target ∈ (rows.foldl addRow projections).targetsOf package ↔
      target ∈ projections.targetsOf package ∨
        ∃ row ∈ rows, packageOf row.old = package ∧ packageOf row.new = target := by
  induction rows generalizing projections with
  | nil => simp
  | cons row rest ih =>
      simp only [List.foldl_cons, ih, mem_targetsOf_add, or_assoc, List.mem_cons,
        exists_eq_or_imp]

/-- A package went where a row takes one of its members. -/
theorem mem_targetsOf_ofRows (rows : List Row) (package target : Text) :
    target ∈ (ofRows rows).targetsOf package ↔
      ∃ row ∈ rows, packageOf row.old = package ∧ packageOf row.new = target := by
  have nothing : ({} : Projections).targetsOf package = [] := by
    rw [targetsOf, Std.TreeMap.getElem?_emptyc]
    rfl
  rw [ofRows, mem_targetsOf_foldl, nothing]
  simp

theorem unique_eq_some {projections : Projections} {reference new : Text}
    (projected : projections.unique reference = .ok (some new)) :
    reference.getLast? = some '*' ∧ ∃ target,
      target ∈ projections.targetsOf (packageOf reference) ∧ new = target ++ ['*'] := by
  rw [unique] at projected
  split at projected
  · next star =>
      refine ⟨star, ?_⟩
      split at projected
      · cases projected
      · next target alone =>
          cases projected
          exact ⟨target, by simp [alone], rfl⟩
      · cases projected
  · cases projected

end Projections

namespace Correspondences

theorem ofRows_symbols {symbolRows artifactRows : List Row} {source : String}
    {verbosity : Verbosity} {known : Correspondences}
    (made : (ofRows symbolRows artifactRows source).answer verbosity = .ok known) :
    (SymbolTable.ofRows symbolRows).answer verbosity = .ok known.symbols ∧
      known.projections = Projections.ofRows symbolRows := by
  simp only [ofRows, Reporting.answer_bind, Reporting.answer_ofExcept] at made
  obtain ⟨symbols, listed, made⟩ := bind_eq_ok.mp made
  obtain ⟨rules, _, made⟩ := bind_eq_ok.mp made
  obtain ⟨_, _, made⟩ := bind_eq_ok.mp made
  cases made
  exact ⟨listed, rfl⟩

end Correspondences

end Migration
