import Mathlib.Data.List.Induction
import Migration.Proofs.NameTables

namespace Migration

/-! Wildcard references and the rows behind them.

The index keeps of every package the packages that its rows lead to, each one once, the first seen
first.  So a wildcard reference fails, is projected or stays as the rows of its package disagree,
agree or are missing, and a projected package is one that the symbol table leads into with every
name it knows.
-/

/-- The packages that the rows take the members of a package to, in order of first appearance. -/
def destinations (rows : List Row) (package : Text) : List Text :=
  ((rows.filter (packageOf ·.old = package)).map (packageOf ·.new)).eraseDups

theorem mem_destinations {rows : List Row} {package target : Text} :
    target ∈ destinations rows package ↔
      ∃ row ∈ rows, packageOf row.old = package ∧ packageOf row.new = target := by
  simp [destinations, List.mem_eraseDups, and_assoc]

theorem destinations_concat (rows : List Row) (row : Row) (package : Text) :
    destinations (rows ++ [row]) package =
      if packageOf row.old = package then
        if packageOf row.new ∈ destinations rows package then destinations rows package
        else destinations rows package ++ [packageOf row.new]
      else destinations rows package := by
  by_cases same : packageOf row.old = package
  · rw [if_pos same]
    simp only [destinations, List.filter_append, List.map_append, List.eraseDups_append,
      List.mem_eraseDups]
    by_cases seen :
        packageOf row.new ∈ (rows.filter (packageOf ·.old = package)).map (packageOf ·.new)
    · rw [if_pos seen]
      simp [same, List.removeAll, seen]
    · rw [if_neg seen]
      simp [same, List.removeAll, seen, List.eraseDups_cons]
  · rw [if_neg same]
    simp [destinations, same]

theorem destinations_ne {rows : List Row} {package first second : Text} {rest : List Text}
    (several : destinations rows package = first :: second :: rest) : first ≠ second := by
  rw [destinations] at several
  cases moved : (rows.filter (packageOf ·.old = package)).map (packageOf ·.new) with
  | nil => simp [moved] at several
  | cons target others =>
      rw [moved, List.eraseDups_cons, List.cons.injEq] at several
      obtain ⟨rfl, later⟩ := several
      have member : second ∈ (others.filter fun other => !other == target).eraseDups :=
        later ▸ List.mem_cons_self
      rw [List.mem_eraseDups, List.mem_filter, Bool.not_eq_true', beq_eq_false_iff_ne] at member
      exact member.2.symm

namespace Projections

/-- The index holds what the rows say, in the order in which they say it. -/
theorem targetsOf_ofRows (rows : List Row) (package : Text) :
    (ofRows rows).targetsOf package = destinations rows package := by
  induction rows using List.reverseRecOn with
  | nil =>
      rw [ofRows, List.foldl_nil, targetsOf, Std.TreeMap.getElem?_emptyc]
      rfl
  | append_singleton rows row ih =>
      rw [destinations_concat, ofRows, List.foldl_append, ← ofRows,
        List.foldl_cons, List.foldl_nil, addRow, targetsOf_add]
      by_cases same : packageOf row.old = package
      · rw [if_pos same, if_pos same, same, ih]
      · rw [if_neg same, if_neg same, ih]

/-- The failure of a wildcard reference whose package went to several packages. -/
def ambiguous (rows : List Row) (reference : Text) : Failure :=
  Cause.ambiguousProjection reference.str (packageOf reference).str
    ((destinations rows (packageOf reference)).map Text.str)

/-- What becomes of a wildcard reference, by the number of packages its package went to. -/
theorem unique_cases (rows : List Row) {reference : Text}
    (star : reference.getLast? = some '*') :
    (destinations rows (packageOf reference) = [] ∧ (ofRows rows).unique reference = .ok none) ∨
    (∃ target, destinations rows (packageOf reference) = [target] ∧
      (ofRows rows).unique reference = .ok (some (target ++ ['*']))) ∨
    ∃ first second rest, destinations rows (packageOf reference) = first :: second :: rest ∧
      first ≠ second ∧ (ofRows rows).unique reference = .error (ambiguous rows reference) := by
  rw [unique, if_pos star, targetsOf_ofRows, ambiguous]
  cases went : destinations rows (packageOf reference) with
  | nil => exact .inl ⟨rfl, rfl⟩
  | cons first others =>
      cases others with
      | nil => exact .inr (.inl ⟨first, rfl, rfl⟩)
      | cons second rest =>
          exact .inr (.inr ⟨first, second, rest, rfl, destinations_ne went, rfl⟩)

section Rows

variable (rows : List Row) {reference : Text} (star : reference.getLast? = some '*')

include star

theorem unique_ofRows_eq_none_iff :
    (ofRows rows).unique reference = .ok none ↔
      ∀ row ∈ rows, packageOf row.old ≠ packageOf reference := by
  have nowhere : destinations rows (packageOf reference) = [] ↔
      ∀ row ∈ rows, packageOf row.old ≠ packageOf reference := by
    simp only [List.eq_nil_iff_forall_not_mem, mem_destinations]
    constructor
    · intro nothing row member inside
      exact nothing _ ⟨row, member, inside, rfl⟩
    · rintro outside target ⟨row, member, inside, _⟩
      exact outside row member inside
  rw [← nowhere]
  rcases unique_cases rows star with ⟨went, becomes⟩ | ⟨target, went, becomes⟩ |
    ⟨first, second, rest, went, _, becomes⟩ <;> simp [went, becomes]

theorem unique_ofRows_eq_some_iff (new : Text) :
    (ofRows rows).unique reference = .ok (some new) ↔
      ∃ package, new = package ++ ['*'] ∧
        (∃ row ∈ rows, packageOf row.old = packageOf reference) ∧
        ∀ row ∈ rows, packageOf row.old = packageOf reference → packageOf row.new = package := by
  have went {row : Row} (member : row ∈ rows)
      (inside : packageOf row.old = packageOf reference) :
      packageOf row.new ∈ destinations rows (packageOf reference) :=
    mem_destinations.mpr ⟨row, member, inside, rfl⟩
  constructor
  · intro projected
    rcases unique_cases rows star with ⟨_, becomes⟩ | ⟨target, alone, becomes⟩ |
      ⟨_, _, _, _, _, becomes⟩
    · rw [becomes] at projected
      cases projected
    · rw [becomes] at projected
      cases projected
      obtain ⟨row, member, inside, _⟩ :=
        mem_destinations.mp (alone ▸ List.mem_singleton_self target)
      refine ⟨target, rfl, ⟨row, member, inside⟩, ?_⟩
      intro other isRow inside
      exact List.mem_singleton.mp (alone ▸ went isRow inside)
    · rw [becomes] at projected
      cases projected
  · rintro ⟨package, rfl, ⟨row, member, inside⟩, agree⟩
    have all : ∀ target ∈ destinations rows (packageOf reference), target = package := by
      intro target member
      obtain ⟨row, isRow, inside, rfl⟩ := mem_destinations.mp member
      exact agree row isRow inside
    rcases unique_cases rows star with ⟨nowhere, _⟩ | ⟨target, alone, becomes⟩ |
      ⟨first, second, rest, several, different, _⟩
    · have missing := went member inside
      rw [nowhere] at missing
      cases missing
    · rw [becomes, all target (by simp [alone])]
    · have sameFirst := all first (by simp [several])
      have sameSecond := all second (by simp [several])
      exact absurd (sameFirst.trans sameSecond.symm) different

theorem unique_ofRows_eq_error_iff (failure : Failure) :
    (ofRows rows).unique reference = .error failure ↔
      (∃ row ∈ rows, ∃ other ∈ rows, packageOf row.old = packageOf reference ∧
        packageOf other.old = packageOf reference ∧ packageOf row.new ≠ packageOf other.new) ∧
      failure = ambiguous rows reference := by
  constructor
  · intro refused
    rcases unique_cases rows star with ⟨_, becomes⟩ | ⟨_, _, becomes⟩ |
      ⟨first, second, rest, several, different, becomes⟩
    · rw [becomes] at refused
      cases refused
    · rw [becomes] at refused
      cases refused
    · rw [becomes] at refused
      cases refused
      obtain ⟨row, isRow, inside, rfl⟩ :=
        mem_destinations.mp (several ▸ List.mem_cons_self)
      obtain ⟨other, isOther, otherInside, rfl⟩ := mem_destinations.mp
        (several ▸ List.mem_cons_of_mem _ List.mem_cons_self)
      exact ⟨⟨row, isRow, other, isOther, inside, otherInside, different⟩, rfl⟩
  · rintro ⟨⟨row, isRow, other, isOther, inside, otherInside, different⟩, rfl⟩
    have known := mem_destinations.mpr ⟨row, isRow, inside, rfl⟩
    have knownOther := mem_destinations.mpr ⟨other, isOther, otherInside, rfl⟩
    rcases unique_cases rows star with ⟨nowhere, _⟩ | ⟨target, alone, _⟩ |
      ⟨_, _, _, _, _, becomes⟩
    · rw [nowhere] at known
      cases known
    · rw [alone, List.mem_singleton] at known knownOther
      exact absurd (known.trans knownOther.symm) different
    · exact becomes

end Rows

end Projections

namespace SymbolTable

/-- The names that the table knows are the old names of its rows. -/
theorem isSome_lookup_ofRows {rows : List Row} {verbosity : Verbosity} {table : SymbolTable}
    (made : (ofRows rows).answer verbosity = .ok table) (symbol : Text) :
    (table.lookup symbol).isSome = true ↔ ∃ row ∈ rows, row.old = symbol := by
  rw [lookup_ofRows made]
  simp

end SymbolTable

namespace Correspondences

/-- The index agrees with the rows it is made of, and with the symbol table made of them: a
wildcard reference stays if no row is about its package, is projected if all those rows lead into
one package, and fails with all packages they lead into if there are several.  Where it is
projected, every name of the package that the table knows leads into the projected package too. -/
theorem unique_agrees_with_rows {symbolRows artifactRows : List Row} {source : String}
    {verbosity : Verbosity} {known : Correspondences}
    (made : (ofRows symbolRows artifactRows source).answer verbosity = .ok known)
    {reference : Text} (star : reference.getLast? = some '*') :
    (known.projections.unique reference = .ok none ↔
      ∀ row ∈ symbolRows, packageOf row.old ≠ packageOf reference) ∧
    (∀ new, known.projections.unique reference = .ok (some new) ↔
      ∃ package, new = package ++ ['*'] ∧
        (∃ row ∈ symbolRows, packageOf row.old = packageOf reference) ∧
        ∀ row ∈ symbolRows, packageOf row.old = packageOf reference →
          packageOf row.new = package) ∧
    (∀ failure : Failure, known.projections.unique reference = .error failure ↔
      (∃ row ∈ symbolRows, ∃ other ∈ symbolRows, packageOf row.old = packageOf reference ∧
        packageOf other.old = packageOf reference ∧ packageOf row.new ≠ packageOf other.new) ∧
      failure = Cause.ambiguousProjection reference.str (packageOf reference).str
        ((destinations symbolRows (packageOf reference)).map Text.str)) ∧
    ∀ package, known.projections.unique reference = .ok (some (package ++ ['*'])) →
      ∀ symbol, packageOf symbol = packageOf reference →
        ((∃ row ∈ symbolRows, row.old = symbol) ↔ (known.symbols.lookup symbol).isSome = true) ∧
        ∀ new, known.symbols.lookup symbol = some new → packageOf new = package := by
  obtain ⟨listed, projected⟩ := ofRows_symbols made
  rw [projected]
  refine ⟨Projections.unique_ofRows_eq_none_iff symbolRows star,
    Projections.unique_ofRows_eq_some_iff symbolRows star,
    Projections.unique_ofRows_eq_error_iff symbolRows star, ?_⟩
  intro package becomes symbol inside
  refine ⟨(SymbolTable.isSome_lookup_ofRows listed symbol).symm, ?_⟩
  intro new found
  obtain ⟨other, same, _, agree⟩ :=
    (Projections.unique_ofRows_eq_some_iff symbolRows star _).mp becomes
  obtain ⟨row, member, rfl, rfl⟩ := SymbolTable.row_of_lookup listed found
  rw [List.append_cancel_right same]
  exact agree row member inside

/-- Rows on two packages, and a name whose first row counts for its package only. -/
def memberRows : List Row := [
  ⟨"a.B".toList, "x.B".toList, 2⟩,
  ⟨"c.D".toList, "y.D".toList, 3⟩,
  ⟨"c.D".toList, "z.D".toList, 4⟩,
  ⟨"c.E".toList, "y.E".toList, 5⟩,
  ⟨"F".toList, "y.F".toList, 6⟩]

/-- The overwritten row makes its package ambiguous, and a star alone stands for the names without
a package. -/
theorem memberRows_unique_agrees_with_rows :
    ∃ known, (ofRows memberRows [] "a").answer .quiet = .ok known ∧
      known.projections.unique "a.*".toList = .ok (some "x.*".toList) ∧
      known.projections.unique "*".toList = .ok (some "y.*".toList) ∧
      known.projections.unique "b.*".toList = .ok none ∧
      known.projections.unique "c.*".toList =
        .error (Cause.ambiguousProjection "c.*" "c." ["y.", "z."]) ∧
      ∃ new, known.symbols.lookup "F".toList = some new ∧ packageOf new = "y.".toList := by
  have isMade : ((ofRows memberRows [] "a").answer .quiet).isOk = true := by decide
  cases made : (ofRows memberRows [] "a").answer .quiet with
  | error failure =>
      rw [made] at isMade
      cases isMade
  | ok known =>
      have projected := fun {reference : Text} => @unique_agrees_with_rows _ _ _ _ _ made reference
      have star := ((@projected "*".toList rfl).2.1 _).mpr
        ⟨"y.".toList, rfl, by decide, by decide⟩
      obtain ⟨isKey, leads⟩ :=
        (@projected "*".toList rfl).2.2.2 _ star "F".toList (by decide)
      obtain ⟨new, found⟩ := Option.isSome_iff_exists.mp (isKey.mp (by decide))
      refine ⟨known, rfl, ?_, star, ?_, ?_, new, found, leads new found⟩
      · exact ((projected rfl).2.1 _).mpr ⟨"x.".toList, rfl, by decide, by decide⟩
      · exact (projected rfl).1.mpr (by decide)
      · exact ((projected rfl).2.2.1 _).mpr ⟨by decide, by decide⟩

end Correspondences

end Migration
