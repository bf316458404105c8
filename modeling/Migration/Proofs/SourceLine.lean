import Migration.Proofs.NameTables
import Migration.Proofs.Pieces
import Migration.Proofs.Sequences

namespace Migration

/-! Migrating a source line twice.

A name of the line is exchanged for a name of the same form, so that the new line is cut where the
old one was.  Where no row leads to an old name or into an old package, nothing is known about the
names that are new, and the line stays as it is the second time.
-/

theorem packageOf_append (front : Text) {word : Text} (absent : '.' ∉ word) :
    packageOf (front ++ '.' :: word) = front ++ ['.'] := by
  rw [packageOf, Text.splitLast_eq_some.mpr ⟨rfl, absent⟩]

namespace QualifiedName

open Text (IsWordRun isWord)

theorem Path.IsRun.cons {word : Text} (run : IsWordRun word) {path : Path} (rest : path.IsRun) :
    Path.IsRun ⟨word ++ '.' :: path.text, true⟩ := by
  induction rest with
  | word last => exact .dotted (.word run) last
  | @dotted front last _ lastRun ih =>
      have joined := Path.IsRun.dotted ih lastRun
      rwa [List.append_assoc, List.cons_append] at joined

theorem isRun_intercalate {words : List Text} (some : words ≠ [])
    (runs : ∀ word ∈ words, IsWordRun word) :
    Path.IsRun ⟨['.'].intercalate words, decide (2 ≤ words.length)⟩ := by
  induction words with
  | nil => contradiction
  | cons word rest ih =>
      obtain ⟨run, runs⟩ := List.forall_mem_cons.mp runs
      cases rest with
      | nil =>
          rw [List.intercalate_singleton]
          exact .word run
      | cons second rest =>
          have joined := Path.IsRun.cons run (ih (by simp) runs)
          rw [List.intercalate_cons_cons, List.append_assoc, List.singleton_append]
          simpa using joined

/-- A name of two words or more with dots between them. -/
structure IsDotted (name : Text) : Prop where
  many : 2 ≤ (Text.fields '.' name).length
  words : ∀ word ∈ Text.fields '.' name, IsWordRun word

namespace IsDotted

variable {name : Text}

theorem isRun (dotted : IsDotted name) : Path.IsRun ⟨name, true⟩ := by
  have run := isRun_intercalate (Text.fields_ne_nil '.' name) dotted.words
  rwa [Text.intercalate_fields, decide_eq_true dotted.many] at run

/-- A dotted name is a name of its package. -/
theorem exists_package (dotted : IsDotted name) :
    ∃ front : Path, front.IsRun ∧ packageOf name = front.text ++ ['.'] := by
  generalize same : Path.mk name true = path at *
  have run : path.IsRun := same ▸ dotted.isRun
  cases run with
  | word => cases same
  | @dotted front word frontRun run =>
      cases same
      exact ⟨front, frontRun, packageOf_append front.text (run.not_mem Text.dot_not_word)⟩

end IsDotted

/-- What the tables say that a name becomes. -/
def successor (symbols : SymbolTable) (projections : Projections) (name : Text) :
    Except Failure (Option Text) :=
  match symbols.lookup name with
  | some new => .ok (some new)
  | none => projections.unique name

theorem answer_replacement (symbols : SymbolTable) (projections : Projections) (name : Text)
    (verbosity : Verbosity) :
    (replacement symbols projections name).answer verbosity =
      successor symbols projections name := by
  rw [replacement, successor]
  cases symbols.lookup name with
  | some new => rfl
  | none =>
      simp only [Reporting.answer_bind, Reporting.answer_ofExcept]
      cases projections.unique name with
      | error failure => rfl
      | ok projected => cases projected <;> rfl

theorem answer_renew_name (symbols : SymbolTable) (projections : Projections) (name : Text)
    (verbosity : Verbosity) :
    (renew symbols projections (.name name)).answer verbosity =
      (successor symbols projections name).map (·.getD name) := by
  rw [renew, Reporting.answer_bind, answer_replacement]
  cases successor symbols projections name <;> rfl

/-! Names on a line. -/

/-- A name as it is cut out of a line. -/
inductive IsReference : Text → Prop
  | run {path : Path} (run : path.IsRun) : IsReference path.text
  | star {path : Path} (run : path.IsRun) : IsReference (path.text ++ ['.', '*'])

theorem Cutting.isReference {cut : List Piece} (cutting : Cutting cut) {name : Text}
    (member : .name name ∈ cut) : IsReference name := by
  induction cutting with
  | nil => cases member
  | mark mark cut ih =>
      rcases List.mem_cons.mp member with same | later
      · cases same
      · exact ih later
  | @run path rest run ended cut ih =>
      rcases List.mem_cons.mp member with same | later
      · have text : name = path.text := by
          rw [← Path.text_piece, ← same]
          rfl
        exact text ▸ .run run
      · exact ih later
  | @star path rest run cut ih =>
      rcases List.mem_cons.mp member with same | later
      · exact Piece.name.inj same ▸ .star run
      · exact ih later

/-- Rows between dotted names that lead neither to an old name nor into an old package. -/
structure CleanRows (rows : List Row) : Prop where
  old : ∀ row ∈ rows, IsDotted row.old
  new : ∀ row ∈ rows, IsDotted row.new
  names : ∀ row ∈ rows, ∀ other ∈ rows, row.new ≠ other.old
  packages : ∀ row ∈ rows, ∀ other ∈ rows, packageOf row.new ≠ packageOf other.old

/-- Tables made of clean rows. -/
structure CleanTables (symbols : SymbolTable) (projections : Projections) (rows : List Row) :
    Prop where
  clean : CleanRows rows
  symbol : ∀ name new, symbols.lookup name = some new →
    ∃ row ∈ rows, row.old = name ∧ row.new = new
  target : ∀ package target, target ∈ projections.targetsOf package ↔
    ∃ row ∈ rows, packageOf row.old = package ∧ packageOf row.new = target

namespace CleanTables

variable {symbols : SymbolTable} {projections : Projections} {rows : List Row}

theorem lookup_eq_none (tables : CleanTables symbols projections rows) {name : Text}
    (unknown : ∀ row ∈ rows, row.old ≠ name) : symbols.lookup name = none := by
  cases found : symbols.lookup name with
  | none => rfl
  | some new =>
      obtain ⟨row, member, old, _⟩ := tables.symbol name new found
      exact absurd old (unknown row member)

theorem unique_eq_none (tables : CleanTables symbols projections rows) {name : Text}
    (unknown : name.getLast? = some '*' → ∀ row ∈ rows, packageOf row.old ≠ packageOf name) :
    projections.unique name = .ok none := by
  rw [Projections.unique]
  by_cases star : name.getLast? = some '*'
  · have nowhere : projections.targetsOf (packageOf name) = [] := by
      rw [List.eq_nil_iff_forall_not_mem]
      intro target member
      obtain ⟨row, isRow, package, _⟩ := (tables.target _ _).mp member
      exact unknown star row isRow package
    rw [if_pos star, nowhere]
  · rw [if_neg star]

/-- The tables know nothing about a new name. -/
theorem successor_new (tables : CleanTables symbols projections rows) {row : Row}
    (member : row ∈ rows) : successor symbols projections row.new = .ok none := by
  have unknown := tables.lookup_eq_none fun other isRow same =>
    tables.clean.names row member other isRow same.symm
  have plain := tables.unique_eq_none fun star =>
    absurd star (tables.clean.new row member).isRun.getLast?_ne
  rw [successor, unknown, plain]

/-- Nor do they know anything about a new package. -/
theorem successor_newPackage (tables : CleanTables symbols projections rows) {row : Row}
    (member : row ∈ rows) :
    successor symbols projections (packageOf row.new ++ ['*']) = .ok none := by
  have unknown : symbols.lookup (packageOf row.new ++ ['*']) = none :=
    tables.lookup_eq_none fun other isRow same =>
      (tables.clean.old other isRow).isRun.getLast?_ne (by rw [same, List.getLast?_concat])
  have package : packageOf (packageOf row.new ++ ['*']) = packageOf row.new := by
    obtain ⟨front, _, isPackage⟩ := (tables.clean.new row member).exists_package
    rw [isPackage, List.append_assoc]
    exact packageOf_append front.text (by decide)
  have plain : projections.unique (packageOf row.new ++ ['*']) = .ok none :=
    tables.unique_eq_none fun _ other isRow same =>
      tables.clean.packages row member other isRow (package.symm.trans same.symm)
  rw [successor, unknown, plain]

/-- What a name of a line becomes has the same form, is another name, and stays. -/
theorem successor_eq_some (tables : CleanTables symbols projections rows) {name new : Text}
    (reference : IsReference name)
    (becomes : successor symbols projections name = .ok (some new)) :
    KeepsForm (.name name) (.name new) ∧ new ≠ name ∧
      successor symbols projections new = .ok none := by
  rw [successor] at becomes
  cases found : symbols.lookup name with
  | some listed =>
      rw [found] at becomes
      cases becomes
      obtain ⟨row, member, rfl, rfl⟩ := tables.symbol name new found
      refine ⟨?_, tables.clean.names row member row member, tables.successor_new member⟩
      exact .run (tables.clean.old row member).isRun (tables.clean.new row member).isRun rfl
  | none =>
      rw [found] at becomes
      obtain ⟨star, target, member, rfl⟩ := Projections.unique_eq_some becomes
      obtain ⟨row, isRow, old, rfl⟩ := (tables.target _ _).mp member
      obtain ⟨front, frontRun, package⟩ := (tables.clean.new row isRow).exists_package
      cases reference with
      | run run => exact absurd star run.getLast?_ne
      | @star path run =>
          refine ⟨?_, ?_, tables.successor_newPackage isRow⟩
          · rw [package, List.append_assoc]
            exact .star run frontRun
          · intro same
            have known : packageOf (path.text ++ ['.', '*']) = path.text ++ ['.'] :=
              packageOf_append path.text (by decide)
            have split : packageOf row.new ++ ['*'] = (path.text ++ ['.']) ++ ['*'] := by
              rw [same, List.append_assoc]
              rfl
            have packages := List.append_inj_left' split rfl
            exact tables.clean.packages row isRow row isRow
              (packages.trans (known.symm.trans old.symm))

theorem exists_renewed (tables : CleanTables symbols projections rows) {piece : Piece}
    (reference : ∀ name, piece = .name name → IsReference name) {verbosity : Verbosity}
    {text : Text} (renewed : (renew symbols projections piece).answer verbosity = .ok text) :
    ∃ new : Piece, KeepsForm piece new ∧ new.text = text ∧
      (renew symbols projections new).answer verbosity = .ok text := by
  cases piece with
  | gap kept =>
      cases renewed
      exact ⟨.gap _, .same _, rfl, rfl⟩
  | name name =>
      rw [answer_renew_name] at renewed
      cases becomes : successor symbols projections name with
      | error failure =>
          rw [becomes] at renewed
          cases renewed
      | ok found =>
          rw [becomes] at renewed
          cases renewed
          cases found with
          | none => exact ⟨.name name, .same _, rfl, by rw [answer_renew_name, becomes]; rfl⟩
          | some new =>
              obtain ⟨keeps, _, stays⟩ := tables.successor_eq_some (reference name rfl) becomes
              exact ⟨.name new, keeps, rfl, by rw [answer_renew_name, stays]; rfl⟩

theorem exists_allRenewed (tables : CleanTables symbols projections rows) {before : List Piece}
    (references : ∀ name, .name name ∈ before → IsReference name) {verbosity : Verbosity}
    {texts : List Text}
    (renewed : List.Forall₂
      (fun piece text => (renew symbols projections piece).answer verbosity = .ok text)
      before texts) :
    ∃ after, List.Forall₂ KeepsForm before after ∧ after.map Piece.text = texts ∧
      List.Forall₂
        (fun piece text => (renew symbols projections piece).answer verbosity = .ok text)
        after texts := by
  induction renewed with
  | nil => exact ⟨[], .nil, rfl, .nil⟩
  | @cons piece text before texts first _ ih =>
      obtain ⟨new, keeps, rfl, stays⟩ := tables.exists_renewed
        (fun name same => references name (same ▸ List.mem_cons_self)) first
      obtain ⟨after, laterKeep, rfl, laterStay⟩ := ih fun name member =>
        references name (List.mem_cons_of_mem _ member)
      exact ⟨new :: after, .cons keeps laterKeep, rfl, .cons stays laterStay⟩

end CleanTables

theorem migrate_eq_ok {symbols : SymbolTable} {projections : Projections} {line : Text}
    {verbosity : Verbosity} {result : Option Text} :
    (migrate symbols projections line).answer verbosity = .ok result ↔
      ∃ texts,
        List.Forall₂
          (fun piece text => (renew symbols projections piece).answer verbosity = .ok text)
          (pieces line) texts ∧
        (if texts = (pieces line).map Piece.text then none else some texts.flatten) = result := by
  simp only [migrate, Reporting.answer_bind, Reporting.answer_pure]
  rw [bind_eq_ok]
  simp only [Reporting.forEach_eq_ok, Except.ok.injEq]

theorem texts_of_migrated {symbols : SymbolTable} {projections : Projections} {line out : Text}
    {verbosity : Verbosity}
    (migrated : (migrate symbols projections line).answer verbosity = .ok (some out)) :
    ∃ texts,
      List.Forall₂
        (fun piece text => (renew symbols projections piece).answer verbosity = .ok text)
        (pieces line) texts ∧
      out = texts.flatten := by
  obtain ⟨texts, renewed, result⟩ := migrate_eq_ok.mp migrated
  refine ⟨texts, renewed, ?_⟩
  split at result
  · cases result
  · exact (Option.some.inj result).symm

theorem CleanTables.migrate_migrated {symbols : SymbolTable} {projections : Projections}
    {rows : List Row} (tables : CleanTables symbols projections rows) {line out : Text}
    {verbosity : Verbosity}
    (migrated : (migrate symbols projections line).answer verbosity = .ok (some out)) :
    (migrate symbols projections out).answer verbosity = .ok none := by
  obtain ⟨texts, renewed, written⟩ := texts_of_migrated migrated
  obtain ⟨after, keeps, rfl, stays⟩ := tables.exists_allRenewed
    (fun name member => (pieces_cutting line).isReference member) renewed
  -- The new line is cut into the pieces that stand in the place of the old ones.
  have cut : pieces out = after := by
    rw [written, ← List.flatMap_def]
    exact pieces_exchanged keeps
  exact migrate_eq_ok.mpr ⟨after.map Piece.text, cut ▸ stays, by rw [cut, if_pos rfl]⟩

theorem CleanTables.successor_of_kept {symbols : SymbolTable} {projections : Projections}
    {rows : List Row} (tables : CleanTables symbols projections rows) {line : Text}
    {verbosity : Verbosity}
    (kept : (migrate symbols projections line).answer verbosity = .ok none) {name : Text}
    (member : .name name ∈ pieces line) : successor symbols projections name = .ok none := by
  obtain ⟨texts, renewed, result⟩ := migrate_eq_ok.mp kept
  have same : texts = (pieces line).map Piece.text := by
    split at result
    · assumption
    · cases result
  rw [same, List.forall₂_map_right_iff, List.forall₂_same] at renewed
  have stays := renewed _ member
  rw [answer_renew_name] at stays
  cases becomes : successor symbols projections name with
  | error failure =>
      rw [becomes] at stays
      cases stays
  | ok found =>
      cases found with
      | none => rfl
      | some new =>
          rw [becomes] at stays
          obtain ⟨_, different, _⟩ := tables.successor_eq_some
            ((pieces_cutting line).isReference member) becomes
          exact absurd (Except.ok.inj stays) different

end QualifiedName

namespace Correspondences

open QualifiedName (CleanRows CleanTables Piece pieces)

theorem ofRows_cleanTables {rows artifactRows : List Row} {source : String}
    {verbosity : Verbosity} {known : Correspondences}
    (made : (ofRows rows artifactRows source).answer verbosity = .ok known)
    (clean : CleanRows rows) : CleanTables known.symbols known.projections rows := by
  obtain ⟨listed, projected⟩ := ofRows_symbols made
  refine ⟨clean, fun name new found => SymbolTable.row_of_lookup listed found, ?_⟩
  rw [projected]
  exact Projections.mem_targetsOf_ofRows rows

/-- With clean rows, a source line that changes does not change again, and on one that does not
change nothing is known about any name. -/
theorem migrateLine_source_idempotent {rows artifactRows : List Row} {source : String}
    {verbosity : Verbosity} {known : Correspondences}
    (made : (ofRows rows artifactRows source).answer verbosity = .ok known)
    (clean : CleanRows rows) (line : Text) :
    (∀ out, (known.migrateLine .source line).answer verbosity = .ok (some out) →
      (known.migrateLine .source out).answer verbosity = .ok none) ∧
    ((known.migrateLine .source line).answer verbosity = .ok none →
      ∀ name, Piece.name name ∈ pieces line →
        known.symbols.lookup name = none ∧ known.projections.unique name = .ok none) := by
  have tables := ofRows_cleanTables made clean
  refine ⟨fun out migrated => tables.migrate_migrated migrated, ?_⟩
  intro kept name member
  have unknown := tables.successor_of_kept kept member
  rw [QualifiedName.successor] at unknown
  split at unknown
  · cases unknown
  · next missing => exact ⟨missing, unknown⟩

def sampleRows : List Row := [⟨"a.B".toList, "c.D".toList, 2⟩]

theorem sampleRows_clean : CleanRows sampleRows where
  old := by
    simp only [sampleRows, List.mem_singleton, forall_eq]
    exact ⟨by decide, by decide⟩
  new := by
    simp only [sampleRows, List.mem_singleton, forall_eq]
    exact ⟨by decide, by decide⟩
  names := by decide
  packages := by decide

/-- Dots and words around a name have no part in it. -/
theorem sampleRows_migrateLine_source_idempotent :
    ∃ known, (ofRows sampleRows [] "a").answer .quiet = .ok known ∧
      (known.migrateLine .source "import a.*; .a.B a.Bb".toList).answer .quiet =
        .ok (some "import c.*; .c.D a.Bb".toList) ∧
      (known.migrateLine .source "import c.*; .c.D a.Bb".toList).answer .quiet = .ok none := by
  have written : ((ofRows sampleRows [] "a").answer .quiet >>= fun known =>
      (known.migrateLine .source "import a.*; .a.B a.Bb".toList).answer .quiet) =
        .ok (some "import c.*; .c.D a.Bb".toList) := by decide
  obtain ⟨known, made, migrated⟩ := bind_eq_ok.mp written
  have again := (migrateLine_source_idempotent made sampleRows_clean _).1 _ migrated
  exact ⟨known, made, migrated, again⟩

end Correspondences

end Migration
