import Migration.Proofs.ChangedFiles
import Migration.Proofs.Migrated

namespace Migration

/-! A second run over build files.

With a clean artifact table, the lines that a migration writes hold nothing for another one to find,
so editing a migrated build file leaves it as it is.
-/

open Text (IsPlain isPlain)

/-! What is found is found in front of more text, too. -/

namespace Declaration

theorem Placeholder.Quoted.append {quote : Char} {text : Text}
    (quoted : Placeholder.Quoted quote text) (more : Text) :
    Placeholder.Quoted quote (text ++ more) := by
  cases quoted with
  | run isRun => simpa using Placeholder.Quoted.run isRun
  | braces isDollar isRun => simpa using Placeholder.Quoted.braces isDollar isRun

theorem Form.Opens.append {form : Form} {text : Text} (opens : form.Opens text) (more : Text) :
    form.Opens (text ++ more) := by
  cases form with
  | coordinate =>
      obtain ⟨c, rest, rfl, token⟩ := opens
      exact ⟨c, rest ++ more, rfl, token⟩
  | keyword =>
      obtain ⟨c, rest, rfl, value⟩ := Placeholder.value_isSome.mp opens
      exact Placeholder.value_isSome.mpr ⟨c, rest ++ more, rfl,
        value.imp id fun quoted => ⟨quoted.1, quoted.2.append more⟩⟩

end Declaration

namespace Rule

theorem DeclaredOn.within {rule : Rule} {form : Declaration.Form} {part whole : Text}
    (declared : rule.DeclaredOn form part) (inside : part <:+: whole) :
    rule.DeclaredOn form whole := by
  obtain ⟨front, behind, rfl⟩ := inside
  obtain ⟨before, rest, rfl, found⟩ := declared
  obtain ⟨shape, left, isForm, valid, rfl, opens⟩ := Declaration.Form.declarationAt_isSome.mp found
  refine ⟨front ++ before, Declaration.textOf (shape.steps [] rule.source.group
    rule.source.module) ++ (left ++ behind), by simp only [List.append_assoc], ?_⟩
  exact Declaration.Form.declarationAt_isSome.mpr ⟨shape, left ++ behind, isForm, valid, rfl,
    opens.append behind⟩

end Rule

/-! The lines of a text that has been put together. -/

namespace Text

theorem mem_lines_flatten {pieces : List Text}
    (ended : ∀ piece ∈ pieces.dropLast, piece.getLast? = some '\n') {line : Text}
    (member : line ∈ lines pieces.flatten) : ∃ piece ∈ pieces, line ∈ lines piece := by
  induction pieces with
  | nil => cases member
  | cons piece rest ih =>
      cases rest with
      | nil => exact ⟨piece, List.mem_cons_self, by simpa using member⟩
      | cons second rest =>
          obtain ⟨firstEnded, restEnded⟩ := List.forall_mem_cons.mp ended
          rw [List.flatten_cons, lines_append firstEnded, List.mem_append] at member
          rcases member with inside | later
          · exact ⟨piece, List.mem_cons_self, inside⟩
          · obtain ⟨other, isOther, inside⟩ := ih restEnded later
            exact ⟨other, List.mem_cons_of_mem _ isOther, inside⟩

theorem infix_of_mem_lines {text line : Text} (member : line ∈ lines text) : line <:+: text := by
  have inside := List.infix_of_mem_flatten member
  rwa [flatten_lines] at inside

end Text

/-! Editing a build file. -/

namespace Correspondences

variable {known : Correspondences} {file : TreeFile} {verbosity : Verbosity}

/-- What becomes of a line, changed or not. -/
def writtenLine (known : Correspondences) (line : Text) : Text :=
  (known.builtLine line).getD line

theorem map_snd_decidedLines (decide : Text → Option Text) (lines : List Text) :
    (decidedLines lines (lines.map decide)).map (·.2) =
      lines.map fun line => (decide line).getD line := by
  induction lines with
  | nil => rfl
  | cons line rest ih => rw [List.map_cons, decidedLines_cons, List.map_cons, ih, List.map_cons]

theorem editText_buildFile (hasRows : known.HasRows) (isBuild : file.kind = .buildFile)
    (trailer : List Text) (verbosity : Verbosity) (text : Text) :
    FileEdit.editText known trailer file verbosity text = .ok {
      text := (Text.lines text).flatMap known.writtenLine
      lineCount := (Text.lines text).length
      changed := (Text.lines text).countP fun line => (known.builtLine line).isSome
      appended := false } := by
  have counted := Run.changedCount_map (fun line new built => builtLine_ne hasRows built)
    (Text.lines text)
  rw [FileEdit.editText_eq, Run.decideAll_buildFile isBuild, Except.map, decidedText, isBuild]
  simp only [map_snd_decidedLines, counted, List.flatMap_def]
  rfl

/-- A text whose lines all stay is kept. -/
theorem editText_kept (hasRows : known.HasRows) (isBuild : file.kind = .buildFile)
    {text : Text} (stays : ∀ line ∈ Text.lines text, known.builtLine line = none)
    (trailer : List Text) (verbosity : Verbosity) :
    FileEdit.editText known trailer file verbosity text = .ok {
      text
      lineCount := (Text.lines text).length
      changed := 0
      appended := false } := by
  have same : (Text.lines text).flatMap known.writtenLine = text := by
    have lines : ∀ line ∈ Text.lines text, known.writtenLine line = line := fun line member => by
      rw [writtenLine, stays line member]
      rfl
    rw [List.flatMap_def, List.map_congr_left lines, List.map_id', Text.flatten_lines]
  have none : ((Text.lines text).countP fun line => (known.builtLine line).isSome) = 0 := by
    rw [List.countP_eq_zero]
    intro line member
    rw [stays line member]
    exact Bool.false_ne_true
  rw [editText_buildFile hasRows isBuild, same, none]

/-- Every line of a migrated build file stays. -/
theorem builtLine_of_written (clean : Rule.AreClean known.rules) {text : Text}
    (once : ∀ line ∈ Text.lines text, (known.builtLine line).isSome = true →
      Rule.DeclareOnce known.rules line)
    {line : Text} (member : line ∈ Text.lines ((Text.lines text).flatMap known.writtenLine)) :
    known.builtLine line = none := by
  have cut := Text.lines_isCut text
  have ended : ∀ piece ∈ ((Text.lines text).map known.writtenLine).dropLast,
      piece.getLast? = some '\n' := by
    intro piece inside
    rw [← List.map_dropLast] at inside
    obtain ⟨old, isOld, rfl⟩ := List.mem_map.mp inside
    rw [writtenLine]
    cases built : known.builtLine old with
    | none => exact cut.ended old isOld
    | some new => exact builtLine_keepsEnd built (cut.ended old isOld)
  rw [List.flatMap_def] at member
  obtain ⟨piece, isPiece, inside⟩ := Text.mem_lines_flatten ended member
  obtain ⟨old, isOld, rfl⟩ := List.mem_map.mp isPiece
  rw [writtenLine] at inside
  cases built : known.builtLine old with
  | none =>
      rw [built, Option.getD_none, Text.lines_single (cut.notEmpty old isOld) (cut.once old isOld),
        List.mem_singleton] at inside
      rwa [inside]
  | some new =>
      rw [built, Option.getD_some] at inside
      have nothing := nothing_of_built clean (once old isOld (by rw [built]; rfl)) built
      exact builtLine_of_nothing fun rule isRule form declared =>
        nothing rule isRule form (declared.within (Text.infix_of_mem_lines inside))

end Correspondences

/-! Clean tables. -/

namespace Rule

theorem ofRow_writes {old new : Text} {rule : Rule} (made : ofRow old new = .ok rule) :
    rule.artifact <:+: new ∧
      rule.versionVariable = Migration.versionVariable rule.target.module :=
  have read := ofRow_eq_ok.mp made
  ⟨(Coordinate.ofTarget_eq_ok.mp read.target).within, read.versionVariable⟩

/-- No group and module that a rule replaces stand in what a row writes. -/
def WriteNoSource (rules : List Rule) (rows : List Row) : Prop :=
  ∀ rule ∈ rules, ∀ row ∈ rows, ¬ rule.source.group ++ ':' :: rule.source.module <:+: row.new

instance (rules : List Rule) (rows : List Row) : Decidable (WriteNoSource rules rows) := by
  unfold WriteNoSource
  infer_instance

theorem areClean_of_rows {source : String} {rows : List Row} {rules : List Rule}
    (made : Correspondences.rulesOf source rows = .ok rules)
    (names : ∀ rule ∈ rules, rule.HasNames) (clean : WriteNoSource rules rows) :
    AreClean rules where
  isRow rule member := by
    obtain ⟨row, _, found⟩ := Correspondences.row_of_rulesOf made rule member
    exact ofRow_isRow found
  named rule member := by
    obtain ⟨row, _, found⟩ := Correspondences.row_of_rulesOf made rule member
    exact ⟨names rule member, (ofRow_writes found).2⟩
  apart rule member other otherMember inside := by
    obtain ⟨row, isRow, found⟩ := Correspondences.row_of_rulesOf made rule member
    rw [← (names rule member).artifact] at inside
    exact clean other otherMember row isRow (inside.trans (ofRow_writes found).1)

end Rule

namespace Correspondences

/-- With clean rows and plain names, a build line on which one artifact is declared is migrated once.
A build file all of whose migrated lines are such is left alone from then on. -/
theorem migrateLine_build_idempotent {symbolRows artifactRows : List Row} {source : String}
    {verbosity : Verbosity} {known : Correspondences}
    (made : (ofRows symbolRows artifactRows source).answer verbosity = .ok known)
    (clean : Rule.WriteNoSource known.rules artifactRows)
    (names : ∀ rule ∈ known.rules, rule.HasNames) :
    (∀ line out, Rule.DeclareOnce known.rules line →
      (known.migrateLine .buildFile line).answer verbosity = .ok (some out) →
      (known.migrateLine .buildFile out).answer verbosity = .ok none) ∧
    ∀ (file : TreeFile) (trailer : List Text) (text : Text) (edited : EditedText),
      file.kind = .buildFile →
      (∀ line ∈ Text.lines text, ∀ out,
        (known.migrateLine .buildFile line).answer verbosity = .ok (some out) →
        Rule.DeclareOnce known.rules line) →
      FileEdit.editText known trailer file verbosity text = .ok edited →
      ∀ disk : Disk, disk.readText file.path = .ok edited.text →
        (FileEdit.migrateFile known { mode := .apply, trailer } file).Yields verbosity disk {
          path := file.path
          kind := .buildFile
          lines := (Text.lines edited.text).length
          changedLines := 0
          appended := false
          written := false
          output := none } disk := by
  have areClean := Rule.areClean_of_rows (ofRows_rules made) names clean
  simp only [answer_migrateLine, Except.ok.injEq]
  constructor
  · intro line out once built
    exact builtLine_of_nothing (nothing_of_built areClean once built)
  · intro file trailer text edited isBuild once reached disk read
    rw [editText_buildFile areClean.isRow isBuild] at reached
    cases reached
    have stays : ∀ line ∈ Text.lines ((Text.lines text).flatMap known.writtenLine),
        known.builtLine line = none := by
      refine fun line member => builtLine_of_written areClean (fun old isOld changed => ?_) member
      obtain ⟨out, built⟩ := Option.isSome_iff_exists.mp changed
      exact once old isOld out built
    have reached : FileEdit.editedText known trailer file verbosity disk =
        FileEdit.editText known trailer file verbosity
          ((Text.lines text).flatMap known.writtenLine) := by
      rw [FileEdit.editedText, read]
      rfl
    have kept := editText_kept areClean.isRow isBuild stays trailer verbosity
    rw [← isBuild]
    exact FileEdit.migrateFile_apply_unchanged (reached.trans kept) rfl

def renamedRows : List Row := [⟨"a:b".toList, "x:y:1".toList, 2⟩]

def renamedRule : Rule where
  source := ⟨"a".toList, "b".toList, none⟩
  target := ⟨"x".toList, "y".toList, some "1".toList⟩
  artifact := "x:y".toList
  targetVersion := "1".toList
  versionVariable := "yVersion".toList

def declaredLine : Text := "a:b:$v a:b:$w\n".toList

def renamedLine : Text := "x:y:$yVersion x:y:$yVersion // Latest version: 1\n".toList

theorem renamedRule_hasNames : renamedRule.HasNames := by decide +kernel

theorem declaredLine_once : Rule.DeclareOnce [renamedRule] declaredLine := by decide +kernel

theorem renamedRows_build_idempotent :
    ∃ known, (ofRows [] renamedRows "a").answer .quiet = .ok known ∧
      (known.migrateLine .buildFile declaredLine).answer .quiet = .ok (some renamedLine) ∧
      (known.migrateLine .buildFile renamedLine).answer .quiet = .ok none := by
  have written : ((ofRows [] renamedRows "a").answer .quiet >>= fun known =>
      (known.migrateLine .buildFile declaredLine).answer .quiet >>= fun migrated =>
        .ok (known.rules, migrated)) = .ok ([renamedRule], some renamedLine) := by
    decide +kernel
  obtain ⟨known, made, written⟩ := bind_eq_ok.mp written
  obtain ⟨_, migrated, written⟩ := bind_eq_ok.mp written
  obtain ⟨rules, rfl⟩ := Prod.mk.inj (Except.ok.inj written)
  have clean : Rule.WriteNoSource known.rules renamedRows := by
    rw [rules]
    decide +kernel
  have names : ∀ rule ∈ known.rules, rule.HasNames := by
    rw [rules]
    exact List.forall_mem_singleton.mpr renamedRule_hasNames
  have again := (migrateLine_build_idempotent made clean names).1 _ _ (rules ▸ declaredLine_once)
    migrated
  exact ⟨known, made, migrated, again⟩

/-! Lines that are migrated twice. -/

/-- Rows that write nothing they replace make a line another one, and make that one another one
again. -/
def MigratesTwice (rows : List Row) (line : Text) : Prop :=
  ∃ known, (ofRows [] rows "a").answer .quiet = .ok known ∧
    Rule.WriteNoSource known.rules rows ∧
    ∃ out, (known.migrateLine .buildFile line).answer .quiet = .ok (some out) ∧
      ∃ again, (known.migrateLine .buildFile out).answer .quiet = .ok (some again)

instance (rows : List Row) (line : Text) : Decidable (MigratesTwice rows line) :=
  match made : (ofRows [] rows "a").answer .quiet with
  | .error failure => isFalse fun ⟨known, answered, _⟩ => by cases made.symm.trans answered
  | .ok known => decidable_of_iff (Rule.WriteNoSource known.rules rows ∧
      ((known.builtLine line).bind known.builtLine).isSome = true) (by
        simp only [MigratesTwice, made, answer_migrateLine, Except.ok.injEq, Option.isSome_bind,
          Option.any_eq_true, Option.isSome_iff_exists, exists_eq_left'])

/-- Two artifacts on a line, one artifact in both forms, a longer name, a new coordinate that is not
written as its group and module, a version left open, the group `version`, and a module that a
coordinate goes on behind. -/
theorem clean_rows_migrate_twice :
    MigratesTwice [⟨"a:b".toList, "x:y:1".toList, 2⟩, ⟨"c:d".toList, "z:w:2".toList, 3⟩]
      "a:b:$v c:d:$w".toList ∧
    MigratesTwice [⟨"a:b".toList, "x:y:1".toList, 2⟩]
      "a:b:$v group:'a',name:'b',version:v".toList ∧
    MigratesTwice [⟨"a.b:c".toList, "b:c:1".toList, 2⟩] "a.a.b:c:$v".toList ∧
    MigratesTwice [⟨"a:b".toList, "a : b:1".toList, 2⟩] "group:'a',name:'b',version:v".toList ∧
    MigratesTwice [⟨"a:b".toList, "x:y:1".toList, 2⟩]
      "a:b:$v group:'a',name:'b',version:".toList ∧
    MigratesTwice [⟨"a:b".toList, "version:c:1".toList, 2⟩, ⟨"g:m".toList, "x:y:1".toList, 3⟩]
      "group:'g',name:'m',a:b:$v".toList ∧
    MigratesTwice [⟨"a:b".toList, "g:$m:1".toList, 2⟩, ⟨"x:g".toList, "y:z:1".toList, 3⟩]
      "x:a:b:$v".toList := by
  decide +kernel

end Correspondences

end Migration
