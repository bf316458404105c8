import Migration.Correspondences
import Migration.Proofs.ParsedCells
import Migration.Proofs.Remark
import Migration.Proofs.Sequences

namespace Migration

/-! What is found on a build line and what becomes of it.

The audit looks at a line without its terminator and the migration at the whole line.  Both stop at
the same rule and the same declaration, and what the migration makes of the line is another line.
-/

namespace Rule

/-- What a row of the artifact table makes sure of. -/
structure IsRow (rule : Rule) : Prop where
  version : Remark.IsVersion rule.targetVersion
  variableEnds : Remark.EndsSolid rule.versionVariable

theorem ofRow_version_ends {old new : Text} {rule : Rule} (made : ofRow old new = .ok rule) :
    Remark.EndsSolid rule.targetVersion := by
  obtain ⟨_, versionIs, _, versionSome⟩ := (ofRow_eq_ok.mp made).version
  exact versionIs ▸ .of_trim versionSome

theorem ofRow_isRow {old new : Text} {rule : Rule} (made : ofRow old new = .ok rule) :
    rule.IsRow where
  version := by
    obtain ⟨_, versionIs, absent, _⟩ := (ofRow_eq_ok.mp made).version
    obtain ⟨front, last, ends, solid⟩ := ofRow_version_ends made
    refine ⟨?_, last, by simp [ends], solid⟩
    rw [versionIs]
    exact fun member => absent (Text.mem_of_mem_trim member)
  variableEnds := by
    refine ⟨camelCase (wordsOf rule.target.module) ++ "Versio".toList, 'n', ?_, by decide⟩
    rw [(ofRow_eq_ok.mp made).versionVariable, Migration.versionVariable, List.append_assoc]
    rfl

theorem parts?_lineBody (rule : Rule) (line : Text) :
    rule.parts? line = (rule.parts? (Text.lineBody line)).map
      (· ++ Declaration.keptParts (Text.lineEnding line)) := by
  have cut := Declaration.parts?_append (Text.lineEnding_blank line) rule.source.group
    rule.source.module (Text.lineBody line)
  rwa [Text.lineBody_append_lineEnding] at cut

theorem firstVersion?_append_keptParts (parts : List Part) (text : Text) :
    Declaration.firstVersion? (parts ++ Declaration.keptParts text) =
      Declaration.firstVersion? parts := by
  have split : Declaration.firstVersion? (parts ++ Declaration.keptParts text) =
      (Declaration.firstVersion? parts).or
        (Declaration.firstVersion? (Declaration.keptParts text)) :=
    List.findSome?_append
  rw [split, Declaration.firstVersion?_keptParts, Option.or_none]

theorem versionOn_lineBody (rule : Rule) (line : Text) :
    rule.versionOn (Text.lineBody line) = (rule.parts? line).bind Declaration.firstVersion? := by
  rw [versionOn, parts?_lineBody rule line]
  cases rule.parts? (Text.lineBody line) with
  | none => rfl
  | some parts => exact (firstVersion?_append_keptParts parts _).symm

/-- What a rule from the table makes of a line is another line. -/
theorem migrate_ne {rule : Rule} (isRow : rule.IsRow) {line : Text} {parts : List Part}
    (found : rule.parts? line = some parts) :
    annotate rule.targetVersion (parts.flatMap (Part.filled rule.fill)) ≠ line := by
  obtain ⟨old, lead, placeholder, rest, ends⟩ := Declaration.parts?_eq_some found
  have filledEnds : Remark.EndsSolid (rule.fill .version) := isRow.variableEnds
  have changed := Remark.annotate_filled_ne isRow.version ends filledEnds
  rwa [old] at changed

end Rule

namespace Correspondences

def HasRows (known : Correspondences) : Prop :=
  ∀ rule ∈ known.rules, rule.IsRow

theorem ruleOf_eq_ok {source : String} {row : Row} {rule : Rule} :
    ruleOf source row = .ok rule ↔ Rule.ofRow row.old row.new = .ok rule := by
  rw [ruleOf]
  cases Rule.ofRow row.old row.new <;> simp

theorem rulesOf_eq (source : String) (rows : List Row) :
    rulesOf source rows = rows.mapM (ruleOf source) := by
  induction rows with
  | nil => rfl
  | cons row rest ih => rw [rulesOf, ih, List.mapM_cons]

/-- There is one rule for each row, in order. -/
theorem rulesOf_eq_ok {source : String} {rows : List Row} {rules : List Rule} :
    rulesOf source rows = .ok rules ↔
      List.Forall₂ (fun row rule => Rule.ofRow row.old row.new = .ok rule) rows rules := by
  rw [rulesOf_eq, mapM_eq_ok]
  simp only [ruleOf_eq_ok]

/-- Every rule is made of a row. -/
theorem row_of_rulesOf {source : String} {rows : List Row} {rules : List Rule}
    (made : rulesOf source rows = .ok rules) :
    ∀ rule ∈ rules, ∃ row ∈ rows, Rule.ofRow row.old row.new = .ok rule := by
  rw [rulesOf_eq_ok] at made
  induction made with
  | nil => exact List.forall_mem_nil _
  | cons found _ ih =>
      refine List.forall_mem_cons.mpr ⟨⟨_, List.mem_cons_self, found⟩, fun rule member => ?_⟩
      obtain ⟨row, isRow, others⟩ := ih rule member
      exact ⟨row, List.mem_cons_of_mem _ isRow, others⟩

theorem ofRows_rules {symbolRows artifactRows : List Row} {source : String}
    {verbosity : Verbosity} {known : Correspondences}
    (made : (ofRows symbolRows artifactRows source).answer verbosity = .ok known) :
    rulesOf source artifactRows = .ok known.rules := by
  simp only [ofRows, Reporting.answer_bind, Reporting.answer_ofExcept] at made
  obtain ⟨symbols, _, made⟩ := bind_eq_ok.mp made
  obtain ⟨rules, listed, made⟩ := bind_eq_ok.mp made
  obtain ⟨_, _, made⟩ := bind_eq_ok.mp made
  cases made
  exact listed

theorem ofRows_hasRows {symbolRows artifactRows : List Row} {source : String}
    {verbosity : Verbosity} {known : Correspondences}
    (made : (ofRows symbolRows artifactRows source).answer verbosity = .ok known) :
    known.HasRows := by
  intro rule member
  obtain ⟨row, _, found⟩ := row_of_rulesOf (ofRows_rules made) rule member
  exact Rule.ofRow_isRow found

theorem load_hasRows {symbols artifacts : TableSource} {verbosity : Verbosity} {disk : Disk}
    {known : Correspondences}
    (loaded : (load symbols artifacts).answer verbosity disk = .ok known) : known.HasRows := by
  simp only [load, Action.answer_bind, Action.answer_lift] at loaded
  obtain ⟨_, _, loaded⟩ := bind_eq_ok.mp loaded
  obtain ⟨_, _, loaded⟩ := bind_eq_ok.mp loaded
  obtain ⟨_, _, loaded⟩ := bind_eq_ok.mp loaded
  obtain ⟨_, _, loaded⟩ := bind_eq_ok.mp loaded
  exact ofRows_hasRows loaded

/-- The first rule that applies to a line, and how it cuts the line. -/
def applicable (known : Correspondences) (line : Text) : Option (Rule × List Part) :=
  known.rules.findSome? fun rule => (rule.parts? line).map (rule, ·)

theorem findSome?_map (rules : List Rule) {α β : Type} (find : Rule → Option α)
    (use : Rule → α → Option β)
    (uses : ∀ rule value, find rule = some value → (use rule value).isSome = true) :
    rules.findSome? (fun rule => (find rule).bind (use rule)) =
      (rules.findSome? fun rule => (find rule).map (rule, ·)).bind fun found =>
        use found.1 found.2 := by
  induction rules with
  | nil => rfl
  | cons rule rest ih =>
      rw [List.findSome?_cons, List.findSome?_cons]
      cases found : find rule with
      | none => simpa using ih
      | some value =>
          obtain ⟨result, used⟩ := Option.isSome_iff_exists.mp (uses rule value found)
          simp [used]

/-- The audit finds a version exactly where a rule applies. -/
theorem versionOn_lineBody (known : Correspondences) (path : Text) (number : Nat) (line : Text) :
    known.versionOn path number (Text.lineBody line) =
      (known.applicable line).bind fun found =>
        (Declaration.firstVersion? found.2).map fun token =>
          ⟨path, number, token, found.1.versionVariable, found.1.targetVersion⟩ := by
  rw [applicable, ← findSome?_map known.rules (fun rule => rule.parts? line)
    (fun rule parts => (Declaration.firstVersion? parts).map fun token =>
      (⟨path, number, token, rule.versionVariable, rule.targetVersion⟩ : VersionReplacement))]
  · rw [versionOn]
    congr 1
    funext rule
    rw [Rule.replacementOn, Rule.versionOn_lineBody, Option.map_bind]
    rfl
  · intro rule parts found
    rw [Option.isSome_map]
    exact Declaration.firstVersion?_isSome found

def builtLine (known : Correspondences) (line : Text) : Option Text :=
  (known.applicable line).map fun found =>
    Rule.annotate found.1.targetVersion (found.2.flatMap (Part.filled found.1.fill))

theorem findSome?_migrate (known : Correspondences) (line : Text) :
    (known.rules.findSome? fun rule => (rule.migrate line).map (rule, ·)) =
      (known.applicable line).map fun found => (found.1,
        Rule.annotate found.1.targetVersion (found.2.flatMap (Part.filled found.1.fill))) := by
  have joined := findSome?_map known.rules (fun rule => rule.parts? line)
    (fun rule parts => some (rule,
      Rule.annotate rule.targetVersion (parts.flatMap (Part.filled rule.fill))))
    (fun _ _ _ => rfl)
  rw [applicable, Option.map_eq_bind]
  refine Eq.trans ?_ joined
  congr 1
  funext rule
  rw [Rule.migrate, Option.map_map, Option.map_eq_bind]
  rfl

theorem answer_migrateLine (known : Correspondences) (line : Text) (verbosity : Verbosity) :
    (known.migrateLine .buildFile line).answer verbosity = .ok (known.builtLine line) := by
  rw [migrateLine, migrateBuildLine, findSome?_migrate, builtLine]
  cases known.applicable line <;> rfl

/-- The rule that applies to a line before any other, with its parts of the line and the leftmost
version among them. -/
structure AppliesFirst (known : Correspondences) (line : Text) (rule : Rule) (parts : List Part)
    (token : Text) : Prop where
  first : ∃ earlier later, known.rules = earlier ++ rule :: later ∧
    ∀ other ∈ earlier, other.versionOn (Text.lineBody line) = none ∧ other.migrate line = none
  cut : rule.parts? line = some parts
  whole : parts.flatMap Part.old = line
  leftmost : ∃ before after, parts = before ++ .slot .version token :: after ∧
    ∀ other, .slot .version other ∉ before

theorem applicable_eq_some {known : Correspondences} {line : Text} {rule : Rule}
    {parts : List Part} (found : known.applicable line = some (rule, parts)) :
    ∃ token, Declaration.firstVersion? parts = some token ∧
      known.AppliesFirst line rule parts token := by
  obtain ⟨earlier, other, later, split, cut, none⟩ := List.findSome?_eq_some_iff.mp found
  obtain ⟨_, cut, same⟩ := Option.map_eq_some_iff.mp cut
  cases same
  obtain ⟨token, version⟩ :=
    Option.isSome_iff_exists.mp (Declaration.firstVersion?_isSome cut)
  refine ⟨token, version, ⟨earlier, later, split, ?_⟩, cut, (Declaration.parts?_eq_some cut).1,
    Declaration.firstVersion?_eq_some version⟩
  intro other member
  have missing := Option.map_eq_none_iff.mp (none other member)
  rw [Rule.versionOn_lineBody, Rule.migrate, missing]
  exact ⟨rfl, rfl⟩

theorem builtLine_ne {known : Correspondences} (hasRows : known.HasRows) {line new : Text}
    (built : known.builtLine line = some new) : new ≠ line := by
  obtain ⟨⟨rule, parts⟩, found, rfl⟩ := Option.map_eq_some_iff.mp built
  obtain ⟨_, _, ⟨earlier, later, split, _⟩, cut, _⟩ := applicable_eq_some found
  exact Rule.migrate_ne (hasRows rule (split ▸ by simp)) cut

theorem isSome_versionOn (known : Correspondences) (path : Text) (number : Nat) (line : Text) :
    (known.versionOn path number (Text.lineBody line)).isSome = (known.builtLine line).isSome := by
  rw [versionOn_lineBody, builtLine, Option.isSome_map]
  cases found : known.applicable line with
  | none => rfl
  | some first =>
      obtain ⟨token, version, _⟩ := applicable_eq_some found
      simp [version]

end Correspondences

end Migration
