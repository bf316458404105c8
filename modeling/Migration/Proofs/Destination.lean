import Migration.Proofs.CoordinateForm
import Migration.Proofs.Trimmed

namespace Migration

/-! What the two forms write for a new coordinate.

The coordinate form writes the text in front of the last colon as the table has it, and the keyword
form writes the first two fields of that text without the white space around them.  These come to
the same exactly if there is a field for the group, one for the module and one for the version, and
no white space next to the colon between group and module.
-/

namespace Coordinate

open Text (SolidEnds)

/-- A new coordinate of three fields that has no white space next to its first colon. -/
def IsTidy (cell : Text) : Prop :=
  ∃ group module version : Text, cell = group ++ ':' :: (module ++ ':' :: version) ∧
    ':' ∉ group ∧ ':' ∉ module ∧ ':' ∉ version ∧
    (∀ c, group.getLast? = some c → Text.isBlank c = false) ∧
    (∀ c, module.head? = some c → Text.isBlank c = false)

/-- Group and module with the colon between them are what stands in front of the last colon if there
is nothing else in it. -/
theorem artifact_eq_iff {artifact group behind module : Text} {rest : List Text}
    (solid : SolidEnds artifact) (whole : artifact = group ++ ':' :: behind)
    (absent : ':' ∉ group) (fields : Text.fields ':' behind = module :: rest)
    (behindSome : behind ≠ []) :
    artifact = Text.trim group ++ ':' :: Text.trim module ↔
      (∀ c, group.getLast? = some c → Text.isBlank c = false) ∧ ':' ∉ behind ∧
        (∀ c, behind.head? = some c → Text.isBlank c = false) := by
  have firstSolid : ∀ c, group.head? = some c → Text.isBlank c = false := by
    intro c starts
    exact solid.first c (by rw [whole, List.head?_append, starts, Option.some_or])
  have lastSolid : ∀ c, behind.getLast? = some c → Text.isBlank c = false := by
    intro c ends
    refine solid.last c ?_
    rw [whole, List.getLast?_append_of_ne_nil _ (List.cons_ne_nil _ _),
      List.getLast?_cons_of_ne_nil behindSome, ends]
  constructor
  · intro same
    have moduleAbsent : ':' ∉ Text.trim module := fun member =>
      Text.not_mem_fields behind module (fields ▸ List.mem_cons_self) (Text.mem_of_mem_trim member)
    obtain ⟨groupIs, behindIs⟩ := Text.append_mark_inj absent
      (fun member => absent (Text.mem_of_mem_trim member)) (whole.symm.trans same)
    rw [behindIs]
    refine ⟨?_, moduleAbsent, (Text.solidEnds_trim module).first⟩
    rw [groupIs]
    exact (Text.solidEnds_trim group).last
  · rintro ⟨groupLast, behindAbsent, behindFirst⟩
    rw [Text.fields_of_not_mem behindAbsent] at fields
    cases fields
    rw [Text.trim_of_solidEnds ⟨firstSolid, groupLast⟩,
      Text.trim_of_solidEnds ⟨behindFirst, lastSolid⟩]
    exact whole

theorem ofTarget_artifact_iff {cell artifact : Text} {target : Coordinate}
    (parsed : ofTarget cell = .ok (target, artifact)) :
    artifact = target.group ++ ':' :: target.module ↔ IsTidy cell := by
  obtain ⟨⟨front, version, cut, versionAbsent, _, rfl, _⟩, ⟨_, trimmed⟩, groupSome, moduleSome⟩ :=
    ofTarget_eq_ok.mp parsed
  obtain ⟨group, others, fields, groupIs, trimmed⟩ := List.map_eq_cons_iff.mp trimmed
  obtain ⟨module, rest, rfl, moduleIs, _⟩ := List.map_eq_cons_iff.mp trimmed
  obtain ⟨behind, whole, behindFields⟩ := Text.fields_eq_cons_cons fields
  have groupAbsent : ':' ∉ group :=
    Text.not_mem_fields (Text.trim front) group (fields ▸ List.mem_cons_self)
  have groupNotEmpty : group ≠ [] := by
    rintro rfl
    exact groupSome groupIs.symm
  have behindNotEmpty : behind ≠ [] := by
    rintro rfl
    cases behindFields
    exact moduleSome moduleIs.symm
  rw [← groupIs, ← moduleIs, artifact_eq_iff (Text.solidEnds_trim front) whole groupAbsent behindFields
    behindNotEmpty]
  -- The white space that trimming takes away does not stand next to the first colon.
  obtain ⟨before, after, beforeBlank, afterBlank, cellIs⟩ := Text.exists_trim cell
  obtain ⟨lead, gap, leadBlank, gapBlank, frontIs⟩ := Text.exists_trim front
  have noColon {text : Text} (blank : text.Blank) : ':' ∉ text := fun member =>
    Bool.false_ne_true (blank ':' member)
  have spelled : cell = before ++ lead ++ group ++
      ':' :: (behind ++ gap ++ ':' :: (version ++ after)) := by
    rw [cellIs, cut, frontIs, whole]
    simp
  have firstAbsent : ':' ∉ before ++ lead ++ group := by
    simp [noColon beforeBlank, noColon leadBlank, groupAbsent]
  have lastAbsent : ':' ∉ version ++ after := by
    simp [versionAbsent, noColon afterBlank]
  have sameLast : (before ++ lead ++ group).getLast? = group.getLast? :=
    List.getLast?_append_of_ne_nil _ groupNotEmpty
  have sameFirst : (behind ++ gap).head? = behind.head? :=
    List.head?_append_of_ne_nil _ behindNotEmpty
  rw [← sameLast, ← sameFirst]
  constructor
  · rintro ⟨groupLast, behindAbsent, behindFirst⟩
    refine ⟨_, _, _, spelled, firstAbsent, ?_, lastAbsent, groupLast, behindFirst⟩
    simp [behindAbsent, noColon gapBlank]
  · rintro ⟨_, _, _, same, groupFree, moduleFree, versionFree, groupLast, moduleFirst⟩
    obtain ⟨rfl, tail⟩ := Text.append_mark_inj firstAbsent groupFree (spelled.symm.trans same)
    obtain ⟨rfl, _⟩ := Text.append_last_inj lastAbsent versionFree tail
    exact ⟨groupLast, fun member => moduleFree (List.mem_append_left _ member), moduleFirst⟩

end Coordinate

namespace Rule

open Declaration

/-- What a declaration in keyword form is made of, and what becomes of it. -/
theorem filled_keywordAt (rule : Rule) {text : Text} {parts : List Part}
    (found : keywordAt rule.source.group rule.source.module text = some parts) :
    ∃ front middle lead token closing : Text,
      parts.flatMap Part.old = front ++ rule.source.group ++ middle ++ rule.source.module ++
        lead ++ token ++ closing ∧
      parts.flatMap (Part.filled rule.fill) = front ++ rule.target.group ++ middle ++
        rule.target.module ++ lead ++ rule.versionVariable ++ closing := by
  cases keywordAt_form found with
  | @found groupKey firstComma nameKey secondComma versionKey _ groupQuote moduleQuote version =>
      refine ⟨"group".toList ++ groupKey ++ [groupQuote],
        groupQuote :: firstComma ++ ("name".toList ++ nameKey) ++ [moduleQuote],
        moduleQuote :: secondComma ++ ("version".toList ++ versionKey) ++ version.opening,
        version.token, version.closing, ?_, ?_⟩
      · simp [Part.old]
      · simp [Part.filled, fill]

/-- The coordinate form writes what the table has in front of the last colon, and the keyword form
writes group and module of the new coordinate.  Both write the same if and only if the new
coordinate is tidy. -/
theorem forms_write_target {old new : Text} {rule : Rule} (made : ofRow old new = .ok rule) :
    (rule.artifact = rule.target.group ++ ':' :: rule.target.module ↔ Coordinate.IsTidy new) ∧
    (∃ front version : Text, Text.trim new = front ++ ':' :: version ∧ ':' ∉ version ∧
      rule.artifact = Text.trim front) ∧
    (∀ line uses left, Uses rule.source.group rule.source.module line uses left → uses ≠ [] →
      uses.flatMap (fun use =>
          use.text (rule.source.group ++ ':' :: rule.source.module) use.token) ++ left = line ∧
        rule.migrate line = some (annotate rule.targetVersion
          (uses.flatMap (Use.text rule.artifact rule.versionVariable) ++ left))) ∧
    ∀ text parts, keywordAt rule.source.group rule.source.module text = some parts →
      ∃ front middle lead token closing : Text,
        parts.flatMap Part.old = front ++ rule.source.group ++ middle ++ rule.source.module ++
          lead ++ token ++ closing ∧
        parts.flatMap (Part.filled rule.fill) = front ++ rule.target.group ++ middle ++
          rule.target.module ++ lead ++ rule.versionVariable ++ closing := by
  have parsed := (ofRow_eq_ok.mp made).target
  obtain ⟨front, version, cut, absent, _, artifact, _⟩ := (Coordinate.ofTarget_eq_ok.mp parsed).cut
  exact ⟨Coordinate.ofTarget_artifact_iff parsed, ⟨front, version, cut, absent, artifact⟩,
    fun line uses left used some => ⟨line_of_uses used, rule.migrate_of_uses used some⟩,
    fun text parts found => rule.filled_keywordAt found⟩

set_option maxRecDepth 4000 in
/-- White space around the first colon is written in one form only. -/
theorem spaced_forms_differ :
    ∃ rule, ofRow "a:b".toList "x : y:1".toList = .ok rule ∧
      rule.target = ⟨"x".toList, "y".toList, some "1".toList⟩ ∧
      rule.artifact = "x : y".toList ∧
      rule.migrate "a:b:$v".toList = some "x : y:$yVersion // Latest version: 1".toList ∧
      rule.migrate "group:'a',name:'b',version:v".toList =
        some "group:'x',name:'y',version:yVersion // Latest version: 1".toList := by
  refine ⟨⟨⟨"a".toList, "b".toList, none⟩, ⟨"x".toList, "y".toList, some "1".toList⟩,
    "x : y".toList, "1".toList, "yVersion".toList⟩, rfl, rfl, rfl, by decide, by decide⟩

theorem library_forms_agree :
    ofRow "a:b".toList "x:y:1".toList = .ok libraryRule ∧
      libraryRule.artifact = libraryRule.target.group ++ ':' :: libraryRule.target.module ∧
      libraryRule.migrate openLine =
        some "x:y:$\x7byVersion\x7d // Latest version: 1\n".toList := by
  obtain ⟨tidy, _, uses, _⟩ := forms_write_target libraryRule_made
  have spelled : Coordinate.IsTidy "x:y:1".toList :=
    ⟨"x".toList, "y".toList, "1".toList, rfl, by decide, by decide, by decide,
      fun c ends => by cases ends; rfl, fun c starts => by cases starts; rfl⟩
  exact ⟨libraryRule_made, tidy.mpr spelled,
    (uses openLine [openUse] "\n".toList openLine_uses (List.cons_ne_nil _ _)).2⟩

end Rule

end Migration
