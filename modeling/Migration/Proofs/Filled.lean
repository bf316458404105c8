import Migration.Artifact.Rule
import Migration.Proofs.Tail

namespace Migration

/-! A line beside the same line with its declarations filled.

The two differ in their slots only, and behind the filled line stands the remark.  What is declared
on the filled line, other than what the declarations there are filled with, is declared on the line
itself.
-/

open Text (IsPlain isPlain StartsPlain)

namespace Rule

/-- The names of a rule are plain, none is the keyword of a version, and the rule writes its target as
group and module with a colon between them. -/
structure HasNames (rule : Rule) : Prop where
  sourceGroup : IsPlain rule.source.group
  sourceModule : IsPlain rule.source.module
  targetGroup : IsPlain rule.target.group
  targetModule : IsPlain rule.target.module
  noKeyword : rule.target.group ≠ "version".toList
  artifact : rule.artifact = rule.target.group ++ ':' :: rule.target.module

instance (rule : Rule) : Decidable rule.HasNames :=
  decidable_of_iff (IsPlain rule.source.group ∧ IsPlain rule.source.module ∧
      IsPlain rule.target.group ∧ IsPlain rule.target.module ∧
      rule.target.group ≠ "version".toList ∧
      rule.artifact = rule.target.group ++ ':' :: rule.target.module)
    ⟨fun ⟨sourceGroup, sourceModule, targetGroup, targetModule, noKeyword, artifact⟩ =>
      ⟨sourceGroup, sourceModule, targetGroup, targetModule, noKeyword, artifact⟩,
    fun ⟨sourceGroup, sourceModule, targetGroup, targetModule, noKeyword, artifact⟩ =>
      ⟨sourceGroup, sourceModule, targetGroup, targetModule, noKeyword, artifact⟩⟩

/-- The version variable is named after the module, too. -/
structure IsNamed (rule : Rule) : Prop extends rule.HasNames where
  versionVariable : rule.versionVariable = Migration.versionVariable rule.target.module

theorem IsNamed.variablePlain {rule : Rule} (named : rule.IsNamed) :
    IsPlain rule.versionVariable := by
  rw [named.versionVariable]
  refine ⟨List.append_ne_nil_of_right_ne_nil _ (by decide), fun c member => ?_⟩
  rw [isPlain, isLetter_versionVariable _ c member]
  rfl

theorem IsNamed.variableEnds {rule : Rule} (named : rule.IsNamed) :
    rule.versionVariable.getLast? = some 'n' := by
  rw [named.versionVariable, Migration.versionVariable, List.getLast?_append]
  rfl

def declarationAt (rule : Rule) (form : Declaration.Form) : Text → Option (List Part) :=
  form.declarationAt rule.source.group rule.source.module

end Rule

namespace Declaration

def Placed.old (placed : Placed) (rule : Rule) : Text :=
  placed.text rule.source.group rule.source.module placed.token

def Placed.new (placed : Placed) (rule : Rule) : Text :=
  placed.text rule.target.group rule.target.module rule.versionVariable

/-- The second text is the first one with the declarations of a rule filled and `tail` behind. -/
inductive Aligned (rule : Rule) (form : Form) (tail : Text) : Text → Text → Prop
  | tail : Aligned rule form tail [] tail
  | kept {c : Char} {old new : Text} (none : rule.declarationAt form (c :: old) = none)
      (rest : Aligned rule form tail old new) : Aligned rule form tail (c :: old) (c :: new)
  | declared {placed : Placed} {old new : Text} (isPlaced : placed.IsPlaced form old)
      (found : (rule.declarationAt form (placed.old rule ++ old)).isSome = true)
      (rest : Aligned rule form tail old new) :
      Aligned rule form tail (placed.old rule ++ old) (placed.new rule ++ new)

section Placed

variable {placed : Placed} {rule : Rule} {form : Form} {rest : Text}

theorem Placed.IsPlaced.startsPlain {group module : Text} (isPlaced : placed.IsPlaced form rest)
    (groupPlain : IsPlain group) (modulePlain : IsPlain module) (version behind : Text) :
    StartsPlain (placed.text group module version ++ behind) := by
  have spells : placed.shape.Spells placed.opening group module :=
    ⟨isPlaced.valid, isPlaced.openingMarks, groupPlain, modulePlain⟩
  rw [Placed.text_append]
  exact spells.startsPlain _

theorem Placed.IsPlaced.old_startsPlain (isPlaced : placed.IsPlaced form rest) (named : rule.IsNamed)
    (behind : Text) : StartsPlain (placed.old rule ++ behind) :=
  isPlaced.startsPlain named.sourceGroup named.sourceModule _ behind

theorem Placed.IsPlaced.new_startsPlain (isPlaced : placed.IsPlaced form rest) (named : rule.IsNamed)
    (behind : Text) : StartsPlain (placed.new rule ++ behind) :=
  isPlaced.startsPlain named.targetGroup named.targetModule _ behind

end Placed


namespace Aligned

variable {rule : Rule} {form : Form} {tail old new : Text}

/-- Where a part of the filled line begins. -/
theorem cases_of_suffix (aligned : Aligned rule form tail old new) {front behind : Text}
    (split : new = front ++ behind) :
    (∃ before c left rest, old = before ++ c :: left ∧ behind = c :: rest ∧
      rule.declarationAt form (c :: left) = none ∧ Aligned rule form tail left rest) ∨
    (∃ placed start part left rest, Placed.IsPlaced placed form left ∧
      placed.new rule = start ++ part ∧ part ≠ [] ∧ behind = part ++ rest ∧
      Aligned rule form tail left rest) ∨
    ∃ start, tail = start ++ behind := by
  induction aligned generalizing front with
  | tail => exact .inr (.inr ⟨front, split⟩)
  | @kept c left rest none aligned ih =>
      cases front with
      | nil => exact .inl ⟨[], c, left, rest, rfl, split.symm, none, aligned⟩
      | cons d front =>
          rcases ih (List.cons.inj split).2 with ⟨before, later⟩ | later
          · obtain ⟨d, left, rest, rfl, later⟩ := later
            exact .inl ⟨c :: before, d, left, rest, rfl, later⟩
          · exact .inr later
  | @declared placed left rest isPlaced found aligned ih =>
      rcases append_cases split with ⟨part, notEmpty, written, behindIs⟩ | ⟨later, -, split⟩
      · exact .inr (.inl ⟨placed, front, part, left, rest, isPlaced, written, notEmpty, behindIs,
          aligned⟩)
      · rcases ih split with ⟨before, others⟩ | others
        · obtain ⟨d, left, rest, rfl, others⟩ := others
          exact .inl ⟨placed.old rule ++ before, d, left, rest, by simp, others⟩
        · exact .inr others

/-- What a text at the start of the filled line is made of: the start of the line, up to a
declaration, or up to the tail, if it goes as far. -/
theorem cases_of_prefix (aligned : Aligned rule form tail old new) {front behind : Text}
    (split : new = front ++ behind) :
    (∃ left, old = front ++ left ∧ Aligned rule form tail left behind) ∨
    (∃ placed start part left rest, front = start ++ part ∧ part ≠ [] ∧
      old = start ++ (Placed.old placed rule ++ left) ∧ part ++ behind = placed.new rule ++ rest ∧
      placed.IsPlaced form left ∧
      (rule.declarationAt form (placed.old rule ++ left)).isSome = true ∧
      Aligned rule form tail left rest) ∨
    ∃ part, front = old ++ part ∧ part ≠ [] ∧ part ++ behind = tail := by
  induction aligned generalizing front with
  | tail =>
      cases front with
      | nil => exact .inl ⟨[], rfl, split ▸ .tail⟩
      | cons c front => exact .inr (.inr ⟨c :: front, rfl, List.cons_ne_nil _ _, split.symm⟩)
  | @kept c left rest none aligned ih =>
      cases front with
      | nil =>
          rw [List.nil_append] at split
          exact .inl ⟨c :: left, rfl, split ▸ .kept none aligned⟩
      | cons d front =>
          obtain ⟨rfl, tails⟩ := List.cons.inj split
          rcases ih tails with ⟨others, rfl, copied⟩ | later | ⟨part, rfl, later⟩
          · exact .inl ⟨others, rfl, copied⟩
          · obtain ⟨placed, start, part, others, behind, rfl, notEmpty, rfl, later⟩ := later
            exact .inr (.inl ⟨placed, c :: start, part, others, behind, rfl, notEmpty, rfl, later⟩)
          · exact .inr (.inr ⟨part, rfl, later⟩)
  | @declared placed left rest isPlaced found aligned ih =>
      by_cases nothing : front = []
      · subst nothing
        rw [List.nil_append] at split
        exact .inl ⟨_, rfl, split ▸ .declared isPlaced found aligned⟩
      · exact .inr (.inl ⟨placed, [], front, left, rest, rfl, nothing, rfl, split.symm, isPlaced,
          found, aligned⟩)

/-! Behind a filled declaration stands what stood behind it, or the remark. -/

theorem endsName (named : rule.IsNamed) (isTail : IsTail tail)
    (aligned : Aligned rule form tail old new) (ended : EndsName old) : EndsName new := by
  cases aligned with
  | tail => exact isTail.endsName
  | kept => exact ended
  | @declared placed left rest isPlaced found aligned =>
      have started := isPlaced.old_startsPlain named left
      exact absurd started ended.endsPlain.not_startsPlain

theorem isPlaced {placed : Placed} (named : rule.IsNamed) (isTail : IsTail tail)
    (aligned : Aligned rule form tail old new) (isPlaced : placed.IsPlaced form old) :
    placed.IsPlaced form new := by
  refine ⟨isPlaced.form, isPlaced.valid, isPlaced.openingMarks, isPlaced.accessPlain,
    isPlaced.tokenSome, isPlaced.token, isPlaced.closing, ?_⟩
  have ended := isPlaced.ended
  cases closing : placed.closing with
  | nil =>
      rw [closing, List.nil_append] at ended
      exact aligned.endsName named isTail ended
  | cons c others =>
      rw [closing] at ended
      exact ended

theorem exchanged (named : rule.IsNamed) (isTail : IsTail tail)
    (aligned : Aligned rule form tail old new) : Exchanged old new := by
  induction aligned with
  | tail => exact isTail.exchanged []
  | kept none aligned ih => exact .kept ih
  | @declared placed left rest isPlaced found aligned ih =>
      have group {old new : Text} (rest : Exchanged old new) :=
        rest.slot (isRun_of_plain named.sourceGroup) named.targetGroup
      have module {old new : Text} (rest : Exchanged old new) :=
        rest.slot (isRun_of_plain named.sourceModule) named.targetModule
      have value := ((ih.keptAll placed.closing).slot ⟨isPlaced.tokenSome, isPlaced.token⟩
        named.variablePlain).keptAll placed.access
      rw [Placed.old, Placed.new, Placed.text_append, Placed.text_append]
      obtain ⟨shape, opening, access, token, closing⟩ := placed
      cases shape with
      | coordinate =>
          have whole := group ((module (value.keptAll (':' :: '$' :: opening))).keptAll [':'])
          simpa [Shape.steps] using whole
      | keyword groupKey groupQuote firstComma nameKey moduleQuote secondComma versionKey =>
          have modules := module ((((value.keptAll opening).keptAll versionKey).keptAll
            "version".toList).keptAll (moduleQuote :: secondComma))
          have groups := group (((modules.keptAll [moduleQuote]).keptAll nameKey).keptAll
            "name".toList |>.keptAll (groupQuote :: firstComma))
          have whole := (groups.keptAll (groupKey ++ [groupQuote])).keptAll "group".toList
          simpa [Shape.steps] using whole

theorem cases_of_head (named : rule.IsNamed) (isTail : IsTail tail)
    (aligned : Aligned rule form tail old new) {c : Char} {rest : Text} (split : new = c :: rest) :
    Text.isBlank c = true ∨ (∃ left, old = c :: left ∧ Exchanged left rest) ∨
      (isPlain c = true ∧ StartsPlain old) := by
  cases aligned with
  | tail =>
      obtain ⟨version, rfl, -⟩ := isTail.written
      rw [← (List.cons.inj split).1]
      exact .inl (by decide)
  | kept none aligned =>
      obtain ⟨rfl, rfl⟩ := List.cons.inj split
      exact .inr (.inl ⟨_, rfl, aligned.exchanged named isTail⟩)
  | @declared placed left rest isPlaced found aligned =>
      have started := isPlaced.new_startsPlain named rest
      rw [split] at started
      exact .inr (.inr ⟨started, isPlaced.old_startsPlain named left⟩)

/-- A version opens on the filled line only where one opens on the line. -/
theorem opens (named : rule.IsNamed) (isTail : IsTail tail)
    (aligned : Aligned rule form tail old new) {other : Form} (opens : other.Opens new) :
    other.Opens old := by
  cases other with
  | coordinate =>
      obtain ⟨c, rest, split, token⟩ := opens
      rcases aligned.cases_of_head named isTail split with blank | ⟨left, rfl, -⟩ | ⟨-, started⟩
      · rw [isTokenChar_solid c token] at blank
        cases blank
      · exact ⟨c, left, rfl, token⟩
      · obtain ⟨d, left, rfl, plain⟩ := started.exists_cons
        exact ⟨d, left, rfl, isTokenChar_of_plain plain⟩
  | keyword =>
      obtain ⟨c, rest, split, value⟩ := Placeholder.value_isSome.mp opens
      refine Placeholder.value_isSome.mpr ?_
      rcases aligned.cases_of_head named isTail split with blank | ⟨left, rfl, exchanged⟩ |
        ⟨-, started⟩
      · have solid : Text.isBlank c = false := value.elim (isBareTokenChar_solid c) fun quoted =>
          quote_solid (by simpa [isQuote] using quoted.1)
        rw [solid] at blank
        cases blank
      · exact ⟨c, left, rfl, value.imp id fun quoted =>
          ⟨quoted.1, exchanged.quoted quoted.1 quoted.2⟩⟩
      · obtain ⟨d, left, rfl, plain⟩ := started.exists_cons
        exact ⟨d, left, rfl, .inl (isBareTokenChar_of_plain plain)⟩

/-- A declaration on the filled line that is no artifact the rule writes stands on the line as well,
where the rule declares nothing. -/
theorem declares (named : rule.IsNamed) (isTail : IsTail tail)
    (aligned : Aligned rule form tail old new)
    (whole : form = .coordinate → ∀ before c rest, old = before ++ c :: rest →
      isPlain c = true → rule.declarationAt form rest = none)
    (closed : ¬ EndsOpen old) {other : Rule} (otherNamed : other.IsNamed)
    (clean : ¬ other.source.group ++ ':' :: other.source.module <:+:
      rule.target.group ++ ':' :: rule.target.module)
    {otherForm : Form} {front behind : Text} (split : new = front ++ behind)
    (found : (other.declarationAt otherForm behind).isSome = true) :
    ∃ before rest, old = before ++ rest ∧ (other.declarationAt otherForm rest).isSome = true ∧
      rule.declarationAt form rest = none := by
  obtain ⟨shape, rest, isForm, valid, rfl, opens⟩ := Form.declarationAt_isSome.mp found
  have spells : shape.Spells [] other.source.group other.source.module :=
    ⟨valid, by simp [Text.Marks], otherNamed.sourceGroup, otherNamed.sourceModule⟩
  rcases aligned.cases_of_suffix split with
    ⟨before, c, left, right, oldIs, textIs, missing, aligned⟩ |
    ⟨placed, start, part, left, right, isPlaced, written, notEmpty, textIs, aligned⟩ |
    ⟨start, tailIs⟩
  · obtain ⟨d, words, wordsAre, -⟩ := (spells.startsPlain []).exists_cons
    rw [List.append_nil] at wordsAre
    rw [wordsAre] at textIs
    obtain ⟨rfl, rfl⟩ := List.cons.inj textIs
    rcases aligned.cases_of_prefix rfl with ⟨others, rfl, copied⟩ |
      ⟨placed, start, part, others, right, splitWords, notEmpty, rfl, met, isPlaced, declared,
        aligned⟩ | ⟨part, splitWords, notEmpty, tailIs⟩
    · refine ⟨before, _, oldIs, ?_, missing⟩
      exact Form.declarationAt_isSome.mpr ⟨shape, others, isForm, valid, by rw [wordsAre]; rfl,
        copied.opens named isTail opens⟩
    · rw [splitWords] at wordsAre
      refine ((aligned.isPlaced named isTail isPlaced).not_meets named.targetGroup
        named.targetModule (fun _ => named.noKeyword) spells wordsAre (List.cons_ne_nil _ _) notEmpty ?_ met).elim
      intro isCoordinate earlier e ends
      rw [Bool.eq_false_iff]
      intro plain
      have none := whole isCoordinate (before ++ earlier) e (placed.old rule ++ others)
        (by rw [oldIs, ← List.cons_append, ends]; simp) plain
      rw [none] at declared
      cases declared
    · rw [splitWords] at wordsAre
      exact absurd (oldIs ▸ (isTail.endsOpen spells wordsAre notEmpty tailIs).append before) closed
  · exact (clean ((aligned.isPlaced named isTail isPlaced).infix_of_within named.targetGroup
      named.targetModule named.variablePlain named.variableEnds spells written notEmpty
      textIs.symm)).elim
  · exact (isTail.not_declares valid tailIs rfl).elim

end Aligned

end Declaration

end Migration
