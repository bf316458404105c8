import Mathlib.Data.List.Infix
import Migration.Proofs.BuildLine
import Migration.Proofs.Filled

namespace Migration

/-! A migrated build line.

It is the line with the declarations of one rule filled, in one form, and the remark behind them.
If nothing else is declared on the line, nothing is declared on the migrated one.
-/

open Text (IsPlain isPlain)

namespace Declaration

/-! Lines without declarations. -/

section Parts

variable {declarationAt : Text → Option (List Part)}

theorem partsFrom_skip (skip : Nat) (text : Text) :
    partsFrom declarationAt skip text = partsFrom declarationAt 0 (text.drop skip) := by
  induction skip generalizing text with
  | zero => rfl
  | succ skip ih =>
      cases text with
      | nil => rw [List.drop_nil, partsFrom, partsFrom]
      | cons c rest => rw [partsFrom, ih, List.drop_succ_cons]

theorem partsFrom_kept {text : Text}
    (nothing : ∀ before rest, text = before ++ rest → declarationAt rest = none) :
    partsFrom declarationAt 0 text = keptParts text := by
  induction text with
  | nil => rfl
  | cons c rest ih =>
      rw [partsFrom, nothing [] (c :: rest) rfl, ih, keptParts_cons]
      exact fun before behind split => nothing (c :: before) behind (by rw [split]; rfl)

theorem partsFrom_behind {before text : Text}
    (nothing : ∀ front c rest, before = front ++ c :: rest →
      declarationAt (c :: rest ++ text) = none) :
    partsFrom declarationAt 0 (before ++ text) =
      keptParts before ++ partsFrom declarationAt 0 text := by
  induction before with
  | nil => rfl
  | cons c rest ih =>
      have missing := nothing [] c rest rfl
      rw [List.cons_append] at missing ⊢
      rw [partsFrom, missing, ih, keptParts_cons, List.cons_append]
      exact fun front d behind split => nothing (c :: front) d behind (by rw [split]; rfl)

theorem partsFrom_found (finds : Finds declarationAt) {text : Text} {parts : List Part}
    (found : declarationAt text = some parts) :
    partsFrom declarationAt 0 text =
      parts ++ partsFrom declarationAt 0 (text.drop (parts.flatMap Part.old).length) := by
  cases text with
  | nil => cases finds.nothing.symm.trans found
  | cons c rest =>
      have next : (parts.flatMap Part.old).length - 1 + 1 = (parts.flatMap Part.old).length :=
        Nat.sub_add_cancel (finds.length_pos found)
      rw [partsFrom, found, ← next, List.drop_succ_cons]
      dsimp only
      rw [partsFrom_skip]

end Parts

theorem parts?_eq_none {group module text : Text}
    (nothing : ∀ (form : Form) (before rest : Text), text = before ++ rest →
      form.declarationAt group module rest = none) : parts? group module text = none := by
  have coordinate : coordinateParts group module text = keptParts text :=
    partsFrom_kept (nothing .coordinate)
  have keyword : keywordParts group module text = keptParts text :=
    partsFrom_kept (nothing .keyword)
  rw [parts?, coordinate, keyword, any_slot_keptParts]
  rfl

theorem exists_form {group module text : Text} {parts : List Part}
    (found : parts? group module text = some parts) :
    ∃ form : Form, parts = partsFrom (form.declarationAt group module) 0 text ∧
      ∃ before rest, text = before ++ rest ∧
        (form.declarationAt group module rest).isSome = true := by
  obtain ⟨form, rfl, applies, _⟩ := parts?_eq_some_iff.mp found
  refine ⟨form, rfl, ?_⟩
  by_contra nothing
  rw [Form.partsOf, partsFrom_kept, any_slot_keptParts] at applies
  · cases applies
  · intro before rest split
    rw [← Option.not_isSome_iff_eq_none]
    exact fun declared => nothing ⟨before, rest, split, declared⟩

end Declaration

namespace Rule

open Declaration (Aligned Form IsTail partsFrom)

/-- Filling the parts of a line changes its declarations and nothing else. -/
theorem aligned_partsFrom {rule : Rule} (named : rule.IsNamed) (form : Form) (tail text : Text) :
    Aligned rule form tail text
      ((partsFrom (rule.declarationAt form) 0 text).flatMap (Part.filled rule.fill) ++ tail) := by
  induction length : text.length using Nat.strongRecOn generalizing text with
  | ind size ih =>
      cases text with
      | nil => exact .tail
      | cons c rest =>
          rw [partsFrom]
          cases found : rule.declarationAt form (c :: rest) with
          | none =>
              refine .kept found (ih rest.length ?_ rest rfl)
              rw [← length, List.length_cons]
              exact Nat.lt_succ_self _
          | some parts =>
              obtain ⟨placed, behind, isPlaced, whole, old, filled⟩ := Form.finding found
              have finds := form.finds rule.source.group rule.source.module
              have dropped : rest.drop ((parts.flatMap Part.old).length - 1) = behind :=
                List.append_cancel_left
                  ((finds.drop_eq found).1.trans (whole.trans (by rw [old])))
              have shorter : behind.length < size := by
                have lengths := congrArg List.length dropped
                rw [List.length_drop] at lengths
                rw [← length, List.length_cons]
                omega
              dsimp only
              rw [Declaration.partsFrom_skip, dropped, List.flatMap_append,
                filled rule.fill named.artifact, List.append_assoc]
              rw [whole] at found ⊢
              exact .declared isPlaced (Option.isSome_iff_exists.mpr ⟨parts, found⟩)
                (ih _ shorter behind rfl)

/-- What a rule makes of a line is the line's body with its declarations filled, and a remark. -/
theorem aligned_annotate {rule : Rule} (isRow : rule.IsRow) (named : rule.IsNamed) {line : Text}
    {parts : List Part} (found : rule.parts? line = some parts) :
    ∃ form tail, IsTail tail ∧
      Aligned rule form tail (Text.lineBody line)
        (annotate rule.targetVersion (parts.flatMap (Part.filled rule.fill))) ∧
      ∃ before rest, Text.lineBody line = before ++ rest ∧
        (rule.declarationAt form rest).isSome = true := by
  rw [parts?_lineBody] at found
  obtain ⟨parts, cut, rfl⟩ := Option.map_eq_some_iff.mp found
  obtain ⟨form, partsAre, declared⟩ := Declaration.exists_form cut
  have noColon : ':' ∉ rule.targetVersion ++ Text.lineEnding line := by
    rw [List.mem_append, not_or]
    exact ⟨isRow.version.noColon, fun member =>
      absurd (Text.lineEnding_blank line ':' member) (by decide)⟩
  refine ⟨form, " // Latest version: ".toList ++ (rule.targetVersion ++ Text.lineEnding line),
    ⟨_, rfl, noColon⟩, ?_, declared⟩
  -- the remark stands between the body and the terminator, whatever the last declaration became
  obtain ⟨wholeBody, lead, placeholder, rest, ends⟩ := Declaration.parts?_eq_some cut
  obtain ⟨front, oldEnds, old⟩ := Remark.exists_old ends
  have filledEnds : Remark.EndsSolid (rule.fill .version) := isRow.variableEnds
  obtain ⟨text, newEnds, filled⟩ := Remark.exists_filled ends filledEnds
  obtain ⟨body, ending⟩ := oldEnds.lineBody_append (rest ++ Text.lineEnding line)
  rw [← List.append_assoc, ← old, wholeBody, Text.lineBody_append_lineEnding] at body ending
  have left : Text.lineBody (rest ++ Text.lineEnding line) = rest :=
    List.append_cancel_left (body.symm.trans (wholeBody.symm.trans old))
  have written : annotate rule.targetVersion
      ((parts ++ Declaration.keptParts (Text.lineEnding line)).flatMap (Part.filled rule.fill)) =
      parts.flatMap (Part.filled rule.fill) ++
        (" // Latest version: ".toList ++ (rule.targetVersion ++ Text.lineEnding line)) := by
    rw [List.flatMap_append, Declaration.flatMap_filled_keptParts, filled, List.append_assoc text,
      Remark.annotate_append newEnds, left, ← ending]
    simp only [List.append_assoc]
  rw [written, partsAre]
  exact aligned_partsFrom named form _ _

/-- The old coordinate of a rule is declared on a line in a form. -/
def DeclaredOn (rule : Rule) (form : Form) (line : Text) : Prop :=
  ∃ before rest, line = before ++ rest ∧ (rule.declarationAt form rest).isSome = true

theorem declaredOn_iff {rule : Rule} {form : Form} {line : Text} :
    rule.DeclaredOn form line ↔
      ∃ rest ∈ line.tails, (rule.declarationAt form rest).isSome = true := by
  constructor
  · rintro ⟨before, rest, rfl, found⟩
    exact ⟨rest, (List.mem_tails _ _).mpr (List.suffix_append before rest), found⟩
  · rintro ⟨rest, isTail, found⟩
    obtain ⟨before, rfl⟩ := (List.mem_tails _ _).mp isTail
    exact ⟨before, rest, rfl, found⟩

instance (rule : Rule) (form : Form) (line : Text) : Decidable (rule.DeclaredOn form line) :=
  decidable_of_iff _ declaredOn_iff.symm

theorem declarationAt_ending (rule : Rule) (form : Form) (line rest : Text) :
    rule.declarationAt form (rest ++ Text.lineEnding line) = rule.declarationAt form rest :=
  (form.finds _ _).unaffected _ (Text.lineEnding_blank line) rest

theorem DeclaredOn.of_lineBody {rule : Rule} {form : Form} {line : Text}
    (declared : rule.DeclaredOn form (Text.lineBody line)) : rule.DeclaredOn form line := by
  obtain ⟨before, rest, split, found⟩ := declared
  refine ⟨before, rest ++ Text.lineEnding line, ?_, by rwa [declarationAt_ending]⟩
  rw [← List.append_assoc, ← split, Text.lineBody_append_lineEnding]

/-- None of the rules finds anything on a text. -/
def DeclareNothing (rules : List Rule) (text : Text) : Prop :=
  ∀ rule ∈ rules, ∀ form, ¬ rule.DeclaredOn form text

/-- What the rules find on a line is one artifact, in one form and with no more to its name, and no
version is left open at the end of the line. -/
structure DeclareOnce (rules : List Rule) (line : Text) : Prop where
  one : ∀ rule ∈ rules, ∀ other ∈ rules, ∀ form otherForm,
    rule.DeclaredOn form line → other.DeclaredOn otherForm line →
      form = otherForm ∧ rule.source.group = other.source.group ∧
        rule.source.module = other.source.module
  whole : ∀ rule ∈ rules, ∀ before c rest, line = before ++ c :: rest → isPlain c = true →
    rule.declarationAt .coordinate rest = none
  closed : ¬ Declaration.EndsOpen line

instance {property : Form → Prop} [∀ form, Decidable (property form)] :
    Decidable (∀ form, property form) :=
  decidable_of_iff (property .coordinate ∧ property .keyword)
    ⟨fun both form => by cases form <;> simp only [both], fun all => ⟨all _, all _⟩⟩

theorem declareOnce_iff {rules : List Rule} {line : Text} :
    DeclareOnce rules line ↔
      (∀ rule ∈ rules, ∀ other ∈ rules, ∀ form otherForm,
        rule.DeclaredOn form line → other.DeclaredOn otherForm line →
          form = otherForm ∧ rule.source.group = other.source.group ∧
            rule.source.module = other.source.module) ∧
      (∀ rule ∈ rules, ∀ tail ∈ line.tails,
        tail.head?.any isPlain = true → rule.declarationAt .coordinate tail.tail = none) ∧
      ¬ Declaration.EndsOpen line := by
  constructor
  · rintro ⟨one, whole, closed⟩
    refine ⟨one, fun rule member tail isTail plain => ?_, closed⟩
    obtain ⟨before, rfl⟩ := (List.mem_tails _ _).mp isTail
    cases tail with
    | nil => cases plain
    | cons c rest => exact whole rule member before c rest rfl plain
  · rintro ⟨one, whole, closed⟩
    refine ⟨one, fun rule member before c rest split plain => ?_, closed⟩
    exact whole rule member (c :: rest) ((List.mem_tails _ _).mpr ⟨before, split.symm⟩) plain

instance (rules : List Rule) (line : Text) : Decidable (DeclareOnce rules line) :=
  decidable_of_iff _ declareOnce_iff.symm

/-- Rules with plain names that write no coordinate that one of them replaces. -/
structure AreClean (rules : List Rule) : Prop where
  isRow : ∀ rule ∈ rules, rule.IsRow
  named : ∀ rule ∈ rules, rule.IsNamed
  apart : ∀ rule ∈ rules, ∀ other ∈ rules,
    ¬ other.source.group ++ ':' :: other.source.module <:+:
      rule.target.group ++ ':' :: rule.target.module

end Rule

namespace Correspondences

open Declaration (EndsOpen Form)

variable {known : Correspondences} {line new : Text}

theorem builtLine_of_nothing (nothing : Rule.DeclareNothing known.rules line) :
    known.builtLine line = none := by
  have missing : known.applicable line = none := by
    refine List.findSome?_eq_none_iff.mpr fun rule member => ?_
    rw [Option.map_eq_none_iff]
    refine Declaration.parts?_eq_none fun form before rest split => ?_
    rw [← Option.not_isSome_iff_eq_none]
    exact fun declared => nothing rule member form ⟨before, rest, split, declared⟩
  rw [builtLine, missing]
  rfl

/-- On a migrated line nothing is left to migrate. -/
theorem nothing_of_built (clean : Rule.AreClean known.rules)
    (once : Rule.DeclareOnce known.rules line) (built : known.builtLine line = some new) :
    Rule.DeclareNothing known.rules new := by
  obtain ⟨⟨rule, parts⟩, found, rfl⟩ := Option.map_eq_some_iff.mp built
  obtain ⟨_, _, ⟨earlier, later, split, _⟩, cut, _⟩ := applicable_eq_some found
  have member : rule ∈ known.rules := split ▸ by simp
  have named := clean.named rule member
  obtain ⟨form, tail, isTail, aligned, declared⟩ :=
    Rule.aligned_annotate (clean.isRow rule member) named cut
  have terminated : line = Text.lineBody line ++ Text.lineEnding line :=
    (Text.lineBody_append_lineEnding line).symm
  have whole : form = .coordinate → ∀ before c rest, Text.lineBody line = before ++ c :: rest →
      isPlain c = true → rule.declarationAt form rest = none := by
    rintro rfl before c rest body plain
    have none := once.whole rule member before c (rest ++ Text.lineEnding line)
      (by rw [← List.cons_append, ← List.append_assoc, ← body, ← terminated]) plain
    rwa [Rule.declarationAt_ending] at none
  have closed : ¬ EndsOpen (Text.lineBody line) := fun endsOpen =>
    once.closed (terminated ▸ endsOpen.blank (Text.lineEnding_blank line))
  rintro other otherMember otherForm ⟨front, behind, newIs, otherFound⟩
  obtain ⟨before, rest, body, still, missing⟩ := aligned.declares named isTail whole closed
    (clean.named other otherMember) (clean.apart rule member other otherMember) newIs otherFound
  -- what is found there is the artifact of the rule, which does not find it
  obtain ⟨rfl, groups, modules⟩ := once.one rule member other otherMember form otherForm
    (.of_lineBody declared) (.of_lineBody ⟨before, rest, body, still⟩)
  rw [Rule.declarationAt, ← groups, ← modules] at still
  rw [Rule.declarationAt] at missing
  rw [missing] at still
  cases still

end Correspondences

end Migration
