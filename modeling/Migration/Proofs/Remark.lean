import Migration.Artifact.Rule
import Migration.Proofs.Parts
import Migration.Proofs.Trimmed

namespace Migration

/-! A migrated line is another line.

The remark at its end grows the line.  For the line to be the same again, the declaration would
have to shrink by a text that is the remark turned around, yet that text ends in a placeholder with
`:$` or `, version:` in front, and a remark turned around has neither there.
-/

section Words

variable {α : Type}

/-- A text that stands before and behind the same text is the other one turned around. -/
theorem exists_turn {middle before behind : List α} (same : middle ++ behind = before ++ middle) :
    ∃ first second, before = first ++ second ∧ behind = second ++ first := by
  induction length : middle.length using Nat.strongRecOn generalizing middle with
  | ind size ih =>
      rcases List.append_eq_append_iff.mp same with ⟨rest, split, after⟩ | ⟨rest, split, after⟩
      · exact ⟨middle, rest, split, after⟩
      · -- the middle begins with the text itself, and what is left of it is shorter
        cases before with
        | nil =>
            rw [List.nil_append] at same
            exact ⟨[], [], rfl, by simpa using same⟩
        | cons first others =>
            refine ih rest.length ?_ ?_ rfl
            · rw [← length, split, List.length_append, List.length_cons]
              omega
            · rw [← after, split]

end Words

namespace Text

theorem solid_inj {before other after behind : Text} {first second : Char} (solid : before.Solid)
    (solidOther : other.Solid) (isBlankFirst : isBlank first = true)
    (isBlankSecond : isBlank second = true)
    (same : before ++ first :: after = other ++ second :: behind) :
    before = other ∧ first = second ∧ after = behind :=
  cut_inj solid solidOther isBlankFirst isBlankSecond same

theorem blank_inj {before other after behind : Text} {first second : Char} (blank : before.Blank)
    (blankOther : other.Blank) (solidFirst : isBlank first = false)
    (solidSecond : isBlank second = false)
    (same : before ++ first :: after = other ++ second :: behind) :
    before = other ∧ first = second ∧ after = behind :=
  @cut_inj Char (fun c => !isBlank c) _ _ _ _ _ _
    (fun c member => by simp [blank c member]) (fun c member => by simp [blankOther c member])
    (by simp [solidFirst]) (by simp [solidSecond]) same

end Text

namespace Remark

/-- The words of the remark up to its colon, read backwards. -/
def backwards : Text :=
  " // Latest version".toList.reverse

/-- What a version cell holds: something, and no colon. -/
structure IsVersion (version : Text) : Prop where
  noColon : ':' ∉ version
  notBlank : ∃ c ∈ version, Text.isBlank c = false

theorem reverse_remark (version : Text) :
    (" // Latest version: ".toList ++ version).reverse =
      (version.reverse ++ [' ']) ++ ':' :: backwards := by
  rw [List.reverse_append]
  have words : " // Latest version: ".toList.reverse = ' ' :: ':' :: backwards := by decide
  rw [words, List.append_assoc]
  rfl

variable {version : Text} {first second : Text}

/-- Where the colon of a remark is once it is turned around.  Everything is read backwards. -/
theorem turned_cases (isVersion : IsVersion version)
    (remark : first ++ second = (version.reverse ++ [' ']) ++ ':' :: backwards) :
    ∃ before behind, second ++ first = before ++ ':' :: behind ∧ ':' ∉ before ∧
      ((behind = backwards ++ first ∧ first ++ before = version.reverse ++ [' ']) ∨
        (before = second ++ version.reverse ++ [' '] ∧ backwards = behind ++ second)) := by
  have noColon : ':' ∉ version.reverse ++ [' '] := by
    simp [isVersion.noColon]
  rcases List.append_eq_append_iff.mp remark with ⟨before, split, rest⟩ | ⟨beyond, split, rest⟩
  · refine ⟨before, backwards ++ first, ?_, ?_, .inl ⟨rfl, split.symm⟩⟩
    · rw [rest, List.append_assoc, List.cons_append]
    · intro member
      exact noColon (split ▸ List.mem_append_right first member)
  · cases beyond with
    | nil =>
        rw [List.append_nil] at split
        rw [List.nil_append] at rest
        refine ⟨[], backwards ++ first, ?_, List.not_mem_nil, .inl ⟨rfl, ?_⟩⟩
        · rw [← rest]
          rfl
        · rw [List.append_nil, split]
    | cons colon behind =>
        obtain ⟨rfl, words⟩ := List.cons.inj rest
        refine ⟨second ++ version.reverse ++ [' '], behind, ?_, ?_, .inr ⟨rfl, words⟩⟩
        · rw [split]
          simp
        · have noneBehind : ':' ∉ second := by
            intro member
            have inside : ':' ∈ backwards := words ▸ List.mem_append_right behind member
            exact absurd inside (by decide)
          rw [List.append_assoc, List.mem_append, not_or]
          exact ⟨noneBehind, noColon⟩

theorem backwards_eq : backwards =
    "version".toList.reverse ++ ' ' :: 't' :: "setaL // ".toList := by decide

theorem backwards_ne_key {rest front before comma : Text} (beforeBlank : before.Blank)
    (commaBlank : comma.Blank)
    (same : backwards ++ rest = before ++ "version".toList.reverse ++ comma ++ ',' :: front) :
    False := by
  have key : "version".toList.reverse = 'n' :: "versio".toList.reverse := by decide
  have sameKey : [] ++ 'n' :: ("versio".toList.reverse ++
      ' ' :: 't' :: ("setaL // ".toList ++ rest)) =
      before ++ 'n' :: ("versio".toList.reverse ++ comma ++ ',' :: front) := by
    simpa [backwards_eq, key] using same
  obtain ⟨_, _, words⟩ := Text.blank_inj (by decide) beforeBlank rfl rfl sameKey
  rw [List.append_assoc, List.append_cancel_left_eq] at words
  obtain ⟨_, letter, _⟩ := @Text.blank_inj [' '] _ _ _ _ _ (by decide) commaBlank rfl rfl words
  exact absurd letter (by decide)

theorem backwards_ne_mark {rest front solid : Text} {mark : Char} (isSolid : solid.Solid)
    (markSolid : Text.isBlank mark = false) (noLetter : mark ∉ "version".toList)
    (same : backwards ++ rest = solid ++ mark :: front) : False := by
  have marked : Text.Solid (solid ++ [mark]) :=
    isSolid.append fun c member => List.mem_singleton.mp member ▸ markSolid
  have words : "version".toList.reverse ++ ' ' :: 't' :: ("setaL // ".toList ++ rest) =
      (solid ++ [mark]) ++ front := by
    simpa [backwards_eq] using same
  rcases List.append_eq_append_iff.mp words with ⟨beyond, split, after⟩ | ⟨left, split, _⟩
  · cases beyond with
    | nil =>
        have letter : mark ∈ "version".toList.reverse := by
          rw [List.append_nil] at split
          exact split ▸ List.mem_append_right solid List.mem_cons_self
        exact noLetter (List.mem_reverse.mp letter)
    | cons space beyond =>
        obtain ⟨rfl, _⟩ := List.cons.inj after
        have inside := marked ' ' (split ▸ by simp)
        exact absurd inside (by decide)
  · have letter : mark ∈ "version".toList.reverse := by
      rw [split]
      simp
    exact noLetter (List.mem_reverse.mp letter)

theorem backwards_ne_colon {rest front solid space : Text} (isSolid : solid.Solid)
    (blank : space.Blank) (same : backwards ++ rest = solid ++ space ++ ':' :: front) : False := by
  cases space with
  | nil =>
      rw [List.append_nil] at same
      exact backwards_ne_mark isSolid (by decide) (by decide) same
  | cons c space =>
      obtain ⟨first, blank⟩ := List.forall_mem_cons.mp blank
      have words : "version".toList.reverse ++ ' ' :: 't' :: ("setaL // ".toList ++ rest) =
          solid ++ c :: (space ++ ':' :: front) := by
        simpa [backwards_eq] using same
      obtain ⟨_, _, behind⟩ := Text.solid_inj (by decide) isSolid (by decide) first words
      obtain ⟨_, letter, _⟩ := @Text.blank_inj [] _ _ _ _ _ (by decide) blank rfl rfl behind
      exact absurd letter (by decide)

/-- A turned remark that ends in a placeholder, read backwards: the colon of the remark is the one
in front of the placeholder, or it is a part of the placeholder. -/
theorem turned_placeholder {placeholder space front kept : Text} (isVersion : IsVersion version)
    (remark : first ++ second = (version.reverse ++ [' ']) ++ ':' :: backwards)
    (solid : placeholder.Solid) (noColon : ':' ∉ space)
    (same : second ++ first ++ kept = placeholder ++ space ++ ':' :: front) :
    (first ++ (placeholder ++ space) = version.reverse ++ [' '] ∧
      backwards ++ (first ++ kept) = front) ∨
    (second ++ version.reverse ++ [' '] = placeholder ++ space ∧
      ∃ behind, backwards = behind ++ second ∧ behind ++ kept = front) ∨
    ∃ rest : Text, rest.Solid ∧ backwards ++ (first ++ kept) = rest ++ space ++ ':' :: front := by
  obtain ⟨before, behind, turned, none, cases⟩ := turned_cases isVersion remark
  rw [turned, List.append_assoc, List.cons_append] at same
  by_cases colon : ':' ∈ placeholder
  · obtain ⟨start, rest, rfl, noneStart⟩ := List.eq_append_cons_of_mem colon
    have sameColon : before ++ ':' :: (behind ++ kept) =
        start ++ ':' :: (rest ++ space ++ ':' :: front) := by
      simpa using same
    obtain ⟨rfl, left⟩ := Text.append_mark_inj none noneStart sameColon
    have restSolid : Text.Solid rest := fun c member =>
      solid c (List.mem_append_right _ (List.mem_cons_of_mem _ member))
    rcases cases with ⟨rfl, _⟩ | ⟨rfl, _⟩
    · refine .inr (.inr ⟨rest, restSolid, ?_⟩)
      rw [← left, List.append_assoc]
    · have inside := solid ' ' (by simp)
      exact absurd inside (by decide)
  · have noneFront : ':' ∉ placeholder ++ space := by
      rw [List.mem_append, not_or]
      exact ⟨colon, noColon⟩
    obtain ⟨rfl, left⟩ := Text.append_mark_inj none noneFront same
    rcases cases with ⟨rfl, whole⟩ | ⟨whole, words⟩
    · exact .inl ⟨whole, by rw [← left, List.append_assoc]⟩
    · exact .inr (.inl ⟨whole.symm, behind, words, left⟩)

theorem turned_ne_coordinate {placeholder front kept : Text} (isVersion : IsVersion version)
    (remark : first ++ second = (version.reverse ++ [' ']) ++ ':' :: backwards)
    (solid : placeholder.Solid)
    (same : second ++ first ++ kept = placeholder ++ ['$'] ++ ':' :: front) : False := by
  rcases turned_placeholder isVersion remark solid (by decide) same with ⟨whole, _⟩ | ⟨whole, _⟩ |
    ⟨rest, restSolid, words⟩
  · have last := congrArg List.getLast? whole
    simp at last
  · have last := congrArg List.getLast? whole
    simp at last
  · rw [List.append_assoc, List.singleton_append] at words
    exact backwards_ne_mark restSolid (by decide) (by decide) words

theorem blank_absorbs {start solid after rest : Text} {space c : Char} (isSolid : solid.Solid)
    (isBlank : Text.isBlank space = true) (same : start ++ space :: rest = solid ++ after)
    (member : c ∈ rest) : c ∈ after := by
  rcases List.append_eq_append_iff.mp same with ⟨beyond, split, behind⟩ | ⟨between, _, behind⟩
  · cases beyond with
    | nil =>
        rw [List.nil_append] at behind
        exact behind ▸ List.mem_cons_of_mem _ member
    | cons first beyond =>
        obtain ⟨rfl, _⟩ := List.cons.inj behind
        have inside := isSolid space (by simp [split])
        rw [isBlank] at inside
        cases inside
  · rw [behind]
    exact List.mem_append_right _ (List.mem_cons_of_mem _ member)

theorem turned_ne_keyword {placeholder after before comma front kept : Text}
    (isVersion : IsVersion version)
    (remark : first ++ second = (version.reverse ++ [' ']) ++ ':' :: backwards)
    (solid : placeholder.Solid) (afterBlank : after.Blank) (beforeBlank : before.Blank)
    (commaBlank : comma.Blank)
    (same : second ++ first ++ kept = placeholder ++ after ++
      ':' :: (before ++ "version".toList.reverse ++ comma ++ ',' :: front)) : False := by
  have noColon : ':' ∉ after := fun member => absurd (afterBlank ':' member) (by decide)
  rcases turned_placeholder isVersion remark solid noColon same with ⟨_, words⟩ |
    ⟨whole, behind, words, left⟩ | ⟨rest, restSolid, words⟩
  · exact backwards_ne_key beforeBlank commaBlank words
  · -- the words cannot reach into the placeholder: a blank of theirs would come before the version
    have nothing : second = [] := by
      rcases List.eq_nil_or_concat second with none | ⟨start, last, rfl⟩
      · exact none
      · have space : last = ' ' := by
          have ends := congrArg List.getLast? words
          have ended : backwards.getLast? = some ' ' := by decide
          simpa [ended] using ends.symm
        obtain ⟨c, member, notBlank⟩ := isVersion.notBlank
        have versionIn : c ∈ version.reverse ++ [' '] := by simp [member]
        have cut : start ++ ' ' :: (version.reverse ++ [' ']) = placeholder ++ after := by
          simpa [space] using whole
        have inAfter : c ∈ after := blank_absorbs solid (by decide) cut versionIn
        rw [afterBlank c inAfter] at notBlank
        cases notBlank
    rw [nothing, List.append_nil] at words
    rw [← words] at left
    exact backwards_ne_key beforeBlank commaBlank left
  · exact backwards_ne_colon restSolid afterBlank words

/-- A text with a remark behind it is not the text with a declaration in place of another. -/
theorem remark_ne {old new rest lead front placeholder : Text} (isVersion : IsVersion version)
    (isLead : Declaration.IsLead lead) (solid : placeholder.Solid)
    (declares : old = front ++ lead ++ placeholder)
    (same : new ++ rest ++ (" // Latest version: ".toList ++ version) = old ++ rest) : False := by
  -- the old declaration is longer than the new one by a remark turned around
  have longer : new.length ≤ old.length := by
    have lengths := congrArg List.length same
    simp only [List.length_append] at lengths
    omega
  rw [List.append_assoc] at same
  obtain ⟨surplus, split⟩ : ∃ surplus, old = new ++ surplus := by
    rcases List.append_eq_append_iff.mp same with ⟨surplus, split, _⟩ | ⟨beyond, split, _⟩
    · exact ⟨surplus, split⟩
    · have nothing : beyond = [] := by
        have lengths := congrArg List.length split
        rw [List.length_append] at lengths
        exact List.length_eq_zero_iff.mp (by omega)
      exact ⟨[], by rw [split, nothing, List.append_nil, List.append_nil]⟩
  rw [split, List.append_assoc, List.append_cancel_left_eq] at same
  obtain ⟨first, second, surplusIs, remarkIs⟩ := exists_turn same
  have remark : first.reverse ++ second.reverse =
      (version.reverse ++ [' ']) ++ ':' :: backwards := by
    rw [← reverse_remark, remarkIs, List.reverse_append]
  have reversed : second.reverse ++ first.reverse ++ new.reverse =
      placeholder.reverse ++ lead.reverse ++ front.reverse := by
    have whole : new ++ (first ++ second) = front ++ lead ++ placeholder := by
      rw [← surplusIs, ← split, declares]
    have backward := congrArg List.reverse whole
    simpa using backward
  have solidReverse : Text.Solid placeholder.reverse := fun c member =>
    solid c (List.mem_reverse.mp member)
  have blankReverse : ∀ space : Text, space.Blank → Text.Blank space.reverse :=
    fun space blank c member => blank c (List.mem_reverse.mp member)
  rcases isLead with rfl | ⟨comma, before, after, commaBlank, beforeBlank, afterBlank, rfl⟩
  · exact turned_ne_coordinate isVersion remark solidReverse (by simpa using reversed)
  · have leadReverse : (',' :: comma ++ "version".toList ++ before ++ ':' :: after).reverse =
        after.reverse ++ ':' :: (before.reverse ++ "version".toList.reverse ++ comma.reverse ++
          [',']) := by
      simp only [List.reverse_append, List.reverse_cons, List.append_assoc, List.cons_append,
        List.nil_append]
    have whole : second.reverse ++ first.reverse ++ new.reverse =
        placeholder.reverse ++ after.reverse ++ ':' :: (before.reverse ++
          "version".toList.reverse ++ comma.reverse ++ ',' :: front.reverse) := by
      rw [reversed, leadReverse]
      simp only [List.append_assoc, List.cons_append, List.nil_append]
    exact turned_ne_keyword isVersion remark solidReverse (blankReverse _ afterBlank)
      (blankReverse _ beforeBlank) (blankReverse _ commaBlank) whole

def EndsSolid (text : Text) : Prop :=
  ∃ front last, text = front ++ [last] ∧ Text.isBlank last = false

theorem EndsSolid.append {text closing : Text} (ends : EndsSolid text) (solid : closing.Solid) :
    EndsSolid (text ++ closing) := by
  rcases List.eq_nil_or_concat closing with rfl | ⟨front, last, rfl⟩
  · rwa [List.append_nil]
  · exact ⟨text ++ front, last, by simp, solid last (by simp)⟩

theorem EndsSolid.of_trim {text : Text} (some : ¬ text.Blank) : EndsSolid (Text.trim text) := by
  rw [← Text.trim_eq_nil_iff] at some
  obtain ⟨front, last, split⟩ := (List.eq_nil_or_concat (Text.trim text)).resolve_left some
  rw [List.concat_eq_append] at split
  exact ⟨front, last, split, (Text.solidEnds_trim text).last last (by simp [split])⟩

theorem EndsSolid.lineBody_append {text : Text} (ends : EndsSolid text) (rest : Text) :
    Text.lineBody (text ++ rest) = text ++ Text.lineBody rest ∧
      Text.lineEnding (text ++ rest) = Text.lineEnding rest := by
  obtain ⟨front, last, rfl, solid⟩ := ends
  have noReturn : last ≠ '\r' := by
    rintro rfl
    exact absurd solid (by decide)
  have noNewline : last ≠ '\n' := by
    rintro rfl
    exact absurd solid (by decide)
  have split := Text.splitEnding_append noReturn noNewline front rest
  rw [List.append_assoc, List.singleton_append]
  constructor
  · rw [Text.lineBody, split, List.append_assoc]
    rfl
  · rw [Text.lineEnding, split]

theorem annotate_append {text : Text} (ends : EndsSolid text) (version rest : Text) :
    Rule.annotate version (text ++ rest) = text ++ Text.lineBody rest ++
      (" // Latest version: ".toList ++ version) ++ Text.lineEnding rest := by
  obtain ⟨body, ending⟩ := ends.lineBody_append rest
  rw [Rule.annotate, body, ending]
  simp only [List.append_assoc]

section Declared

variable {parts : List Part} {fill : Slot → Text} {lead rest : Text}
  {placeholder : Declaration.Placeholder}

theorem exists_filled (ends : Declaration.EndsDeclaration parts lead placeholder rest)
    (filledEnds : EndsSolid (fill .version)) :
    ∃ text, EndsSolid text ∧ parts.flatMap (Part.filled fill) = text ++ rest := by
  obtain ⟨_, before, declaration, rfl, declares⟩ := ends
  obtain ⟨front, filled⟩ := declares.filled fill
  have closingSolid : placeholder.closing.Solid := fun c member =>
    declares.placeholder.solid c (List.mem_append_right _ member)
  obtain ⟨newFront, last, written, solid⟩ := filledEnds.append closingSolid
  refine ⟨before.flatMap (Part.filled fill) ++ front ++ (fill .version ++ placeholder.closing),
    ⟨before.flatMap (Part.filled fill) ++ front ++ newFront, last, ?_, solid⟩, ?_⟩
  · rw [written]
    simp only [List.append_assoc]
  · rw [List.flatMap_append, List.flatMap_append, filled, Declaration.flatMap_filled_keptParts]
    simp only [List.append_assoc]

theorem exists_old (ends : Declaration.EndsDeclaration parts lead placeholder rest) :
    ∃ front, EndsSolid (front ++ lead ++ placeholder.text) ∧
      parts.flatMap Part.old = front ++ lead ++ placeholder.text ++ rest := by
  obtain ⟨_, before, declaration, rfl, declares⟩ := ends
  obtain ⟨front, old⟩ := declares.old
  obtain ⟨start, last, split⟩ := List.eq_nil_or_concat placeholder.text |>.resolve_left
    declares.placeholder.notEmpty
  refine ⟨before.flatMap Part.old ++ front,
    ⟨before.flatMap Part.old ++ front ++ lead ++ start, last, ?_, ?_⟩, ?_⟩
  · rw [split, List.concat_eq_append, ← List.append_assoc]
  · exact declares.placeholder.solid last (by rw [split]; simp)
  · rw [List.flatMap_append, List.flatMap_append, old, Declaration.flatMap_old_keptParts]
    simp only [List.append_assoc]

/-- Filling the slots and adding the remark makes another line. -/
theorem annotate_filled_ne (isVersion : IsVersion version)
    (ends : Declaration.EndsDeclaration parts lead placeholder rest)
    (filledEnds : EndsSolid (fill .version)) :
    Rule.annotate version (parts.flatMap (Part.filled fill)) ≠ parts.flatMap Part.old := by
  obtain ⟨new, newEnds, filled⟩ := exists_filled ends filledEnds
  obtain ⟨front, _, old⟩ := exists_old ends
  obtain ⟨isLead, _, _, _, declares⟩ := ends
  intro same
  rw [filled, annotate_append newEnds, old] at same
  have whole : front ++ lead ++ placeholder.text ++ rest =
      front ++ lead ++ placeholder.text ++ Text.lineBody rest ++ Text.lineEnding rest := by
    rw [List.append_assoc _ (Text.lineBody rest), Text.lineBody_append_lineEnding]
  exact remark_ne isVersion isLead declares.placeholder.solid rfl
    (List.append_cancel_right (same.trans whole))

end Declared

end Remark

end Migration
