import Migration.Proofs.Opening

namespace Migration.Declaration

/-! The remark behind a migrated line.

It has one colon only, so it holds no declaration.  A declaration that begins in front of it and
reaches into it needs the space that the remark begins with, and the version would follow there.
-/

open Text (IsPlain isPlain)

theorem IsGap.not_mem {mark c : Char} {gap : Text} (isGap : IsGap mark gap) (other : c ≠ mark)
    (solid : Text.isBlank c = false) : c ∉ gap := by
  obtain ⟨before, after, beforeBlank, afterBlank, rfl⟩ := isGap
  have noBlank {text : Text} (blank : text.Blank) : c ∉ text := fun member => by
    rw [blank c member] at solid
    cases solid
  simp [noBlank beforeBlank, noBlank afterBlank, other]

theorem IsGap.colon_mem {mark : Char} {gap : Text} (isGap : IsGap mark gap) : mark ∈ gap := by
  obtain ⟨before, after, _, _, rfl⟩ := isGap
  exact List.mem_append_right _ List.mem_cons_self

variable {shape : Shape} {opening group module : Text}

theorem Shape.IsValid.two_colons (valid : shape.IsValid) (opening group module : Text) :
    2 ≤ (textOf (shape.steps opening group module)).count ':' := by
  cases valid with
  | coordinate =>
      simp only [Shape.steps, textOf_cons, textOf_nil, List.count_append, List.count_cons_self]
      omega
  | keyword groupKeyed _ _ nameKeyed _ _ _ =>
      have first := List.count_pos_iff.mpr groupKeyed.colon_mem
      have second := List.count_pos_iff.mpr nameKeyed.colon_mem
      simp only [Shape.steps, textOf_cons, textOf_nil, List.count_append]
      omega

theorem Shape.Spells.no_slash (spells : shape.Spells [] group module) :
    '/' ∉ textOf (shape.steps [] group module) := by
  have slash : isPlain '/' = false := by decide
  have noGroup := spells.group.not_mem slash
  have noModule := spells.module.not_mem slash
  cases spells.valid with
  | coordinate => simp [Shape.steps, noGroup, noModule]
  | keyword groupKeyed groupQuoted first nameKeyed moduleQuoted second versionKeyed =>
      have noQuote {quote : Char} (quoted : isQuote quote = true) : '/' ≠ quote := by
        rintro rfl
        exact absurd quoted (by decide)
      have noColon {gap : Text} (isGap : IsGap ':' gap) : '/' ∉ gap :=
        isGap.not_mem (by decide) (by decide)
      have noComma {gap : Text} (isGap : IsGap ',' gap) : '/' ∉ gap :=
        isGap.not_mem (by decide) (by decide)
      simp [Shape.steps, noGroup, noModule, noColon groupKeyed, noColon nameKeyed, noComma first,
        noComma second, noColon versionKeyed, noQuote groupQuoted, noQuote moduleQuoted]

/-- A text that ends where a version may follow. -/
def EndsOpen (text : Text) : Prop :=
  ∃ front gap, IsGap ':' gap ∧ text = front ++ "version".toList ++ gap

theorem IsGap.reverse {mark : Char} {gap : Text} (isGap : IsGap mark gap) :
    IsGap mark gap.reverse := by
  obtain ⟨before, after, beforeBlank, afterBlank, rfl⟩ := isGap
  refine ⟨after.reverse, before.reverse, ?_, ?_, by simp⟩
  · exact fun c member => afterBlank c (List.mem_reverse.mp member)
  · exact fun c member => beforeBlank c (List.mem_reverse.mp member)

/-- The end is read backwards: a colon, and the keyword. -/
theorem endsOpen_iff {text : Text} :
    EndsOpen text ↔ ∃ gap rest, separator ':' text.reverse = some (gap, rest) ∧
      "version".toList.reverse <+: rest := by
  constructor
  · rintro ⟨front, gap, isGap, rfl⟩
    have solid : StartsSolid ("version".toList.reverse ++ front.reverse) :=
      ⟨'n', "versio".toList.reverse ++ front.reverse, rfl, by decide⟩
    refine ⟨gap.reverse, _, ?_, List.prefix_append _ front.reverse⟩
    rw [List.reverse_append, List.reverse_append]
    exact separator_gap ':' (by decide) isGap.reverse solid
  · rintro ⟨gap, _, found, front, rfl⟩
    refine ⟨front.reverse, gap.reverse, (separator_eq_some found).2.reverse, ?_⟩
    rw [← List.reverse_reverse text, ← (separator_eq_some found).1]
    simp

instance (text : Text) : Decidable (EndsOpen text) :=
  match found : separator ':' text.reverse with
  | none => isFalse fun endsOpen => by
      obtain ⟨gap, rest, read, -⟩ := endsOpen_iff.mp endsOpen
      cases found.symm.trans read
  | some (gap, rest) => decidable_of_iff ("version".toList.reverse <+: rest) (by
      rw [endsOpen_iff, found]
      simp)

theorem EndsOpen.append {text : Text} (endsOpen : EndsOpen text) (before : Text) :
    EndsOpen (before ++ text) := by
  obtain ⟨front, gap, isGap, rfl⟩ := endsOpen
  exact ⟨before ++ front, gap, isGap, by simp only [List.append_assoc]⟩

theorem EndsOpen.blank {text blank : Text} (endsOpen : EndsOpen text) (isBlank : blank.Blank) :
    EndsOpen (text ++ blank) := by
  obtain ⟨front, _, ⟨before, after, beforeBlank, afterBlank, rfl⟩, rfl⟩ := endsOpen
  refine ⟨front, before ++ ':' :: (after ++ blank), ⟨before, after ++ blank, beforeBlank, ?_, rfl⟩, ?_⟩
  · exact fun c member => (List.mem_append.mp member).elim (afterBlank c) (isBlank c)
  · simp only [List.append_assoc, List.cons_append]

theorem Shape.IsValid.endsOpen (valid : shape.IsValid) {start : Text}
    (split : textOf (shape.steps [] group module) = start ++ [' ']) : EndsOpen start := by
  cases valid with
  | coordinate =>
      have written : textOf (Shape.coordinate.steps [] group module) =
          (group ++ ':' :: module ++ [':']) ++ ['$'] := by
        simp [Shape.steps]
      obtain ⟨-, last⟩ := List.append_inj' (written.symm.trans split) rfl
      exact absurd last (by decide)
  | @keyword groupKey firstComma nameKey secondComma versionKey groupQuote moduleQuote _ _ _ _ _ _
      versionKeyed =>
      obtain ⟨before, after, beforeBlank, afterBlank, rfl⟩ := versionKeyed
      obtain ⟨front, written⟩ : ∃ front, textOf ((Shape.keyword groupKey groupQuote firstComma
          nameKey moduleQuote secondComma (before ++ ':' :: after)).steps [] group module) =
          (front ++ "version".toList ++ (before ++ [':'])) ++ after := by
        refine ⟨textOf [⟨"group".toList, groupKey ++ [groupQuote]⟩, ⟨group, groupQuote :: firstComma⟩,
          ⟨"name".toList, nameKey ++ [moduleQuote]⟩, ⟨module, moduleQuote :: secondComma⟩], ?_⟩
        simp [Shape.steps]
      rw [written] at split
      rcases List.eq_nil_or_concat after with rfl | ⟨after, last, rfl⟩
      · rw [List.append_nil, ← List.append_assoc] at split
        obtain ⟨-, last⟩ := List.append_inj' split rfl
        exact absurd last (by decide)
      · rw [List.concat_eq_append, ← List.append_assoc] at split
        obtain ⟨startIs, -⟩ := List.append_inj' split rfl
        refine ⟨front, before ++ ':' :: after, ⟨before, after, beforeBlank, ?_, rfl⟩, ?_⟩
        · exact fun c member => afterBlank c (by simp [member])
        · rw [← startIs]
          simp

/-- What a migration writes behind a line: the remark, where the version has no colon. -/
structure IsTail (tail : Text) : Prop where
  written : ∃ version, tail = " // Latest version: ".toList ++ version ∧ ':' ∉ version

namespace IsTail

variable {tail : Text}

theorem exchanged (isTail : IsTail tail) (old : Text) : Exchanged old tail := by
  obtain ⟨version, rfl, -⟩ := isTail.written
  exact .stop (by decide)

theorem endsName (isTail : IsTail tail) : EndsName tail := by
  obtain ⟨version, rfl, -⟩ := isTail.written
  exact ⟨by decide, by decide⟩

/-- The remark holds no declaration. -/
theorem not_declares (isTail : IsTail tail) {start behind rest : Text} (valid : shape.IsValid)
    (whole : tail = start ++ behind) (same : behind = textOf (shape.steps [] group module) ++ rest) :
    False := by
  obtain ⟨version, rfl, noColon⟩ := isTail.written
  have colons := congrArg (List.count ':') whole
  have two := valid.two_colons [] group module
  rw [same, List.count_append, List.count_append, List.count_append,
    List.count_eq_zero.mpr noColon] at colons
  have one : " // Latest version: ".toList.count ':' = 1 := by decide
  omega

/-- A declaration that reaches into the remark takes its first space, in front of which a version
was left open. -/
theorem endsOpen (isTail : IsTail tail) {start part behind : Text}
    (spells : shape.Spells [] group module)
    (split : textOf (shape.steps [] group module) = start ++ part) (some : part ≠ [])
    (same : part ++ behind = tail) : EndsOpen start := by
  obtain ⟨version, rfl, -⟩ := isTail.written
  have begins : " // Latest version: ".toList ++ version =
      ' ' :: '/' :: ("/ Latest version: ".toList ++ version) := rfl
  rw [begins] at same
  obtain ⟨c, others, rfl⟩ := List.exists_cons_of_ne_nil some
  obtain ⟨rfl, follows⟩ := List.cons.inj same
  cases others with
  | nil => exact spells.valid.endsOpen split
  | cons d others =>
      obtain ⟨rfl, -⟩ := List.cons.inj follows
      exact absurd (by rw [split]; simp) spells.no_slash

end IsTail

end Migration.Declaration
