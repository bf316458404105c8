import Migration.Proofs.Parts
import Migration.Proofs.PlainText

namespace Migration.Declaration

/-! The shape of a declaration.

In either form a declaration is a row of words with marks behind each of them, and a placeholder.
What is found at the start of a text is such a row, and wherever one stands it is found.
-/

open Text (IsPlain Marks isPlain)

/-! Separators and quotes. -/

theorem isPlain_of_quote {quote : Char} (quoted : isQuote quote = true) : isPlain quote = false := by
  rcases (Bool.or_eq_true _ _).mp quoted with same | same <;>
    rw [of_decide_eq_true same] <;> decide

theorem isPlain_colon : isPlain ':' = false := by decide

theorem isPlain_comma : isPlain ',' = false := by decide

theorem isPlain_dollar : isPlain '$' = false := by decide

theorem IsGap.marks {mark : Char} {gap : Text} (isGap : IsGap mark gap)
    (isMark : isPlain mark = false) : gap.Marks := by
  obtain ⟨before, after, beforeBlank, afterBlank, rfl⟩ := isGap
  exact beforeBlank.marks.append (.cons isMark afterBlank.marks)

theorem IsGap.ne_nil {mark : Char} {gap : Text} (isGap : IsGap mark gap) : gap ≠ [] := by
  obtain ⟨before, after, _, _, rfl⟩ := isGap
  exact List.append_ne_nil_of_right_ne_nil _ (List.cons_ne_nil _ _)

/-- A text that no white space begins. -/
def StartsSolid (text : Text) : Prop :=
  ∃ c rest, text = c :: rest ∧ Text.isBlank c = false

theorem StartsSolid.first {text : Text} (solid : StartsSolid text) :
    ∀ c, text.head? = some c → Text.isBlank c = false := by
  obtain ⟨c, rest, rfl, first⟩ := solid
  rintro _ ⟨⟩
  exact first

theorem separator_gap (mark : Char) {gap rest : Text} (isMark : Text.isBlank mark = false)
    (isGap : IsGap mark gap) (solid : StartsSolid rest) :
    separator mark (gap ++ rest) = some (gap, rest) := by
  obtain ⟨before, after, beforeBlank, afterBlank, rfl⟩ := isGap
  have startsMark : StartsSolid (mark :: (after ++ rest)) := ⟨mark, after ++ rest, rfl, isMark⟩
  have front := Text.run_ends beforeBlank startsMark.first
  have behind := Text.run_ends afterBlank solid.first
  rw [List.append_assoc, List.cons_append, separator, front.2, front.1]
  simp only [if_true, behind]

theorem keyword_gap {word gap rest : Text} (isGap : IsGap ':' gap) (solid : StartsSolid rest) :
    keyword word (word ++ gap ++ rest) = some (word ++ gap, rest) := by
  have front : word.isPrefixOf? (word ++ gap ++ rest) = some (gap ++ rest) :=
    Text.isPrefixOf?_eq_some_iff.mpr (List.append_assoc _ _ _)
  simp only [keyword, front, separator_gap ':' (by decide) isGap solid, Option.bind_eq_bind,
    Option.bind_some, Option.pure_def]

/-! Steps. -/

structure Step.IsStep (step : Step) : Prop where
  plain : IsPlain step.word
  marks : step.marks.Marks
  notEmpty : step.marks ≠ []

namespace Shape

theorem keywords_plain :
    IsPlain "group".toList ∧ IsPlain "name".toList ∧ IsPlain "version".toList := by
  decide

theorem IsValid.isStep {shape : Shape} (valid : shape.IsValid) {opening group module : Text}
    (openingMarks : opening.Marks) (groupPlain : IsPlain group) (modulePlain : IsPlain module) :
    ∀ step ∈ shape.steps opening group module, step.IsStep := by
  cases valid with
  | coordinate =>
      refine List.forall_mem_cons.mpr ⟨⟨groupPlain, ?_, by simp⟩, List.forall_mem_singleton.mpr
        ⟨modulePlain, ?_, by simp⟩⟩
      · exact .cons isPlain_colon (by simp [Marks])
      · exact .cons isPlain_colon (.cons isPlain_dollar openingMarks)
  | keyword groupKeyed groupQuoted first nameKeyed moduleQuoted second versionKeyed =>
      have groupMark := isPlain_of_quote groupQuoted
      have moduleMark := isPlain_of_quote moduleQuoted
      refine List.forall_mem_cons.mpr ⟨⟨?_, ?_, by simp⟩, List.forall_mem_cons.mpr
        ⟨⟨groupPlain, .cons groupMark (first.marks isPlain_comma), by simp⟩,
          List.forall_mem_cons.mpr ⟨⟨?_, ?_, by simp⟩, List.forall_mem_cons.mpr
            ⟨⟨modulePlain, .cons moduleMark (second.marks isPlain_comma), by simp⟩,
              List.forall_mem_singleton.mpr ⟨?_, ?_, ?_⟩⟩⟩⟩⟩
      · exact keywords_plain.1
      · exact (groupKeyed.marks isPlain_colon).append (.cons groupMark (by simp [Marks]))
      · exact keywords_plain.2.1
      · exact (nameKeyed.marks isPlain_colon).append (.cons moduleMark (by simp [Marks]))
      · exact keywords_plain.2.2
      · exact (versionKeyed.marks isPlain_colon).append openingMarks
      · exact List.append_ne_nil_of_left_ne_nil versionKeyed.ne_nil _

end Shape

/-- What the text behind the words must be like for a declaration to be found. -/
def Form.Opens : Form → Text → Prop
  | coordinate, text => ∃ c rest, text = c :: rest ∧ isTokenChar c = true
  | keyword, text => (Placeholder.value text).isSome = true

theorem ofRun_isSome {allowed : Char → Bool} {mark : Char} {text : Text} :
    (Placeholder.ofRun allowed mark text).isSome = true ↔
      ∃ c rest, text = c :: rest ∧ allowed c = true := by
  cases text with
  | nil => simp [Placeholder.ofRun]
  | cons c rest =>
      by_cases token : allowed c = true
      · simp [Placeholder.ofRun, token]
      · simp [Placeholder.ofRun, token]

theorem coordinateAt_isSome {group module text : Text} :
    (coordinateAt group module text).isSome = true ↔
      ∃ rest, text = textOf (Shape.coordinate.steps [] group module) ++ rest ∧
        Form.coordinate.Opens rest := by
  have written (rest : Text) : textOf (Shape.coordinate.steps [] group module) ++ rest =
      group ++ ':' :: module ++ [':', '$'] ++ rest := by
    simp [Shape.steps]
  simp only [written, Form.Opens]
  constructor
  · intro isSome
    obtain ⟨parts, found⟩ := Option.isSome_iff_exists.mp isSome
    obtain ⟨rest, _, _, whole, run, _⟩ := coordinateAt_eq_some_iff.mp found
    exact ⟨rest, by simpa using whole, ofRun_isSome.mp (Option.isSome_of_eq_some run)⟩
  · rintro ⟨rest, whole, opens⟩
    rw [← @ofRun_isSome _ '\x7b'] at opens
    obtain ⟨⟨found, after⟩, run⟩ := Option.isSome_iff_exists.mp opens
    exact Option.isSome_of_eq_some
      (coordinateAt_eq_some_iff.mpr ⟨rest, found, after, by simpa using whole, run, rfl⟩)

theorem startsSolid_of_quote {quote : Char} (quoted : isQuote quote = true) (rest : Text) :
    StartsSolid (quote :: rest) :=
  ⟨quote, rest, rfl, quote_solid (by simpa [isQuote] using quoted)⟩

/-- White space before a value is no part of it. -/
theorem startsSolid_of_value {text : Text} (valued : (Placeholder.value text).isSome = true) :
    StartsSolid text := by
  obtain ⟨placeholder, found⟩ := Option.isSome_iff_exists.mp valued
  obtain ⟨rest, isSolid, whole⟩ := Placeholder.value_cuts found
  obtain ⟨c, others, starts⟩ := List.exists_cons_of_ne_nil isSolid.notEmpty
  refine ⟨c, others ++ rest, by rw [← whole, starts]; rfl, isSolid.solid c ?_⟩
  rw [starts]
  exact List.mem_cons_self

theorem keywordAt_isSome {group module text : Text} :
    (keywordAt group module text).isSome = true ↔
      ∃ shape rest, Shape.form shape = .keyword ∧ shape.IsValid ∧
        text = textOf (shape.steps [] group module) ++ rest ∧ Form.keyword.Opens rest := by
  constructor
  · intro found
    obtain ⟨parts, found⟩ := Option.isSome_iff_exists.mp found
    cases keywordAt_form found with
    | found valid valued =>
        refine ⟨_, _, rfl, valid, rfl, ?_⟩
        rw [Form.Opens, valued]
        rfl
  · rintro ⟨shape, rest, form, valid, rfl, opens⟩
    cases valid with
    | coordinate => cases form
    | @keyword groupKey firstComma nameKey secondComma versionKey groupQuote moduleQuote groupKeyed
        groupQuoted first nameKeyed moduleQuoted second versionKeyed =>
        have solid := startsSolid_of_value opens
        obtain ⟨placeholder, valued⟩ := Option.isSome_iff_exists.mp opens
        have written : textOf ((Shape.keyword groupKey groupQuote firstComma nameKey moduleQuote
            secondComma versionKey).steps [] group module) ++ rest =
            "group".toList ++ groupKey ++ (groupQuote :: (group ++ groupQuote :: (firstComma ++
              ("name".toList ++ nameKey ++ (moduleQuote :: (module ++ moduleQuote ::
                (secondComma ++ ("version".toList ++ versionKey ++ rest)))))))) := by
          simp [Shape.steps]
        have nameSolid (behind : Text) : StartsSolid ("name".toList ++ nameKey ++ behind) :=
          ⟨'n', "ame".toList ++ nameKey ++ behind, rfl, by decide⟩
        have versionSolid (behind : Text) :
            StartsSolid ("version".toList ++ versionKey ++ behind) :=
          ⟨'v', "ersion".toList ++ versionKey ++ behind, rfl, by decide⟩
        rw [written, keywordAt]
        simp only [keyword_gap groupKeyed (startsSolid_of_quote groupQuoted _),
          quotedLiteral_eq_some.mpr ⟨groupQuoted, rfl⟩, separator_gap ',' (by decide) first
            (nameSolid _),
          keyword_gap nameKeyed (startsSolid_of_quote moduleQuoted _),
          quotedLiteral_eq_some.mpr ⟨moduleQuoted, rfl⟩, separator_gap ',' (by decide) second
            (versionSolid _), keyword_gap versionKeyed solid, valued,
          Option.bind_eq_bind, Option.bind_some, Option.pure_def, Option.isSome_some]

/-- A declaration is found where its words stand with a placeholder behind them. -/
theorem Form.declarationAt_isSome {form : Form} {group module text : Text} :
    (form.declarationAt group module text).isSome = true ↔
      ∃ shape rest, Shape.form shape = form ∧ shape.IsValid ∧
        text = textOf (shape.steps [] group module) ++ rest ∧ form.Opens rest := by
  cases form with
  | keyword => exact keywordAt_isSome
  | coordinate =>
      refine coordinateAt_isSome.trans ⟨?_, ?_⟩
      · rintro ⟨rest, whole, opens⟩
        exact ⟨.coordinate, rest, rfl, .coordinate, whole, opens⟩
      · rintro ⟨shape, rest, form, valid, whole, opens⟩
        cases valid with
        | coordinate => exact ⟨rest, whole, opens⟩
        | keyword => cases form

end Migration.Declaration
