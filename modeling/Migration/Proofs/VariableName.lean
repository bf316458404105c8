import Migration.Proofs.WordRuns
import Migration.Proofs.YoungLetters

namespace Migration

/-! Version variables are made of letters.

They are word characters, apart from the young capitals that some words begin with.
-/

open Text (isWord isLetter youngCapitals lowerOfYoung)

/-- The characters of a name in camel case: only a word behind the first one can bring a young
capital into it. -/
theorem camelCase_characters {first : Text} {others : List Text}
    (letters : ∀ word ∈ first :: others, ∀ c ∈ word, isWord c = true) :
    ∀ d ∈ camelCase (first :: others), isWord d = true ∨
      d ∈ youngCapitals ∧ ∃ word ∈ others, ∃ c, word.head? = some c ∧ c ∈ lowerOfYoung := by
  obtain ⟨firstLetters, letters⟩ := List.forall_mem_cons.mp letters
  intro d member
  rcases List.mem_append.mp member with member | member
  · exact .inl (Text.isWord_lowerAfter [] firstLetters d member)
  · obtain ⟨word, isOther, member⟩ := List.mem_flatMap.mp member
    refine (Text.capitalize_characters (letters word isOther) d member).imp_right ?_
    exact fun ⟨young, c, starts, spared⟩ => ⟨young, word, isOther, c, starts, spared⟩

theorem isWord_versionSuffix : ∀ c ∈ "Version".toList, isWord c = true :=
  List.all_eq_true.mp (by decide)

theorem versionVariable_characters {module first : Text} {others : List Text}
    (runs : WordRuns module (first :: others)) :
    ∀ d ∈ versionVariable module, isWord d = true ∨
      d ∈ youngCapitals ∧ ∃ word ∈ others, ∃ c, word.head? = some c ∧ c ∈ lowerOfYoung := by
  intro d member
  rw [versionVariable, runs.wordsOf_eq] at member
  rcases List.mem_append.mp member with member | member
  · exact camelCase_characters runs.letters d member
  · exact .inl (isWord_versionSuffix d member)

/-- The name of a version variable has no blank, quote, brace, dot or dollar sign in it. -/
theorem isLetter_versionVariable (module : Text) :
    ∀ c ∈ versionVariable module, isLetter c = true := by
  intro c member
  obtain ⟨words, runs⟩ := exists_wordRuns module
  obtain ⟨first, others, rfl⟩ := runs.exists_cons
  rcases versionVariable_characters runs c member with word | ⟨young, -⟩
  · exact Text.isLetter_of_isWord word
  · exact Text.isLetter_youngCapital c young

end Migration
