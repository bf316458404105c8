import Migration.Proofs.KeywordForm
import Migration.Proofs.VariableName

namespace Migration

/-! Version variables in placeholders.

The name of a version variable is made from the word runs of a module's name alone.  Wherever a
placeholder has it for its token, behind properties or not, the token that is read there is the
whole name.
-/

open Text (isWord isPlain isBlank youngCapitals lowerOfYoung)

namespace Declaration

/-- The token is read as a whole, behind whichever properties: from the coordinate form, with a
brace in front of it or not, and from every spelling of a version in the keyword form. -/
structure ReadsWhole (token : Text) : Prop where
  coordinate (names : List Text) (identifiers : ∀ name ∈ names, isIdentifier name = true)
    (braced : Bool) (behind : Text)
    (ended : ∀ c, behind.head? = some c → isTokenChar c = false) :
    Placeholder.ofRun isTokenChar '\x7b'
        (markIf braced '\x7b' ++ (written names ++ token) ++ behind) =
      some (⟨markIf braced '\x7b' ++ written names, token, []⟩, behind)
  keyword (version : Version) (behind : Text) (ends : version.EndsBefore behind) :
    Placeholder.value (version.text token ++ behind) =
      some ⟨version.opening, token, version.closing⟩

theorem ReadsWhole.of_plain {token : Text} (notEmpty : token ≠ [])
    (plain : ∀ c ∈ token, isPlain c = true) (noDot : '.' ∉ token) : ReadsWhole token where
  coordinate names identifiers braced behind ended :=
    Reached.ofRun_run ⟨identifiers, notEmpty, plain, noDot⟩ (fun _ => isTokenChar_of_plain)
      (by decide) (by decide) braced ended
  keyword version behind ends :=
    Version.value_text ⟨version.access.identifiers, notEmpty, plain, noDot⟩ ends

end Declaration

theorem plain_versionVariable (module : Text) : ∀ c ∈ versionVariable module, isPlain c = true := by
  intro c member
  rw [isPlain, isLetter_versionVariable module c member]
  rfl

theorem versionVariable_no_marks (module : Text) :
    ∀ c ∈ versionVariable module,
      c ∉ ['"', '\x27', '\x7b', '\x7d', '.', '$'] ∧ isBlank c = false := by
  intro c member
  have letter := isLetter_versionVariable module c member
  have noLetters : ['"', '\x27', '\x7b', '\x7d', '.', '$'].all (!Text.isLetter ·) = true := by
    decide
  refine ⟨fun mark => ?_, Text.isBlank_of_plain (plain_versionVariable module c member)⟩
  have noLetter := List.all_eq_true.mp noLetters c mark
  rw [letter] at noLetter
  cases noLetter

theorem versionVariable_readsWhole (module : Text) :
    Declaration.ReadsWhole (versionVariable module) := by
  refine .of_plain (List.append_ne_nil_of_right_ne_nil _ (by decide)) (plain_versionVariable module)
    fun dot => ?_
  exact (versionVariable_no_marks module '.' dot).1 (by decide)

/-- A variable's name has word characters only, exactly if no word behind the first one begins with
a letter whose capital is young. -/
theorem versionVariable_words {module first : Text} {others : List Text}
    (runs : WordRuns module (first :: others)) :
    (∀ c ∈ versionVariable module, isWord c = true) ↔
      ∀ word ∈ others, ∀ c, word.head? = some c → c ∉ lowerOfYoung := by
  constructor
  · intro letters word isOther c starts spared
    obtain ⟨d, member, noWord⟩ := Text.exists_youngCapital starts spared
    have inside : d ∈ versionVariable module := by
      rw [versionVariable, runs.wordsOf_eq]
      exact List.mem_append_left _
        (List.mem_append_right _ (List.mem_flatMap.mpr ⟨word, isOther, member⟩))
    rw [letters d inside] at noWord
    cases noWord
  · intro none c member
    rcases versionVariable_characters runs c member with word | ⟨-, word, isOther, d, starts, spared⟩
    · exact word
    · exact absurd spared (none word isOther d starts)

/-- The variable of a module is named after the module's word runs in camel case, whatever stands
between them, and its name is safe inside a placeholder. -/
theorem versionVariable_of_word_runs (module : Text) :
    (∃ first others, WordRuns module (first :: others)) ∧
    ∀ first others, WordRuns module (first :: others) →
      versionVariable module =
        Text.lower first ++ others.flatMap Text.capitalize ++ "Version".toList ∧
      (∀ c ∈ versionVariable module, isWord c = true ∨ c ∈ youngCapitals) ∧
      ((∀ c ∈ versionVariable module, isWord c = true) ↔
        ∀ word ∈ others, ∀ c, word.head? = some c → c ∉ lowerOfYoung) ∧
      (∀ c ∈ versionVariable module,
        c ∉ ['"', '\x27', '\x7b', '\x7d', '.', '$'] ∧ isBlank c = false) ∧
      Declaration.ReadsWhole (versionVariable module) ∧
      ∀ other, WordRuns other (first :: others) → versionVariable other = versionVariable module := by
  constructor
  · obtain ⟨words, runs⟩ := exists_wordRuns module
    obtain ⟨first, others, rfl⟩ := runs.exists_cons
    exact ⟨first, others, runs⟩
  · intro first others runs
    refine ⟨?_, ?_, versionVariable_words runs, versionVariable_no_marks module,
      versionVariable_readsWhole module, ?_⟩
    · rw [versionVariable, runs.wordsOf_eq]
      rfl
    · exact fun c member => (versionVariable_characters runs c member).imp_right And.left
    · intro other sameRuns
      rw [versionVariable, versionVariable, runs.wordsOf_eq, sameRuns.wordsOf_eq]

/-- A name with an upper-case letter that becomes two, two marks in a row and a mark at its end. -/
def ligatureModule : Text :=
  "Core_KTX.-\ufb01x\u00df-".toList

theorem ligatureModule_word_runs :
    WordRuns ligatureModule ["Core_KTX".toList, "\ufb01x\u00df".toList, []] ∧
      versionVariable ligatureModule = "core_ktxFIx\u00dfVersion".toList := by
  have runs : WordRuns ligatureModule ["Core_KTX".toList, "\ufb01x\u00df".toList, []] :=
    wordRuns_iff.mpr (by decide +kernel)
  refine ⟨runs, (((versionVariable_of_word_runs ligatureModule).2 _ _ runs).1).trans ?_⟩
  decide +kernel

/-- The capital of a small double thorn is no word character. -/
theorem doubleThorn_capital_no_word :
    ¬ ∀ c ∈ versionVariable "a-\ua7d3".toList, isWord c = true := by
  intro words
  have capital : '\ua7d2' ∈ versionVariable "a-\ua7d3".toList := by decide +kernel
  have word := words '\ua7d2' capital
  revert word
  decide +kernel

end Migration
