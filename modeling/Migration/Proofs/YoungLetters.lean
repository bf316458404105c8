import Migration.Proofs.CharacterSets
import Migration.Proofs.Letters

namespace Migration

/-! Letters that are younger than the word characters.

The characters that have a case are word characters, apart from a few that have been added later.
Two of these are the capitals of word characters; no other word character changes its case into a
young letter.
-/

namespace CharSet

/-- Whether no number from `low` to `high` is in a set. -/
def missesRange (bounds : List Nat) (low high : Nat) : Bool :=
  match bounds with
  | [] => true
  | [first] => Nat.blt high first
  | first :: past :: rest => Nat.blt high first || (Nat.ble past low && missesRange rest low high)

theorem covers_of_missesRange {bounds : List Nat} {low high code : Nat}
    (misses : missesRange bounds low high = true) (above : low ≤ code) (below : code ≤ high) :
    covers bounds code = false := by
  fun_induction missesRange bounds low high with
  | case1 => rfl
  | case2 first =>
      have before := Nat.blt_eq.mp misses
      rw [covers, decide_eq_false_iff_not]
      omega
  | case3 first past rest ih =>
      simp only [Bool.or_eq_true, Bool.and_eq_true, Nat.blt_eq, Nat.ble_eq] at misses
      rw [covers]
      split
      · rfl
      · rw [if_neg (by omega)]
        exact ih (misses.resolve_left (by omega)).2

end CharSet

namespace Text

/-- Characters that have a case and are no word characters. -/
def youngLetters : CharSet := ⟨[
  0xA7CE, 0xA7D0, 0xA7D2, 0xA7D3, 0xA7D4, 0xA7D5, 0xA7F1, 0xA7F2, 0x16EA0, 0x16EB9, 0x16EBB,
  0x16ED4]⟩

/-- The capitals of word characters among them. -/
def youngCapitals : List Char :=
  ['\ua7d2', '\ua7d4']

/-- The word characters with these capitals. -/
def lowerOfYoung : List Char :=
  ['\ua7d3', '\ua7d5']

section Tables

set_option maxRecDepth 100000

theorem casedCharacters_ascend : CharSet.Ascends casedCharacters.bounds := by decide

theorem wordCharacters_ascend : CharSet.Ascends wordCharacters.bounds := by decide

theorem difference_eq_youngLetters :
    casedCharacters.difference wordCharacters = youngLetters := by decide

end Tables

theorem youngLetters_contains (c : Char) :
    youngLetters.contains c = (casedCharacters.contains c && !isWord c) := by
  rw [← difference_eq_youngLetters]
  refine CharSet.contains_combine rfl casedCharacters_ascend wordCharacters_ascend ?_ c
  rw [← CharSet.difference, difference_eq_youngLetters]
  decide

theorem isWord_of_isLetter {c : Char} (letter : isLetter c = true)
    (old : youngLetters.contains c = false) : isWord c = true := by
  rw [youngLetters_contains] at old
  rcases (Bool.or_eq_true _ _).mp letter with cased | word
  · simpa [show casedCharacters.contains c = true from cased] using old
  · exact word

theorem not_young_of_isWord {c : Char} (word : isWord c = true) :
    youngLetters.contains c = false := by
  rw [youngLetters_contains, word, Bool.not_true, Bool.and_false]

namespace CaseRun

/-- Whether a run leads no word character to a young letter, those with the spared numbers apart. -/
def avoidsYoung (spared : List Nat) (run : CaseRun) : Bool :=
  CharSet.missesRange youngLetters.bounds run.image run.lastImage ||
    CharSet.missesRange wordCharacters.bounds run.first run.last ||
    (List.range (run.last - run.first + 1)).all fun distance =>
      distance % run.stride != 0 || spared.contains (run.first + distance) ||
        !CharSet.covers youngLetters.bounds (run.image + distance) ||
        !CharSet.covers wordCharacters.bounds (run.first + distance)

theorem not_young_image {spared : List Nat} {run : CaseRun} (avoids : run.avoidsYoung spared = true)
    {code : Nat} (above : run.first ≤ code) (below : code ≤ run.last)
    (met : (code - run.first) % run.stride = 0) (notSpared : code ∉ spared)
    (word : CharSet.covers wordCharacters.bounds code = true) :
    CharSet.covers youngLetters.bounds (run.image + (code - run.first)) = false := by
  rw [avoidsYoung, Bool.or_eq_true, Bool.or_eq_true] at avoids
  rcases avoids with (images | sources) | each
  · exact CharSet.covers_of_missesRange images (Nat.le_add_right _ _)
      (Nat.add_le_add_left (Nat.sub_le_sub_right below _) _)
  · rw [CharSet.covers_of_missesRange sources above below] at word
    cases word
  · have avoided := List.all_eq_true.mp each (code - run.first) (List.mem_range.mpr (by omega))
    rw [met, Nat.add_sub_cancel' above, word] at avoided
    simpa [notSpared] using avoided

theorem not_young_mapped {spared : List Nat} {runs : List CaseRun}
    (avoid : ∀ run ∈ runs, run.avoidsYoung spared = true) {c : Char}
    (notSpared : c.toNat ∉ spared) (word : isWord c = true) :
    CharSet.covers youngLetters.bounds (map runs c.toNat) = false := by
  induction runs with
  | nil => exact not_young_of_isWord word
  | cons run rest ih =>
      obtain ⟨avoids, avoid⟩ := List.forall_mem_cons.mp avoid
      rw [map]
      split
      · next met =>
          simp only [Bool.and_eq_true, decide_eq_true_eq, beq_iff_eq] at met
          obtain ⟨⟨above, below⟩, met⟩ := met
          exact not_young_image avoids above below met notSpared word
      · exact ih avoid

end CaseRun

section Tables

set_option maxRecDepth 100000

theorem lowerRuns_avoidYoung : ∀ run ∈ lowerRuns, run.avoidsYoung [] = true := by decide

theorem upperRuns_avoidYoung :
    ∀ run ∈ upperRuns, run.avoidsYoung (lowerOfYoung.map Char.toNat) = true := by decide

theorem upperExpansions_old :
    ∀ expansion ∈ upperExpansions, ∀ code ∈ expansion.2,
      youngLetters.contains (Char.ofNat code) = false := by decide

/-- There is nothing else to the capital of such a character. -/
theorem upperChar_young : ∀ c ∈ lowerOfYoung, ∃ d ∈ youngCapitals, upperChar c = [d] :=
  List.forall_mem_cons.mpr ⟨⟨'\ua7d2', by decide, by decide⟩,
    List.forall_mem_singleton.mpr ⟨'\ua7d4', by decide, by decide⟩⟩

theorem isLetter_youngCapital : ∀ c ∈ youngCapitals, isLetter c = true :=
  List.all_eq_true.mp (by decide)

theorem youngCapitals_noWords : ∀ c ∈ youngCapitals, isWord c = false :=
  List.forall_mem_cons.mpr ⟨by decide, List.forall_mem_singleton.mpr (by decide)⟩

end Tables

theorem not_young_ofNat {code : Nat} (old : CharSet.covers youngLetters.bounds code = false) :
    youngLetters.contains (Char.ofNat code) = false := by
  by_cases valid : code.isValidChar
  · rwa [CharSet.contains, toNat_ofNat valid]
  · rw [Char.ofNat, dif_neg valid]
    rfl

theorem isWord_lowerChar {c : Char} (word : isWord c = true) :
    ∀ d ∈ lowerChar c, isWord d = true := by
  intro d member
  have letter := isLetter_lowerChar word d member
  rw [lowerChar] at member
  split at member
  · have words : ['i', '\u0307'].all isWord = true := by decide
    exact List.all_eq_true.mp words d member
  · rw [List.mem_singleton.mp member] at letter ⊢
    exact isWord_of_isLetter letter (not_young_ofNat
      (CaseRun.not_young_mapped lowerRuns_avoidYoung List.not_mem_nil word))

theorem isWord_upperChar {c : Char} (word : isWord c = true) (other : c ∉ lowerOfYoung) :
    ∀ d ∈ upperChar c, isWord d = true := by
  have notSpared : c.toNat ∉ lowerOfYoung.map Char.toNat := by
    intro member
    obtain ⟨d, spared, same⟩ := List.mem_map.mp member
    exact other (Char.toNat_inj.mp same ▸ spared)
  intro d member
  refine isWord_of_isLetter (isLetter_upperChar word d member) ?_
  rw [upperChar] at member
  split at member
  · next codes found =>
      obtain ⟨code, isCode, rfl⟩ := List.mem_map.mp member
      obtain ⟨before, after, split, -⟩ := List.lookup_eq_some_iff.mp found
      exact upperExpansions_old (c.toNat, codes) (split ▸ by simp) code isCode
  · rw [List.mem_singleton.mp member]
    exact not_young_ofNat (CaseRun.not_young_mapped upperRuns_avoidYoung notSpared word)

theorem isWord_lowerAfter (before : Text) {text : Text} (words : ∀ c ∈ text, isWord c = true) :
    ∀ d ∈ lowerAfter before text, isWord d = true := by
  induction text generalizing before with
  | nil => simp [lowerAfter]
  | cons c rest ih =>
      obtain ⟨word, words⟩ := List.forall_mem_cons.mp words
      intro d member
      rcases List.mem_append.mp member with member | member
      · split at member
        · rw [List.mem_singleton.mp member]
          split <;> decide
        · exact isWord_lowerChar word d member
      · exact ih (c :: before) words d member

/-- A capitalized word has word characters only, unless its first letter has a young capital. -/
theorem capitalize_characters {text : Text} (words : ∀ c ∈ text, isWord c = true) :
    ∀ d ∈ capitalize text, isWord d = true ∨
      d ∈ youngCapitals ∧ ∃ c, text.head? = some c ∧ c ∈ lowerOfYoung := by
  cases text with
  | nil => simp [capitalize]
  | cons c rest =>
      obtain ⟨word, words⟩ := List.forall_mem_cons.mp words
      intro d member
      rcases List.mem_append.mp member with member | member
      · by_cases spared : c ∈ lowerOfYoung
        · obtain ⟨capital, young, upper⟩ := upperChar_young c spared
          rw [upper, List.mem_singleton] at member
          exact .inr ⟨member ▸ young, c, rfl, spared⟩
        · exact .inl (isWord_upperChar word spared d member)
      · exact .inl (isWord_lowerAfter [] words d member)

/-- A capitalized word begins with a young capital if its first letter has one. -/
theorem exists_youngCapital {text : Text} {c : Char} (first : text.head? = some c)
    (spared : c ∈ lowerOfYoung) : ∃ d ∈ capitalize text, isWord d = false := by
  obtain ⟨rest, rfl⟩ := List.head?_eq_some_iff.mp first
  obtain ⟨capital, young, upper⟩ := upperChar_young c spared
  exact ⟨capital, List.mem_append_left _ (upper ▸ List.mem_singleton_self capital),
    youngCapitals_noWords capital young⟩

end Text

end Migration
