import Migration.Artifact.VersionVariable

namespace Migration

/-! The words of a name.

A name has one way to be cut into words with runs of other characters between them, which is the way
its words are found.
-/

open Text (isWord)

/-- The words of a name, with runs of other characters between them that are as long as they can
be.  The first word is empty if the name begins with such a run, and the last one if it ends
with one. -/
inductive WordRuns : Text → List Text → Prop
  | last {word : Text} (letters : ∀ c ∈ word, isWord c = true) : WordRuns word [word]
  | next {word gap rest : Text} {words : List Text} (letters : ∀ c ∈ word, isWord c = true)
      (notEmpty : gap ≠ []) (noLetters : ∀ c ∈ gap, isWord c = false)
      (maximal : ∀ c, rest.head? = some c → isWord c = true) (later : WordRuns rest words) :
      WordRuns (word ++ (gap ++ rest)) (word :: words)

namespace WordRuns

variable {name : Text} {words : List Text}

theorem exists_cons (runs : WordRuns name words) : ∃ first others, words = first :: others := by
  cases runs with
  | last => exact ⟨_, _, rfl⟩
  | next => exact ⟨_, _, rfl⟩

theorem letters (runs : WordRuns name words) : ∀ word ∈ words, ∀ c ∈ word, isWord c = true := by
  induction runs with
  | last letters => exact List.forall_mem_singleton.mpr letters
  | next letters _ _ _ _ ih => exact List.forall_mem_cons.mpr ⟨letters, ih⟩

end WordRuns

theorem exists_wordRuns (name : Text) : ∃ words, WordRuns name words := by
  induction size : name.length using Nat.strongRecOn generalizing name with
  | ind length ih =>
      have letters : ∀ c ∈ name.takeWhile isWord, isWord c = true := fun c =>
        List.all_eq_true.mp List.all_takeWhile c
      have whole := List.takeWhile_append_dropWhile (p := isWord) (l := name)
      cases left : name.dropWhile isWord with
      | nil =>
          rw [left, List.append_nil] at whole
          exact ⟨[name], .last (whole ▸ letters)⟩
      | cons c behind =>
          have noLetter : isWord c = false := by
            have stopped := List.head?_dropWhile_not isWord name
            rw [left] at stopped
            simpa using stopped
          have gapEnds := List.takeWhile_append_dropWhile (p := (!isWord ·)) (l := behind)
          have shorter : (behind.dropWhile (!isWord ·)).length < length := by
            have shrinks := (List.dropWhile_suffix (!isWord ·) (l := behind)).length_le
            have longer := congrArg List.length whole
            simp only [left, List.length_append, List.length_cons] at longer
            omega
          obtain ⟨words, runs⟩ := ih _ shorter _ rfl
          rw [left, ← gapEnds, ← List.cons_append] at whole
          have noLetters : ∀ d ∈ c :: behind.takeWhile (!isWord ·), isWord d = false := by
            refine List.forall_mem_cons.mpr ⟨noLetter, fun d member => ?_⟩
            simpa using List.all_eq_true.mp List.all_takeWhile d member
          have maximal : ∀ d, (behind.dropWhile (!isWord ·)).head? = some d → isWord d = true := by
            intro d starts
            have stopped := List.head?_dropWhile_not (!isWord ·) behind
            rw [starts] at stopped
            simpa using stopped
          have built := WordRuns.next letters (List.cons_ne_nil _ _) noLetters maximal runs
          rw [whole] at built
          exact ⟨_, built⟩

/-! The words that are found. -/

/-- A character in front of the words read so far; the mark tells whether a run of other characters
stands in front of them. -/
def addToWords (c : Char) (read : List Text × Bool) : List Text × Bool :=
  if isWord c then
    match read.1 with
    | [] => ([[c]], false)
    | first :: others => ((c :: first) :: others, false)
  else if read.2 then read
  else ([] :: read.1, true)

def readWords (name : Text) : List Text × Bool :=
  name.foldr addToWords ([[]], false)

theorem fst_readWords (name : Text) : (readWords name).1 = wordsOf name := rfl

theorem readWords_cons (c : Char) (rest : Text) :
    readWords (c :: rest) = addToWords c (readWords rest) := rfl

theorem readWords_word {word : Text} (letters : ∀ c ∈ word, isWord c = true) {rest first : Text}
    {others : List Text} {mark : Bool} (read : readWords rest = (first :: others, mark)) :
    (readWords (word ++ rest)).1 = (word ++ first) :: others := by
  induction word generalizing rest with
  | nil => rw [List.nil_append, read]; rfl
  | cons c word ih =>
      obtain ⟨letter, letters⟩ := List.forall_mem_cons.mp letters
      rw [List.cons_append, readWords_cons, addToWords, if_pos letter, ih letters read]
      rfl

theorem readWords_gap {gap : Text} (notEmpty : gap ≠ []) (noLetters : ∀ c ∈ gap, isWord c = false)
    {rest : Text} {words : List Text} (read : readWords rest = (words, false)) :
    readWords (gap ++ rest) = ([] :: words, true) := by
  induction gap with
  | nil => exact absurd rfl notEmpty
  | cons c gap ih =>
      obtain ⟨noLetter, noLetters⟩ := List.forall_mem_cons.mp noLetters
      rw [List.cons_append, readWords_cons, addToWords, if_neg (by simp [noLetter])]
      cases gap with
      | nil => rw [List.nil_append, read]; rfl
      | cons d gap => rw [ih (List.cons_ne_nil _ _) noLetters]; rfl

/-- There is no mark in front of a name that begins with a word, or has nothing to it. -/
theorem readWords_unmarked {name : Text}
    (starts : ∀ c, name.head? = some c → isWord c = true) : (readWords name).2 = false := by
  cases name with
  | nil => rfl
  | cons c rest =>
      rw [readWords_cons, addToWords, if_pos (starts c rfl)]
      split <;> rfl

theorem WordRuns.wordsOf_eq {name : Text} {words : List Text} (runs : WordRuns name words) :
    wordsOf name = words := by
  induction runs with
  | @last word letters =>
      have nothing : readWords [] = ([[]], false) := rfl
      have read := readWords_word letters nothing
      rwa [List.append_nil, fst_readWords] at read
  | @next word gap rest words letters notEmpty noLetters maximal later ih =>
      have read : readWords rest = (words, false) :=
        Prod.ext ((fst_readWords rest).trans ih) (readWords_unmarked maximal)
      have whole := readWords_word letters (readWords_gap notEmpty noLetters read)
      rwa [List.append_nil, fst_readWords] at whole

/-- The words that are found are those that the name is made of. -/
theorem wordRuns_iff {name : Text} {words : List Text} :
    WordRuns name words ↔ wordsOf name = words := by
  refine ⟨WordRuns.wordsOf_eq, ?_⟩
  rintro rfl
  obtain ⟨words, runs⟩ := exists_wordRuns name
  rwa [runs.wordsOf_eq]

end Migration
