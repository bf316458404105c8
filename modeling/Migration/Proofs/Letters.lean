import Migration.Text.Case
import Migration.Text.Word

namespace Migration

/-! Letters and their case.

Changing the case of a word character makes letters: every run of the case tables leads into a run
of letters, and a character that is in none of them stays as it is.
-/

namespace CharSet

/-- Whether all numbers from `low` to `high` lie between the same two boundaries of a set. -/
def coversRange : List Nat → (low high : Nat) → Bool
  | [], _, _ => false
  | [first], low, _ => Nat.ble first low
  | first :: past :: rest, low, high =>
      Nat.ble first low &&
        bif Nat.ble past low then coversRange rest low high else Nat.ble (high + 1) past

theorem covers_of_coversRange {bounds : List Nat} {low high code : Nat}
    (covered : coversRange bounds low high = true) (above : low ≤ code) (below : code ≤ high) :
    covers bounds code = true := by
  fun_induction coversRange bounds low high with
  | case1 => cases covered
  | case2 first low =>
      rw [covers, decide_eq_true_eq]
      exact Nat.le_trans (Nat.le_of_ble_eq_true covered) above
  | case3 first past rest low high ih =>
      obtain ⟨inside, covered⟩ := Bool.and_eq_true_iff.mp covered
      have inside := Nat.le_of_ble_eq_true inside
      rw [covers, if_neg (by omega)]
      cases beyond : Nat.ble past low with
      | true =>
          have beyond := Nat.le_of_ble_eq_true beyond
          rw [Nat.ble_eq_true_of_le beyond] at covered
          rw [if_neg (by omega)]
          exact ih covered above below
      | false =>
          rw [beyond] at covered
          have last := Nat.le_of_ble_eq_true covered
          rw [if_pos (by omega)]

end CharSet

namespace Text

/-- Characters that have a case, and other word characters. -/
def isLetterCode (code : Nat) : Bool :=
  CharSet.covers casedCharacters.bounds code || CharSet.covers wordCharacters.bounds code

def isLetter (c : Char) : Bool :=
  isLetterCode c.toNat

theorem isLetter_of_isWord {c : Char} (word : isWord c = true) : isLetter c = true :=
  (Bool.or_eq_true _ _).mpr (.inr word)

theorem toNat_ofNat {code : Nat} (valid : code.isValidChar) : (Char.ofNat code).toNat = code := by
  rw [Char.ofNat, dif_pos valid]
  rfl

theorem isLetter_ofNat {code : Nat} (valid : code.isValidChar) (letter : isLetterCode code = true) :
    isLetter (Char.ofNat code) = true := by
  rwa [isLetter, toNat_ofNat valid]

namespace CaseRun

/-- The last image of a run. -/
def lastImage (run : CaseRun) : Nat :=
  run.image + (run.last - run.first)

/-- Whether a run leads to letters only, as a rule because all its images are neighbours. -/
def makesLetters (run : CaseRun) : Bool :=
  CharSet.coversRange casedCharacters.bounds run.image run.lastImage ||
    CharSet.coversRange wordCharacters.bounds run.image run.lastImage ||
    (List.range (run.last - run.first + 1)).all fun distance =>
      distance % run.stride != 0 || isLetterCode (run.image + distance)

def makesCharacters (run : CaseRun) : Bool :=
  Nat.ble run.lastImage 0xD7FF || (Nat.ble 0xE000 run.image && Nat.ble run.lastImage 0x10FFFF)

theorem isLetterCode_image {run : CaseRun} (makes : run.makesLetters = true) {distance : Nat}
    (within : distance ≤ run.last - run.first) (met : distance % run.stride = 0) :
    isLetterCode (run.image + distance) = true := by
  have above : run.image ≤ run.image + distance := Nat.le_add_right _ _
  have below : run.image + distance ≤ run.lastImage := Nat.add_le_add_left within _
  rw [makesLetters, Bool.or_eq_true, Bool.or_eq_true] at makes
  rw [isLetterCode, Bool.or_eq_true]
  rcases makes with (cased | words) | each
  · exact .inl (CharSet.covers_of_coversRange cased above below)
  · exact .inr (CharSet.covers_of_coversRange words above below)
  · have letter := List.all_eq_true.mp each distance (List.mem_range.mpr (by omega))
    rw [met] at letter
    exact (Bool.or_eq_true _ _).mp letter

theorem isValidChar_image {run : CaseRun} (makes : run.makesCharacters = true) {distance : Nat}
    (within : distance ≤ run.last - run.first) : (run.image + distance).isValidChar := by
  simp only [makesCharacters, Bool.or_eq_true, Bool.and_eq_true, Nat.ble_eq, lastImage] at makes
  unfold Nat.isValidChar
  omega

theorem isLetter_mapped {runs : List CaseRun} (letters : ∀ run ∈ runs, run.makesLetters = true)
    (characters : ∀ run ∈ runs, run.makesCharacters = true) {c : Char} (word : isWord c = true) :
    isLetter (Char.ofNat (map runs c.toNat)) = true := by
  induction runs with
  | nil =>
      rw [map, Char.ofNat_toNat]
      exact isLetter_of_isWord word
  | cons run rest ih =>
      obtain ⟨makesLetters, letters⟩ := List.forall_mem_cons.mp letters
      obtain ⟨makesCharacters, characters⟩ := List.forall_mem_cons.mp characters
      rw [map]
      split
      · next met =>
          simp only [Bool.and_eq_true, decide_eq_true_eq, beq_iff_eq] at met
          obtain ⟨⟨_, _⟩, met⟩ := met
          have within : c.toNat - run.first ≤ run.last - run.first := by omega
          exact isLetter_ofNat (isValidChar_image makesCharacters within)
            (isLetterCode_image makesLetters within met)
      · exact ih letters characters

end CaseRun

section Tables

set_option maxRecDepth 100000

theorem lowerRuns_makeLetters : ∀ run ∈ lowerRuns, run.makesLetters = true := by decide

theorem upperRuns_makeLetters : ∀ run ∈ upperRuns, run.makesLetters = true := by decide

theorem lowerRuns_makeCharacters : ∀ run ∈ lowerRuns, run.makesCharacters = true := by decide

theorem upperRuns_makeCharacters : ∀ run ∈ upperRuns, run.makesCharacters = true := by decide

theorem upperExpansions_letters :
    ∀ expansion ∈ upperExpansions, ∀ code ∈ expansion.2, isLetter (Char.ofNat code) = true := by
  decide

end Tables

theorem isLetter_lowerChar {c : Char} (word : isWord c = true) :
    ∀ d ∈ lowerChar c, isLetter d = true := by
  rw [lowerChar]
  split
  · exact List.all_eq_true.mp (by decide)
  · exact List.forall_mem_singleton.mpr
      (CaseRun.isLetter_mapped lowerRuns_makeLetters lowerRuns_makeCharacters word)

theorem isLetter_upperChar {c : Char} (word : isWord c = true) :
    ∀ d ∈ upperChar c, isLetter d = true := by
  rw [upperChar]
  split
  · next codes found =>
      intro d member
      obtain ⟨code, isCode, rfl⟩ := List.mem_map.mp member
      obtain ⟨before, after, split, -⟩ := List.lookup_eq_some_iff.mp found
      exact upperExpansions_letters (c.toNat, codes) (split ▸ by simp) code isCode
  · exact List.forall_mem_singleton.mpr
      (CaseRun.isLetter_mapped upperRuns_makeLetters upperRuns_makeCharacters word)

end Text

end Migration
