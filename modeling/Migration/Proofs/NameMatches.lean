import Migration.Proofs.FirstMatch
import Migration.Proofs.Pieces

namespace Migration

/-! The names of a line as matches of a pattern.

The pattern takes as many words with a dot behind them as it can get, and gives the last of them
back if neither a word nor a star follows.  What it finds are the names that the line is cut into.
-/

namespace Pattern

open QualifiedName (Path continuesRun continuesDot)
open Text (IsWordRun isWord startsWord)

/-- The pattern that is written `\w+`. -/
def word : Pattern :=
  .repeated (.one Text.wordCharacters) 1 none

/-- The pattern that is written `\w+\.`. -/
def segment : Pattern :=
  .sequence [word, .literal ['.']]

/-- The pattern that is written `(?:\w+\.)+(?:\w+|\*)`. -/
def qualifiedName : Pattern :=
  .sequence [.repeated segment 1 none, .either [word, .literal ['*']]]

/-! Words. -/

theorem begins_wordCharacters (rest : Text) :
    begins Text.wordCharacters rest = startsWord rest := by
  cases rest <;> rfl

/-- A word is tried as long as it is, and then with its last characters left. -/
theorem ends_word {text rest : Text} (run : IsWordRun text) (ended : startsWord rest = false)
    (before : Text) :
    ∃ others, ends word ⟨before, text ++ rest⟩ = ⟨text.reverse ++ before, rest⟩ :: others ∧
      ∀ other ∈ others, startsWord other.after = true := by
  simp only [← begins_wordCharacters] at ended ⊢
  exact ends_run run.notEmpty run.words ended before

theorem ends_noWord {before rest : Text} (ended : startsWord rest = false) :
    ends word ⟨before, rest⟩ = [] :=
  ends_noRun ((begins_wordCharacters rest).trans ended) before

/-! Words with a dot behind them. -/

theorem ends_otherChar {c : Char} (mark : isWord c = false) {here : Cursor}
    (letter : startsWord here.after = true) : ends (.literal [c]) here = [] := by
  obtain ⟨before, after⟩ := here
  rw [ends_char, if_neg]
  intro same
  cases after with
  | nil => cases same
  | cons d rest =>
      cases same
      exact Bool.false_ne_true (mark.symm.trans letter)

theorem ends_segment_eq (before rest : Text) :
    ends segment ⟨before, rest⟩ =
      (ends word ⟨before, rest⟩).flatMap (ends (.literal ['.'])) := by
  rw [segment, ends, endsAll]
  congr 1
  funext next
  rw [endsAll]
  exact List.flatMap_singleton' _

theorem ends_segment_word {text rest : Text} (run : IsWordRun text)
    (ended : startsWord rest = false) (before : Text) :
    ends segment ⟨before, text ++ rest⟩ = ends (.literal ['.']) ⟨text.reverse ++ before, rest⟩ := by
  obtain ⟨others, tried, shorter⟩ := ends_word run ended before
  have given : others.flatMap (ends (.literal ['.'])) = [] :=
    List.flatMap_eq_nil_iff.mpr fun other member =>
      ends_otherChar Text.dot_not_word (shorter other member)
  rw [ends_segment_eq, tried, List.flatMap_cons, given, List.append_nil]

theorem ends_segment_dot {text : Text} (run : IsWordRun text) (before rest : Text) :
    ends segment ⟨before, text ++ '.' :: rest⟩ = [⟨'.' :: (text.reverse ++ before), rest⟩] := by
  have ended : startsWord ('.' :: rest) = false := Text.dot_not_word
  rw [ends_segment_word run ended, ends_char]
  rfl

theorem ends_segment_noDot {text rest : Text} (run : IsWordRun text)
    (ended : startsWord rest = false) (noDot : rest.head? ≠ some '.') (before : Text) :
    ends segment ⟨before, text ++ rest⟩ = [] := by
  rw [ends_segment_word run ended, ends_char]
  exact if_neg noDot

theorem ends_segment_noWord {before rest : Text} (ended : startsWord rest = false) :
    ends segment ⟨before, rest⟩ = [] := by
  rw [ends_segment_eq, ends_noWord ended]
  rfl

/-- Words with a dot behind each of them. -/
def dotEach (words : List Text) : Text :=
  words.flatMap (· ++ ['.'])

theorem dotEach_cons_append (text : Text) (words : List Text) (rest : Text) :
    dotEach (text :: words) ++ rest = text ++ '.' :: (dotEach words ++ rest) := by
  simp [dotEach]

theorem length_le_dotEach (words : List Text) : words.length ≤ (dotEach words).length := by
  induction words with
  | nil => exact Nat.le_refl 0
  | cons text words ih =>
      have more : (dotEach (text :: words)).length = text.length + 1 + (dotEach words).length := by
        rw [dotEach, List.flatMap_cons, List.length_append, List.length_append, ← dotEach]
        rfl
      rw [more, List.length_cons]
      omega

theorem greedy_segment {text : Text} (run : IsWordRun text) (most : Nat) (before rest : Text) :
    greedy (ends segment) (most + 1) ⟨before, text ++ '.' :: rest⟩ =
      greedy (ends segment) most ⟨'.' :: (text.reverse ++ before), rest⟩ ++
        [⟨before, text ++ '.' :: rest⟩] := by
  have shorter : rest.length < (text ++ '.' :: rest).length := by
    simp only [List.length_append, List.length_cons]
    omega
  rw [greedy, ends_segment_dot run]
  simp only [List.filter_cons, List.filter_nil, shorter, decide_true, if_true,
    List.flatMap_singleton]

theorem greedy_segments {words : List Text} (runs : ∀ text ∈ words, IsWordRun text) (most : Nat)
    (before rest : Text) :
    ∃ others, greedy (ends segment) (words.length + most) ⟨before, dotEach words ++ rest⟩ =
      greedy (ends segment) most ⟨(dotEach words).reverse ++ before, rest⟩ ++ others := by
  induction words generalizing before with
  | nil => exact ⟨[], by simp [dotEach]⟩
  | cons text words ih =>
      obtain ⟨run, runs⟩ := List.forall_mem_cons.mp runs
      obtain ⟨others, tried⟩ := ih runs ('.' :: (text.reverse ++ before))
      have turned : (dotEach words).reverse ++ '.' :: (text.reverse ++ before) =
          (dotEach (text :: words)).reverse ++ before := by simp [dotEach]
      refine ⟨others ++ [⟨before, dotEach (text :: words) ++ rest⟩], ?_⟩
      rw [List.length_cons, Nat.add_right_comm, dotEach_cons_append, greedy_segment run, tried,
        turned, List.append_assoc]

/-- Words with dots are tried as many as there are, and more than there are if more follow. -/
theorem ends_segments {words : List Text} (some : words ≠ [])
    (runs : ∀ text ∈ words, IsWordRun text) (before rest : Text) :
    ∃ most others, rest.length ≤ most ∧
      ends (.repeated segment 1 none) ⟨before, dotEach words ++ rest⟩ =
        greedy (ends segment) most ⟨(dotEach words).reverse ++ before, rest⟩ ++ others := by
  obtain ⟨text, words, rfl⟩ := List.exists_cons_of_ne_nil some
  obtain ⟨run, runs⟩ := List.forall_mem_cons.mp runs
  have enough := length_le_dotEach words
  obtain ⟨others, tried⟩ := greedy_segments runs ((dotEach words ++ rest).length - words.length)
    ('.' :: (text.reverse ++ before)) rest
  have turned : (dotEach words).reverse ++ '.' :: (text.reverse ++ before) =
      (dotEach (text :: words)).reverse ++ before := by simp [dotEach]
  rw [turned, Nat.add_sub_cancel' (by rw [List.length_append]; omega)] at tried
  refine ⟨(dotEach words ++ rest).length - words.length, others, ?_, ?_⟩
  · rw [List.length_append]
    omega
  · rw [ends_repeated, copies, dotEach_cons_append, ends_segment_dot run]
    simpa [copies] using tried

/-! Names. -/

/-- What follows the words with dots. -/
def lastPart : Pattern :=
  .either [word, .literal ['*']]

theorem ends_qualifiedName (here : Cursor) :
    ends qualifiedName here = (ends (.repeated segment 1 none) here).flatMap (ends lastPart) := by
  rw [qualifiedName, ends, endsAll]
  congr 1
  funext next
  rw [endsAll]
  exact List.flatMap_singleton' _

theorem ends_lastPart (here : Cursor) :
    ends lastPart here = ends word here ++ ends (.literal ['*']) here := by
  simp only [lastPart, ends, endsAny, List.append_nil]

theorem head?_ends_lastPart_word {text rest : Text} (run : IsWordRun text)
    (ended : startsWord rest = false) (before : Text) :
    (ends lastPart ⟨before, text ++ rest⟩).head? = some ⟨text.reverse ++ before, rest⟩ := by
  obtain ⟨others, tried, -⟩ := ends_word run ended before
  rw [ends_lastPart, tried]
  rfl

theorem ends_lastPart_star (before rest : Text) :
    ends lastPart ⟨before, '*' :: rest⟩ = [⟨'*' :: before, rest⟩] := by
  have ended : startsWord ('*' :: rest) = false := Text.star_not_word
  rw [ends_lastPart, ends_noWord ended, ends_char]
  rfl

theorem ends_lastPart_nothing {rest : Text} (stops : continuesDot rest = false) (before : Text) :
    ends lastPart ⟨before, rest⟩ = [] := by
  cases rest with
  | nil => rfl
  | cons c rest =>
      obtain ⟨mark, noStar⟩ := Bool.or_eq_false_iff.mp stops
      have ended : startsWord (c :: rest) = false := mark
      rw [ends_lastPart, ends_noWord ended, ends_char, if_neg]
      · rfl
      · intro same
        cases same
        exact of_decide_eq_false noStar rfl

theorem continuesDot_of_ended {rest : Text} (ended : continuesRun ('.' :: rest) = false) :
    continuesDot rest = false := by
  rw [continuesRun, Text.dot_not_word, Bool.false_or] at ended
  simpa using ended

theorem startsWord_of_stops {rest : Text} (stops : continuesDot rest = false) :
    startsWord rest = false := by
  cases rest with
  | nil => rfl
  | cons c rest => exact (Bool.or_eq_false_iff.mp stops).1

/-- Behind the words with dots, the last word is all that there is to be found. -/
theorem greedy_last {text rest : Text} (run : IsWordRun text) (ended : continuesRun rest = false)
    {most : Nat} (enough : (text ++ rest).length ≤ most) (before : Text) :
    ∃ farther, greedy (ends segment) most ⟨before, text ++ rest⟩ =
        farther ++ [⟨before, text ++ rest⟩] ∧
      farther.flatMap (ends lastPart) = [] := by
  have wordEnded := QualifiedName.startsWord_of_ended ended
  by_cases dot : rest.head? = some '.'
  · obtain ⟨rest, rfl⟩ := List.head?_eq_some_iff.mp dot
    have stops := continuesDot_of_ended ended
    obtain ⟨most, rfl⟩ : ∃ fewer, most = fewer + 1 := Nat.exists_eq_add_one.mpr (by
      rw [List.length_append, List.length_cons] at enough
      omega)
    refine ⟨[⟨'.' :: (text.reverse ++ before), rest⟩], ?_, ?_⟩
    · rw [greedy_segment run, greedy_nothing (ends_segment_noWord (startsWord_of_stops stops))]
    · rw [List.flatMap_singleton, ends_lastPart_nothing stops]
  · exact ⟨[], greedy_nothing (ends_segment_noDot run wordEnded dot before) most, rfl⟩

theorem exists_words {path : Path} (run : path.IsRun) :
    ∃ words text, (∀ other ∈ words, IsWordRun other) ∧ IsWordRun text ∧
      path.text = dotEach words ++ text ∧ (path.dotted = true ↔ words ≠ []) := by
  induction run with
  | @word text run => exact ⟨[], text, by simp, run, rfl, by simp⟩
  | @dotted front last frontRun run ih =>
      obtain ⟨words, text, runs, textRun, same, -⟩ := ih
      refine ⟨words ++ [text], last, ?_, run, by simp [same, dotEach], by simp⟩
      intro other member
      rcases List.mem_append.mp member with member | member
      · exact runs other member
      · exact List.mem_singleton.mp member ▸ textRun

theorem head?_ends_name {path : Path} (run : path.IsRun) (dotted : path.dotted = true)
    {rest : Text} (ended : continuesRun rest = false) (before : Text) :
    (ends qualifiedName ⟨before, path.text ++ rest⟩).head? =
      some (Cursor.advance ⟨before, path.text ++ rest⟩ path.text rest) := by
  obtain ⟨words, text, runs, textRun, same, many⟩ := exists_words run
  obtain ⟨most, others, enough, tried⟩ := ends_segments (many.mp dotted) runs before (text ++ rest)
  obtain ⟨farther, last, nothing⟩ := greedy_last textRun ended enough
    ((dotEach words).reverse ++ before)
  have found := head?_ends_lastPart_word textRun (QualifiedName.startsWord_of_ended ended)
    ((dotEach words).reverse ++ before)
  rw [same, List.append_assoc, ends_qualifiedName, tried, last, List.append_assoc,
    List.flatMap_append, nothing, List.nil_append, List.singleton_append, List.flatMap_cons,
    List.head?_append, found]
  simp [Cursor.advance]

theorem head?_ends_wildcard {path : Path} (run : path.IsRun) (before rest : Text) :
    (ends qualifiedName ⟨before, path.text ++ ['.', '*'] ++ rest⟩).head? =
      some (Cursor.advance ⟨before, path.text ++ ['.', '*'] ++ rest⟩ (path.text ++ ['.', '*'])
        rest) := by
  obtain ⟨words, text, runs, textRun, same, -⟩ := exists_words run
  have all : ∀ other ∈ words ++ [text], IsWordRun other := by
    intro other member
    rcases List.mem_append.mp member with member | member
    · exact runs other member
    · exact List.mem_singleton.mp member ▸ textRun
  have line : path.text ++ ['.', '*'] ++ rest = dotEach (words ++ [text]) ++ '*' :: rest := by
    simp [same, dotEach]
  obtain ⟨most, others, -, tried⟩ := ends_segments (by simp) all before ('*' :: rest)
  have noSegment : ends segment ⟨(dotEach (words ++ [text])).reverse ++ before, '*' :: rest⟩ = [] :=
    ends_segment_noWord Text.star_not_word
  rw [line, ends_qualifiedName, tried, greedy_nothing noSegment, List.singleton_append,
    List.flatMap_cons, ends_lastPart_star]
  simp [Cursor.advance, same, dotEach]

/-- A word alone is no name, wherever in it one begins. -/
theorem ends_single {text rest : Text} (run : IsWordRun text) (ended : continuesRun rest = false)
    (before : Text) : ends qualifiedName ⟨before, text ++ rest⟩ = [] := by
  have wordEnded := QualifiedName.startsWord_of_ended ended
  rw [ends_qualifiedName]
  by_cases dot : rest.head? = some '.'
  · obtain ⟨rest, rfl⟩ := List.head?_eq_some_iff.mp dot
    have stops := continuesDot_of_ended ended
    have noSegment : ends segment ⟨'.' :: (text.reverse ++ before), rest⟩ = [] :=
      ends_segment_noWord (startsWord_of_stops stops)
    rw [ends_repeated, copies, ends_segment_dot run]
    simp only [copies, List.flatMap_singleton, greedy_nothing noSegment,
      ends_lastPart_nothing stops]
  · rw [ends_repeated, copies, ends_segment_noDot run wordEnded dot]
    rfl

theorem ends_mark {rest : Text} (ended : startsWord rest = false) (before : Text) :
    ends qualifiedName ⟨before, rest⟩ = [] := by
  rw [ends_qualifiedName, ends_repeated, copies, ends_segment_noWord ended]
  rfl

theorem spansFrom_word {text rest : Text} (words : ∀ c ∈ text, isWord c = true)
    (ended : continuesRun rest = false) (before : Text) :
    spansFrom qualifiedName 0 before (text ++ rest) =
      spansFrom qualifiedName 0 (text.reverse ++ before) rest := by
  induction text generalizing before with
  | nil => rfl
  | cons c text ih =>
      have run : IsWordRun (c :: text) := ⟨List.cons_ne_nil c text, words⟩
      have missed := ends_single run ended before
      rw [List.cons_append] at missed ⊢
      rw [spansFrom_miss missed, ih (List.forall_mem_cons.mp words).2, List.reverse_cons,
        List.append_assoc, List.singleton_append]

end Pattern

namespace QualifiedName

open Pattern (Span qualifiedName spans spansFrom)

/-- Where the names among some pieces are, if `start` characters stand in front of the pieces. -/
def nameSpans : (start : Nat) → List Piece → List Span
  | _, [] => []
  | start, .gap text :: rest => nameSpans (start + text.length) rest
  | start, .name text :: rest =>
      ⟨start, start + text.length⟩ :: nameSpans (start + text.length) rest

theorem length_turned (text before : Text) :
    (text.reverse ++ before).length = before.length + text.length := by
  rw [List.length_append, List.length_reverse, Nat.add_comm]

theorem Path.IsRun.isWordRun {path : Path} (run : path.IsRun) (single : path.dotted = false) :
    Text.IsWordRun path.text := by
  cases run with
  | word run => exact run
  | dotted => cases single

theorem Path.IsRun.notEmpty {path : Path} (run : path.IsRun) : path.text ≠ [] := by
  obtain ⟨c, rest, starts, -⟩ := run.exists_cons
  rw [starts]
  exact List.cons_ne_nil c rest

theorem Cutting.spansFrom_eq {cut : List Piece} (cutting : Cutting cut) (before : Text) :
    spansFrom qualifiedName 0 before (cut.flatMap Piece.text) = nameSpans before.length cut := by
  induction cutting generalizing before with
  | nil => rfl
  | @mark c rest mark cut ih =>
      have ended : Text.startsWord (c :: rest.flatMap Piece.text) = false := mark
      rw [List.flatMap_cons, Piece.text_gap, List.singleton_append,
        Pattern.spansFrom_miss (Pattern.ends_mark ended before), ih, nameSpans]
      rfl
  | @run path rest run ended cut ih =>
      rw [List.flatMap_cons, Path.text_piece, Path.piece]
      cases dotted : path.dotted with
      | true =>
          rw [Pattern.spansFrom_hit run.notEmpty (Pattern.head?_ends_name run dotted ended before),
            ih, length_turned]
          rfl
      | false =>
          have words := (run.isWordRun dotted).words
          rw [Pattern.spansFrom_word words ended, ih, length_turned]
          rfl
  | @star path rest run cut ih =>
      have notEmpty : path.text ++ ['.', '*'] ≠ [] := by simp
      rw [List.flatMap_cons, Piece.text_name,
        Pattern.spansFrom_hit notEmpty (Pattern.head?_ends_wildcard run before _), ih,
        length_turned, nameSpans]

/-- The matches of the pattern in a line are the names that the line is cut into. -/
theorem spans_eq (line : Text) : spans qualifiedName line = nameSpans 0 (pieces line) := by
  have found := (pieces_cutting line).spansFrom_eq []
  rwa [flatMap_pieces] at found

end QualifiedName

end Migration
