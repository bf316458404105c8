import Mathlib.Data.List.Forall2
import Migration.QualifiedName

namespace Migration

/-! Where a line is cut.

A run of words joined by dots ends before the first text that cannot continue it, whatever stands
in front of the run.  Every line is cut into such runs, wildcard references and single marks, and
there is only one way to cut it like that.  So a line whose names are exchanged for names of the
same form is cut at the exchanged names again.
-/

namespace Text

/-- A word: some characters, all of them word characters. -/
structure IsWordRun (word : Text) : Prop where
  notEmpty : word ≠ []
  words : ∀ c ∈ word, isWord c = true

instance (word : Text) : Decidable (IsWordRun word) :=
  decidable_of_iff (word.isEmpty = false ∧ word.all isWord = true)
    ⟨fun ⟨notEmpty, words⟩ => ⟨List.isEmpty_eq_false_iff.mp notEmpty, List.all_eq_true.mp words⟩,
      fun ⟨notEmpty, words⟩ => ⟨List.isEmpty_eq_false_iff.mpr notEmpty, List.all_eq_true.mpr words⟩⟩

def startsWord : Text → Bool
  | [] => false
  | c :: _ => isWord c

theorem dot_not_word : isWord '.' = false := by decide

theorem star_not_word : isWord '*' = false := by decide

theorem newline_not_word : isWord '\n' = false := by decide

theorem IsWordRun.exists_cons {word : Text} (run : IsWordRun word) :
    ∃ c rest, word = c :: rest ∧ isWord c = true := by
  obtain ⟨c, rest, rfl⟩ := List.exists_cons_of_ne_nil run.notEmpty
  exact ⟨c, rest, rfl, run.words c List.mem_cons_self⟩

theorem IsWordRun.not_mem {word : Text} (run : IsWordRun word) {c : Char}
    (mark : isWord c = false) : c ∉ word := by
  intro member
  have isWord := run.words c member
  rw [mark] at isWord
  cases isWord

end Text

namespace QualifiedName

open Text (IsWordRun isWord startsWord)

/-! Tokens. -/

/-- The tokens with a word character in front. -/
def joinWord (c : Char) : List Token → List Token
  | .word text :: others => .word (c :: text) :: others
  | rest => .word [c] :: rest

theorem tokens_cons (c : Char) (rest : Text) :
    tokens (c :: rest) =
      if isWord c then joinWord c (tokens rest) else .mark c :: tokens rest := by
  rw [tokens, List.foldr_cons, ← tokens]
  rcases tokens rest with - | ⟨- | -, others⟩ <;> rfl

theorem tokens_mark {c : Char} (mark : isWord c = false) (rest : Text) :
    tokens (c :: rest) = .mark c :: tokens rest := by
  rw [tokens_cons, mark, if_neg Bool.false_ne_true]

theorem tokens_letter {c : Char} (letter : isWord c = true) (rest : Text) :
    tokens (c :: rest) = joinWord c (tokens rest) := by
  rw [tokens_cons, if_pos letter]

def StartsNoWord (rest : List Token) : Prop :=
  ∀ word others, rest ≠ .word word :: others

theorem StartsNoWord.joinWord {rest : List Token} (ended : StartsNoWord rest) (c : Char) :
    joinWord c rest = .word [c] :: rest := by
  rcases rest with - | ⟨word | mark, others⟩
  · rfl
  · exact absurd rfl (ended word others)
  · rfl

theorem tokens_startsNoWord {rest : Text} (ended : startsWord rest = false) :
    StartsNoWord (tokens rest) := by
  intro word others same
  cases rest with
  | nil => cases same
  | cons c rest =>
      rw [tokens_mark ended] at same
      cases same

theorem tokens_word {word rest : Text} (run : IsWordRun word) (ended : startsWord rest = false) :
    tokens (word ++ rest) = .word word :: tokens rest := by
  obtain ⟨notEmpty, words⟩ := run
  induction word with
  | nil => exact absurd rfl notEmpty
  | cons c word ih =>
      obtain ⟨letter, letters⟩ := List.forall_mem_cons.mp words
      rw [List.cons_append, tokens_letter letter]
      cases word with
      | nil => exact (tokens_startsNoWord ended).joinWord c
      | cons d word =>
          rw [ih (by simp) letters]
          rfl

/-- Marks are no word characters, words are, and two words do not follow each other. -/
inductive WellCut : List Token → Prop
  | nil : WellCut []
  | mark {c : Char} {rest : List Token} (mark : isWord c = false) (cut : WellCut rest) :
      WellCut (.mark c :: rest)
  | word {word : Text} {rest : List Token} (run : IsWordRun word) (ended : StartsNoWord rest)
      (cut : WellCut rest) : WellCut (.word word :: rest)

theorem tokens_wellCut (line : Text) : WellCut (tokens line) := by
  induction line with
  | nil => exact .nil
  | cons c rest ih =>
      cases letter : isWord c with
      | false =>
          rw [tokens_mark letter]
          exact .mark letter ih
      | true =>
          have single : IsWordRun [c] := ⟨by simp, by simpa using letter⟩
          rw [tokens_letter letter]
          cases found : tokens rest with
          | nil => exact .word single (fun _ _ same => by cases same) .nil
          | cons token others =>
              rw [found] at ih
              cases ih with
              | mark isMark cut =>
                  exact .word single (fun _ _ same => by cases same) (.mark isMark cut)
              | word run ended cut =>
                  refine .word ⟨by simp, ?_⟩ ended cut
                  exact List.forall_mem_cons.mpr ⟨letter, run.words⟩

/-! Runs of words. -/

/-- Words joined by dots; `dotted` says whether there is more than one. -/
inductive Path.IsRun : Path → Prop
  | word {word : Text} (run : IsWordRun word) : IsRun ⟨word, false⟩
  | dotted {path : Path} {word : Text} (front : path.IsRun) (run : IsWordRun word) :
      IsRun ⟨path.text ++ '.' :: word, true⟩

/-- Whether a text behind a dot continues the run in front of the dot. -/
def continuesDot : Text → Bool
  | [] => false
  | c :: _ => isWord c || c = '*'

/-- Whether a text continues the run in front of it. -/
def continuesRun : Text → Bool
  | [] => false
  | c :: rest => isWord c || (c = '.' && continuesDot rest)

theorem startsWord_of_ended {rest : Text} (ended : continuesRun rest = false) :
    startsWord rest = false := by
  cases rest with
  | nil => rfl
  | cons c rest => exact (Bool.or_eq_false_iff.mp ended).1

namespace Path.IsRun

variable {path : Path}

theorem exists_cons (run : path.IsRun) : ∃ c rest, path.text = c :: rest ∧ isWord c = true := by
  induction run with
  | word run => exact run.exists_cons
  | dotted front run ih =>
      obtain ⟨c, rest, starts, letter⟩ := ih
      exact ⟨c, rest ++ '.' :: _, by rw [starts]; rfl, letter⟩

theorem exists_concat (run : path.IsRun) : ∃ before c, path.text = before ++ [c] ∧
    isWord c = true := by
  have last {word : Text} (run : IsWordRun word) : ∃ before c, word = before ++ [c] ∧
      isWord c = true := by
    rcases List.eq_nil_or_concat word with rfl | ⟨before, c, rfl⟩
    · exact absurd rfl run.notEmpty
    · exact ⟨before, c, List.concat_eq_append, run.words c (by simp)⟩
  cases run with
  | word run => exact last run
  | @dotted front word _ run =>
      obtain ⟨before, c, rfl, letter⟩ := last run
      exact ⟨front.text ++ '.' :: before, c, by simp, letter⟩

/-- A run does not end in a star. -/
theorem getLast?_ne (run : path.IsRun) : path.text.getLast? ≠ some '*' := by
  obtain ⟨before, c, ends, letter⟩ := run.exists_concat
  rw [ends, List.getLast?_concat]
  rintro star
  cases star
  rw [Text.star_not_word] at letter
  cases letter

theorem text_ne_star (run : path.IsRun) (other : Text) : path.text ≠ other ++ ['.', '*'] := by
  intro same
  exact run.getLast?_ne (by rw [same, List.getLast?_append_cons, List.getLast?_cons_cons,
    List.getLast?_singleton])

/-- Reading a run leads from no path to the run itself. -/
theorem piecesFrom_append (run : path.IsRun) {rest : Text} (ended : startsWord rest = false) :
    piecesFrom none (tokens (path.text ++ rest)) = piecesFrom (some path) (tokens rest) := by
  induction run generalizing rest with
  | word run => rw [tokens_word run ended, piecesFrom]
  | @dotted front word _ run ih =>
      have dot : startsWord ('.' :: (word ++ rest)) = false := Text.dot_not_word
      rw [List.append_assoc, List.cons_append, ih dot, tokens_mark Text.dot_not_word,
        tokens_word run ended, piecesFrom]

end Path.IsRun

theorem piecesFrom_ended (path : Path) {rest : Text} (ended : continuesRun rest = false) :
    piecesFrom (some path) (tokens rest) = path.piece :: piecesFrom none (tokens rest) := by
  cases rest with
  | nil => rfl
  | cons c rest =>
      obtain ⟨mark, noDot⟩ := Bool.or_eq_false_iff.mp ended
      rw [tokens_mark mark, piecesFrom.eq_def none]
      by_cases dot : c = '.'
      · subst dot
        have stops : continuesDot rest = false := noDot
        cases rest with
        | nil => rfl
        | cons d rest =>
            obtain ⟨next, noStar⟩ := Bool.or_eq_false_iff.mp stops
            rw [tokens_mark next]
            rw [piecesFrom]
            · rintro _ same -
              cases same
              simp at noStar
            · rintro _ _ same -
              cases same
      · rw [piecesFrom]
        · exact fun _ _ => dot
        · exact fun _ _ _ => dot

theorem pieces_mark {c : Char} (mark : isWord c = false) (rest : Text) :
    pieces (c :: rest) = .gap [c] :: pieces rest := by
  rw [pieces, tokens_mark mark, piecesFrom]
  rfl

theorem pieces_run {path : Path} (run : path.IsRun) {rest : Text}
    (ended : continuesRun rest = false) :
    pieces (path.text ++ rest) = path.piece :: pieces rest := by
  rw [pieces, run.piecesFrom_append (startsWord_of_ended ended), piecesFrom_ended path ended]
  rfl

theorem pieces_star {path : Path} (run : path.IsRun) (rest : Text) :
    pieces (path.text ++ '.' :: '*' :: rest) =
      .name (path.text ++ ['.', '*']) :: pieces rest := by
  have dot : startsWord ('.' :: '*' :: rest) = false := Text.dot_not_word
  rw [pieces, run.piecesFrom_append dot, tokens_mark Text.dot_not_word,
    tokens_mark Text.star_not_word, piecesFrom]
  rfl

/-! Cuttings. -/

/-- Pieces as they come from cutting a line: marks, runs that nothing behind them continues, and
wildcard references. -/
inductive Cutting : List Piece → Prop
  | nil : Cutting []
  | mark {c : Char} {rest : List Piece} (mark : isWord c = false) (cut : Cutting rest) :
      Cutting (.gap [c] :: rest)
  | run {path : Path} {rest : List Piece} (run : path.IsRun)
      (ended : continuesRun (rest.flatMap Piece.text) = false) (cut : Cutting rest) :
      Cutting (path.piece :: rest)
  | star {path : Path} {rest : List Piece} (run : path.IsRun) (cut : Cutting rest) :
      Cutting (.name (path.text ++ ['.', '*']) :: rest)

/-- The pieces of a line are the only way to cut it. -/
theorem Cutting.pieces_flatMap {cut : List Piece} (cutting : Cutting cut) :
    pieces (cut.flatMap Piece.text) = cut := by
  induction cutting with
  | nil => rfl
  | mark mark cut ih => exact (pieces_mark mark _).trans (congrArg _ ih)
  | run run ended cut ih =>
      rw [List.flatMap_cons, Path.text_piece, pieces_run run ended, ih]
  | star run cut ih =>
      rw [List.flatMap_cons, Piece.text_name, List.append_assoc]
      exact (pieces_star run _).trans (congrArg _ ih)

theorem piecesFrom_cutting {path : Option Path} {rest : List Token} (cut : WellCut rest)
    (run : ∀ front, path = some front → front.IsRun ∧ StartsNoWord rest) :
    Cutting (piecesFrom path rest) := by
  fun_induction piecesFrom path rest with
  | case1 => exact .nil
  | case2 path => exact .run (run path rfl).1 rfl .nil
  | case3 path rest ih =>
      cases cut with
      | mark _ cut =>
          cases cut with
          | mark _ cut => exact .star (run path rfl).1 (ih cut (by simp))
  | case4 path word rest ih =>
      cases cut with
      | mark _ cut =>
          cases cut with
          | word isRun ended cut =>
              refine ih cut ?_
              rintro _ same
              cases same
              exact ⟨.dotted (run path rfl).1 isRun, ended⟩
  | case5 path c rest noStar noWord ih =>
      cases cut with
      | mark mark cut =>
          refine .run (run path rfl).1 ?_ (.mark mark (ih cut (by simp)))
          have text : (Piece.gap [c] :: piecesFrom none rest).flatMap Piece.text =
              c :: rest.flatMap Token.text := by
            simp [flatMap_piecesFrom]
          rw [text, continuesRun, mark, Bool.false_or, Bool.and_eq_false_iff]
          by_cases dot : c = '.'
          · refine .inr ?_
            cases cut with
            | nil => rfl
            | @mark d others isMark _ =>
                have notStar : d ≠ '*' := by
                  rintro rfl
                  exact noStar others rfl dot
                simp [continuesDot, Token.text, isMark, notStar]
            | @word word others _ _ _ => exact absurd dot (noWord word others rfl)
          · exact .inl (by simpa using dot)
  | case6 path word rest ih => exact absurd rfl ((run path rfl).2 word rest)
  | case7 c rest ih =>
      cases cut with
      | mark mark cut => exact .mark mark (ih cut (by simp))
  | case8 word rest ih =>
      cases cut with
      | word isRun ended cut =>
          refine ih cut ?_
          rintro _ same
          cases same
          exact ⟨.word isRun, ended⟩

theorem pieces_cutting (line : Text) : Cutting (pieces line) :=
  piecesFrom_cutting (tokens_wellCut line) (by simp)

/-! Exchanging names. -/

/-- A piece that may take the place of another: a gap stays, and a name is exchanged for one of
the same form. -/
inductive KeepsForm : Piece → Piece → Prop
  | same (piece : Piece) : KeepsForm piece piece
  | run {old new : Path} (oldRun : old.IsRun) (newRun : new.IsRun) (dotted : new.dotted = true) :
      KeepsForm (.name old.text) (.name new.text)
  | star {old new : Path} (oldRun : old.IsRun) (newRun : new.IsRun) :
      KeepsForm (.name (old.text ++ ['.', '*'])) (.name (new.text ++ ['.', '*']))

theorem KeepsForm.of_gap {text : Text} {piece : Piece} (keeps : KeepsForm (.gap text) piece) :
    piece = .gap text := by
  cases keeps with
  | same => rfl

theorem KeepsForm.of_run {path : Path} (run : path.IsRun) {piece : Piece}
    (keeps : KeepsForm path.piece piece) : ∃ new : Path, new.IsRun ∧ piece = new.piece := by
  generalize same : path.piece = old at keeps
  cases keeps with
  | same => exact ⟨path, run, same.symm⟩
  | @run _ new _ newRun dotted => exact ⟨new, newRun, by rw [Path.piece, if_pos dotted]⟩
  | star oldRun newRun =>
      have texts := congrArg Piece.text same
      rw [Path.text_piece] at texts
      exact absurd texts (run.text_ne_star _)

theorem KeepsForm.of_star {path : Path} {piece : Piece} (run : path.IsRun)
    (keeps : KeepsForm (.name (path.text ++ ['.', '*'])) piece) :
    ∃ new : Path, new.IsRun ∧ piece = .name (new.text ++ ['.', '*']) := by
  generalize same : Piece.name (path.text ++ ['.', '*']) = old at keeps
  cases keeps with
  | same => exact ⟨path, run, same.symm⟩
  | run oldRun newRun dotted => exact absurd (Piece.name.inj same).symm (oldRun.text_ne_star _)
  | @star _ new oldRun newRun => exact ⟨new, newRun, rfl⟩

theorem Path.IsRun.continues {path : Path} (run : path.IsRun) (rest : Text) :
    continuesRun (path.text ++ rest) = true ∧ continuesDot (path.text ++ rest) = true := by
  obtain ⟨c, others, starts, letter⟩ := run.exists_cons
  simp [starts, continuesRun, continuesDot, letter]

theorem Cutting.continues_exchanged {before after : List Piece} (cutting : Cutting before)
    (exchanged : List.Forall₂ KeepsForm before after) :
    continuesDot (after.flatMap Piece.text) = continuesDot (before.flatMap Piece.text) ∧
      continuesRun (after.flatMap Piece.text) = continuesRun (before.flatMap Piece.text) := by
  induction cutting generalizing after with
  | nil =>
      cases exchanged
      exact ⟨rfl, rfl⟩
  | mark mark cut ih =>
      obtain ⟨piece, others, keeps, later, rfl⟩ := List.forall₂_cons_left_iff.mp exchanged
      rw [keeps.of_gap]
      refine ⟨rfl, ?_⟩
      simp only [List.flatMap_cons, Piece.text_gap, List.singleton_append, continuesRun,
        (ih later).1]
  | run run ended cut ih =>
      obtain ⟨piece, others, keeps, later, rfl⟩ := List.forall₂_cons_left_iff.mp exchanged
      obtain ⟨new, newRun, rfl⟩ := keeps.of_run run
      simp only [List.flatMap_cons, Path.text_piece, run.continues, newRun.continues, and_self]
  | star run cut ih =>
      obtain ⟨piece, others, keeps, later, rfl⟩ := List.forall₂_cons_left_iff.mp exchanged
      obtain ⟨new, newRun, rfl⟩ := keeps.of_star run
      simp only [List.flatMap_cons, Piece.text_name, List.append_assoc, run.continues,
        newRun.continues, and_self]

theorem Cutting.exchange {before after : List Piece} (cutting : Cutting before)
    (exchanged : List.Forall₂ KeepsForm before after) : Cutting after := by
  induction cutting generalizing after with
  | nil =>
      cases exchanged
      exact .nil
  | mark mark cut ih =>
      obtain ⟨piece, others, keeps, later, rfl⟩ := List.forall₂_cons_left_iff.mp exchanged
      rw [keeps.of_gap]
      exact .mark mark (ih later)
  | run run ended cut ih =>
      obtain ⟨piece, others, keeps, later, rfl⟩ := List.forall₂_cons_left_iff.mp exchanged
      obtain ⟨new, newRun, rfl⟩ := keeps.of_run run
      exact .run newRun ((cut.continues_exchanged later).2.trans ended) (ih later)
  | star run cut ih =>
      obtain ⟨piece, others, keeps, later, rfl⟩ := List.forall₂_cons_left_iff.mp exchanged
      obtain ⟨new, newRun, rfl⟩ := keeps.of_star run
      exact .star newRun (ih later)

/-- A line whose names are exchanged for names of the same form is cut at the same places. -/
theorem pieces_exchanged {line : Text} {after : List Piece}
    (exchanged : List.Forall₂ KeepsForm (pieces line) after) :
    pieces (after.flatMap Piece.text) = after :=
  ((pieces_cutting line).exchange exchanged).pieces_flatMap

end QualifiedName

end Migration
