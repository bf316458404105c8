import Mathlib.Data.List.Induction
import Migration.LineEditor

namespace Migration

/-! Where lines end.

A text is cut after every line feed and nowhere else, and what ends a line is read off its last
one or two characters.
-/

namespace Text

theorem lines_cons (c : Char) (rest : Text) :
    lines (c :: rest) = if c = '\n' then [c] :: lines rest
      else match lines rest with
        | [] => [[c]]
        | first :: others => (c :: first) :: others := rfl

/-- The pieces of a text cut after every line feed. -/
structure IsCut (text : Text) (pieces : List Text) : Prop where
  whole : pieces.flatten = text
  notEmpty : ∀ piece ∈ pieces, piece ≠ []
  once : ∀ piece ∈ pieces, '\n' ∉ piece.dropLast
  ended : ∀ piece ∈ pieces.dropLast, piece.getLast? = some '\n'

theorem IsCut.newline {text : Text} {pieces : List Text} (cut : IsCut text pieces) :
    IsCut ('\n' :: text) (['\n'] :: pieces) where
  whole := by simp [cut.whole]
  notEmpty := List.forall_mem_cons.mpr ⟨by simp, cut.notEmpty⟩
  once := List.forall_mem_cons.mpr ⟨by simp, cut.once⟩
  ended := by
    cases pieces with
    | nil => simp
    | cons first others => exact List.forall_mem_cons.mpr ⟨rfl, cut.ended⟩

theorem IsCut.cons {c : Char} {text first : Text} {others : List Text} (inside : c ≠ '\n')
    (cut : IsCut text (first :: others)) : IsCut (c :: text) ((c :: first) :: others) where
  whole := by simp [← cut.whole]
  notEmpty := List.forall_mem_cons.mpr ⟨by simp, (List.forall_mem_cons.mp cut.notEmpty).2⟩
  once := by
    obtain ⟨firstOnce, othersOnce⟩ := List.forall_mem_cons.mp cut.once
    refine List.forall_mem_cons.mpr ⟨?_, othersOnce⟩
    rw [List.dropLast_cons_of_ne_nil (cut.notEmpty first List.mem_cons_self), List.mem_cons, not_or]
    exact ⟨inside.symm, firstOnce⟩
  ended := by
    cases others with
    | nil => simp
    | cons second others =>
        obtain ⟨firstEnded, othersEnded⟩ := List.forall_mem_cons.mp cut.ended
        refine List.forall_mem_cons.mpr ⟨?_, othersEnded⟩
        rw [List.getLast?_cons, firstEnded]
        rfl

theorem lines_isCut (text : Text) : IsCut text (lines text) := by
  induction text with
  | nil => exact ⟨rfl, by simp [lines], by simp [lines], by simp [lines]⟩
  | cons c rest ih =>
      rw [lines_cons]
      by_cases newline : c = '\n'
      · rw [if_pos newline, newline]
        exact ih.newline
      · rw [if_neg newline]
        cases pieces : lines rest with
        | nil =>
            have nothing : rest = [] := by rw [← flatten_lines rest, pieces, List.flatten_nil]
            rw [nothing]
            exact ⟨rfl, by simp, by simp, by simp⟩
        | cons first others =>
            rw [pieces] at ih
            exact ih.cons newline

theorem lines_append {first : Text} (ended : first.getLast? = some '\n') (second : Text) :
    lines (first ++ second) = lines first ++ lines second := by
  induction first with
  | nil => cases ended
  | cons c rest ih =>
      rw [List.cons_append, lines_cons, lines_cons]
      cases rest with
      | nil =>
          have newline : c = '\n' := by simpa using ended
          rw [if_pos newline, if_pos newline]
          rfl
      | cons d rest =>
          rw [ih (by simpa using ended)]
          split
          · rfl
          · cases pieces : lines (d :: rest) with
            | nil =>
                have whole := flatten_lines (d :: rest)
                rw [pieces] at whole
                cases whole
            | cons piece others => rfl

theorem lines_single {line : Text} (notEmpty : line ≠ []) (once : '\n' ∉ line.dropLast) :
    lines line = [line] := by
  induction line with
  | nil => exact absurd rfl notEmpty
  | cons c rest ih =>
      rw [lines_cons]
      cases rest with
      | nil => split <;> rfl
      | cons d rest =>
          rw [List.dropLast_cons_cons, List.mem_cons, not_or] at once
          rw [if_neg (Ne.symm once.1), ih (List.cons_ne_nil _ _) once.2]

theorem lineEnding_cases (line : Text) :
    (line.getLast? ≠ some '\n' ∧ lineEnding line = []) ∨
    (∃ body, line = body ++ ['\r', '\n'] ∧ lineEnding line = ['\r', '\n']) ∨
    ∃ body, line = body ++ ['\n'] ∧ body.getLast? ≠ some '\r' ∧ lineEnding line = ['\n'] := by
  unfold lineEnding
  fun_induction splitEnding line with
  | case1 => exact .inl ⟨by simp, rfl⟩
  | case2 => exact .inr (.inr ⟨[], rfl, by simp, rfl⟩)
  | case3 => exact .inr (.inl ⟨[], rfl, rfl⟩)
  | case4 c rest notNewline notReturn ih =>
      rcases ih with ⟨unended, none⟩ | ⟨body, rfl, ending⟩ | ⟨body, rfl, alone, ending⟩
      · refine .inl ⟨?_, none⟩
        cases rest with
        | nil =>
            simp only [List.getLast?_singleton, ne_eq, Option.some.injEq]
            exact fun same => notNewline same rfl
        | cons next rest => simpa [List.getLast?_cons] using unended
      · exact .inr (.inl ⟨c :: body, rfl, ending⟩)
      · refine .inr (.inr ⟨c :: body, rfl, ?_, ending⟩)
        cases body with
        | nil =>
            simp only [List.getLast?_singleton, ne_eq, Option.some.injEq]
            exact fun same => notReturn same rfl
        | cons next body => simpa [List.getLast?_cons] using alone

theorem splitEnding_append {last : Char} (noReturn : last ≠ '\r') (noNewline : last ≠ '\n')
    (front rest : Text) :
    splitEnding (front ++ last :: rest) =
      (front ++ last :: lineBody rest, lineEnding rest) := by
  induction front with
  | nil => rw [List.nil_append, splitEnding] <;> simp_all [lineBody, lineEnding]
  | cons c front ih =>
      rw [List.cons_append, splitEnding, ih]
      · rfl
      · simp
      · intro _ same
        cases front with
        | nil => exact noNewline (List.cons.inj same).1
        | cons d front => simp at same

theorem lineEnding_of_crlf {line : Text} (ended : ['\r', '\n'] <:+ line) :
    lineEnding line = ['\r', '\n'] := by
  obtain ⟨front, rfl⟩ := ended
  rcases lineEnding_cases (front ++ ['\r', '\n']) with ⟨unended, _⟩ | ⟨_, _, ending⟩ |
    ⟨body, same, alone, _⟩
  · simp at unended
  · exact ending
  · have bodies : body = front ++ ['\r'] := by
      have split : body ++ ['\n'] = (front ++ ['\r']) ++ ['\n'] := by simp [← same]
      exact List.append_inj_left' split rfl
    simp [bodies] at alone

theorem lineEnding_of_newline {line : Text} (ended : line.getLast? = some '\n')
    (alone : ¬ ['\r', '\n'] <:+ line) : lineEnding line = ['\n'] := by
  rcases lineEnding_cases line with ⟨unended, _⟩ | ⟨body, same, _⟩ | ⟨_, _, _, ending⟩
  · exact absurd ended unended
  · exact absurd ⟨body, same.symm⟩ alone
  · exact ending

theorem lineEnding_of_unended {line : Text} (unended : line.getLast? ≠ some '\n') :
    lineEnding line = [] := by
  rcases lineEnding_cases line with ⟨_, ending⟩ | ⟨_, rfl, _⟩ | ⟨_, rfl, _⟩
  · exact ending
  · simp at unended
  · simp at unended

end Text

namespace LineEditor

/-- The terminator for further lines: that of the last line that ends in a line feed. -/
def lastNewline (lines : List Text) : Text :=
  match (lines.filter (·.getLast? = some '\n')).getLast? with
  | some line => if ['\r', '\n'] <:+ line then ['\r', '\n'] else ['\n']
  | none => ['\n']

theorem newlineOf_concat (lines : List Text) (line : Text) :
    newlineOf (lines ++ [line]) =
      if Text.lineEnding line = [] then newlineOf lines else Text.lineEnding line := by
  rw [newlineOf, newlineOf, List.reverse_append, List.reverse_singleton, List.singleton_append,
    List.map_cons, List.find?_cons]
  by_cases unended : Text.lineEnding line = [] <;> simp [unended]

theorem newlineOf_eq_lastNewline (lines : List Text) : newlineOf lines = lastNewline lines := by
  induction lines using List.reverseRecOn with
  | nil => rfl
  | append_singleton lines line ih =>
      rw [newlineOf_concat, ih, lastNewline, lastNewline, List.filter_append]
      by_cases ended : line.getLast? = some '\n'
      · by_cases crlf : ['\r', '\n'] <:+ line
        · simp [ended, crlf, Text.lineEnding_of_crlf crlf]
        · simp [ended, crlf, Text.lineEnding_of_newline ended crlf]
      · simp [ended, Text.lineEnding_of_unended ended]

end LineEditor

end Migration
