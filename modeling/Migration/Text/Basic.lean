namespace Migration

/-! Text as the migration reads, compares and writes it.

A text is the list of its characters.  Files are cut into lines that keep their terminator, so
that the lines put together again are the file.
-/

/-- Characters of a file, a line, a table cell or a path. -/
abbrev Text := List Char

namespace Text

/-- The text as a string, for messages and reports. -/
def str (text : Text) : String :=
  String.ofList text

/-- White space in the sense of Unicode. -/
def isBlank (c : Char) : Bool :=
  let code := c.toNat
  (9 ≤ code && code ≤ 13) || code == 0x20 || code == 0x85 || code == 0xA0 || code == 0x1680 ||
    (0x2000 ≤ code && code ≤ 0x200A) || code == 0x2028 || code == 0x2029 || code == 0x202F ||
    code == 0x205F || code == 0x3000

def trimStart (text : Text) : Text :=
  text.dropWhile isBlank

def trimEnd (text : Text) : Text :=
  (text.reverse.dropWhile isBlank).reverse

/-- The text without the white space around it. -/
def trim (text : Text) : Text :=
  trimEnd (trimStart text)

/-- The fields between the separators; there is one more field than separators. -/
def fields (separator : Char) (text : Text) : List Text :=
  text.foldr
    (fun c rest =>
      if c = separator then [] :: rest
      else match rest with
        | [] => [[c]]
        | first :: others => (c :: first) :: others)
    [[]]

theorem fields_ne_nil (separator : Char) (text : Text) : fields separator text ≠ [] := by
  cases text with
  | nil => simp [fields]
  | cons c rest =>
      simp only [fields, List.foldr_cons]
      split
      · simp
      · split <;> simp

/-- The fields with separators between them are the text again. -/
theorem intercalate_fields (separator : Char) (text : Text) :
    [separator].intercalate (fields separator text) = text := by
  induction text with
  | nil => rfl
  | cons c rest ih =>
      have step : fields separator (c :: rest) =
          if c = separator then [] :: fields separator rest
          else match fields separator rest with
            | [] => [[c]]
            | first :: others => (c :: first) :: others := rfl
      rw [step]
      cases split : fields separator rest with
      | nil => exact absurd split (fields_ne_nil separator rest)
      | cons first others =>
          rw [split] at ih
          by_cases mark : c = separator
          · rw [if_pos mark, List.intercalate_cons_cons, ih, mark]
            rfl
          · rw [if_neg mark]
            cases others with
            | nil => simp_all
            | cons second others =>
                simp only [List.intercalate_cons_cons] at ih ⊢
                rw [← ih]
                rfl

/-- The lines of a text, each with its terminator; only the last one may have none. -/
def lines (text : Text) : List Text :=
  text.foldr
    (fun c rest =>
      if c = '\n' then [c] :: rest
      else match rest with
        | [] => [[c]]
        | first :: others => (c :: first) :: others)
    []

/-- The lines put together are the text again. -/
theorem flatten_lines (text : Text) : (lines text).flatten = text := by
  induction text with
  | nil => rfl
  | cons c rest ih =>
      have step : lines (c :: rest) = if c = '\n' then [c] :: lines rest
          else match lines rest with
            | [] => [[c]]
            | first :: others => (c :: first) :: others := rfl
      rw [step]
      by_cases newline : c = '\n'
      · simp [newline, ih]
      · rw [if_neg newline]
        cases split : lines rest <;> simp_all

/-- A line's body and its terminator: a line feed, a carriage return with a line feed, or none. -/
def splitEnding : Text → Text × Text
  | [] => ([], [])
  | ['\n'] => ([], ['\n'])
  | ['\r', '\n'] => ([], ['\r', '\n'])
  | c :: rest => (c :: (splitEnding rest).1, (splitEnding rest).2)

def lineBody (line : Text) : Text :=
  (splitEnding line).1

def lineEnding (line : Text) : Text :=
  (splitEnding line).2

theorem lineBody_append_lineEnding (line : Text) : lineBody line ++ lineEnding line = line := by
  unfold lineBody lineEnding
  fun_induction splitEnding line with
  | case1 => rfl
  | case2 => rfl
  | case3 => rfl
  | case4 c rest _ _ ih => simp [ih]

/-- What stands before the last occurrence of `mark` and what follows it, if there is one. -/
def splitLast (mark : Char) (text : Text) : Option (Text × Text) :=
  let after := text.reverse.takeWhile (· ≠ mark)
  match text.reverse.dropWhile (· ≠ mark) with
  | [] => none
  | _ :: before => some (before.reverse, after.reverse)

theorem splitLast_eq_some {mark : Char} {text before after : Text} :
    splitLast mark text = some (before, after) ↔
      text = before ++ mark :: after ∧ mark ∉ after := by
  constructor
  · intro split
    rw [splitLast] at split
    have whole := List.takeWhile_append_dropWhile (p := (· ≠ mark)) (l := text.reverse)
    have passed := List.all_takeWhile (p := (· ≠ mark)) (l := text.reverse)
    have stopped := List.head?_dropWhile_not (· ≠ mark) text.reverse
    split at split
    · cases split
    · next c turned dropped =>
        cases split
        rw [dropped] at whole stopped
        have isMark : c = mark := by simpa using stopped
        refine ⟨List.reverse_inj.mp (whole.symm.trans ?_), ?_⟩
        · simp [isMark]
        · intro member
          have differs := List.all_eq_true.mp passed mark (List.mem_reverse.mp member)
          simp at differs
  · rintro ⟨rfl, absent⟩
    have passed : ∀ c ∈ after.reverse, decide (c ≠ mark) = true := by
      intro c member
      rw [decide_eq_true_eq]
      rintro rfl
      exact absent (List.mem_reverse.mp member)
    have turned : (before ++ mark :: after).reverse = after.reverse ++ mark :: before.reverse := by
      simp
    simp only [splitLast, turned, List.dropWhile_append_of_pos passed,
      List.takeWhile_append_of_pos passed]
    simp

end Text

end Migration
