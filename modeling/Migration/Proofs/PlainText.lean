import Migration.Proofs.Remark
import Migration.Proofs.VariableName

namespace Migration

/-! Plain words and the marks between them.

Coordinates, keywords and version variables are plain: letters, dots and hyphens.  Quotes, braces,
colons, commas, dollar signs and white space are not, so a text has one way only to be cut into
plain words with marks behind them.
-/

namespace Text

/-- Characters of the names that coordinates are made of. -/
def isPlain (c : Char) : Bool :=
  isLetter c || c = '.' || c = '-'

structure IsPlain (text : Text) : Prop where
  notEmpty : text ≠ []
  plain : ∀ c ∈ text, isPlain c = true

instance (text : Text) : Decidable (IsPlain text) :=
  decidable_of_iff (text.isEmpty = false ∧ text.all isPlain = true)
    ⟨fun ⟨notEmpty, plain⟩ => ⟨List.isEmpty_eq_false_iff.mp notEmpty, List.all_eq_true.mp plain⟩,
      fun ⟨notEmpty, plain⟩ => ⟨List.isEmpty_eq_false_iff.mpr notEmpty, List.all_eq_true.mpr plain⟩⟩

def Marks (text : Text) : Prop :=
  ∀ c ∈ text, isPlain c = false

instance (text : Text) : Decidable text.Marks :=
  List.decidableBAll _ text

theorem isPlain_of_isWord {c : Char} (word : isWord c = true) : isPlain c = true := by
  rw [isPlain, isLetter_of_isWord word, Bool.true_or, Bool.true_or]

/-- The numbers of the white space characters. -/
def blankCodes : List Nat :=
  List.range' 9 5 ++ [0x20, 0x85, 0xA0, 0x1680] ++ List.range' 0x2000 11 ++
    [0x2028, 0x2029, 0x202F, 0x205F, 0x3000]

theorem mem_blankCodes {c : Char} (blank : isBlank c = true) : c.toNat ∈ blankCodes := by
  simp only [isBlank, Bool.or_eq_true, Bool.and_eq_true, decide_eq_true_eq, beq_iff_eq] at blank
  simp only [blankCodes, List.mem_append, List.mem_range'_1, List.mem_cons, List.not_mem_nil,
    or_false]
  omega

set_option maxRecDepth 10000 in
theorem blankCodes_noLetters : ∀ code ∈ blankCodes, isLetterCode code = false := by decide

theorem isPlain_of_blank {c : Char} (blank : isBlank c = true) : isPlain c = false := by
  have noLetter : isLetter c = false := blankCodes_noLetters _ (mem_blankCodes blank)
  have noDot : c ≠ '.' := by
    rintro rfl
    exact absurd blank (by decide)
  have noHyphen : c ≠ '-' := by
    rintro rfl
    exact absurd blank (by decide)
  simp [isPlain, noLetter, noDot, noHyphen]

theorem Blank.marks {text : Text} (blank : text.Blank) : text.Marks :=
  fun c member => isPlain_of_blank (blank c member)

theorem isBlank_of_plain {c : Char} (plain : isPlain c = true) : isBlank c = false := by
  cases blank : isBlank c with
  | false => rfl
  | true => rw [isPlain_of_blank blank] at plain; cases plain

theorem Marks.append {first second : Text} (firstMarks : first.Marks) (secondMarks : second.Marks) :
    Marks (first ++ second) :=
  fun c member => (List.mem_append.mp member).elim (firstMarks c) (secondMarks c)

theorem Marks.cons {c : Char} {rest : Text} (mark : isPlain c = false) (marks : rest.Marks) :
    Marks (c :: rest) :=
  List.forall_mem_cons.mpr ⟨mark, marks⟩

theorem IsPlain.not_mem {word : Text} (plain : IsPlain word) {c : Char}
    (mark : isPlain c = false) : c ∉ word := by
  intro member
  have inside := plain.plain c member
  rw [mark] at inside
  cases inside

theorem IsPlain.exists_cons {word : Text} (plain : IsPlain word) :
    ∃ c rest, word = c :: rest ∧ isPlain c = true := by
  obtain ⟨c, rest, rfl⟩ := List.exists_cons_of_ne_nil plain.notEmpty
  exact ⟨c, rest, rfl, plain.plain c List.mem_cons_self⟩

/-- What stands behind a plain word: nothing, or a mark. -/
def EndsPlain : Text → Prop
  | [] => True
  | c :: _ => isPlain c = false

def StartsPlain : Text → Prop
  | [] => False
  | c :: _ => isPlain c = true

theorem StartsPlain.exists_cons {text : Text} (started : StartsPlain text) :
    ∃ c rest, text = c :: rest ∧ isPlain c = true := by
  cases text with
  | nil => exact started.elim
  | cons c rest => exact ⟨c, rest, rfl, started⟩

theorem IsPlain.startsPlain {word : Text} (plain : IsPlain word) (rest : Text) :
    StartsPlain (word ++ rest) := by
  obtain ⟨c, others, rfl, letter⟩ := plain.exists_cons
  exact letter

theorem Marks.endsPlain {marks : Text} (isMarks : marks.Marks) (notEmpty : marks ≠ [])
    (rest : Text) : EndsPlain (marks ++ rest) := by
  obtain ⟨c, others, rfl⟩ := List.exists_cons_of_ne_nil notEmpty
  exact isMarks c List.mem_cons_self

theorem EndsPlain.not_startsPlain {text : Text} (ended : EndsPlain text) : ¬ StartsPlain text := by
  cases text with
  | nil => exact id
  | cons c rest =>
      intro started
      exact Bool.false_ne_true (ended.symm.trans started)

theorem EndsPlain.first {text : Text} (ended : EndsPlain text) :
    ∀ c, text.head? = some c → isPlain c = false := by
  cases text with
  | nil => exact nofun
  | cons c rest =>
      rintro _ ⟨⟩
      exact ended

/-- Two plain words that a text begins with are the same if each is as long as it can be. -/
theorem plain_inj {word other rest behind : Text} (plain : ∀ c ∈ word, isPlain c = true)
    (otherPlain : ∀ c ∈ other, isPlain c = true) (ended : EndsPlain rest)
    (otherEnded : EndsPlain behind) (same : word ++ rest = other ++ behind) :
    word = other ∧ rest = behind :=
  run_inj plain otherPlain ended.first otherEnded.first same

/-- Two runs of marks with a plain word behind each are the same. -/
theorem marks_inj {marks other rest behind : Text} (isMarks : marks.Marks)
    (otherMarks : other.Marks) (started : StartsPlain rest) (otherStarted : StartsPlain behind)
    (same : marks ++ rest = other ++ behind) : marks = other ∧ rest = behind := by
  have ends {text : Text} (started : StartsPlain text) :
      ∀ c, text.head? = some c → (!isPlain c) = false := by
    obtain ⟨c, rest, rfl, plain⟩ := started.exists_cons
    rintro _ ⟨⟩
    rw [plain]
    rfl
  have runs {text : Text} (isMarks : text.Marks) : ∀ c ∈ text, (!isPlain c) = true :=
    fun c member => by rw [isMarks c member]; rfl
  exact run_inj (runs isMarks) (runs otherMarks) (ends started) (ends otherStarted) same

end Text

end Migration
