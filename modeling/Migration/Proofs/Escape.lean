import Migration.Pattern.Meaning
import Migration.Pattern.Reader
import Migration.Proofs.VariableName

namespace Migration.Pattern

/-! Texts that match only themselves.

With a backslash in front of every character that has a meaning of its own, a text is read as the
letters it is made of, and together they are one literal.
-/

/-- Characters that an expression may not read as themselves. -/
def isMeta (c : Char) : Bool :=
  ['\\', '.', '+', '*', '?', '(', ')', '|', '[', ']', '\x7b', '\x7d', '^', '$', '#', '&', '-',
    '~'].contains c

def escapeChar (c : Char) : Text :=
  if isMeta c then ['\\', c] else [c]

/-- The text as it is written in an expression. -/
def escape (text : Text) : Text :=
  text.flatMap escapeChar

theorem escape_cons (c : Char) (text : Text) : escape (c :: text) = escapeChar c ++ escape text :=
  List.flatMap_cons

theorem escape_append (first second : Text) :
    escape (first ++ second) = escape first ++ escape second :=
  List.flatMap_append

theorem length_le_escape (text : Text) : text.length ≤ (escape text).length := by
  induction text with
  | nil => exact Nat.le_refl _
  | cons c text ih =>
      have some : 1 ≤ (escapeChar c).length := by
        rw [escapeChar]
        split <;> simp
      rw [escape_cons, List.length_append, List.length_cons, Nat.add_comm]
      exact Nat.add_le_add some ih

def letters (text : Text) : List Expression :=
  text.map fun c => .letter ⟨c, false⟩

/-! Reading. -/

theorem readEscape_meta {c : Char} (special : isMeta c = true) (verbose : Bool) (rest : Text) :
    readEscape verbose (c :: rest) = .ok (.letter ⟨c, false⟩, rest) := by
  simp only [isMeta, List.contains_eq_mem, decide_eq_true_eq, List.mem_cons, List.not_mem_nil,
    or_false] at special
  rcases special with rfl | rfl | rfl | rfl | rfl | rfl | rfl | rfl | rfl | rfl | rfl | rfl | rfl |
    rfl | rfl | rfl | rfl | rfl <;> rfl

theorem readItem_escaped {c : Char} (special : isMeta c = true) (reading : Reading) (fuel : Nat)
    (rest : Text) :
    reading.readItem fuel ('\\' :: c :: rest) = .ok (reading.push (.letter ⟨c, false⟩), rest) := by
  change (readEscape reading.verbose (c :: rest) >>= _) = _
  rw [readEscape_meta special]
  rfl

theorem readItem_plain {c : Char} (plain : isMeta c = false) (reading : Reading) (fuel : Nat)
    (rest : Text) :
    reading.readItem fuel (c :: rest) = .ok (reading.push (.letter ⟨c, false⟩), rest) := by
  unfold Reading.readItem
  split
  case h_11 same => cases same; rfl
  case h_12 same => cases same
  all_goals
    rename_i same
    cases same
    exact absurd plain (by decide)

variable {reading : Reading}

theorem readItems_escapeChar (terse : reading.verbose = false) (c : Char) (fuel : Nat)
    (rest : Text) :
    readItems (fuel + 1) reading (escapeChar c ++ rest) =
      readItems fuel (reading.push (.letter ⟨c, false⟩)) rest := by
  rw [escapeChar]
  cases special : isMeta c with
  | true =>
      rw [if_pos rfl, List.cons_append, List.cons_append, List.nil_append, readItems, skip, terse,
        if_neg Bool.false_ne_true]
      change (reading.readItem fuel ('\\' :: c :: rest) >>= _) = _
      rw [readItem_escaped special]
      rfl
  | false =>
      rw [if_neg Bool.false_ne_true, List.cons_append, List.nil_append, readItems, skip, terse,
        if_neg Bool.false_ne_true]
      split
      case h_1 same => cases same
      case h_2 same => cases same; exact absurd special (by decide)
      case h_3 same => cases same; exact absurd special (by decide)
      case h_4 =>
        rw [readItem_plain special]
        rfl

theorem readItems_escape (terse : reading.verbose = false) (text : Text) (fuel : Nat)
    (rest : Text) :
    readItems (fuel + text.length) reading (escape text ++ rest) =
      readItems fuel { reading with items := (letters text).reverse ++ reading.items } rest := by
  induction text generalizing reading with
  | nil => rfl
  | cons c text ih =>
      have same : (reading.push (.letter ⟨c, false⟩)).verbose = false := terse
      rw [escape_cons, List.append_assoc, List.length_cons, ← Nat.add_assoc,
        readItems_escapeChar terse, ih same]
      simp [Reading.push, letters]

/-- An escaped text is read as its letters. -/
theorem read_escape (text : Text) :
    Expression.read (escape text) = .ok (.sequence (letters text)) := by
  have enough := length_le_escape text
  have fuel : 2 * (escape text).length + 2 =
      (2 * (escape text).length - text.length + 1) + 1 + text.length := by omega
  have items := @readItems_escape {} rfl text (2 * (escape text).length - text.length + 1 + 1) []
  rw [List.append_nil] at items
  rw [Expression.read, fuel, items, readItems]
  simp only [skip, Bool.false_eq_true, if_false, if_true, Reading.expression, List.append_nil,
    List.reverse_reverse, List.isEmpty_nil]
  rfl

/-! Meaning. -/

theorem only?_single (c : Char) : (CharSet.single c).only? = some c := by
  have same : Char.ofNat c.toNat = c := Char.ofNat_toNat c
  rw [CharSet.single, CharSet.range]
  by_cases inside : c.toNat + 1 < CharSet.beyond
  · simp [CharSet.only?, inside, same]
  · have valid : c.toNat < CharSet.beyond := by
      rcases c.valid with low | ⟨_, high⟩
      · exact Nat.lt_trans low (by decide)
      · exact high
    have last : c.toNat + 1 = CharSet.beyond := by omega
    simp [CharSet.only?, last, same]

theorem meaning_letter (c : Char) :
    (Expression.letter ⟨c, false⟩).meaning {} = .ok (.literal [c], {}) := by
  have plain : ofSet (CharSet.single c) = .literal [c] := by rw [ofSet, only?_single]
  rw [Expression.meaning, ← plain]
  rfl

theorem meanings_letters (text : Text) (done : List Pattern) :
    Expression.meanings {} done (letters text) =
      .ok (done.reverse ++ text.map fun c => .literal [c], {}) := by
  induction text generalizing done with
  | nil => simp [letters, Expression.meanings]
  | cons c text ih =>
      rw [letters, List.map_cons, Expression.meanings, meaning_letter]
      refine (ih _).trans ?_
      simp

theorem foldr_prepend (c : Char) (text : Text) :
    (((c :: text).map fun c => Pattern.literal [c]).foldr prepend []) = [.literal (c :: text)] := by
  induction text generalizing c with
  | nil => rfl
  | cons next text ih =>
      rw [List.map_cons, List.foldr_cons, ih]
      rfl

theorem inSequence_letters {text : Text} (notEmpty : text ≠ []) :
    inSequence (text.map fun c => .literal [c]) = .literal text := by
  obtain ⟨c, rest, rfl⟩ := List.exists_cons_of_ne_nil notEmpty
  have flat : (c :: rest).flatMap (fun c => [Pattern.literal [c]]) =
      (c :: rest).map fun c => .literal [c] := List.map_eq_flatMap.symm
  rw [inSequence, List.flatMap_map]
  simp only [flat, foldr_prepend]

theorem meaning_letters {text : Text} (notEmpty : text ≠ []) :
    (Expression.sequence (letters text)).meaning {} = .ok (.literal text, {}) := by
  rw [Expression.meaning, meanings_letters, List.reverse_nil, List.nil_append,
    ← inSequence_letters notEmpty]
  rfl

/-- An escaped text means the text itself. -/
theorem escape_means {text : Text} (notEmpty : text ≠ []) :
    ∃ expression, Expression.read (escape text) = .ok expression ∧
      expression.meaning {} = .ok (.literal text, {}) :=
  ⟨_, read_escape text, meaning_letters notEmpty⟩

end Migration.Pattern
