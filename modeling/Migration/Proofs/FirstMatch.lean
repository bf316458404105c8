import Migration.Pattern.Basic

namespace Migration.Pattern

/-! Which match of a pattern is found first.

A pattern can match at one place in several ways.  They are tried in order: the alternatives as
they are written, and one repetition more before the repetitions that are there already.  Matches
are looked for from left to right, and the next one behind the end of the one before.
-/

/-- A place in a text: what stands in front of it, the last character first, and what follows. -/
structure Cursor where
  before : Text
  after : Text

def Cursor.holds (here : Cursor) (place : Place) : Bool :=
  place.holds here.before.head? here.after.head?

/-- The place behind some text. -/
def Cursor.advance (here : Cursor) (text rest : Text) : Cursor :=
  ⟨text.reverse ++ here.before, rest⟩

/-- A number of matches of a body, one behind the other. -/
def copies (ends : Cursor → List Cursor) : (count : Nat) → Cursor → List Cursor
  | 0, here => [here]
  | count + 1, here => (ends here).flatMap (copies ends count)

/-- As many matches of a body as there can be, then fewer.  A match that uses nothing up is not
repeated. -/
def greedy (ends : Cursor → List Cursor) : (most : Nat) → Cursor → List Cursor
  | 0, here => [here]
  | most + 1, here =>
      ((ends here).filter fun stop => stop.after.length < here.after.length).flatMap
        (greedy ends most) ++ [here]

mutual

/-- Where the matches that begin at a place end, in the order in which they are tried. -/
def ends : Pattern → Cursor → List Cursor
  | .empty, here => [here]
  | .literal text, here =>
      if text.isPrefixOf here.after then [here.advance text (here.after.drop text.length)] else []
  | .one set, here =>
      match here.after with
      | [] => []
      | c :: rest => if set.contains c then [here.advance [c] rest] else []
  | .position place, here => if here.holds place then [here] else []
  | .sequence parts, here => endsAll parts here
  | .either alternatives, here => endsAny alternatives here
  | .repeated body least most, here =>
      (copies (ends body) least here).flatMap fun next =>
        greedy (ends body) ((most.map (· - least)).getD next.after.length) next
  | .group _ body, here => ends body here

/-- Where matches of several parts, one behind the other, end. -/
def endsAll : List Pattern → Cursor → List Cursor
  | [], here => [here]
  | part :: rest, here => (ends part here).flatMap (endsAll rest)

/-- Where matches of the alternatives end. -/
def endsAny : List Pattern → Cursor → List Cursor
  | [], _ => []
  | alternative :: rest, here => ends alternative here ++ endsAny rest here

end

theorem ends_text (text : Text) (here : Cursor) :
    ends (.literal text) here =
      if text.isPrefixOf here.after then [here.advance text (here.after.drop text.length)]
      else [] := rfl

theorem ends_one_cons (set : CharSet) (before : Text) (c : Char) (rest : Text) :
    ends (.one set) ⟨before, c :: rest⟩ =
      if set.contains c then [⟨c :: before, rest⟩] else [] := rfl

theorem ends_repeated (body : Pattern) (least : Nat) (most : Option Nat) (here : Cursor) :
    ends (.repeated body least most) here =
      (copies (ends body) least here).flatMap fun next =>
        greedy (ends body) ((most.map (· - least)).getD next.after.length) next := rfl

/-- A part of a text, by the numbers of characters in front of its start and of its end. -/
structure Span where
  start : Nat
  stop : Nat
deriving DecidableEq, Repr

/-- The part of a text between two places. -/
def Span.of (span : Span) (text : Text) : Text :=
  (text.take span.stop).drop span.start

theorem Span.of_append {front text rest : Text} :
    Span.of ⟨front.length, front.length + text.length⟩ (front ++ text ++ rest) = text := by
  rw [Span.of, ← List.length_append, List.take_left' rfl, List.drop_left' rfl]

/-- What has been copied up to a place and the text that follows the place are what has been copied
up to the end of that text. -/
theorem Span.of_extend {front text rest : Text} {last : Nat} (behind : last ≤ front.length) :
    Span.of ⟨last, (front ++ text).length⟩ (front ++ text ++ rest) =
      Span.of ⟨last, front.length⟩ (front ++ text ++ rest) ++ text := by
  simp only [Span.of]
  rw [List.take_left' rfl, List.append_assoc, List.take_left' rfl,
    List.drop_append_of_le_length behind]

theorem Span.of_self (place : Nat) (text : Text) : Span.of ⟨place, place⟩ text = [] :=
  List.drop_eq_nil_of_le (List.length_take_le place text)

/-- Matches that are found from left to right, after `skip` characters that belong to a match. -/
def spansFrom (pattern : Pattern) : (skip : Nat) → (before after : Text) → List Span
  | _, _, [] => []
  | skip + 1, before, c :: rest => spansFrom pattern skip (c :: before) rest
  | 0, before, c :: rest =>
      match (ends pattern ⟨before, c :: rest⟩).head? with
      | none => spansFrom pattern 0 (c :: before) rest
      | some stop =>
          ⟨before.length, stop.before.length⟩ ::
            spansFrom pattern (stop.before.length - before.length - 1) (c :: before) rest

/-- All matches in a text, for a pattern that does not match the empty text. -/
def spans (pattern : Pattern) (text : Text) : List Span :=
  spansFrom pattern 0 [] text

variable {pattern : Pattern}

theorem spansFrom_skip (used before rest : Text) :
    spansFrom pattern used.length before (used ++ rest) =
      spansFrom pattern 0 (used.reverse ++ before) rest := by
  induction used generalizing before with
  | nil => rfl
  | cons c used ih =>
      rw [List.cons_append, List.length_cons, spansFrom, ih, List.reverse_cons, List.append_assoc,
        List.singleton_append]

theorem spansFrom_miss {before : Text} {c : Char} {rest : Text}
    (missed : ends pattern ⟨before, c :: rest⟩ = []) :
    spansFrom pattern 0 before (c :: rest) = spansFrom pattern 0 (c :: before) rest := by
  rw [spansFrom, missed, List.head?_nil]

theorem spansFrom_hit {before found rest : Text} (notEmpty : found ≠ [])
    (hit : (ends pattern ⟨before, found ++ rest⟩).head? =
      some (Cursor.advance ⟨before, found ++ rest⟩ found rest)) :
    spansFrom pattern 0 before (found ++ rest) =
      ⟨before.length, before.length + found.length⟩ ::
        spansFrom pattern 0 (found.reverse ++ before) rest := by
  obtain ⟨c, found, rfl⟩ := List.exists_cons_of_ne_nil notEmpty
  have size : (Cursor.advance ⟨before, c :: found ++ rest⟩ (c :: found) rest).before.length =
      before.length + (c :: found).length := by
    simp only [Cursor.advance, List.length_append, List.length_reverse]
    omega
  rw [List.cons_append] at hit ⊢
  rw [spansFrom, hit]
  simp only [← List.cons_append, size]
  rw [List.length_cons, show before.length + (found.length + 1) - before.length - 1 = found.length
    by omega, spansFrom_skip, List.reverse_cons, List.append_assoc, List.singleton_append]

/-! Single characters and runs of them. -/

/-- Whether the first character of a text is in the set. -/
def begins (set : CharSet) : Text → Bool
  | [] => false
  | c :: _ => set.contains c

variable {set : CharSet}

theorem begins_dropWhile {allowed : Char → Bool} (same : ∀ c, set.contains c = allowed c)
    (text : Text) : begins set (text.dropWhile allowed) = false := by
  cases left : text.dropWhile allowed with
  | nil => rfl
  | cons c rest =>
      have stopped := List.head_dropWhile_not allowed (l := text) (by simp [left])
      simp only [left, List.head_cons] at stopped
      exact (same c).trans stopped

theorem ends_member {c : Char} (member : set.contains c = true) (before rest : Text) :
    ends (.one set) ⟨before, c :: rest⟩ = [⟨c :: before, rest⟩] := by
  rw [ends_one_cons, if_pos member]

theorem ends_nonmember {rest : Text} (ended : begins set rest = false) (before : Text) :
    ends (.one set) ⟨before, rest⟩ = [] := by
  cases rest with
  | nil => rfl
  | cons c rest =>
      rw [ends_one_cons]
      exact if_neg (Bool.eq_false_iff.mp ended)

theorem ends_char (c : Char) (here : Cursor) :
    ends (.literal [c]) here =
      if here.after.head? = some c then [⟨c :: here.before, here.after.tail⟩] else [] := by
  obtain ⟨before, after⟩ := here
  rw [ends_text]
  cases after with
  | nil => rfl
  | cons d rest =>
      by_cases same : c = d
      · subst same
        simp [Cursor.advance]
      · have other : (d :: rest).head? ≠ some c := fun found => same (Option.some.inj found).symm
        rw [if_neg other]
        simp [same]

theorem greedy_nothing {next : Cursor → List Cursor} {here : Cursor} (ended : next here = [])
    (most : Nat) : greedy next most here = [here] := by
  cases most with
  | zero => rfl
  | succ most =>
      rw [greedy, ended]
      rfl

/-- A run is tried as long as it is, and then with its last characters left. -/
theorem greedy_run {run rest : Text} (members : ∀ c ∈ run, set.contains c = true)
    (ended : begins set rest = false) {most : Nat} (enough : run.length ≤ most) (before : Text) :
    ∃ others, greedy (ends (.one set)) most ⟨before, run ++ rest⟩ =
        ⟨run.reverse ++ before, rest⟩ :: others ∧
      ∀ other ∈ others, begins set other.after = true := by
  induction run generalizing most before with
  | nil => exact ⟨[], greedy_nothing (ends_nonmember ended before) most, by simp⟩
  | cons c run ih =>
      obtain ⟨member, members⟩ := List.forall_mem_cons.mp members
      cases most with
      | zero => cases enough
      | succ most =>
          obtain ⟨others, tried, shorter⟩ :=
            ih members (Nat.le_of_succ_le_succ enough) (c :: before)
          refine ⟨others ++ [⟨before, c :: (run ++ rest)⟩], ?_, ?_⟩
          · rw [List.cons_append, greedy, ends_member member]
            simp [tried]
          · intro other within
            rcases List.mem_append.mp within with within | within
            · exact shorter other within
            · rw [List.mem_singleton.mp within]
              exact member

theorem ends_anyRun {run rest : Text} (members : ∀ c ∈ run, set.contains c = true)
    (ended : begins set rest = false) (before : Text) :
    ∃ others, ends (.repeated (.one set) 0 none) ⟨before, run ++ rest⟩ =
        ⟨run.reverse ++ before, rest⟩ :: others ∧
      ∀ other ∈ others, begins set other.after = true := by
  have enough : run.length ≤ (run ++ rest).length := by
    rw [List.length_append]
    exact Nat.le_add_right _ _
  obtain ⟨others, tried, shorter⟩ := greedy_run members ended enough before
  refine ⟨others, ?_, shorter⟩
  rw [ends_repeated, copies]
  simpa using tried

theorem ends_run {run rest : Text} (notEmpty : run ≠ [])
    (members : ∀ c ∈ run, set.contains c = true) (ended : begins set rest = false)
    (before : Text) :
    ∃ others, ends (.repeated (.one set) 1 none) ⟨before, run ++ rest⟩ =
        ⟨run.reverse ++ before, rest⟩ :: others ∧
      ∀ other ∈ others, begins set other.after = true := by
  obtain ⟨c, run, rfl⟩ := List.exists_cons_of_ne_nil notEmpty
  obtain ⟨member, members⟩ := List.forall_mem_cons.mp members
  obtain ⟨others, tried, shorter⟩ :=
    greedy_run members ended (Nat.le_add_right run.length rest.length) (c :: before)
  refine ⟨others, ?_, shorter⟩
  rw [ends_repeated, copies, List.cons_append, ends_member member]
  simp [copies, tried]

theorem ends_noRun {rest : Text} (ended : begins set rest = false) (before : Text) :
    ends (.repeated (.one set) 1 none) ⟨before, rest⟩ = [] := by
  rw [ends_repeated, copies, ends_nonmember ended]
  rfl

end Migration.Pattern
