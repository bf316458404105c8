import Migration.Glob
import Migration.Proofs.CharacterBytes

namespace Migration.Glob

/-! Globs of one star and of none.

A glob without marks fits its own text alone.  Behind a star it fits every name that ends with it:
each mismatch sends the scan back to the star, which then takes one byte more, so that the end of
the name is tried for every length it can have.
-/

/-- The characters that do not stand for themselves where no group is open. -/
def marks : Text :=
  ['*', '?', '[', '\x7b', '\\']

def IsLiteral (next : UInt8) : Prop :=
  ∀ mark ∈ marks, next ≠ byte mark

def Unmarked (text : Text) : Prop :=
  ∀ c ∈ text, c ∉ marks

instance (text : Text) : Decidable (Unmarked text) :=
  List.decidableBAll (· ∉ marks) text

section Scan

variable {glob name : List UInt8} {matcher after : Matcher} {verdict : Verdict} {fuel : Nat}

theorem scan_going (going : step glob name matcher = .going after) :
    scan glob name (fuel + 1) matcher = scan glob name fuel after := by
  rw [scan, going]

theorem scan_ended (ended : step glob name matcher = .ended verdict) :
    scan glob name (fuel + 1) matcher = verdict := by
  rw [scan, ended]

variable {position place : Nat} {retry : Retry} {furthest : Nat} {next wanted : UInt8}

/-- The matcher at two positions while no group is open. -/
def outside (position place : Nat) (retry : Retry) (furthest : Nat) : Matcher where
  state := ⟨position, place, retry⟩
  furthest

/-- What a mismatch comes to while no group is open. -/
def fallBack (size : Nat) (retry : Retry) (furthest : Nat) : Progress :=
  if 0 < retry.name ∧ retry.name ≤ size then
    .going (outside retry.glob retry.name retry furthest)
  else .ended .unmatched

theorem mismatch_outside :
    mismatch glob name.length { state := ⟨position, place, retry⟩, furthest } =
      fallBack name.length retry furthest := by
  have same : canReturn ⟨position, place, retry⟩ name.length =
      decide (0 < retry.name ∧ retry.name ≤ name.length) := by
    rw [Bool.eq_iff_iff, canReturn, Bool.and_eq_true]
    simp only [decide_eq_true_eq]
  rw [mismatch, fallBack, same]
  by_cases inside : 0 < retry.name ∧ retry.name ≤ name.length
  · rw [if_pos inside, decide_eq_true inside]
    rfl
  · rw [if_neg inside, decide_eq_false inside]
    rfl

theorem step_end (atEnd : glob[position]? = none) :
    step glob name (outside position place retry furthest) =
      if name[place]? = none then .ended .matched else fallBack name.length retry furthest := by
  rw [step]
  cases left : name[place]? with
  | none => simp only [outside, atEnd, left, if_true]
  | some wanted => simp only [outside, atEnd, left, reduceCtorEq, if_false, mismatch_outside]

theorem literal_outside (here : glob[position]? = some next) (plain : IsLiteral next) :
    literal glob name.length wanted { state := ⟨position, place, retry⟩, furthest } =
      if next = wanted then .going (outside (position + 1) (place + 1) retry furthest)
      else fallBack name.length retry furthest := by
  obtain ⟨inside, found⟩ := List.getElem?_eq_some_iff.mp here
  have noEscape : next ≠ byte '\\' := plain _ (by decide)
  have taken : takeLiteral (glob.drop position) = some (next, glob.drop (position + 1)) := by
    rw [List.drop_eq_getElem_cons inside, found, takeLiteral.eq_def]
    exact if_neg noEscape
  have back : glob.length - (glob.drop (position + 1)).length - 1 = position := by
    rw [List.length_drop]
    omega
  rw [literal]
  simp only [outside, taken, back, mismatch_outside, List.isEmpty_nil, Bool.not_true,
    Bool.and_false, Bool.false_eq_true, if_false]

theorem step_literal (here : glob[position]? = some next) (plain : IsLiteral next) :
    step glob name (outside position place retry furthest) =
      if name[place]? = some next then
        .going (outside (position + 1) (place + 1) retry furthest)
      else fallBack name.length retry furthest := by
  have noStar : next ≠ byte '*' := plain _ (by decide)
  have noAny : next ≠ byte '?' := plain _ (by decide)
  have noSet : next ≠ byte '[' := plain _ (by decide)
  have noGroup : next ≠ byte '\x7b' := plain _ (by decide)
  rw [step]
  cases left : name[place]? with
  | none => simp [outside, here, left, noStar, mismatch_outside]
  | some wanted =>
      simp [outside, here, left, noStar, noAny, noSet, noGroup, literal_outside here plain,
        @eq_comm _ wanted next]

theorem step_star (here : glob[position]? = some (byte '*'))
    (single : glob[position + 1]? ≠ some (byte '*')) :
    step glob name (outside position place retry furthest) =
      .going (outside (position + 1) place ⟨position, place + 1⟩ furthest) := by
  rw [step]
  simp [outside, here, star, behindStar, single]

/-- A mismatch goes back to the last star or ends the scan. -/
theorem scan_fallBack
    (missed : step glob name matcher = fallBack name.length retry furthest) :
    scan glob name (fuel + 1) matcher =
      if 0 < retry.name ∧ retry.name ≤ name.length then
        scan glob name fuel (outside retry.glob retry.name retry furthest)
      else .unmatched := by
  by_cases inside : 0 < retry.name ∧ retry.name ≤ name.length
  · rw [fallBack, if_pos inside] at missed
    rw [if_pos inside, scan_going missed]
  · rw [fallBack, if_neg inside] at missed
    rw [if_neg inside, scan_ended missed]

/-- Literal bytes up to the end of the glob match exactly the rest of the name.  Wherever the two
differ first, the scan goes on in the same way. -/
theorem scan_literals {front rest : List UInt8} (whole : glob = front ++ rest)
    (plain : ∀ next ∈ rest, IsLiteral next) (enough : rest.length < fuel) :
    if rest = name.drop place then
      scan glob name fuel (outside front.length place retry furthest) = .matched
    else
      ∃ left, fuel ≤ left + rest.length + 1 ∧
        scan glob name fuel (outside front.length place retry furthest) =
          if 0 < retry.name ∧ retry.name ≤ name.length then
            scan glob name left (outside retry.glob retry.name retry furthest)
          else .unmatched := by
  induction rest generalizing front place fuel with
  | nil =>
      obtain ⟨fuel, rfl⟩ := Nat.exists_eq_add_one.mpr enough
      have atEnd : glob[front.length]? = none := by simp [whole]
      have stepped := @step_end glob name front.length place retry furthest atEnd
      by_cases nothing : name[place]? = none
      · rw [if_pos nothing] at stepped
        have ends : name.drop place = [] :=
          List.drop_eq_nil_of_le (List.getElem?_eq_none_iff.mp nothing)
        rw [if_pos ends.symm]
        exact scan_ended stepped
      · rw [if_neg nothing] at stepped
        have more : name.drop place ≠ [] := fun ends =>
          nothing (List.getElem?_eq_none_iff.mpr (List.drop_eq_nil_iff.mp ends))
        rw [if_neg more.symm]
        exact ⟨fuel, Nat.le_refl _, scan_fallBack stepped⟩
  | cons next rest ih =>
      obtain ⟨fuel, rfl⟩ := Nat.exists_eq_add_one.mpr (Nat.zero_lt_of_lt enough)
      obtain ⟨literal, others⟩ := List.forall_mem_cons.mp plain
      have here : glob[front.length]? = some next := by simp [whole]
      have stepped := @step_literal glob name front.length place retry furthest next here literal
      by_cases same : name[place]? = some next
      · rw [if_pos same] at stepped
        obtain ⟨inside, found⟩ := List.getElem?_eq_some_iff.mp same
        have later := @ih fuel (place + 1) (front ++ [next])
          (by simp [whole]) others (Nat.lt_of_succ_lt_succ enough)
        rw [List.drop_eq_getElem_cons inside, found, scan_going stepped]
        rw [List.length_append, List.length_singleton] at later
        by_cases ends : rest = name.drop (place + 1)
        · rw [if_pos (congrArg (next :: ·) ends)]
          rwa [if_pos ends] at later
        · rw [if_neg (by simpa using ends)]
          rw [if_neg ends] at later
          obtain ⟨left, spared, result⟩ := later
          exact ⟨left, by rw [List.length_cons]; omega, result⟩
      · rw [if_neg same] at stepped
        have different : next :: rest ≠ name.drop place := by
          intro ends
          apply same
          rw [← List.head?_drop, ← ends]
          rfl
        rw [if_neg different]
        exact ⟨fuel, by omega, scan_fallBack stepped⟩

theorem suffix_drop_iff {ending : List UInt8} (inside : place < name.length) :
    ending <:+ name.drop place ↔ ending = name.drop place ∨ ending <:+ name.drop (place + 1) := by
  rw [List.drop_eq_getElem_cons inside, List.suffix_cons_iff]

/-- The scan comes back to the star until the rest of the name is no longer than the glob. -/
theorem scan_star {ending : List UInt8} (plain : ∀ next ∈ ending, IsLiteral next)
    (inside : place ≤ name.length)
    (enough : (name.length - place + 1) * (ending.length + 2) ≤ fuel) :
    scan (byte '*' :: ending) name fuel (outside 0 place retry furthest) =
      if ending <:+ name.drop place then .matched else .unmatched := by
  have single : (byte '*' :: ending)[0 + 1]? ≠ some (byte '*') := by
    intro doubled
    have member : byte '*' ∈ ending := List.mem_of_getElem? doubled
    exact plain _ member '*' (by decide) rfl
  induction gapIs : name.length - place using Nat.strongRecOn generalizing place retry fuel with
  | ind gap ih =>
      rw [Nat.add_one_mul] at enough
      obtain ⟨fuel, rfl⟩ : ∃ spared, fuel = spared + 1 := Nat.exists_eq_add_one.mpr (by omega)
      have stepped := @step_star (byte '*' :: ending) name 0 place retry furthest rfl single
      have behind := @scan_literals (byte '*' :: ending) name fuel place ⟨0, place + 1⟩ furthest
        [byte '*'] ending rfl plain (by omega)
      rw [scan_going stepped]
      rw [List.length_singleton] at behind
      by_cases ends : ending = name.drop place
      · rw [if_pos ends] at behind
        rw [if_pos (ends ▸ List.suffix_rfl)]
        exact behind
      · rw [if_neg ends] at behind
        obtain ⟨left, spared, result⟩ := behind
        rw [Nat.zero_add, result]
        by_cases more : place < name.length
        · have shorter : name.length - (place + 1) + 1 = name.length - place := by omega
          rw [if_pos ⟨Nat.succ_pos place, more⟩, ih (name.length - (place + 1)) (by omega) more
            (by rw [shorter]; omega) rfl]
          simp only [suffix_drop_iff more, ends, false_or]
        · have atEnd : name.drop place = [] := List.drop_eq_nil_of_le (Nat.le_of_not_lt more)
          rw [atEnd] at ends ⊢
          rw [if_neg fun found => more found.2, if_neg (by simpa using ends)]

end Scan

section Accepts

variable {name : List UInt8}

theorem takeWhile_notNegated {glob : List UInt8} (positive : glob.head? ≠ some (byte '!')) :
    glob.takeWhile (· = byte '!') = [] := by
  cases glob with
  | nil => rfl
  | cons next rest => exact List.takeWhile_cons_of_neg (by simpa using positive)

theorem le_enoughSteps {glob : List UInt8} (noGroup : byte '\x7b' ∉ glob) :
    (glob.length + 2) * (name.length + 2) ≤ enoughSteps glob name := by
  rw [enoughSteps, List.count_eq_zero.mpr noGroup]
  exact Nat.le_self_pow (by decide) _

theorem accepts_star {ending : List UInt8} (plain : ∀ next ∈ ending, IsLiteral next) :
    accepts (byte '*' :: ending) name = true ↔ ending <:+ name := by
  have noGroup : byte '\x7b' ∉ byte '*' :: ending := by
    intro member
    rcases List.mem_cons.mp member with same | member
    · exact absurd same (by decide)
    · exact plain _ member '\x7b' (by decide) rfl
  have enough : (name.length - 0 + 1) * (ending.length + 2) ≤
      enoughSteps (byte '*' :: ending) name :=
    calc (name.length + 1) * (ending.length + 2)
        ≤ (name.length + 2) * (ending.length + 1 + 2) :=
          Nat.mul_le_mul (by omega) (by omega)
      _ = (ending.length + 1 + 2) * (name.length + 2) := Nat.mul_comm ..
      _ ≤ enoughSteps (byte '*' :: ending) name := le_enoughSteps noGroup
  have scanned := @scan_star name _ 0 {} 0 ending plain (Nat.zero_le _) enough
  rw [List.drop_zero, outside] at scanned
  have positive : (byte '*' :: ending).head? ≠ some (byte '!') := by
    rw [List.head?_cons]
    decide
  rw [accepts, takeWhile_notNegated positive, List.length_nil, scanned]
  by_cases ends : ending <:+ name
  · simp [ends]
  · simp [ends]

theorem accepts_literal {glob : List UInt8} (plain : ∀ next ∈ glob, IsLiteral next)
    (positive : glob.head? ≠ some (byte '!')) : accepts glob name = true ↔ glob = name := by
  have noGroup : byte '\x7b' ∉ glob := fun member => plain _ member '\x7b' (by decide) rfl
  have enough : glob.length < enoughSteps glob name :=
    calc glob.length < (glob.length + 2) * 1 := by omega
      _ ≤ (glob.length + 2) * (name.length + 2) := Nat.mul_le_mul_left _ (by omega)
      _ ≤ enoughSteps glob name := le_enoughSteps noGroup
  have scanned := @scan_literals glob name _ 0 {} 0 [] glob rfl plain enough
  rw [List.drop_zero, List.length_nil, outside] at scanned
  rw [accepts, takeWhile_notNegated positive, List.length_nil]
  by_cases same : glob = name
  · rw [if_pos same] at scanned
    rw [scanned]
    simpa using same
  · rw [if_neg same] at scanned
    obtain ⟨left, _, result⟩ := scanned
    rw [result, if_neg (by simp)]
    simpa using same

end Accepts

/-! Globs and names as texts. -/

theorem isLiteral_encode {text : Text} (unmarked : Unmarked text) :
    ∀ next ∈ Utf8.encode text, IsLiteral next := by
  have small : ∀ mark ∈ marks, mark.toNat < 128 := by simp [marks]
  intro next member mark isMark same
  obtain ⟨c, inside, among⟩ := List.mem_flatMap.mp member
  rw [same, byte, Utf8.mem_encodeChar_iff (small mark isMark)] at among
  exact unmarked c inside (among ▸ isMark)

theorem encode_notNegated {text : Text} (positive : text.head? ≠ some '!') :
    (Utf8.encode text).head? ≠ some (byte '!') := by
  cases text with
  | nil => simp [Utf8.encode]
  | cons c rest =>
      obtain ⟨lead, behind, bytes, _⟩ := Utf8.exists_lead c
      rw [Utf8.encode_cons, bytes, List.cons_append, List.head?_cons, ne_eq, Option.some.injEq]
      intro same
      have among : byte '!' ∈ String.utf8EncodeChar c := by rw [bytes, same]; simp
      rw [byte, Utf8.mem_encodeChar_iff (by decide)] at among
      exact positive (by rw [among]; rfl)

/-- A star and a text fit the names that end with the text. -/
theorem matches_star {ending : Text} (unmarked : Unmarked ending) (name : Text) :
    Glob.matches ('*' :: ending) name = true ↔ ending <:+ name := by
  have whole : Utf8.encode ('*' :: ending) = byte '*' :: Utf8.encode ending := by
    rw [Utf8.encode_cons, Utf8.encodeChar_small (by decide)]
    rfl
  rw [Glob.matches, whole, accepts_star (isLiteral_encode unmarked), Utf8.encode_suffix_iff]

/-- A text without marks fits itself only. -/
theorem matches_literal {glob : Text} (unmarked : Unmarked glob)
    (positive : glob.head? ≠ some '!') (name : Text) :
    Glob.matches glob name = true ↔ glob = name := by
  rw [Glob.matches, accepts_literal (isLiteral_encode unmarked) (encode_notNegated positive)]
  exact ⟨fun same => Utf8.encode_injective same, congrArg _⟩

end Migration.Glob
