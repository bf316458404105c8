import Mathlib.Data.List.Chain
import Migration.Text.CharSet

namespace Migration.CharSet

/-! Combined sets of characters hold what their names say.

A number lies in a set if it has passed an odd number of the set's boundaries.  Walking the
boundaries of two sets side by side keeps track of whether each has been passed an odd number of
times.
-/

/-- Whether a number is in a set, given whether the numbers in front of all these boundaries are. -/
def inside (front : Bool) (bounds : List Nat) (code : Nat) : Bool :=
  bounds.foldl (fun now bound => if bound ≤ code then !now else now) front

theorem inside_cons (front : Bool) (bound : Nat) (bounds : List Nat) (code : Nat) :
    inside front (bound :: bounds) code =
      inside (if bound ≤ code then !front else front) bounds code := rfl

theorem inside_not (front : Bool) (bounds : List Nat) (code : Nat) :
    inside (!front) bounds code = !inside front bounds code := by
  induction bounds generalizing front with
  | nil => rfl
  | cons bound bounds ih =>
      rw [inside_cons, inside_cons, ← ih]
      split <;> rfl

section Ahead

variable {bound code : Nat} {bounds : List Nat} (ahead : ∀ other ∈ bounds, bound < other)

include ahead

/-- A number in front of all boundaries has passed none. -/
theorem inside_front (front : Bool) (before : code ≤ bound) :
    inside front bounds code = front := by
  induction bounds with
  | nil => rfl
  | cons next bounds ih =>
      obtain ⟨first, ahead⟩ := List.forall_mem_cons.mp ahead
      rw [inside_cons, if_neg (by omega), ih ahead]

theorem inside_ahead (front : Bool) :
    inside front bounds code = if bound ≤ code then inside front bounds code else front := by
  split
  · rfl
  · exact inside_front ahead front (by omega)

theorem inside_bound (front : Bool) :
    inside front (bound :: bounds) code =
      if bound ≤ code then inside (!front) bounds code else front := by
  rw [inside_cons]
  split
  · rfl
  · exact inside_front ahead front (by omega)

end Ahead

def Ascends (bounds : List Nat) : Prop :=
  bounds.IsChain (· < ·)

instance (bounds : List Nat) : Decidable (Ascends bounds) :=
  inferInstanceAs (Decidable (bounds.IsChain (· < ·)))

namespace Ascends

variable {bound : Nat} {bounds : List Nat} (ascends : Ascends (bound :: bounds))

include ascends

theorem tail : Ascends bounds :=
  List.IsChain.tail ascends

theorem ahead : ∀ other ∈ bounds, bound < other :=
  (List.pairwise_cons.mp (List.IsChain.pairwise ascends)).1

/-- What is ahead of the first boundary is ahead of all. -/
theorem aheadOf {other : Nat} (before : other < bound) : ∀ next ∈ bound :: bounds, other < next :=
  List.forall_mem_cons.mpr ⟨before, fun next member => before.trans (ascends.ahead next member)⟩

end Ascends

theorem covers_eq_inside {bounds : List Nat} (ascends : Ascends bounds) (code : Nat) :
    covers bounds code = inside false bounds code := by
  fun_induction covers bounds code with
  | case1 => rfl
  | case2 first code =>
      rw [inside_bound ascends.ahead]
      split <;> simp_all [inside]
  | case3 first past rest code before =>
      rw [inside_bound ascends.ahead, if_neg (by omega)]
  | case4 first past rest code notBefore within =>
      rw [inside_bound ascends.ahead, if_pos (by omega), inside_bound ascends.tail.ahead,
        if_neg (by omega)]
      rfl
  | case5 first past rest code notBefore notWithin ih =>
      rw [inside_bound ascends.ahead, if_pos (by omega), inside_bound ascends.tail.ahead,
        if_pos (by omega)]
      exact ih ascends.tail.tail

/-- What happens at the next boundary of the two sets, given that the walk behind it is right. -/
theorem inside_cross {choose : Bool → Bool → Bool} {inLeft inRight nowLeft nowRight : Bool}
    {bound code : Nat} {left right later : List Nat} (aheadLeft : ∀ other ∈ left, bound < other)
    (aheadRight : ∀ other ∈ right, bound < other)
    (walked : inside (choose nowLeft nowRight) later code =
      choose (inside nowLeft left code) (inside nowRight right code)) :
    inside (choose inLeft inRight)
        (if choose inLeft inRight = choose nowLeft nowRight then later else bound :: later) code =
      if bound ≤ code then choose (inside nowLeft left code) (inside nowRight right code)
      else choose inLeft inRight := by
  by_cases passed : bound ≤ code
  · rw [if_pos passed, ← walked]
    split
    · next same => rw [same]
    · next different =>
        rw [inside_cons, if_pos passed, Bool.eq_not_of_ne different, Bool.not_not]
  · -- nothing has been passed, so what is written later does not count
    rw [inside_front aheadLeft _ (by omega), inside_front aheadRight _ (by omega)] at walked
    have unmoved : inside (choose inLeft inRight) later code = choose inLeft inRight := by
      by_cases same : choose inLeft inRight = choose nowLeft nowRight
      · rw [same, walked]
      · rw [Bool.eq_not_of_ne same, inside_not, walked]
    rw [if_neg passed]
    split
    · exact unmoved
    · rw [inside_cons, if_neg passed, unmoved]

theorem inside_sweep (choose : Bool → Bool → Bool) {fuel : Nat} {left right : List Nat}
    (enough : left.length + right.length ≤ fuel) (ascendsLeft : Ascends left)
    (ascendsRight : Ascends right) (inLeft inRight : Bool) (code : Nat) :
    inside (choose inLeft inRight) (sweep choose fuel inLeft inRight left right) code =
      choose (inside inLeft left code) (inside inRight right code) := by
  induction fuel generalizing left right inLeft inRight with
  | zero =>
      obtain ⟨rfl, rfl⟩ : left = [] ∧ right = [] := by
        simpa [List.length_eq_zero_iff] using enough
      rfl
  | succ fuel ih =>
      match left, right with
      | [], [] => rfl
      | first :: left, [] =>
          have walked := ih (by simpa using enough) ascendsLeft.tail ascendsRight (!inLeft) inRight
          rw [sweep, inside_cross ascendsLeft.ahead (by simp) walked,
            inside_bound ascendsLeft.ahead]
          split <;> rfl
      | [], second :: right =>
          have walked := ih (by simpa using enough) ascendsLeft ascendsRight.tail inLeft (!inRight)
          rw [sweep, inside_cross (by simp) ascendsRight.ahead walked,
            inside_bound ascendsRight.ahead]
          split <;> rfl
      | first :: left, second :: right =>
          simp only [List.length_cons] at enough
          rw [sweep]
          split
          · next before =>
              have ahead := ascendsRight.aheadOf before
              have walked := ih (by simp only [List.length_cons]; omega) ascendsLeft.tail
                ascendsRight (!inLeft) inRight
              rw [inside_cross ascendsLeft.ahead ahead walked, inside_bound ascendsLeft.ahead,
                inside_ahead ahead]
              split <;> rfl
          · split
            · next after =>
                have ahead := ascendsLeft.aheadOf after
                have walked := ih (by simp only [List.length_cons]; omega) ascendsLeft
                  ascendsRight.tail inLeft (!inRight)
                rw [inside_cross ahead ascendsRight.ahead walked, inside_ahead ahead,
                  inside_bound ascendsRight.ahead]
                split <;> rfl
            · next notBefore notAfter =>
                obtain rfl : first = second := by omega
                have walked := ih (by omega) ascendsLeft.tail ascendsRight.tail (!inLeft) (!inRight)
                rw [inside_cross ascendsLeft.ahead ascendsRight.ahead walked,
                  inside_bound ascendsLeft.ahead, inside_bound ascendsRight.ahead]
                split <;> rfl

theorem contains_combine {choose : Bool → Bool → Bool} (neither : choose false false = false)
    {left right : CharSet} (ascendsLeft : Ascends left.bounds) (ascendsRight : Ascends right.bounds)
    (ascends : Ascends (combine choose left right).bounds) (c : Char) :
    (combine choose left right).contains c = choose (left.contains c) (right.contains c) := by
  have walked := inside_sweep choose (Nat.le_refl _) ascendsLeft ascendsRight false false c.toNat
  rw [neither] at walked
  rw [contains, covers_eq_inside ascends, contains, covers_eq_inside ascendsLeft, contains,
    covers_eq_inside ascendsRight, ← walked]
  rfl

end Migration.CharSet
