import Mathlib.Data.List.Forall2
import Migration.Proofs.Action

namespace Migration

/-! Computations for each element of a list.

They answer all results, in order, or the first failure.  Whatever else the computations do, their
answers are put together by `List.mapM`, of which this is proved.
-/

section

variable {step : α → Except ε β} {first : α} {rest values : List α}

theorem mapM_eq_ok {results : List β} :
    values.mapM step = .ok results ↔
      List.Forall₂ (fun value result => step value = .ok result) values results := by
  induction values generalizing results with
  | nil =>
      rw [List.mapM_nil, List.forall₂_nil_left_iff]
      exact Except.ok.injEq [] results ▸ eq_comm
  | cons value rest ih =>
      have together (result : β) (others : List β) :
          (pure (result :: others) : Except ε (List β)) = .ok results ↔
            results = result :: others :=
        Except.ok.injEq (result :: others) results ▸ eq_comm
      simp only [List.mapM_cons, List.forall₂_cons_left_iff, bind_eq_ok, ih, together,
        exists_and_left]

theorem exists_first_cons {fine wrong : α → Prop} :
    (∃ before value after, first :: rest = before ++ value :: after ∧
        (∀ earlier ∈ before, fine earlier) ∧ wrong value) ↔
      wrong first ∨ fine first ∧ ∃ before value after, rest = before ++ value :: after ∧
        (∀ earlier ∈ before, fine earlier) ∧ wrong value := by
  constructor
  · rintro ⟨before, value, after, split, allFine, isWrong⟩
    cases before with
    | nil =>
        cases split
        exact .inl isWrong
    | cons earlier before =>
        cases split
        obtain ⟨firstFine, othersFine⟩ := List.forall_mem_cons.mp allFine
        exact .inr ⟨firstFine, before, value, after, rfl, othersFine, isWrong⟩
  · rintro (isWrong | ⟨firstFine, before, value, after, rfl, othersFine, isWrong⟩)
    · exact ⟨[], first, rest, rfl, List.forall_mem_nil _, isWrong⟩
    · exact ⟨first :: before, value, after, rfl,
        List.forall_mem_cons.mpr ⟨firstFine, othersFine⟩, isWrong⟩

theorem exists_first {wrong : α → Prop} (some : ∃ value ∈ values, wrong value) :
    ∃ before value after, values = before ++ value :: after ∧
      (∀ earlier ∈ before, ¬ wrong earlier) ∧ wrong value := by
  induction values with
  | nil => simp at some
  | cons first rest ih =>
      rw [exists_first_cons]
      by_cases here : wrong first
      · exact .inl here
      · rw [List.exists_mem_cons_iff] at some
        exact .inr ⟨here, ih (some.resolve_left here)⟩

theorem mapM_eq_error {failure : ε} :
    values.mapM step = .error failure ↔
      ∃ before value after, values = before ++ value :: after ∧
        (∀ earlier ∈ before, ∃ result, step earlier = .ok result) ∧
        step value = .error failure := by
  induction values with
  | nil =>
      rw [List.mapM_nil]
      exact iff_of_false nofun fun ⟨before, value, after, split, _⟩ => by simp at split
  | cons first rest ih =>
      rw [List.mapM_cons, exists_first_cons, ← ih]
      cases step first with
      | error other => simp
      | ok result => cases rest.mapM step <;> simp

end

namespace Reporting

variable {step : α → Reporting β} {verbosity : Verbosity} {values : List α}

theorem answer_forEach (step : α → Reporting β) (values : List α) (verbosity : Verbosity) :
    (forEach step values).answer verbosity =
      values.mapM fun value => (step value).answer verbosity := by
  induction values with
  | nil => rfl
  | cons first rest ih =>
      simp only [forEach, answer_bind, answer_pure, ih, List.mapM_cons]
      rfl

theorem forEach_eq_ok {results : List β} :
    (forEach step values).answer verbosity = .ok results ↔
      List.Forall₂ (fun value result => (step value).answer verbosity = .ok result)
        values results := by
  rw [answer_forEach, mapM_eq_ok]

theorem forEach_eq_error {failure : Failure} :
    (forEach step values).answer verbosity = .error failure ↔
      ∃ before value after, values = before ++ value :: after ∧
        (∀ earlier ∈ before, ∃ result, (step earlier).answer verbosity = .ok result) ∧
        (step value).answer verbosity = .error failure := by
  rw [answer_forEach, mapM_eq_error]

end Reporting

theorem Action.answer_forEach {step : α → Action β} (kept : ∀ value, (step value).KeepsDisk)
    (values : List α) (verbosity : Verbosity) (start : Disk) :
    (forEach step values).answer verbosity start =
      values.mapM fun value => (step value).answer verbosity start := by
  induction values with
  | nil => rfl
  | cons first rest ih =>
      simp only [forEach, answer_bind, answer_pure, kept first verbosity start, ih,
        List.mapM_cons]
      rfl

end Migration
