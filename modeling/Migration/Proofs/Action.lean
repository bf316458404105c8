import Migration.Disk.Action

namespace Migration

/-! What computations answer and what they leave behind.

A computation is described by its `answer` and, where it has a disk to work on, by the disk `after`
it.  Both of a sequence are those of its parts put together, so that nobody has to look at the
diagnostics to know what a computation does.
-/

@[simp] theorem ok_bind (value : α) (next : α → Except ε β) :
    (Except.ok value >>= next) = next value := rfl

@[simp] theorem error_bind (failure : ε) (next : α → Except ε β) :
    (Except.error failure >>= next) = .error failure := rfl

theorem bind_eq_ok {first : Except ε α} {next : α → Except ε β} {result : β} :
    first >>= next = .ok result ↔ ∃ value, first = .ok value ∧ next value = .ok result := by
  cases first with
  | ok value =>
      constructor
      · intro ended
        exact ⟨value, rfl, ended⟩
      · rintro ⟨_, began, ended⟩
        cases began
        exact ended
  | error failure => simp

theorem ok_of_toOption {outcome : Except ε α} {value : α} (found : outcome.toOption = some value) :
    outcome = .ok value := by
  cases outcome with
  | ok other => exact congrArg Except.ok (Option.some.inj found)
  | error reason => cases found

theorem error_of_toOption {outcome : Except ε α} (missing : outcome.toOption = none) :
    ∃ reason, outcome = .error reason := by
  cases outcome with
  | ok value => cases missing
  | error reason => exact ⟨reason, rfl⟩

namespace Reporting

variable {verbosity : Verbosity}

def answer (computation : Reporting α) (verbosity : Verbosity) : Except Failure α :=
  (computation.run verbosity).1

@[simp] theorem answer_pure (value : α) :
    (pure value : Reporting α).answer verbosity = .ok value := rfl

@[simp] theorem answer_bind (first : Reporting α) (next : α → Reporting β) :
    (first >>= next).answer verbosity =
      first.answer verbosity >>= fun value => (next value).answer verbosity := by
  rcases ran : first verbosity with ⟨outcome, entries⟩
  cases outcome <;> simp only [answer, run, bind, ran] <;> rfl

@[simp] theorem answer_fail (failure : Failure) :
    (fail failure : Reporting α).answer verbosity = .error failure := rfl

@[simp] theorem answer_ofExcept (outcome : Except Failure α) :
    (ofExcept outcome).answer verbosity = outcome := by
  cases outcome <;> rfl

@[simp] theorem answer_emit (level : Verbosity) (message : String) :
    (emit level message).answer verbosity = .ok () := rfl

@[simp] theorem answer_info (message : String) : (info message).answer verbosity = .ok () := rfl

@[simp] theorem answer_debug (message : String) : (debug message).answer verbosity = .ok () := rfl

@[simp] theorem answer_raw (message : String) : (raw message).answer verbosity = .ok () := rfl

@[simp] theorem answer_mapFailure (change : Failure → Failure) (computation : Reporting α) :
    (computation.mapFailure change).answer verbosity =
      (computation.answer verbosity).mapError change := by
  unfold answer run mapFailure
  rcases computation verbosity with ⟨outcome, entries⟩
  cases outcome <;> rfl

end Reporting

namespace Action

variable {verbosity : Verbosity} {start : Disk}

def answer (action : Action α) (verbosity : Verbosity) (start : Disk) : Except Failure α :=
  (action.run verbosity start).1

def after (action : Action α) (verbosity : Verbosity) (start : Disk) : Disk :=
  (action.run verbosity start).2.1

@[simp] theorem answer_pure (value : α) :
    (pure value : Action α).answer verbosity start = .ok value := rfl

@[simp] theorem after_pure (value : α) :
    (pure value : Action α).after verbosity start = start := rfl

theorem answer_bind (first : Action α) (next : α → Action β) :
    (first >>= next).answer verbosity start =
      first.answer verbosity start >>= fun value =>
        (next value).answer verbosity (first.after verbosity start) := by
  rcases ran : first verbosity start with ⟨outcome, disk, entries⟩
  cases outcome <;> simp only [answer, after, run, bind, ran] <;> rfl

theorem after_bind (first : Action α) (next : α → Action β) :
    (first >>= next).after verbosity start =
      match first.answer verbosity start with
      | .ok value => (next value).after verbosity (first.after verbosity start)
      | .error _ => first.after verbosity start := by
  rcases ran : first verbosity start with ⟨outcome, disk, entries⟩
  cases outcome <;> simp only [answer, after, run, bind, ran]

@[simp] theorem answer_lift (computation : Reporting α) :
    (liftM computation : Action α).answer verbosity start = computation.answer verbosity := rfl

@[simp] theorem after_lift (computation : Reporting α) :
    (liftM computation : Action α).after verbosity start = start := rfl

@[simp] theorem answer_disk : disk.answer verbosity start = .ok start := rfl

@[simp] theorem after_disk : disk.after verbosity start = start := rfl

@[simp] theorem answer_setDisk (new : Disk) :
    (setDisk new).answer verbosity start = .ok () := rfl

@[simp] theorem after_setDisk (new : Disk) : (setDisk new).after verbosity start = new := rfl

@[simp] theorem answer_fail (failure : Failure) :
    (fail failure : Action α).answer verbosity start = .error failure := rfl

@[simp] theorem after_fail (failure : Failure) :
    (fail failure : Action α).after verbosity start = start := rfl

@[simp] theorem answer_ofExcept (outcome : Except Failure α) :
    (ofExcept outcome).answer verbosity start = outcome := by
  cases outcome <;> rfl

@[simp] theorem after_ofExcept (outcome : Except Failure α) :
    (ofExcept outcome).after verbosity start = start := by
  cases outcome <;> rfl

theorem bind_of_ok {first : Action α} {next : α → Action β} {value : α}
    (answered : first.answer verbosity start = .ok value) :
    (first >>= next).answer verbosity start =
        (next value).answer verbosity (first.after verbosity start) ∧
      (first >>= next).after verbosity start =
        (next value).after verbosity (first.after verbosity start) := by
  rw [answer_bind, after_bind, answered]
  exact ⟨rfl, rfl⟩

theorem bind_of_error {first : Action α} {next : α → Action β} {failure : Failure}
    (answered : first.answer verbosity start = .error failure) :
    (first >>= next).answer verbosity start = .error failure ∧
      (first >>= next).after verbosity start = first.after verbosity start := by
  rw [answer_bind, after_bind, answered]
  exact ⟨rfl, rfl⟩

/-- The action answers `value` and leaves `final` behind. -/
def Yields (action : Action α) (verbosity : Verbosity) (start : Disk) (value : α) (final : Disk) :
    Prop :=
  action.answer verbosity start = .ok value ∧ action.after verbosity start = final

theorem Yields.bind {first : Action α} {next : α → Action β} {value : α} {result : β}
    {middle final : Disk} (began : first.Yields verbosity start value middle)
    (ended : (next value).Yields verbosity middle result final) :
    (first >>= next).Yields verbosity start result final := by
  obtain ⟨answered, rfl⟩ := began
  obtain ⟨answer, left⟩ := @bind_of_ok _ _ _ _ first next _ answered
  exact ⟨answer.trans ended.1, left.trans ended.2⟩

theorem answer_forEach_cons (step : α → Action β) (first : α) (rest : List α) :
    (forEach step (first :: rest)).answer verbosity start =
      (step first).answer verbosity start >>= fun value =>
        ((forEach step rest).answer verbosity ((step first).after verbosity start)).map
          (value :: ·) := by
  simp only [forEach, answer_bind, answer_pure]
  cases (step first).answer verbosity start with
  | error failure => rfl
  | ok value => cases (forEach step rest).answer verbosity _ <;> rfl

theorem after_forEach_cons (step : α → Action β) (first : α) (rest : List α) :
    (forEach step (first :: rest)).after verbosity start =
      match (step first).answer verbosity start with
      | .ok _ => (forEach step rest).after verbosity ((step first).after verbosity start)
      | .error _ => (step first).after verbosity start := by
  simp only [forEach, after_bind, after_pure]
  cases (step first).answer verbosity start with
  | error failure => rfl
  | ok value => cases (forEach step rest).answer verbosity _ <;> rfl

/-! Computations that only look at the disk. -/

def KeepsDisk (action : Action α) : Prop :=
  ∀ verbosity start, action.after verbosity start = start

theorem KeepsDisk.pure (value : α) : KeepsDisk (pure value : Action α) :=
  fun _ _ => rfl

theorem KeepsDisk.bind {first : Action α} {next : α → Action β}
    (kept : first.KeepsDisk) (keptNext : ∀ value, (next value).KeepsDisk) :
    (first >>= next).KeepsDisk := by
  intro verbosity start
  rw [after_bind, kept verbosity start]
  cases first.answer verbosity start with
  | ok value => exact keptNext value verbosity start
  | error failure => rfl

theorem KeepsDisk.lift (computation : Reporting α) :
    (liftM computation : Action α).KeepsDisk :=
  fun _ _ => rfl

theorem KeepsDisk.disk : Action.disk.KeepsDisk :=
  fun _ _ => rfl

theorem KeepsDisk.fail (failure : Failure) : (Action.fail failure : Action α).KeepsDisk :=
  fun _ _ => rfl

theorem KeepsDisk.ofExcept (outcome : Except Failure α) : (Action.ofExcept outcome).KeepsDisk :=
  fun _ _ => after_ofExcept outcome

theorem KeepsDisk.forEach {step : α → Action β} (kept : ∀ value, (step value).KeepsDisk)
    (values : List α) : (Action.forEach step values).KeepsDisk := by
  induction values with
  | nil => exact .pure []
  | cons first rest ih => exact (kept first).bind fun _ => ih.bind fun _ => .pure _

end Action

end Migration
