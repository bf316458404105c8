import Migration.Proofs.FileEdit
import Migration.Proofs.Lines

namespace Migration

/-! An editor commits the caller's decisions.

The caller asks for lines and replaces them in any order, past the end of the text too.  What
counts for a line is the last replacement after it was handed out and before anything else is
asked for, and nothing counts that comes before the first line or after the last.
-/

/-- What a caller does with an editor. -/
inductive EditStep where
  | next
  | replace (new : Text)
deriving DecidableEq, Repr

namespace EditStep

def asked (steps : List EditStep) : Nat :=
  steps.count .next

/-- The last replacement before a line is asked for. -/
def lastReplacement : List EditStep → Option Text
  | [] => none
  | .next :: _ => none
  | .replace new :: rest => (lastReplacement rest).or (some new)

/-- What is decided each time after a line was asked for. -/
def decisions : List EditStep → List (Option Text)
  | [] => []
  | .next :: rest => lastReplacement rest :: decisions rest
  | .replace _ :: rest => decisions rest

/-- What is answered each time a line is asked for: the lines in order, numbered from one, and then
nothing. -/
def handedOut (lines : List Text) (steps : List EditStep) : List (Option (Nat × Text)) :=
  (List.range (asked steps)).map fun index => lines[index]?.map fun line => (index + 1, line)

def ofDecisions (decided : List (Option Text)) : List EditStep :=
  decided.flatMap fun decision => .next :: decision.toList.map .replace

theorem lastReplacement_ofDecisions (decided : List (Option Text)) :
    lastReplacement (ofDecisions decided) = none := by
  cases decided with
  | nil => rfl
  | cons decision rest => rfl

theorem decisions_ofDecisions (decided : List (Option Text)) :
    decisions (ofDecisions decided) = decided := by
  induction decided with
  | nil => rfl
  | cons decision rest ih =>
      have follows := lastReplacement_ofDecisions rest
      rw [ofDecisions] at ih follows
      rw [ofDecisions, List.flatMap_cons]
      cases decision with
      | none => simp [decisions, ih, follows]
      | some new => simp [decisions, lastReplacement, ih, follows]

end EditStep

/-- Every line with what the decisions make of it: a line without a decision is kept. -/
def decidedLines (lines : List Text) (decided : List (Option Text)) : List (Text × Text) :=
  lines.mapIdx fun index line => (line, decided[index]?.join.getD line)

theorem decidedLines_nil (lines : List Text) :
    decidedLines lines [] = lines.map fun line => (line, line) :=
  List.ext_getElem (by simp [decidedLines]) (by simp [decidedLines])

theorem decidedLines_cons (line : Text) (lines : List Text) (decision : Option Text)
    (decided : List (Option Text)) :
    decidedLines (line :: lines) (decision :: decided) =
      (line, decision.getD line) :: decidedLines lines decided := by
  simp [decidedLines, List.mapIdx_cons]

def changedCount (decided : List (Text × Text)) : Nat :=
  decided.countP fun pair => pair.2 ≠ pair.1

theorem changedCount_kept (lines : List Text) :
    changedCount (lines.map fun line => (line, line)) = 0 := by
  simp [changedCount, List.countP_eq_zero]

theorem changedCount_append (first second : List (Text × Text)) :
    changedCount (first ++ second) = changedCount first + changedCount second :=
  List.countP_append

def decidedText (kind : FileKind) (trailer : List Text) (text : Text)
    (decided : List (Option Text)) : EditedText :=
  let pairs := decidedLines (Text.lines text) decided
  let body := (pairs.map (·.2)).flatten
  let newline := LineEditor.lastNewline (Text.lines text)
  let ending := (if body = [] ∨ body.getLast? = some '\n' then [] else newline) ++
    (trailer.map (· ++ newline)).flatten
  { text := if kind = .config ∧ trailer ≠ [] then body ++ ending else body
    lineCount := (Text.lines text).length
    changed := changedCount pairs
    appended := kind = .config ∧ trailer ≠ [] }

namespace LineEditor

def run : LineEditor → List EditStep → LineEditor
  | editor, [] => editor
  | editor, .next :: rest => run editor.next.1 rest
  | editor, .replace new :: rest => run (editor.replace new) rest

def answers : LineEditor → List EditStep → List (Option (Nat × Text))
  | _, [] => []
  | editor, .next :: rest => editor.next.2 :: answers editor.next.1 rest
  | editor, .replace new :: rest => answers (editor.replace new) rest

theorem run_ofDecisions_none (editor : LineEditor) (decided : List (Option Text)) :
    editor.run (EditStep.ofDecisions (none :: decided)) =
      editor.next.1.run (EditStep.ofDecisions decided) := rfl

theorem run_ofDecisions_some (editor : LineEditor) (new : Text) (decided : List (Option Text)) :
    editor.run (EditStep.ofDecisions (some new :: decided)) =
      (editor.next.1.replace new).run (EditStep.ofDecisions decided) := rfl

/-- No decision is kept without the line it is about. -/
def Settled (editor : LineEditor) : Prop :=
  editor.pending = none → editor.decision = none

/-- The pending line with what the decisions so far and the coming replacement make of it. -/
def held (editor : LineEditor) (replacement : Option Text) : List (Text × Text) :=
  editor.pending.toList.map fun line => (line, (replacement.or editor.decision).getD line)

theorem held_replace {editor : LineEditor} {line : Text} (pending : editor.pending = some line)
    (new : Text) (replacement : Option Text) :
    (editor.replace new).held replacement = editor.held (replacement.or (some new)) := by
  simp [held, replace, pending]

theorem replace_of_none {editor : LineEditor} (nothing : editor.pending = none) (new : Text) :
    editor.replace new = editor := by
  simp [replace, nothing]

theorem Settled.replace {editor : LineEditor} (settled : editor.Settled) (new : Text) :
    (editor.replace new).Settled := by
  cases pending : editor.pending with
  | none => rwa [replace_of_none pending]
  | some line => simp [Settled, LineEditor.replace, pending]

theorem commit_eq {editor : LineEditor} (settled : editor.Settled) :
    editor.commit = { editor with
      pending := none
      decision := none
      done := ((editor.held none).map (·.2)).reverse ++ editor.done
      changed := editor.changed + changedCount (editor.held none) } := by
  cases pending : editor.pending with
  | none =>
      have undecided := settled pending
      cases editor
      simp_all [commit, held, changedCount]
  | some line =>
      cases decision : editor.decision with
      | none => simp [commit, pending, decision, held, changedCount]
      | some new =>
          by_cases same : new = line <;> simp [commit, pending, decision, held, changedCount, same]

theorem commit_settled {editor : LineEditor} (settled : editor.Settled) :
    editor.commit.Settled := by
  rw [commit_eq settled]
  exact fun _ => rfl

theorem next_of_nil {editor : LineEditor} (settled : editor.Settled)
    (nothing : editor.upcoming = []) : editor.next = (editor.commit, none) := by
  simp [next, commit_eq settled, nothing]

theorem next_of_cons {editor : LineEditor} (settled : editor.Settled) {line : Text}
    {rest : List Text} (upcoming : editor.upcoming = line :: rest) :
    editor.next = ({ editor.commit with upcoming := rest, pending := some line },
      some (editor.lineCount - rest.length, line)) := by
  simp [next, commit_eq settled, upcoming]

theorem Settled.next {editor : LineEditor} (settled : editor.Settled) :
    editor.next.1.Settled := by
  cases upcoming : editor.upcoming with
  | nil =>
      rw [next_of_nil settled upcoming]
      exact commit_settled settled
  | cons line rest =>
      rw [next_of_cons settled upcoming]
      intro pending
      cases pending

theorem exists_next_of_cons {editor : LineEditor} (settled : editor.Settled) {line : Text}
    {rest : List Text} (upcoming : editor.upcoming = line :: rest) :
    ∃ after, editor.next = (after, some (editor.lineCount - rest.length, line)) ∧
      after.upcoming = rest ∧ after.pending = some line ∧
      after.lineCount = editor.lineCount ∧ after.Settled := by
  have next := next_of_cons settled upcoming
  have counted : editor.commit.lineCount = editor.lineCount := by rw [commit_eq settled]
  refine ⟨_, next, rfl, rfl, counted, ?_⟩
  intro nothing
  cases nothing

/-- What the editing makes of the lines, and how many it changes. -/
def ended (editor : LineEditor) : List Text × Nat :=
  (editor.commit.done.reverse ++ editor.commit.upcoming, editor.commit.changed)

/-- The lines done, the pending line and the upcoming lines go through the steps in order. -/
theorem ended_run {editor : LineEditor} (settled : editor.Settled) (steps : List EditStep) :
    (editor.run steps).ended =
      let pairs := editor.held (EditStep.lastReplacement steps) ++
        decidedLines editor.upcoming (EditStep.decisions steps)
      (editor.done.reverse ++ pairs.map (·.2), editor.changed + changedCount pairs) := by
  induction steps generalizing editor with
  | nil =>
      rw [run, ended, commit_eq settled, EditStep.lastReplacement, EditStep.decisions,
        decidedLines_nil]
      simp [changedCount_append, changedCount_kept, Function.comp_def]
  | cons step steps ih =>
      cases step with
      | replace new =>
          rw [run, ih (settled.replace new), EditStep.lastReplacement, EditStep.decisions]
          cases pending : editor.pending with
          | none => simp [replace_of_none pending, held, pending]
          | some line =>
              rw [held_replace pending]
              simp [replace, pending]
      | next =>
          rw [run, ih settled.next, EditStep.lastReplacement, EditStep.decisions]
          cases upcoming : editor.upcoming with
          | nil =>
              rw [next_of_nil settled upcoming, commit_eq settled]
              simp [held, upcoming, decidedLines, changedCount]
          | cons line rest =>
              rw [next_of_cons settled upcoming, commit_eq settled, decidedLines_cons]
              simp [held, changedCount, List.countP_cons, Nat.add_assoc, Nat.add_comm]

def fixed (editor : LineEditor) : List Text × Text × Nat :=
  (editor.trailer, editor.newline, editor.lineCount)

theorem fixed_commit (editor : LineEditor) : editor.commit.fixed = editor.fixed := by
  unfold commit
  split
  · rfl
  · split <;> rfl

theorem fixed_next (editor : LineEditor) : editor.next.1.fixed = editor.fixed := by
  rw [← fixed_commit editor, next]
  split <;> rfl

theorem fixed_replace (editor : LineEditor) (new : Text) :
    (editor.replace new).fixed = editor.fixed := by
  rw [replace]
  split <;> rfl

theorem fixed_run (editor : LineEditor) (steps : List EditStep) :
    (editor.run steps).fixed = editor.fixed := by
  induction steps generalizing editor with
  | nil => rfl
  | cons step steps ih =>
      cases step with
      | next => rw [run, ih, fixed_next]
      | replace new => rw [run, ih, fixed_replace]

@[simp] theorem upcoming_ofText (kind : FileKind) (trailer : List Text) (text : Text) :
    (ofText kind trailer text).upcoming = Text.lines text := rfl

theorem ofText_settled (kind : FileKind) (trailer : List Text) (text : Text) :
    (ofText kind trailer text).Settled :=
  fun _ => rfl

theorem answers_eq {editor : LineEditor} (settled : editor.Settled) (handed : Nat)
    (counted : editor.lineCount = handed + editor.upcoming.length) (steps : List EditStep) :
    editor.answers steps = (List.range (EditStep.asked steps)).map fun index =>
      editor.upcoming[index]?.map fun line => (handed + index + 1, line) := by
  induction steps generalizing editor handed with
  | nil => rfl
  | cons step steps ih =>
      cases step with
      | replace new =>
          have same : (editor.replace new).upcoming = editor.upcoming ∧
              (editor.replace new).lineCount = editor.lineCount := by
            rw [replace]
            split <;> exact ⟨rfl, rfl⟩
          rw [answers, ih (settled.replace new) handed (by rw [same.1, same.2, counted]), same.1]
          rfl
      | next =>
          have more : EditStep.asked (.next :: steps) = EditStep.asked steps + 1 :=
            List.count_cons_self
          rw [answers, more, List.range_succ_eq_map, List.map_cons, List.map_map]
          cases upcoming : editor.upcoming with
          | nil =>
              rw [upcoming] at counted
              rw [ih settled.next handed (by
                rw [next_of_nil settled upcoming, commit_eq settled, upcoming, counted]),
                next_of_nil settled upcoming, commit_eq settled]
              refine congrArg (none :: ·) (List.map_congr_left fun index _ => ?_)
              simp [upcoming]
          | cons line rest =>
              rw [upcoming, List.length_cons] at counted
              rw [ih settled.next (handed + 1) (by
                rw [next_of_cons settled upcoming, commit_eq settled]
                simp only [counted]
                omega), next_of_cons settled upcoming, commit_eq settled]
              have number : editor.lineCount - rest.length = handed + 1 := by omega
              have numbers : ∀ index, handed + 1 + index + 1 = handed + (index + 1) + 1 := by omega
              simp [number, numbers]

theorem finish_run (kind : FileKind) (trailer : List Text) (text : Text)
    (steps : List EditStep) :
    ((ofText kind trailer text).run steps).finish =
      decidedText kind trailer text (EditStep.decisions steps) := by
  have fixed := (fixed_commit _).trans (fixed_run (ofText kind trailer text) steps)
  obtain ⟨sameTrailer, same⟩ := Prod.mk.inj fixed
  obtain ⟨sameNewline, sameCount⟩ := Prod.mk.inj same
  have ended := ended_run (ofText_settled kind trailer text) steps
  obtain ⟨lines, changed⟩ := Prod.mk.inj ended
  have body : (((ofText kind trailer text).run steps).commit.done.reverse ++
      ((ofText kind trailer text).run steps).commit.upcoming).flatten =
      ((decidedLines (Text.lines text) (EditStep.decisions steps)).map (·.2)).flatten :=
    congrArg List.flatten lines
  simp only [finish, ending, body, changed, sameTrailer, sameNewline, sameCount]
  simp only [ofText, decidedText, newlineOf_eq_lastNewline, held, Option.toList_none, List.map_nil,
    List.nil_append, Nat.zero_add, Bool.or_eq_true, decide_eq_true_eq]
  by_cases config : kind = .config
  · by_cases nothing : trailer = [] <;> simp [config, nothing, List.flatMap_def]
  · simp [config]

end LineEditor

namespace FileEdit

/-- A file is opened, edited step by step, and finished; what was handed out comes with what is
reported of the file. -/
def session (file : TreeFile) (options : EditOptions) (steps : List EditStep) :
    Action (List (Option (Nat × Text)) × FileOutcome) := do
  let editor ← FileEdit.open file options
  let outcome ← finish file options.mode (editor.run steps)
  return (editor.answers steps, outcome)

variable {file : TreeFile} {options : EditOptions} {verbosity : Verbosity} {disk : Disk}

theorem answers_ofText (kind : FileKind) (trailer : List Text) (text : Text)
    (steps : List EditStep) :
    (LineEditor.ofText kind trailer text).answers steps =
      EditStep.handedOut (Text.lines text) steps := by
  have counted : (LineEditor.ofText kind trailer text).lineCount =
      0 + (LineEditor.ofText kind trailer text).upcoming.length :=
    (Nat.zero_add _).symm
  simpa [EditStep.handedOut] using
    LineEditor.answers_eq (LineEditor.ofText_settled kind trailer text) 0 counted steps

theorem session_of_readText {text : Text} (read : disk.readText file.path = .ok text)
    (steps : List EditStep) :
    let ending := finish file options.mode
      ((LineEditor.ofText file.kind options.trailer text).run steps)
    (session file options steps).answer verbosity disk =
        (ending.answer verbosity disk).map (EditStep.handedOut (Text.lines text) steps, ·) ∧
      (session file options steps).after verbosity disk = ending.after verbosity disk := by
  have opened : (FileEdit.open file options).answer verbosity disk =
      .ok (LineEditor.ofText file.kind options.trailer text) := by
    rw [answer_open, read]
    rfl
  have kept : (FileEdit.open file options).after verbosity disk = disk :=
    open_keepsDisk options verbosity disk
  simp only [session, Action.answer_bind, Action.after_bind, opened, kept, ok_bind,
    Action.answer_pure, Action.after_pure, answers_ofText]
  cases (finish file options.mode ((LineEditor.ofText file.kind options.trailer text).run
    steps)).answer verbosity disk <;> exact ⟨rfl, rfl⟩

theorem session_yields {text : Text} (read : disk.readText file.path = .ok text)
    {steps : List EditStep} {outcome : FileOutcome} {final : Disk}
    (ended : (finish file options.mode
      ((LineEditor.ofText file.kind options.trailer text).run steps)).Yields verbosity disk outcome
      final) :
    (session file options steps).Yields verbosity disk
      (EditStep.handedOut (Text.lines text) steps, outcome) final := by
  obtain ⟨answered, kept⟩ := @session_of_readText file options verbosity disk text read steps
  refine ⟨?_, kept.trans ended.2⟩
  rw [answered, ended.1]
  rfl

theorem finish_apply_publishes {editor : LineEditor}
    (changed : (FileOutcome.ofEdited file editor.finish).isChange = true) :
    (finish file .apply editor).answer verbosity disk =
        ((Publication.publish file.path editor.finish.text).answer verbosity disk).map
          (fun _ => { FileOutcome.ofEdited file editor.finish with written := true }) ∧
      (finish file .apply editor).after verbosity disk =
        (Publication.publish file.path editor.finish.text).after verbosity disk := by
  rw [FileOutcome.ofEdited] at changed
  simp only [finish, changed, if_true, Action.answer_bind, Action.after_bind, Action.answer_lift,
    Action.after_lift, Reporting.answer_info, ok_bind, Action.answer_pure, Action.after_pure]
  cases (Publication.publish file.path editor.finish.text).answer verbosity disk <;>
    exact ⟨rfl, rfl⟩

/-- The decisions on lines, the first of which has the given number, up to a failure. -/
def decideAll (decide : Nat → Text → Reporting (Option Text)) (verbosity : Verbosity) :
    Nat → List Text → Except Failure (List (Option Text))
  | _, [] => .ok []
  | number, line :: rest => do
      let decision ← (decide number line).answer verbosity
      let decisions ← decideAll decide verbosity (number + 1) rest
      return decision :: decisions

/-- Deciding on the lines one after the other is a run of the editor. -/
theorem answer_decideLines (decide : Nat → Text → Reporting (Option Text)) (verbosity : Verbosity)
    (lines : List Text) {editor : LineEditor} (settled : editor.Settled) (handed : Nat)
    (upcoming : editor.upcoming = lines) (counted : editor.lineCount = handed + lines.length) :
    (decideLines decide lines editor).answer verbosity =
      (decideAll decide verbosity (handed + 1) lines).map fun decided =>
        editor.run (EditStep.ofDecisions decided) := by
  induction lines generalizing editor handed with
  | nil => rfl
  | cons line rest ih =>
      rw [List.length_cons] at counted
      obtain ⟨after, next, left, waiting, afterCounted, afterSettled⟩ :=
        LineEditor.exists_next_of_cons settled upcoming
      have number : editor.lineCount - rest.length = handed + 1 := by omega
      have stillCounted : after.lineCount = handed + 1 + rest.length := by omega
      rw [decideLines, next, number]
      simp only [Reporting.answer_bind, decideAll]
      cases (decide (handed + 1) line).answer verbosity with
      | error failure => rfl
      | ok decision =>
          rw [ok_bind, ok_bind]
          cases decision with
          | none =>
              rw [ih afterSettled (handed + 1) left stillCounted]
              cases decideAll decide verbosity (handed + 1 + 1) rest with
              | error failure => rfl
              | ok decisions =>
                  have same : after.run (EditStep.ofDecisions decisions) =
                      editor.run (EditStep.ofDecisions (none :: decisions)) := by
                    rw [LineEditor.run_ofDecisions_none, next]
                  exact congrArg Except.ok same
          | some new =>
              have replaced : after.replace new = { after with decision := some new } := by
                rw [LineEditor.replace, waiting]
                rfl
              rw [ih (afterSettled.replace new) (handed + 1) (by rw [replaced, left])
                (by rw [replaced, stillCounted])]
              cases decideAll decide verbosity (handed + 1 + 1) rest with
              | error failure => rfl
              | ok decisions =>
                  have same : (after.replace new).run (EditStep.ofDecisions decisions) =
                      editor.run (EditStep.ofDecisions (some new :: decisions)) := by
                    rw [LineEditor.run_ofDecisions_some, next]
                  exact congrArg Except.ok same

theorem editText_eq (known : Correspondences) (trailer : List Text) (file : TreeFile)
    (verbosity : Verbosity) (text : Text) :
    editText known trailer file verbosity text =
      (decideAll (decideLine known file) verbosity 1 (Text.lines text)).map
        (decidedText file.kind trailer text) := by
  rw [editText, answer_decideLines (decideLine known file) verbosity (Text.lines text)
    (LineEditor.ofText_settled file.kind trailer text) 0 rfl (Nat.zero_add _).symm]
  cases decideAll (decideLine known file) verbosity 1 (Text.lines text) with
  | error failure => rfl
  | ok decided =>
      refine congrArg Except.ok ?_
      rw [LineEditor.finish_run, EditStep.decisions_ofDecisions]

/-- Lines are handed out in order and numbered from one.  The new text is made of the last
decision on each line that was handed out and of the other lines as they are; a preview reports
it, and otherwise it is published if it is a change. -/
theorem session_commits_decisions {text : Text} (read : disk.readText file.path = .ok text)
    (options : EditOptions) (steps : List EditStep) (verbosity : Verbosity) :
    let handedOut := EditStep.handedOut (Text.lines text) steps
    let decided := decidedText file.kind options.trailer text (EditStep.decisions steps)
    let previewed := FileOutcome.preview file decided
    Text.IsCut text (Text.lines text) ∧
      (options.mode = .preview →
        (session file options steps).Yields verbosity disk (handedOut, previewed) disk) ∧
      (options.mode = .apply → previewed.isChange = false →
        (session file options steps).Yields verbosity disk (handedOut, previewed.published) disk) ∧
      (options.mode = .apply → previewed.isChange = true →
        (session file options steps).answer verbosity disk =
            ((Publication.publish file.path decided.text).answer verbosity disk).map
              (fun _ => (handedOut, previewed.published)) ∧
          (session file options steps).after verbosity disk =
            (Publication.publish file.path decided.text).after verbosity disk ∧
          (disk.WellFormed → (∀ call, disk.refused call = none) →
            Publication.StagingClear disk file.path →
            ∃ location, disk.resolve file.path = .ok location ∧
              (session file options steps).Yields verbosity disk (handedOut, previewed.published)
                (disk.setFile location (Utf8.encode decided.text)))) := by
  obtain ⟨mode, trailer⟩ := options
  have finished := LineEditor.finish_run file.kind trailer text steps
  refine ⟨Text.lines_isCut text, ?_, ?_, ?_⟩
  · rintro rfl
    rw [← finished]
    exact session_yields read (finish_preview_yields _)
  · rintro rfl unchanged
    rw [FileOutcome.published_preview unchanged]
    rw [← finished] at unchanged ⊢
    exact session_yields read (finish_apply_unchanged unchanged)
  · rintro rfl changed
    obtain ⟨answered, ended⟩ :=
      @session_of_readText file { mode := .apply, trailer } verbosity disk text read steps
    rw [FileOutcome.published_preview changed]
    rw [← finished] at changed ⊢
    obtain ⟨publishes, leaves⟩ := @finish_apply_publishes file verbosity disk _ changed
    refine ⟨?_, ended.trans leaves, ?_⟩
    · rw [answered, publishes]
      cases (Publication.publish file.path _).answer verbosity disk <;> rfl
    · intro formed granted clear
      obtain ⟨location, content, resolved, present, _⟩ := Disk.file_of_readText read
      exact ⟨location, resolved, session_yields read (finish_apply_changed changed
        (Publication.publish_yields formed granted clear resolved present))⟩

def sampleConfig : Disk where
  root := .folder [("c".toList, .file (Utf8.encode "a\r\nb".toList))]
  workingFolder := []

/-- Replacements before the first line and after the last one are lost, and the first of two is. -/
def sampleSteps : List EditStep :=
  [.replace "x".toList, .next, .replace "y".toList, .replace "z\r\n".toList, .next, .next,
    .replace "w".toList]

theorem sampleSession_commits_decisions :
    sampleConfig.readText "c".toList = .ok "a\r\nb".toList ∧
      (session ⟨"c".toList, .config⟩ { mode := .preview, trailer := ["t".toList] }
        sampleSteps).Yields .quiet sampleConfig
        ([some (1, "a\r\n".toList), some (2, "b".toList), none],
          { path := "c".toList, kind := .config, lines := 2, changedLines := 1, appended := true,
            written := false, output := some "z\r\nb\r\nt\r\n".toList })
        sampleConfig := by
  have read : sampleConfig.readText "c".toList = .ok "a\r\nb".toList := rfl
  obtain ⟨_, yields, _⟩ := @session_commits_decisions ⟨"c".toList, .config⟩ sampleConfig _ read
    { mode := .preview, trailer := ["t".toList] } sampleSteps .quiet
  have ended := yields rfl
  have handedOut : EditStep.handedOut (Text.lines "a\r\nb".toList) sampleSteps =
      [some (1, "a\r\n".toList), some (2, "b".toList), none] := by decide
  have reported : FileOutcome.preview ⟨"c".toList, .config⟩
      (decidedText .config ["t".toList] "a\r\nb".toList (EditStep.decisions sampleSteps)) =
      { path := "c".toList, kind := .config, lines := 2, changedLines := 1, appended := true,
        written := false, output := some "z\r\nb\r\nt\r\n".toList } := by decide
  rw [handedOut] at ended
  dsimp only at ended
  rw [reported] at ended
  exact ⟨read, ended⟩

end FileEdit

end Migration
