import Migration.Proofs.BuildLine
import Migration.Proofs.NameTables
import Migration.Proofs.Sequences
import Migration.Proofs.Trimmed

namespace Migration

/-! Which rows of the artifact table are rules.

A row says what its cells say field by field, where a field is what stands between two colons
without the white space around it.  However many fields there are, the old coordinate needs a group
and a module, and the new one a group, a module and a version, which is its last field.  The first
row that lacks one of them refuses the table.
-/

namespace Coordinate

/-- What an old coordinate is made of: a group, a module and further fields. -/
structure IsSource (cell group module : Text) (rest : List Text) : Prop where
  fields : Text.fields ':' cell = group :: module :: rest
  groupSome : ¬ group.Blank
  moduleSome : ¬ module.Blank

/-- What a new coordinate is made of: a group and a module in front, and a version at the end. -/
structure IsTarget (cell group module version : Text) : Prop where
  fields : ∃ middle, Text.fields ':' cell = group :: module :: (middle ++ [version])
  groupSome : ¬ group.Blank
  moduleSome : ¬ module.Blank
  versionSome : ¬ version.Blank

theorem trimmedFields_trim (cell : Text) : trimmedFields (Text.trim cell) = trimmedFields cell :=
  Text.map_trim_fields_trim (by decide) cell

variable {cell : Text}

theorem ofSource_eq_ok {source : Coordinate} :
    ofSource cell = .ok source ↔ ∃ group module rest, IsSource cell group module rest ∧
      source = ⟨Text.trim group, Text.trim module,
        if rest = [] then none else some ([':'].intercalate (rest.map Text.trim))⟩ := by
  rw [ofSource, trimmedFields_trim]
  constructor
  · intro parsed
    split at parsed
    · next trimmed =>
        obtain ⟨group, others, fields, rfl, behind⟩ := List.map_eq_cons_iff.mp trimmed
        obtain ⟨module, rest, rfl, rfl, rfl⟩ := List.map_eq_cons_iff.mp behind
        split at parsed
        · cases parsed
        · next some =>
            cases parsed
            simp only [Bool.or_eq_true, List.isEmpty_iff, not_or, Text.trim_eq_nil_iff] at some
            exact ⟨group, module, rest, ⟨fields, some.1, some.2⟩, by simp⟩
    · cases parsed
  · rintro ⟨group, module, rest, ⟨fields, groupSome, moduleSome⟩, rfl⟩
    rw [← Text.trim_eq_nil_iff] at groupSome moduleSome
    rw [trimmedFields, fields]
    simp [groupSome, moduleSome]

/-- The fields of a new coordinate are those in front of its last colon and the version. -/
theorem trimmedFields_of_cut {front last : Text} (cut : Text.trim cell = front ++ ':' :: last)
    (absent : ':' ∉ last) :
    trimmedFields cell = trimmedFields (Text.trim front) ++ [Text.trim last] := by
  rw [← trimmedFields_trim cell, trimmedFields_trim front, trimmedFields, trimmedFields, cut,
    Text.fields_append, Text.fields_of_not_mem absent, List.map_append]
  rfl

theorem exists_ofTarget {target : Coordinate} :
    (∃ artifact, ofTarget cell = .ok (target, artifact)) ↔
      ∃ group module version, IsTarget cell group module version ∧
        target = ⟨Text.trim group, Text.trim module, some (Text.trim version)⟩ := by
  constructor
  · rintro ⟨artifact, parsed⟩
    obtain ⟨⟨front, last, cut, absent, lastSome, rfl, versionIs⟩, ⟨rest, names⟩, groupSome,
      moduleSome⟩ := ofTarget_eq_ok.mp parsed
    have trimmed := trimmedFields_of_cut cut absent
    rw [names, List.cons_append, List.cons_append] at trimmed
    obtain ⟨group, others, fields, groupIs, behind⟩ := List.map_eq_cons_iff.mp trimmed
    obtain ⟨module, others, rfl, moduleIs, further⟩ := List.map_eq_cons_iff.mp behind
    obtain ⟨middle, ending, rfl, _, ends⟩ := List.map_eq_append_iff.mp further
    obtain ⟨version, rfl, versionSame⟩ := List.map_eq_singleton_iff.mp ends
    rw [← groupIs, ne_eq, Text.trim_eq_nil_iff] at groupSome
    rw [← moduleIs, ne_eq, Text.trim_eq_nil_iff] at moduleSome
    rw [← Text.trim_eq_nil_iff, ← versionSame, Text.trim_eq_nil_iff] at lastSome
    refine ⟨group, module, version, ⟨⟨middle, fields⟩, groupSome, moduleSome, lastSome⟩, ?_⟩
    rw [groupIs, moduleIs, versionSame, ← versionIs]
  · rintro ⟨group, module, version, ⟨⟨middle, fields⟩, groupSome, moduleSome, versionSome⟩, rfl⟩
    have trimmed : trimmedFields cell = Text.trim group :: Text.trim module ::
        (middle.map Text.trim ++ [Text.trim version]) := by
      rw [trimmedFields, fields]
      simp
    cases split : Text.splitLast ':' (Text.trim cell) with
    | none =>
        have single := Text.fields_of_not_mem (Text.not_mem_of_splitLast_eq_none split)
        rw [← trimmedFields_trim, trimmedFields, single] at trimmed
        simp at trimmed
    | some pieces =>
        obtain ⟨front, last⟩ := pieces
        obtain ⟨cut, absent⟩ := Text.splitLast_eq_some.mp split
        rw [trimmedFields_of_cut cut absent, ← List.cons_append, ← List.cons_append] at trimmed
        obtain ⟨names, versionIs⟩ := List.append_inj' trimmed rfl
        obtain versionIs := List.singleton_inj.mp versionIs
        rw [← Text.trim_eq_nil_iff] at groupSome moduleSome versionSome
        rw [← versionIs, Text.trim_eq_nil_iff] at versionSome
        exact ⟨Text.trim front, ofTarget_eq_ok.mpr
          ⟨⟨front, last, cut, absent, versionSome, rfl, by rw [versionIs]⟩, ⟨_, names⟩, groupSome,
            moduleSome⟩⟩

end Coordinate

open Coordinate (IsSource IsTarget)

/-- Both cells of the row have the fields they need. -/
def Row.IsWellFormed (row : Row) : Prop :=
  (∃ group module rest, IsSource row.old group module rest) ∧
    ∃ group module version, IsTarget row.new group module version

/-- The search for the old coordinate of the row does not take too much room. -/
def Row.HasRoom (row : Row) : Prop :=
  ∀ source, Coordinate.ofSource row.old = .ok source → Rule.checkRoom source = .ok ()

namespace Rule

/-- The rule says what the fields of its row say. -/
structure IsOf (row : Row) (rule : Rule) : Prop where
  source : ∃ group module rest, IsSource row.old group module rest ∧
    rule.source = ⟨Text.trim group, Text.trim module,
      if rest = [] then none else some ([':'].intercalate (rest.map Text.trim))⟩
  target : ∃ group module version, IsTarget row.new group module version ∧
    rule.target = ⟨Text.trim group, Text.trim module, some (Text.trim version)⟩ ∧
    rule.targetVersion = Text.trim version

variable {row : Row}

theorem exists_rule (room : row.HasRoom) (formed : row.IsWellFormed) :
    ∃ rule, ofRow row.old row.new = .ok rule := by
  obtain ⟨⟨_, _, _, isSource⟩, _, _, _, isTarget⟩ := formed
  obtain ⟨source, old⟩ : ∃ source, Coordinate.ofSource row.old = .ok source :=
    ⟨_, Coordinate.ofSource_eq_ok.mpr ⟨_, _, _, isSource, rfl⟩⟩
  obtain ⟨target, artifact, new⟩ :
      ∃ target artifact, Coordinate.ofTarget row.new = .ok (target, artifact) :=
    ⟨_, Coordinate.exists_ofTarget.mpr ⟨_, _, _, isTarget, rfl⟩⟩
  exact ⟨⟨source, target, artifact, target.version.getD [],
    Migration.versionVariable target.module⟩,
    ofRow_eq_ok.mpr ⟨old, new, room source old, rfl, rfl⟩⟩

theorem isOf_of_ofRow {rule : Rule} (made : ofRow row.old row.new = .ok rule) : IsOf row rule := by
  have read := ofRow_eq_ok.mp made
  obtain ⟨group, module, version, target, targetIs⟩ :=
    Coordinate.exists_ofTarget.mp ⟨_, read.target⟩
  refine ⟨Coordinate.ofSource_eq_ok.mp read.source, group, module, version, target, targetIs, ?_⟩
  rw [read.targetVersion, targetIs, Option.getD_some]

theorem isWellFormed_of_ofRow {rule : Rule} (made : ofRow row.old row.new = .ok rule) :
    row.IsWellFormed := by
  obtain ⟨⟨group, module, rest, source, _⟩, targetGroup, targetModule, version, target, _⟩ :=
    isOf_of_ofRow made
  exact ⟨⟨group, module, rest, source⟩, targetGroup, targetModule, version, target⟩

end Rule

namespace Correspondences

theorem ruleOf_eq_error {source : String} {row : Row} {failure : Failure} :
    ruleOf source row = .error failure ↔
      ∃ problem : Coordinate.Problem, Rule.ofRow row.old row.new = .error problem ∧
        failure = Cause.invalidTable source (some row.line) problem.message := by
  rw [ruleOf]
  cases Rule.ofRow row.old row.new <;> simp [eq_comm]

/-- The first row that is no rule decides. -/
theorem rulesOf_of_firstProblem {source : String} {before after : List Row} {row : Row}
    {problem : Coordinate.Problem}
    (fine : ∀ earlier ∈ before, ∃ rule, Rule.ofRow earlier.old earlier.new = .ok rule)
    (wrong : Rule.ofRow row.old row.new = .error problem) :
    rulesOf source (before ++ row :: after) =
      .error (Cause.invalidTable source (some row.line) problem.message) := by
  rw [rulesOf_eq, mapM_eq_error]
  simp only [ruleOf_eq_ok, ruleOf_eq_error]
  exact ⟨before, row, after, rfl, fine, problem, wrong, rfl⟩

theorem answer_emitAll (level : Verbosity) (messages : List String) (verbosity : Verbosity) :
    (Reporting.emitAll level messages).answer verbosity = .ok () := by
  induction messages with
  | nil => rfl
  | cons message rest ih =>
      rw [Reporting.emitAll, Reporting.answer_bind, Reporting.answer_emit, ok_bind, ih]

theorem answer_report (known : Correspondences) (verbosity : Verbosity) :
    known.report.answer verbosity = .ok () := by
  have shown : (Reporting.isShown .debug).answer verbosity = .ok (verbosity.shows .debug) := rfl
  rw [report, Reporting.answer_bind, Reporting.answer_info, ok_bind, Reporting.answer_bind, shown,
    ok_bind]
  split
  · simp only [listEntries, Reporting.answer_bind, answer_emitAll, ok_bind]
  · rfl

/-- Nothing but a row of the artifact table can refuse the tables. -/
theorem answer_ofRows (symbolRows artifactRows : List Row) (source : String)
    (verbosity : Verbosity) :
    (ofRows symbolRows artifactRows source).answer verbosity =
      (rulesOf source artifactRows).map fun rules =>
        ⟨symbolRows.foldl SymbolTable.insert {}, Projections.ofRows symbolRows, rules⟩ := by
  rw [ofRows, Reporting.answer_bind, SymbolTable.ofRows, SymbolTable.answer_extend, ok_bind,
    Reporting.answer_bind, Reporting.answer_ofExcept]
  cases rulesOf source artifactRows with
  | error failure => rfl
  | ok rules =>
      rw [ok_bind, Reporting.answer_bind, answer_report]
      rfl

/-- Tables are refused exactly if some row of the artifact table lacks a field that it needs, with
the line of the first such row.  Otherwise there is one rule for each row. -/
theorem ofRows_grammar (symbolRows : List Row) {artifactRows : List Row} (source : String)
    (verbosity : Verbosity) (room : ∀ row ∈ artifactRows, row.HasRoom) :
    ((∃ failure, (ofRows symbolRows artifactRows source).answer verbosity = .error failure) ↔
      ∃ row ∈ artifactRows, ¬ row.IsWellFormed) ∧
    (∀ before row after, artifactRows = before ++ row :: after →
      (∀ earlier ∈ before, earlier.IsWellFormed) → ¬ row.IsWellFormed →
      ∃ problem : Coordinate.Problem,
        (ofRows symbolRows artifactRows source).answer verbosity =
          .error (Cause.invalidTable source (some row.line) problem.message)) ∧
    ∀ known, (ofRows symbolRows artifactRows source).answer verbosity = .ok known →
      List.Forall₂ Rule.IsOf artifactRows known.rules := by
  have refuses : ∀ before row after, artifactRows = before ++ row :: after →
      (∀ earlier ∈ before, earlier.IsWellFormed) → ¬ row.IsWellFormed →
      ∃ problem : Coordinate.Problem, rulesOf source artifactRows =
        .error (Cause.invalidTable source (some row.line) problem.message) := by
    rintro before row after rfl formed malformed
    have fine : ∀ earlier ∈ before, ∃ rule, Rule.ofRow earlier.old earlier.new = .ok rule :=
      fun earlier member => Rule.exists_rule (room earlier (List.mem_append_left _ member))
        (formed earlier member)
    cases made : Rule.ofRow row.old row.new with
    | ok rule => exact absurd (Rule.isWellFormed_of_ofRow made) malformed
    | error problem => exact ⟨problem, rulesOf_of_firstProblem fine made⟩
  rw [answer_ofRows]
  refine ⟨⟨?_, ?_⟩, ?_, ?_⟩
  · rintro ⟨failure, refused⟩
    cases made : rulesOf source artifactRows with
    | ok rules =>
        rw [made] at refused
        cases refused
    | error other =>
        rw [rulesOf_eq, mapM_eq_error] at made
        obtain ⟨before, row, after, split, _, wrong⟩ := made
        have member : row ∈ artifactRows := split ▸ by simp
        refine ⟨row, member, fun formed => ?_⟩
        obtain ⟨rule, made⟩ := Rule.exists_rule (room row member) formed
        rw [ruleOf_eq_ok.mpr made] at wrong
        cases wrong
  · intro malformed
    obtain ⟨before, row, after, split, formed, wrong⟩ := exists_first malformed
    obtain ⟨problem, refused⟩ := refuses before row after split
      (fun earlier member => not_not.mp (formed earlier member)) wrong
    exact ⟨_, by rw [refused]; rfl⟩
  · intro before row after split formed malformed
    obtain ⟨problem, refused⟩ := refuses before row after split formed malformed
    exact ⟨problem, by rw [refused]; rfl⟩
  · intro known answered
    cases made : rulesOf source artifactRows with
    | error failure =>
        rw [made] at answered
        cases answered
    | ok rules =>
        rw [made] at answered
        cases answered
        exact (rulesOf_eq_ok.mp made).imp fun _ _ => Rule.isOf_of_ofRow

def spacedRow : Row := ⟨" a : b : 1 :2".toList, "x: y :z: 3 ".toList, 2⟩

def blankFieldRow : Row := ⟨"a:b".toList, "x: :1".toList, 3⟩

theorem spacedRow_accepted :
    (∃ known, (ofRows [] [spacedRow] "t.csv").answer .quiet = .ok known ∧
      List.Forall₂ Rule.IsOf [spacedRow] known.rules ∧
      known.rules.map (fun rule => (rule.source.version, rule.target.module)) =
        [(some "1:2".toList, "y".toList)]) ∧
    ∃ problem : Coordinate.Problem,
      (ofRows [] [spacedRow, blankFieldRow] "t.csv").answer .quiet =
        .error (Cause.invalidTable "t.csv" (some 3) problem.message) := by
  have spacedFields : spacedRow.IsWellFormed :=
    ⟨⟨" a ".toList, " b ".toList, [" 1 ".toList, "2".toList], rfl, by decide, by decide⟩,
      "x".toList, " y ".toList, " 3 ".toList, ⟨["z".toList], rfl⟩, by decide, by decide, by decide⟩
  have blankField : ¬ blankFieldRow.IsWellFormed := by
    rintro ⟨_, _, module, _, ⟨_, fields⟩, _, moduleSome, _⟩
    have same : " ".toList = module := (List.cons.inj (List.cons.inj fields).2).1
    exact moduleSome (same ▸ by decide)
  have room : ∀ row ∈ [spacedRow, blankFieldRow], row.HasRoom := by
    refine List.forall_mem_cons.mpr ⟨?_, List.forall_mem_singleton.mpr ?_⟩ <;>
      (rintro source parsed; cases parsed; rfl)
  have accepted := @ofRows_grammar [] [spacedRow] "t.csv" .quiet fun row member =>
    room row (List.mem_cons.mpr (.inl (List.mem_singleton.mp member)))
  have refused := @ofRows_grammar [] [spacedRow, blankFieldRow] "t.csv" .quiet room
  refine ⟨?_, refused.2.1 [spacedRow] blankFieldRow [] rfl
    (List.forall_mem_singleton.mpr spacedFields) blankField⟩
  cases answered : (ofRows [] [spacedRow] "t.csv").answer .quiet with
  | error failure =>
      obtain ⟨row, member, malformed⟩ := accepted.1.mp ⟨failure, answered⟩
      exact absurd (List.mem_singleton.mp member ▸ spacedFields) malformed
  | ok known =>
      refine ⟨known, rfl, accepted.2.2 known answered, ?_⟩
      cases answered
      rfl

end Correspondences

end Migration
