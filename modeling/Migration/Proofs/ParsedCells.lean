import Migration.Artifact.Rule
import Migration.Proofs.Action
import Migration.Proofs.Trimmed

namespace Migration

/-! What the two cells of an artifact row are read as.

Both readers go through a chain of checks.  What they accept is said here once, in terms of the
cells, so that nobody has to go through the checks again.
-/

namespace Coordinate

/-- A new coordinate is cut at its last colon, and what is in front of that into fields. -/
structure ReadsTarget (cell : Text) (target : Coordinate) (artifact : Text) : Prop where
  cut : ∃ front last, Text.trim cell = front ++ ':' :: last ∧ ':' ∉ last ∧ ¬ Text.Blank last ∧
    artifact = Text.trim front ∧ target.version = some (Text.trim last)
  fields : ∃ rest, trimmedFields artifact = target.group :: target.module :: rest
  groupSome : target.group ≠ []
  moduleSome : target.module ≠ []

theorem ofTarget_eq_ok {cell artifact : Text} {target : Coordinate} :
    ofTarget cell = .ok (target, artifact) ↔ ReadsTarget cell target artifact := by
  constructor
  · intro parsed
    rw [ofTarget] at parsed
    split at parsed
    · cases parsed
    · next front last split =>
        obtain ⟨cut, absent⟩ := Text.splitLast_eq_some.mp split
        dsimp only at parsed
        split at parsed
        · next group module rest fields =>
            split at parsed
            · cases parsed
            · next complete =>
                cases parsed
                simp only [Bool.or_eq_true, List.isEmpty_iff, not_or] at complete
                obtain ⟨⟨groupSome, moduleSome⟩, lastSome⟩ := complete
                rw [Text.trim_eq_nil_iff] at lastSome
                exact ⟨⟨front, last, cut, absent, lastSome, rfl, rfl⟩, ⟨rest, fields⟩, groupSome,
                  moduleSome⟩
        · cases parsed
  · rintro ⟨⟨front, last, cut, absent, lastSome, rfl, versionIs⟩, ⟨rest, fields⟩, groupSome,
      moduleSome⟩
    rw [← Text.trim_eq_nil_iff] at lastSome
    rw [ofTarget, Text.splitLast_eq_some.mpr ⟨cut, absent⟩]
    simp [fields, groupSome, moduleSome, lastSome, ← versionIs]

/-- What is in front of the version is written as it stands in the cell. -/
theorem ReadsTarget.within {cell artifact : Text} {target : Coordinate}
    (reads : ReadsTarget cell target artifact) : artifact <:+: cell := by
  obtain ⟨front, last, cut, _, _, rfl, _⟩ := reads.cut
  have inFront : front <:+: Text.trim cell := ⟨[], ':' :: last, cut.symm⟩
  exact (Text.trim_within front).trans (inFront.trans (Text.trim_within cell))

end Coordinate

namespace Rule

/-- The rule says what the two cells of a row are read as. -/
structure IsReadFrom (rule : Rule) (old new : Text) : Prop where
  source : Coordinate.ofSource old = .ok rule.source
  target : Coordinate.ofTarget new = .ok (rule.target, rule.artifact)
  room : checkRoom rule.source = .ok ()
  targetVersion : rule.targetVersion = rule.target.version.getD []
  versionVariable : rule.versionVariable = Migration.versionVariable rule.target.module

variable {old new : Text} {rule : Rule}

theorem ofRow_eq_ok : ofRow old new = .ok rule ↔ rule.IsReadFrom old new := by
  constructor
  · intro made
    rw [ofRow] at made
    obtain ⟨source, sourceIs, made⟩ := bind_eq_ok.mp made
    obtain ⟨⟨target, artifact⟩, targetIs, made⟩ := bind_eq_ok.mp made
    obtain ⟨_, room, made⟩ := bind_eq_ok.mp made
    cases made
    exact ⟨sourceIs, targetIs, room, rfl, rfl⟩
  · rintro ⟨source, target, room, versionIs, variableIs⟩
    rw [ofRow, source, ok_bind, target, ok_bind]
    dsimp only
    rw [room, ok_bind, ← versionIs, ← variableIs]
    rfl

/-- The version is what stands behind the last colon. -/
theorem IsReadFrom.version (read : rule.IsReadFrom old new) :
    ∃ last, rule.targetVersion = Text.trim last ∧ ':' ∉ last ∧ ¬ Text.Blank last := by
  obtain ⟨_, last, _, absent, lastSome, _, versionIs⟩ :=
    (Coordinate.ofTarget_eq_ok.mp read.target).cut
  refine ⟨last, ?_, absent, lastSome⟩
  rw [read.targetVersion, versionIs, Option.getD_some]

end Rule

end Migration
