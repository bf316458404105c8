import Migration.Proofs.ArtifactRows
import Migration.Proofs.Destination

namespace Migration

/-! What stands in front of an artifact that the coordinate form replaces.

From left to right, an artifact is replaced wherever it stands, apart from the places that an
earlier use reaches over.  What stands in front of it is not looked at, so it may be the end of a
longer coordinate as well as a whole one.
-/

open Pattern (Span)
open Text (byteLength)

theorem Text.eq_of_byteLength_eq {first second text : Text} (firstPrefix : first <+: text)
    (secondPrefix : second <+: text) (same : byteLength first = byteLength second) :
    first = second := by
  obtain ⟨firstRest, firstWhole⟩ := firstPrefix
  obtain ⟨secondRest, secondWhole⟩ := secondPrefix
  have firstCut := cut?_eq_some.mpr ⟨firstWhole, same⟩
  rw [cut?_eq_some.mpr ⟨secondWhole, rfl⟩] at firstCut
  cases firstCut
  rfl

namespace Declaration

/-- Characters that the name of a group goes on with. -/
def isNameChar (c : Char) : Bool :=
  Text.isWord c || c = '.' || c = '-'

/-- No name goes on behind the text. -/
def StandsAlone (before : Text) : Prop :=
  ∀ c, before.getLast? = some c → isNameChar c = false

/-- The use of an artifact behind `earlier` goes on up to the end of its run, and of a brace behind
that.  The place behind `before` is inside of it. -/
def Covers (group module earlier before line : Text) : Prop :=
  ∃ run behind, line = earlier ++ (group ++ ':' :: module ++ [':', '$'] ++ run ++ behind) ∧
    (∀ c ∈ run, isTokenChar c = true) ∧
    (∀ c, behind.head? = some c → isTokenChar c = false) ∧
    earlier.length < before.length ∧
    before.length < (earlier ++ (group ++ ':' :: module ++ [':', '$'] ++ run ++
      (closingBrace behind).1)).length

/-- What stands on the line in front of each use. -/
def fronts (coordinate : Text) : List Use → List Text
  | [] => []
  | use :: others =>
      use.before :: (fronts coordinate others).map (use.text coordinate use.token ++ ·)

section Fronts

variable {group module : Text}

/-! A text in front of everything. -/

theorem occursBehind_append {front before line : Text} :
    OccursBehind group module (front ++ before) (front ++ line) ↔
      OccursBehind group module before line := by
  simp only [OccursBehind, List.append_assoc, List.append_cancel_left_eq]

theorem covers_append {front earlier before line : Text} :
    Covers group module (front ++ earlier) (front ++ before) (front ++ line) ↔
      Covers group module earlier before line := by
  simp only [Covers, List.append_assoc, List.append_cancel_left_eq, @List.length_append _ front,
    Nat.add_lt_add_iff_left]

theorem OccursBehind.isPrefix {before line : Text}
    (occurs : OccursBehind group module before line) : before <+: line := by
  obtain ⟨c, rest, whole, _⟩ := occurs
  exact ⟨_, (whole.trans (List.append_assoc _ _ _)).symm⟩

theorem OccursBehind.eq_of_length {before other line : Text}
    (occurs : OccursBehind group module before line)
    (occursToo : OccursBehind group module other line) (same : before.length = other.length) :
    before = other :=
  (List.prefix_of_prefix_length_le occurs.isPrefix occursToo.isPrefix same.le).eq_of_length same

/-- Where the run of a use ends is settled by the line. -/
theorem covers_iff {before run behind other line : Text}
    (whole : line = before ++ (group ++ ':' :: module ++ [':', '$'] ++ run ++ behind))
    (members : ∀ c ∈ run, isTokenChar c = true)
    (ended : ∀ c, behind.head? = some c → isTokenChar c = false) :
    Covers group module before other line ↔ before.length < other.length ∧
      other.length < (before ++ (group ++ ':' :: module ++ [':', '$'] ++ run ++
        (closingBrace behind).1)).length := by
  constructor
  · rintro ⟨otherRun, otherBehind, sameWhole, otherMembers, otherEnded, inside⟩
    have same : run ++ behind = otherRun ++ otherBehind := by
      have both := whole.symm.trans sameWhole
      simpa only [List.append_assoc, List.append_cancel_left_eq, List.cons_append,
        List.cons.injEq, true_and, List.nil_append] using both
    obtain ⟨rfl, rfl⟩ := Text.run_inj members otherMembers ended otherEnded same
    exact inside
  · exact fun inside => ⟨run, behind, whole, members, ended, inside⟩

theorem Covers.behind {earlier before line : Text}
    (covers : Covers group module earlier before line) : earlier.length < before.length := by
  obtain ⟨_, _, _, _, _, behind, _⟩ := covers
  exact behind

/-- Behind the end of the first use, places are those of what is left of the line. -/
theorem mem_fronts_next {before through rest line : Text} {others : List Text}
    (whole : line = through ++ rest) (shorter : before.length ≤ through.length)
    (occurs : OccursBehind group module before line)
    (first : ∀ other, OccursBehind group module other line → before.length ≤ other.length)
    (covers : ∀ other, Covers group module before other line ↔
      before.length < other.length ∧ other.length < through.length)
    (later : ∀ other, other ∈ others ↔ OccursBehind group module other rest ∧
      ∀ earlier ∈ others, ¬ Covers group module earlier other rest) (other : Text) :
    other ∈ before :: others.map (through ++ ·) ↔ OccursBehind group module other line ∧
      ∀ earlier ∈ before :: others.map (through ++ ·),
        ¬ Covers group module earlier other line := by
  rw [List.forall_mem_cons, List.forall_mem_map, covers]
  constructor
  · intro member
    rcases List.mem_cons.mp member with rfl | member
    · refine ⟨occurs, fun inside => Nat.lt_irrefl _ inside.1, fun own _ covered => ?_⟩
      have behind := covered.behind
      rw [List.length_append] at behind
      omega
    · obtain ⟨own, ownMember, rfl⟩ := List.mem_map.mp member
      obtain ⟨occursOwn, outside⟩ := (later own).mp ownMember
      subst whole
      refine ⟨occursBehind_append.mpr occursOwn, fun inside => ?_, fun earlier earlierMember => ?_⟩
      · have short := inside.2
        rw [List.length_append] at short
        omega
      · rw [covers_append]
        exact outside earlier earlierMember
  · rintro ⟨occursOther, notInside, outside⟩
    -- A place in front of the end of the first use is inside of it or is where it stands.
    by_cases short : other.length < through.length
    · have notShorter := first other occursOther
      rw [occurs.eq_of_length occursOther (by omega)]
      exact List.mem_cons_self
    · obtain ⟨own, rfl⟩ := List.prefix_of_prefix_length_le (whole ▸ List.prefix_append through rest)
        occursOther.isPrefix (Nat.le_of_not_lt short)
      subst whole
      refine List.mem_cons_of_mem _ (List.mem_map_of_mem ((later own).mpr ?_))
      refine ⟨occursBehind_append.mp occursOther, fun earlier member covered => ?_⟩
      exact outside earlier member (covers_append.mpr covered)

/-- The uses stand where the artifact does and no earlier use reaches over it. -/
theorem mem_fronts_iff {line left : Text} {uses : List Use}
    (used : Uses group module line uses left) (other : Text) :
    other ∈ fronts (group ++ ':' :: module) uses ↔ OccursBehind group module other line ∧
      ∀ earlier ∈ fronts (group ++ ':' :: module) uses,
        ¬ Covers group module earlier other line := by
  induction used generalizing other with
  | none nothing => simp [fronts, nothing other]
  | @next before run opening token behind left others line whole first members ended cut later ih =>
      have text : Use.text (group ++ ':' :: module) token
          ⟨before, opening, token, (closingBrace behind).1⟩ =
          before ++ (group ++ ':' :: module ++ [':', '$'] ++ run ++ (closingBrace behind).1) := by
        simp [Use.text, ← cut.whole]
      simp only [fronts, text]
      refine mem_fronts_next ?_ ?_ (occursBehind_of_cut whole members cut) first
        (fun _ => covers_iff whole members ended) ih other
      · rw [whole]
        nth_rewrite 1 [← closingBrace_append behind]
        simp only [List.append_assoc]
      · rw [List.length_append]
        exact Nat.le_add_right _ _

/-- An artifact with no colon in front is the first one on its line. -/
theorem first_of_noColon (groupFree : ':' ∉ group) {before line : Text} (noColon : ':' ∉ before)
    (occurs : OccursBehind group module before line) (other : Text)
    (occursToo : OccursBehind group module other line) : before.length ≤ other.length := by
  refine Nat.le_of_not_lt fun shorter => ?_
  obtain ⟨front, rfl⟩ :=
    List.prefix_of_prefix_length_le occursToo.isPrefix occurs.isPrefix shorter.le
  obtain ⟨_, _, whole, _⟩ := occurs
  obtain ⟨_, _, otherWhole, _⟩ := occursToo
  rw [List.mem_append, not_or] at noColon
  have marks := whole.symm.trans otherWhole
  simp only [List.append_assoc, List.append_cancel_left_eq, List.cons_append] at marks
  rw [← List.append_assoc] at marks
  obtain ⟨same, _⟩ := Text.append_mark_inj
    (List.mem_append.not.mpr (not_or.mpr ⟨noColon.2, groupFree⟩)) groupFree marks
  rw [List.append_left_eq_self.mp same, List.append_nil] at shorter
  exact Nat.lt_irrefl _ shorter

/-- The coordinates that are captured on a line are those of its uses. -/
theorem mem_slotSpans_partsOfUses {coordinate left : Text} {uses : List Use} {span : Span}
    (start : Nat) :
    (Slot.coordinate, span) ∈ slotSpans start (partsOfUses coordinate uses left) ↔
      ∃ front ∈ fronts coordinate uses,
        span = ⟨start + byteLength front, start + byteLength (front ++ coordinate)⟩ := by
  have kept (start : Nat) (text : Text) : slotSpans start (keptParts text) = [] :=
    slotSpans_eq_nil.mpr (any_slot_keptParts text)
  induction uses generalizing start with
  | nil => simp [partsOfUses, fronts, kept]
  | cons use others ih =>
      have parts : partsOfUses coordinate (use :: others) left = keptParts use.before ++
          (writtenParts coordinate ⟨use.opening, use.token, []⟩ use.closing ++
            partsOfUses coordinate others left) := by
        simp only [partsOfUses, List.flatMap_cons, List.append_assoc]
      rw [parts, slotSpans_append, slotSpans_append, kept, List.nil_append, List.mem_append]
      simp only [ih, fronts, List.exists_mem_cons_iff, List.mem_map, exists_exists_and_eq_and]
      refine or_congr ?_ ?_
      · simp [writtenParts, slotSpans, Nat.add_assoc]
      · simp [writtenParts, Use.text, Part.old, Nat.add_assoc]

end Fronts

end Declaration

namespace Rule

open Declaration

/-- The coordinate form replaces the old artifact where it stands behind `before`. -/
def ReplacesBehind (rule : Rule) (before line : Text) : Prop :=
  before <+: line ∧ (Slot.coordinate, (⟨byteLength before,
    byteLength (before ++ (rule.source.group ++ ':' :: rule.source.module))⟩ : Span)) ∈
      (rule.editsOn .coordinate line).flatten

theorem noColon_of_ofRow {old new : Text} {rule : Rule} (made : ofRow old new = .ok rule) :
    ':' ∉ rule.source.group := by
  obtain ⟨group, _, _, ⟨fields, _, _⟩, source⟩ :=
    Coordinate.ofSource_eq_ok.mp (ofRow_eq_ok.mp made).source
  rw [source]
  exact fun member => Text.not_mem_fields old group (fields ▸ List.mem_cons_self)
    (Text.mem_of_mem_trim member)

theorem mem_editsOn_uses (rule : Rule) {line left : Text} {uses : List Use}
    (used : Uses rule.source.group rule.source.module line uses left) (span : Span) :
    (Slot.coordinate, span) ∈ (rule.editsOn .coordinate line).flatten ↔
      ∃ front ∈ fronts (rule.source.group ++ ':' :: rule.source.module) uses,
        span = ⟨byteLength front,
          byteLength (front ++ (rule.source.group ++ ':' :: rule.source.module))⟩ := by
  have parts : Form.coordinate.partsOf rule.source.group rule.source.module line =
      partsOfUses (rule.source.group ++ ':' :: rule.source.module) uses left :=
    coordinateParts_uses used
  rw [editsOn, Form.flatten_editsOn, parts, mem_slotSpans_partsOfUses]
  simp only [Nat.zero_add]

theorem replacesBehind_iff (rule : Rule) {line left : Text} {uses : List Use}
    (used : Uses rule.source.group rule.source.module line uses left) (before : Text) :
    rule.ReplacesBehind before line ↔
      before ∈ fronts (rule.source.group ++ ':' :: rule.source.module) uses := by
  have isPrefix {front : Text}
      (member : front ∈ fronts (rule.source.group ++ ':' :: rule.source.module) uses) :
      front <+: line := ((mem_fronts_iff used front).mp member).1.isPrefix
  rw [ReplacesBehind, rule.mem_editsOn_uses used]
  constructor
  · rintro ⟨beforePrefix, front, member, same⟩
    rwa [Text.eq_of_byteLength_eq beforePrefix (isPrefix member) (Span.mk.inj same).1]
  · exact fun member => ⟨isPrefix member, before, member, rfl⟩

theorem migrate_first (rule : Rule) {before line : Text}
    (occurs : OccursBehind rule.source.group rule.source.module before line)
    (first : ∀ other, OccursBehind rule.source.group rule.source.module other line →
      before.length ≤ other.length) :
    ∃ rest, rule.migrate line =
      some (annotate rule.targetVersion (before ++ rule.artifact ++ ':' :: '$' :: rest)) := by
  obtain ⟨uses, left, used⟩ := exists_uses rule.source.group rule.source.module line
  have notEmpty : uses ≠ [] := fun nothing => (uses_eq_nil used).mp nothing before occurs
  rw [rule.migrate_of_uses used notEmpty]
  cases used with
  | none nothing => exact absurd rfl notEmpty
  | @next front run opening token behind _ others _ whole frontFirst members ended cut later =>
      have frontOccurs := occursBehind_of_cut whole members cut
      have same : before = front := occurs.eq_of_length frontOccurs
        (Nat.le_antisymm (first front frontOccurs) (frontFirst before occurs))
      refine ⟨opening ++ rule.versionVariable ++ (closingBrace behind).1 ++
        others.flatMap (Use.text rule.artifact rule.versionVariable) ++ left, ?_⟩
      simp [Use.text, same]

/-- The coordinate form replaces the old artifact wherever it stands outside of an earlier use.  All
that it replaces are whole coordinates if and only if a use reaches over every place where the
artifact ends a longer one.  With no colon in front it is replaced, whatever that text ends with. -/
theorem replaced_places {old new : Text} {rule : Rule} (made : ofRow old new = .ok rule)
    (line : Text) :
    (∀ span, (Slot.coordinate, span) ∈ (rule.editsOn .coordinate line).flatten →
      ∃ before, rule.ReplacesBehind before line ∧ span = ⟨byteLength before,
        byteLength (before ++ (rule.source.group ++ ':' :: rule.source.module))⟩) ∧
    (∀ before, rule.ReplacesBehind before line ↔
      OccursBehind rule.source.group rule.source.module before line ∧
        ∀ earlier, rule.ReplacesBehind earlier line →
          ¬ Covers rule.source.group rule.source.module earlier before line) ∧
    ((∀ before, rule.ReplacesBehind before line → StandsAlone before) ↔
      ∀ before, OccursBehind rule.source.group rule.source.module before line →
        StandsAlone before ∨ ∃ earlier, rule.ReplacesBehind earlier line ∧
          Covers rule.source.group rule.source.module earlier before line) ∧
    ∀ before, ':' ∉ before → OccursBehind rule.source.group rule.source.module before line →
      rule.ReplacesBehind before line ∧ ∃ rest, rule.migrate line =
        some (annotate rule.targetVersion (before ++ rule.artifact ++ ':' :: '$' :: rest)) := by
  obtain ⟨uses, left, used⟩ := exists_uses rule.source.group rule.source.module line
  have replaced (before : Text) : rule.ReplacesBehind before line ↔
      OccursBehind rule.source.group rule.source.module before line ∧
        ∀ earlier, rule.ReplacesBehind earlier line →
          ¬ Covers rule.source.group rule.source.module earlier before line := by
    simp only [rule.replacesBehind_iff used]
    exact mem_fronts_iff used before
  refine ⟨fun span captured => ?_, replaced, ?_, fun before noColon occurs => ?_⟩
  · obtain ⟨front, member, same⟩ := (rule.mem_editsOn_uses used span).mp captured
    exact ⟨front, (rule.replacesBehind_iff used front).mpr member, same⟩
  · constructor
    · intro alone before occurs
      by_cases covered : ∃ earlier, rule.ReplacesBehind earlier line ∧
          Covers rule.source.group rule.source.module earlier before line
      · exact .inr covered
      · refine .inl (alone before ((replaced before).mpr ⟨occurs, ?_⟩))
        exact fun earlier replaces covers => covered ⟨earlier, replaces, covers⟩
    · intro alone before replaces
      obtain ⟨occurs, outside⟩ := (replaced before).mp replaces
      refine (alone before occurs).resolve_right ?_
      rintro ⟨earlier, earlierReplaces, covers⟩
      exact outside earlier earlierReplaces covers
  · have first := first_of_noColon (noColon_of_ofRow made) noColon occurs
    refine ⟨(replaced before).mpr ⟨occurs, fun earlier replaces covers => ?_⟩,
      rule.migrate_first occurs first⟩
    have notShorter := first earlier ((replaced earlier).mp replaces).1
    have shorter := covers.behind
    omega

/-- The artifact is the end of a longer one. -/
def longerLine : Text := "org.a:b:$v".toList

theorem longerLine_replaced :
    ofRow "a:b".toList "x:y:1".toList = .ok libraryRule ∧
      libraryRule.ReplacesBehind "org.".toList longerLine ∧ ¬ StandsAlone "org.".toList ∧
      libraryRule.migrate longerLine = some "org.x:y:$yVersion // Latest version: 1".toList := by
  refine ⟨libraryRule_made, ⟨⟨_, rfl⟩, ?_⟩, fun alone => ?_, by decide⟩
  · rw [editsOn, Form.flatten_editsOn]
    decide
  · exact absurd (alone '.' rfl) (by decide)

/-- The longer artifact is a part of a token, so nothing is replaced in it. -/
def nestedLine : Text := "a:b:$org.a:b:$v".toList

theorem nestedLine_replaced :
    libraryRule.ReplacesBehind [] nestedLine ∧
      ¬ libraryRule.ReplacesBehind "a:b:$org.".toList nestedLine := by
  obtain ⟨_, replaced, _, first⟩ := replaced_places libraryRule_made nestedLine
  have begins := (first [] List.not_mem_nil ⟨'o', _, rfl, rfl⟩).1
  refine ⟨begins, fun replaces => ?_⟩
  exact ((replaced _).mp replaces).2 [] begins
    ⟨"org.a:b:$v".toList, [], rfl, List.all_eq_true.mp rfl, by simp, by decide, by decide⟩

end Rule

end Migration
