import Mathlib.Data.Nat.Find
import Migration.Proofs.Escape
import Migration.Proofs.Migrated
import Migration.Proofs.Substitution

namespace Migration

/-! What the coordinate form means.

Where an artifact is followed by `:$` and a character that a token can hold, the longest run of such
characters is its placeholder.  The token is what is left of the run without a brace in front and
without the properties, as far as something is left.  The uses of an artifact on a line are found
from left to right, each behind the brace that may follow the one before it.
-/

namespace Declaration

/-! The token of a run. -/

/-- Names of properties as they are written in front of a token. -/
def written (names : List Text) : Text :=
  names.flatMap (· ++ ['.'])

/-- The names of the properties in front of a token. -/
def propertiesIn (text : Text) : List Text :=
  (splitProperties (Text.fields '.' text)).1

theorem splitAccess_fst (text : Text) : (splitAccess text).1 = written (propertiesIn text) := rfl

theorem propertiesIn_identifiers (text : Text) :
    ∀ name ∈ propertiesIn text, isIdentifier name = true := by
  rw [propertiesIn]
  induction Text.fields '.' text with
  | nil => simp [splitProperties]
  | cons field rest ih =>
      rw [splitProperties]
      split
      · next property =>
          rw [Bool.and_eq_true, Bool.and_eq_true] at property
          exact List.forall_mem_cons.mpr ⟨property.1.1, ih⟩
      · simp

theorem propertiesIn_cons {name rest text : Text} (begins : BeginsProperty name rest text)
    (some : rest ≠ []) : propertiesIn text = name :: propertiesIn rest := by
  rw [propertiesIn, splitProperties_property begins some, propertiesIn]

/-- Properties that can be dropped are dropped. -/
theorem propertiesIn_written {names : List Text} {rest : Text}
    (identifiers : ∀ name ∈ names, isIdentifier name = true) (some : rest ≠ []) :
    propertiesIn (written names ++ rest) = names ++ propertiesIn rest := by
  induction names with
  | nil => rfl
  | cons name names ih =>
      obtain ⟨first, later⟩ := List.forall_mem_cons.mp identifiers
      have begins : BeginsProperty name (written names ++ rest)
          (written (name :: names) ++ rest) := ⟨first, by simp [written]⟩
      rw [propertiesIn_cons begins (List.append_ne_nil_of_right_ne_nil _ some), ih later,
        List.cons_append]

/-- The brace in front of a run that has more to it. -/
def leadingBrace (run : Text) : Text :=
  if run.head? = some '\x7b' ∧ run.tail ≠ [] then ['\x7b'] else []

theorem dropLeading_fst (run : Text) : (dropLeading '\x7b' run).1 = leadingBrace run := by
  match run with
  | [] => rfl
  | [c] => simp [dropLeading, leadingBrace]
  | c :: next :: rest =>
      by_cases brace : c = '\x7b'
      · simp [dropLeading, leadingBrace, brace]
      · simp [dropLeading, leadingBrace, brace]

/-- A run cut into what is dropped and its token: as many properties as possible are dropped behind
a brace, but never the whole run. -/
structure IsCut (run opening token : Text) : Prop where
  whole : opening ++ token = run
  some : token ≠ []
  names : ∃ names, opening = leadingBrace run ++ written names ∧
    (∀ name ∈ names, isIdentifier name = true) ∧
    ∀ others rest, (∀ name ∈ others, isIdentifier name = true) → rest ≠ [] →
      leadingBrace run ++ written others ++ rest = run → others.length ≤ names.length

theorem IsCut.run_ne_nil {run opening token : Text} (cut : IsCut run opening token) : run ≠ [] := by
  rw [← cut.whole]
  exact List.append_ne_nil_of_right_ne_nil _ cut.some

/-- There is one way to cut a run, which is the way the form cuts it. -/
theorem isCut_iff {run opening token : Text} (notEmpty : run ≠ []) :
    IsCut run opening token ↔
      opening = (dropLeading '\x7b' run).1 ++ (splitAccess (dropLeading '\x7b' run).2).1 ∧
        token = (splitAccess (dropLeading '\x7b' run).2).2 := by
  have marked := dropLeading_append '\x7b' run
  have left := dropLeading_ne_nil '\x7b' notEmpty
  rw [dropLeading_fst] at marked ⊢
  generalize (dropLeading '\x7b' run).2 = access at marked left ⊢
  have cut := splitAccess_append access
  have tokenSome := splitAccess_token left
  rw [splitAccess_fst] at cut ⊢
  constructor
  · rintro ⟨whole, some, names, rfl, identifiers, most⟩
    have accessIs : written names ++ token = access := by
      have both := whole.trans marked.symm
      rw [List.append_assoc] at both
      exact List.append_cancel_left both
    have longest := most (propertiesIn access) (splitAccess access).2
      (propertiesIn_identifiers access) tokenSome (by rw [List.append_assoc, cut, marked])
    have split := propertiesIn_written identifiers some
    rw [accessIs] at split
    have none : propertiesIn token = [] := by
      rw [split, List.length_append] at longest
      exact List.length_eq_zero_iff.mp (by omega)
    rw [none, List.append_nil] at split
    refine ⟨by rw [split], ?_⟩
    rw [split] at cut
    exact List.append_cancel_left (accessIs.trans cut.symm)
  · rintro ⟨rfl, rfl⟩
    refine ⟨by rw [List.append_assoc, cut, marked], tokenSome, propertiesIn access, rfl,
      propertiesIn_identifiers access, fun others rest identifiers some whole => ?_⟩
    have both := whole.trans marked.symm
    rw [List.append_assoc] at both
    rw [← List.append_cancel_left both, propertiesIn_written identifiers some, List.length_append]
    exact Nat.le_add_right _ _

/-! Uses of an artifact. -/

/-- An artifact stands behind `before`, with `:$` behind it and a character of a token. -/
def OccursBehind (group module before line : Text) : Prop :=
  ∃ c rest, line = before ++ (group ++ ':' :: module ++ [':', '$']) ++ c :: rest ∧
    isTokenChar c = true

/-- A use of an artifact: what stands in front of it, between it and the token, and behind that. -/
structure Use where
  before : Text
  opening : Text
  token : Text
  closing : Text

/-- The use with an artifact and a token in it. -/
def Use.text (artifact token : Text) (use : Use) : Text :=
  use.before ++ artifact ++ [':', '$'] ++ use.opening ++ token ++ use.closing

/-- The uses of an artifact on a line, and what is left of the line behind them. -/
inductive Uses (group module : Text) : (line : Text) → List Use → (left : Text) → Prop
  | none {line : Text} (nothing : ∀ before, ¬ OccursBehind group module before line) :
      Uses group module line [] line
  | next {before run opening token behind left : Text} {others : List Use} {line : Text}
      (whole : line = before ++ (group ++ ':' :: module ++ [':', '$'] ++ run ++ behind))
      (first : ∀ other, OccursBehind group module other line → before.length ≤ other.length)
      (members : ∀ c ∈ run, isTokenChar c = true)
      (ended : ∀ c, behind.head? = some c → isTokenChar c = false)
      (cut : IsCut run opening token)
      (later : Uses group module (closingBrace behind).2 others left) :
      Uses group module line (⟨before, opening, token, (closingBrace behind).1⟩ :: others) left

section Form

variable {group module : Text}

theorem occursBehind_iff {before line : Text} :
    OccursBehind group module before line ↔
      ∃ text, line = before ++ text ∧ (coordinateAt group module text).isSome = true := by
  simp only [coordinateAt_isSome, Form.Opens, OccursBehind, Shape.steps, textOf_cons, textOf_nil]
  constructor
  · rintro ⟨c, rest, rfl, allowed⟩
    exact ⟨_, List.append_assoc _ _ _, c :: rest, by simp, c, rest, rfl, allowed⟩
  · rintro ⟨_, rfl, _, rfl, c, rest, rfl, allowed⟩
    exact ⟨c, rest, by simp, allowed⟩

/-- What is found where an artifact is used. -/
theorem coordinateAt_use {run opening token rest : Text} (members : ∀ c ∈ run, isTokenChar c = true)
    (ended : ∀ c, rest.head? = some c → isTokenChar c = false) (cut : IsCut run opening token) :
    coordinateAt group module (group ++ ':' :: module ++ [':', '$'] ++ run ++ rest) =
      some (writtenParts (group ++ ':' :: module) ⟨opening, token, []⟩ (closingBrace rest).1) := by
  have notEmpty := cut.run_ne_nil
  obtain ⟨openingIs, tokenIs⟩ := (isCut_iff notEmpty).mp cut
  have taken := Text.run_ends members ended
  refine coordinateAt_eq_some_iff.mpr ⟨run ++ rest, ⟨opening, token, []⟩, rest, by simp, ?_, rfl⟩
  refine Placeholder.ofRun_eq_some.mpr ⟨by rwa [taken.1], taken.2, ?_⟩
  rw [taken.1, Placeholder.ofAccess, openingIs, tokenIs]

theorem isCut_exists {run : Text} (notEmpty : run ≠ []) :
    ∃ opening token, IsCut run opening token :=
  ⟨_, _, (isCut_iff notEmpty).mpr ⟨rfl, rfl⟩⟩

/-- The first place of an artifact on a line. -/
theorem exists_first {line : Text} (occurs : ∃ before, OccursBehind group module before line) :
    ∃ before, OccursBehind group module before line ∧
      ∀ other, OccursBehind group module other line → before.length ≤ other.length := by
  classical
  have found : ∃ size, ∃ before, OccursBehind group module before line ∧ before.length = size := by
    obtain ⟨before, occurs⟩ := occurs
    exact ⟨before.length, before, occurs, rfl⟩
  obtain ⟨before, occurs, size⟩ := Nat.find_spec found
  refine ⟨before, occurs, fun other occursToo => ?_⟩
  rw [size]
  exact Nat.find_min' found ⟨other, occursToo, rfl⟩

theorem exists_uses (group module line : Text) : ∃ uses left, Uses group module line uses left := by
  induction length : line.length using Nat.strongRecOn generalizing line with
  | ind size ih =>
      by_cases occurs : ∃ before, OccursBehind group module before line
      · obtain ⟨before, ⟨c, rest, whole, allowed⟩, first⟩ := exists_first occurs
        have together := List.takeWhile_append_dropWhile (p := isTokenChar) (l := c :: rest)
        have members := List.all_takeWhile (p := isTokenChar) (l := c :: rest)
        have ended := List.head?_dropWhile_not isTokenChar (c :: rest)
        have notEmpty : (c :: rest).takeWhile isTokenChar ≠ [] := by simp [allowed]
        generalize (c :: rest).takeWhile isTokenChar = run at together members notEmpty
        generalize (c :: rest).dropWhile isTokenChar = behind at together ended
        rw [← together] at whole
        have shorter : (closingBrace behind).2.length < size := by
          have brace := congrArg List.length (closingBrace_append behind)
          have lengths := congrArg List.length whole
          simp only [List.length_append, List.length_cons, List.length_nil] at brace lengths
          omega
        obtain ⟨opening, token, cut⟩ := isCut_exists notEmpty
        obtain ⟨others, left, later⟩ := ih _ shorter _ rfl
        refine ⟨_, left, .next ?_ first (List.all_eq_true.mp members) ?_ cut later⟩
        · rw [whole]
          simp only [List.append_assoc]
        · intro d starts
          rwa [starts] at ended
      · exact ⟨[], line, .none (not_exists.mp occurs)⟩

/-- The uses of an artifact, and what is kept between them. -/
def partsOfUses (coordinate : Text) (uses : List Use) (left : Text) : List Part :=
  (uses.flatMap fun use => keptParts use.before ++
    writtenParts coordinate ⟨use.opening, use.token, []⟩ use.closing) ++ keptParts left

section Parts

variable (coordinate : Text) (uses : List Use) (left : Text)

theorem filled_partsOfUses (fill : Slot → Text) :
    (partsOfUses coordinate uses left).flatMap (Part.filled fill) =
      uses.flatMap (Use.text (fill .coordinate) (fill .version)) ++ left := by
  rw [partsOfUses, List.flatMap_append, flatMap_filled_keptParts, List.flatMap_assoc]
  congr 2
  funext use
  simp [writtenParts, Part.filled, Use.text]

theorem old_partsOfUses :
    (partsOfUses coordinate uses left).flatMap Part.old =
      uses.flatMap (fun use => use.text coordinate use.token) ++ left := by
  rw [partsOfUses, List.flatMap_append, flatMap_old_keptParts, List.flatMap_assoc]
  congr 2
  funext use
  simp [writtenParts, Part.old, Use.text]

theorem any_slot_partsOfUses :
    (partsOfUses coordinate uses left).any (·.slot?.isSome) = !uses.isEmpty := by
  cases uses with
  | nil => simp [partsOfUses]
  | cons use others => simp [partsOfUses, writtenParts, Part.slot?]

theorem firstVersion?_partsOfUses :
    firstVersion? (partsOfUses coordinate uses left) = uses.head?.map Use.token := by
  cases uses with
  | nil => exact firstVersion?_keptParts left
  | cons use others =>
      rw [partsOfUses, List.flatMap_cons, List.append_assoc, List.append_assoc,
        firstVersion?_keptParts_append]
      rfl

end Parts

/-- The parts of a line in coordinate form are its uses and what is kept between them. -/
theorem coordinateParts_uses {line left : Text} {uses : List Use}
    (used : Uses group module line uses left) :
    coordinateParts group module line = partsOfUses (group ++ ':' :: module) uses left := by
  have missing {before rest line : Text} (split : line = before ++ rest)
      (nothing : ¬ OccursBehind group module before line) :
      coordinateAt group module rest = none := by
    rw [occursBehind_iff, not_exists] at nothing
    rw [← Option.not_isSome_iff_eq_none]
    exact fun found => nothing rest ⟨split, found⟩
  induction used with
  | none nothing =>
      exact partsFrom_kept fun before rest split => missing split (nothing before)
  | @next before run opening token behind left others line whole first members ended cut later ih =>
      have found := @coordinateAt_use group module run opening token behind members ended cut
      have brace := closingBrace_append behind
      have old : (writtenParts (group ++ ':' :: module) ⟨opening, token, []⟩
          (closingBrace behind).1).flatMap Part.old ++ (closingBrace behind).2 =
          group ++ ':' :: module ++ [':', '$'] ++ run ++ behind := by
        rw [← cut.whole]
        nth_rewrite 3 [← brace]
        simp [writtenParts, Part.old]
      have dropped := congrArg (List.drop ((writtenParts (group ++ ':' :: module)
        ⟨opening, token, []⟩ (closingBrace behind).1).flatMap Part.old).length) old
      rw [List.drop_left] at dropped
      rw [coordinateParts] at ih ⊢
      rw [whole, partsFrom_behind, partsFrom_found (coordinateAt_finds group module) found,
        ← dropped, ih]
      · simp only [partsOfUses, List.flatMap_cons, List.append_assoc]
      · intro front c rest split
        refine @missing front (c :: rest ++ (group ++ ':' :: module ++ [':', '$'] ++ run ++ behind))
          line ?_ fun occurs => ?_
        · rw [whole, split, List.append_assoc]
        · have shorter := first front occurs
          rw [split, List.length_append, List.length_cons] at shorter
          omega

theorem line_of_uses {line left : Text} {uses : List Use}
    (used : Uses group module line uses left) :
    uses.flatMap (fun use => use.text (group ++ ':' :: module) use.token) ++ left = line := by
  have old := flatMap_old_partsFrom (coordinateAt_finds group module) 0 line
  rw [← coordinateParts, coordinateParts_uses used, old_partsOfUses] at old
  exact old

theorem occursBehind_of_cut {before run opening token behind line : Text}
    (whole : line = before ++ (group ++ ':' :: module ++ [':', '$'] ++ run ++ behind))
    (members : ∀ c ∈ run, isTokenChar c = true) (cut : IsCut run opening token) :
    OccursBehind group module before line := by
  obtain ⟨c, rest, rfl⟩ := List.exists_cons_of_ne_nil cut.run_ne_nil
  exact ⟨c, rest ++ behind, by rw [whole]; simp, members c List.mem_cons_self⟩

theorem uses_eq_nil {line left : Text} {uses : List Use} (used : Uses group module line uses left) :
    uses = [] ↔ ∀ before, ¬ OccursBehind group module before line := by
  cases used with
  | none nothing => exact iff_of_true rfl nothing
  | next whole first members ended cut later =>
      exact iff_of_false (List.cons_ne_nil _ _) fun nothing =>
        nothing _ (occursBehind_of_cut whole members cut)

end Form

end Declaration

namespace Rule

open Declaration
open Pattern (Expression)

theorem parts?_of_uses (rule : Rule) {line left : Text} {uses : List Use}
    (used : Uses rule.source.group rule.source.module line uses left) (notEmpty : uses ≠ []) :
    rule.parts? line =
      some (partsOfUses (rule.source.group ++ ':' :: rule.source.module) uses left) := by
  refine parts?_eq_some_iff.mpr ⟨.coordinate, (coordinateParts_uses used).symm, ?_, nofun⟩
  rw [any_slot_partsOfUses]
  simpa using notEmpty

theorem migrate_of_uses (rule : Rule) {line left : Text} {uses : List Use}
    (used : Uses rule.source.group rule.source.module line uses left) (notEmpty : uses ≠ []) :
    rule.migrate line = some (annotate rule.targetVersion
      (uses.flatMap (Use.text rule.artifact rule.versionVariable) ++ left)) := by
  rw [migrate, rule.parts?_of_uses used notEmpty, Option.map_some, filled_partsOfUses]
  rfl

/-- The coordinate form applies where the artifact stands literally with a placeholder behind it,
and rewrites each use on the line. -/
theorem migrate_coordinate_form (rule : Rule) (line : Text) :
    (∃ expression, Expression.read (Pattern.escape rule.source.group ++ ':' ::
        Pattern.escape rule.source.module) = .ok expression ∧
      expression.meaning {} =
        .ok (.literal (rule.source.group ++ ':' :: rule.source.module), {})) ∧
    (rule.editsOn .coordinate line ≠ [] ↔
      ∃ before, OccursBehind rule.source.group rule.source.module before line) ∧
    (∃ uses left, Uses rule.source.group rule.source.module line uses left) ∧
    ∀ uses left, Uses rule.source.group rule.source.module line uses left →
      uses.flatMap (fun use => use.text (rule.source.group ++ ':' :: rule.source.module) use.token) ++
          left = line ∧
        (uses = [] ↔ rule.editsOn .coordinate line = []) ∧
        ∀ first others, uses = first :: others →
          rule.migrate line = some (annotate rule.targetVersion
            (uses.flatMap (Use.text rule.artifact rule.versionVariable) ++ left)) ∧
          ∀ file number, rule.replacementOn file number line =
            some ⟨file, number, first.token, rule.versionVariable, rule.targetVersion⟩ := by
  have applies {uses : List Use} {left : Text}
      (used : Uses rule.source.group rule.source.module line uses left) :
      rule.editsOn .coordinate line = [] ↔ uses = [] := by
    rw [editsOn, Form.editsOn_eq_nil]
    change (coordinateParts rule.source.group rule.source.module line).any _ = false ↔ _
    rw [coordinateParts_uses used, any_slot_partsOfUses]
    simp
  refine ⟨?_, ?_, exists_uses _ _ line, fun uses left used => ⟨line_of_uses used,
    (applies used).symm, ?_⟩⟩
  · have colon : Pattern.escape rule.source.group ++ ':' :: Pattern.escape rule.source.module =
        Pattern.escape (rule.source.group ++ ':' :: rule.source.module) := by
      rw [Pattern.escape_append, Pattern.escape_cons]
      rfl
    rw [colon]
    exact Pattern.escape_means (by simp)
  · obtain ⟨uses, left, used⟩ := exists_uses rule.source.group rule.source.module line
    rw [ne_eq, applies used, uses_eq_nil used, not_forall_not]
  · rintro first others rfl
    refine ⟨rule.migrate_of_uses used (List.cons_ne_nil _ _), fun file number => ?_⟩
    rw [replacementOn, versionOn, rule.parts?_of_uses used (List.cons_ne_nil _ _),
      Option.bind_some, firstVersion?_partsOfUses]
    rfl

/-- A property with nothing behind it is the token. -/
def openLine : Text := "a:b:$\x7ba.\x7d\n".toList

def openUse : Use := ⟨[], "\x7b".toList, "a.".toList, "\x7d".toList⟩

theorem openLine_uses : Uses "a".toList "b".toList openLine [openUse] "\n".toList := by
  have nothing (before : Text) : ¬ OccursBehind "a".toList "b".toList before "\n".toList := by
    rintro ⟨c, rest, whole, _⟩
    have lengths := congrArg List.length whole
    have short : "\n".toList.length = 1 := rfl
    simp only [short, List.length_append, List.length_cons, List.length_nil] at lengths
    omega
  have cut : IsCut "\x7ba.".toList "\x7b".toList "a.".toList :=
    (isCut_iff (by decide)).mpr (by decide)
  exact @Uses.next _ _ [] "\x7ba.".toList _ _ "\x7d\n".toList _ [] _ rfl
    (fun other _ => Nat.zero_le other.length) (List.all_eq_true.mp rfl)
    (fun c starts => by cases starts; rfl) cut (.none nothing)

theorem openLine_migrated :
    libraryRule.migrate openLine = some "x:y:$\x7byVersion\x7d // Latest version: 1\n".toList ∧
      libraryRule.replacementOn "f".toList 1 openLine =
        some ⟨"f".toList, 1, "a.".toList, "yVersion".toList, "1".toList⟩ := by
  obtain ⟨_, _, _, form⟩ := migrate_coordinate_form libraryRule openLine
  obtain ⟨_, _, rewritten⟩ := form [openUse] "\n".toList openLine_uses
  obtain ⟨migrated, reported⟩ := rewritten openUse [] rfl
  exact ⟨migrated, reported _ _⟩

end Rule

end Migration
