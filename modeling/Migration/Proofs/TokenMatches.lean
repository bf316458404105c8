import Migration.Artifact.FormPattern
import Migration.Proofs.Captures
import Migration.Proofs.Opening
import Migration.Proofs.Pieces
import Migration.Proofs.Resolution

namespace Migration

/-! Version tokens as matches of a pattern.

The pattern takes as many properties as it can get and then a run of characters for the token.  If
nothing is left for the token, the last property is given back and belongs to it.
-/

namespace CharSet

theorem covers_cons (first past : Nat) (rest : List Nat) (code : Nat) :
    covers (first :: past :: rest) code = true ↔
      first ≤ code ∧ (code < past ∨ covers rest code = true) := by
  rw [covers]
  split
  · constructor
    · intro covered
      cases covered
    · omega
  · split
    · constructor
      · omega
      · exact fun _ => rfl
    · constructor
      · intro covered
        exact ⟨by omega, .inr covered⟩
      · rintro ⟨_, early | covered⟩
        · omega
        · exact covered

theorem covers_single (first code : Nat) : covers [first] code = true ↔ first ≤ code :=
  decide_eq_true_iff

theorem covers_nil (code : Nat) : covers [] code = false := rfl

end CharSet

namespace Declaration

open Pattern
open Text (byteLength byteLength_cons byteLength_append byteLength_reverse)

/-! The sets of characters. -/

theorem tokenCharacters_bounds : tokenCharacters.bounds =
    [0, 9, 14, 32, 33, 34, 35, 39, 40, 125, 126, 133, 134, 160, 161, 5760, 5761, 8192, 8203, 8232,
      8234, 8239, 8240, 8287, 8288, 12288, 12289] := by
  decide

theorem bareTokenCharacters_bounds : bareTokenCharacters.bounds =
    [0, 9, 14, 32, 33, 34, 35, 39, 40, 41, 42, 44, 45, 125, 126, 133, 134, 160, 161, 5760, 5761,
      8192, 8203, 8232, 8234, 8239, 8240, 8287, 8288, 12288, 12289] := by
  decide

theorem identifierStarts_bounds : identifierStarts.bounds = [65, 91, 95, 96, 97, 123] := by
  decide

theorem whiteSpace_bounds : Character.whiteSpace.bounds =
    [9, 14, 32, 33, 133, 134, 160, 161, 5760, 5761, 8192, 8203, 8232, 8234, 8239, 8240, 8287, 8288,
      12288, 12289] := by
  decide

theorem char_eq_iff_toNat {c : Char} (d : Char) : c = d ↔ c.toNat = d.toNat :=
  Char.toNat_inj.symm

theorem contains_tokenCharacters (c : Char) : tokenCharacters.contains c = isTokenChar c := by
  rw [Bool.eq_iff_iff, CharSet.contains, tokenCharacters_bounds]
  simp only [isTokenChar, Text.isBlank, char_eq_iff_toNat, Char.reduceToNat, CharSet.covers_cons,
    CharSet.covers_single, Bool.or_eq_false_iff, Bool.and_eq_false_iff, decide_eq_false_iff_not,
    beq_eq_false_iff_ne, Bool.not_eq_eq_eq_not, Bool.not_true]
  omega

theorem contains_bareTokenCharacters (c : Char) :
    bareTokenCharacters.contains c = isBareTokenChar c := by
  rw [Bool.eq_iff_iff, CharSet.contains, bareTokenCharacters_bounds]
  simp only [isBareTokenChar, isTokenChar, Text.isBlank, char_eq_iff_toNat, Char.reduceToNat,
    CharSet.covers_cons, CharSet.covers_single, Bool.and_eq_true, Bool.or_eq_false_iff,
    Bool.and_eq_false_iff, decide_eq_false_iff_not, beq_eq_false_iff_ne, Bool.not_eq_eq_eq_not,
    Bool.not_true]
  omega

theorem contains_identifierStarts (c : Char) :
    identifierStarts.contains c = isIdentifierStart c := by
  have between (low high : Char) :
      low ≤ c ∧ c ≤ high ↔ low.toNat ≤ c.toNat ∧ c.toNat ≤ high.toNat := Iff.rfl
  rw [Bool.eq_iff_iff, CharSet.contains, identifierStarts_bounds]
  simp only [isIdentifierStart, between, char_eq_iff_toNat, Char.reduceToNat, CharSet.covers_cons,
    CharSet.covers_nil, Bool.false_eq_true, Bool.or_eq_true, Bool.and_eq_true, decide_eq_true_eq,
    or_false]
  omega

theorem contains_whiteSpace (c : Char) : Character.whiteSpace.contains c = Text.isBlank c := by
  rw [Bool.eq_iff_iff, CharSet.contains, whiteSpace_bounds]
  simp only [Text.isBlank, CharSet.covers_cons, CharSet.covers_nil, Bool.false_eq_true,
    Bool.or_eq_true, Bool.and_eq_true, decide_eq_true_eq, beq_iff_eq, or_false]
  omega

/-! Properties. -/

/-- A text that begins with a name and a dot behind it, with `rest` behind them. -/
structure BeginsProperty (name rest text : Text) : Prop where
  identifier : isIdentifier name = true
  whole : text = name ++ '.' :: rest

theorem dot_not_identifier {name : Text} (identifier : isIdentifier name = true) : '.' ∉ name := by
  intro member
  cases name with
  | nil => cases member
  | cons c letters =>
      obtain ⟨start, words⟩ := Bool.and_eq_true_iff.mp identifier
      rcases List.mem_cons.mp member with rfl | member
      · exact absurd start (by decide)
      · exact absurd (List.all_eq_true.mp words _ member) (by decide)

theorem ends_property_cons {c : Char} {letters rest : Text} (start : isIdentifierStart c = true)
    (words : ∀ d ∈ letters, Text.isWord d = true) (ended : begins Text.wordCharacters rest = false)
    (before : Text) :
    ends property ⟨before, c :: (letters ++ rest)⟩ =
      ends (.literal ['.']) ⟨letters.reverse ++ c :: before, rest⟩ := by
  obtain ⟨others, tried, shorter⟩ := ends_anyRun words ended (c :: before)
  have given : others.flatMap (ends (.literal ['.'])) = [] := by
    refine List.flatMap_eq_nil_iff.mpr fun other member => ?_
    have letter := shorter other member
    rw [ends_char, if_neg]
    intro dot
    obtain ⟨left, after⟩ := List.head?_eq_some_iff.mp dot
    rw [after] at letter
    exact Bool.false_ne_true (Text.dot_not_word.symm.trans letter)
  have first := ends_member ((contains_identifierStarts c).trans start) before (letters ++ rest)
  simp only [property, ends, endsAll] at first tried given ⊢
  simp only [first, tried, List.flatMap_cons, List.flatMap_nil, List.flatMap_singleton', given,
    List.append_nil]

theorem ends_property {name rest text : Text} (begins : BeginsProperty name rest text)
    (before : Text) : ends property ⟨before, text⟩ = [⟨'.' :: (name.reverse ++ before), rest⟩] := by
  obtain ⟨identifier, rfl⟩ := begins
  cases name with
  | nil => cases identifier
  | cons c letters =>
      obtain ⟨start, words⟩ := Bool.and_eq_true_iff.mp identifier
      have ended : Pattern.begins Text.wordCharacters ('.' :: rest) = false := Text.dot_not_word
      rw [List.cons_append, ends_property_cons start (List.all_eq_true.mp words) ended, ends_char]
      simp

theorem ends_noProperty {text : Text} (none : ∀ name rest, ¬ BeginsProperty name rest text)
    (before : Text) : ends property ⟨before, text⟩ = [] := by
  cases text with
  | nil => rfl
  | cons c rest =>
      cases start : isIdentifierStart c with
      | false =>
          have first : begins identifierStarts (c :: rest) = false :=
            (contains_identifierStarts c).trans start
          rw [property, ends, endsAll, ends_nonmember first]
          rfl
      | true =>
          have words : ∀ d ∈ rest.takeWhile Text.isWord, Text.isWord d = true := fun d =>
            List.all_eq_true.mp List.all_takeWhile d
          have ended : begins Text.wordCharacters (rest.dropWhile Text.isWord) = false :=
            begins_dropWhile (fun _ => rfl) rest
          rw [← List.takeWhile_append_dropWhile (p := Text.isWord) (l := rest),
            ends_property_cons start words ended, ends_char, if_neg]
          intro dot
          obtain ⟨left, after⟩ := List.head?_eq_some_iff.mp dot
          refine none (c :: rest.takeWhile Text.isWord) left ⟨?_, ?_⟩
          · exact Bool.and_eq_true_iff.mpr ⟨start, List.all_takeWhile⟩
          · rw [List.cons_append, ← after, List.takeWhile_append_dropWhile]

/-! The property access in front of a token. -/

theorem fields_property {name rest text : Text} (begins : BeginsProperty name rest text) :
    Text.fields '.' text = name :: Text.fields '.' rest := by
  rw [begins.whole, Text.fields_append,
    Text.fields_of_not_mem (dot_not_identifier begins.identifier), List.singleton_append]

theorem splitProperties_property {name rest text : Text} (begins : BeginsProperty name rest text)
    (some : rest ≠ []) :
    splitProperties (Text.fields '.' text) =
      (name :: (splitProperties (Text.fields '.' rest)).1,
        (splitProperties (Text.fields '.' rest)).2) := by
  have more : Text.fields '.' rest ≠ [[]] := by
    intro single
    have whole := Text.intercalate_fields '.' rest
    rw [single, List.intercalate_singleton] at whole
    exact some whole.symm
  have isProperty : (isIdentifier name && !(Text.fields '.' rest).isEmpty &&
      Text.fields '.' rest != [[]]) = true := by
    simp [begins.identifier, Text.fields_ne_nil, more]
  rw [fields_property begins, splitProperties, if_pos isProperty]

theorem splitAccess_property {name rest text : Text} (begins : BeginsProperty name rest text)
    (some : rest ≠ []) :
    splitAccess text = (name ++ '.' :: (splitAccess rest).1, (splitAccess rest).2) := by
  rw [splitAccess, splitProperties_property begins some]
  simp [splitAccess]

/-- A text that begins with no property, or has nothing behind it, is a token. -/
theorem splitAccess_token_only {text : Text}
    (only : ∀ name rest, BeginsProperty name rest text → rest = []) :
    splitAccess text = ([], text) := by
  have whole := Text.intercalate_fields '.' text
  rw [splitAccess]
  cases fields : Text.fields '.' text with
  | nil => exact absurd fields (Text.fields_ne_nil _ _)
  | cons name others =>
      rw [fields] at whole
      have noProperty : ¬ (isIdentifier name && !others.isEmpty && others != [[]]) = true := by
        intro isProperty
        simp only [Bool.and_eq_true, Bool.not_eq_true', List.isEmpty_eq_false_iff, bne_iff_ne]
          at isProperty
        obtain ⟨⟨identifier, some⟩, more⟩ := isProperty
        obtain ⟨second, rest, rfl⟩ := List.exists_cons_of_ne_nil some
        rw [List.intercalate_cons_cons] at whole
        have begins : BeginsProperty name (['.'].intercalate (second :: rest)) text :=
          ⟨identifier, by rw [← whole]; simp⟩
        have last := fields_property begins
        rw [only _ _ begins, fields] at last
        exact more (List.cons.inj last).2
      rw [splitProperties, if_neg noProperty]
      exact Prod.ext rfl whole

theorem waysAll_properties (rest : List Pattern) (here : Cursor) :
    waysAll (properties :: rest) here =
      (greedy (ends property) here.after.length here).flatMap (waysAll rest) := by
  rw [waysAll_groupless rfl, properties, ends_repeated, copies, List.flatMap_singleton]
  rfl

section Access

variable {set : CharSet} {number : Nat} {rest : List Pattern}

theorem waysAll_noToken {after : Text} (ended : begins set after = false) (before : Text) :
    waysAll (token number set :: rest) ⟨before, after⟩ = [] := by
  rw [token, waysAll_group number rfl, ends_noRun ended]
  rfl

/-- Either a token can be given up only as a whole, or it never has to be. -/
def Settles (set : CharSet) (rest : List Pattern) : Prop :=
  Shuns set rest ∨ ∀ here, waysAll rest here ≠ []

variable (number) in
theorem head?_token (settles : Settles set rest) {run after : Text} (notEmpty : run ≠ [])
    (members : ∀ c ∈ run, set.contains c = true) (ended : begins set after = false)
    (before : Text) :
    (waysAll (token number set :: rest) ⟨before, run ++ after⟩).head? =
      (waysAll rest ⟨run.reverse ++ before, after⟩).head?.map
        (·.behind [(number, ⟨byteLength before, byteLength before + byteLength run⟩)]) := by
  obtain ⟨others, tried, shorter⟩ := ends_run notEmpty members ended before
  have size :
      Cursor.offset ⟨run.reverse ++ before, after⟩ = byteLength before + byteLength run := by
    simp [Cursor.offset, Nat.add_comm]
  rw [token, waysAll_group number rfl, tried, List.flatMap_cons, List.head?_append, List.head?_map,
    size]
  rcases settles with shuns | settles
  · have given : ∀ other ∈ others, waysAll rest other = [] := fun other member =>
      shuns other (shorter other member)
    rw [List.flatMap_eq_nil_iff.mpr fun other member => by rw [given other member]; rfl]
    exact Option.or_none
  · obtain ⟨way, ways, found⟩ := List.exists_cons_of_ne_nil
      (settles ⟨run.reverse ++ before, after⟩)
    rw [found]
    rfl

variable (plain : ∀ c, Text.isPlain c = true → set.contains c = true)

include plain

/-- What does not belong to a run does not belong to a property in it. -/
theorem beginsProperty_of_append {name left run after : Text}
    (begins : BeginsProperty name left (run ++ after)) (ended : Pattern.begins set after = false) :
    ∃ behind, BeginsProperty name behind run ∧ left = behind ++ after := by
  have whole : run ++ after = (name ++ ['.']) ++ left := by rw [begins.whole]; simp
  rcases List.append_eq_append_iff.mp whole with ⟨beyond, reached, rest⟩ | ⟨behind, inside, rest⟩
  · cases beyond with
    | nil =>
        rw [List.append_nil] at reached
        exact ⟨[], ⟨begins.identifier, reached.symm⟩, rest.symm⟩
    | cons c beyond =>
        have member : c ∈ name ++ ['.'] := by simp [reached]
        have isPlain : Text.isPlain c = true := by
          rcases List.mem_append.mp member with member | dot
          · exact plain_of_identifier begins.identifier c member
          · rw [List.mem_singleton.mp dot]
            decide
        rw [rest] at ended
        exact absurd ((plain c isPlain).symm.trans ended) (by simp)
  · exact ⟨behind, ⟨begins.identifier, by rw [inside]; simp⟩, rest⟩

theorem noProperty_of_ended {after : Text} (ended : Pattern.begins set after = false)
    (name left : Text) : ¬ BeginsProperty name left after := by
  intro begins
  have inFront : BeginsProperty name left ([] ++ after) := begins
  obtain ⟨behind, within, _⟩ := beginsProperty_of_append plain inFront ended
  cases name with
  | nil => cases within.whole
  | cons c name => cases within.whole

theorem head?_access (settles : Settles set rest) {run after : Text} (notEmpty : run ≠ [])
    (members : ∀ c ∈ run, set.contains c = true) (ended : begins set after = false) {most : Nat}
    (enough : run.length ≤ most) (before : Text) :
    ((greedy (ends property) most ⟨before, run ++ after⟩).flatMap
        (waysAll (token number set :: rest))).head? =
      (waysAll rest ⟨run.reverse ++ before, after⟩).head?.map
        (·.behind [(number, ⟨byteLength before + byteLength (splitAccess run).1,
          byteLength before + byteLength run⟩)]) := by
  induction most generalizing run before with
  | zero => exact absurd (List.length_eq_zero_iff.mp (Nat.le_zero.mp enough)) notEmpty
  | succ most ih =>
      have whole := head?_token number settles notEmpty members ended before
      by_cases some : ∃ name left, BeginsProperty name left run
      · obtain ⟨name, left, begins⟩ := some
        have beginsAll : BeginsProperty name (left ++ after) (run ++ after) :=
          ⟨begins.identifier, by rw [begins.whole]; simp⟩
        have fewer : left.length < run.length := by
          rw [begins.whole, List.length_append, List.length_cons]
          omega
        have shorter : (left ++ after).length < (run ++ after).length := by
          rw [List.length_append, List.length_append]
          omega
        have turned : left.reverse ++ '.' :: (name.reverse ++ before) = run.reverse ++ before := by
          rw [begins.whole]
          simp
        rw [greedy, ends_property beginsAll]
        simp only [List.filter_cons, List.filter_nil, shorter, decide_true, if_true,
          List.flatMap_singleton, List.flatMap_append, List.head?_append]
        rw [whole]
        by_cases nothing : left = []
        · subst nothing
          have only : ∀ other behind, BeginsProperty other behind run → behind = [] := by
            intro other behind othersBegin
            have same := (fields_property begins).symm.trans (fields_property othersBegin)
            have rests := congrArg (List.intercalate ['.']) (List.cons.inj same).2
            rwa [Text.intercalate_fields, Text.intercalate_fields, eq_comm] at rests
          rw [List.nil_append, greedy_nothing (ends_noProperty (noProperty_of_ended plain ended) _),
            List.flatMap_singleton, waysAll_noToken ended, splitAccess_token_only only]
          rfl
        · have leftMembers : ∀ c ∈ left, set.contains c = true := fun c member =>
            members c (by rw [begins.whole]; simp [member])
          rw [ih nothing leftMembers (by omega), turned, splitAccess_property begins nothing]
          cases (waysAll rest ⟨run.reverse ++ before, after⟩).head? with
          | none => rfl
          | some way =>
              have size : byteLength run = byteLength name + ('.'.utf8Size + byteLength left) := by
                rw [begins.whole, byteLength_append, byteLength_cons]
              simp only [size, Option.map_some, Option.some_or, byteLength_cons,
                byteLength_append, byteLength_reverse, Nat.add_assoc, Nat.add_comm,
                Nat.add_left_comm]
      · have none : ∀ name left, ¬ BeginsProperty name left (run ++ after) := by
          intro name left begins
          obtain ⟨behind, within, _⟩ := beginsProperty_of_append plain begins ended
          exact some ⟨name, behind, within⟩
        rw [greedy_nothing (ends_noProperty none before), List.flatMap_singleton, whole,
          splitAccess_token_only fun name left begins => absurd ⟨name, left, begins⟩ some]
        rfl

end Access

end Declaration

end Migration
