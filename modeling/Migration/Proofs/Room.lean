import Mathlib.Data.List.SplitBy
import Migration.Artifact.Rule
import Migration.Proofs.CharacterBytes

namespace Migration

/-! The room that the search for a declaration takes.

States that are shared only save room, so that the room of a pattern is at most what its parts take
without sharing.  For the two forms of a declaration this is a fixed number of bytes and 32 for each
byte of a literal, which leaves room enough for every coordinate of a modest size.
-/

namespace Pattern

open Footprint (stepSize choiceSize limit addTimes)

theorem bytes_add (footprint : Footprint) (states contents : Nat) :
    (footprint.add states contents).bytes = footprint.bytes + 32 * states + contents := rfl

/-! States of an automaton. -/

theorem bytes_share {State : Type} [BEq State] (place : Nat) (state : State) (contents : Nat)
    (table : Shared State) (footprint : Footprint) :
    (share place state contents table footprint).2.2.bytes ≤ footprint.bytes + 32 + contents := by
  have fresh : (footprint.add 1 contents).bytes ≤ footprint.bytes + 32 + contents :=
    Nat.le_of_eq (bytes_add footprint 1 contents)
  have shared : footprint.bytes ≤ footprint.bytes + 32 + contents := by omega
  rw [share]
  split
  · split
    · exact shared
    · exact fresh
  · exact fresh

/-- How many ranges stand in some sequences. -/
def rangeCount (sequences : List (List ByteRange)) : Nat :=
  sequences.flatten.length

theorem rangeCount_cons (first : List ByteRange) (rest : List (List ByteRange)) :
    rangeCount (first :: rest) = first.length + rangeCount rest := by
  rw [rangeCount, List.flatten_cons, List.length_append, rangeCount]

theorem rangeCount_append (first rest : List (List ByteRange)) :
    rangeCount (first ++ rest) = rangeCount first + rangeCount rest := by
  rw [rangeCount, List.flatten_append, List.length_append, rangeCount, rangeCount]

theorem rangeCount_tail_le (sequences : List (List ByteRange)) :
    rangeCount (sequences.map List.tail) ≤ rangeCount sequences := by
  induction sequences with
  | nil => exact Nat.le_refl _
  | cons first rest induction =>
      rw [List.map_cons, rangeCount_cons, rangeCount_cons, List.length_tail]
      omega

/-- The forks of some depth, and with them all that is deeper, take no more than 40 bytes for each
range and one more state. -/
def ForksFit (last fuel : Nat) : Prop :=
  ∀ sequences table footprint, (addFork last fuel sequences table footprint).2.2.bytes ≤
    footprint.bytes + 32 + 40 * rangeCount sequences

theorem bytes_addBranches {last fuel : Nat} (deeper : ForksFit last fuel)
    (groups : List (List (List ByteRange))) (fork : Fork) (table : Shared Fork)
    (footprint : Footprint) :
    (addBranches last fuel groups fork table footprint).2.2.bytes +
        stepSize * (addBranches last fuel groups fork table footprint).1.length ≤
      footprint.bytes + stepSize * fork.length + 40 * rangeCount groups.flatten := by
  induction groups generalizing fork table footprint with
  | nil =>
      rw [addBranches, List.length_reverse]
      exact Nat.le_add_right _ _
  | cons alike rest induction =>
      rw [List.flatten_cons, rangeCount_append]
      have same := induction fork table footprint
      -- The sequences of a group begin with the same range, so the first one tells the branch.
      rcases alike with - | ⟨- | ⟨range, - | ⟨second, others⟩⟩, more⟩
      · rw [addBranches]
        · omega
        all_goals simp
      · rw [addBranches]
        · omega
        all_goals simp
      · have behind := induction ((range, last) :: fork) table footprint
        rw [addBranches, rangeCount_cons, List.length_singleton]
        rw [List.length_cons] at behind
        simp only [stepSize] at *
        omega
      · have below := deeper (((range :: second :: others) :: more).map List.tail) table footprint
        have fewer := rangeCount_tail_le more
        rw [addBranches]
        · rw [List.map_cons, List.tail_cons] at *
          rw [rangeCount_cons] at *
          generalize addFork last fuel _ table footprint = added at *
          obtain ⟨next, table, added⟩ := added
          have behind := induction ((range, next) :: fork) table added
          simp only [List.length_cons, stepSize] at *
          omega
        all_goals simp

/-- A state that reads several sequences is added after the states that its branches lead to. -/
theorem forksFit (last fuel : Nat) : ForksFit last fuel := by
  induction fuel with
  | zero =>
      intro sequences table footprint
      rw [addFork, Nat.add_assoc]
      exact Nat.le_add_right _ _
  | succ fuel deeper =>
      intro sequences table footprint
      rw [addFork]
      have parted := bytes_addBranches deeper
        (sequences.splitBy fun one other => one.head? == other.head?) [] table footprint
      rw [List.flatten_splitBy, List.length_nil] at parted
      generalize addBranches last fuel _ [] table footprint = added at *
      obtain ⟨fork, table, added⟩ := added
      have shared := bytes_share fork.place fork (stepSize * fork.length) table added
      dsimp only at *
      omega

theorem bytes_addChain (next : Nat) (table : Shared Link) (footprint : Footprint)
    (sequence : List ByteRange) :
    (addChain next table footprint sequence).2.bytes ≤ footprint.bytes + 32 * sequence.length := by
  induction sequence generalizing next table footprint with
  | nil => exact Nat.le_add_right _ _
  | cons range rest induction =>
      have shared := bytes_share (Link.place (next, range)) (next, range) 0 table footprint
      rw [addChain, List.length_cons]
      generalize share (Link.place (next, range)) (next, range) 0 table footprint = added at *
      obtain ⟨number, table, added⟩ := added
      have behind := induction number table added
      dsimp only at *
      omega

theorem bytes_addChains (next : Nat) (sequences : List (List ByteRange))
    (table : Shared Link) (footprint : Footprint) :
    (sequences.foldl (fun (table, footprint) sequence => addChain next table footprint sequence)
      (table, footprint)).2.bytes ≤ footprint.bytes + 32 * rangeCount sequences := by
  induction sequences generalizing table footprint with
  | nil => exact Nat.le_add_right _ _
  | cons sequence rest induction =>
      have first := bytes_addChain next table footprint sequence
      rw [List.foldl_cons, rangeCount_cons]
      dsimp only
      generalize addChain next table footprint sequence = added at *
      obtain ⟨table, added⟩ := added
      have behind := induction table added
      dsimp only at *
      omega

/-! Sets. -/

/-- How many sequences of byte ranges the characters of a set are encoded by. -/
def sequenceCount (set : CharSet) : Nat :=
  (set.ranges.flatMap fun (low, high) => encodable 32 low high).length

theorem length_byteSequences (set : CharSet) : (byteSequences set).length = sequenceCount set := by
  rw [byteSequences, ← List.map_flatMap, List.length_map, sequenceCount]

theorem length_encoding (code : Nat) : (encoding code).length ≤ 4 := by
  rw [encoding, List.length_map, String.length_utf8EncodeChar]
  exact Char.utf8Size_le_four _

theorem length_of_mem_byteSequences {set : CharSet} {sequence : List ByteRange}
    (member : sequence ∈ byteSequences set) : sequence.length ≤ 4 := by
  simp only [byteSequences, List.mem_flatMap, List.mem_map, Prod.exists] at member
  obtain ⟨_, _, _, low, high, _, rfl⟩ := member
  rw [List.length_zip]
  exact Nat.le_trans (Nat.min_le_left _ _) (length_encoding low)

theorem rangeCount_le {sequences : List (List ByteRange)}
    (short : ∀ sequence ∈ sequences, sequence.length ≤ 4) :
    rangeCount sequences ≤ 4 * sequences.length := by
  induction sequences with
  | nil => exact Nat.le_refl _
  | cons first rest induction =>
      obtain ⟨firstShort, restShort⟩ := List.forall_mem_cons.mp short
      have fewer := induction restShort
      rw [rangeCount_cons, List.length_cons]
      omega

/-- The room for a set of characters, if no states are shared. -/
def setRoom (set : CharSet) : Nat :=
  64 + stepSize * set.ranges.length + 164 * sequenceCount set

theorem bytes_addSet (direction : Direction) (set : CharSet) (footprint : Footprint) :
    (addSet direction set footprint).bytes ≤ footprint.bytes + setRoom set := by
  have ranges := rangeCount_le (@length_of_mem_byteSequences set)
  have ascii : (footprint.add 2 (stepSize * set.ranges.length)).bytes ≤
      footprint.bytes + setRoom set := by
    rw [bytes_add, setRoom]
    omega
  rw [length_byteSequences] at ranges
  cases direction with
  | forward =>
      rw [addSet]
      split
      · exact ascii
      · refine Nat.le_trans (forksFit footprint.states 4 (byteSequences set) {} _) ?_
        rw [bytes_add, setRoom]
        omega
  | backward =>
      rw [addSet]
      split
      · exact ascii
      · refine Nat.le_trans (bytes_addChains (footprint.states + 1) (byteSequences set) {} _) ?_
        rw [bytes_add, setRoom, length_byteSequences, choiceSize]
        omega

/-! Patterns. -/

/-- However the pattern is read, its states take no more than `room`. -/
def TakesAtMost (pattern : Pattern) (room : Nat) : Prop :=
  ∀ direction footprint, (addPattern direction pattern footprint).bytes ≤ footprint.bytes + room

/-- However they are read one after the other, the states of the parts take no more than `room`. -/
def AllTakeAtMost (parts : List Pattern) (room : Nat) : Prop :=
  ∀ direction footprint, (addAll direction parts footprint).bytes ≤ footprint.bytes + room

/-- However they are read as alternatives, the states of the parts take no more than `room`. -/
def AnyTakesAtMost (alternatives : List Pattern) (room : Nat) : Prop :=
  ∀ direction index footprint,
    (addAny direction index alternatives footprint).bytes ≤ footprint.bytes + room

variable {body : Pattern} {parts : List Pattern} {room more : Nat}

theorem TakesAtMost.mono (takes : TakesAtMost body room) (fewer : room ≤ more) :
    TakesAtMost body more := fun direction footprint =>
  Nat.le_trans (takes direction footprint) (Nat.add_le_add_left fewer _)

theorem takesAtMost_literal (wanted : Text) :
    TakesAtMost (.literal wanted) (32 * (Utf8.encode wanted).length) := by
  intro direction footprint
  rw [addPattern, bytes_add]
  exact Nat.le_refl _

theorem takesAtMost_one (set : CharSet) : TakesAtMost (.one set) (setRoom set) := by
  intro direction footprint
  rw [addPattern]
  exact bytes_addSet direction set footprint

theorem TakesAtMost.group (takes : TakesAtMost body room) (number : Nat) :
    TakesAtMost (.group number body) (room + 64) := by
  intro direction footprint
  cases direction with
  | forward =>
      have inside := takes .forward (footprint.add 1 0)
      rw [addPattern, bytes_add]
      rw [bytes_add] at inside
      omega
  | backward =>
      have inside := takes .backward footprint
      rw [addPattern]
      omega

theorem allTakeAtMost_nil : AllTakeAtMost [] 0 := by
  intro direction footprint
  rw [addAll]
  exact Nat.le_refl _

theorem AllTakeAtMost.cons (behind : AllTakeAtMost parts more) (first : TakesAtMost body room) :
    AllTakeAtMost (body :: parts) (room + more) := by
  intro direction footprint
  cases direction with
  | forward =>
      have added := first .forward footprint
      have rest := behind .forward (addPattern .forward body footprint)
      rw [addAll]
      omega
  | backward =>
      have added := behind .backward footprint
      have rest := first .backward (addAll .backward parts footprint)
      rw [addAll]
      omega

theorem AllTakeAtMost.mono (takes : AllTakeAtMost parts room) (fewer : room ≤ more) :
    AllTakeAtMost parts more := fun direction footprint =>
  Nat.le_trans (takes direction footprint) (Nat.add_le_add_left fewer _)

theorem AllTakeAtMost.sequence (takes : AllTakeAtMost parts room) :
    TakesAtMost (.sequence parts) room := by
  intro direction footprint
  rw [addPattern]
  exact takes direction footprint

theorem anyTakesAtMost_nil : AnyTakesAtMost [] 0 := by
  intro direction index footprint
  rw [addAny]
  exact Nat.le_refl _

theorem AnyTakesAtMost.cons (behind : AnyTakesAtMost parts more) (first : TakesAtMost body room) :
    AnyTakesAtMost (body :: parts) (room + 68 + more) := by
  intro direction index footprint
  have added := first direction footprint
  have parting : (if index = 1 then 2 else 0) ≤ 2 := by
    split <;> decide
  have rest := behind direction (index + 1)
    ((addPattern direction body footprint).add (if index = 1 then 2 else 0) choiceSize)
  rw [bytes_add, choiceSize] at rest
  rw [addAny]
  dsimp only [choiceSize]
  omega

theorem AnyTakesAtMost.either (takes : AnyTakesAtMost parts room)
    (notLiteral : parts.mapM literal? = none) : TakesAtMost (.either parts) room := by
  intro direction footprint
  rw [addPattern, notLiteral]
  exact takes direction 0 footprint

theorem bytes_addTimes_one {part : Footprint → Footprint}
    (takes : ∀ footprint, (part footprint).bytes ≤ footprint.bytes + room) (footprint : Footprint) :
    (addTimes part 1 footprint).bytes ≤ footprint.bytes + room := by
  rw [addTimes]
  split
  · exact takes footprint
  · exact Nat.le_add_right _ _

/-- A state that parts in two ways. -/
theorem bytes_choices (footprint : Footprint) :
    (footprint.add 1 (2 * choiceSize)).bytes = footprint.bytes + 40 := rfl

theorem TakesAtMost.unbounded (takes : TakesAtMost body room) {least : Nat} (few : least ≤ 1) :
    TakesAtMost (.repeated body least none) (room + 112) := by
  intro direction footprint
  rw [addPattern]
  dsimp only
  split
  · split
    · have inside := takes direction (footprint.add 1 (2 * choiceSize))
      rw [bytes_choices] at inside
      omega
    · have inside := takes direction footprint
      rw [bytes_add, bytes_choices, bytes_choices]
      omega
  · obtain rfl : least = 1 := by omega
    have once := bytes_addTimes_one (takes direction) footprint
    rw [bytes_choices]
    omega

theorem TakesAtMost.optional (takes : TakesAtMost body room) :
    TakesAtMost (.repeated body 0 (some 1)) (room + 72) := by
  intro direction footprint
  have inside := takes direction (footprint.add 1 (2 * choiceSize))
  rw [bytes_choices] at inside
  rw [addPattern]
  change ((addPattern direction body (footprint.add 1 (2 * choiceSize))).add 1 0).bytes ≤ _
  rw [bytes_add]
  omega

theorem bytes_footprint (takes : TakesAtMost body room) (direction : Direction) :
    (body.footprint direction).bytes ≤ room + 208 := by
  -- Where reading begins takes three states at most, and a step and two choices.
  have begins (fixed : Bool) : (if fixed then Footprint.add {} 1 0
      else Footprint.add {} 3 (stepSize + 2 * choiceSize)).bytes ≤ 112 := by
    cases fixed <;> decide
  cases direction with
  | forward =>
      have start := begins (anchored .forward .textStart body)
      rw [footprint]
      generalize (if anchored .forward .textStart body = true then _ else _) = footprint at *
      have inside := takes .forward (footprint.add 1 0)
      rw [bytes_add] at *
      omega
  | backward =>
      have start := begins (anchored .backward .textEnd body)
      rw [footprint]
      generalize (if anchored .backward .textEnd body = true then _ else _) = footprint at *
      have inside := takes .backward footprint
      rw [bytes_add]
      omega

theorem isSmall_of_takes (takes : TakesAtMost body room) (enough : room + 208 ≤ limit) :
    body.isSmall = true := by
  have fits (direction : Direction) : (body.footprint direction).fits = true :=
    decide_eq_true (Nat.le_trans (bytes_footprint takes direction) enough)
  rw [isSmall, fits, fits, Bool.and_true]

end Pattern

namespace Declaration

open Pattern
open Footprint (limit)

/-! Parts of the two forms.

The bounds leave some slack, so that they outlast small changes of a set or a pattern.
-/

theorem length_encode_le (text : Text) : (Utf8.encode text).length ≤ 4 * text.length := by
  induction text with
  | nil => exact Nat.le_refl _
  | cons c rest induction =>
      have short := Char.utf8Size_le_four c
      rw [Utf8.encode_cons, List.length_append, String.length_utf8EncodeChar, List.length_cons]
      omega

theorem takesAtMost_literal_le (wanted : Text) :
    TakesAtMost (.literal wanted) (128 * wanted.length) := by
  have short := length_encode_le wanted
  exact (takesAtMost_literal wanted).mono (by omega)

theorem takesAtMost_properties : TakesAtMost properties 180000 := by
  have starts : setRoom identifierStarts ≤ 1000 := by decide
  have words : setRoom Text.wordCharacters ≤ 170000 := by decide +kernel
  have property := allTakeAtMost_nil.cons (takesAtMost_literal_le ['.'])
    |>.cons (((takesAtMost_one Text.wordCharacters).mono words).unbounded (Nat.zero_le 1))
    |>.cons ((takesAtMost_one identifierStarts).mono starts)
    |>.sequence
  exact (property.unbounded (Nat.zero_le 1)).mono (by decide)

theorem takesAtMost_token (number : Nat) {set : CharSet} (small : setRoom set ≤ 6000) :
    TakesAtMost (token number set) 6176 :=
  (((takesAtMost_one set).mono small).unbounded (Nat.le_refl 1)).group number

theorem takesAtMost_optional (mark : Char) : TakesAtMost (optional mark) 200 :=
  (takesAtMost_literal_le [mark]).optional

theorem setRoom_tokenCharacters : setRoom tokenCharacters ≤ 6000 := by decide

theorem setRoom_bareTokenCharacters : setRoom bareTokenCharacters ≤ 6000 := by decide

theorem allTakeAtMost_braces (number : Nat) (close : Text) :
    AllTakeAtMost (braces number close) (186432 + 128 * close.length) := by
  have takes := allTakeAtMost_nil.cons (takesAtMost_literal_le ('\x7d' :: close))
    |>.cons (takesAtMost_token number setRoom_tokenCharacters)
    |>.cons takesAtMost_properties
    |>.cons (takesAtMost_literal_le ['\x7b'])
  refine takes.mono ?_
  simp only [List.length_cons, List.length_nil]
  omega

theorem takesAtMost_quotedBraces (quote : Char) (number : Nat) :
    TakesAtMost (.sequence (.literal [quote] :: optional '$' :: braces number [quote])) 187000 :=
  ((allTakeAtMost_braces number [quote]).cons (takesAtMost_optional '$')
    |>.cons (takesAtMost_literal_le [quote])).sequence.mono (by rw [List.length_singleton]; omega)

theorem takesAtMost_quotedRun (quote : Char) (number : Nat) :
    TakesAtMost (.sequence [.literal [quote], optional '$', properties,
      token number tokenCharacters, .literal [quote]]) 187000 := by
  have takes := allTakeAtMost_nil.cons (takesAtMost_literal_le [quote])
    |>.cons (takesAtMost_token number setRoom_tokenCharacters)
    |>.cons takesAtMost_properties
    |>.cons (takesAtMost_optional '$')
    |>.cons (takesAtMost_literal_le [quote])
    |>.sequence
  exact takes.mono (by rw [List.length_singleton]; omega)

theorem takesAtMost_value : TakesAtMost value 1200000 := by
  have bareBraces : TakesAtMost (.sequence (optional '$' :: braces 9 [])) 187000 :=
    ((allTakeAtMost_braces 9 []).cons (takesAtMost_optional '$')).sequence.mono (by decide)
  have bareRun : TakesAtMost (.sequence [optional '$', properties, token 10 bareTokenCharacters])
      187000 :=
    (allTakeAtMost_nil.cons (takesAtMost_token 10 setRoom_bareTokenCharacters)
      |>.cons takesAtMost_properties
      |>.cons (takesAtMost_optional '$')).sequence.mono (by decide)
  have takes := anyTakesAtMost_nil.cons bareRun
    |>.cons bareBraces
    |>.cons (takesAtMost_quotedRun '\x27' 8)
    |>.cons (takesAtMost_quotedBraces '\x27' 7)
    |>.cons (takesAtMost_quotedRun '"' 6)
    |>.cons (takesAtMost_quotedBraces '"' 5)
  exact (takes.either rfl).mono (by decide)

theorem takesAtMost_spaces : TakesAtMost spaces 2112 := by
  have small : setRoom Character.whiteSpace ≤ 2000 := by decide
  exact ((takesAtMost_one Character.whiteSpace).mono small).unbounded (Nat.zero_le 1)

theorem allTakeAtMost_separator {parts : List Pattern} {room : Nat}
    (behind : AllTakeAtMost parts room) (mark : Char) :
    AllTakeAtMost (spaces :: .literal [mark] :: spaces :: parts) (4352 + room) := by
  have takes := (behind.cons takesAtMost_spaces).cons (takesAtMost_literal_le [mark])
    |>.cons takesAtMost_spaces
  refine takes.mono ?_
  rw [List.length_singleton]
  omega

theorem takesAtMost_inQuotes (quote : Char) (number : Nat) (literal : Text) :
    TakesAtMost (.sequence [.literal [quote], .group number (.literal literal), .literal [quote]])
      (320 + 32 * literal.str.utf8ByteSize) := by
  have takes := allTakeAtMost_nil.cons (takesAtMost_literal_le [quote])
    |>.cons ((takesAtMost_literal literal).group number)
    |>.cons (takesAtMost_literal_le [quote])
    |>.sequence
  refine takes.mono ?_
  rw [List.length_singleton, Utf8.length_encode]
  omega

theorem takesAtMost_quoted (double single : Nat) (literal : Text) :
    TakesAtMost (quoted double single literal) (776 + 64 * literal.str.utf8ByteSize) := by
  have takes := anyTakesAtMost_nil.cons (takesAtMost_inQuotes '\x27' single literal)
    |>.cons (takesAtMost_inQuotes '"' double literal)
  refine (takes.either rfl).mono ?_
  omega

/-! The two forms. -/

variable (source : Coordinate)

theorem takesAtMost_coordinatePattern :
    TakesAtMost (coordinatePattern source.group source.module) (200000 + 32 * source.size) := by
  have takes := allTakeAtMost_nil.cons (takesAtMost_optional '\x7d')
    |>.cons (takesAtMost_token 2 setRoom_tokenCharacters)
    |>.cons takesAtMost_properties
    |>.cons (takesAtMost_optional '\x7b')
    |>.cons (takesAtMost_literal_le [':', '$'])
    |>.cons ((takesAtMost_literal (source.group ++ ':' :: source.module)).group 1)
    |>.sequence
  refine takes.mono ?_
  have colon : (Utf8.encode (':' :: source.module)).length =
      1 + (Utf8.encode source.module).length := by
    rw [Utf8.encode_cons, List.length_append]
    rfl
  rw [Utf8.encode_append, List.length_append, colon, Utf8.length_encode, Utf8.length_encode,
    Coordinate.size]
  simp only [List.length_cons, List.length_nil]
  omega

theorem takesAtMost_keywordPattern :
    TakesAtMost (keywordPattern source.group source.module) (1300000 + 64 * source.size) := by
  have version := allTakeAtMost_separator (allTakeAtMost_nil.cons takesAtMost_value) ':'
    |>.cons (takesAtMost_literal_le "version".toList)
  have name := allTakeAtMost_separator ((allTakeAtMost_separator version ',').cons
      (takesAtMost_quoted 3 4 source.module)) ':'
    |>.cons (takesAtMost_literal_le "name".toList)
  have group := allTakeAtMost_separator ((allTakeAtMost_separator name ',').cons
      (takesAtMost_quoted 1 2 source.group)) ':'
    |>.cons (takesAtMost_literal_le "group".toList)
  refine group.sequence.mono ?_
  have words : "version".toList.length = 7 ∧ "name".toList.length = 4 ∧
      "group".toList.length = 5 := by decide
  rw [words.1, words.2.1, words.2.2, Coordinate.size]
  omega

variable {source}

theorem isSmall_of_modest (modest : source.size ≤ Coordinate.modestSize) :
    (coordinatePattern source.group source.module).isSmall = true ∧
      (keywordPattern source.group source.module).isSmall = true := by
  rw [Coordinate.modestSize] at modest
  have limitIs : limit = 10485760 := rfl
  exact ⟨isSmall_of_takes (takesAtMost_coordinatePattern source) (by omega),
    isSmall_of_takes (takesAtMost_keywordPattern source) (by omega)⟩

end Declaration

/-- A coordinate is refused exactly if the pattern of one of its forms is too large, and for the
first such form.  That modest coordinates are not measured makes no difference. -/
theorem Rule.checkRoom_eq (source : Coordinate) :
    checkRoom source =
      if (Declaration.coordinatePattern source.group source.module).isSmall = false then
        .error (.tooLarge "coordinate")
      else if (Declaration.keywordPattern source.group source.module).isSmall = false then
        .error (.tooLarge "keyword")
      else .ok () := by
  rw [checkRoom]
  by_cases modest : source.size ≤ Coordinate.modestSize
  · obtain ⟨coordinate, keyword⟩ := Declaration.isSmall_of_modest modest
    rw [if_pos modest, coordinate, keyword]
    rfl
  · rw [if_neg modest]
    simp only [Bool.not_eq_true']

end Migration
