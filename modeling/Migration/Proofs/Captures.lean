import Migration.Proofs.Declaration
import Migration.Proofs.Encoding
import Migration.Proofs.FirstMatch

namespace Migration

/-! What the groups of a match capture.

A way in which a pattern matches leaves, for every group it goes through, the span of what the
group matched, counted in the bytes of the text's encoding.  Of several such spans the last one
counts.  A span can be used to cut a text only if it begins and ends between two characters.
-/

namespace Text

def byteLength (text : Text) : Nat :=
  (Utf8.encode text).length

@[simp] theorem byteLength_nil : byteLength [] = 0 := rfl

@[simp] theorem byteLength_cons (c : Char) (text : Text) :
    byteLength (c :: text) = c.utf8Size + byteLength text := by
  rw [byteLength, Utf8.encode_cons, List.length_append, String.length_utf8EncodeChar, byteLength]

@[simp] theorem byteLength_append (first second : Text) :
    byteLength (first ++ second) = byteLength first + byteLength second := by
  rw [byteLength, Utf8.encode, List.flatMap_append, List.length_append]
  rfl

@[simp] theorem byteLength_reverse (text : Text) : byteLength text.reverse = byteLength text := by
  induction text with
  | nil => rfl
  | cons c rest ih =>
      rw [List.reverse_cons, byteLength_append, ih, byteLength_cons, byteLength_cons,
        byteLength_nil]
      omega

/-- The text cut behind the given number of bytes, unless that is within a character or beyond the
end. -/
def cut? : (count : Nat) → Text → Option (Text × Text)
  | 0, text => some ([], text)
  | _ + 1, [] => none
  | count + 1, c :: rest =>
      if c.utf8Size ≤ count + 1 then
        (cut? (count + 1 - c.utf8Size) rest).map fun cut => (c :: cut.1, cut.2)
      else none

theorem byteLength_eq_zero {text : Text} : byteLength text = 0 ↔ text = [] := by
  cases text with
  | nil => simp
  | cons c rest =>
      have some := Char.utf8Size_pos c
      rw [byteLength_cons]
      constructor
      · intro nothing
        omega
      · intro nothing
        cases nothing

@[simp] theorem cut?_zero (text : Text) : cut? 0 text = some ([], text) := by
  cases text <;> rfl

theorem cut?_eq_some {count : Nat} {text front behind : Text} :
    cut? count text = some (front, behind) ↔ front ++ behind = text ∧ byteLength front = count := by
  induction text generalizing count front with
  | nil =>
      cases count with
      | zero =>
          rw [cut?_zero, byteLength_eq_zero, Option.some_inj, Prod.mk.injEq, List.append_eq_nil_iff]
          constructor
          · rintro ⟨rfl, rfl⟩
            exact ⟨⟨rfl, rfl⟩, rfl⟩
          · rintro ⟨⟨rfl, rfl⟩, -⟩
            exact ⟨rfl, rfl⟩
      | succ count =>
          constructor
          · intro found
            cases found
          · rintro ⟨nothing, size⟩
            rw [(List.append_eq_nil_iff.mp nothing).1] at size
            cases size
  | cons c rest ih =>
      cases count with
      | zero =>
          rw [cut?_zero, byteLength_eq_zero, Option.some_inj, Prod.mk.injEq]
          constructor
          · rintro ⟨rfl, rfl⟩
            exact ⟨rfl, rfl⟩
          · rintro ⟨whole, rfl⟩
            exact ⟨rfl, whole.symm⟩
      | succ count =>
          have some := Char.utf8Size_pos c
          rw [cut?]
          constructor
          · intro found
            split at found
            · obtain ⟨⟨inner, left⟩, within, same⟩ := Option.map_eq_some_iff.mp found
              cases same
              obtain ⟨whole, size⟩ := ih.mp within
              refine ⟨congrArg (List.cons c) whole, ?_⟩
              rw [byteLength_cons, size]
              omega
            · cases found
          · rintro ⟨whole, size⟩
            cases front with
            | nil => cases size
            | cons d front =>
                rw [List.cons_append, List.cons.injEq] at whole
                obtain ⟨rfl, whole⟩ := whole
                rw [byteLength_cons] at size
                have left : byteLength front = count + 1 - d.utf8Size := by omega
                rw [if_pos (by omega), ih.mpr ⟨whole, left⟩]
                rfl

end Text

namespace Pattern

/-- The part of a text with the given span in bytes. -/
def Span.slice? (span : Span) (text : Text) : Option Text := do
  let upTo ← Text.cut? span.stop text
  let found ← Text.cut? span.start upTo.1
  return found.2

theorem Span.slice?_eq_some {span : Span} {text found : Text} :
    span.slice? text = some found ↔ ∃ front behind, text = front ++ found ++ behind ∧
      Text.byteLength front = span.start ∧ Text.byteLength (front ++ found) = span.stop := by
  simp only [Span.slice?, Option.bind_eq_bind, Option.bind_eq_some_iff, Prod.exists,
    Text.cut?_eq_some, Option.pure_def, Option.some_inj]
  constructor
  · rintro ⟨upTo, behind, ⟨whole, stop⟩, front, other, ⟨cut, start⟩, rfl⟩
    exact ⟨front, behind, by rw [cut, whole], start, by rw [cut, stop]⟩
  · rintro ⟨front, behind, whole, start, stop⟩
    exact ⟨front ++ found, behind, ⟨whole.symm, stop⟩, front, found, ⟨rfl, start⟩, rfl⟩

/-- What the groups of a match have captured, in the order in which they end. -/
abbrev Captured := List (Nat × Span)

namespace Captured

def span? (captured : Captured) (number : Nat) : Option Span :=
  captured.reverse.lookup number

/-- The span of the first of several groups that has one. -/
def first? (captured : Captured) (numbers : List Nat) : Option Span :=
  numbers.findSome? captured.span?

end Captured

/-- Number of bytes in front of a place. -/
def Cursor.offset (here : Cursor) : Nat :=
  Text.byteLength here.before

/-- A way to match: where the match ends, and what its groups have captured. -/
structure Way where
  stop : Cursor
  captured : Captured := []

namespace Way

/-- The way on with what has been captured before. -/
def behind (way : Way) (captured : Captured) : Way :=
  ⟨way.stop, captured ++ way.captured⟩

@[simp] theorem behind_nil (way : Way) : way.behind [] = way := rfl

@[simp] theorem stop_behind (way : Way) (captured : Captured) :
    (way.behind captured).stop = way.stop := rfl

end Way

/-- The ways to go on after each of some ways. -/
def onward (next : Cursor → List Way) (ways : List Way) : List Way :=
  ways.flatMap fun way => (next way.stop).map (·.behind way.captured)

def copyWays (ways : Cursor → List Way) : (count : Nat) → Cursor → List Way
  | 0, here => [⟨here, []⟩]
  | count + 1, here => onward (copyWays ways count) (ways here)

def greedyWays (ways : Cursor → List Way) : (most : Nat) → Cursor → List Way
  | 0, here => [⟨here, []⟩]
  | most + 1, here =>
      onward (greedyWays ways most)
        ((ways here).filter fun way => way.stop.after.length < here.after.length) ++ [⟨here, []⟩]

mutual

/-- The ways to match at a place, in the order in which they are tried. -/
def ways : Pattern → Cursor → List Way
  | .sequence parts, here => waysAll parts here
  | .either alternatives, here => waysAny alternatives here
  | .repeated body least most, here =>
      (copyWays (ways body) least here).flatMap fun way =>
        (greedyWays (ways body) ((most.map (· - least)).getD way.stop.after.length) way.stop).map
          (·.behind way.captured)
  | .group number body, here =>
      (ways body here).map fun way =>
        ⟨way.stop, way.captured ++ [(number, ⟨here.offset, way.stop.offset⟩)]⟩
  | .empty, here => (ends .empty here).map (⟨·, []⟩)
  | .literal text, here => (ends (.literal text) here).map (⟨·, []⟩)
  | .one set, here => (ends (.one set) here).map (⟨·, []⟩)
  | .position place, here => (ends (.position place) here).map (⟨·, []⟩)

/-- The ways to match several parts, one behind the other. -/
def waysAll : List Pattern → Cursor → List Way
  | [], here => [⟨here, []⟩]
  | part :: rest, here => onward (waysAll rest) (ways part here)

def waysAny : List Pattern → Cursor → List Way
  | [], _ => []
  | alternative :: rest, here => ways alternative here ++ waysAny rest here

end

/-! Ways end where matches end. -/

theorem map_stop_onward (next : Cursor → List Way) (ways : List Way) :
    (onward next ways).map Way.stop = (ways.map Way.stop).flatMap fun here =>
      (next here).map Way.stop := by
  simp [onward, List.map_flatMap, List.flatMap_map, Function.comp_def]

theorem map_stop_copyWays {ways : Cursor → List Way} {ends : Cursor → List Cursor}
    (same : ∀ here, (ways here).map Way.stop = ends here) (count : Nat) (here : Cursor) :
    (copyWays ways count here).map Way.stop = copies ends count here := by
  induction count generalizing here with
  | zero => rfl
  | succ count ih => rw [copyWays, map_stop_onward, same, copies, funext ih]

theorem map_stop_greedyWays {ways : Cursor → List Way} {ends : Cursor → List Cursor}
    (same : ∀ here, (ways here).map Way.stop = ends here) (most : Nat) (here : Cursor) :
    (greedyWays ways most here).map Way.stop = greedy ends most here := by
  induction most generalizing here with
  | zero => rfl
  | succ most ih =>
      have shorter : ((ways here).filter fun way =>
          way.stop.after.length < here.after.length).map Way.stop =
          (ends here).filter fun stop => stop.after.length < here.after.length := by
        rw [← same here, List.filter_map]
        rfl
      rw [greedyWays, List.map_append, map_stop_onward, shorter, greedy, funext ih]
      rfl

mutual

theorem map_stop_ways (pattern : Pattern) (here : Cursor) :
    (ways pattern here).map Way.stop = ends pattern here := by
  cases pattern with
  | sequence parts =>
      rw [ways, ends]
      exact map_stop_waysAll parts here
  | either alternatives =>
      rw [ways, ends]
      exact map_stop_waysAny alternatives here
  | repeated body least most =>
      have same := map_stop_ways body
      rw [ways, ends, ← map_stop_copyWays same]
      simp only [List.map_flatMap, List.flatMap_map, List.map_map]
      congr 1
      funext way
      rw [← map_stop_greedyWays same]
      rfl
  | group number body =>
      rw [ways, ends, List.map_map]
      exact map_stop_ways body here
  | empty | literal text | one set | position place =>
      rw [ways, List.map_map]
      exact List.map_id _

theorem map_stop_waysAll (parts : List Pattern) (here : Cursor) :
    (waysAll parts here).map Way.stop = endsAll parts here := by
  cases parts with
  | nil => rfl
  | cons part rest =>
      rw [waysAll, map_stop_onward, map_stop_ways part, endsAll, funext (map_stop_waysAll rest)]

theorem map_stop_waysAny (alternatives : List Pattern) (here : Cursor) :
    (waysAny alternatives here).map Way.stop = endsAny alternatives here := by
  cases alternatives with
  | nil => rfl
  | cons alternative rest =>
      rw [waysAny, List.map_append, map_stop_ways alternative, map_stop_waysAny rest, endsAny]

end

/-! Patterns without groups. -/

mutual

def groupless : Pattern → Bool
  | .sequence parts => allGroupless parts
  | .either alternatives => allGroupless alternatives
  | .repeated body _ _ => groupless body
  | .group _ _ => false
  | .empty | .literal _ | .one _ | .position _ => true

def allGroupless : List Pattern → Bool
  | [] => true
  | part :: rest => groupless part && allGroupless rest

end

def CapturesNothing (ways : Cursor → List Way) : Prop :=
  ∀ here, ∀ way ∈ ways here, way.captured = []

namespace CapturesNothing

variable {ways next : Cursor → List Way}

theorem here (here : Cursor) : ∀ way ∈ [(⟨here, []⟩ : Way)], way.captured = [] := by simp

theorem onward {first : List Way} (nothing : ∀ way ∈ first, way.captured = [])
    (later : CapturesNothing next) : ∀ way ∈ onward next first, way.captured = [] := by
  intro way member
  obtain ⟨way, within, member⟩ := List.mem_flatMap.mp member
  obtain ⟨other, further, rfl⟩ := List.mem_map.mp member
  rw [Way.behind, nothing way within, later way.stop other further]
  rfl

theorem copyWays (nothing : CapturesNothing ways) (count : Nat) :
    CapturesNothing (copyWays ways count) := by
  induction count with
  | zero => exact here
  | succ count ih => exact fun here => onward (nothing here) ih

theorem greedyWays (nothing : CapturesNothing ways) (most : Nat) :
    CapturesNothing (greedyWays ways most) := by
  induction most with
  | zero => exact here
  | succ most ih =>
      intro here way member
      rcases List.mem_append.mp member with member | member
      · exact onward (fun way within => nothing here way (List.mem_filter.mp within).1) ih
          way member
      · rw [List.mem_singleton.mp member]

end CapturesNothing

mutual

theorem groupless_capturesNothing (pattern : Pattern) (quiet : pattern.groupless = true) :
    CapturesNothing (ways pattern) := by
  intro here
  cases pattern with
  | sequence parts =>
      rw [ways]
      exact allGroupless_capturesNothing parts quiet here
  | either alternatives =>
      rw [ways]
      exact anyGroupless_capturesNothing alternatives quiet here
  | repeated body least most =>
      have nothing := groupless_capturesNothing body quiet
      rw [ways]
      intro way member
      obtain ⟨first, within, member⟩ := List.mem_flatMap.mp member
      obtain ⟨other, further, rfl⟩ := List.mem_map.mp member
      rw [Way.behind, nothing.copyWays least here first within,
        nothing.greedyWays _ first.stop other further]
      rfl
  | group number body => cases quiet
  | empty | literal text | one set | position place =>
      rw [ways]
      intro way member
      obtain ⟨stop, _, rfl⟩ := List.mem_map.mp member
      rfl

theorem allGroupless_capturesNothing (parts : List Pattern) (quiet : allGroupless parts = true) :
    CapturesNothing (waysAll parts) := by
  intro here
  cases parts with
  | nil => exact CapturesNothing.here here
  | cons part rest =>
      obtain ⟨first, later⟩ := Bool.and_eq_true_iff.mp quiet
      rw [waysAll]
      exact CapturesNothing.onward (groupless_capturesNothing part first here)
        (allGroupless_capturesNothing rest later)

theorem anyGroupless_capturesNothing (alternatives : List Pattern)
    (quiet : allGroupless alternatives = true) : CapturesNothing (waysAny alternatives) := by
  intro here way member
  cases alternatives with
  | nil => cases member
  | cons alternative rest =>
      obtain ⟨first, later⟩ := Bool.and_eq_true_iff.mp quiet
      rw [waysAny] at member
      rcases List.mem_append.mp member with member | member
      · exact groupless_capturesNothing alternative first here way member
      · exact anyGroupless_capturesNothing rest later here way member

end

theorem ways_groupless {pattern : Pattern} (quiet : pattern.groupless = true) (here : Cursor) :
    ways pattern here = (ends pattern here).map (⟨·, []⟩) := by
  rw [← map_stop_ways, List.map_map]
  refine (List.map_id _).symm.trans (List.map_congr_left fun way member => ?_)
  have nothing := groupless_capturesNothing pattern quiet here way member
  rw [id, ← nothing]
  rfl

/-! One part after the other. -/

theorem waysAll_groupless {part : Pattern} (quiet : part.groupless = true) (rest : List Pattern)
    (here : Cursor) : waysAll (part :: rest) here = (ends part here).flatMap (waysAll rest) := by
  rw [waysAll, ways_groupless quiet, onward, List.flatMap_map]
  simp only [Way.behind_nil, List.map_id']

theorem waysAll_group (number : Nat) {body : Pattern} (quiet : body.groupless = true)
    (rest : List Pattern) (here : Cursor) :
    waysAll (.group number body :: rest) here = (ends body here).flatMap fun stop =>
      (waysAll rest stop).map (·.behind [(number, ⟨here.offset, stop.offset⟩)]) := by
  rw [waysAll, ways, ways_groupless quiet, onward, List.map_map, List.flatMap_map]
  rfl

theorem onward_onward (first next : Cursor → List Way) (ways : List Way) :
    onward next (onward first ways) = onward (fun here => onward next (first here)) ways := by
  simp [onward, Way.behind, List.flatMap_assoc, List.flatMap_map, List.map_flatMap,
    Function.comp_def]

theorem onward_here (next : Cursor → List Way) (here : Cursor) :
    onward next [⟨here, []⟩] = next here := by
  rw [onward, List.flatMap_singleton]
  exact List.map_id _

theorem waysAll_sequence (parts rest : List Pattern) (here : Cursor) :
    waysAll (.sequence parts :: rest) here = waysAll (parts ++ rest) here := by
  rw [waysAll, ways]
  induction parts generalizing here with
  | nil => rw [waysAll, onward_here, List.nil_append]
  | cons part parts ih =>
      rw [waysAll, onward_onward, List.cons_append, waysAll]
      simp only [ih]

theorem waysAll_either (alternatives rest : List Pattern) (here : Cursor) :
    waysAll (.either alternatives :: rest) here =
      alternatives.flatMap fun alternative => waysAll (alternative :: rest) here := by
  rw [waysAll, ways]
  induction alternatives with
  | nil => rfl
  | cons alternative others ih =>
      rw [waysAny, onward, List.flatMap_append, List.flatMap_cons, ← ih, waysAll]
      rfl

theorem ends_literal (text : Text) (here : Cursor) :
    ends (.literal text) here =
      ((text.isPrefixOf? here.after).map (here.advance text)).toList := by
  rw [ends_text]
  cases found : text.isPrefixOf? here.after with
  | none =>
      have absent : ¬ text.isPrefixOf here.after = true := by
        rw [List.isPrefixOf_iff_prefix]
        rintro ⟨rest, whole⟩
        rw [Text.isPrefixOf?_eq_some_iff.mpr whole.symm] at found
        cases found
      rw [if_neg absent]
      rfl
  | some rest =>
      have whole := Text.isPrefixOf?_eq_some_iff.mp found
      rw [if_pos (List.isPrefixOf_iff_prefix.mpr ⟨rest, whole.symm⟩), whole, List.drop_left]
      rfl

theorem waysAll_literal (text : Text) (rest : List Pattern) (here : Cursor) :
    waysAll (.literal text :: rest) here =
      (text.isPrefixOf? here.after).elim [] fun after =>
        waysAll rest (here.advance text after) := by
  rw [waysAll_groupless rfl, ends_literal]
  cases text.isPrefixOf? here.after with
  | none => rfl
  | some after => exact List.flatMap_singleton _ _

theorem waysAll_literalGroup (number : Nat) (text : Text) (rest : List Pattern) (here : Cursor) :
    waysAll (.group number (.literal text) :: rest) here =
      (text.isPrefixOf? here.after).elim [] fun after =>
        (waysAll rest (here.advance text after)).map
          (·.behind [(number, ⟨here.offset, here.offset + Text.byteLength text⟩)]) := by
  rw [waysAll_group number rfl, ends_literal]
  cases text.isPrefixOf? here.after with
  | none => rfl
  | some after =>
      have size : (here.advance text after).offset = here.offset + Text.byteLength text := by
        simp [Cursor.offset, Cursor.advance, Nat.add_comm]
      rw [Option.map_some, Option.toList_some, List.flatMap_singleton, size]
      rfl

theorem waysAll_optional (mark : Char) (rest : List Pattern) (before text : Text) :
    waysAll (.repeated (.literal [mark]) 0 (some 1) :: rest) ⟨before, text⟩ =
      (if text.head? = some mark then waysAll rest ⟨mark :: before, text.tail⟩ else []) ++
        waysAll rest ⟨before, text⟩ := by
  rw [waysAll_groupless rfl, ends_repeated, copies, List.flatMap_singleton]
  simp only [Option.map_some, Option.getD_some, Nat.sub_zero, greedy, ends_char]
  cases text with
  | nil => simp
  | cons c after =>
      by_cases same : c = mark
      · simp [same]
      · simp [same]

/-- The parts match nothing that begins with a character of the set. -/
def Shuns (set : CharSet) (parts : List Pattern) : Prop :=
  ∀ here : Cursor, begins set here.after = true → waysAll parts here = []

theorem waysAll_anyRun {set : CharSet} {rest : List Pattern} (shuns : Shuns set rest)
    {run after : Text} (members : ∀ c ∈ run, set.contains c = true)
    (ended : begins set after = false) (before : Text) :
    waysAll (.repeated (.one set) 0 none :: rest) ⟨before, run ++ after⟩ =
      waysAll rest ⟨run.reverse ++ before, after⟩ := by
  obtain ⟨others, tried, shorter⟩ := ends_anyRun members ended before
  have given : others.flatMap (waysAll rest) = [] :=
    List.flatMap_eq_nil_iff.mpr fun other member => shuns other (shorter other member)
  rw [waysAll_groupless rfl, tried, List.flatMap_cons, given, List.append_nil]

/-! Matches one after the other. -/

/-- What the matches that are found from left to right capture, after `skip` characters that belong
to a match. -/
def capturesFrom (pattern : Pattern) : (skip : Nat) → (before after : Text) → List Captured
  | _, _, [] => []
  | skip + 1, before, c :: rest => capturesFrom pattern skip (c :: before) rest
  | 0, before, c :: rest =>
      match (ways pattern ⟨before, c :: rest⟩).head? with
      | none => capturesFrom pattern 0 (c :: before) rest
      | some way =>
          way.captured ::
            capturesFrom pattern (way.stop.before.length - before.length - 1) (c :: before) rest

/-- What all matches in a text capture, for a pattern that does not match the empty text. -/
def captures (pattern : Pattern) (text : Text) : List Captured :=
  capturesFrom pattern 0 [] text

end Pattern

end Migration
