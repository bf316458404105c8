import Migration.Proofs.ValueMatches

namespace Migration.Declaration

/-! Declarations as matches of patterns.

Each form of a declaration is written as a pattern with groups for what a migration writes anew.
The first way in which the pattern matches at a place ends where the declaration ends that is found
there, and its groups capture the slots of that declaration.
-/

open Pattern
open Text (byteLength byteLength_nil byteLength_cons byteLength_append byteLength_reverse)

/-! Parts of the keyword form. -/

theorem waysAll_spaces {rest : List Pattern} (shuns : Shuns Character.whiteSpace rest)
    (before text : Text) :
    waysAll (spaces :: rest) ⟨before, text⟩ =
      waysAll rest ⟨(text.takeWhile Text.isBlank).reverse ++ before,
        text.dropWhile Text.isBlank⟩ := by
  have members : ∀ c ∈ text.takeWhile Text.isBlank, Character.whiteSpace.contains c = true :=
    fun c member => (contains_whiteSpace c).trans (Text.blank_takeWhile text c member)
  have run := waysAll_anyRun shuns members (begins_dropWhile contains_whiteSpace text) before
  rwa [List.takeWhile_append_dropWhile] at run

theorem whiteSpace_refuses {c : Char} (solid : Text.isBlank c = false) :
    Character.whiteSpace.contains c = false :=
  (contains_whiteSpace c).trans solid

theorem waysAll_separator {mark : Char} (solid : Text.isBlank mark = false) {rest : List Pattern}
    (shuns : Shuns Character.whiteSpace rest) (before text : Text) :
    waysAll (spaces :: .literal [mark] :: spaces :: rest) ⟨before, text⟩ =
      (separator mark text).elim [] fun found =>
        waysAll rest ⟨found.1.reverse ++ before, found.2⟩ := by
  rw [waysAll_spaces (shuns_literal (whiteSpace_refuses solid) [] _), waysAll_literal_cons,
    separator]
  cases text.dropWhile Text.isBlank with
  | nil => rfl
  | cons c behind =>
      by_cases same : c = mark
      · subst same
        rw [List.head?_cons, if_pos rfl, waysAll_literal_nil, List.tail_cons, waysAll_spaces shuns]
        simp
      · have other : (c :: behind).head? ≠ some mark := fun found => same (Option.some.inj found)
        rw [if_neg other]
        simp [same]

theorem waysAll_keyword (word : Text) {rest : List Pattern}
    (shuns : Shuns Character.whiteSpace rest) (before text : Text) :
    waysAll (.literal word :: spaces :: .literal [':'] :: spaces :: rest) ⟨before, text⟩ =
      (keyword word text).elim [] fun found =>
        waysAll rest ⟨found.1.reverse ++ before, found.2⟩ := by
  rw [waysAll_literal, keyword]
  cases word.isPrefixOf? text with
  | none => rfl
  | some behind =>
      simp only [Option.elim_some, Cursor.advance, Option.bind_eq_bind, Option.bind_some]
      rw [waysAll_separator (by decide) shuns]
      cases separator ':' behind with
      | none => rfl
      | some found => simp

theorem waysAll_inQuotes (quote : Char) (number : Nat) (literal : Text) (rest : List Pattern)
    (before : Text) (c : Char) (text : Text) :
    waysAll (.sequence [.literal [quote], .group number (.literal literal), .literal [quote]] ::
        rest) ⟨before, c :: text⟩ =
      if c = quote then
        ((literal ++ [quote]).isPrefixOf? text).elim [] fun behind =>
          (waysAll rest ⟨(quote :: literal ++ [quote]).reverse ++ before, behind⟩).map
            (·.behind [(number, ⟨byteLength (quote :: before),
              byteLength (quote :: before) + byteLength literal⟩)])
      else [] := by
  rw [waysAll_sequence, List.cons_append, waysAll_literal_cons, waysAll_literal_nil]
  by_cases same : c = quote
  · subst same
    rw [List.head?_cons, if_pos rfl, if_pos rfl, List.tail_cons, List.cons_append,
      waysAll_literalGroup, isPrefixOf?_append]
    cases literal.isPrefixOf? text with
    | none => rfl
    | some after =>
        rw [Option.elim_some, Option.bind_some, List.cons_append, List.nil_append, waysAll_literal]
        simp only [Cursor.advance]
        cases [c].isPrefixOf? after with
        | none => rfl
        | some behind => simp [Cursor.offset]
  · have other : (c :: text).head? ≠ some quote := fun found => same (Option.some.inj found)
    rw [if_neg other, if_neg same]

theorem waysAll_quoted (double single : Nat) (literal : Text) (rest : List Pattern)
    (before text : Text) :
    waysAll (quoted double single literal :: rest) ⟨before, text⟩ =
      (quotedLiteral literal text).elim [] fun found =>
        (waysAll rest ⟨(found.1 :: literal ++ [found.1]).reverse ++ before, found.2⟩).map
          (·.behind [(if found.1 = '"' then double else single,
            ⟨byteLength (found.1 :: before),
              byteLength (found.1 :: before) + byteLength literal⟩)]) := by
  rw [quoted, waysAll_either]
  cases text with
  | nil =>
      simp only [List.flatMap_cons, List.flatMap_nil, waysAll_sequence, List.cons_append,
        waysAll_literal_cons]
      rfl
  | cons c text =>
      simp only [List.flatMap_cons, List.flatMap_nil, waysAll_inQuotes, List.append_nil,
        quotedLiteral]
      by_cases isDouble : c = '"'
      · subst isDouble
        cases (literal ++ ['"']).isPrefixOf? text <;> simp
      · by_cases isSingle : c = '\x27'
        · subst isSingle
          cases (literal ++ ['\x27']).isPrefixOf? text <;> simp
        · simp [isDouble, isSingle]

/-! Forms. -/

namespace Form

def pattern : Form → (group module : Text) → Pattern
  | coordinate => coordinatePattern
  | keyword => keywordPattern

/-- What a match captures of the slots, in the order in which they stand on the line. -/
def edits? (form : Form) (captured : Captured) : Option (List (Slot × Span)) :=
  match form with
  | coordinate => do
      let version ← captured.first? [2]
      let coordinate ← captured.span? 1
      return [(.coordinate, coordinate), (.version, version)]
  | keyword => do
      let version ← captured.first? versionGroups
      let group ← captured.first? [1, 2]
      let module ← captured.first? [3, 4]
      return [(.group, group), (.module, module), (.version, version)]

end Form

/-- Where the slots among some parts are, if `start` bytes stand in front of the parts. -/
def slotSpans : (start : Nat) → List Part → List (Slot × Span)
  | _, [] => []
  | start, .kept text :: rest => slotSpans (start + byteLength text) rest
  | start, .slot role text :: rest =>
      (role, ⟨start, start + byteLength text⟩) :: slotSpans (start + byteLength text) rest

theorem head?_closing (before after : Text) :
    (waysAll [optional '\x7d'] ⟨before, after⟩).head? =
      some ⟨⟨(closingBrace after).1.reverse ++ before, (closingBrace after).2⟩, []⟩ := by
  rw [optional, waysAll_optional, closingBrace]
  split <;> rfl

theorem settles_closing : Settles tokenCharacters [optional '\x7d'] := by
  refine .inr fun here nothing => ?_
  have some := head?_closing here.before here.after
  rw [nothing] at some
  cases some

theorem slotSpans_writtenParts (coordinate : Text) (found : Placeholder) (closing before : Text) :
    slotSpans (byteLength before) (writtenParts coordinate found closing) =
      [(.coordinate, ⟨byteLength before, byteLength before + byteLength coordinate⟩),
        (.version, found.tokenSpan
          (byteLength ([':', '$'].reverse ++ (coordinate.reverse ++ before))))] := by
  simp only [writtenParts, slotSpans, Placeholder.tokenSpan, byteLength_append, byteLength_reverse,
    Nat.add_assoc, Nat.add_comm, Nat.add_left_comm]

/-- Where the declaration with these parts ends, and the spans of its slots. -/
def located (before text : Text) (parts : List Part) : Cursor × Option (List (Slot × Span)) :=
  (Cursor.advance ⟨before, text⟩ (parts.flatMap Part.old)
    (text.drop (parts.flatMap Part.old).length), some (slotSpans (byteLength before) parts))

theorem located_eq {before text left : Text} {parts : List Part}
    (whole : parts.flatMap Part.old ++ left = text) :
    located before text parts = (Cursor.advance ⟨before, text⟩ (parts.flatMap Part.old) left,
      some (slotSpans (byteLength before) parts)) := by
  rw [located, ← whole, List.drop_left]

theorem head?_coordinatePattern (group module before text : Text) :
    (ways (coordinatePattern group module) ⟨before, text⟩).head?.map
        (fun way => (way.stop, Form.coordinate.edits? way.captured)) =
      (coordinateAt group module text).map (located before text) := by
  rw [coordinatePattern, ways, waysAll_literalGroup, coordinateAt_eq]
  generalize group ++ ':' :: module = coordinate
  cases front : coordinate.isPrefixOf? text with
  | none => rfl
  | some behind =>
      rw [Option.elim_some, waysAll_literal, Option.bind_some]
      simp only [Cursor.advance]
      cases colon : [':', '$'].isPrefixOf? behind with
      | none => rfl
      | some rest =>
          rw [Option.elim_some, List.head?_map, head?_ofRun plain_tokenCharacters settles_closing
            contains_tokenCharacters (by decide), Option.bind_some]
          cases run : Placeholder.ofRun isTokenChar '\x7b' rest with
          | none => rfl
          | some found =>
              obtain ⟨found, after⟩ := found
              obtain ⟨cuts, noClosing⟩ := Placeholder.ofRun_cuts isTokenChar_solid run
              have written : found.text = found.opening ++ found.token := by
                rw [Placeholder.text, noClosing, List.append_nil]
              have whole : (writtenParts coordinate found
                  (closingBrace after).1).flatMap Part.old ++ (closingBrace after).2 = text := by
                rw [Text.isPrefixOf?_eq_some_iff.mp front, Text.isPrefixOf?_eq_some_iff.mp colon,
                  ← cuts.whole, written]
                simp [writtenParts, Part.old, closingBrace_append]
              rw [Option.bind_some, head?_closing]
              simp only [Option.map_some, located_eq whole, slotSpans_writtenParts]
              refine congrArg some (Prod.ext ?_ rfl)
              simp [Cursor.advance, Way.behind, writtenParts, Part.old, written]

theorem shuns_quoted (double single : Nat) (literal : Text) (rest : List Pattern) :
    Shuns Character.whiteSpace (quoted double single literal :: rest) := by
  intro here started
  obtain ⟨before, after⟩ := here
  have nothing : quotedLiteral literal after = none := by
    cases after with
    | nil => rfl
    | cons c text =>
        rw [quotedLiteral, if_neg]
        intro isQuote
        rw [begins, contains_whiteSpace, quote_solid isQuote] at started
        cases started
  rw [waysAll_quoted, nothing]
  rfl

theorem waysAll_single (pattern : Pattern) (here : Cursor) :
    waysAll [pattern] here = ways pattern here := by
  rw [waysAll, onward]
  simp [waysAll, Way.behind]

theorem shuns_value : Shuns Character.whiteSpace [value] := by
  intro here started
  obtain ⟨number, _, found⟩ := head?_value here.before here.after
  have nothing : Placeholder.value here.after = none := by
    cases valued : Placeholder.value here.after with
    | none => rfl
    | some placeholder =>
        obtain ⟨c, rest, starts, solid⟩ := startsSolid_of_value (Option.isSome_of_eq_some valued)
        rw [starts, begins, contains_whiteSpace, solid] at started
        cases started
  rw [nothing, Option.map_none, List.head?_eq_none_iff] at found
  exact (waysAll_single value here).trans found

theorem edits?_keyword {group module version : Nat} (isGroup : group ∈ [1, 2])
    (isModule : module ∈ [3, 4]) (isVersion : version ∈ versionGroups)
    (groupSpan moduleSpan versionSpan : Span) :
    Form.keyword.edits? [(group, groupSpan), (module, moduleSpan), (version, versionSpan)] =
      some [(.group, groupSpan), (.module, moduleSpan), (.version, versionSpan)] := by
  simp only [versionGroups, List.mem_cons, List.not_mem_nil, or_false] at isGroup isModule isVersion
  rcases isGroup with rfl | rfl <;> rcases isModule with rfl | rfl <;>
    rcases isVersion with rfl | rfl | rfl | rfl | rfl | rfl <;> rfl

theorem head?_keywordPattern (group module before text : Text) :
    (ways (keywordPattern group module) ⟨before, text⟩).head?.map
        (fun way => (way.stop, Form.keyword.edits? way.captured)) =
      (keywordAt group module text).map (located before text) := by
  have shunsName (rest : List Pattern) :
      Shuns Character.whiteSpace (.literal "name".toList :: rest) :=
    shuns_literal (c := 'n') (whiteSpace_refuses (by decide)) "ame".toList rest
  have shunsVersion (rest : List Pattern) :
      Shuns Character.whiteSpace (.literal "version".toList :: rest) :=
    shuns_literal (c := 'v') (whiteSpace_refuses (by decide)) "ersion".toList rest
  rw [keywordPattern, ways, waysAll_keyword _ (shuns_quoted _ _ _ _), keywordAt]
  simp only [Option.bind_eq_bind, Option.pure_def]
  cases groupFound : keyword "group".toList text with
  | none => rfl
  | some found =>
  obtain ⟨groupKey, rest⟩ := found
  rw [Option.elim_some, Option.bind_some, waysAll_quoted]
  cases groupQuoted : quotedLiteral group rest with
  | none => rfl
  | some found =>
  obtain ⟨groupQuote, rest⟩ := found
  rw [Option.elim_some, Option.bind_some, waysAll_separator (by decide) (shunsName _)]
  cases firstSeparated : separator ',' rest with
  | none => rfl
  | some found =>
  obtain ⟨firstComma, rest⟩ := found
  rw [Option.elim_some, Option.bind_some, waysAll_keyword _ (shuns_quoted _ _ _ _)]
  cases nameFound : keyword "name".toList rest with
  | none => rfl
  | some found =>
  obtain ⟨nameKey, rest⟩ := found
  rw [Option.elim_some, Option.bind_some, waysAll_quoted]
  cases moduleQuoted : quotedLiteral module rest with
  | none => rfl
  | some found =>
  obtain ⟨moduleQuote, rest⟩ := found
  rw [Option.elim_some, Option.bind_some, waysAll_separator (by decide) (shunsVersion _)]
  cases secondSeparated : separator ',' rest with
  | none => rfl
  | some found =>
  obtain ⟨secondComma, rest⟩ := found
  rw [Option.elim_some, Option.bind_some, waysAll_keyword _ shuns_value]
  cases versionFound : keyword "version".toList rest with
  | none => rfl
  | some found =>
  obtain ⟨versionKey, rest⟩ := found
  rw [Option.elim_some, Option.bind_some, waysAll_single]
  obtain ⟨number, isVersion, matched⟩ := head?_value (versionKey.reverse ++
    (secondComma.reverse ++ ((moduleQuote :: module ++ [moduleQuote]).reverse ++ (nameKey.reverse ++
      (firstComma.reverse ++ ((groupQuote :: group ++ [groupQuote]).reverse ++
        (groupKey.reverse ++ before))))))) rest
  rw [List.head?_map, List.head?_map, matched]
  cases valued : Placeholder.value rest with
  | none => rfl
  | some found =>
  obtain ⟨left, cuts⟩ := Placeholder.value_cuts valued
  have isGroup : (if groupQuote = '"' then 1 else 2) ∈ [1, 2] := by split <;> decide
  have isModule : (if moduleQuote = '"' then 3 else 4) ∈ [3, 4] := by split <;> decide
  have whole : groupKey ++ (groupQuote :: (group ++ groupQuote :: (firstComma ++ (nameKey ++
      (moduleQuote :: (module ++ moduleQuote :: (secondComma ++ (versionKey ++
        (found.text ++ left))))))))) = text := by
    rw [cuts.whole, (keyword_eq_some versionFound).1, (separator_eq_some secondSeparated).1,
      ← (quotedLiteral_eq_some.mp moduleQuoted).2, (keyword_eq_some nameFound).1,
      (separator_eq_some firstSeparated).1, ← (quotedLiteral_eq_some.mp groupQuoted).2,
      (keyword_eq_some groupFound).1]
  rw [Option.map_some, Placeholder.way_eq cuts.whole]
  simp only [Option.map_some, Option.bind_some, Way.behind, List.cons_append, List.nil_append,
    edits?_keyword isGroup isModule isVersion]
  refine congrArg some (Prod.ext ?_ (congrArg some ?_))
  · have old : [Part.kept (groupKey ++ [groupQuote]), .slot .group group,
        .kept (groupQuote :: (firstComma ++ nameKey ++ [moduleQuote])), .slot .module module,
        .kept (moduleQuote :: (secondComma ++ versionKey ++ found.opening)),
        .slot .version found.token, .kept found.closing].flatMap Part.old ++ left = text := by
      rw [← whole]
      simp [Part.old, Placeholder.text]
    rw [located_eq old]
    simp [Cursor.advance, Part.old, Placeholder.text]
  · simp only [slotSpans, Placeholder.tokenSpan, byteLength_append, byteLength_cons,
      byteLength_reverse, byteLength_nil, Nat.add_zero]
    simp only [Nat.add_assoc, Nat.add_comm, Nat.add_left_comm]

end Migration.Declaration
