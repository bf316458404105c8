import Migration.Proofs.TokenMatches

namespace Migration.Declaration

/-! Placeholders and version values as matches of patterns.

The first way in which the pattern of a value matches at a place ends where the placeholder ends
that is read there, and its group captures the token of that placeholder.
-/

open Pattern
open Text (byteLength byteLength_nil byteLength_cons byteLength_append byteLength_reverse)

/-! Placeholders. -/

namespace Placeholder

/-- Where the token of a placeholder is that stands behind `start` bytes. -/
def tokenSpan (placeholder : Placeholder) (start : Nat) : Span :=
  ⟨start + byteLength placeholder.opening,
    start + byteLength (placeholder.opening ++ placeholder.token)⟩

/-- The way to match a placeholder. -/
def way (placeholder : Placeholder) (number : Nat) (here : Cursor) : Way :=
  ⟨here.advance placeholder.text (here.after.drop placeholder.text.length),
    [(number, placeholder.tokenSpan here.offset)]⟩

theorem tokenSpan_ofAccess (opening run : Text) (start : Nat) :
    (ofAccess opening run).tokenSpan start =
      ⟨start + byteLength opening + byteLength (splitAccess run).1,
        start + byteLength opening + byteLength run⟩ := by
  rw [tokenSpan, ofAccess, List.append_assoc, splitAccess_append, byteLength_append,
    byteLength_append, Nat.add_assoc, Nat.add_assoc]

theorem tokenSpan_closed (placeholder : Placeholder) (mark : Char) :
    (placeholder.closed mark).tokenSpan = placeholder.tokenSpan := rfl

end Placeholder

section Access

variable {set : CharSet} {number : Nat} {rest : List Pattern}
  (plain : ∀ c, Text.isPlain c = true → set.contains c = true)

include plain

theorem waysAll_noAccess {after : Text} (ended : begins set after = false) (before : Text) :
    waysAll (properties :: token number set :: rest) ⟨before, after⟩ = [] := by
  rw [waysAll_properties, greedy_nothing (ends_noProperty (noProperty_of_ended plain ended) before),
    List.flatMap_singleton, waysAll_noToken ended]

variable (number) in
theorem head?_properties (settles : Settles set rest) {run after : Text} (notEmpty : run ≠ [])
    (members : ∀ c ∈ run, set.contains c = true) (ended : begins set after = false)
    (opening before : Text) :
    (waysAll (properties :: token number set :: rest)
        ⟨opening.reverse ++ before, run ++ after⟩).head? =
      (waysAll rest ⟨(Placeholder.ofAccess opening run).text.reverse ++ before, after⟩).head?.map
        (·.behind [(number,
          (Placeholder.ofAccess opening run).tokenSpan (byteLength before))]) := by
  have enough : run.length ≤ (run ++ after).length := by
    rw [List.length_append]
    exact Nat.le_add_right _ _
  rw [waysAll_properties, head?_access plain settles notEmpty members ended enough,
    Placeholder.tokenSpan_ofAccess, Placeholder.text_ofAccess, List.reverse_append,
    List.append_assoc, byteLength_append, byteLength_reverse, Nat.add_comm (byteLength opening)]

theorem head?_ofRun (settles : Settles set rest) {allowed : Char → Bool}
    (same : ∀ c, set.contains c = allowed c) {mark : Char} (markAllowed : allowed mark = true)
    (before text : Text) :
    (waysAll (optional mark :: properties :: token number set :: rest) ⟨before, text⟩).head? =
      (Placeholder.ofRun allowed mark text).bind fun found =>
        (waysAll rest ⟨found.1.text.reverse ++ before, found.2⟩).head?.map
          (·.behind [(number, found.1.tokenSpan (byteLength before))]) := by
  have ended := begins_dropWhile same text
  have members : ∀ c ∈ text.takeWhile allowed, set.contains c = true := fun c member =>
    (same c).trans (List.all_eq_true.mp List.all_takeWhile c member)
  have whole := List.takeWhile_append_dropWhile (p := allowed) (l := text)
  rw [optional, waysAll_optional, Placeholder.ofRun_eq]
  generalize text.takeWhile allowed = run at *
  generalize text.dropWhile allowed = after at *
  subst whole
  cases run with
  | nil =>
      have unmarked : after.head? ≠ some mark := by
        intro marked
        obtain ⟨others, rfl⟩ := List.head?_eq_some_iff.mp marked
        rw [begins, same, markAllowed] at ended
        cases ended
      rw [List.nil_append, if_neg unmarked, waysAll_noAccess plain ended]
      rfl
  | cons c left =>
      have unmarked := head?_properties number plain settles
        (List.cons_ne_nil c left) members ended [] before
      rw [if_neg (List.cons_ne_nil c left), Option.bind_some]
      by_cases marked : c = mark
      · subst marked
        rw [List.cons_append, List.head?_cons, if_pos rfl, List.tail_cons]
        cases left with
        | nil =>
            rw [List.nil_append, waysAll_noAccess plain ended, List.nil_append]
            exact unmarked
        | cons d left =>
            -- Without the mark the token ends at the same place, so it is not tried in vain.
            have more := head?_properties number plain settles (List.cons_ne_nil d left)
              (List.forall_mem_cons.mp members).2 ended [c] before
            have taken : dropLeading c (c :: d :: left) = ([c], d :: left) := if_pos rfl
            rw [List.head?_append]
            refine (congrArg₂ Option.or more unmarked).trans ?_
            simp only [taken, Placeholder.text_ofAccess, List.nil_append, List.singleton_append]
            cases (waysAll rest ⟨(c :: d :: left).reverse ++ before, after⟩).head? <;> rfl
      · have kept : dropLeading mark (c :: left) = ([], c :: left) := by
          cases left with
          | nil => rfl
          | cons d left => exact if_neg marked
        have other : (c :: left ++ after).head? ≠ some mark := fun found =>
          marked (Option.some.inj found)
        rw [if_neg other, List.nil_append, kept]
        exact unmarked

end Access

/-! Braces. -/

theorem plain_tokenCharacters (c : Char) (plain : Text.isPlain c = true) :
    tokenCharacters.contains c = true :=
  (contains_tokenCharacters c).trans (isTokenChar_of_plain plain)

theorem plain_bareTokenCharacters (c : Char) (plain : Text.isPlain c = true) :
    bareTokenCharacters.contains c = true :=
  (contains_bareTokenCharacters c).trans (isBareTokenChar_of_plain plain)

/-- A literal whose first character is not in the set does not match what begins with one. -/
theorem shuns_literal {set : CharSet} {c : Char} (refused : set.contains c = false) (text : Text)
    (rest : List Pattern) : Shuns set (.literal (c :: text) :: rest) := by
  intro here started
  rw [waysAll_literal]
  cases found : (c :: text).isPrefixOf? here.after with
  | none => rfl
  | some after =>
      rw [Text.isPrefixOf?_eq_some_iff.mp found] at started
      exact absurd (refused.symm.trans started) Bool.false_ne_true

theorem waysAll_literal_nil (rest : List Pattern) (here : Cursor) :
    waysAll (.literal [] :: rest) here = waysAll rest here := by
  rw [waysAll_literal]
  rfl

theorem waysAll_literal_cons (c : Char) (text : Text) (rest : List Pattern) (here : Cursor) :
    waysAll (.literal (c :: text) :: rest) here =
      if here.after.head? = some c then
        waysAll (.literal text :: rest) ⟨c :: here.before, here.after.tail⟩
      else [] := by
  obtain ⟨before, after⟩ := here
  rw [waysAll_literal, waysAll_literal]
  cases after with
  | nil => rfl
  | cons d after =>
      by_cases same : c = d
      · subst same
        simp [List.isPrefixOf?, Cursor.advance]
      · have other : (d :: after).head? ≠ some c := fun found => same (Option.some.inj found).symm
        rw [if_neg other, List.isPrefixOf?]
        simp [same]

theorem head?_behind (number : Nat) (close dollar before text : Text) :
    (waysAll (braces number close) ⟨dollar.reverse ++ before, text⟩).head? =
      (Placeholder.behind dollar text).bind fun found =>
        (waysAll [.literal close] ⟨found.1.text.reverse ++ before, found.2⟩).head?.map
          (·.behind [(number, found.1.tokenSpan (byteLength before))]) := by
  rw [braces, waysAll_literal_cons, waysAll_literal_nil]
  by_cases brace : ∃ inner, text = '\x7b' :: inner
  · obtain ⟨inner, rfl⟩ := brace
    have refused : tokenCharacters.contains '\x7d' = false :=
      (contains_tokenCharacters _).trans (by decide)
    have shuns := shuns_literal refused close []
    have ended := begins_dropWhile contains_tokenCharacters inner
    have members : ∀ c ∈ inner.takeWhile isTokenChar, tokenCharacters.contains c = true :=
      fun c member => (contains_tokenCharacters c).trans
        (List.all_eq_true.mp List.all_takeWhile c member)
    have whole := List.takeWhile_append_dropWhile (p := isTokenChar) (l := inner)
    have opened :
        '\x7b' :: (dollar.reverse ++ before) = (dollar ++ ['\x7b']).reverse ++ before := by
      simp
    rw [List.head?_cons, if_pos rfl, List.tail_cons, opened, Placeholder.behind,
      Placeholder.inBraces_eq]
    generalize inner.takeWhile isTokenChar = run at *
    generalize inner.dropWhile isTokenChar = after at *
    subst whole
    cases run with
    | nil =>
        rw [List.nil_append, waysAll_noAccess plain_tokenCharacters ended]
        rfl
    | cons c left =>
        rw [if_neg (List.cons_ne_nil c left), head?_properties number plain_tokenCharacters
          (.inl shuns) (List.cons_ne_nil c left) members ended, waysAll_literal_cons]
        by_cases closing : after.head? = some '\x7d'
        · simp only [closing, if_true, Option.bind_some, Placeholder.text_closed,
            Placeholder.tokenSpan_closed, List.reverse_append, List.reverse_singleton,
            List.cons_append, List.nil_append]
        · simp only [closing, if_false]
          rfl
  · rw [not_exists] at brace
    have plain : text.head? ≠ some '\x7b' := fun starts => by
      obtain ⟨inner, rfl⟩ := List.head?_eq_some_iff.mp starts
      exact brace inner rfl
    have nothing : Placeholder.behind dollar text = none := by
      unfold Placeholder.behind
      split
      · next inner => exact absurd rfl (brace inner)
      · rfl
    rw [nothing, if_neg plain]
    rfl

theorem head?_braced (number : Nat) (close before text : Text) :
    (waysAll (optional '$' :: braces number close) ⟨before, text⟩).head? =
      (Placeholder.braced text).bind fun found =>
        (waysAll [.literal close] ⟨found.1.text.reverse ++ before, found.2⟩).head?.map
          (·.behind [(number, found.1.tokenSpan (byteLength before))]) := by
  have behind := head?_behind number close
  rw [optional, waysAll_optional]
  by_cases dollar : ∃ inner, text = '$' :: inner
  · obtain ⟨inner, rfl⟩ := dollar
    have noBrace : waysAll (braces number close) ⟨before, '$' :: inner⟩ = [] := by
      rw [braces, waysAll_literal_cons]
      rfl
    rw [List.head?_cons, if_pos rfl, noBrace, List.append_nil, List.tail_cons]
    exact behind ['$'] before inner
  · rw [not_exists] at dollar
    have plain : text.head? ≠ some '$' := fun starts => by
      obtain ⟨inner, rfl⟩ := List.head?_eq_some_iff.mp starts
      exact dollar inner rfl
    rw [if_neg plain, List.nil_append, braced_plain dollar]
    exact behind [] before text

/-! Values. -/

theorem Placeholder.way_eq {found : Placeholder} {before whole rest : Text}
    (cut : found.text ++ rest = whole) (number : Nat) :
    found.way number ⟨before, whole⟩ =
      ⟨⟨found.text.reverse ++ before, rest⟩, [(number, found.tokenSpan (byteLength before))]⟩ := by
  rw [way, ← cut, List.drop_left]
  rfl

/-- A placeholder between quotes is matched if the placeholder is matched up to the second quote. -/
theorem head?_between {quote : Char} {number : Nat} {parts : List Pattern} {before inner : Text}
    {within : Option (Placeholder × Text)}
    (cuts : ∀ found rest, within = some (found, rest) → found.text ++ rest = inner)
    (matched : (waysAll parts ⟨quote :: before, inner⟩).head? = within.bind fun found =>
      (waysAll [.literal [quote]] ⟨found.1.text.reverse ++ quote :: before, found.2⟩).head?.map
        (·.behind [(number, found.1.tokenSpan (byteLength (quote :: before)))])) :
    (waysAll (.literal [quote] :: parts) ⟨before, quote :: inner⟩).head? =
      (Placeholder.between quote within).map (·.way number ⟨before, quote :: inner⟩) := by
  rw [waysAll_literal_cons, List.head?_cons, if_pos rfl, waysAll_literal_nil, List.tail_cons,
    matched]
  cases within with
  | none => rfl
  | some found =>
      obtain ⟨found, rest⟩ := found
      have whole := cuts found rest rfl
      rw [Option.bind_some, waysAll_literal_cons]
      cases rest with
      | nil => rfl
      | cons c rest =>
          by_cases closing : c = quote
          · subst closing
            have between : Placeholder.between c (some (found, c :: rest)) =
                some ⟨c :: found.opening, found.token, found.closing ++ [c]⟩ := if_pos rfl
            have cut : (Placeholder.text ⟨c :: found.opening, found.token,
                found.closing ++ [c]⟩) ++ rest = c :: inner := by
              rw [← whole]
              simp [Placeholder.text]
            rw [between, Option.map_some, Placeholder.way_eq cut, List.head?_cons, if_pos rfl,
              waysAll_literal_nil]
            simp [waysAll, Placeholder.text, Placeholder.tokenSpan, Way.behind, Nat.add_assoc,
              Nat.add_left_comm]
          · have other : Placeholder.between quote (some (found, c :: rest)) = none :=
              if_neg closing
            have unmatched : (c :: rest).head? ≠ some quote := fun found =>
              closing (Option.some.inj found)
            rw [other, if_neg unmatched]
            rfl

theorem head?_quotedBraces (quote : Char) (number : Nat) (before : Text) (c : Char)
    (inner : Text) :
    (waysAll (.literal [quote] :: optional '$' :: braces number [quote])
        ⟨before, c :: inner⟩).head? =
      if c = quote then
        (Placeholder.between quote (Placeholder.braced inner)).map
          (·.way number ⟨before, c :: inner⟩)
      else none := by
  by_cases same : c = quote
  · subst same
    rw [if_pos rfl]
    exact head?_between (fun _ _ found => (Placeholder.braced_cuts found).whole)
      (head?_braced number [c] (c :: before) inner)
  · have other : (c :: inner).head? ≠ some quote := fun found => same (Option.some.inj found)
    rw [waysAll_literal_cons, if_neg other, if_neg same]
    rfl

theorem head?_quotedRun {quote : Char} (quoted : isQuote quote = true) (number : Nat)
    (before : Text) (c : Char) (inner : Text) :
    (waysAll [.literal [quote], optional '$', properties, token number tokenCharacters,
        .literal [quote]] ⟨before, c :: inner⟩).head? =
      if c = quote then
        (Placeholder.between quote (Placeholder.ofRun isTokenChar '$' inner)).map
          (·.way number ⟨before, c :: inner⟩)
      else none := by
  by_cases same : c = quote
  · subst same
    have shuns := shuns_literal ((contains_tokenCharacters c).trans (quote_refused quoted)) [] []
    rw [if_pos rfl]
    exact head?_between
      (fun _ _ found => (Placeholder.ofRun_cuts isTokenChar_solid found).1.whole)
      (head?_ofRun plain_tokenCharacters (.inl shuns) contains_tokenCharacters (by decide)
        (c :: before) inner)
  · have other : (c :: inner).head? ≠ some quote := fun found => same (Option.some.inj found)
    rw [waysAll_literal_cons, if_neg other, if_neg same]
    rfl

theorem head?_bareBraces (number : Nat) (before text : Text) :
    (waysAll (optional '$' :: braces number []) ⟨before, text⟩).head? =
      (Placeholder.braced text).map fun found => found.1.way number ⟨before, text⟩ := by
  rw [head?_braced]
  cases within : Placeholder.braced text with
  | none => rfl
  | some found =>
      rw [Option.map_some, Placeholder.way_eq (Placeholder.braced_cuts within).whole,
        Option.bind_some, waysAll_literal_nil]
      rfl

theorem head?_bareRun (number : Nat) (before text : Text) :
    (waysAll [optional '$', properties, token number bareTokenCharacters] ⟨before, text⟩).head? =
      (Placeholder.ofRun isBareTokenChar '$' text).map fun found =>
        found.1.way number ⟨before, text⟩ := by
  have always : Settles bareTokenCharacters [] := .inr fun here => List.cons_ne_nil _ _
  rw [head?_ofRun plain_bareTokenCharacters always contains_bareTokenCharacters (by decide)]
  cases within : Placeholder.ofRun isBareTokenChar '$' text with
  | none => rfl
  | some found =>
      have cut := (Placeholder.ofRun_cuts isBareTokenChar_solid within).1.whole
      rw [Option.map_some, Placeholder.way_eq cut, Option.bind_some]
      rfl

theorem head?_value (before text : Text) :
    ∃ number ∈ versionGroups, (ways value ⟨before, text⟩).head? =
      (Placeholder.value text).map (·.way number ⟨before, text⟩) := by
  rw [value, ways]
  simp only [waysAny, ways, List.append_nil, List.head?_append, head?_bareBraces, head?_bareRun]
  cases text with
  | nil => exact ⟨5, by decide, rfl⟩
  | cons c inner =>
      rw [head?_quotedBraces, head?_quotedBraces, head?_quotedRun (by decide),
        head?_quotedRun (by decide), Placeholder.value]
      by_cases double : c = '"'
      · subst double
        have noBraces : Placeholder.braced ('"' :: inner) = none := rfl
        have noRun : Placeholder.ofRun isBareTokenChar '$' ('"' :: inner) = none := rfl
        rw [noBraces, noRun]
        cases Placeholder.between '"' (Placeholder.braced inner) with
        | some found => exact ⟨5, by decide, rfl⟩
        | none =>
            refine ⟨6, by decide, ?_⟩
            cases Placeholder.between '"' (Placeholder.ofRun isTokenChar '$' inner) <;> rfl
      by_cases single : c = '\x27'
      · subst single
        have noBraces : Placeholder.braced ('\x27' :: inner) = none := rfl
        have noRun : Placeholder.ofRun isBareTokenChar '$' ('\x27' :: inner) = none := rfl
        rw [noBraces, noRun]
        cases Placeholder.between '\x27' (Placeholder.braced inner) with
        | some found => exact ⟨7, by decide, rfl⟩
        | none =>
            refine ⟨8, by decide, ?_⟩
            cases Placeholder.between '\x27' (Placeholder.ofRun isTokenChar '$' inner) <;> rfl
      rw [if_neg double, if_neg double, if_neg single, if_neg single,
        if_neg (by simp [double, single])]
      cases Placeholder.braced (c :: inner) with
      | some found => exact ⟨9, by decide, rfl⟩
      | none =>
          refine ⟨10, by decide, ?_⟩
          cases Placeholder.ofRun isBareTokenChar '$' (c :: inner) <;> rfl

end Migration.Declaration
