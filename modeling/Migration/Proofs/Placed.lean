import Migration.Proofs.Shape

namespace Migration.Declaration

/-! A declaration as it stands on a line and as it stands there once its slots are filled.

Both are the same words and marks, but for the names of the artifact and the version token.  In
front of the token there are marks and plain properties, and behind the placeholder no name goes on.
-/

open Text (IsPlain Marks isPlain)

/-- What a name does not go on with, and no module behind it either. -/
def EndsName : Text → Prop
  | [] => True
  | c :: _ => isPlain c = false ∧ c ≠ ':'

theorem EndsName.of_append {text : Text} (notEmpty : text ≠ []) {rest : Text}
    (ended : EndsName (text ++ rest)) : EndsName text := by
  obtain ⟨c, others, rfl⟩ := List.exists_cons_of_ne_nil notEmpty
  exact ended

theorem EndsName.append {text : Text} (notEmpty : text ≠ []) (ended : EndsName text) (rest : Text) :
    EndsName (text ++ rest) := by
  obtain ⟨c, others, rfl⟩ := List.exists_cons_of_ne_nil notEmpty
  exact ended

theorem EndsName.endsPlain {text : Text} (ended : EndsName text) : Text.EndsPlain text := by
  cases text with
  | nil => trivial
  | cons c rest => exact ended.1

/-! What a placeholder is made of. -/

theorem isTokenChar_of_plain {c : Char} (plain : isPlain c = true) : isTokenChar c = true := by
  have solid := Text.isBlank_of_plain plain
  have noMark (mark : Char) (isMark : isPlain mark = false) : c ≠ mark := by
    rintro rfl
    rw [plain] at isMark
    cases isMark
  simp [isTokenChar, solid, noMark '"' (by decide),
    noMark '\x27' (by decide), noMark '\x7d' (by decide)]

theorem isBareTokenChar_of_plain {c : Char} (plain : isPlain c = true) :
    isBareTokenChar c = true := by
  have noMark (mark : Char) (isMark : isPlain mark = false) : c ≠ mark := by
    rintro rfl
    rw [plain] at isMark
    cases isMark
  simp [isBareTokenChar, isTokenChar_of_plain plain, noMark ',' isPlain_comma,
    noMark ')' (by decide)]

theorem isTokenChar_of_bare {c : Char} (bare : isBareTokenChar c = true) : isTokenChar c = true :=
  (Bool.and_eq_true_iff.mp bare).1

theorem isPlain_of_identifierStart {c : Char} (start : isIdentifierStart c = true) :
    isPlain c = true := by
  have word : Text.isWord c = true := by
    simp only [isIdentifierStart, Bool.or_eq_true, Bool.and_eq_true, decide_eq_true_eq] at start
    have letters (low high : Nat) (covered : CharSet.coversRange Text.wordCharacters.bounds low high)
        (above : low ≤ c.toNat) (below : c.toNat ≤ high) : Text.isWord c = true :=
      CharSet.covers_of_coversRange covered above below
    rcases start with (⟨above, below⟩ | ⟨above, below⟩) | rfl
    · exact letters 0x61 0x7A (by decide) above below
    · exact letters 0x41 0x5A (by decide) above below
    · decide
  exact Text.isPlain_of_isWord word

theorem plain_of_identifier {field : Text} (identifier : isIdentifier field = true) :
    ∀ c ∈ field, isPlain c = true := by
  cases field with
  | nil => simp
  | cons c rest =>
      obtain ⟨start, words⟩ := Bool.and_eq_true_iff.mp identifier
      refine List.forall_mem_cons.mpr ⟨isPlain_of_identifierStart start, fun d member => ?_⟩
      exact Text.isPlain_of_isWord (List.all_eq_true.mp words d member)

theorem splitProperties_plain (fields : List Text) :
    ∀ field ∈ (splitProperties fields).1, ∀ c ∈ field, isPlain c = true := by
  induction fields with
  | nil => simp [splitProperties]
  | cons field rest ih =>
      rw [splitProperties]
      split
      · next property =>
          rw [Bool.and_eq_true, Bool.and_eq_true] at property
          exact List.forall_mem_cons.mpr ⟨plain_of_identifier property.1.1, ih⟩
      · simp

theorem splitAccess_plain (placeholder : Text) :
    ∀ c ∈ (splitAccess placeholder).1, isPlain c = true := by
  intro c member
  obtain ⟨field, isProperty, member⟩ := List.mem_flatMap.mp member
  rcases List.mem_append.mp member with member | dot
  · exact splitProperties_plain _ field isProperty c member
  · rw [List.mem_singleton.mp dot]
    decide

theorem splitProperties_token {fields : List Text} (some : fields ≠ []) (more : fields ≠ [[]]) :
    ['.'].intercalate (splitProperties fields).2 ≠ [] := by
  induction fields with
  | nil => exact absurd rfl some
  | cons field rest ih =>
      rw [splitProperties]
      split
      · next property =>
          simp only [Bool.and_eq_true, Bool.not_eq_true', List.isEmpty_eq_false_iff, bne_iff_ne]
            at property
          exact ih property.1.2 property.2
      · cases rest with
        | nil =>
            rw [List.intercalate_singleton]
            rintro rfl
            exact more rfl
        | cons second others =>
            rw [List.intercalate_cons_cons]
            simp

theorem splitAccess_token {placeholder : Text} (notEmpty : placeholder ≠ []) :
    (splitAccess placeholder).2 ≠ [] := by
  refine splitProperties_token (Text.fields_ne_nil _ _) ?_
  intro single
  have text := Text.intercalate_fields '.' placeholder
  rw [single, List.intercalate_singleton] at text
  exact notEmpty text.symm

theorem mem_of_mem_token {placeholder : Text} {c : Char}
    (member : c ∈ (splitAccess placeholder).2) : c ∈ placeholder := by
  rw [← splitAccess_append placeholder]
  exact List.mem_append_right _ member

theorem dropLeading_marks {mark : Char} (isMark : isPlain mark = false) (text : Text) :
    (dropLeading mark text).1.Marks := by
  unfold dropLeading
  split
  · split
    · next same =>
        rw [same]
        exact .cons isMark (by simp [Marks])
    · simp [Marks]
  · simp [Marks]

theorem dropLeading_ne_nil (mark : Char) {text : Text} (notEmpty : text ≠ []) :
    (dropLeading mark text).2 ≠ [] := by
  unfold dropLeading
  split
  · split <;> exact List.cons_ne_nil _ _
  · exact notEmpty

namespace Placeholder

/-- A placeholder cut into marks, properties, a token and closing marks, with `rest` behind it. -/
structure Reads (placeholder : Placeholder) (opening access rest : Text) : Prop where
  written : placeholder.opening = opening ++ access
  openingMarks : opening.Marks
  accessPlain : ∀ c ∈ access, isPlain c = true
  tokenSome : placeholder.token ≠ []
  token : ∀ c ∈ placeholder.token, isTokenChar c = true
  closing : ∀ c ∈ placeholder.closing, isPlain c = false
  ended : EndsName (placeholder.closing ++ rest)

theorem endsName_of_refused {allowed : Char → Bool}
    (refused : ∀ c, allowed c = false → isPlain c = false ∧ c ≠ ':') (text : Text) :
    EndsName (text.dropWhile allowed) := by
  cases left : text.dropWhile allowed with
  | nil => trivial
  | cons c rest =>
      have stopped := List.head_dropWhile_not allowed (l := text) (by simp [left])
      simp only [left, List.head_cons] at stopped
      exact refused c stopped

theorem endsName_of_mark {c : Char} (mark : isPlain c = false) (noColon : c ≠ ':') (rest : Text) :
    EndsName (c :: rest) :=
  ⟨mark, noColon⟩

theorem token_refused (c : Char) (refused : isTokenChar c = false) :
    isPlain c = false ∧ c ≠ ':' := by
  constructor
  · by_contra plain
    rw [isTokenChar_of_plain (Bool.not_eq_false _ |>.mp plain)] at refused
    cases refused
  · rintro rfl
    exact absurd refused (by decide)

theorem bareToken_refused (c : Char) (refused : isBareTokenChar c = false) :
    isPlain c = false ∧ c ≠ ':' := by
  constructor
  · by_contra plain
    rw [isBareTokenChar_of_plain (Bool.not_eq_false _ |>.mp plain)] at refused
    cases refused
  · rintro rfl
    exact absurd refused (by decide)

theorem ofRun_reads {allowed : Char → Bool} {mark : Char} {whole rest : Text}
    {placeholder : Placeholder} (tokens : ∀ c, allowed c = true → isTokenChar c = true)
    (refused : ∀ c, allowed c = false → isPlain c = false ∧ c ≠ ':')
    (isMark : isPlain mark = false) (found : ofRun allowed mark whole = some (placeholder, rest)) :
    ∃ opening access, placeholder.Reads opening access rest := by
  obtain ⟨some, rfl, rfl⟩ := ofRun_eq_some.mp found
  refine ⟨_, _, rfl, dropLeading_marks isMark _, splitAccess_plain _,
    splitAccess_token (dropLeading_ne_nil mark some), fun c member => tokens c ?_, by simp [ofAccess],
    endsName_of_refused refused whole⟩
  have inRun : c ∈ whole.takeWhile allowed := by
    rw [← dropLeading_append mark (whole.takeWhile allowed)]
    exact List.mem_append_right _ (mem_of_mem_token member)
  exact List.all_eq_true.mp List.all_takeWhile c inRun

theorem IsDollar.marks {dollar : Text} (isDollar : IsDollar dollar) : dollar.Marks := by
  rcases isDollar with rfl | rfl
  · simp [Marks]
  · exact .cons isPlain_dollar (by simp [Marks])

theorem inBraces_reads {dollar inner rest : Text} {placeholder : Placeholder}
    (dollarMarks : dollar.Marks) (found : inBraces dollar inner = some (placeholder, rest)) :
    ∃ opening access, placeholder.Reads opening access rest := by
  have brace : isPlain '\x7b' = false := by decide
  have closing : isPlain '\x7d' = false := by decide
  obtain ⟨some, dropped, rfl⟩ := inBraces_eq_some.mp found
  refine ⟨dollar ++ ['\x7b'], (splitAccess (inner.takeWhile isTokenChar)).1, rfl,
    dollarMarks.append (.cons brace (by simp [Marks])), splitAccess_plain _, splitAccess_token some,
    fun c member => ?_, by simpa [closed, ofAccess] using closing,
    endsName_of_mark closing (by decide) rest⟩
  exact List.all_eq_true.mp List.all_takeWhile c (mem_of_mem_token member)

theorem braced_reads {whole rest : Text} {placeholder : Placeholder}
    (found : braced whole = some (placeholder, rest)) :
    ∃ opening access, placeholder.Reads opening access rest := by
  obtain ⟨dollar, inner, isDollar, _, found⟩ := braced_eq_some.mp found
  exact inBraces_reads isDollar.marks found

theorem between_reads {quote : Char} {inner : Option (Placeholder × Text)}
    {placeholder : Placeholder} (quoted : isQuote quote = true)
    (reads : ∀ found rest, inner = some (found, rest) → ∃ opening access,
      found.Reads opening access rest)
    (found : between quote inner = some placeholder) :
    ∃ opening access, ∀ rest, placeholder.Reads opening access rest := by
  have mark := isPlain_of_quote quoted
  obtain ⟨within, behind, read, rfl⟩ := between_eq_some.mp found
  obtain ⟨opening, access, reads⟩ := reads within _ read
  refine ⟨quote :: opening, access, fun rest => ⟨by simp [reads.written],
    .cons mark reads.openingMarks, reads.accessPlain, reads.tokenSome, reads.token, ?_, ?_⟩⟩
  · intro c member
    rcases List.mem_append.mp member with member | member
    · exact reads.closing c member
    · exact List.mem_singleton.mp member ▸ mark
  · have notEmpty : within.closing ++ [quote] ≠ [] := by simp
    have ended : EndsName (within.closing ++ [quote] ++ behind) := by simpa using reads.ended
    exact .append notEmpty (.of_append notEmpty ended) rest

theorem value_reads {whole : Text} {placeholder : Placeholder}
    (found : value whole = some placeholder) :
    ∃ opening access rest, placeholder.text ++ rest = whole ∧
      placeholder.Reads opening access rest := by
  obtain ⟨left, cuts⟩ := value_cuts found
  rcases value_cases found with ⟨quote, inner, quoted, rfl, braces | run⟩ | ⟨rest, braces | run⟩
  · obtain ⟨opening, access, reads⟩ := between_reads quoted
      (fun _ _ found => braced_reads found) braces
    exact ⟨opening, access, left, cuts.whole, reads left⟩
  · obtain ⟨opening, access, reads⟩ := between_reads quoted
      (fun _ _ found => ofRun_reads (fun _ => id) token_refused isPlain_dollar found) run
    exact ⟨opening, access, left, cuts.whole, reads left⟩
  · obtain ⟨opening, access, reads⟩ := braced_reads braces
    exact ⟨opening, access, rest, (braced_cuts braces).whole, reads⟩
  · obtain ⟨opening, access, reads⟩ := ofRun_reads (fun _ => isTokenChar_of_bare)
      bareToken_refused isPlain_dollar run
    exact ⟨opening, access, rest, (ofRun_cuts isBareTokenChar_solid run).1.whole, reads⟩

end Placeholder

/-- A declaration of a line: its words, and its placeholder cut into marks, properties, a token and
closing marks. -/
structure Placed where
  shape : Shape
  opening : Text
  access : Text
  token : Text
  closing : Text

namespace Placed

/-- The declaration of an artifact with a version token in place of its own. -/
def text (placed : Placed) (group module version : Text) : Text :=
  textOf (placed.shape.steps placed.opening group module) ++ (placed.access ++ version) ++
    placed.closing

/-- A declaration with `rest` behind it. -/
structure IsPlaced (placed : Placed) (form : Form) (rest : Text) : Prop where
  form : placed.shape.form = form
  valid : placed.shape.IsValid
  openingMarks : placed.opening.Marks
  accessPlain : ∀ c ∈ placed.access, isPlain c = true
  tokenSome : placed.token ≠ []
  token : ∀ c ∈ placed.token, isTokenChar c = true
  closing : ∀ c ∈ placed.closing, isPlain c = false
  ended : EndsName (placed.closing ++ rest)

end Placed

/-- What is found at the start of a text, as it stands there and as it is filled. -/
structure Finding (form : Form) (group module whole : Text) (parts : List Part) (placed : Placed)
    (rest : Text) : Prop where
  isPlaced : placed.IsPlaced form rest
  whole : whole = placed.text group module placed.token ++ rest
  old : parts.flatMap Part.old = placed.text group module placed.token
  filled : ∀ fill : Slot → Text, fill .coordinate = fill .group ++ ':' :: fill .module →
    parts.flatMap (Part.filled fill) = placed.text (fill .group) (fill .module) (fill .version)

theorem closingBrace_marks (text : Text) : (closingBrace text).1.Marks := by
  have brace : isPlain '\x7d' = false := by decide
  rw [closingBrace]
  split
  · exact .cons brace (by simp [Marks])
  · simp [Marks]

theorem coordinateAt_finding {group module whole : Text} {parts : List Part}
    (found : coordinateAt group module whole = some parts) :
    ∃ placed rest, Finding .coordinate group module whole parts placed rest := by
  obtain ⟨rest, placeholder, after, rfl, run, rfl⟩ := coordinateAt_eq_some_iff.mp found
  obtain ⟨⟨-, rfl⟩, noClosing⟩ := Placeholder.ofRun_cuts isTokenChar_solid run
  obtain ⟨opening, access, reads⟩ := Placeholder.ofRun_reads (fun _ => id)
    Placeholder.token_refused (by decide) run
  have ended := reads.ended
  rw [noClosing, List.nil_append] at ended
  obtain ⟨closing, left, brace, closingMarks, rfl⟩ : ∃ closing left : Text,
      closingBrace after = (closing, left) ∧ closing.Marks ∧ closing ++ left = after :=
    ⟨_, _, rfl, closingBrace_marks after, closingBrace_append after⟩
  rw [brace]
  refine ⟨⟨.coordinate, opening, access, placeholder.token, closing⟩, left,
    ⟨rfl, .coordinate, reads.openingMarks, reads.accessPlain, reads.tokenSome, reads.token,
      closingMarks, ended⟩, ?_, ?_, ?_⟩
  · simp [Placed.text, Shape.steps, Placeholder.text, noClosing, reads.written]
  · simp [writtenParts, Placed.text, Shape.steps, Part.old, reads.written]
  · intro fill same
    simp [writtenParts, Placed.text, Shape.steps, Part.filled, reads.written, same]

theorem keywordAt_finding {group module whole : Text} {parts : List Part}
    (found : keywordAt group module whole = some parts) :
    ∃ placed rest, Finding .keyword group module whole parts placed rest := by
  cases keywordAt_form found with
  | @found groupKey firstComma nameKey secondComma versionKey _ groupQuote moduleQuote version valid
      valued =>
      obtain ⟨opening, access, rest, valueCut, reads⟩ := Placeholder.value_reads valued
      refine ⟨⟨.keyword groupKey groupQuote firstComma nameKey moduleQuote secondComma versionKey,
        opening, access, version.token, version.closing⟩, rest,
        ⟨rfl, valid, reads.openingMarks, reads.accessPlain, reads.tokenSome, reads.token,
          reads.closing, reads.ended⟩, ?_, ?_, ?_⟩
      · rw [← valueCut]
        simp [Placed.text, Shape.steps, Placeholder.text, reads.written]
      · simp [Placed.text, Shape.steps, Part.old, reads.written]
      · intro fill _
        simp [Placed.text, Shape.steps, Part.filled, reads.written]

theorem Form.finding {form : Form} {group module whole : Text} {parts : List Part}
    (found : form.declarationAt group module whole = some parts) :
    ∃ placed rest, Finding form group module whole parts placed rest := by
  cases form with
  | coordinate => exact coordinateAt_finding found
  | keyword => exact keywordAt_finding found

end Migration.Declaration
