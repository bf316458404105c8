import Migration.Proofs.Declaration

namespace Migration.Declaration

/-! What the readers of a declaration find.

Each of them goes through its cases here once, and what it finds is said in terms of the text: a run
of characters with its properties cut off, braces or quotes around it, and the keywords, separators
and literals in front of it.
-/

/-! Properties in front of a token. -/

theorem dropLeading_append (mark : Char) (text : Text) :
    (dropLeading mark text).1 ++ (dropLeading mark text).2 = text := by
  unfold dropLeading
  split
  · split <;> rfl
  · rfl

theorem splitProperties_append (fields : List Text) :
    (splitProperties fields).1 ++ (splitProperties fields).2 = fields := by
  induction fields with
  | nil => rfl
  | cons field rest ih =>
      rw [splitProperties]
      split
      · exact congrArg (field :: ·) ih
      · rfl

theorem splitProperties_token_ne_nil {fields : List Text} (some : fields ≠ []) :
    (splitProperties fields).2 ≠ [] := by
  induction fields with
  | nil => exact absurd rfl some
  | cons field rest ih =>
      rw [splitProperties]
      split
      · next property =>
          apply ih
          rintro rfl
          simp at property
      · exact List.cons_ne_nil _ _

theorem flatMap_append_intercalate {properties token : List Text} (some : token ≠ []) :
    properties.flatMap (· ++ ['.']) ++ ['.'].intercalate token =
      ['.'].intercalate (properties ++ token) := by
  induction properties with
  | nil => rfl
  | cons property rest ih =>
      obtain ⟨first, others, split⟩ := List.exists_cons_of_ne_nil
        (List.append_ne_nil_of_right_ne_nil rest some)
      rw [List.flatMap_cons, List.append_assoc, ih, List.cons_append, split,
        List.intercalate_cons_cons, List.append_assoc]

theorem splitAccess_append (placeholder : Text) :
    (splitAccess placeholder).1 ++ (splitAccess placeholder).2 = placeholder := by
  rw [splitAccess]
  dsimp only
  rw [flatMap_append_intercalate (splitProperties_token_ne_nil (Text.fields_ne_nil _ _)),
    splitProperties_append, Text.intercalate_fields]

namespace Placeholder

def text (placeholder : Placeholder) : Text :=
  placeholder.opening ++ placeholder.token ++ placeholder.closing

/-- The placeholder whose properties and token are a run of characters. -/
def ofAccess (opening run : Text) : Placeholder :=
  ⟨opening ++ (splitAccess run).1, (splitAccess run).2, []⟩

@[simp] theorem text_ofAccess (opening run : Text) :
    (ofAccess opening run).text = opening ++ run := by
  rw [text, ofAccess, List.append_nil, List.append_assoc, splitAccess_append]

/-- A placeholder with a mark behind it that belongs to it. -/
def closed (placeholder : Placeholder) (mark : Char) : Placeholder :=
  { placeholder with closing := placeholder.closing ++ [mark] }

@[simp] theorem text_closed (placeholder : Placeholder) (mark : Char) :
    (placeholder.closed mark).text = placeholder.text ++ [mark] := by
  simp [text, closed]

/-! Runs, braces and quotes. -/

theorem inBraces_eq (dollar inner : Text) :
    inBraces dollar inner =
      if inner.takeWhile isTokenChar = [] then none
      else if (inner.dropWhile isTokenChar).head? = some '\x7d' then
        some ((ofAccess (dollar ++ ['\x7b']) (inner.takeWhile isTokenChar)).closed '\x7d',
          (inner.dropWhile isTokenChar).tail)
      else none := by
  rw [inBraces]
  cases inner.takeWhile isTokenChar with
  | nil => rfl
  | cons c run =>
      cases inner.dropWhile isTokenChar with
      | nil => rfl
      | cons d rest =>
          by_cases closing : d = '\x7d'
          · subst closing
            simp [ofAccess, closed]
          · simp [closing]

theorem ofRun_eq (allowed : Char → Bool) (mark : Char) (text : Text) :
    ofRun allowed mark text =
      if text.takeWhile allowed = [] then none
      else
        some (ofAccess (dropLeading mark (text.takeWhile allowed)).1
          (dropLeading mark (text.takeWhile allowed)).2, text.dropWhile allowed) := by
  rw [ofRun]
  cases text.takeWhile allowed <;> rfl

theorem ofRun_eq_some {allowed : Char → Bool} {mark : Char} {whole rest : Text}
    {found : Placeholder} :
    ofRun allowed mark whole = some (found, rest) ↔
      whole.takeWhile allowed ≠ [] ∧ whole.dropWhile allowed = rest ∧
        found = ofAccess (dropLeading mark (whole.takeWhile allowed)).1
          (dropLeading mark (whole.takeWhile allowed)).2 := by
  rw [ofRun_eq]
  split
  · next nothing => simp [nothing]
  · next some => simp [some, eq_comm, and_comm]

theorem inBraces_eq_some {dollar inner rest : Text} {found : Placeholder} :
    inBraces dollar inner = some (found, rest) ↔
      inner.takeWhile isTokenChar ≠ [] ∧ inner.dropWhile isTokenChar = '\x7d' :: rest ∧
        found = (ofAccess (dollar ++ ['\x7b']) (inner.takeWhile isTokenChar)).closed '\x7d' := by
  rw [inBraces_eq]
  split
  · next nothing => simp [nothing]
  · next some =>
      split
      · next closed =>
          obtain ⟨left, split⟩ := List.head?_eq_some_iff.mp closed
          rw [split]
          simp [some, eq_comm, and_comm]
      · next unclosed =>
          refine ⟨nofun, ?_⟩
          rintro ⟨_, split, _⟩
          rw [split] at unclosed
          exact absurd rfl unclosed

/-- What may stand in front of a brace. -/
def IsDollar (dollar : Text) : Prop :=
  dollar = [] ∨ dollar = ['$']

theorem braced_eq_some {whole rest : Text} {found : Placeholder} :
    braced whole = some (found, rest) ↔
      ∃ dollar inner, IsDollar dollar ∧ whole = dollar ++ '\x7b' :: inner ∧
        inBraces dollar inner = some (found, rest) := by
  have behind_eq_some {dollar text : Text} : behind dollar text = some (found, rest) ↔
      ∃ inner, text = '\x7b' :: inner ∧ inBraces dollar inner = some (found, rest) := by
    unfold behind
    split
    · simp
    · next noBrace => exact ⟨nofun, fun ⟨inner, same, _⟩ => absurd same (noBrace inner)⟩
  by_cases dollar : ∃ inner, whole = '$' :: inner
  · obtain ⟨text, rfl⟩ := dollar
    refine (@behind_eq_some ['$'] text).trans ⟨?_, ?_⟩
    · rintro ⟨inner, rfl, found⟩
      exact ⟨['$'], inner, .inr rfl, rfl, found⟩
    · rintro ⟨_, inner, rfl | rfl, same, found⟩
      · cases same
      · exact ⟨inner, (List.cons.inj same).2, found⟩
  · rw [not_exists] at dollar
    rw [braced_plain dollar, behind_eq_some]
    constructor
    · rintro ⟨inner, same, found⟩
      exact ⟨[], inner, .inl rfl, same, found⟩
    · rintro ⟨_, inner, rfl | rfl, same, found⟩
      · exact ⟨inner, same, found⟩
      · exact absurd same (dollar _)

theorem between_eq_some {quote : Char} {inner : Option (Placeholder × Text)}
    {placeholder : Placeholder} :
    between quote inner = some placeholder ↔
      ∃ found rest, inner = some (found, quote :: rest) ∧
        placeholder = ⟨quote :: found.opening, found.token, found.closing ++ [quote]⟩ := by
  constructor
  · intro isBetween
    unfold between at isBetween
    split at isBetween
    · next found c rest =>
        split at isBetween
        · next same =>
            cases isBetween
            exact ⟨found, rest, by rw [same], rfl⟩
        · cases isBetween
    · cases isBetween
  · rintro ⟨found, rest, rfl, rfl⟩
    exact if_pos rfl

end Placeholder

/-! Separators, keywords and literals. -/

/-- A mark with white space around it. -/
structure IsGap (mark : Char) (text : Text) : Prop where
  written : ∃ before after : Text, before.Blank ∧ after.Blank ∧ text = before ++ mark :: after

def isQuote (c : Char) : Bool :=
  c = '"' || c = '\x27'

theorem separator_eq_some {mark : Char} {whole cut rest : Text}
    (found : separator mark whole = some (cut, rest)) : cut ++ rest = whole ∧ IsGap mark cut := by
  rw [separator] at found
  split at found
  · next c behind dropped =>
      split at found
      · next same =>
          cases found
          subst same
          refine ⟨?_, _, _, Text.blank_takeWhile whole, Text.blank_takeWhile behind, rfl⟩
          rw [List.append_assoc, List.cons_append, List.takeWhile_append_dropWhile, ← dropped,
            List.takeWhile_append_dropWhile]
      · cases found
  · cases found

theorem keyword_eq_some {word whole cut rest : Text}
    (found : keyword word whole = some (cut, rest)) :
    cut ++ rest = whole ∧ ∃ gap, IsGap ':' gap ∧ cut = word ++ gap := by
  rw [keyword] at found
  simp only [Option.bind_eq_bind, Option.bind_eq_some_iff, Prod.exists] at found
  obtain ⟨behind, front, gap, left, separated, written⟩ := found
  obtain ⟨whole, isGap⟩ := separator_eq_some separated
  cases written
  rw [Text.isPrefixOf?_eq_some_iff] at front
  refine ⟨?_, gap, isGap, rfl⟩
  rw [front, ← whole, List.append_assoc]

theorem quotedLiteral_eq_some {literal whole rest : Text} {quote : Char} :
    quotedLiteral literal whole = some (quote, rest) ↔
      isQuote quote = true ∧ whole = quote :: (literal ++ quote :: rest) := by
  have isQuote_iff (c : Char) : isQuote c = true ↔ c = '"' ∨ c = '\x27' := by simp [isQuote]
  cases whole with
  | nil => simp [quotedLiteral]
  | cons c behind =>
      rw [quotedLiteral, isQuote_iff]
      constructor
      · intro found
        split at found
        · next quoted =>
            obtain ⟨rest, front, same⟩ := Option.map_eq_some_iff.mp found
            cases same
            refine ⟨by simpa using quoted, ?_⟩
            rw [Text.isPrefixOf?_eq_some_iff.mp front, List.append_assoc]
            rfl
        · cases found
      · rintro ⟨quoted, same⟩
        cases same
        have front : (literal ++ [quote]).isPrefixOf? (literal ++ quote :: rest) = some rest :=
          Text.isPrefixOf?_eq_some_iff.mpr (by simp)
        simp [quoted, front]

/-- A version is read between quotes or on its own, and either in braces or as a run. -/
theorem Placeholder.value_cases {whole : Text} {version : Placeholder}
    (found : value whole = some version) :
    (∃ quote inner, isQuote quote = true ∧ whole = quote :: inner ∧
      (between quote (braced inner) = some version ∨
        between quote (ofRun isTokenChar '$' inner) = some version)) ∨
    ∃ rest, braced whole = some (version, rest) ∨
      ofRun isBareTokenChar '$' whole = some (version, rest) := by
  unfold value at found
  split at found
  · cases found
  · next c inner =>
      split at found
      · next quoted =>
          refine .inl ⟨c, inner, quoted, rfl, ?_⟩
          exact (Option.or_eq_some_iff.mp found).imp id And.right
      · obtain ⟨⟨_, rest⟩, within, rfl⟩ := Option.map_eq_some_iff.mp found
        exact .inr ⟨rest, (Option.or_eq_some_iff.mp within).imp id And.right⟩

/-! The coordinate form. -/

theorem isPrefixOf?_append (first second text : Text) :
    (first ++ second).isPrefixOf? text = (first.isPrefixOf? text).bind second.isPrefixOf? := by
  apply Option.ext
  intro rest
  simp only [Option.bind_eq_some_iff, Text.isPrefixOf?_eq_some_iff]
  constructor
  · intro whole
    exact ⟨second ++ rest, by rw [whole, List.append_assoc], rfl⟩
  · rintro ⟨behind, whole, rfl⟩
    rw [whole, List.append_assoc]

/-- A brace at the start of a text, and what follows it. -/
def closingBrace (text : Text) : Text × Text :=
  if text.head? = some '\x7d' then (['\x7d'], text.tail) else ([], text)

theorem closingBrace_append (text : Text) :
    (closingBrace text).1 ++ (closingBrace text).2 = text := by
  rw [closingBrace]
  split
  · next brace =>
      obtain ⟨left, rfl⟩ := List.head?_eq_some_iff.mp brace
      rfl
  · rfl

/-- The parts of a declaration in coordinate form. -/
def writtenParts (coordinate : Text) (found : Placeholder) (closing : Text) : List Part :=
  [.slot .coordinate coordinate, .kept ([':', '$'] ++ found.opening), .slot .version found.token,
    .kept closing]

theorem coordinateAt_eq (group module text : Text) :
    coordinateAt group module text =
      ((group ++ ':' :: module).isPrefixOf? text).bind fun behind =>
        ([':', '$'].isPrefixOf? behind).bind fun rest =>
          (Placeholder.ofRun isTokenChar '\x7b' rest).map fun found =>
            writtenParts (group ++ ':' :: module) found.1 (closingBrace found.2).1 := by
  rw [coordinateAt]
  dsimp only
  rw [isPrefixOf?_append (group ++ ':' :: module) [':', '$'] text]
  cases (group ++ ':' :: module).isPrefixOf? text with
  | none => rfl
  | some behind =>
      simp only [Option.bind_some, Option.bind_eq_bind, Option.pure_def]
      refine congrArg (Option.bind _) (funext fun rest => ?_)
      cases Placeholder.ofRun isTokenChar '\x7b' rest with
      | none => rfl
      | some found =>
          obtain ⟨found, after⟩ := found
          cases after with
          | nil => rfl
          | cons c left =>
              by_cases brace : c = '\x7d'
              · subst brace
                rfl
              · simp [closingBrace, brace, writtenParts]

theorem coordinateAt_eq_some_iff {group module whole : Text} {parts : List Part} :
    coordinateAt group module whole = some parts ↔
      ∃ rest found after, whole = group ++ ':' :: module ++ ([':', '$'] ++ rest) ∧
        Placeholder.ofRun isTokenChar '\x7b' rest = some (found, after) ∧
        parts = writtenParts (group ++ ':' :: module) found (closingBrace after).1 := by
  rw [coordinateAt_eq]
  simp only [Option.bind_eq_some_iff, Option.map_eq_some_iff, Prod.exists,
    Text.isPrefixOf?_eq_some_iff]
  constructor
  · rintro ⟨_, whole, rest, rfl, found, after, run, rfl⟩
    exact ⟨rest, found, after, whole, run, rfl⟩
  · rintro ⟨rest, found, after, whole, run, rfl⟩
    exact ⟨_, whole, rest, rfl, found, after, run, rfl⟩

/-! The keyword form. -/

inductive Form where
  | coordinate
  | keyword
deriving DecidableEq

def Form.declarationAt : Form → (group module : Text) → Text → Option (List Part)
  | coordinate => coordinateAt
  | keyword => keywordAt

/-- What a declaration leaves open: where white space is, and which quotes are used. -/
inductive Shape where
  | coordinate
  | keyword (groupKey : Text) (groupQuote : Char) (firstComma nameKey : Text) (moduleQuote : Char)
      (secondComma versionKey : Text)

/-- A word with the marks behind it. -/
structure Step where
  word : Text
  marks : Text

def Step.text (step : Step) : Text :=
  step.word ++ step.marks

def textOf (steps : List Step) : Text :=
  steps.flatMap Step.text

@[simp] theorem textOf_nil : textOf [] = [] := rfl

@[simp] theorem textOf_cons (step : Step) (rest : List Step) :
    textOf (step :: rest) = step.word ++ step.marks ++ textOf rest := rfl

namespace Shape

def form : Shape → Form
  | coordinate => .coordinate
  | keyword .. => .keyword

/-- The words of a declaration, with `opening` as the marks that begin its placeholder. -/
def steps (opening group module : Text) : Shape → List Step
  | coordinate => [⟨group, [':']⟩, ⟨module, ':' :: '$' :: opening⟩]
  | keyword groupKey groupQuote firstComma nameKey moduleQuote secondComma versionKey =>
      [⟨"group".toList, groupKey ++ [groupQuote]⟩, ⟨group, groupQuote :: firstComma⟩,
        ⟨"name".toList, nameKey ++ [moduleQuote]⟩, ⟨module, moduleQuote :: secondComma⟩,
        ⟨"version".toList, versionKey ++ opening⟩]

inductive IsValid : Shape → Prop
  | coordinate : IsValid .coordinate
  | keyword {groupKey firstComma nameKey secondComma versionKey : Text}
      {groupQuote moduleQuote : Char} (groupKeyed : IsGap ':' groupKey)
      (groupQuoted : isQuote groupQuote = true) (first : IsGap ',' firstComma)
      (nameKeyed : IsGap ':' nameKey) (moduleQuoted : isQuote moduleQuote = true)
      (second : IsGap ',' secondComma) (versionKeyed : IsGap ':' versionKey) :
      IsValid (.keyword groupKey groupQuote firstComma nameKey moduleQuote secondComma versionKey)

end Shape

/-- What is found in keyword form: words of a valid shape, the version behind them, and the parts
that both are made of. -/
inductive IsKeywordForm (group module : Text) : Text → List Part → Prop
  | found {groupKey firstComma nameKey secondComma versionKey rest : Text}
      {groupQuote moduleQuote : Char} {version : Placeholder}
      (valid : (Shape.keyword groupKey groupQuote firstComma nameKey moduleQuote secondComma
        versionKey).IsValid)
      (valued : Placeholder.value rest = some version) :
      IsKeywordForm group module
        (textOf ((Shape.keyword groupKey groupQuote firstComma nameKey moduleQuote secondComma
          versionKey).steps [] group module) ++ rest)
        [.kept ("group".toList ++ groupKey ++ [groupQuote]), .slot .group group,
          .kept (groupQuote :: firstComma ++ ("name".toList ++ nameKey) ++ [moduleQuote]),
          .slot .module module,
          .kept (moduleQuote :: secondComma ++ ("version".toList ++ versionKey) ++ version.opening),
          .slot .version version.token, .kept version.closing]

theorem keywordAt_form {group module whole : Text} {parts : List Part}
    (found : keywordAt group module whole = some parts) :
    IsKeywordForm group module whole parts := by
  unfold keywordAt at found
  simp only [Option.bind_eq_bind, Option.bind_eq_some_iff, Prod.exists] at found
  obtain ⟨_, _, groupFound, groupQuote, _, groupQuoted, firstComma, _, firstSeparated,
    _, _, nameFound, moduleQuote, _, moduleQuoted, secondComma, _, secondSeparated,
    _, rest, versionFound, version, valued, written⟩ := found
  obtain ⟨groupCut, groupKey, groupKeyed, rfl⟩ := keyword_eq_some groupFound
  obtain ⟨firstCut, first⟩ := separator_eq_some firstSeparated
  obtain ⟨nameCut, nameKey, nameKeyed, rfl⟩ := keyword_eq_some nameFound
  obtain ⟨secondCut, second⟩ := separator_eq_some secondSeparated
  obtain ⟨versionCut, versionKey, versionKeyed, rfl⟩ := keyword_eq_some versionFound
  obtain ⟨groupIsQuote, groupLiteral⟩ := quotedLiteral_eq_some.mp groupQuoted
  obtain ⟨moduleIsQuote, moduleLiteral⟩ := quotedLiteral_eq_some.mp moduleQuoted
  have cut : textOf ((Shape.keyword groupKey groupQuote firstComma nameKey moduleQuote secondComma
      versionKey).steps [] group module) ++ rest = whole := by
    rw [← groupCut, groupLiteral, ← firstCut, ← nameCut, moduleLiteral, ← secondCut, ← versionCut]
    simp [Shape.steps]
  cases written
  rw [← cut]
  exact .found (.keyword groupKeyed groupIsQuote first nameKeyed moduleIsQuote second versionKeyed)
    valued

end Migration.Declaration
