import Migration.Proofs.KeywordForm

namespace Migration

/-! How the version of a declaration in keyword form is closed.

A version that begins with a quote ends with the same one.  An opening brace has its closing one if
nothing but a token stands between them and the version ends there; then the token stands inside.
But a brace is also one of the characters of a token.  So a brace that is not closed like this does
not keep a version from being found: the token begins with it.
-/

namespace Declaration

/-- The quote at the start and at the end of a version. -/
def quoteText (quote : Option Quote) : Text :=
  quote.toList.map Subtype.val

/-- The characters of a token between quotes, and of a token without quotes. -/
def allowedIn : Option Quote → Char → Bool
  | some _ => isTokenChar
  | none => isBareTokenChar

/-- Whether the brace in front of a text is closed where the version ends. -/
def Closes (quote : Option Quote) (inner : Text) : Prop :=
  inner.takeWhile isTokenChar ≠ [] ∧
    '\x7d' :: quoteText quote <+: inner.dropWhile isTokenChar

namespace Placeholder

/-- A placeholder that ends with a quote, or one without quotes. -/
def enclosed : Option Quote → Option (Placeholder × Text) → Option Placeholder
  | some quote, inner => between quote.val inner
  | none, inner => inner.map (·.1)

theorem enclosed_eq_some {quote : Option Quote} {inner : Option (Placeholder × Text)}
    {version : Placeholder} :
    enclosed quote inner = some version ↔
      ∃ found rest, inner = some (found, quoteText quote ++ rest) ∧
        version = ⟨quoteText quote ++ found.opening, found.token,
          found.closing ++ quoteText quote⟩ := by
  cases quote with
  | none =>
      rw [enclosed, Option.map_eq_some_iff]
      constructor
      · rintro ⟨⟨found, rest⟩, rfl, rfl⟩
        exact ⟨found, rest, rfl, by simp [quoteText]⟩
      · rintro ⟨found, rest, rfl, rfl⟩
        exact ⟨(found, rest), rfl, by simp [quoteText]⟩
  | some quote =>
      exact between_eq_some

theorem value_eq_enclosed (quote : Option Quote) {text : Text}
    (unquoted : quote = none → ∀ c, text.head? = some c → isQuote c = false) :
    value (quoteText quote ++ text) =
      (enclosed quote (braced text)).or
        (enclosed quote (ofRun (allowedIn quote) '$' text)) := by
  cases quote with
  | some quote => exact if_pos quote.property
  | none =>
      rw [quoteText, Option.toList_none, List.map_nil, List.nil_append,
        Version.value_of_unquoted (unquoted rfl)]
      cases braced text <;> rfl

/-- A version ends with the quote that it begins with. -/
theorem value_ends_quoted {quote : Quote} {inner : Text} {version : Placeholder}
    (valued : value (quote.val :: inner) = some version) :
    ∃ within, version.text = quote.around within := by
  have closed {inside : Option (Placeholder × Text)}
      (isEnclosed : enclosed (some quote) inside = some version) :
      ∃ within, version.text = quote.around within := by
    obtain ⟨found, _, _, rfl⟩ := enclosed_eq_some.mp isEnclosed
    exact ⟨found.text, by simp [text, Quote.around, quoteText]⟩
  have read := (value_eq_enclosed (some quote)
    fun isNone => absurd isNone (Option.some_ne_none quote)).symm.trans valued
  rcases Option.or_eq_some_iff.mp read with braces | ⟨_, run⟩
  · exact closed braces
  · exact closed run

/-! Braces. -/

theorem splitAccess_brace (run : Text) : splitAccess ('\x7b' :: run) = ([], '\x7b' :: run) := by
  refine splitAccess_token_only fun name rest begins => ?_
  obtain ⟨identifier, text⟩ := begins
  cases name with
  | nil => cases identifier
  | cons c name =>
      obtain ⟨rfl, _⟩ := List.cons.inj text
      cases identifier

section Brace

variable {quote : Option Quote} {dollar : Bool} {inner : Text} {version : Placeholder}

theorem braced_brace (dollar : Bool) (inner : Text) :
    braced (markIf dollar '$' ++ '\x7b' :: inner) = inBraces (markIf dollar '$') inner := by
  cases dollar <;> rfl

theorem ofRun_brace {allowed : Char → Bool} (braceAllowed : allowed '\x7b' = true)
    (dollarAllowed : allowed '$' = true) (dollar : Bool) (inner : Text) :
    ofRun allowed '$' (markIf dollar '$' ++ '\x7b' :: inner) =
      some (⟨markIf dollar '$', '\x7b' :: inner.takeWhile allowed, []⟩,
        inner.dropWhile allowed) := by
  have run : (markIf dollar '$' ++ '\x7b' :: inner).takeWhile allowed =
      markIf dollar '$' ++ '\x7b' :: inner.takeWhile allowed := by
    cases dollar <;> simp [markIf, braceAllowed, dollarAllowed]
  have left : (markIf dollar '$' ++ '\x7b' :: inner).dropWhile allowed =
      inner.dropWhile allowed := by
    cases dollar <;> simp [markIf, braceAllowed, dollarAllowed]
  have marked : dropLeading '$' (markIf dollar '$' ++ '\x7b' :: inner.takeWhile allowed) =
      (markIf dollar '$', '\x7b' :: inner.takeWhile allowed) := by
    cases dollar with
    | true => rfl
    | false => cases inner.takeWhile allowed <;> rfl
  rw [ofRun_eq, run, left, if_neg (by simp), marked, ofAccess, splitAccess_brace, List.append_nil]

theorem value_brace (quote : Option Quote) (dollar : Bool) (inner : Text) :
    value (quoteText quote ++ (markIf dollar '$' ++ '\x7b' :: inner)) =
      (enclosed quote (inBraces (markIf dollar '$') inner)).or
        (enclosed quote (some (⟨markIf dollar '$', '\x7b' :: inner.takeWhile (allowedIn quote), []⟩,
          inner.dropWhile (allowedIn quote)))) := by
  have unquoted := Version.unquoted_markIf dollar ('\x7b' :: inner)
    (fun c starts => by cases starts; decide)
  rw [value_eq_enclosed quote fun _ => unquoted, braced_brace, ofRun_brace] <;>
    cases quote <;> rfl

/-- Braces that close have the token inside them. -/
theorem value_of_closes (closes : Closes quote inner)
    (valued : value (quoteText quote ++ (markIf dollar '$' ++ '\x7b' :: inner)) = some version) :
    ∃ properties, version.opening =
        quoteText quote ++ (markIf dollar '$' ++ '\x7b' :: properties) ∧
      properties ++ version.token = inner.takeWhile isTokenChar ∧
      version.closing = '\x7d' :: quoteText quote := by
  obtain ⟨some, rest, split⟩ := closes
  have within : inBraces (markIf dollar '$') inner = _ :=
    inBraces_eq_some.mpr ⟨some, split.symm, rfl⟩
  have isEnclosed := enclosed_eq_some.mpr ⟨_, rest, within, rfl⟩
  rw [value_brace, isEnclosed, Option.some_or] at valued
  cases valued
  refine ⟨(splitAccess (inner.takeWhile isTokenChar)).1, ?_, splitAccess_append _, rfl⟩
  simp [ofAccess, closed]

/-- A brace that does not close begins the token. -/
theorem value_of_not_closes (unclosed : ¬ Closes quote inner)
    (valued : value (quoteText quote ++ (markIf dollar '$' ++ '\x7b' :: inner)) = some version) :
    version.opening = quoteText quote ++ markIf dollar '$' ∧
      version.token.head? = some '\x7b' ∧ version.closing = quoteText quote := by
  rw [value_brace] at valued
  rcases Option.or_eq_some_iff.mp valued with braces | ⟨_, run⟩
  · obtain ⟨_, rest, within, _⟩ := enclosed_eq_some.mp braces
    obtain ⟨some, split, _⟩ := inBraces_eq_some.mp within
    exact absurd ⟨some, rest, split.symm⟩ unclosed
  · obtain ⟨_, _, same, rfl⟩ := enclosed_eq_some.mp run
    obtain ⟨rfl, _⟩ := Prod.mk.inj (Option.some.inj same)
    exact ⟨rfl, rfl, rfl⟩

end Brace

end Placeholder

/-! Declarations. -/

/-- The version of a declaration stands behind its keyword, and its token is the slot in it. -/
structure VersionAt (text : Text) (parts : List Part) (lead : Text) (version : Placeholder)
    (behind : Text) : Prop where
  whole : lead ++ (version.text ++ behind) = text
  key : ∃ front key, lead = front ++ key ∧ IsVersionKey key
  slot : ∃ front, front.flatMap Part.old = lead ++ version.opening ∧
    parts = front ++ [.slot .version version.token, .kept version.closing]
  first : firstVersion? parts = some version.token

theorem keywordAt_versionAt {group module text : Text} {parts : List Part}
    (found : keywordAt group module text = some parts) :
    ∃ lead version behind, VersionAt text parts lead version behind ∧
      Placeholder.value (version.text ++ behind) = some version := by
  cases keywordAt_form found with
  | @found groupKey firstComma nameKey _ _ _ groupQuote moduleQuote version valid valued =>
      obtain ⟨behind, cuts⟩ := Placeholder.value_cuts valued
      refine ⟨_, version, behind, ⟨by rw [cuts.whole], ?_,
        ⟨[_, _, _, _, _], ?_, rfl⟩, rfl⟩, by rwa [cuts.whole]⟩
      · cases valid with
        | keyword _ _ _ _ _ second versionKeyed =>
            obtain ⟨early, comma, _, commaBlank, rfl⟩ := second
            obtain ⟨before, after, beforeBlank, afterBlank, rfl⟩ := versionKeyed
            exact ⟨"group".toList ++ groupKey ++ groupQuote :: group ++ groupQuote :: firstComma ++
                "name".toList ++ nameKey ++ moduleQuote :: module ++ moduleQuote :: early,
              ',' :: comma ++ "version".toList ++ before ++ ':' :: after, by simp [Shape.steps],
              ⟨comma, before, after, commaBlank, beforeBlank, afterBlank, rfl⟩⟩
      · simp [Part.old, Shape.steps]

/-- The version of a declaration in keyword form ends with the quote that it begins with.  If a
brace follows the quote and the dollar sign, and it closes, the token stands in the braces.  If it
does not close, the token begins with it. -/
theorem keywordAt_closes {group module text : Text} {parts : List Part}
    (found : keywordAt group module text = some parts) :
    ∃ lead version behind, VersionAt text parts lead version behind ∧
      (∀ quote : Quote, version.text.head? = some quote.val →
        ∃ within, version.text = quote.around within) ∧
      ∀ (quote : Option Quote) (dollar : Bool) (inner : Text),
        version.text ++ behind = quoteText quote ++ (markIf dollar '$' ++ '\x7b' :: inner) →
          (Closes quote inner →
            ∃ properties, version.opening =
                quoteText quote ++ (markIf dollar '$' ++ '\x7b' :: properties) ∧
              properties ++ version.token = inner.takeWhile isTokenChar ∧
              version.closing = '\x7d' :: quoteText quote) ∧
          (¬ Closes quote inner →
            version.opening = quoteText quote ++ markIf dollar '$' ∧
              version.token.head? = some '\x7b' ∧ version.closing = quoteText quote) := by
  obtain ⟨lead, version, behind, versionAt, valued⟩ := keywordAt_versionAt found
  refine ⟨lead, version, behind, versionAt, ?_, ?_⟩
  · intro quote starts
    obtain ⟨rest, split⟩ := List.head?_eq_some_iff.mp starts
    rw [split] at valued
    exact Placeholder.value_ends_quoted valued
  · intro quote dollar inner spelled
    rw [spelled] at valued
    exact ⟨fun closes => Placeholder.value_of_closes closes valued,
      fun unclosed => Placeholder.value_of_not_closes unclosed valued⟩

end Declaration

namespace Rule

open Declaration

def openBraceLine : Text :=
  "group:'a',name:'b',version:\"$\x7bv\"".toList

/-- An open brace is captured and replaced. -/
theorem openBraceLine_captured :
    (keywordAt libraryRule.source.group libraryRule.source.module openBraceLine).bind
        firstVersion? = some "\x7bv".toList ∧
      libraryRule.migrate openBraceLine =
        some "group:'x',name:'y',version:\"$yVersion\" // Latest version: 1".toList := by
  decide

theorem openBraceLine_version {parts : List Part} {lead behind : Text} {version : Placeholder}
    (versionAt : VersionAt openBraceLine parts lead version behind) :
    version.text ++ behind = "\"$\x7bv\"".toList := by
  obtain ⟨front, key, rfl, ⟨comma, before, after, _, _, afterBlank, rfl⟩⟩ := versionAt.key
  have whole := versionAt.whole
  -- The key ends with the only colon that the keyword comes before.
  have colons : ∀ size < 32, (openBraceLine.drop size).head? = some ':' →
      "version".toList <:+: openBraceLine.take size →
      openBraceLine.drop (size + 1) = "\"$\x7bv\"".toList := by decide
  have split : (front ++ ',' :: comma ++ "version".toList ++ before) ++
      ':' :: (after ++ (version.text ++ behind)) = openBraceLine := by
    simpa using whole
  have keyword : "version".toList <:+: front ++ ',' :: comma ++ "version".toList ++ before :=
    ⟨front ++ ',' :: comma, before, rfl⟩
  generalize front ++ ',' :: comma ++ "version".toList ++ before = start at split keyword
  have short : start.length < 32 := by
    have lengths := congrArg List.length split
    have size : openBraceLine.length = 32 := by decide
    rw [List.length_append, List.length_cons, size] at lengths
    omega
  have rest := colons start.length short (by rw [← split, List.drop_left]; rfl)
    (by rwa [← split, List.take_left])
  rw [← split, List.drop_append, List.drop_eq_nil_of_le (Nat.le_succ _), List.nil_append,
    Nat.add_sub_cancel_left] at rest
  cases after with
  | nil => exact rest
  | cons c after =>
      have mark : c = '"' := (List.cons.inj rest).1
      have blank := afterBlank c List.mem_cons_self
      rw [mark] at blank
      exact absurd blank (by decide)

/-- The brace does not close, and the token begins with it. -/
theorem openBraceLine_closes :
    ∃ parts lead version behind,
      keywordAt libraryRule.source.group libraryRule.source.module openBraceLine = some parts ∧
        VersionAt openBraceLine parts lead version behind ∧
        (∀ quote : Quote, version.text.head? = some quote.val →
          ∃ within, version.text = quote.around within) ∧
        version.text ++ behind = "\"$\x7bv\"".toList ∧
        ¬ Closes (some ⟨'"', rfl⟩) "v\"".toList ∧
        version.opening = "\"$".toList ∧ version.token.head? = some '\x7b' ∧
        version.closing = "\"".toList := by
  have isFound : (keywordAt libraryRule.source.group libraryRule.source.module
      openBraceLine).isSome = true := by decide
  obtain ⟨parts, found⟩ := Option.isSome_iff_exists.mp isFound
  obtain ⟨lead, version, behind, versionAt, quoted, braced⟩ := keywordAt_closes found
  have spelled := openBraceLine_version versionAt
  have unclosed : ¬ Closes (some ⟨'"', rfl⟩) "v\"".toList := by
    rintro ⟨_, closed⟩
    exact absurd closed (by decide)
  have opened := (braced (some ⟨'"', rfl⟩) true "v\"".toList spelled).2 unclosed
  exact ⟨parts, lead, version, behind, found, versionAt, quoted, spelled, unclosed, opened⟩

end Rule

end Migration
