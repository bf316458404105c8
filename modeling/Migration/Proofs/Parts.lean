import Migration.Proofs.Readers

namespace Migration

/-! The parts of a line.

The old texts of the parts are the line.  Every declaration has a version, in a placeholder at its
end, and behind the last declaration the characters are kept one by one.
-/

namespace Declaration

namespace Placeholder

structure IsSolid (placeholder : Placeholder) : Prop where
  solid : placeholder.text.Solid
  notEmpty : placeholder.text ≠ []

/-- A placeholder stands at the start of a text, with `rest` behind it. -/
structure Cuts (placeholder : Placeholder) (rest whole : Text) : Prop
    extends IsSolid placeholder where
  whole : placeholder.text ++ rest = whole

theorem ofRun_cuts {allowed : Char → Bool} {mark : Char} {whole rest : Text}
    {placeholder : Placeholder} (solid : ∀ c, allowed c = true → Text.isBlank c = false)
    (found : ofRun allowed mark whole = some (placeholder, rest)) :
    placeholder.Cuts rest whole ∧ placeholder.closing = [] := by
  obtain ⟨notEmpty, rfl, rfl⟩ := ofRun_eq_some.mp found
  refine ⟨⟨⟨?_, ?_⟩, ?_⟩, rfl⟩
  · rw [text_ofAccess, dropLeading_append]
    exact Text.Solid.takeWhile solid whole
  · rwa [text_ofAccess, dropLeading_append]
  · rw [text_ofAccess, dropLeading_append]
    exact List.takeWhile_append_dropWhile

theorem IsDollar.solid {dollar : Text} (isDollar : IsDollar dollar) : dollar.Solid := by
  rcases isDollar with rfl | rfl <;> decide

theorem inBraces_cuts {dollar inner rest : Text} {placeholder : Placeholder}
    (dollarSolid : dollar.Solid) (found : inBraces dollar inner = some (placeholder, rest)) :
    placeholder.Cuts rest (dollar ++ '\x7b' :: inner) := by
  obtain ⟨_, dropped, rfl⟩ := inBraces_eq_some.mp found
  have inside : inner.takeWhile isTokenChar ++ '\x7d' :: rest = inner := by
    rw [← dropped, List.takeWhile_append_dropWhile]
  refine ⟨⟨?_, ?_⟩, ?_⟩
  · rw [text_closed, text_ofAccess]
    exact ((dollarSolid.append (by decide)).append
      (Text.Solid.takeWhile isTokenChar_solid inner)).append (by decide)
  · simp
  · simp [inside]

theorem braced_cuts {whole rest : Text} {placeholder : Placeholder}
    (found : braced whole = some (placeholder, rest)) : placeholder.Cuts rest whole := by
  obtain ⟨dollar, inner, isDollar, rfl, within⟩ := braced_eq_some.mp found
  exact inBraces_cuts isDollar.solid within

theorem between_cuts {quote : Char} {whole : Text} {inner : Option (Placeholder × Text)}
    {placeholder : Placeholder} (quoteSolid : Text.isBlank quote = false)
    (cuts : ∀ found rest, inner = some (found, rest) → found.Cuts rest whole)
    (found : between quote inner = some placeholder) :
    ∃ rest, placeholder.Cuts rest (quote :: whole) := by
  obtain ⟨within, rest, read, rfl⟩ := between_eq_some.mp found
  obtain ⟨⟨solid, _⟩, whole⟩ := cuts within _ read
  have written : text ⟨quote :: within.opening, within.token, within.closing ++ [quote]⟩ =
      quote :: (within.text ++ [quote]) := by
    simp only [text, List.cons_append, List.append_assoc]
  refine ⟨rest, ⟨?_, ?_⟩, ?_⟩
  · rw [written]
    refine List.forall_mem_cons.mpr ⟨quoteSolid, solid.append ?_⟩
    exact List.forall_mem_singleton.mpr quoteSolid
  · rw [written]
    exact List.cons_ne_nil _ _
  · rw [written]
    simp [whole]

theorem value_cuts {whole : Text} {placeholder : Placeholder}
    (found : value whole = some placeholder) : ∃ rest, placeholder.Cuts rest whole := by
  rcases value_cases found with ⟨quote, inner, quoted, rfl, braces | run⟩ | ⟨rest, braces | run⟩
  · exact between_cuts (quote_solid quoted) (fun _ _ found => braced_cuts found) braces
  · exact between_cuts (quote_solid quoted)
      (fun _ _ found => (ofRun_cuts isTokenChar_solid found).1) run
  · exact ⟨rest, braced_cuts braces⟩
  · exact ⟨rest, (ofRun_cuts isBareTokenChar_solid run).1⟩

end Placeholder

/-- The parts of one declaration: some text that ends in `lead`, and the version's placeholder. -/
structure IsDeclaration (parts : List Part) (lead : Text) (placeholder : Placeholder) : Prop where
  old : ∃ front, parts.flatMap Part.old = front ++ lead ++ placeholder.text
  filled : ∀ fill, ∃ front,
    parts.flatMap (Part.filled fill) = front ++ fill .version ++ placeholder.closing
  version : (firstVersion? parts).isSome = true
  placeholder : placeholder.IsSolid

theorem closingBrace_solid (text : Text) : (closingBrace text).1.Solid := by
  rw [closingBrace]
  split
  · exact List.forall_mem_singleton.mpr rfl
  · exact List.forall_mem_nil _

theorem coordinateAt_eq_some {group module whole : Text} {parts : List Part}
    (found : coordinateAt group module whole = some parts) :
    (∃ rest, parts.flatMap Part.old ++ rest = whole) ∧
      ∃ placeholder, IsDeclaration parts [':', '$'] placeholder := by
  obtain ⟨rest, placeholder, after, rfl, run, rfl⟩ := coordinateAt_eq_some_iff.mp found
  obtain ⟨⟨⟨solid, notEmpty⟩, rfl⟩, noClosing⟩ := Placeholder.ofRun_cuts isTokenChar_solid run
  obtain ⟨closing, left, brace, closingSolid, rfl⟩ : ∃ closing left : Text,
      closingBrace after = (closing, left) ∧ closing.Solid ∧ closing ++ left = after :=
    ⟨_, _, rfl, closingBrace_solid after, closingBrace_append after⟩
  have text : Placeholder.text { placeholder with closing } = placeholder.text ++ closing := by
    simp [Placeholder.text, noClosing]
  rw [brace]
  refine ⟨⟨left, ?_⟩, { placeholder with closing }, ⟨group ++ ':' :: module, ?_⟩, ?_, rfl, ?_, ?_⟩
  · simp [writtenParts, Part.old, Placeholder.text, noClosing]
  · simp [writtenParts, Part.old, Placeholder.text]
  · intro fill
    exact ⟨fill .coordinate ++ ([':', '$'] ++ placeholder.opening), by
      simp [writtenParts, Part.filled]⟩
  · rw [text]
    exact solid.append closingSolid
  · rw [text]
    exact List.append_ne_nil_of_left_ne_nil notEmpty closing

/-- What stands between the second comma and the version's value. -/
structure IsVersionKey (lead : Text) : Prop where
  written : ∃ comma before after : Text, comma.Blank ∧ before.Blank ∧ after.Blank ∧
    lead = ',' :: comma ++ "version".toList ++ before ++ ':' :: after

theorem keywordAt_eq_some {group module whole : Text} {parts : List Part}
    (found : keywordAt group module whole = some parts) :
    (∃ rest, parts.flatMap Part.old ++ rest = whole) ∧
      ∃ lead placeholder, IsVersionKey lead ∧ IsDeclaration parts lead placeholder := by
  cases keywordAt_form found with
  | @found groupKey firstComma nameKey _ _ _ groupQuote moduleQuote version valid valued =>
      obtain ⟨rest, isSolid, rfl⟩ := Placeholder.value_cuts valued
      cases valid with
      | keyword _ _ _ _ _ second versionKeyed =>
          obtain ⟨early, comma, _, commaBlank, rfl⟩ := second
          obtain ⟨before, after, beforeBlank, afterBlank, rfl⟩ := versionKeyed
          refine ⟨⟨rest, ?_⟩, ',' :: comma ++ "version".toList ++ before ++ ':' :: after, version,
            ⟨comma, before, after, commaBlank, beforeBlank, afterBlank, rfl⟩, ⟨?_, ?_⟩, ?_, rfl,
            isSolid⟩
          · simp [Shape.steps, Part.old, Placeholder.text]
          · exact "group".toList ++ groupKey ++ groupQuote :: group ++ groupQuote :: firstComma ++
              "name".toList ++ nameKey ++ moduleQuote :: module ++ moduleQuote :: early
          · simp [Part.old, Placeholder.text]
          · intro fill
            exact ⟨"group".toList ++ groupKey ++ groupQuote :: fill .group ++
              groupQuote :: firstComma ++ "name".toList ++ nameKey ++ moduleQuote :: fill .module ++
              moduleQuote :: (early ++ ',' :: comma) ++ "version".toList ++ (before ++ ':' :: after) ++
              version.opening, by simp [Part.filled]⟩

/-- Declarations are found at the start of a text, whatever white space is at its end. -/
structure Finds (declarationAt : Text → Option (List Part)) : Prop where
  within : ∀ whole parts, declarationAt whole = some parts →
    ∃ rest, parts.flatMap Part.old ++ rest = whole
  declares : ∀ whole parts, declarationAt whole = some parts →
    ∃ lead placeholder, IsDeclaration parts lead placeholder
  unaffected : ∀ ending : Text, ending.Blank → ∀ text,
    declarationAt (text ++ ending) = declarationAt text
  nothing : declarationAt [] = none

theorem coordinateAt_finds (group module : Text) : Finds (coordinateAt group module) where
  within _ _ found := (coordinateAt_eq_some found).1
  declares _ _ found := ⟨_, (coordinateAt_eq_some found).2⟩
  unaffected _ blank text := coordinateAt_append blank group module text
  nothing := by
    have front : group ++ ':' :: module ++ [':', '$'] ≠ [] := by simp
    obtain ⟨c, front, split⟩ := List.exists_cons_of_ne_nil front
    rw [coordinateAt, split]
    rfl

theorem keywordAt_finds (group module : Text) : Finds (keywordAt group module) where
  within _ _ found := (keywordAt_eq_some found).1
  declares _ _ found := by
    obtain ⟨_, lead, placeholder, _, declaration⟩ := keywordAt_eq_some found
    exact ⟨lead, placeholder, declaration⟩
  unaffected _ blank text := keywordAt_append blank group module text
  nothing := rfl

theorem Form.finds (form : Form) (group module : Text) :
    Finds (form.declarationAt group module) := by
  cases form with
  | coordinate => exact coordinateAt_finds group module
  | keyword => exact keywordAt_finds group module

/-- The parts of a line that holds declarations in one form. -/
def Form.partsOf (form : Form) (group module line : Text) : List Part :=
  partsFrom (form.declarationAt group module) 0 line

/-- The parts of a line are those of the first form that is declared on it. -/
theorem parts?_eq_some_iff {group module line : Text} {parts : List Part} :
    parts? group module line = some parts ↔
      ∃ form : Form, parts = form.partsOf group module line ∧
        parts.any (·.slot?.isSome) = true ∧
        (form = .keyword →
          (Form.coordinate.partsOf group module line).any (·.slot?.isSome) = false) := by
  constructor
  · intro found
    rw [parts?] at found
    split at found
    · next applies =>
        cases found
        exact ⟨.coordinate, rfl, applies, nofun⟩
    · next none =>
        split at found
        · next applies =>
            cases found
            exact ⟨.keyword, rfl, applies, fun _ => eq_false_of_ne_true none⟩
        · cases found
  · rintro ⟨form, rfl, applies, first⟩
    cases form with
    | coordinate => exact if_pos applies
    | keyword => exact (if_neg (ne_true_of_eq_false (first rfl))).trans (if_pos applies)

def keptParts (text : Text) : List Part :=
  text.map fun c => .kept [c]

@[simp] theorem keptParts_nil : keptParts [] = [] := rfl

@[simp] theorem keptParts_cons (c : Char) (text : Text) :
    keptParts (c :: text) = .kept [c] :: keptParts text := rfl

@[simp] theorem flatMap_old_keptParts (text : Text) : (keptParts text).flatMap Part.old = text := by
  induction text with
  | nil => rfl
  | cons c rest ih => simp [Part.old, ih]

@[simp] theorem flatMap_filled_keptParts (fill : Slot → Text) (text : Text) :
    (keptParts text).flatMap (Part.filled fill) = text := by
  induction text with
  | nil => rfl
  | cons c rest ih => simp [Part.filled, ih]

@[simp] theorem any_slot_keptParts (text : Text) :
    (keptParts text).any (·.slot?.isSome) = false := by
  simp [keptParts, Part.slot?]

variable {declarationAt : Text → Option (List Part)}

theorem Finds.length_pos (finds : Finds declarationAt) {whole : Text} {parts : List Part}
    (found : declarationAt whole = some parts) : 0 < (parts.flatMap Part.old).length := by
  obtain ⟨lead, placeholder, ⟨front, old⟩, _, _, solid⟩ := finds.declares whole parts found
  rw [old]
  exact List.length_pos_iff.mpr (List.append_ne_nil_of_right_ne_nil _ solid.notEmpty)

theorem Finds.drop_eq (finds : Finds declarationAt) {c : Char} {rest : Text} {parts : List Part}
    (found : declarationAt (c :: rest) = some parts) :
    parts.flatMap Part.old ++ rest.drop ((parts.flatMap Part.old).length - 1) = c :: rest ∧
      (parts.flatMap Part.old).length - 1 ≤ rest.length := by
  have some := finds.length_pos found
  obtain ⟨behind, whole⟩ := finds.within _ _ found
  have dropped : rest.drop ((parts.flatMap Part.old).length - 1) = behind := by
    have cut := congrArg (List.drop (parts.flatMap Part.old).length) whole
    rw [List.drop_left] at cut
    have next : (parts.flatMap Part.old).length - 1 + 1 = (parts.flatMap Part.old).length := by
      omega
    rw [cut, ← next, List.drop_succ_cons, Nat.add_sub_cancel]
  refine ⟨by rw [dropped, whole], ?_⟩
  have length := congrArg List.length whole
  simp only [List.length_append, List.length_cons] at length
  omega

theorem flatMap_old_partsFrom (finds : Finds declarationAt) (skip : Nat) (text : Text) :
    (partsFrom declarationAt skip text).flatMap Part.old = text.drop skip := by
  fun_induction partsFrom declarationAt skip text with
  | case1 => simp
  | case2 skip c rest ih => rw [ih, List.drop_succ_cons]
  | case3 c rest parts found ih =>
      rw [List.flatMap_append, ih, (finds.drop_eq found).1, List.drop_zero]
  | case4 c rest found ih =>
      rw [List.flatMap_cons, ih]
      rfl

theorem partsFrom_blank (finds : Finds declarationAt) {ending : Text} (blank : ending.Blank) :
    partsFrom declarationAt 0 ending = keptParts ending := by
  induction ending with
  | nil => rfl
  | cons c rest ih =>
      have missing : declarationAt (c :: rest) = none := by
        have same := finds.unaffected (c :: rest) blank []
        rwa [finds.nothing] at same
      rw [partsFrom, missing, ih (List.forall_mem_cons.mp blank).2]
      rfl

theorem partsFrom_append (finds : Finds declarationAt) {ending : Text} (blank : ending.Blank)
    {skip : Nat} {text : Text} (enough : skip ≤ text.length) :
    partsFrom declarationAt skip (text ++ ending) =
      partsFrom declarationAt skip text ++ keptParts ending := by
  fun_induction partsFrom declarationAt skip text with
  | case1 skip =>
      cases Nat.le_zero.mp enough
      exact partsFrom_blank finds blank
  | case2 skip c rest ih =>
      rw [List.cons_append, partsFrom]
      exact ih (Nat.le_of_succ_le_succ enough)
  | case3 c rest parts found ih =>
      have same : declarationAt (c :: (rest ++ ending)) = some parts := by
        rw [← List.cons_append, finds.unaffected ending blank, found]
      rw [List.cons_append, partsFrom, same]
      dsimp only
      rw [ih (finds.drop_eq found).2, List.append_assoc]
  | case4 c rest found ih =>
      have same : declarationAt (c :: (rest ++ ending)) = none := by
        rw [← List.cons_append, finds.unaffected ending blank, found]
      rw [List.cons_append, partsFrom, same]
      dsimp only
      rw [ih (Nat.zero_le _), List.cons_append]

theorem partsFrom_cases (declarationAt : Text → Option (List Part)) (skip : Nat) (text : Text) :
    partsFrom declarationAt skip text = keptParts (text.drop skip) ∨
    ∃ before whole declaration rest, declarationAt whole = some declaration ∧
      partsFrom declarationAt skip text = before ++ declaration ++ keptParts rest := by
  fun_induction partsFrom declarationAt skip text with
  | case1 => exact .inl (by simp)
  | case2 skip c rest ih => exact ih
  | case3 c rest parts found ih =>
      rcases ih with none | ⟨before, whole, declaration, left, last, split⟩
      · exact .inr ⟨[], _, parts, _, found, by rw [none]; rfl⟩
      · exact .inr ⟨parts ++ before, whole, declaration, left, last, by rw [split]; simp⟩
  | case4 c rest found ih =>
      rcases ih with none | ⟨before, whole, declaration, left, last, split⟩
      · exact .inl (by rw [none]; rfl)
      · exact .inr ⟨.kept [c] :: before, whole, declaration, left, last, by rw [split]; simp⟩

/-- A line is cut in the same way whatever white space is at its end. -/
theorem parts?_append {ending : Text} (blank : ending.Blank) (group module text : Text) :
    parts? group module (text ++ ending) =
      (parts? group module text).map (· ++ keptParts ending) := by
  have coordinate : coordinateParts group module (text ++ ending) =
      coordinateParts group module text ++ keptParts ending :=
    partsFrom_append (coordinateAt_finds group module) blank (Nat.zero_le _)
  have keyword : keywordParts group module (text ++ ending) =
      keywordParts group module text ++ keptParts ending :=
    partsFrom_append (keywordAt_finds group module) blank (Nat.zero_le _)
  rw [parts?, parts?, coordinate, keyword]
  simp only [List.any_append, any_slot_keptParts, Bool.or_false]
  split
  · rfl
  · split <;> rfl

/-- What leads to a placeholder: the end of a coordinate, or the keyword of the version. -/
def IsLead (lead : Text) : Prop :=
  lead = [':', '$'] ∨ IsVersionKey lead

/-- The last declaration among the parts, and what is kept behind it. -/
structure EndsDeclaration (parts : List Part) (lead : Text) (placeholder : Placeholder)
    (rest : Text) : Prop where
  isLead : IsLead lead
  split : ∃ before declaration, parts = before ++ declaration ++ keptParts rest ∧
    IsDeclaration declaration lead placeholder

theorem Form.exists_lead (form : Form) {group module whole : Text} {parts : List Part}
    (found : form.declarationAt group module whole = some parts) :
    ∃ lead placeholder, IsLead lead ∧ IsDeclaration parts lead placeholder := by
  cases form with
  | coordinate =>
      obtain ⟨_, placeholder, declares⟩ := coordinateAt_eq_some found
      exact ⟨_, placeholder, .inl rfl, declares⟩
  | keyword =>
      obtain ⟨_, lead, placeholder, key, declares⟩ := keywordAt_eq_some found
      exact ⟨lead, placeholder, .inr key, declares⟩

theorem parts?_eq_some {group module line : Text} {parts : List Part}
    (found : parts? group module line = some parts) :
    parts.flatMap Part.old = line ∧
      ∃ lead placeholder rest, EndsDeclaration parts lead placeholder rest := by
  obtain ⟨form, rfl, applies, _⟩ := parts?_eq_some_iff.mp found
  refine ⟨flatMap_old_partsFrom (form.finds group module) 0 line, ?_⟩
  rw [Form.partsOf] at applies ⊢
  rcases partsFrom_cases (form.declarationAt group module) 0 line with
    none | ⟨before, whole, declaration, rest, last, split⟩
  · rw [none, any_slot_keptParts] at applies
    cases applies
  · obtain ⟨lead, placeholder, isLead, declares⟩ := form.exists_lead last
    exact ⟨lead, placeholder, rest, isLead, before, declaration, split, declares⟩

/-- The version of the first declaration is the leftmost version slot. -/
theorem firstVersion?_eq_some {parts : List Part} {token : Text}
    (found : firstVersion? parts = some token) :
    ∃ before after, parts = before ++ .slot .version token :: after ∧
      ∀ other, .slot .version other ∉ before := by
  obtain ⟨before, part, after, split, version, first⟩ := List.findSome?_eq_some_iff.mp found
  refine ⟨before, after, ?_, ?_⟩
  · split at version
    · rw [← Option.some.inj version, split]
    · cases version
  · intro other member
    have none := first _ member
    cases none

theorem firstVersion?_keptParts (text : Text) : firstVersion? (keptParts text) = none := by
  simp [firstVersion?, keptParts]

theorem firstVersion?_keptParts_append (text : Text) (parts : List Part) :
    firstVersion? (keptParts text ++ parts) = firstVersion? parts := by
  rw [firstVersion?, List.findSome?_append, ← firstVersion?, firstVersion?_keptParts,
    Option.none_or, firstVersion?]

theorem firstVersion?_isSome {group module line : Text} {parts : List Part}
    (found : parts? group module line = some parts) : (firstVersion? parts).isSome = true := by
  obtain ⟨_, lead, placeholder, rest, _, before, declaration, rfl, declares⟩ := parts?_eq_some found
  have version := declares.version
  rw [firstVersion?, List.findSome?_isSome_iff] at version ⊢
  obtain ⟨part, member, isVersion⟩ := version
  exact ⟨part, by simp [member], isVersion⟩

end Declaration

end Migration
