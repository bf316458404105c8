import Mathlib.Data.List.TakeWhile
import Migration.Json.Reader

namespace Migration.Json

/-! Reading what was written.

A value of texts, lists and records is written in many ways, which differ in the white space between
its tokens, and is read from each of them.  Every character of a text is written in one way, and
read as that character again.
-/

section Strings

variable {source rest : Text} {parts : List StringPart}

theorem hexDigit?_digitChar : ∀ digit < 16, hexDigit? (Nat.digitChar digit) = some digit := by
  decide

theorem readParts_short {letter meant : Char} (means : shortEscape? letter = some meant)
    (read : readParts source = some (parts, rest)) :
    readParts ('\\' :: letter :: source) = some (.char meant :: parts, rest) := by
  rw [readParts, means, read]
  · rfl
  · rintro a b c d more rfl
    cases means

theorem readParts_code {unit : Nat} (small : unit < 0x20)
    (read : readParts source = some (parts, rest)) :
    readParts (['\\', 'u', '0', '0'] ++ hexPair unit ++ source) =
      some (.code unit :: parts, rest) := by
  have code : hexCode? '0' '0' (Nat.digitChar (unit / 16 % 16)) (Nat.digitChar (unit % 16)) =
      some unit := by
    have zero : hexDigit? '0' = some 0 := rfl
    rw [hexCode?, zero, hexDigit?_digitChar _ (by omega), hexDigit?_digitChar _ (by omega)]
    simp only [Option.bind_eq_bind, Option.bind_some, Option.pure_def, Option.some.injEq]
    omega
  simp only [hexPair, List.cons_append, List.nil_append]
  rw [readParts, code, read]
  rfl

theorem readParts_plain {c : Char} (noQuote : c ≠ '"') (noEscape : c ≠ '\\')
    (big : ¬ c.toNat < 0x20) (read : readParts source = some (parts, rest)) :
    readParts (c :: source) = some (.char c :: parts, rest) := by
  rw [readParts, if_neg (by simp [noEscape, big]), read]
  · rfl
  · exact noQuote
  · exact fun _ _ _ _ _ same => absurd same noEscape
  · exact fun _ _ same => absurd same noEscape

/-- The part of a string that stands for one character. -/
def StringPart.StandsFor (part : StringPart) (c : Char) : Prop :=
  ∀ more, assemble (part :: more) = (assemble more).map (c :: ·)

theorem StringPart.standsFor_char (c : Char) : StandsFor (.char c) c :=
  fun _ => rfl

theorem StringPart.standsFor_code {c : Char} (small : c.toNat < 0x20) :
    StandsFor (.code c.toNat) c := by
  have notLeading : isLeading c.toNat = false := by
    rw [isLeading, Bool.and_eq_false_iff, decide_eq_false_iff_not]
    omega
  have notTrailing : isTrailing c.toNat = false := by
    rw [isTrailing, Bool.and_eq_false_iff, decide_eq_false_iff_not]
    omega
  intro more
  cases more with
  | nil => simp [assemble, notLeading, notTrailing]
  | cons next more => cases next <;> simp [assemble, notLeading, notTrailing]

theorem escape_cases (c : Char) :
    (∃ letter, shortEscape? letter = some c ∧ escape c = ['\\', letter]) ∨
    (c.toNat < 0x20 ∧ escape c = ['\\', 'u', '0', '0'] ++ hexPair c.toNat) ∨
    (c ≠ '"' ∧ c ≠ '\\' ∧ ¬ c.toNat < 0x20 ∧ escape c = [c]) := by
  fun_cases escape c with
  | case1 is => exact .inl ⟨'"', congrArg some is.symm, rfl⟩
  | case2 _ is => exact .inl ⟨'\\', congrArg some is.symm, rfl⟩
  | case3 _ _ is => exact .inl ⟨'b', congrArg some is.symm, rfl⟩
  | case4 _ _ _ is => exact .inl ⟨'f', congrArg some is.symm, rfl⟩
  | case5 _ _ _ _ is => exact .inl ⟨'n', congrArg some is.symm, rfl⟩
  | case6 _ _ _ _ _ is => exact .inl ⟨'r', congrArg some is.symm, rfl⟩
  | case7 _ _ _ _ _ _ is => exact .inl ⟨'t', congrArg some is.symm, rfl⟩
  | case8 _ _ _ _ _ _ _ control => exact .inr (.inl ⟨control, rfl⟩)
  | case9 noQuote noEscape _ _ _ _ _ big => exact .inr (.inr ⟨noQuote, noEscape, big, rfl⟩)

theorem exists_part (c : Char) (read : readParts source = some (parts, rest)) :
    ∃ part : StringPart, part.StandsFor c ∧
      readParts (escape c ++ source) = some (part :: parts, rest) := by
  rcases escape_cases c with ⟨letter, means, written⟩ | ⟨control, written⟩ |
    ⟨noQuote, noEscape, big, written⟩
  · exact ⟨.char c, StringPart.standsFor_char c, written ▸ readParts_short means read⟩
  · exact ⟨.code c.toNat, StringPart.standsFor_code control, written ▸ readParts_code control read⟩
  · exact ⟨.char c, StringPart.standsFor_char c,
      written ▸ readParts_plain noQuote noEscape big read⟩

/-- A text that was written between quotes is read again. -/
theorem readString_escape (content behind : Text) :
    readString (content.flatMap escape ++ '"' :: behind) = some (some content, behind) := by
  have read : ∃ parts, readParts (content.flatMap escape ++ '"' :: behind) = some (parts, behind) ∧
      assemble parts = some content := by
    induction content with
    | nil => exact ⟨[], rfl, rfl⟩
    | cons c content ih =>
        obtain ⟨parts, read, assembled⟩ := ih
        obtain ⟨part, standsFor, readMore⟩ := exists_part c read
        refine ⟨part :: parts, ?_, by rw [standsFor, assembled]; rfl⟩
        rwa [List.flatMap_cons, List.append_assoc]
  obtain ⟨parts, read, assembled⟩ := read
  rw [readString, read]
  exact congrArg (fun text => some (text, behind)) assembled

end Strings

/-! Values. -/

def IsGap (gap : Text) : Prop :=
  ∀ c ∈ gap, isSpace c = true

/-- What is written one after the other between brackets, or a value on its own. -/
inductive Phrase where
  | value (value : Json)
  | items (items : List Json)
  | members (members : List (Option Text × Json))

/-- The ways to write values of texts, lists and records, with any white space between tokens. -/
inductive Spells : Phrase → Text → Prop
  | text (content : Text) : Spells (.value (.text content)) (quote (some content))
  | noItems {gap : Text} (blank : IsGap gap) :
      Spells (.value (.array [])) ('[' :: (gap ++ [']']))
  | array {items : List Json} {body : Text} (spelled : Spells (.items items) body) :
      Spells (.value (.array items)) ('[' :: (body ++ [']']))
  | noMembers {gap : Text} (blank : IsGap gap) :
      Spells (.value (.object [])) ('\x7b' :: (gap ++ ['\x7d']))
  | object {members : List (Option Text × Json)} {body : Text}
      (spelled : Spells (.members members) body) :
      Spells (.value (.object members)) ('\x7b' :: (body ++ ['\x7d']))
  | lastItem {item : Json} {before source after : Text} (blank : IsGap before)
      (spelled : Spells (.value item) source) (blankAfter : IsGap after) :
      Spells (.items [item]) (before ++ (source ++ after))
  | nextItem {item : Json} {items : List Json} {before source after body : Text}
      (blank : IsGap before) (spelled : Spells (.value item) source) (blankAfter : IsGap after)
      (others : Spells (.items items) body) :
      Spells (.items (item :: items)) (before ++ (source ++ (after ++ ',' :: body)))
  | lastMember {key : Text} {value : Json} {before between ahead source after : Text}
      (blank : IsGap before) (blankBetween : IsGap between) (blankAhead : IsGap ahead)
      (spelled : Spells (.value value) source) (blankAfter : IsGap after) :
      Spells (.members [(some key, value)])
        (before ++ (quote (some key) ++ (between ++ ':' :: (ahead ++ (source ++ after)))))
  | nextMember {key : Text} {value : Json} {members : List (Option Text × Json)}
      {before between ahead source after body : Text} (blank : IsGap before)
      (blankBetween : IsGap between) (blankAhead : IsGap ahead)
      (spelled : Spells (.value value) source) (blankAfter : IsGap after)
      (others : Spells (.members members) body) :
      Spells (.members ((some key, value) :: members))
        (before ++ (quote (some key) ++
          (between ++ ':' :: (ahead ++ (source ++ (after ++ ',' :: body))))))

theorem skipSpace_gap {gap : Text} (blank : IsGap gap) {c : Char} (solid : isSpace c = false)
    (rest : Text) : skipSpace (gap ++ c :: rest) = c :: rest := by
  rw [skipSpace, List.dropWhile_append_of_pos blank, List.dropWhile_cons_of_neg (by simp [solid])]

theorem quote_append (key rest : Text) :
    quote (some key) ++ rest = '"' :: (key.flatMap escape ++ '"' :: rest) := by
  have written : quote (some key) = '"' :: (key.flatMap escape ++ ['"']) := rfl
  rw [written, List.cons_append, List.append_assoc, List.singleton_append]

/-- What the reader does with a phrase and what follows it, given a little more fuel than twice the
length. -/
def IsRead : Phrase → Text → Prop
  | .value value, source => ∀ gap rest fuel, IsGap gap → 2 * source.length ≤ fuel →
      readValue fuel (gap ++ (source ++ rest)) = some (value, rest)
  | .items items, body => ∀ rest fuel, 2 * body.length + 1 ≤ fuel →
      readItems fuel (body ++ ']' :: rest) = some (items, rest)
  | .members members, body => ∀ rest fuel, 2 * body.length + 1 ≤ fuel →
      readMembers fuel (body ++ '\x7d' :: rest) = some (members, rest)

/-! One step of the reader at each kind of token. -/

section Steps

attribute [local simp] readValue readItems readMembers

variable {source inner rest : Text} {fuel : Nat}

theorem readValue_text {content : Text} (found : skipSpace source = '"' :: inner)
    (read : readString inner = some (some content, rest)) :
    readValue (fuel + 1) source = some (.text content, rest) := by
  simp [found, read, Json.text]

theorem readValue_noItems (found : skipSpace source = '[' :: inner)
    (ends : skipSpace inner = ']' :: rest) :
    readValue (fuel + 1) source = some (.array [], rest) := by
  simp [found, ends]

theorem readValue_array {items : List Json} (found : skipSpace source = '[' :: inner)
    (goesOn : ∀ more, skipSpace inner ≠ ']' :: more)
    (read : readItems fuel inner = some (items, rest)) :
    readValue (fuel + 1) source = some (.array items, rest) := by
  simp [found, read]

theorem readValue_noMembers (found : skipSpace source = '\x7b' :: inner)
    (ends : skipSpace inner = '\x7d' :: rest) :
    readValue (fuel + 1) source = some (.object [], rest) := by
  simp [found, ends]

theorem readValue_object {members : List (Option Text × Json)}
    (found : skipSpace source = '\x7b' :: inner)
    (goesOn : ∀ more, skipSpace inner ≠ '\x7d' :: more)
    (read : readMembers fuel inner = some (members, rest)) :
    readValue (fuel + 1) source = some (.object members, rest) := by
  simp [found, read]

variable {item : Json} {items : List Json} {behind later : Text}

theorem readItems_last (read : readValue fuel source = some (item, behind))
    (ends : skipSpace behind = ']' :: rest) :
    readItems (fuel + 1) source = some ([item], rest) := by
  simp [read, ends]

theorem readItems_next (read : readValue fuel source = some (item, behind))
    (goesOn : skipSpace behind = ',' :: later)
    (others : readItems fuel later = some (items, rest)) :
    readItems (fuel + 1) source = some (item :: items, rest) := by
  simp [read, goesOn, others]

variable {key : Option Text} {value : Json} {members : List (Option Text × Json)}
  {afterKey ahead : Text}

theorem readMembers_last (found : skipSpace source = '"' :: inner)
    (named : readString inner = some (key, afterKey)) (colon : skipSpace afterKey = ':' :: ahead)
    (read : readValue fuel ahead = some (value, behind))
    (ends : skipSpace behind = '\x7d' :: rest) :
    readMembers (fuel + 1) source = some ([(key, value)], rest) := by
  simp [found, named, colon, read, ends]

theorem readMembers_next (found : skipSpace source = '"' :: inner)
    (named : readString inner = some (key, afterKey)) (colon : skipSpace afterKey = ':' :: ahead)
    (read : readValue fuel ahead = some (value, behind)) (goesOn : skipSpace behind = ',' :: later)
    (others : readMembers fuel later = some (members, rest)) :
    readMembers (fuel + 1) source = some ((key, value) :: members, rest) := by
  simp [found, named, colon, read, goesOn, others]

end Steps

/-- Nothing in brackets begins with the closing one. -/
theorem Spells.first {phrase : Phrase} {source : Text} (spelled : Spells phrase source) :
    match phrase with
    | .value _ => ∃ c rest, source = c :: rest ∧ c ∈ ['"', '[', '\x7b']
    | .items _ => ∃ gap c rest, IsGap gap ∧ source = gap ++ c :: rest ∧ c ∈ ['"', '[', '\x7b']
    | .members _ => ∃ gap rest, IsGap gap ∧ source = gap ++ '"' :: rest := by
  induction spelled with
  | text content => exact ⟨'"', content.flatMap escape ++ ['"'], rfl, by decide⟩
  | noItems | array => exact ⟨'[', _, rfl, by decide⟩
  | noMembers | object => exact ⟨'\x7b', _, rfl, by decide⟩
  | lastItem blank _ _ ih | nextItem blank _ _ _ ih _ =>
      obtain ⟨c, rest, rfl, opens⟩ := ih
      exact ⟨_, c, _, blank, rfl, opens⟩
  | lastMember blank | nextMember blank => exact ⟨_, _, blank, by rw [quote_append]⟩

theorem opener_solid : ∀ c ∈ ['"', '[', '\x7b'], isSpace c = false ∧ c ≠ ']' := by
  simp [isSpace]

/-- Every way to write a phrase is read. -/
theorem Spells.isRead {phrase : Phrase} {source : Text} (spelled : Spells phrase source) :
    IsRead phrase source := by
  induction spelled with
  | text content =>
      intro gap rest fuel blank enough
      have some : 0 < fuel := by
        have written : quote (some content) = '"' :: (content.flatMap escape ++ ['"']) := rfl
        rw [written, List.length_cons] at enough
        omega
      obtain ⟨fuel, rfl⟩ := Nat.exists_eq_add_one.mpr some
      rw [quote_append]
      exact readValue_text (skipSpace_gap blank (by decide) _) (readString_escape content rest)
  | @noItems inside blankInside =>
      intro gap rest fuel blank enough
      rw [List.length_cons] at enough
      obtain ⟨fuel, rfl⟩ : ∃ less, fuel = less + 1 := Nat.exists_eq_add_one.mpr (by omega)
      rw [List.cons_append, List.append_assoc, List.singleton_append]
      exact readValue_noItems (skipSpace_gap blank (by decide) _)
        (skipSpace_gap blankInside (by decide) rest)
  | @array items body spelled ih =>
      intro gap rest fuel blank enough
      rw [List.length_cons, List.length_append] at enough
      obtain ⟨fuel, rfl⟩ : ∃ less, fuel = less + 1 := Nat.exists_eq_add_one.mpr (by omega)
      rw [List.cons_append, List.append_assoc, List.singleton_append]
      refine readValue_array (skipSpace_gap blank (by decide) _) ?_ (ih rest fuel (by omega))
      intro more ends
      obtain ⟨before, c, behind, blankBefore, rfl, opens⟩ := spelled.first
      obtain ⟨solid, notEnd⟩ := opener_solid c opens
      rw [List.append_assoc, List.cons_append, skipSpace_gap blankBefore solid] at ends
      exact notEnd (List.cons.inj ends).1
  | @noMembers inside blankInside =>
      intro gap rest fuel blank enough
      rw [List.length_cons] at enough
      obtain ⟨fuel, rfl⟩ : ∃ less, fuel = less + 1 := Nat.exists_eq_add_one.mpr (by omega)
      rw [List.cons_append, List.append_assoc, List.singleton_append]
      exact readValue_noMembers (skipSpace_gap blank (by decide) _)
        (skipSpace_gap blankInside (by decide) rest)
  | @object members body spelled ih =>
      intro gap rest fuel blank enough
      rw [List.length_cons, List.length_append] at enough
      obtain ⟨fuel, rfl⟩ : ∃ less, fuel = less + 1 := Nat.exists_eq_add_one.mpr (by omega)
      rw [List.cons_append, List.append_assoc, List.singleton_append]
      refine readValue_object (skipSpace_gap blank (by decide) _) ?_ (ih rest fuel (by omega))
      intro more ends
      obtain ⟨before, behind, blankBefore, rfl⟩ := spelled.first
      rw [List.append_assoc, List.cons_append, skipSpace_gap blankBefore (by decide)] at ends
      cases ends
  | @lastItem item before source after blank _ blankAfter ih =>
      intro rest fuel enough
      rw [List.length_append, List.length_append] at enough
      obtain ⟨fuel, rfl⟩ : ∃ less, fuel = less + 1 := Nat.exists_eq_add_one.mpr (by omega)
      simp only [List.append_assoc]
      exact readItems_last (ih before _ fuel blank (by omega))
        (skipSpace_gap blankAfter (by decide) rest)
  | @nextItem item items before source after body blank _ blankAfter _ ih others =>
      intro rest fuel enough
      simp only [List.length_append, List.length_cons] at enough
      obtain ⟨fuel, rfl⟩ : ∃ less, fuel = less + 1 := Nat.exists_eq_add_one.mpr (by omega)
      simp only [List.append_assoc, List.cons_append]
      exact readItems_next (ih before _ fuel blank (by omega))
        (skipSpace_gap blankAfter (by decide) _) (others rest fuel (by omega))
  | @lastMember key value before between ahead source after blank blankBetween blankAhead _
      blankAfter ih =>
      intro rest fuel enough
      simp only [List.length_append, List.length_cons] at enough
      obtain ⟨fuel, rfl⟩ : ∃ less, fuel = less + 1 := Nat.exists_eq_add_one.mpr (by omega)
      simp only [List.append_assoc, List.cons_append, quote_append]
      exact readMembers_last (skipSpace_gap blank (by decide) _) (readString_escape key _)
        (skipSpace_gap blankBetween (by decide) _) (ih ahead _ fuel blankAhead (by omega))
        (skipSpace_gap blankAfter (by decide) rest)
  | @nextMember key value members before between ahead source after body blank blankBetween
      blankAhead _ blankAfter _ ih others =>
      intro rest fuel enough
      simp only [List.length_append, List.length_cons] at enough
      obtain ⟨fuel, rfl⟩ : ∃ less, fuel = less + 1 := Nat.exists_eq_add_one.mpr (by omega)
      simp only [List.append_assoc, List.cons_append, quote_append]
      exact readMembers_next (skipSpace_gap blank (by decide) _) (readString_escape key _)
        (skipSpace_gap blankBetween (by decide) _) (ih ahead _ fuel blankAhead (by omega))
        (skipSpace_gap blankAfter (by decide) _) (others rest fuel (by omega))

/-- A written value is read as that value, with white space around it, too. -/
theorem Spells.read? {value : Json} {before source after : Text}
    (spelled : Spells (.value value) source) (blank : IsGap before) (blankAfter : IsGap after) :
    read? (before ++ (source ++ after)) = some value := by
  have enough : 2 * source.length ≤ 2 * (before ++ (source ++ after)).length + 2 := by
    simp only [List.length_append]
    omega
  have nothing : skipSpace after = [] := List.dropWhile_eq_nil_iff.mpr blankAfter
  rw [Json.read?, spelled.isRead before after _ blank enough]
  simp only [Option.bind_eq_bind, Option.bind_some, nothing]
  rfl

end Migration.Json
