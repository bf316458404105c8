import Migration.Artifact.Declaration
import Migration.Proofs.Lines

namespace Migration

/-! Declarations on a line.

What is found on a line does not depend on the white space at its end, so a line is cut in the same
way with its terminator and without it.  The parts put together are the line, and a declaration
ends in a placeholder without white space.
-/

namespace Text

/-- Nothing but white space. -/
def Blank (text : Text) : Prop :=
  ∀ c ∈ text, isBlank c = true

/-- No white space. -/
def Solid (text : Text) : Prop :=
  ∀ c ∈ text, isBlank c = false

instance (text : Text) : Decidable text.Blank :=
  List.decidableBAll _ text

instance (text : Text) : Decidable text.Solid :=
  List.decidableBAll _ text

theorem Solid.append {first second : Text} (firstSolid : first.Solid) (secondSolid : second.Solid) :
    Solid (first ++ second) := by
  intro c member
  rcases List.mem_append.mp member with member | member
  · exact firstSolid c member
  · exact secondSolid c member

theorem Solid.takeWhile {allowed : Char → Bool} (solid : ∀ c, allowed c = true → isBlank c = false)
    (text : Text) : Solid (text.takeWhile allowed) :=
  fun _ member => solid _ (List.all_eq_true.mp List.all_takeWhile _ member)

theorem blank_takeWhile (text : Text) : Blank (text.takeWhile isBlank) :=
  fun _ member => List.all_eq_true.mp List.all_takeWhile _ member

/-- A run that goes on as long as it can is what is taken from the front. -/
theorem run_ends {allowed : Char → Bool} {run rest : Text} (members : ∀ c ∈ run, allowed c = true)
    (ended : ∀ c, rest.head? = some c → allowed c = false) :
    (run ++ rest).takeWhile allowed = run ∧ (run ++ rest).dropWhile allowed = rest := by
  rw [List.takeWhile_append_of_pos members, List.dropWhile_append_of_pos members]
  cases rest with
  | nil => exact ⟨List.append_nil _, rfl⟩
  | cons c rest =>
      rw [List.takeWhile_cons, List.dropWhile_cons, ended c rfl]
      exact ⟨List.append_nil _, rfl⟩

/-- There is one such run. -/
theorem run_inj {allowed : Char → Bool} {run other rest behind : Text}
    (members : ∀ c ∈ run, allowed c = true) (otherMembers : ∀ c ∈ other, allowed c = true)
    (ended : ∀ c, rest.head? = some c → allowed c = false)
    (otherEnded : ∀ c, behind.head? = some c → allowed c = false)
    (same : run ++ rest = other ++ behind) : run = other ∧ rest = behind := by
  obtain ⟨taken, dropped⟩ := run_ends members ended
  obtain ⟨otherTaken, otherDropped⟩ := run_ends otherMembers otherEnded
  rw [same] at taken dropped
  exact ⟨taken.symm.trans otherTaken, dropped.symm.trans otherDropped⟩

theorem lineEnding_blank (line : Text) : (lineEnding line).Blank := by
  rcases lineEnding_cases line with ⟨_, ending⟩ | ⟨_, _, ending⟩ | ⟨_, _, _, ending⟩ <;>
    rw [ending] <;> decide

theorem isPrefixOf?_eq_some_iff {front text rest : Text} :
    front.isPrefixOf? text = some rest ↔ text = front ++ rest := by
  induction front generalizing text with
  | nil => exact Option.some_inj
  | cons c front ih =>
      cases text with
      | nil => exact ⟨fun found => (by cases found), fun nothing => (by cases nothing)⟩
      | cons d text =>
          change (if c == d then front.isPrefixOf? text else none) = some rest ↔ _
          by_cases same : c = d
          · simp [same, ih]
          · simp [same, Ne.symm same]

theorem isPrefixOf?_append_blank {front ending : Text} {last : Char}
    (solid : isBlank last = false) (blank : ending.Blank) (text : Text) :
    (front ++ [last]).isPrefixOf? (text ++ ending) =
      ((front ++ [last]).isPrefixOf? text).map (· ++ ending) := by
  apply Option.ext
  intro found
  rw [Option.map_eq_some_iff, isPrefixOf?_eq_some_iff]
  constructor
  · intro same
    rcases List.append_eq_append_iff.mp same with ⟨beyond, whole, rest⟩ | ⟨rest, whole, after⟩
    · -- the prefix reaches into the white space
      rcases List.eq_nil_or_concat beyond with none | ⟨before, c, rfl⟩
      · subst none
        refine ⟨[], isPrefixOf?_eq_some_iff.mpr (by simpa using whole.symm), ?_⟩
        simpa using rest
      · have reached : c = last := by
          have ends := congrArg List.getLast? whole
          simpa using ends.symm
        have inside : isBlank c = true := blank c (by simp [rest])
        rw [reached, solid] at inside
        cases inside
    · exact ⟨rest, isPrefixOf?_eq_some_iff.mpr whole, after.symm⟩
  · rintro ⟨rest, found, rfl⟩
    rw [isPrefixOf?_eq_some_iff.mp found, List.append_assoc]

theorem dropWhile_of_blank {text : Text} (blank : text.Blank) : text.dropWhile isBlank = [] := by
  have dropped := @List.dropWhile_append_of_pos Char isBlank text [] blank
  simpa using dropped

/-- White space at the end joins white space at the start only if there is nothing in between. -/
theorem blankRun_append {ending : Text} (blank : ending.Blank) (text : Text) :
    (text.dropWhile isBlank = [] ∧ (text ++ ending).dropWhile isBlank = []) ∨
    (text.dropWhile isBlank ≠ [] ∧
      (text ++ ending).takeWhile isBlank = text.takeWhile isBlank ∧
      (text ++ ending).dropWhile isBlank = text.dropWhile isBlank ++ ending) := by
  induction text with
  | nil => exact .inl ⟨rfl, dropWhile_of_blank blank⟩
  | cons c rest ih =>
      cases first : isBlank c with
      | false => exact .inr (by simp [first])
      | true => simpa [first] using ih

theorem takeWhile_append_blank {allowed : Char → Bool} {ending : Text}
    (solid : ∀ c, allowed c = true → isBlank c = false)
    (blank : ending.Blank) (text : Text) :
    (text ++ ending).takeWhile allowed = text.takeWhile allowed ∧
      (text ++ ending).dropWhile allowed = text.dropWhile allowed ++ ending := by
  induction text with
  | nil =>
      cases ending with
      | nil => exact ⟨rfl, rfl⟩
      | cons c rest =>
          have refused : allowed c = false := by
            by_contra accepted
            have inside := blank c List.mem_cons_self
            rw [solid c (Bool.not_eq_false _ |>.mp accepted)] at inside
            cases inside
          simp [refused]
  | cons c rest ih =>
      by_cases accepted : allowed c = true
      · simp [accepted, ih]
      · simp [accepted]

end Text

namespace Declaration

theorem isTokenChar_solid (c : Char) (token : isTokenChar c = true) : Text.isBlank c = false := by
  simp only [isTokenChar, Bool.not_eq_true', Bool.or_eq_false_iff] at token
  exact token.2

theorem isBareTokenChar_solid (c : Char) (token : isBareTokenChar c = true) :
    Text.isBlank c = false := by
  rw [isBareTokenChar, Bool.and_eq_true] at token
  exact isTokenChar_solid c token.1

def Placeholder.inBraces (dollar inner : Text) : Option (Placeholder × Text) :=
  match inner.takeWhile isTokenChar, inner.dropWhile isTokenChar with
  | [], _ => none
  | run, '\x7d' :: rest =>
      let access := splitAccess run
      some (⟨dollar ++ '\x7b' :: access.1, access.2, ['\x7d']⟩, rest)
  | _, _ => none

def Placeholder.behind (dollar : Text) : Text → Option (Placeholder × Text)
  | '\x7b' :: inner => inBraces dollar inner
  | _ => none

theorem braced_plain {text : Text} (plain : ∀ rest, text ≠ '$' :: rest) :
    Placeholder.braced text = Placeholder.behind [] text := by
  cases text with
  | nil => rfl
  | cons c rest =>
      have other : c ≠ '$' := fun dollar => plain rest (by rw [dollar])
      rw [Placeholder.braced]
      · rfl
      · exact plain

theorem quote_solid {quote : Char} (quoted : (quote = '"' || quote = '\x27') = true) :
    Text.isBlank quote = false := by
  rcases (Bool.or_eq_true _ _).mp quoted with same | same <;>
    rw [of_decide_eq_true same] <;> rfl

section WhiteSpace

variable {ending : Text} (blank : ending.Blank)

include blank

theorem head_ne_of_blank {c : Char} {rest : Text} {mark : Char} (solid : Text.isBlank mark = false)
    (same : ending = c :: rest) : c ≠ mark := by
  rintro rfl
  have inside := blank c (by simp [same])
  rw [solid] at inside
  cases inside

theorem ofRun_append {allowed : Char → Bool}
    (solid : ∀ c, allowed c = true → Text.isBlank c = false) (mark : Char) (text : Text) :
    Placeholder.ofRun allowed mark (text ++ ending) =
      (Placeholder.ofRun allowed mark text).map fun found => (found.1, found.2 ++ ending) := by
  obtain ⟨run, rest⟩ := Text.takeWhile_append_blank solid blank text
  rw [Placeholder.ofRun, Placeholder.ofRun, run, rest]
  split <;> rfl

theorem inBraces_append (dollar inner : Text) :
    Placeholder.inBraces dollar (inner ++ ending) =
      (Placeholder.inBraces dollar inner).map fun found => (found.1, found.2 ++ ending) := by
  obtain ⟨run, rest⟩ := Text.takeWhile_append_blank isTokenChar_solid blank inner
  rw [Placeholder.inBraces, Placeholder.inBraces, run, rest]
  cases inner.takeWhile isTokenChar with
  | nil => rfl
  | cons first run =>
      cases inner.dropWhile isTokenChar with
      | nil =>
          cases ending with
          | nil => rfl
          | cons c rest =>
              have other : c ≠ '\x7d' := head_ne_of_blank blank rfl rfl
              simp [other]
      | cons c rest =>
          by_cases brace : c = '\x7d'
          · subst brace
            rfl
          · simp [brace]

theorem behind_append (dollar text : Text) :
    Placeholder.behind dollar (text ++ ending) =
      (Placeholder.behind dollar text).map fun found => (found.1, found.2 ++ ending) := by
  cases text with
  | nil =>
      cases ending with
      | nil => rfl
      | cons c rest =>
          have other : c ≠ '\x7b' := head_ne_of_blank blank rfl rfl
          simp [Placeholder.behind, other]
  | cons c inner =>
      by_cases brace : c = '\x7b'
      · subst brace
        exact inBraces_append blank dollar inner
      · simp [Placeholder.behind, brace]

theorem braced_append (text : Text) :
    Placeholder.braced (text ++ ending) =
      (Placeholder.braced text).map fun found => (found.1, found.2 ++ ending) := by
  by_cases dollar : ∃ rest, text = '$' :: rest
  · obtain ⟨rest, rfl⟩ := dollar
    exact behind_append blank ['$'] rest
  · rw [not_exists] at dollar
    have plain : ∀ rest, text ++ ending ≠ '$' :: rest := by
      intro rest same
      cases text with
      | nil => exact head_ne_of_blank blank rfl same rfl
      | cons c text =>
          rw [List.cons_append, List.cons.injEq] at same
          exact dollar text (by rw [same.1])
    rw [braced_plain dollar, braced_plain plain]
    exact behind_append blank [] text

theorem between_append {quote : Char} (solid : Text.isBlank quote = false)
    (inner : Option (Placeholder × Text)) :
    Placeholder.between quote (inner.map fun found => (found.1, found.2 ++ ending)) =
      Placeholder.between quote inner := by
  match inner with
  | none => rfl
  | some (found, c :: rest) => rfl
  | some (found, []) =>
      cases ending with
      | nil => rfl
      | cons c rest =>
          have other : c ≠ quote := head_ne_of_blank blank solid rfl
          simp [Placeholder.between, other]

theorem value_append (text : Text) :
    Placeholder.value (text ++ ending) = Placeholder.value text := by
  cases text with
  | nil =>
      cases ending with
      | nil => rfl
      | cons c rest =>
          have noDouble : c ≠ '"' := head_ne_of_blank blank rfl rfl
          have noSingle : c ≠ '\x27' := head_ne_of_blank blank rfl rfl
          have noBraces : Placeholder.braced (c :: rest) = none := braced_append blank []
          have noRun : Placeholder.ofRun isBareTokenChar '$' (c :: rest) = none :=
            ofRun_append blank isBareTokenChar_solid '$' []
          simp [Placeholder.value, noDouble, noSingle, noBraces, noRun]
  | cons c inner =>
      rw [List.cons_append, Placeholder.value, Placeholder.value, ← List.cons_append]
      split
      · next quoted =>
          rw [braced_append blank, ofRun_append blank isTokenChar_solid,
            between_append blank (quote_solid quoted), between_append blank (quote_solid quoted)]
      · rw [braced_append blank, ofRun_append blank isBareTokenChar_solid]
        cases Placeholder.braced (c :: inner) with
        | none =>
            cases Placeholder.ofRun isBareTokenChar '$' (c :: inner) <;> rfl
        | some found => rfl

theorem coordinateAt_append (group module text : Text) :
    coordinateAt group module (text ++ ending) = coordinateAt group module text := by
  have front : group ++ ':' :: module ++ [':', '$'] =
      (group ++ ':' :: module ++ [':']) ++ ['$'] := by
    simp
  rw [coordinateAt, coordinateAt]
  dsimp only
  rw [front, Text.isPrefixOf?_append_blank rfl blank]
  cases (group ++ ':' :: module ++ [':'] ++ ['$']).isPrefixOf? text with
  | none => rfl
  | some rest =>
      simp only [Option.map_some, Option.bind_eq_bind, Option.bind_some,
        ofRun_append blank isTokenChar_solid]
      cases Placeholder.ofRun isTokenChar '\x7b' rest with
      | none => rfl
      | some found =>
          obtain ⟨found, rest⟩ := found
          cases rest with
          | cons c rest =>
              by_cases brace : c = '\x7d'
              · subst brace
                rfl
              · simp [brace]
          | nil =>
              cases ending with
              | nil => rfl
              | cons c rest =>
                  have other : c ≠ '\x7d' := head_ne_of_blank blank rfl rfl
                  simp [other]

section Chains

variable {α : Type} {next : Text × Text → Option α}

/-- A separator takes white space behind it, but then nothing is left for what must follow it. -/
theorem separator_bind (same : ∀ before rest, next (before, rest ++ ending) = next (before, rest))
    (nothing : ∀ before, next (before, []) = none) (mark : Char) (text : Text) :
    (separator mark (text ++ ending)).bind next = (separator mark text).bind next := by
  rcases Text.blankRun_append blank text with ⟨allBlank, allDropped⟩ | ⟨more, front, rest⟩
  · rw [separator, separator, allBlank, allDropped]
  · rw [separator, separator, front, rest]
    cases dropped : text.dropWhile Text.isBlank with
    | nil => exact absurd dropped more
    | cons c rest =>
        rw [List.cons_append]
        dsimp only
        split
        · rcases Text.blankRun_append blank rest with ⟨nothingLeft, noneLeft⟩ | ⟨_, behind, left⟩
          · rw [nothingLeft, noneLeft, Option.bind_some, Option.bind_some, nothing, nothing]
          · rw [behind, left, Option.bind_some, Option.bind_some, same]
        · rfl

theorem keyword_bind (same : ∀ before rest, next (before, rest ++ ending) = next (before, rest))
    (nothing : ∀ before, next (before, []) = none) {front : Text} {last : Char}
    (solid : Text.isBlank last = false) (text : Text) :
    (keyword (front ++ [last]) (text ++ ending)).bind next =
      (keyword (front ++ [last]) text).bind next := by
  rw [keyword, keyword, Text.isPrefixOf?_append_blank solid blank]
  cases (front ++ [last]).isPrefixOf? text with
  | none => rfl
  | some rest =>
      have joined := @separator_bind _ blank _
        (fun found => next (front ++ [last] ++ found.1, found.2))
        (fun before rest => same _ rest) (fun before => nothing _) ':' rest
      simpa only [Option.map_some, Option.bind_eq_bind, Option.bind_some, Option.bind_assoc,
        Option.pure_def] using joined

theorem quotedLiteral_bind {next : Char × Text → Option α}
    (same : ∀ quote rest, next (quote, rest ++ ending) = next (quote, rest)) (literal text : Text) :
    (quotedLiteral literal (text ++ ending)).bind next =
      (quotedLiteral literal text).bind next := by
  cases text with
  | nil =>
      cases ending with
      | nil => rfl
      | cons c rest =>
          have noDouble : c ≠ '"' := head_ne_of_blank blank rfl rfl
          have noSingle : c ≠ '\x27' := head_ne_of_blank blank rfl rfl
          simp [quotedLiteral, noDouble, noSingle]
  | cons quote rest =>
      rw [List.cons_append, quotedLiteral, quotedLiteral]
      split
      · next quoted =>
          rw [Text.isPrefixOf?_append_blank (quote_solid quoted) blank]
          cases (literal ++ [quote]).isPrefixOf? rest with
          | none => rfl
          | some rest => exact same quote rest
      · rfl

end Chains

theorem keywordAt_append (group module text : Text) :
    keywordAt group module (text ++ ending) = keywordAt group module text := by
  unfold keywordAt
  have groupWord : "group".toList = "grou".toList ++ ['p'] := by decide
  have nameWord : "name".toList = "nam".toList ++ ['e'] := by decide
  have versionWord : "version".toList = "versio".toList ++ ['n'] := by decide
  simp only [Option.bind_eq_bind]
  rw [groupWord, nameWord, versionWord]
  refine keyword_bind blank ?_ ?_ rfl text
  · intro groupKey rest
    refine quotedLiteral_bind blank ?_ group rest
    intro groupQuote rest
    refine separator_bind blank ?_ ?_ ',' rest
    · intro firstComma rest
      refine keyword_bind blank ?_ ?_ rfl rest
      · intro nameKey rest
        refine quotedLiteral_bind blank ?_ module rest
        intro moduleQuote rest
        refine separator_bind blank ?_ ?_ ',' rest
        · intro secondComma rest
          refine keyword_bind blank ?_ ?_ rfl rest
          · intro versionKey rest
            rw [value_append blank]
          · intro versionKey
            rfl
        · intro secondComma
          rfl
      · intro nameKey
        rfl
    · intro firstComma
      rfl
  · intro groupKey
    rfl

end WhiteSpace

end Declaration

end Migration
