import Migration.Proofs.CoordinateForm
import Migration.Proofs.Opening

namespace Migration

/-! The spellings of the keyword form.

White space may stand around every colon and comma, either quote around every literal, and the
version may have a dollar sign, braces, quotes and properties, or none of them.  However a
declaration is spelled, it is found, and with other names and another token in it the spelling is
the same.
-/

open Text (isPlain)

namespace Declaration

/-! Spellings. -/

/-- A mark with white space around it. -/
abbrev Gap (mark : Char) :=
  { text : Text // IsGap mark text }

abbrev Quote :=
  { c : Char // isQuote c = true }

def Quote.around (quote : Quote) (literal : Text) : Text :=
  quote.val :: (literal ++ [quote.val])

/-- A word reached through properties. -/
structure Access where
  names : List Text
  token : Text
  identifiers : ∀ name ∈ names, isIdentifier name = true
  notEmpty : token ≠ []
  words : ∀ c ∈ token, Text.isWord c = true

/-- A mark that may be missing. -/
def markIf (present : Bool) (mark : Char) : Text :=
  if present then [mark] else []

/-- A version with an optional dollar sign, in braces or not, and in quotes or bare. -/
structure Version where
  quote : Option Quote
  dollar : Bool
  braced : Bool
  access : Access

namespace Version

def opening (version : Version) : Text :=
  version.quote.toList.map Subtype.val ++ markIf version.dollar '$' ++
    markIf version.braced '\x7b' ++ written version.access.names

def closing (version : Version) : Text :=
  markIf version.braced '\x7d' ++ version.quote.toList.map Subtype.val

/-- The version with a token in it. -/
def text (version : Version) (token : Text) : Text :=
  version.opening ++ token ++ version.closing

/-- A bare version without braces ends where the text behind it begins. -/
def EndsBefore (version : Version) (behind : Text) : Prop :=
  version.quote = none → version.braced = false → ∀ c, behind.head? = some c →
    Text.isBlank c = true ∨ c = '"' ∨ c = '\x27' ∨ c = '\x7d' ∨ c = ',' ∨ c = ')'

end Version

/-- How a declaration in keyword form is spelled. -/
structure Spelling where
  groupColon : Gap ':'
  groupQuote : Quote
  groupComma : Gap ','
  nameColon : Gap ':'
  nameQuote : Quote
  nameComma : Gap ','
  versionColon : Gap ':'
  version : Version

namespace Spelling

/-- The declaration of an artifact with a version token. -/
def text (spelling : Spelling) (group module token : Text) : Text :=
  "group".toList ++ spelling.groupColon.val ++ spelling.groupQuote.around group ++
    spelling.groupComma.val ++
    "name".toList ++ spelling.nameColon.val ++ spelling.nameQuote.around module ++
    spelling.nameComma.val ++
    "version".toList ++ spelling.versionColon.val ++ spelling.version.text token

/-- The parts of the declaration. -/
def parts (spelling : Spelling) (group module : Text) : List Part :=
  [.kept ("group".toList ++ spelling.groupColon.val ++ [spelling.groupQuote.val]),
    .slot .group group,
    .kept (spelling.groupQuote.val :: spelling.groupComma.val ++
      ("name".toList ++ spelling.nameColon.val) ++ [spelling.nameQuote.val]),
    .slot .module module,
    .kept (spelling.nameQuote.val :: spelling.nameComma.val ++
      ("version".toList ++ spelling.versionColon.val) ++ spelling.version.opening),
    .slot .version spelling.version.access.token, .kept spelling.version.closing]

theorem old_parts (spelling : Spelling) (group module : Text) :
    (spelling.parts group module).flatMap Part.old =
      spelling.text group module spelling.version.access.token := by
  unfold parts text
  simp only [Quote.around, Version.text, List.flatMap_cons, List.flatMap_nil, Part.old,
    List.append_assoc, List.cons_append, List.nil_append, List.append_nil]

theorem filled_parts (spelling : Spelling) (group module : Text) (fill : Slot → Text) :
    (spelling.parts group module).flatMap (Part.filled fill) =
      spelling.text (fill .group) (fill .module) (fill .version) := by
  unfold parts text
  simp only [Quote.around, Version.text, List.flatMap_cons, List.flatMap_nil, Part.filled,
    List.append_assoc, List.cons_append, List.nil_append, List.append_nil]

end Spelling

/-! Values. -/

/-- A token without dots that is reached through properties. -/
structure Reached (names : List Text) (token : Text) : Prop where
  identifiers : ∀ name ∈ names, isIdentifier name = true
  notEmpty : token ≠ []
  plain : ∀ c ∈ token, isPlain c = true
  noDot : '.' ∉ token

theorem Access.reached (access : Access) : Reached access.names access.token where
  identifiers := access.identifiers
  notEmpty := access.notEmpty
  plain c member := Text.isPlain_of_isWord (access.words c member)
  noDot member := Bool.false_ne_true (Text.dot_not_word.symm.trans (access.words '.' member))

namespace Reached

variable {names : List Text} {token : Text} (reached : Reached names token)

include reached

theorem run_ne_nil : written names ++ token ≠ [] :=
  List.append_ne_nil_of_right_ne_nil _ reached.notEmpty

theorem run_plain : ∀ c ∈ written names ++ token, isPlain c = true := by
  intro c member
  rcases List.mem_append.mp member with member | member
  · obtain ⟨name, isName, member⟩ := List.mem_flatMap.mp member
    rcases List.mem_append.mp member with member | dot
    · exact plain_of_identifier (reached.identifiers name isName) c member
    · rw [List.mem_singleton.mp dot]
      decide
  · exact reached.plain c member

theorem exists_cons : ∃ c rest, written names ++ token = c :: rest ∧ isPlain c = true := by
  obtain ⟨c, rest, split⟩ := List.exists_cons_of_ne_nil reached.run_ne_nil
  exact ⟨c, rest, split, reached.run_plain c (by rw [split]; exact List.mem_cons_self)⟩

theorem splitAccess_run : splitAccess (written names ++ token) = (written names, token) := by
  have none : propertiesIn token = [] := by
    rw [propertiesIn, Text.fields_of_not_mem reached.noDot]
    simp [splitProperties]
  have properties := propertiesIn_written reached.identifiers reached.notEmpty
  have whole := splitAccess_append (written names ++ token)
  rw [none, List.append_nil] at properties
  rw [splitAccess_fst, properties] at whole
  exact Prod.ext (congrArg written properties) (List.append_cancel_left whole)

theorem dropLeading_run {mark : Char} (isMark : isPlain mark = false) (present : Bool) :
    dropLeading mark (markIf present mark ++ (written names ++ token)) =
      (markIf present mark, written names ++ token) := by
  obtain ⟨c, rest, split, plain⟩ := reached.exists_cons
  have other : c ≠ mark := by
    rintro rfl
    rw [plain] at isMark
    cases isMark
  rw [split]
  cases present with
  | true => exact if_pos rfl
  | false =>
      cases rest with
      | nil => rfl
      | cons d rest => exact if_neg other

theorem ofRun_run {allowed : Char → Bool} (plain : ∀ c, isPlain c = true → allowed c = true)
    {mark : Char} (isMark : isPlain mark = false) (markAllowed : allowed mark = true)
    (present : Bool) {rest : Text} (ended : ∀ c, rest.head? = some c → allowed c = false) :
    Placeholder.ofRun allowed mark (markIf present mark ++ (written names ++ token) ++ rest) =
      some (⟨markIf present mark ++ written names, token, []⟩, rest) := by
  have members : ∀ c ∈ markIf present mark ++ (written names ++ token), allowed c = true := by
    intro c member
    rcases List.mem_append.mp member with member | member
    · cases present with
      | true => rwa [List.mem_singleton.mp member]
      | false => cases member
    · exact plain c (reached.run_plain c member)
  have notEmpty : markIf present mark ++ (written names ++ token) ≠ [] :=
    List.append_ne_nil_of_right_ne_nil _ reached.run_ne_nil
  obtain ⟨run, left⟩ := Text.run_ends members ended
  refine Placeholder.ofRun_eq_some.mpr ⟨by rwa [run], left, ?_⟩
  rw [run, reached.dropLeading_run isMark, Placeholder.ofAccess, reached.splitAccess_run]

variable (dollar : Bool) (rest : Text)

theorem braced_run :
    Placeholder.braced (markIf dollar '$' ++ '\x7b' :: (written names ++ token ++ '\x7d' :: rest)) =
      some (⟨markIf dollar '$' ++ '\x7b' :: written names, token, ['\x7d']⟩, rest) := by
  have members : ∀ c ∈ written names ++ token, isTokenChar c = true := fun c member =>
    isTokenChar_of_plain (reached.run_plain c member)
  obtain ⟨run, left⟩ := @Text.run_ends isTokenChar (written names ++ token) ('\x7d' :: rest) members
    (fun c starts => by cases starts; decide)
  have isDollar : Placeholder.IsDollar (markIf dollar '$') := by
    cases dollar with
    | true => exact .inr rfl
    | false => exact .inl rfl
  refine Placeholder.braced_eq_some.mpr ⟨markIf dollar '$', _, isDollar, rfl, ?_⟩
  refine Placeholder.inBraces_eq_some.mpr ⟨by rw [run]; exact reached.run_ne_nil, left, ?_⟩
  rw [run, Placeholder.ofAccess, reached.splitAccess_run]
  simp [Placeholder.closed]

theorem braced_plainRun :
    Placeholder.braced (markIf dollar '$' ++ (written names ++ token) ++ rest) = none := by
  obtain ⟨c, others, split, plain⟩ := reached.exists_cons
  have noMark (mark : Char) (isMark : isPlain mark = false) : c ≠ mark := by
    rintro rfl
    rw [plain] at isMark
    cases isMark
  refine Option.eq_none_iff_forall_ne_some.mpr ?_
  rintro ⟨found, left⟩ isBraced
  obtain ⟨_, inner, isDollar, same, _⟩ := Placeholder.braced_eq_some.mp isBraced
  have noDollar := noMark '$' isPlain_dollar
  have noBrace := noMark '\x7b' (by decide)
  rw [split] at same
  rcases isDollar with rfl | rfl <;> cases dollar <;> simp_all [markIf]

end Reached

namespace Version

section Values

variable (dollar : Bool) (access : Access)

theorem value_of_unquoted {text : Text} (unquoted : ∀ c, text.head? = some c → isQuote c = false) :
    Placeholder.value text =
      ((Placeholder.braced text).or (Placeholder.ofRun isBareTokenChar '$' text)).map (·.1) := by
  cases text with
  | nil => rfl
  | cons c inner => exact if_neg (Bool.not_eq_true _ |>.mpr (unquoted c rfl))

theorem unquoted_markIf (text : Text) (unquoted : ∀ c, text.head? = some c → isQuote c = false) :
    ∀ c, (markIf dollar '$' ++ text).head? = some c → isQuote c = false := by
  cases dollar with
  | true =>
      intro c starts
      cases starts
      decide
  | false => exact unquoted

variable {token : Text} (reached : Reached access.names token)

include reached

theorem value_quoted (quote : Quote) (braced : Bool) (behind : Text) :
    Placeholder.value (text ⟨some quote, dollar, braced, access⟩ token ++ behind) =
      some ⟨opening ⟨some quote, dollar, braced, access⟩, token,
        closing ⟨some quote, dollar, braced, access⟩⟩ := by
  have quoted : (quote.val = '"' || quote.val = '\x27') = true := quote.property
  have refused : isTokenChar quote.val = false := quote_refused quote.property
  cases braced with
  | true =>
      have inner := reached.braced_run dollar (quote.val :: behind)
      have whole : text ⟨some quote, dollar, true, access⟩ token ++ behind =
          quote.val :: (markIf dollar '$' ++
            '\x7b' :: (written access.names ++ token ++ '\x7d' :: quote.val :: behind)) := by
        simp [text, opening, closing, markIf]
      rw [whole, Placeholder.value, if_pos quoted, inner]
      simp [Placeholder.between, opening, closing, markIf]
  | false =>
      have noBraces := reached.braced_plainRun dollar (quote.val :: behind)
      have ended : ∀ c, (quote.val :: behind).head? = some c → isTokenChar c = false := by
        intro c starts
        cases starts
        exact refused
      have inner := reached.ofRun_run (fun _ => isTokenChar_of_plain) isPlain_dollar (by decide)
        dollar ended
      have whole : text ⟨some quote, dollar, false, access⟩ token ++ behind =
          quote.val :: (markIf dollar '$' ++ (written access.names ++ token) ++
            quote.val :: behind) := by
        simp [text, opening, closing, markIf]
      rw [whole, Placeholder.value, if_pos quoted, noBraces, inner]
      simp [Placeholder.between, opening, closing, markIf]

theorem value_braces (behind : Text) :
    Placeholder.value (text ⟨none, dollar, true, access⟩ token ++ behind) =
      some ⟨opening ⟨none, dollar, true, access⟩, token,
        closing ⟨none, dollar, true, access⟩⟩ := by
  have inner := reached.braced_run dollar behind
  have whole : text ⟨none, dollar, true, access⟩ token ++ behind =
      markIf dollar '$' ++ '\x7b' :: (written access.names ++ token ++ '\x7d' :: behind) := by
    simp [text, opening, closing, markIf]
  have unquoted := unquoted_markIf dollar
    ('\x7b' :: (written access.names ++ token ++ '\x7d' :: behind))
    (fun c starts => by cases starts; decide)
  rw [whole, value_of_unquoted unquoted, inner]
  simp [opening, closing, markIf]

theorem value_bare {behind : Text} (ends : EndsBefore ⟨none, dollar, false, access⟩ behind) :
    Placeholder.value (text ⟨none, dollar, false, access⟩ token ++ behind) =
      some ⟨opening ⟨none, dollar, false, access⟩, token,
        closing ⟨none, dollar, false, access⟩⟩ := by
  have noBraces := reached.braced_plainRun dollar behind
  have ended : ∀ c, behind.head? = some c → isBareTokenChar c = false := by
    intro c starts
    rcases ends rfl rfl c starts with blank | rfl | rfl | rfl | rfl | rfl
    · simp [isBareTokenChar, isTokenChar, blank]
    all_goals decide
  have inner := reached.ofRun_run (fun _ => isBareTokenChar_of_plain) isPlain_dollar (by decide)
    dollar ended
  have whole : text ⟨none, dollar, false, access⟩ token ++ behind =
      markIf dollar '$' ++ (written access.names ++ token ++ behind) := by
    simp [text, opening, closing, markIf]
  obtain ⟨first, others, split, plain⟩ := reached.exists_cons
  have unquoted := unquoted_markIf dollar (written access.names ++ token ++ behind)
    (fun c starts => by
      rw [split] at starts
      cases starts
      by_contra quoted
      rw [isPlain_of_quote (Bool.not_eq_false _ |>.mp quoted)] at plain
      cases plain)
  rw [whole, value_of_unquoted unquoted, ← List.append_assoc, noBraces, inner]
  simp [opening, closing, markIf]

end Values

/-- A version is read as it is spelled, with any token in it. -/
theorem value_text {version : Version} {token : Text} (reached : Reached version.access.names token)
    {behind : Text} (ends : version.EndsBefore behind) :
    Placeholder.value (version.text token ++ behind) =
      some ⟨version.opening, token, version.closing⟩ := by
  obtain ⟨quote, dollar, braced, access⟩ := version
  match quote, braced with
  | some quote, braced => exact value_quoted dollar access reached quote braced behind
  | none, true => exact value_braces dollar access reached behind
  | none, false => exact value_bare dollar access reached ends

end Version

/-! Declarations. -/

namespace Spelling

/-- A spelled declaration is found, with its parts. -/
theorem keywordAt_text (spelling : Spelling) (group module : Text) {behind : Text}
    (ends : spelling.version.EndsBefore behind) :
    keywordAt group module (spelling.text group module spelling.version.access.token ++ behind) =
      some (spelling.parts group module) := by
  obtain ⟨⟨groupColon, groupKeyed⟩, ⟨groupQuote, groupQuoted⟩, ⟨groupComma, first⟩,
    ⟨nameColon, nameKeyed⟩, ⟨nameQuote, nameQuoted⟩, ⟨nameComma, second⟩,
    ⟨versionColon, versionKeyed⟩, version⟩ := spelling
  have valued := Version.value_text version.access.reached ends
  have solid := startsSolid_of_value (Option.isSome_of_eq_some valued)
  have nameSolid (behind : Text) : StartsSolid ("name".toList ++ nameColon ++ behind) :=
    ⟨'n', "ame".toList ++ nameColon ++ behind, rfl, by decide⟩
  have versionSolid (behind : Text) : StartsSolid ("version".toList ++ versionColon ++ behind) :=
    ⟨'v', "ersion".toList ++ versionColon ++ behind, rfl, by decide⟩
  have whole : text ⟨⟨groupColon, groupKeyed⟩, ⟨groupQuote, groupQuoted⟩, ⟨groupComma, first⟩,
      ⟨nameColon, nameKeyed⟩, ⟨nameQuote, nameQuoted⟩, ⟨nameComma, second⟩,
      ⟨versionColon, versionKeyed⟩, version⟩ group module version.access.token ++ behind =
      "group".toList ++ groupColon ++ (groupQuote :: (group ++ groupQuote :: (groupComma ++
        ("name".toList ++ nameColon ++ (nameQuote :: (module ++ nameQuote :: (nameComma ++
          ("version".toList ++ versionColon ++
            (version.text version.access.token ++ behind))))))))) := by
    unfold text
    simp only [Quote.around, List.append_assoc, List.cons_append, List.nil_append]
  rw [whole, keywordAt]
  simp only [keyword_gap groupKeyed (startsSolid_of_quote groupQuoted _),
    quotedLiteral_eq_some.mpr ⟨groupQuoted, rfl⟩, separator_gap ',' (by decide) first (nameSolid _),
    keyword_gap nameKeyed (startsSolid_of_quote nameQuoted _), quotedLiteral_eq_some.mpr ⟨nameQuoted, rfl⟩,
    separator_gap ',' (by decide) second (versionSolid _), keyword_gap versionKeyed solid, valued,
    Option.bind_eq_bind, Option.bind_some, Option.pure_def]
  rfl

end Spelling

theorem starts_group {group module text : Text}
    (found : (keywordAt group module text).isSome = true) : "group".toList <+: text := by
  obtain ⟨shape, rest, form, valid, rfl, _⟩ := keywordAt_isSome.mp found
  cases valid with
  | coordinate => cases form
  | keyword =>
      rw [Shape.steps, textOf_cons, List.append_assoc, List.append_assoc, List.append_assoc]
      exact List.prefix_append _ _

/-- The keyword cannot begin in front of itself. -/
theorem no_group_before {before text : Text} (nothing : ¬ "group".toList <:+: before)
    (starts : "group".toList <+: text) {front rest : Text} {c : Char}
    (split : before = front ++ c :: rest) : ¬ "group".toList <+: c :: rest ++ text := by
  rintro ⟨behind, whole⟩
  obtain ⟨left, rfl⟩ := starts
  rcases List.append_eq_append_iff.mp whole with ⟨beyond, reached, _⟩ | ⟨beyond, reached, met⟩
  · exact nothing ⟨front, beyond, by rw [split, reached, List.append_assoc]⟩
  · cases beyond with
    | nil =>
        rw [List.append_nil] at reached
        exact nothing ⟨front, [], by rw [split, reached, List.append_nil]⟩
    | cons d beyond =>
        have letter : d = 'g' := (List.cons.inj met).1.symm
        have inside : d ∈ "roup".toList := by
          have tail : "roup".toList = rest ++ d :: beyond := (List.cons.inj reached).2
          rw [tail]
          simp
        rw [letter] at inside
        exact absurd inside (by decide)

theorem keywordParts_text (spelling : Spelling) (group module : Text) {before behind : Text}
    (ends : spelling.version.EndsBefore behind) (noGroup : ¬ "group".toList <:+: before)
    (noGroupBehind : ¬ "group".toList <:+: behind) :
    keywordParts group module
        (before ++ (spelling.text group module spelling.version.access.token ++ behind)) =
      keptParts before ++ (spelling.parts group module ++ keptParts behind) := by
  have found := spelling.keywordAt_text group module ends
  have starts := starts_group (Option.isSome_of_eq_some found)
  have left : partsFrom (keywordAt group module) 0 behind = keptParts behind := by
    refine partsFrom_kept fun front rest split => ?_
    rw [← Option.not_isSome_iff_eq_none]
    intro declared
    obtain ⟨more, rfl⟩ := starts_group declared
    exact noGroupBehind ⟨front, more, by rw [split, List.append_assoc]⟩
  rw [keywordParts, partsFrom_behind, partsFrom_found (keywordAt_finds group module) found,
    spelling.old_parts, List.drop_left, left]
  intro front c rest split
  rw [← Option.not_isSome_iff_eq_none]
  exact fun declared => no_group_before noGroup starts split (starts_group declared)

theorem coordinateParts_kept {group module line : Text}
    (nothing : ¬ group ++ ':' :: module ++ [':', '$'] <:+: line) :
    coordinateParts group module line = keptParts line := by
  refine partsFrom_kept fun before rest split => ?_
  rw [← Option.not_isSome_iff_eq_none]
  intro declared
  obtain ⟨c, behind, whole, _⟩ := occursBehind_iff.mpr ⟨rest, split, declared⟩
  exact nothing ⟨before, c :: behind, whole.symm⟩

end Declaration

namespace Rule

open Declaration

/-- However a declaration in keyword form is spelled, its names and its token are replaced. -/
theorem migrate_keyword_form (rule : Rule) (spelling : Spelling) {before behind : Text}
    (ends : spelling.version.EndsBefore behind) (noGroup : ¬ "group".toList <:+: before)
    (noGroupBehind : ¬ "group".toList <:+: behind)
    (noCoordinate : ¬ rule.source.group ++ ':' :: rule.source.module ++ [':', '$'] <:+:
      before ++ (spelling.text rule.source.group rule.source.module spelling.version.access.token ++
        behind)) :
    rule.migrate (before ++
        (spelling.text rule.source.group rule.source.module spelling.version.access.token ++
          behind)) =
      some (annotate rule.targetVersion (before ++
        (spelling.text rule.target.group rule.target.module rule.versionVariable ++ behind))) ∧
    ∀ file number, rule.replacementOn file number (before ++
        (spelling.text rule.source.group rule.source.module spelling.version.access.token ++
          behind)) =
      some ⟨file, number, spelling.version.access.token, rule.versionVariable,
        rule.targetVersion⟩ := by
  have keyword := keywordParts_text spelling rule.source.group rule.source.module ends noGroup
    noGroupBehind
  have cut : rule.parts? (before ++
      (spelling.text rule.source.group rule.source.module spelling.version.access.token ++
        behind)) = some (keptParts before ++
          (spelling.parts rule.source.group rule.source.module ++ keptParts behind)) := by
    refine parts?_eq_some_iff.mpr ⟨.keyword, keyword.symm, ?_, fun _ => ?_⟩
    · simp [Spelling.parts, Part.slot?]
    · have kept := coordinateParts_kept noCoordinate
      rw [coordinateParts] at kept
      rw [Form.partsOf, Form.declarationAt, kept, any_slot_keptParts]
  constructor
  · rw [migrate, cut, Option.map_some, List.flatMap_append, List.flatMap_append,
      flatMap_filled_keptParts, flatMap_filled_keptParts, spelling.filled_parts]
    rfl
  · intro file number
    rw [replacementOn, versionOn, cut, Option.bind_some, firstVersion?_keptParts_append]
    rfl

def spacedSpelling : Spelling where
  groupColon := ⟨" :".toList, ⟨[' '], [], by decide, by decide, rfl⟩⟩
  groupQuote := ⟨'\x27', rfl⟩
  groupComma := ⟨", ".toList, ⟨[], [' '], by decide, by decide, rfl⟩⟩
  nameColon := ⟨":".toList, ⟨[], [], by decide, by decide, rfl⟩⟩
  nameQuote := ⟨'"', rfl⟩
  nameComma := ⟨",\t".toList, ⟨[], ['\t'], by decide, by decide, rfl⟩⟩
  versionColon := ⟨": ".toList, ⟨[], [' '], by decide, by decide, rfl⟩⟩
  version := {
    quote := none
    dollar := true
    braced := false
    access := {
      names := ["libs".toList]
      token := "v".toList
      identifiers := by decide
      notEmpty := by decide
      words := List.all_eq_true.mp rfl } }

theorem spacedSpelling_migrated :
    libraryRule.migrate "api(group :'a', name:\"b\",\tversion: $libs.v)\n".toList =
        some "api(group :'x', name:\"y\",\tversion: $libs.yVersion) // Latest version: 1\n".toList ∧
      libraryRule.replacementOn "f".toList 1
        "api(group :'a', name:\"b\",\tversion: $libs.v)\n".toList =
          some ⟨"f".toList, 1, "v".toList, "yVersion".toList, "1".toList⟩ := by
  have ends : spacedSpelling.version.EndsBefore ")\n".toList := by
    intro _ _ c starts
    cases starts
    decide
  have form := @migrate_keyword_form libraryRule spacedSpelling "api(".toList ")\n".toList ends
    (by decide) (by decide) (by decide)
  exact ⟨form.1, form.2 _ _⟩

end Rule

end Migration
