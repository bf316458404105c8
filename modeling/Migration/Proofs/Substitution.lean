import Migration.Proofs.Edits

namespace Migration

/-! A build line is migrated by filling spans.

The spans of the first form that is declared on the line are filled, slot by slot, and everything
between them is kept.  Each declaration has the slots of its form and one version token.
-/

open Pattern
open Text (byteLength)

theorem Pattern.Span.bounds {span : Span} {text found : Text}
    (slice : span.slice? text = some found) :
    span.start ≤ span.stop ∧ span.stop ≤ byteLength text := by
  obtain ⟨front, behind, rfl, start, stop⟩ := Span.slice?_eq_some.mp slice
  rw [← start, ← stop]
  simp only [Text.byteLength_append]
  omega

namespace Declaration

/-! The slots of a form. -/

structure IsVersionToken (token : Text) : Prop where
  notEmpty : token ≠ []
  allowed : ∀ c ∈ token, c ≠ '"' ∧ c ≠ '\x27' ∧ c ≠ '\x7d' ∧ Text.isBlank c = false

theorem isVersionToken_of_chars {token : Text} (notEmpty : token ≠ [])
    (chars : ∀ c ∈ token, isTokenChar c = true) : IsVersionToken token where
  notEmpty := notEmpty
  allowed c member := by simpa [isTokenChar, and_assoc] using chars c member

namespace Form

/-- The slots of one declaration. -/
def slots (form : Form) (group module token : Text) : List (Slot × Text) :=
  match form with
  | coordinate => [(.coordinate, group ++ ':' :: module), (.version, token)]
  | keyword => [(.group, group), (.module, module), (.version, token)]

theorem slots_declarationAt {form : Form} {group module whole : Text} {parts : List Part}
    (found : form.declarationAt group module whole = some parts) :
    ∃ token, IsVersionToken token ∧ parts.filterMap Part.slot? = form.slots group module token := by
  cases form with
  | coordinate =>
      obtain ⟨_, placeholder, _, _, run, rfl⟩ := coordinateAt_eq_some_iff.mp found
      obtain ⟨_, _, reads⟩ := Placeholder.ofRun_reads (fun _ => id) Placeholder.token_refused
        (by decide) run
      exact ⟨placeholder.token, isVersionToken_of_chars reads.tokenSome reads.token, rfl⟩
  | keyword =>
      cases keywordAt_form found with
      | @found _ _ _ _ _ _ _ _ version _ valued =>
          obtain ⟨_, _, _, _, reads⟩ := Placeholder.value_reads valued
          exact ⟨version.token, isVersionToken_of_chars reads.tokenSome reads.token, rfl⟩

theorem slots_partsOf (form : Form) (group module line : Text) :
    ∃ tokens : List Text, (∀ token ∈ tokens, IsVersionToken token) ∧
      (form.partsOf group module line).filterMap Part.slot? =
        tokens.flatMap (form.slots group module) := by
  rw [partsOf]
  generalize isFound : form.declarationAt group module = declarationAt
  generalize 0 = skip
  fun_induction partsFrom declarationAt skip line with
  | case1 => exact ⟨[], by simp, rfl⟩
  | case2 skip c rest ih => exact ih
  | case3 c rest parts found ih =>
      obtain ⟨tokens, areTokens, slots⟩ := ih
      obtain ⟨token, isToken, first⟩ := slots_declarationAt (isFound ▸ found)
      exact ⟨token :: tokens, List.forall_mem_cons.mpr ⟨isToken, areTokens⟩, by
        rw [List.filterMap_append, first, slots, List.flatMap_cons]⟩
  | case4 c rest found ih => exact ih

/-- A line is declared in a form if something is captured in it. -/
theorem editsOn_eq_nil {form : Form} {group module line : Text} :
    form.editsOn group module line = [] ↔
      (form.partsOf group module line).any (·.slot?.isSome) = false := by
  rw [← @slotSpans_eq_nil 0, ← flatten_editsOn]
  constructor
  · intro nothing
    rw [nothing]
    rfl
  · intro nothing
    refine List.eq_nil_iff_forall_not_mem.mpr fun edits member => ?_
    have none := List.flatten_eq_nil_iff.mp nothing edits member
    obtain ⟨captured, _, some⟩ := List.mem_filterMap.mp member
    rw [none] at some
    cases form <;> simp [edits?, Option.bind_eq_some_iff] at some

end Form

/-- The parts of a line are those of the first form that is declared on it. -/
theorem parts?_eq_partsOf {group module line : Text} {parts : List Part}
    (found : parts? group module line = some parts) :
    ∃ form : Form, parts = form.partsOf group module line ∧
      form.editsOn group module line ≠ [] ∧
      (form = .keyword → Form.coordinate.editsOn group module line = []) := by
  obtain ⟨form, rfl, applies, first⟩ := parts?_eq_some_iff.mp found
  refine ⟨form, rfl, fun nothing => ?_, fun keyword => Form.editsOn_eq_nil.mpr (first keyword)⟩
  exact Bool.false_ne_true ((Form.editsOn_eq_nil.mp nothing).symm.trans applies)

end Declaration

theorem Text.lineEnding_lineEnding (line : Text) :
    lineEnding (lineEnding line) = lineEnding line := by
  rcases lineEnding_cases line with ⟨_, ending⟩ | ⟨_, _, ending⟩ | ⟨_, _, _, ending⟩ <;>
    rw [ending] <;> rfl

namespace Rule

open Declaration (Exchange Form IsVersionToken exchange? exchangesFrom)

/-- The spans that a rule fills on a line, declaration by declaration. -/
def editsOn (rule : Rule) (form : Form) (line : Text) : List (List (Slot × Span)) :=
  form.editsOn rule.source.group rule.source.module line

/-- The texts that are exchanged in one declaration. -/
def texts (rule : Rule) (form : Form) (token : Text) : List (Text × Text) :=
  match form with
  | .coordinate =>
      [(rule.source.group ++ ':' :: rule.source.module, rule.artifact),
        (token, rule.versionVariable)]
  | .keyword =>
      [(rule.source.group, rule.target.group), (rule.source.module, rule.target.module),
        (token, rule.versionVariable)]

/-- How a line becomes a migrated one: by exchanging the text of spans, and by a remark. -/
structure Exchanged (rule : Rule) (line out : Text) (form : Form) (lead : Text)
    (exchanges : List Exchange) (tokens : List Text) : Prop where
  /-- The keyword form is used only if nothing is declared in the other one. -/
  first : form = .keyword → rule.editsOn .coordinate line = []
  spans : (rule.editsOn form line).flatten.map Prod.snd = exchanges.map Exchange.span
  slices : ∀ exchange ∈ exchanges, exchange.span.start ≤ exchange.span.stop ∧
    exchange.span.stop ≤ byteLength line ∧ exchange.span.slice? line = some exchange.old
  ascending : exchanges.Pairwise fun earlier later => earlier.span.stop ≤ later.span.start
  several : 2 ≤ exchanges.length
  whole : line = lead ++ exchanges.flatMap Exchange.oldText
  filled : exchange? rule.fill line 0 (rule.editsOn form line).flatten =
    some (lead ++ exchanges.flatMap Exchange.newText)
  texts : (exchanges.map fun exchange => (exchange.old, exchange.new)) =
    tokens.flatMap (rule.texts form)
  tokens : ∀ token ∈ tokens, IsVersionToken token
  remark : out = Text.lineBody (lead ++ exchanges.flatMap Exchange.newText) ++
    " // Latest version: ".toList ++ rule.targetVersion ++
      Text.lineEnding (lead ++ exchanges.flatMap Exchange.newText)
  ending : Text.lineEnding out = Text.lineEnding line

theorem map_slots (rule : Rule) (form : Form) (tokens : List Text) :
    ((tokens.flatMap (form.slots rule.source.group rule.source.module)).map fun slot =>
      (slot.2, rule.fill slot.1)) = tokens.flatMap (rule.texts form) := by
  rw [List.map_flatMap]
  cases form <;> rfl

theorem lineEnding_annotate {rule : Rule} (versionEnds : Remark.EndsSolid rule.targetVersion)
    (variableEnds : Remark.EndsSolid rule.versionVariable) {line : Text} {parts : List Part}
    (found : rule.parts? line = some parts) :
    Text.lineEnding (annotate rule.targetVersion (parts.flatMap (Part.filled rule.fill))) =
      Text.lineEnding line := by
  obtain ⟨whole, lead, placeholder, rest, ends⟩ := Declaration.parts?_eq_some found
  have filledEnds : Remark.EndsSolid (rule.fill .version) := variableEnds
  obtain ⟨front, oldEnds, old⟩ := Remark.exists_old ends
  obtain ⟨text, newEnds, filled⟩ := Remark.exists_filled ends filledEnds
  obtain ⟨start, last, version, solid⟩ := versionEnds
  have remarkEnds (body : Text) :
      Remark.EndsSolid (body ++ " // Latest version: ".toList ++ rule.targetVersion) :=
    ⟨body ++ " // Latest version: ".toList ++ start, last, by rw [version]; simp, solid⟩
  rw [annotate, ((remarkEnds _).lineBody_append _).2, Text.lineEnding_lineEnding, filled,
    (newEnds.lineBody_append rest).2, ← whole, old, (oldEnds.lineBody_append rest).2]

/-- Migrating a line fills the spans that are captured on it, in order and without overlap, and
keeps everything else. -/
theorem migrate_exchanges {old new : Text} {rule : Rule} (made : ofRow old new = .ok rule)
    {line out : Text} (migrated : rule.migrate line = some out) :
    ∃ form lead exchanges tokens, rule.Exchanged line out form lead exchanges tokens := by
  obtain ⟨parts, found, rfl⟩ := Option.map_eq_some_iff.mp migrated
  have whole := (Declaration.parts?_eq_some found).1
  have ending := lineEnding_annotate (ofRow_version_ends made) (ofRow_isRow made).variableEnds found
  obtain ⟨form, partsAre, some, first⟩ := Declaration.parts?_eq_partsOf found
  obtain ⟨tokens, areTokens, slots⟩ :=
    form.slots_partsOf rule.source.group rule.source.module line
  rw [← partsAre] at slots
  have spans : (rule.editsOn form line).flatten = Declaration.slotSpans 0 parts := by
    rw [editsOn, form.flatten_editsOn, partsAre]
  have texts := Declaration.exchangesFrom_texts rule.fill 0 parts
  rw [slots, map_slots] at texts
  have lineIs := Declaration.exchangesFrom_old rule.fill 0 parts
  have filled := Declaration.exchangesFrom_new rule.fill 0 parts
  refine ⟨form, (exchangesFrom rule.fill 0 parts).1, (exchangesFrom rule.fill 0 parts).2, tokens,
    first, ?_, ?_, ?_, ?_, ?_, ?_, texts, areTokens, ?_, ending⟩
  · rw [spans, Declaration.exchangesFrom_span]
  · intro exchange member
    have slice := (Declaration.exchangesFrom_slices rule.fill [] whole.symm exchange member).1
    exact ⟨(Span.bounds slice).1, (Span.bounds slice).2, slice⟩
  · exact Declaration.exchangesFrom_pairwise rule.fill [] whole.symm
  · have notEmpty : tokens ≠ [] := by
      rintro rfl
      refine some (Declaration.Form.editsOn_eq_nil.mpr ?_)
      rw [← partsAre, ← @Declaration.slotSpans_eq_nil 0, ← List.map_eq_nil_iff (f := Prod.snd),
        ← Declaration.exchangesFrom_span rule.fill, List.map_eq_nil_iff]
      exact List.map_eq_nil_iff.mp texts
    obtain ⟨token, others, rfl⟩ := List.exists_cons_of_ne_nil notEmpty
    have lengths := congrArg List.length texts
    rw [List.length_map, List.flatMap_cons, List.length_append] at lengths
    cases form <;> simp only [Rule.texts, List.length_cons, List.length_nil] at lengths <;> omega
  · rw [lineIs, whole]
  · rw [spans, filled]
    exact Declaration.exchange?_slotSpans rule.fill [] [] whole.symm
  · rw [filled]
    rfl

def libraryRule : Rule where
  source := ⟨"a".toList, "b".toList, none⟩
  target := ⟨"x".toList, "y".toList, some "1".toList⟩
  artifact := "x:y".toList
  targetVersion := "1".toList
  versionVariable := "yVersion".toList

set_option maxRecDepth 4000 in
theorem libraryRule_made : ofRow "a:b".toList "x:y:1".toList = .ok libraryRule := rfl

/-- The spans begin behind a character of two bytes. -/
def quotedLine : Text := "é group: 'a', name: \"b\", version: \"$\x7blibs.v\x7d\"\r\n".toList

theorem quotedLine_exchanges :
    ∃ form lead exchanges tokens, libraryRule.Exchanged quotedLine
      "é group: 'x', name: \"y\", version: \"$\x7blibs.yVersion\x7d\" // Latest version: 1\r\n".toList
      form lead exchanges tokens :=
  migrate_exchanges libraryRule_made (by decide)

end Rule

end Migration
