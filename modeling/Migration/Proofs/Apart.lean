import Migration.Proofs.Placed

namespace Migration.Declaration

/-! Declarations do not run into each other.

A filled declaration holds no other declaration than its own, and no other declaration runs into
it, except that a placeholder may begin where it begins.  What follows a word decides: a colon and a
name, a colon and a dollar sign, a colon and a quote, or a quote.
-/

open Text (IsPlain Marks isPlain EndsPlain StartsPlain)

/-- The first character that is not white space behind the colon that a text begins with. -/
def behindColon (text : Text) : Option Char :=
  (separator ':' text).bind fun found => found.2.head?

theorem behindColon_gap {gap : Text} (isGap : IsGap ':' gap) {c : Char}
    (solid : Text.isBlank c = false) (rest : Text) : behindColon (gap ++ c :: rest) = some c := by
  rw [behindColon, separator_gap ':' (by decide) isGap ⟨c, rest, rfl, solid⟩]
  rfl

theorem isGap_colon : IsGap ':' [':'] :=
  ⟨[], [], by simp [Text.Blank], by simp [Text.Blank], rfl⟩

theorem behindColon_name {word : Text} (plain : IsPlain word) (rest : Text) :
    ∃ c, isPlain c = true ∧ behindColon (':' :: (word ++ rest)) = some c := by
  obtain ⟨c, others, rfl, first⟩ := plain.exists_cons
  exact ⟨c, first, behindColon_gap isGap_colon (Text.isBlank_of_plain first) _⟩

theorem behindColon_dollar (rest : Text) : behindColon (':' :: '$' :: rest) = some '$' :=
  behindColon_gap isGap_colon (by decide) rest

theorem behindColon_quote {gap : Text} (isGap : IsGap ':' gap) {quote : Char}
    (quoted : isQuote quote = true) (rest : Text) :
    behindColon (gap ++ [quote] ++ rest) = some quote := by
  rw [List.append_assoc]
  exact behindColon_gap isGap (quote_solid (by simpa [isQuote] using quoted)) rest

theorem behindColon_none {quote : Char} (quoted : isQuote quote = true) (rest : Text) :
    behindColon (quote :: rest) = none := by
  have solid := quote_solid (by simpa [isQuote] using quoted)
  have noColon : quote ≠ ':' := by
    rintro rfl
    exact absurd quoted (by decide)
  simp [behindColon, separator, solid, noColon]

/-! The words of a declaration. -/

variable {shape : Shape} {opening group module : Text}

theorem Shape.eq_coordinate (form : shape.form = .coordinate) : shape = .coordinate := by
  cases shape with
  | coordinate => rfl
  | keyword => cases form

/-- The first word of a declaration and what follows it. -/
theorem Shape.IsValid.first (valid : shape.IsValid) (modulePlain : IsPlain module) {step : Step}
    {after : List Step} (split : shape.steps opening group module = step :: after) (rest : Text) :
    (shape.form = .coordinate ∧ step.word = group ∧
      ∃ c, isPlain c = true ∧ behindColon (step.marks ++ textOf after ++ rest) = some c) ∨
    (shape.form = .keyword ∧ step.word = "group".toList ∧
      ∃ c, isQuote c = true ∧ behindColon (step.marks ++ textOf after ++ rest) = some c) := by
  cases valid with
  | coordinate =>
      cases split
      refine .inl ⟨rfl, rfl, ?_⟩
      obtain ⟨c, plain, behind⟩ := behindColon_name modulePlain
        (':' :: '$' :: opening ++ rest)
      exact ⟨c, plain, by simpa using behind⟩
  | keyword groupKeyed groupQuoted =>
      cases split
      refine .inr ⟨rfl, rfl, _, groupQuoted, ?_⟩
      rw [List.append_assoc (_ ++ _)]
      exact behindColon_quote groupKeyed groupQuoted _

/-- The other words of a declaration and what follows them. -/
theorem Shape.IsValid.later (valid : shape.IsValid) {first step : Step} {before after : List Step}
    (split : shape.steps opening group module = first :: before ++ step :: after) (rest : Text) :
    behindColon (step.marks ++ textOf after ++ rest) = none ∨
    behindColon (step.marks ++ textOf after ++ rest) = some '$' ∨
    (step.word = "name".toList ∧
      ∃ c, isQuote c = true ∧ behindColon (step.marks ++ textOf after ++ rest) = some c) ∨
    (step.word = "version".toList ∧ after = [] ∧ shape.form = .keyword ∧
      ∃ versionKey, IsGap ':' versionKey ∧ step.marks = versionKey ++ opening) := by
  cases valid with
  | coordinate =>
      simp only [Shape.steps, List.cons_append, List.cons.injEq] at split
      obtain ⟨-, split⟩ := split
      rcases before with - | ⟨second, before⟩
      · cases split
        exact .inr (.inl (behindColon_dollar _))
      · simp at split
  | keyword groupKeyed groupQuoted firstComma nameKeyed moduleQuoted secondComma versionKeyed =>
      simp only [Shape.steps, List.cons_append, List.cons.injEq] at split
      obtain ⟨-, split⟩ := split
      rcases before with - | ⟨second, before⟩
      · cases split
        exact .inl (behindColon_none groupQuoted _)
      · simp only [List.cons_append, List.cons.injEq] at split
        obtain ⟨-, split⟩ := split
        rcases before with - | ⟨third, before⟩
        · cases split
          refine .inr (.inr (.inl ⟨rfl, _, moduleQuoted, ?_⟩))
          rw [List.append_assoc (_ ++ _)]
          exact behindColon_quote nameKeyed moduleQuoted _
        · simp only [List.cons_append, List.cons.injEq] at split
          obtain ⟨-, split⟩ := split
          rcases before with - | ⟨fourth, before⟩
          · cases split
            exact .inl (behindColon_none moduleQuoted _)
          · simp only [List.cons_append, List.cons.injEq] at split
            obtain ⟨-, split⟩ := split
            rcases before with - | ⟨fifth, before⟩
            · cases split
              exact .inr (.inr (.inr ⟨rfl, rfl, rfl, _, versionKeyed, rfl⟩))
            · simp at split

/-- Where the end of two texts put together begins. -/
theorem append_cases {α : Type} {first second front behind : List α}
    (split : first ++ second = front ++ behind) :
    (∃ middle, middle ≠ [] ∧ first = front ++ middle ∧ behind = middle ++ second) ∨
      ∃ middle, front = first ++ middle ∧ second = middle ++ behind := by
  rcases List.append_eq_append_iff.mp split with ⟨middle, frontIs, secondIs⟩ |
    ⟨middle, firstIs, behindIs⟩
  · exact .inr ⟨middle, frontIs, secondIs⟩
  · by_cases nothing : middle = []
    · subst nothing
      exact .inr ⟨[], by simpa using firstIs.symm, by simpa using behindIs.symm⟩
    · exact .inl ⟨middle, nothing, firstIs, behindIs⟩

/-- Where a part of the words begins: in a word, or in the marks behind one. -/
theorem exists_step_of_suffix {steps : List Step} {front behind : Text}
    (split : textOf steps = front ++ behind) (some : behind ≠ []) :
    ∃ before step after, steps = before ++ step :: after ∧
      ((∃ start part, step.word = start ++ part ∧ part ≠ [] ∧ front = textOf before ++ start ∧
        behind = part ++ (step.marks ++ textOf after)) ∨
      ∃ start marks, step.marks = start ++ marks ∧ marks ≠ [] ∧
        behind = marks ++ textOf after) := by
  induction steps generalizing front with
  | nil =>
      rw [textOf_nil, List.nil_eq, List.append_eq_nil_iff] at split
      exact absurd split.2 some
  | cons step rest ih =>
      rw [textOf_cons, List.append_assoc] at split
      rcases append_cases split with ⟨part, notEmpty, wordIs, behindIs⟩ | ⟨inMarks, frontIs, split⟩
      · exact ⟨[], step, rest, rfl, .inl ⟨front, part, wordIs, notEmpty, rfl, behindIs⟩⟩
      rcases append_cases split with ⟨marks, notEmpty, marksAre, behindIs⟩ | ⟨later, marksAre, split⟩
      · exact ⟨[], step, rest, rfl, .inr ⟨inMarks, marks, marksAre, notEmpty, behindIs⟩⟩
      obtain ⟨before, other, after, rfl, found⟩ := ih split
      refine ⟨step :: before, other, after, rfl, ?_⟩
      rcases found with ⟨start, part, wordIs, notEmpty, laterIs, behindIs⟩ | inMarks
      · refine .inl ⟨start, part, wordIs, notEmpty, ?_, behindIs⟩
        rw [frontIs, marksAre, laterIs]
        simp
      · exact .inr inMarks

/-- A shape with the marks and names that make a declaration of it. -/
structure Shape.Spells (shape : Shape) (opening group module : Text) : Prop where
  valid : shape.IsValid
  opening : opening.Marks
  group : IsPlain group
  module : IsPlain module

namespace Shape.Spells

variable {other : Shape} {otherOpening otherGroup otherModule : Text}

theorem isStep (spells : shape.Spells opening group module) :
    ∀ step ∈ shape.steps opening group module, step.IsStep :=
  spells.valid.isStep spells.opening spells.group spells.module

/-- The first word of a declaration, and what stands behind it. -/
theorem exists_first (spells : shape.Spells opening group module) (rest : Text) :
    ∃ word behind, textOf (shape.steps opening group module) ++ rest = word ++ behind ∧
      IsPlain word ∧ EndsPlain behind ∧
      ((shape.form = .coordinate ∧ word = group ∧
          ∃ c, isPlain c = true ∧ behindColon behind = some c) ∨
        (shape.form = .keyword ∧ word = "group".toList ∧
          ∃ c, isQuote c = true ∧ behindColon behind = some c)) := by
  obtain ⟨first, after, split⟩ : ∃ first after,
      shape.steps opening group module = first :: after := by
    cases shape <;> exact ⟨_, _, rfl⟩
  obtain ⟨plain, marks, notEmpty⟩ := spells.isStep first (split ▸ List.mem_cons_self)
  refine ⟨first.word, first.marks ++ textOf after ++ rest, ?_, plain, ?_,
    spells.valid.first spells.module split rest⟩
  · rw [split]
    simp
  · rw [List.append_assoc]
    exact marks.endsPlain notEmpty _

theorem startsPlain (spells : shape.Spells opening group module) (rest : Text) :
    StartsPlain (textOf (shape.steps opening group module) ++ rest) := by
  obtain ⟨word, behind, text, plain, -⟩ := spells.exists_first rest
  rw [text]
  exact plain.startsPlain behind

theorem behindColon_name_ne_quote {text : Text}
    (name : ∃ c, isPlain c = true ∧ behindColon text = some c)
    (quote : ∃ c, isQuote c = true ∧ behindColon text = some c) : False := by
  obtain ⟨c, plain, isName⟩ := name
  obtain ⟨d, quoted, isQuote⟩ := quote
  rw [isName, Option.some.injEq] at isQuote
  rw [isQuote, isPlain_of_quote quoted] at plain
  cases plain

/-- The words of `group` and of the other keywords end in different letters. -/
theorem group_not_suffix {start : Text} :
    "name".toList ≠ start ++ "group".toList ∧ "version".toList ≠ start ++ "group".toList := by
  constructor <;> intro same <;> have last := congrArg List.getLast? same <;>
    rw [List.getLast?_append] at last <;> exact absurd last (by simp)

/-- Where a word of a declaration, or the end of one, begins another declaration, both are words of
the same kind, or the keyword `version` is the group of a coordinate. -/
theorem meets_first (spells : shape.Spells opening group module)
    (otherSpells : other.Spells otherOpening otherGroup otherModule) {before after : List Step}
    {step : Step} (steps : shape.steps opening group module = before ++ step :: after)
    {start part rest behind : Text} (wordIs : step.word = start ++ part)
    (same : part ++ (step.marks ++ textOf after) ++ rest =
      textOf (other.steps otherOpening otherGroup otherModule) ++ behind) :
    (before = [] ∧ shape.form = .coordinate ∧ other.form = .coordinate) ∨
    (before = [] ∧ shape.form = .keyword ∧ other.form = .keyword ∧ start = []) ∨
    (shape.form = .keyword ∧ other.form = .coordinate ∧ step.word = "version".toList ∧ after = [] ∧
      part = otherGroup ∧ ∃ versionKey, IsGap ':' versionKey ∧ step.marks = versionKey ++ opening) := by
  obtain ⟨stepPlain, stepMarks, stepSome⟩ := spells.isStep step (by rw [steps]; simp)
  have partPlain : ∀ c ∈ part, isPlain c = true := fun c member =>
    stepPlain.plain c (by rw [wordIs]; exact List.mem_append_right _ member)
  obtain ⟨word, after', text, wordPlain, ended, otherFirst⟩ := otherSpells.exists_first behind
  rw [text, List.append_assoc] at same
  obtain ⟨rfl, follows⟩ := Text.plain_inj partPlain wordPlain.plain
    (by rw [List.append_assoc]; exact stepMarks.endsPlain stepSome _) ended same
  rw [← follows] at otherFirst
  cases before with
  | nil =>
      rcases spells.valid.first spells.module steps rest with
        ⟨isCoordinate, -, name⟩ | ⟨isKeyword, isGroup, quote⟩
      · rcases otherFirst with ⟨otherForm, -⟩ | ⟨-, -, quote⟩
        · exact .inl ⟨rfl, isCoordinate, otherForm⟩
        · exact (behindColon_name_ne_quote name quote).elim
      · rcases otherFirst with ⟨-, -, name⟩ | ⟨otherForm, otherGroup, -⟩
        · exact (behindColon_name_ne_quote name quote).elim
        · have lengths := congrArg List.length wordIs
          rw [isGroup, otherGroup, List.length_append] at lengths
          exact .inr (.inl ⟨rfl, isKeyword, otherForm, List.length_eq_zero_iff.mp (by omega)⟩)
  | cons first before =>
      rcases spells.valid.later steps rest with none | dollar | ⟨isName, quote⟩ |
        ⟨isVersion, last, isKeyword, key⟩
      · rcases otherFirst with ⟨-, -, c, -, other⟩ | ⟨-, -, c, -, other⟩ <;>
          rw [none] at other <;> cases other
      · rcases otherFirst with ⟨-, -, c, plain, other⟩ | ⟨-, -, c, quoted, other⟩ <;>
          rw [dollar] at other <;> cases other
        · exact absurd plain (by decide)
        · exact absurd quoted (by decide)
      · rcases otherFirst with ⟨-, -, name⟩ | ⟨-, isGroup, -⟩
        · exact (behindColon_name_ne_quote name quote).elim
        · rw [isGroup, isName] at wordIs
          exact absurd wordIs group_not_suffix.1
      · rcases otherFirst with ⟨otherForm, isGroup, -⟩ | ⟨-, isGroup, -⟩
        · exact .inr (.inr ⟨isKeyword, otherForm, isVersion, last, isGroup, key⟩)
        · rw [isGroup, isVersion] at wordIs
          exact absurd wordIs group_not_suffix.2

theorem word_inj {step second : Step} {rest others behind more : Text} (isStep : step.IsStep)
    (isSecond : second.IsStep)
    (same : step.word ++ step.marks ++ rest ++ behind =
      second.word ++ second.marks ++ others ++ more) :
    step.word = second.word ∧ step.marks ++ (rest ++ behind) = second.marks ++ (others ++ more) := by
  simp only [List.append_assoc] at same
  exact Text.plain_inj isStep.plain.plain isSecond.plain.plain
    (isStep.marks.endsPlain isStep.notEmpty _) (isSecond.marks.endsPlain isSecond.notEmpty _) same

theorem step_inj {step second next follows : Step} {later others : List Step} {behind more : Text}
    (isSteps : ∀ member ∈ step :: next :: later, member.IsStep)
    (isOthers : ∀ member ∈ second :: follows :: others, member.IsStep)
    (same : textOf (step :: next :: later) ++ behind =
      textOf (second :: follows :: others) ++ more) :
    step.word = second.word ∧
      textOf (next :: later) ++ behind = textOf (follows :: others) ++ more := by
  have starts {first : Step} {rest : List Step} (plain : IsPlain first.word) (behind : Text) :
      StartsPlain (textOf (first :: rest) ++ behind) := by
    rw [textOf_cons, List.append_assoc, List.append_assoc]
    exact plain.startsPlain _
  obtain ⟨word, marks⟩ := word_inj (isSteps step (by simp)) (isOthers second (by simp)) same
  exact ⟨word, (Text.marks_inj (isSteps step (by simp)).marks (isOthers second (by simp)).marks
    (starts (isSteps next (by simp)).plain behind)
    (starts (isOthers follows (by simp)).plain more) marks).2⟩

/-- Two declarations of one form that begin at the same place name the same artifact. -/
theorem names_eq (spells : shape.Spells opening group module)
    (otherSpells : other.Spells otherOpening otherGroup otherModule)
    (sameForm : shape.form = other.form) {rest behind : Text}
    (same : textOf (shape.steps opening group module) ++ rest =
      textOf (other.steps otherOpening otherGroup otherModule) ++ behind) :
    group = otherGroup ∧ module = otherModule := by
  have isSteps := spells.isStep
  have isOthers := otherSpells.isStep
  cases shape with
  | coordinate =>
      cases other with
      | keyword => cases sameForm
      | coordinate =>
          obtain ⟨groups, same⟩ := step_inj isSteps isOthers same
          obtain ⟨modules, -⟩ := word_inj (isSteps _ (by simp [Shape.steps]))
            (isOthers _ (by simp [Shape.steps])) same
          exact ⟨groups, modules⟩
  | keyword =>
      cases other with
      | coordinate => cases sameForm
      | keyword =>
          rw [Shape.steps, Shape.steps] at same
          rw [Shape.steps, List.forall_mem_cons] at isSteps isOthers
          obtain ⟨isFirst, isSteps⟩ := isSteps
          obtain ⟨isOther, isOthers⟩ := isOthers
          obtain ⟨-, same⟩ := step_inj (List.forall_mem_cons.mpr ⟨isFirst, isSteps⟩)
            (List.forall_mem_cons.mpr ⟨isOther, isOthers⟩) same
          obtain ⟨groups, same⟩ := step_inj isSteps isOthers same
          rw [List.forall_mem_cons] at isSteps isOthers
          obtain ⟨-, same⟩ := step_inj isSteps.2 isOthers.2 same
          have isSteps := (List.forall_mem_cons.mp isSteps.2).2
          have isOthers := (List.forall_mem_cons.mp isOthers.2).2
          obtain ⟨modules, -⟩ := step_inj isSteps isOthers same
          exact ⟨groups, modules⟩

end Shape.Spells

/-! Filled declarations. -/

theorem Placed.text_append (placed : Placed) (group module version rest : Text) :
    placed.text group module version ++ rest =
      textOf (placed.shape.steps placed.opening group module) ++
        (placed.access ++ version ++ placed.closing ++ rest) := by
  simp [Placed.text]

/-- Marks do not begin a declaration. -/
theorem Shape.Spells.not_marks {mark : Char} {marks rest behind : Text} (isMark : isPlain mark = false)
    (spells : shape.Spells opening group module)
    (same : mark :: marks ++ rest = textOf (shape.steps opening group module) ++ behind) :
    False := by
  have starts := spells.startsPlain behind
  rw [← same] at starts
  exact Bool.false_ne_true (isMark.symm.trans starts)

namespace Placed.IsPlaced

variable {placed : Placed} {form : Form} {rest version : Text} {other : Shape}
  {otherGroup otherModule front behind more : Text}

/-- No declaration runs into a filled one, unless its placeholder begins there.  `front` is what it
has already taken when it gets there. -/
theorem not_meets (isPlaced : placed.IsPlaced form rest) (groupPlain : IsPlain group)
    (modulePlain : IsPlain module) (noKeyword : form = .coordinate → group ≠ "version".toList)
    (otherSpells : other.Spells [] otherGroup otherModule)
    (split : textOf (other.steps [] otherGroup otherModule) = front ++ behind)
    (some : front ≠ []) (left : behind ≠ [])
    (whole : form = .coordinate → ∀ before c, front = before ++ [c] → isPlain c = false)
    (same : behind ++ more = placed.text group module version ++ rest) : False := by
  have spells : placed.shape.Spells placed.opening group module :=
    ⟨isPlaced.valid, isPlaced.openingMarks, groupPlain, modulePlain⟩
  rw [text_append] at same
  obtain ⟨before, step, after, steps, found⟩ := exists_step_of_suffix split left
  obtain ⟨stepPlain, stepMarks, -⟩ := otherSpells.isStep step (by rw [steps]; simp)
  rcases found with ⟨start, part, wordIs, -, frontIs, behindIs⟩ |
    ⟨start, marks, marksAre, notEmpty, behindIs⟩
  · rw [behindIs] at same
    -- the coordinate form is met at the start of a word only
    have startsHere : form = .coordinate → start = [] := by
      intro isCoordinate
      rcases List.eq_nil_or_concat start with none | ⟨begin, c, rfl⟩
      · exact none
      · have mark := whole isCoordinate (textOf before ++ begin) c (by rw [frontIs]; simp)
        rw [stepPlain.plain c (by rw [wordIs]; simp)] at mark
        cases mark
    have atStart (first : before = []) (none : start = []) : False := by
      rw [first, none] at frontIs
      exact some frontIs
    rcases otherSpells.meets_first spells steps wordIs same with ⟨first, -, isCoordinate⟩ |
      ⟨first, -, -, none⟩ | ⟨-, isCoordinate, isVersion, -, isGroup, -⟩
    · exact atStart first (startsHere (isPlaced.form.symm.trans isCoordinate))
    · exact atStart first none
    · have isCoordinate := isPlaced.form.symm.trans isCoordinate
      rw [startsHere isCoordinate, List.nil_append, isVersion, isGroup] at wordIs
      exact noKeyword isCoordinate wordIs.symm
  · obtain ⟨mark, marks, rfl⟩ := List.exists_cons_of_ne_nil notEmpty
    rw [behindIs, List.append_assoc] at same
    exact spells.not_marks (stepMarks mark (by rw [marksAre]; simp)) same

theorem token_plain (isPlaced : placed.IsPlaced form rest) (versionPlain : IsPlain version) :
    IsPlain (placed.access ++ version) where
  notEmpty := List.append_ne_nil_of_right_ne_nil _ versionPlain.notEmpty
  plain c member := (List.mem_append.mp member).elim (isPlaced.accessPlain c) (versionPlain.plain c)

/-- The properties and the token are followed by no name, and do not end in the word `group`. -/
theorem not_token (isPlaced : placed.IsPlaced form rest) (versionPlain : IsPlain version)
    (lastLetter : version.getLast? = some 'n')
    (otherSpells : other.Spells [] otherGroup otherModule) {start token : Text}
    (split : placed.access ++ version = start ++ token)
    (same : token ++ (placed.closing ++ rest) =
      textOf (other.steps [] otherGroup otherModule) ++ more) : False := by
  have tokenPlain : ∀ c ∈ token, isPlain c = true := fun c member =>
    (isPlaced.token_plain versionPlain).plain c (split ▸ List.mem_append_right start member)
  obtain ⟨word, after, text, wordPlain, ended, first⟩ := otherSpells.exists_first more
  obtain ⟨rfl, follows⟩ := Text.plain_inj tokenPlain wordPlain.plain isPlaced.ended.endsPlain ended
    (same.trans text)
  rcases first with ⟨isCoordinate, isGroup, -⟩ | ⟨-, isGroup, -⟩
  · cases other with
    | keyword => cases isCoordinate
    | coordinate =>
        have endsName := isPlaced.ended
        rw [isGroup] at text
        simp only [Shape.steps, textOf_cons, textOf_nil, List.append_assoc,
          List.append_cancel_left_eq] at text
        rw [follows, ← text] at endsName
        exact endsName.2 rfl
  · have last := congrArg List.getLast? split
    rw [isGroup, List.getLast?_append, List.getLast?_append, lastLetter] at last
    exact absurd last (by simp)

/-- A declaration that begins in a word of a filled one names an artifact that is written there. -/
theorem infix_of_word (isPlaced : placed.IsPlaced form rest)
    (spells : placed.shape.Spells placed.opening group module) (versionPlain : IsPlain version)
    (otherSpells : other.Spells [] otherGroup otherModule) {before after : List Step} {step : Step}
    (steps : placed.shape.steps placed.opening group module = before ++ step :: after)
    {start part : Text} (wordIs : step.word = start ++ part) (partSome : part ≠ [])
    (same : part ++ (step.marks ++ textOf after) ++
        (placed.access ++ version ++ (placed.closing ++ rest)) =
      textOf (other.steps [] otherGroup otherModule) ++ more) :
    otherGroup ++ ':' :: otherModule <:+: group ++ ':' :: module := by
  have stepPlain := (spells.isStep step (by rw [steps]; simp)).plain
  rcases spells.meets_first otherSpells steps wordIs same with ⟨rfl, isCoordinate, otherForm⟩ |
    ⟨rfl, isKeyword, otherForm, rfl⟩ | ⟨-, otherForm, -, rfl, rfl, versionKey, isGap, key⟩
  · rw [Shape.eq_coordinate isCoordinate] at steps
    cases steps
    dsimp only at wordIs
    have partPlain : IsPlain part := ⟨partSome, fun c member =>
      stepPlain.plain c (wordIs ▸ List.mem_append_right start member)⟩
    have partSpells : Shape.coordinate.Spells placed.opening part module :=
      ⟨.coordinate, spells.opening, partPlain, spells.module⟩
    obtain ⟨groups, modules⟩ := partSpells.names_eq otherSpells otherForm.symm
      (by simpa [Shape.steps] using same)
    refine ⟨start, [], ?_⟩
    rw [← groups, ← modules, wordIs, List.append_nil, List.append_assoc]
  · obtain ⟨rfl, rfl⟩ := spells.names_eq otherSpells (isKeyword.trans otherForm.symm)
      (by rw [steps]; simpa [wordIs] using same)
    exact List.infix_rfl
  · -- the name behind the keyword is the module of a coordinate, and a colon would follow it
    rw [Shape.eq_coordinate otherForm, key] at same
    simp only [Shape.steps, textOf_cons, textOf_nil, List.append_assoc, List.append_cancel_left_eq,
      List.nil_append] at same
    have tokenPlain := isPlaced.token_plain versionPlain
    have cut : (versionKey ++ placed.opening) ++
        (placed.access ++ version ++ (placed.closing ++ rest)) =
        [':'] ++ (otherModule ++ ':' :: '$' :: more) := by
      simpa using same
    obtain ⟨-, cut⟩ := Text.marks_inj ((isGap.marks isPlain_colon).append spells.opening)
      (.cons isPlain_colon (by simp [Marks])) (tokenPlain.startsPlain _)
      (otherSpells.module.startsPlain _) cut
    have colonEnds : EndsPlain (':' :: '$' :: more) := isPlain_colon
    obtain ⟨-, cut⟩ := Text.plain_inj tokenPlain.plain otherSpells.module.plain
      isPlaced.ended.endsPlain colonEnds cut
    have ended := isPlaced.ended
    rw [cut] at ended
    exact absurd rfl ended.2

/-- No declaration begins in a filled one, unless its artifact is written there. -/
theorem infix_of_within (isPlaced : placed.IsPlaced form rest) (groupPlain : IsPlain group)
    (modulePlain : IsPlain module) (versionPlain : IsPlain version)
    (lastLetter : version.getLast? = some 'n')
    (otherSpells : other.Spells [] otherGroup otherModule)
    (split : placed.text group module version = front ++ behind) (left : behind ≠ [])
    (same : behind ++ rest = textOf (other.steps [] otherGroup otherModule) ++ more) :
    otherGroup ++ ':' :: otherModule <:+: group ++ ':' :: module := by
  have spells : placed.shape.Spells placed.opening group module :=
    ⟨isPlaced.valid, isPlaced.openingMarks, groupPlain, modulePlain⟩
  have noMark {start marks rest : Text} (isMarks : Text.Marks (start ++ marks)) (some : marks ≠ [])
      (same : marks ++ rest = textOf (other.steps [] otherGroup otherModule) ++ more) : False := by
    obtain ⟨mark, marks, rfl⟩ := List.exists_cons_of_ne_nil some
    exact otherSpells.not_marks (isMarks mark (by simp)) same
  rw [Placed.text] at split
  rcases append_cases split with ⟨inside, insideSome, unclosed, rfl⟩ | ⟨_, -, closingIs⟩
  swap
  · exact (noMark (closingIs ▸ isPlaced.closing) left same).elim
  rcases append_cases unclosed with ⟨words, wordsSome, wordsSplit, rfl⟩ | ⟨start, -, tokenSplit⟩
  swap
  · rw [List.append_assoc] at same
    exact (isPlaced.not_token versionPlain lastLetter otherSpells tokenSplit same).elim
  obtain ⟨before, step, after, steps, found⟩ := exists_step_of_suffix wordsSplit wordsSome
  rw [List.append_assoc, List.append_assoc] at same
  rcases found with ⟨start, part, wordIs, partSome, -, rfl⟩ | ⟨start, marks, marksAre, marksSome, rfl⟩
  · exact isPlaced.infix_of_word spells versionPlain otherSpells steps wordIs partSome same
  · have stepMarks := (spells.isStep step (by rw [steps]; simp)).marks
    rw [List.append_assoc] at same
    exact (noMark (marksAre ▸ stepMarks) marksSome same).elim

end Placed.IsPlaced

end Migration.Declaration
