import Mathlib.Data.List.TakeWhile
import Migration.Proofs.NameMatches
import Migration.Proofs.SourceLine

namespace Migration

/-! A plain account of what becomes of a source line.

The line is read word by word, as far as dots lead.  Every name that is found is looked up on its
own, the first reference that has no answer decides, and everything between the names stays.  The
same comes out when matches of a pattern are copied one after the other, with what stands between
them.
-/

namespace Reporting

theorem bind_pure_id (computation : Reporting α) :
    (computation >>= fun value => pure (id value)) = computation := by
  funext verbosity
  rcases ran : computation verbosity with ⟨outcome, entries⟩
  cases outcome <;> simp [bind, pure, ran]

theorem bind_bind (computation : Reporting α) (next : α → Reporting β) (last : β → Reporting γ) :
    (computation >>= next >>= last) = computation >>= fun value => next value >>= last := by
  funext verbosity
  rcases ran : computation verbosity with ⟨outcome, entries⟩
  cases outcome with
  | error failure => simp [bind, ran]
  | ok value =>
      rcases later : next value verbosity with ⟨outcome, more⟩
      cases outcome <;> simp [bind, ran, later]

theorem pure_bind' (value : α) (next : α → Reporting β) : (pure value >>= next) = next value := by
  rfl

instance : LawfulMonad Reporting :=
  LawfulMonad.mk' Reporting bind_pure_id pure_bind' bind_bind

theorem forEach_cons (step : α → Reporting β) (first : α) (rest : List α) :
    forEach step (first :: rest) =
      step first >>= fun value => forEach step rest >>= fun values => pure (value :: values) :=
  rfl

end Reporting

namespace QualifiedName

open Text (IsWordRun isWord startsWord)

/-! Reading a line. -/

/-- The words with dots between them that a text begins with, and what follows.  A word is as long
as it can be, and there are as many words as there can be. -/
def readWords (line : Text) : List Text × Text :=
  let first := line.takeWhile isWord
  match _split : line.dropWhile isWord with
  | '.' :: c :: rest =>
      if isWord c then
        let (words, left) := readWords (c :: rest)
        (first :: words, left)
      else ([first], '.' :: c :: rest)
  | left => ([first], left)
termination_by line.length
decreasing_by
  have shorter := (List.dropWhile_suffix (p := isWord) (l := line)).length_le
  rw [_split] at shorter
  exact shorter

/-- What reading words leaves of a text: words with dots, and a rest that adds nothing to them. -/
structure IsReading (line : Text) (words : List Text) (left : Text) : Prop where
  notEmpty : words ≠ []
  runs : ∀ word ∈ words, IsWordRun word
  text : ['.'].intercalate words ++ left = line
  ended : startsWord left = false
  longest : ∀ rest, left = '.' :: rest → startsWord rest = false

theorem startsWord_dropWhile (line : Text) : startsWord (line.dropWhile isWord) = false := by
  cases split : line.dropWhile isWord with
  | nil => rfl
  | cons c rest =>
      have stopped := List.head_dropWhile_not isWord (l := line) (by simp [split])
      simpa [split, startsWord] using stopped

theorem takeWhile_isWordRun {line : Text} (started : startsWord line = true) :
    IsWordRun (line.takeWhile isWord) := by
  cases line with
  | nil => cases started
  | cons c rest =>
      have letter : isWord c = true := started
      refine ⟨by simp [letter], fun d member => ?_⟩
      exact List.mem_takeWhile_imp member

theorem isReading_single {line : Text} (started : startsWord line = true)
    (longest : ∀ rest, line.dropWhile isWord = '.' :: rest → startsWord rest = false) :
    IsReading line [line.takeWhile isWord] (line.dropWhile isWord) where
  notEmpty := List.cons_ne_nil _ _
  runs := List.forall_mem_singleton.mpr (takeWhile_isWordRun started)
  text := by rw [List.intercalate_singleton, List.takeWhile_append_dropWhile]
  ended := startsWord_dropWhile line
  longest := longest

theorem readWords_isReading (line : Text) (started : startsWord line = true) :
    IsReading line (readWords line).1 (readWords line).2 := by
  fun_induction readWords line with
  | case1 line first c rest split letter words left read ih =>
      have later := ih letter
      rw [read] at later
      refine ⟨by simp, ?_, ?_, later.ended, later.longest⟩
      · exact List.forall_mem_cons.mpr ⟨takeWhile_isWordRun started, later.runs⟩
      · obtain ⟨second, others, rfl⟩ := List.exists_cons_of_ne_nil later.notEmpty
        rw [List.intercalate_cons_cons, List.append_assoc, List.append_assoc, later.text]
        have line := List.takeWhile_append_dropWhile (p := isWord) (l := line)
        rwa [split] at line
  | case2 line first c rest split mark =>
      have single := isReading_single started (by
        intro others same
        rw [split] at same
        cases same
        exact Bool.eq_false_iff.mpr mark)
      rwa [split] at single
  | case3 line first other =>
      refine isReading_single started ?_
      intro rest same
      cases rest with
      | nil => rfl
      | cons c rest => exact absurd same (other c rest)

theorem IsReading.length_lt {line left : Text} {words : List Text}
    (reading : IsReading line words left) : left.length < line.length := by
  obtain ⟨c, rest, starts, -⟩ := (isRun_intercalate reading.notEmpty reading.runs).exists_cons
  have starts : ['.'].intercalate words = c :: rest := starts
  rw [← reading.text, List.length_append, starts, List.length_cons]
  omega

/-- The names of a line and what stands between them, read from left to right. -/
def readNames : Text → List Piece
  | [] => []
  | c :: rest =>
      if letter : isWord c then
        have _reading := readWords_isReading (c :: rest) letter
        match _read : readWords (c :: rest) with
        | (words, '.' :: '*' :: left) =>
            .name (['.'].intercalate words ++ ['.', '*']) :: readNames left
        | (words, left) =>
            let text := ['.'].intercalate words
            (if 2 ≤ words.length then .name text else .gap text) :: readNames left
      else .gap [c] :: readNames rest
termination_by line => line.length
decreasing_by
  · have shorter := _reading.length_lt
    rw [_read] at shorter
    simp only [List.length_cons] at shorter ⊢
    omega
  · have shorter := _reading.length_lt
    rw [_read] at shorter
    exact shorter
  · exact Nat.lt_succ_self _

theorem IsReading.continuesRun_left {line left : Text} {words : List Text}
    (reading : IsReading line words left) (noStar : ∀ rest, left ≠ '.' :: '*' :: rest) :
    continuesRun left = false := by
  obtain ⟨-, -, -, ended, longest⟩ := reading
  cases left with
  | nil => rfl
  | cons c rest =>
      have mark : isWord c = false := ended
      rw [continuesRun, mark, Bool.false_or, Bool.and_eq_false_iff]
      by_cases dot : c = '.'
      · subst dot
        have next := longest rest rfl
        refine .inr ?_
        cases rest with
        | nil => rfl
        | cons d rest =>
            have notWord : isWord d = false := next
            have notStar : d ≠ '*' := by
              rintro rfl
              exact noStar rest rfl
            simp [continuesDot, notWord, notStar]
      · exact .inl (decide_eq_false dot)

/-- The tokens of a line lead to the names that are read. -/
theorem pieces_eq_readNames (line : Text) : pieces line = readNames line := by
  fun_induction readNames line with
  | case1 => rfl
  | case2 c rest letter reading words left read ih =>
      rw [read] at reading
      have run := isRun_intercalate reading.notEmpty reading.runs
      rw [← reading.text, ← ih]
      exact pieces_star run left
  | case3 c rest letter reading words left other read text ih =>
      rw [read] at reading
      have run := isRun_intercalate reading.notEmpty reading.runs
      have piece := pieces_run run (reading.continuesRun_left other)
      rw [← reading.text, ← ih]
      simpa [Path.piece] using piece
  | case4 c rest mark ih =>
      rw [pieces_mark (Bool.eq_false_iff.mpr mark), ih]

/-! What a name is given. -/

/-- A wildcard reference that is no name of the table, to a package with several destinations. -/
structure IsAmbiguous (symbols : SymbolTable) (projections : Projections) (name : Text) :
    Prop where
  unlisted : symbols.lookup name = none
  wildcard : name.getLast? = some '*'
  several : 2 ≤ (projections.targetsOf (packageOf name)).length

/-- The failure that an ambiguous reference ends a line with. -/
def ambiguity (projections : Projections) (name : Text) : Failure :=
  Cause.ambiguousProjection name.str (packageOf name).str
    ((projections.targetsOf (packageOf name)).map Text.str)

/-- What the table or else the only destination of its package makes of a name. -/
def given (symbols : SymbolTable) (projections : Projections) (name : Text) : Text :=
  match symbols.lookup name, name.getLast?, projections.targetsOf (packageOf name) with
  | some new, _, _ => new
  | none, some '*', [target] => target ++ ['*']
  | none, _, _ => name

/-- What is written for a piece. -/
def writtenFor (symbols : SymbolTable) (projections : Projections) : Piece → Text
  | .gap text => text
  | .name name => given symbols projections name

section

variable {symbols : SymbolTable} {projections : Projections} {verbosity : Verbosity}

theorem successor_ambiguous {name : Text} (ambiguous : IsAmbiguous symbols projections name) :
    successor symbols projections name = .error (ambiguity projections name) := by
  obtain ⟨unlisted, wildcard, several⟩ := ambiguous
  rw [successor, unlisted]
  simp only
  rw [Projections.unique, if_pos wildcard]
  rcases targets : projections.targetsOf (packageOf name) with - | ⟨first, - | ⟨second, rest⟩⟩
  · rw [targets] at several
    cases several
  · rw [targets] at several
    exact absurd several (by simp)
  · rw [ambiguity, targets]

theorem successor_given {name : Text} (plain : ¬ IsAmbiguous symbols projections name) :
    ∃ found, successor symbols projections name = .ok found ∧
      found.getD name = given symbols projections name := by
  rw [successor, given]
  cases unlisted : symbols.lookup name with
  | some new => exact ⟨some new, rfl, rfl⟩
  | none =>
      simp only
      rw [Projections.unique]
      by_cases wildcard : name.getLast? = some '*'
      · rw [if_pos wildcard, wildcard]
        rcases targets : projections.targetsOf (packageOf name) with - | ⟨first, - | ⟨second, rest⟩⟩
        · exact ⟨none, rfl, rfl⟩
        · exact ⟨some (first ++ ['*']), rfl, rfl⟩
        · exact absurd ⟨unlisted, wildcard, by simp [targets]⟩ plain
      · rw [if_neg wildcard]
        refine ⟨none, rfl, ?_⟩
        split <;> simp_all

theorem answer_renew_ambiguous {name : Text} (ambiguous : IsAmbiguous symbols projections name) :
    (renew symbols projections (.name name)).answer verbosity =
      .error (ambiguity projections name) := by
  rw [answer_renew_name, successor_ambiguous ambiguous]
  rfl

theorem answer_renew {piece : Piece}
    (plain : ∀ name, piece = .name name → ¬ IsAmbiguous symbols projections name) :
    (renew symbols projections piece).answer verbosity =
      .ok (writtenFor symbols projections piece) := by
  cases piece with
  | gap text => rfl
  | name name =>
      obtain ⟨found, becomes, written⟩ := successor_given (plain name rfl)
      rw [answer_renew_name, becomes, writtenFor, ← written]
      rfl

theorem migrate_eq_error {line : Text} {failure : Failure} :
    (migrate symbols projections line).answer verbosity = .error failure ↔
      ∃ before name after, readNames line = before ++ .name name :: after ∧
        IsAmbiguous symbols projections name ∧
        (∀ earlier, .name earlier ∈ before → ¬ IsAmbiguous symbols projections earlier) ∧
        failure = ambiguity projections name := by
  have ends : (migrate symbols projections line).answer verbosity = .error failure ↔
      (Reporting.forEach (renew symbols projections) (readNames line)).answer verbosity =
        .error failure := by
    rw [migrate, Reporting.answer_bind, ← pieces_eq_readNames]
    cases (Reporting.forEach (renew symbols projections) (pieces line)).answer verbosity <;> simp
  rw [ends, Reporting.forEach_eq_error]
  constructor
  · rintro ⟨before, piece, after, cut, fine, failed⟩
    by_cases plain : ∀ name, piece = .name name → ¬ IsAmbiguous symbols projections name
    · rw [answer_renew plain] at failed
      cases failed
    · push Not at plain
      obtain ⟨name, rfl, ambiguous⟩ := plain
      rw [answer_renew_ambiguous ambiguous] at failed
      refine ⟨before, name, after, cut, ambiguous, ?_, (Except.error.inj failed).symm⟩
      intro earlier member earlierAmbiguous
      obtain ⟨result, worked⟩ := fine _ member
      rw [answer_renew_ambiguous earlierAmbiguous] at worked
      cases worked
  · rintro ⟨before, name, after, cut, ambiguous, fine, rfl⟩
    refine ⟨before, .name name, after, cut, ?_, answer_renew_ambiguous ambiguous⟩
    intro earlier member
    exact ⟨_, answer_renew fun other same => fine other (same ▸ member)⟩

theorem map_writtenFor_eq_iff {cut : List Piece} :
    cut.map (writtenFor symbols projections) = cut.map Piece.text ↔
      ∀ name, .name name ∈ cut → given symbols projections name = name := by
  rw [List.map_inj_left]
  constructor
  · exact fun same name member => same _ member
  · intro same piece member
    cases piece with
    | gap text => rfl
    | name name => exact same name member

theorem answer_migrate {line : Text}
    (plain : ∀ name, .name name ∈ readNames line → ¬ IsAmbiguous symbols projections name) :
    (migrate symbols projections line).answer verbosity =
      .ok (if (readNames line).map (writtenFor symbols projections) =
          (readNames line).map Piece.text then none
        else some ((readNames line).flatMap (writtenFor symbols projections))) := by
  rw [migrate_eq_ok, pieces_eq_readNames]
  refine ⟨(readNames line).map (writtenFor symbols projections), ?_, rfl⟩
  rw [List.forall₂_map_right_iff, List.forall₂_same]
  exact fun piece member => answer_renew fun name same => plain name (same ▸ member)

theorem plain_of_renewed {piece : Piece} {text : Text}
    (renewed : (renew symbols projections piece).answer verbosity = .ok text) (name : Text)
    (same : piece = .name name) : ¬ IsAmbiguous symbols projections name := by
  intro ambiguous
  rw [same, answer_renew_ambiguous ambiguous] at renewed
  cases renewed

theorem plain_of_migrated {line : Text} {result : Option Text}
    (migrated : (migrate symbols projections line).answer verbosity = .ok result) (name : Text)
    (member : .name name ∈ readNames line) : ¬ IsAmbiguous symbols projections name := by
  obtain ⟨texts, renewed, -⟩ := migrate_eq_ok.mp migrated
  rw [pieces_eq_readNames] at renewed
  have plain := (List.forall₂_and_left _ _).mp
    (renewed.imp fun piece text worked => ⟨plain_of_renewed worked, worked⟩)
  exact plain.1 _ member name rfl

theorem migrate_eq_none {line : Text} :
    (migrate symbols projections line).answer verbosity = .ok none ↔
      ∀ name, .name name ∈ readNames line →
        ¬ IsAmbiguous symbols projections name ∧ given symbols projections name = name := by
  constructor
  · intro migrated name member
    have plain := plain_of_migrated migrated
    rw [answer_migrate plain] at migrated
    refine ⟨plain name member, ?_⟩
    split at migrated
    · next same => exact map_writtenFor_eq_iff.mp same name member
    · cases migrated
  · intro kept
    rw [answer_migrate fun name member => (kept name member).1,
      if_pos (map_writtenFor_eq_iff.mpr fun name member => (kept name member).2)]

theorem migrate_eq_some {line out : Text} :
    (migrate symbols projections line).answer verbosity = .ok (some out) ↔
      (∀ name, .name name ∈ readNames line → ¬ IsAmbiguous symbols projections name) ∧
        (∃ name, .name name ∈ readNames line ∧ given symbols projections name ≠ name) ∧
        out = (readNames line).flatMap (writtenFor symbols projections) := by
  constructor
  · intro migrated
    have plain := plain_of_migrated migrated
    rw [answer_migrate plain] at migrated
    split at migrated
    · cases migrated
    · next changed =>
        cases migrated
        rw [map_writtenFor_eq_iff] at changed
        push Not at changed
        exact ⟨plain, changed, rfl⟩
  · rintro ⟨plain, ⟨name, member, changed⟩, rfl⟩
    rw [answer_migrate plain, if_neg]
    rw [map_writtenFor_eq_iff]
    exact fun same => changed (same name member)

end

/-! Copying a line match by match. -/

/-- What has been written of a line: the text, how many characters of the line it stands for, and
whether a name was exchanged for another. -/
structure Draft where
  out : Text := []
  last : Nat := 0
  changed : Bool := false

open Pattern (Span)

/-- Writes what a match becomes, and what stands in front of it.  A match that nothing is known
about is left to be copied with what follows. -/
def rewriteMatch (symbols : SymbolTable) (projections : Projections) (line : Text) (draft : Draft)
    (found : Span) : Reporting Draft := do
  match ← replacement symbols projections (found.of line) with
  | none => return draft
  | some new =>
      return {
        out := draft.out ++ Span.of ⟨draft.last, found.start⟩ line ++ new
        last := found.stop
        changed := draft.changed || new ≠ found.of line }

def Draft.finish (draft : Draft) (line : Text) : Option Text :=
  if draft.changed then some (draft.out ++ line.drop draft.last) else none

/-- The line with every match of the pattern for names replaced. -/
def rewriteMatches (symbols : SymbolTable) (projections : Projections) (line : Text) :
    Reporting (Option Text) := do
  let draft ← (Pattern.spans Pattern.qualifiedName line).foldlM
    (rewriteMatch symbols projections line) {}
  return draft.finish line

namespace Draft

/-- What a draft leads to if the pieces behind a place become `after`. -/
def complete (draft : Draft) (line : Text) (place : Nat) (rest : List Piece) (after : List Text) :
    Option Text :=
  if draft.changed = true ∨ after ≠ rest.map Piece.text then
    some (draft.out ++ Span.of ⟨draft.last, place⟩ line ++ after.flatten)
  else none

variable {draft : Draft} {line front : Text} {rest : List Piece}

theorem finish_eq (draft : Draft) (line : Text) :
    draft.finish line = draft.complete line line.length [] [] := by
  have whole : Span.of ⟨draft.last, line.length⟩ line = line.drop draft.last := by
    rw [Span.of, List.take_length]
  rw [finish, complete, whole]
  simp

/-- A piece that stays is copied later, together with what stands in front of it. -/
theorem complete_kept {piece : Piece} (text : line = front ++ (piece :: rest).flatMap Piece.text)
    (behind : draft.last ≤ front.length) (after : List Text) :
    draft.complete line (front ++ piece.text).length rest after =
      draft.complete line front.length (piece :: rest) (piece.text :: after) := by
  have copied : Span.of ⟨draft.last, (front ++ piece.text).length⟩
      (front ++ piece.text ++ rest.flatMap Piece.text) =
      Span.of ⟨draft.last, front.length⟩ (front ++ piece.text ++ rest.flatMap Piece.text) ++
        piece.text := Pattern.Span.of_extend behind
  rw [List.append_assoc, ← List.flatMap_cons, ← text] at copied
  rw [complete, complete, copied]
  simp only [List.map_cons, List.flatten_cons, List.append_assoc, ne_eq, List.cons.injEq, true_and]

theorem complete_renewed (name new : Text) (place : Nat) (after : List Text) :
    complete ⟨draft.out ++ Span.of ⟨draft.last, place⟩ line ++ new, place + name.length,
        draft.changed || new ≠ name⟩ line (place + name.length) rest after =
      draft.complete line place (.name name :: rest) (new :: after) := by
  have changes : (draft.changed || decide (new ≠ name)) = true ∨ after ≠ rest.map Piece.text ↔
      draft.changed = true ∨ new :: after ≠ (Piece.name name :: rest).map Piece.text := by
    rw [Bool.or_eq_true, decide_eq_true_eq, or_assoc, List.map_cons, Piece.text_name, ne_eq, ne_eq,
      ne_eq, List.cons.injEq, not_and_or]
  simp only [complete, changes, Pattern.Span.of_self, List.append_nil, List.flatten_cons,
    List.append_assoc]

end Draft

variable {symbols : SymbolTable} {projections : Projections}

/-- Copying the line match by match renews its pieces one after the other. -/
theorem finish_matches (draft : Draft) {line front : Text} {rest : List Piece}
    (text : line = front ++ rest.flatMap Piece.text) (behind : draft.last ≤ front.length) :
    ((nameSpans front.length rest).foldlM (rewriteMatch symbols projections line) draft >>=
        fun final => pure (final.finish line)) =
      Reporting.forEach (renew symbols projections) rest >>= fun after =>
        pure (draft.complete line front.length rest after) := by
  induction rest generalizing front draft with
  | nil =>
      have whole : line = front := by rw [text, List.flatMap_nil, List.append_nil]
      simp only [nameSpans, List.foldlM_nil, pure_bind, Draft.finish_eq, whole]
      rfl
  | cons piece rest ih =>
      have extended : line = front ++ piece.text ++ rest.flatMap Piece.text := by
        rw [text, List.flatMap_cons, List.append_assoc]
      have further : (front ++ piece.text).length = front.length + piece.text.length :=
        List.length_append
      have stays := ih draft extended (by omega)
      simp only [Draft.complete_kept text behind] at stays
      rw [further] at stays
      cases piece with
      | gap kept =>
          rw [nameSpans, Reporting.forEach_cons, renew]
          simp only [bind_assoc, pure_bind]
          exact stays
      | name name =>
          have matched : Span.of ⟨front.length, front.length + name.length⟩ line = name := by
            rw [extended]
            exact Pattern.Span.of_append
          rw [nameSpans, List.foldlM_cons, rewriteMatch, matched, Reporting.forEach_cons, renew]
          simp only [bind_assoc]
          congr 1
          funext found
          cases found with
          | none =>
              simp only [pure_bind, Option.getD_none]
              exact stays
          | some new =>
              simp only [pure_bind, Option.getD_some, ← Draft.complete_renewed]
              rw [Piece.text_name] at further
              rw [← further]
              exact ih _ extended (Nat.le_refl _)

theorem rewriteMatches_eq (symbols : SymbolTable) (projections : Projections) (line : Text) :
    rewriteMatches symbols projections line = migrate symbols projections line := by
  have text : line = [] ++ (pieces line).flatMap Piece.text := by
    rw [flatMap_pieces, List.nil_append]
  have copied := @finish_matches symbols projections {} line [] (pieces line) text (Nat.le_refl 0)
  rw [rewriteMatches, spans_eq]
  refine copied.trans ?_
  rw [migrate]
  congr 1
  funext after
  rw [Draft.complete]
  by_cases same : after = (pieces line).map Piece.text
  · simp [same]
  · simp [same, Pattern.Span.of]

theorem flatMap_readNames (line : Text) : (readNames line).flatMap Piece.text = line := by
  rw [← pieces_eq_readNames, flatMap_pieces]

/-- Migrating a line is copying it match by match, and it comes to what reading the line and looking
up each name come to: a failure for the first ambiguous reference, nothing if every name is given
itself, and else the line with its names exchanged. -/
theorem migrate_agrees_with_reading (symbols : SymbolTable) (projections : Projections)
    (line : Text) (verbosity : Verbosity) :
    migrate symbols projections line = rewriteMatches symbols projections line ∧
    (readNames line).flatMap Piece.text = line ∧
    (∀ failure, (migrate symbols projections line).answer verbosity = .error failure ↔
      ∃ before name after, readNames line = before ++ .name name :: after ∧
        IsAmbiguous symbols projections name ∧
        (∀ earlier, .name earlier ∈ before → ¬ IsAmbiguous symbols projections earlier) ∧
        failure = ambiguity projections name) ∧
    ((migrate symbols projections line).answer verbosity = .ok none ↔
      ∀ name, .name name ∈ readNames line →
        ¬ IsAmbiguous symbols projections name ∧ given symbols projections name = name) ∧
    (∀ out, (migrate symbols projections line).answer verbosity = .ok (some out) ↔
      (∀ name, .name name ∈ readNames line → ¬ IsAmbiguous symbols projections name) ∧
        (∃ name, .name name ∈ readNames line ∧ given symbols projections name ≠ name) ∧
        out = (readNames line).flatMap (writtenFor symbols projections)) :=
  ⟨(rewriteMatches_eq symbols projections line).symm, flatMap_readNames line,
    fun _ => migrate_eq_error, migrate_eq_none, fun _ => migrate_eq_some⟩

end QualifiedName

end Migration
