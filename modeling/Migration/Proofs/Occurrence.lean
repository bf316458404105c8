import Migration.Proofs.Reference

namespace Migration

/-! What becomes of a name of the table where it stands on a line.

A line may be cut in front of whatever no dot and no word leads to.  There a name begins, and it is
as long as words and dots behind it go on.  So a name of the table is exchanged wherever it stands
on its own, and where it goes on, as with a member behind a dot, the longer name is looked up in its
place.
-/

namespace QualifiedName

open Text (IsWordRun isWord startsWord)

/-! Lines in two parts. -/

/-- A text that no name goes on behind: it ends neither with a word nor with a dot. -/
def EndsOutside (front : Text) : Prop :=
  ∀ c, front.getLast? = some c → isWord c = false ∧ c ≠ '.'

theorem EndsOutside.of_append {front rest : Text} (ends : EndsOutside (front ++ rest)) :
    EndsOutside rest := by
  intro c last
  exact ends c (by rw [List.getLast?_append, last, Option.some_or])

theorem continuesRun_append {text : Text} (some : text ≠ []) (noDot : text ≠ ['.']) (rest : Text) :
    continuesRun (text ++ rest) = continuesRun text := by
  rcases text with - | ⟨c, - | ⟨d, others⟩⟩
  · exact absurd rfl some
  · have notDot : c ≠ '.' := fun dot => noDot (by rw [dot])
    simp [continuesRun, notDot]
  · rfl

theorem Cutting.append {cut others : List Piece} (cutting : Cutting cut)
    (ends : EndsOutside (cut.flatMap Piece.text)) (more : Cutting others) :
    Cutting (cut ++ others) := by
  induction cutting with
  | nil => exact more
  | mark mark _ ih =>
      rw [List.flatMap_cons] at ends
      exact .mark mark (ih ends.of_append)
  | @run path rest run ended _ ih =>
      rw [List.flatMap_cons, Path.text_piece] at ends
      refine .run run ?_ (ih ends.of_append)
      change continuesRun ((rest ++ others).flatMap Piece.text) = false
      rw [List.flatMap_append, continuesRun_append ?_ ?_, ended]
      · intro nothing
        obtain ⟨before, c, text, letter⟩ := run.exists_concat
        rw [nothing, List.append_nil, text] at ends
        exact absurd (ends c List.getLast?_concat).1 (by simp [letter])
      · intro dot
        rw [dot] at ends
        exact (ends '.' List.getLast?_concat).2 rfl
  | star run _ ih =>
      rw [List.flatMap_cons] at ends
      exact .star run (ih ends.of_append)

/-- Behind a text that no name goes on behind, a line is cut as if it began there. -/
theorem pieces_append {front : Text} (ends : EndsOutside front) (rest : Text) :
    pieces (front ++ rest) = pieces front ++ pieces rest := by
  have cutting := (pieces_cutting front).append (by rwa [flatMap_pieces]) (pieces_cutting rest)
  have whole := cutting.pieces_flatMap
  rwa [List.flatMap_append, flatMap_pieces, flatMap_pieces] at whole

/-! Names as long as they go. -/

/-- A name that what follows does not go on with, or a wildcard reference. -/
inductive IsWhole : Text → Text → Prop
  | run {name left : Text} (run : Path.IsRun ⟨name, true⟩) (ended : continuesRun left = false) :
      IsWhole name left
  | star {path : Path} (run : path.IsRun) (left : Text) : IsWhole (path.text ++ ['.', '*']) left

theorem IsWhole.pieces_append {name left : Text} (whole : IsWhole name left) :
    pieces (name ++ left) = .name name :: pieces left := by
  cases whole with
  | run run ended => exact pieces_run run ended
  | star run =>
      rw [List.append_assoc]
      exact pieces_star run left

theorem IsWhole.not_continued {name left : Text} (whole : IsWhole name left)
    (run : Path.IsRun ⟨name, true⟩) : continuesRun left ≠ true := by
  cases whole with
  | run _ ended => simp [ended]
  | @star path _ => exact absurd rfl (run.text_ne_star path.text)

/-- A run is continued by a dot and a star or by a dot and a word. -/
theorem continuesRun_cases {rest : Text} (ended : startsWord rest = false)
    (continues : continuesRun rest = true) :
    (∃ left, rest = '.' :: '*' :: left) ∨
      ∃ others, rest = '.' :: others ∧ startsWord others = true := by
  cases rest with
  | nil => cases continues
  | cons c others =>
      have mark : isWord c = false := ended
      rw [continuesRun, mark, Bool.false_or, Bool.and_eq_true, decide_eq_true_eq] at continues
      obtain ⟨rfl, goesOn⟩ := continues
      cases others with
      | nil => cases goesOn
      | cons d left =>
          rcases Bool.or_eq_true_iff.mp goesOn with letter | star
          · exact .inr ⟨d :: left, rfl, letter⟩
          · exact .inl ⟨left, by rw [of_decide_eq_true star]⟩

/-- Every name goes on until it is whole. -/
theorem Path.IsRun.exists_whole {name rest : Text} (run : Path.IsRun ⟨name, true⟩)
    (ended : startsWord rest = false) :
    ∃ more left, rest = more ++ left ∧ IsWhole (name ++ more) left := by
  induction length : rest.length using Nat.strongRecOn generalizing name rest with
  | _ _ ih =>
    cases continues : continuesRun rest with
    | false => exact ⟨[], rest, rfl, by simpa using IsWhole.run run continues⟩
    | true =>
        rcases continuesRun_cases ended continues with ⟨left, rfl⟩ | ⟨others, rfl, letters⟩
        · exact ⟨['.', '*'], left, rfl, .star run left⟩
        · have shorter : (others.dropWhile isWord).length < ('.' :: others).length :=
            Nat.lt_succ_of_le (List.dropWhile_suffix isWord).length_le
          obtain ⟨more, left, behind, whole⟩ := ih _ (length ▸ shorter)
            (run.dotted (takeWhile_isWordRun letters)) (startsWord_dropWhile others) rfl
          refine ⟨'.' :: others.takeWhile isWord ++ more, left, ?_, ?_⟩
          · rw [List.append_assoc, ← behind, List.cons_append, List.takeWhile_append_dropWhile]
          · rwa [List.append_assoc] at whole

/-! Names of the table. -/

/-- A name of the table between what stands in front of it and behind it, where no longer name of
the table begins. -/
structure Occurs (symbols : SymbolTable) (before symbol after : Text) : Prop where
  front : EndsOutside before
  behind : startsWord after = false
  longest : ∀ longer, symbol.length < longer.length → longer <+: symbol ++ after →
    symbols.lookup longer = none

variable {symbols : SymbolTable} {projections : Projections} {verbosity : Verbosity}

theorem getD_migrate (verbosity : Verbosity) {line : Text}
    (plain : ∀ name, .name name ∈ pieces line → ¬ IsAmbiguous symbols projections name) :
    ∃ result, (migrate symbols projections line).answer verbosity = .ok result ∧
      result.getD line = (pieces line).flatMap (writtenFor symbols projections) := by
  rw [pieces_eq_readNames] at plain ⊢
  refine ⟨_, answer_migrate plain, ?_⟩
  split
  · next same =>
      rw [Option.getD_none, List.flatMap_def, same, ← List.flatMap_def, flatMap_readNames]
  · rfl

/-- What stands in front of a whole name, and what stands behind it, is migrated on its own. -/
theorem getD_migrate_around {before name left : Text} {result : Option Text}
    (front : EndsOutside before) (whole : IsWhole name left)
    (migrated : (migrate symbols projections (before ++ (name ++ left))).answer verbosity =
      .ok result) :
    ∃ first last found, (migrate symbols projections before).answer verbosity = .ok first ∧
      (migrate symbols projections left).answer verbosity = .ok last ∧
      successor symbols projections name = .ok found ∧
      result.getD (before ++ (name ++ left)) =
        first.getD before ++ (found.getD name ++ last.getD left) := by
  have cut : pieces (before ++ (name ++ left)) = pieces before ++ .name name :: pieces left := by
    rw [pieces_append front, whole.pieces_append]
  have plain := plain_of_migrated migrated
  rw [← pieces_eq_readNames] at plain
  obtain ⟨_, again, written⟩ := getD_migrate verbosity plain
  cases migrated.symm.trans again
  rw [cut] at plain written
  obtain ⟨first, migratedFirst, writtenFirst⟩ := getD_migrate verbosity
    fun name member => plain name (List.mem_append_left _ member)
  obtain ⟨last, migratedLast, writtenLast⟩ := getD_migrate verbosity
    fun name member => plain name (List.mem_append_right _ (List.mem_cons_of_mem _ member))
  obtain ⟨found, becomes, isGiven⟩ := successor_given
    (plain name (List.mem_append_right _ List.mem_cons_self))
  refine ⟨first, last, found, migratedFirst, migratedLast, becomes, ?_⟩
  rw [written, List.flatMap_append, List.flatMap_cons, writtenFirst, writtenLast, isGiven,
    writtenFor]

end QualifiedName

namespace Correspondences

open QualifiedName (EndsOutside IsDotted IsWhole Occurs continuesRun)

/-- A name of the table is exchanged for its new name wherever it occurs, unless a dot and then a
word or a star follow it.  Then it only begins a longer name, which is looked up in its place and is
no name of the table: that one stays, or is a wildcard reference and projected. -/
theorem migrateLine_source_occurrence {known : Correspondences} {before symbol new after : Text}
    (dotted : IsDotted symbol) (listed : known.symbols.lookup symbol = some new)
    (occurs : Occurs known.symbols before symbol after) {verbosity : Verbosity}
    {result : Option Text}
    (migrated : (known.migrateLine .source (before ++ (symbol ++ after))).answer verbosity =
      .ok result) :
    (continuesRun after = false →
      ∃ first last,
        (known.migrateLine .source before).answer verbosity = .ok first ∧
        (known.migrateLine .source after).answer verbosity = .ok last ∧
        result.getD (before ++ (symbol ++ after)) =
          first.getD before ++ (new ++ last.getD after)) ∧
    (continuesRun after = true →
      ∃ more left first last found, after = more ++ left ∧ more ≠ [] ∧
        IsWhole (symbol ++ more) left ∧
        known.symbols.lookup (symbol ++ more) = none ∧
        known.projections.unique (symbol ++ more) = .ok found ∧
        (found ≠ none → more.getLast? = some '*') ∧
        (known.migrateLine .source before).answer verbosity = .ok first ∧
        (known.migrateLine .source left).answer verbosity = .ok last ∧
        result.getD (before ++ (symbol ++ after)) =
          first.getD before ++ (found.getD (symbol ++ more) ++ last.getD left)) := by
  constructor
  · intro ended
    obtain ⟨first, last, found, migratedFirst, migratedLast, becomes, written⟩ :=
      QualifiedName.getD_migrate_around occurs.front (.run dotted.isRun ended) migrated
    rw [QualifiedName.successor, listed] at becomes
    cases becomes
    exact ⟨first, last, migratedFirst, migratedLast, written⟩
  · intro continues
    obtain ⟨more, left, rfl, whole⟩ := dotted.isRun.exists_whole occurs.behind
    have some : more ≠ [] := by
      rintro rfl
      rw [List.append_nil] at whole
      exact whole.not_continued dotted.isRun continues
    have unlisted : known.symbols.lookup (symbol ++ more) = none := by
      refine occurs.longest _ ?_ ?_
      · rw [List.length_append]
        exact Nat.lt_add_of_pos_right (List.length_pos_iff.mpr some)
      · rw [← List.append_assoc]
        exact List.prefix_append _ _
    rw [← List.append_assoc symbol] at migrated ⊢
    obtain ⟨first, last, found, migratedFirst, migratedLast, becomes, written⟩ :=
      QualifiedName.getD_migrate_around occurs.front whole migrated
    rw [QualifiedName.successor, unlisted] at becomes
    refine ⟨more, left, first, last, found, rfl, some, whole, unlisted, becomes, ?_, migratedFirst,
      migratedLast, written⟩
    intro projected
    obtain ⟨reference, rfl⟩ := Option.ne_none_iff_exists'.mp projected
    have star := (Projections.unique_eq_some becomes).1
    rwa [List.getLast?_append_of_ne_nil _ some] at star

section Sample

variable {known : Correspondences} (made : (ofRows sampleRows [] "a").answer .quiet = .ok known)

include made

theorem sampleRows_lookup : known.symbols.lookup "a.B".toList = some "c.D".toList :=
  (SymbolTable.lookup_ofRows (ofRows_symbols made).1 _).trans (by decide)

theorem sampleRows_eq_of_lookup {old new : Text} (found : known.symbols.lookup old = some new) :
    old = "a.B".toList := by
  obtain ⟨row, member, rfl, _⟩ := SymbolTable.row_of_lookup (ofRows_symbols made).1 found
  rw [List.mem_singleton.mp member]

theorem sampleRows_occurs {before after : Text} (front : EndsOutside before)
    (behind : Text.startsWord after = false) :
    Occurs known.symbols before "a.B".toList after where
  front := front
  behind := behind
  longest longer length _ := by
    cases found : known.symbols.lookup longer with
    | none => rfl
    | some new =>
        rw [sampleRows_eq_of_lookup made found] at length
        exact absurd length (Nat.lt_irrefl _)

end Sample

/-- Where a member follows, the name of the table is not exchanged. -/
theorem sampleRows_member_stays :
    ∃ known, (ofRows sampleRows [] "a").answer .quiet = .ok known ∧
      (∀ old new, known.symbols.lookup old = some new → IsDotted old) ∧
      known.symbols.lookup "a.B".toList = some "c.D".toList ∧
      Occurs known.symbols [] "a.B".toList ".f()".toList ∧
      (known.migrateLine .source "a.B.f()".toList).answer .quiet = .ok none ∧
      ¬ "c.D".toList <:+: "a.B.f()".toList := by
  have kept : ((ofRows sampleRows [] "a").answer .quiet >>= fun known =>
      (known.migrateLine .source "a.B.f()".toList).answer .quiet) = .ok none := by decide
  obtain ⟨known, made, migrated⟩ := bind_eq_ok.mp kept
  refine ⟨known, made, ?_, sampleRows_lookup made, sampleRows_occurs made nofun (by decide),
    migrated, ?_⟩
  · intro old new found
    rw [sampleRows_eq_of_lookup made found]
    exact sampleRows_clean.old _ List.mem_cons_self
  · intro inside
    have member : 'c' ∈ "a.B.f()".toList := inside.subset (by decide)
    exact absurd member (by decide)

theorem sampleRows_migrateLine_source_occurrence :
    ∃ known, (ofRows sampleRows [] "a").answer .quiet = .ok known ∧
      (∃ first last, (known.migrateLine .source ['(']).answer .quiet = .ok first ∧
        (known.migrateLine .source [')']).answer .quiet = .ok last ∧
        "(c.D)".toList = first.getD ['('] ++ ("c.D".toList ++ last.getD [')'])) ∧
      ∃ more left, ".f)".toList = more ++ left ∧ more ≠ [] ∧
        IsWhole ("a.B".toList ++ more) left := by
  have exchanged : ((ofRows sampleRows [] "a").answer .quiet >>= fun known =>
      (known.migrateLine .source (['('] ++ ("a.B".toList ++ [')']))).answer .quiet) =
        .ok (some "(c.D)".toList) := by decide
  have kept : ((ofRows sampleRows [] "a").answer .quiet >>= fun known =>
      (known.migrateLine .source (['('] ++ ("a.B".toList ++ ".f)".toList))).answer .quiet) =
        .ok none := by decide
  obtain ⟨known, made, migrated⟩ := bind_eq_ok.mp exchanged
  obtain ⟨_, same, stays⟩ := bind_eq_ok.mp kept
  cases made.symm.trans same
  have dotted : IsDotted "a.B".toList := sampleRows_clean.old _ List.mem_cons_self
  have front : EndsOutside ['('] := by
    intro c last
    cases last
    decide
  refine ⟨known, made, ?_, ?_⟩
  · obtain ⟨first, last, migratedFirst, migratedLast, written⟩ :=
      (migrateLine_source_occurrence dotted (sampleRows_lookup made)
        (sampleRows_occurs made front (by decide)) migrated).1 (by decide)
    rw [Option.getD_some] at written
    exact ⟨first, last, migratedFirst, migratedLast, written⟩
  · obtain ⟨more, left, _, _, _, behind, some, whole, _⟩ :=
      (migrateLine_source_occurrence dotted (sampleRows_lookup made)
        (sampleRows_occurs made front (by decide)) stays).2 (by decide)
    exact ⟨more, left, behind, some, whole⟩

end Correspondences

end Migration
