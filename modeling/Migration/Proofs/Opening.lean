import Migration.Proofs.Apart

namespace Migration.Declaration

/-! What opens a version.

A value is a run of token characters, between quotes or in braces or both, and one that stands on
its own needs no more than its first character.  With other tokens in place of those of a text there
are no values that have not been there before.
-/

open Text (IsPlain isPlain)

structure IsRun (run : Text) : Prop where
  notEmpty : run ≠ []
  token : ∀ c ∈ run, isTokenChar c = true

theorem run_stops {allowed : Char → Bool} {run : Text} {mark : Char}
    (runs : ∀ c ∈ run, allowed c = true) (refused : allowed mark = false) (rest : Text) :
    (run ++ mark :: rest).takeWhile allowed = run ∧
      (run ++ mark :: rest).dropWhile allowed = mark :: rest :=
  Text.run_ends runs fun _ starts => Option.some.inj starts ▸ refused

theorem quote_refused {quote : Char} (quoted : isQuote quote = true) :
    isTokenChar quote = false := by
  rcases (Bool.or_eq_true _ _).mp quoted with same | same <;>
    rw [of_decide_eq_true same] <;> decide

theorem not_quote_of_bare {c : Char} (bare : isBareTokenChar c = true) : isQuote c = false := by
  cases quoted : isQuote c with
  | false => rfl
  | true =>
      rw [isBareTokenChar, quote_refused quoted] at bare
      cases bare

namespace Placeholder

theorem isRun_takeWhile {text : Text} (some : text.takeWhile isTokenChar ≠ []) :
    IsRun (text.takeWhile isTokenChar) :=
  ⟨some, fun c => List.all_eq_true.mp List.all_takeWhile c⟩

theorem exists_ofRun_iff {mark stop : Char} {whole rest : Text}
    (refused : isTokenChar stop = false) :
    (∃ found, ofRun isTokenChar mark whole = some (found, stop :: rest)) ↔
      ∃ run, IsRun run ∧ whole = run ++ stop :: rest := by
  simp only [ofRun_eq_some]
  constructor
  · rintro ⟨_, some, dropped, _⟩
    exact ⟨_, isRun_takeWhile some, by rw [← dropped, List.takeWhile_append_dropWhile]⟩
  · rintro ⟨run, isRun, rfl⟩
    obtain ⟨taken, dropped⟩ := run_stops isRun.token refused rest
    exact ⟨_, by rw [taken]; exact isRun.notEmpty, dropped, rfl⟩

theorem exists_braced_iff {whole rest : Text} :
    (∃ found, braced whole = some (found, rest)) ↔
      ∃ dollar run, IsDollar dollar ∧ IsRun run ∧
        whole = dollar ++ '\x7b' :: (run ++ '\x7d' :: rest) := by
  simp only [braced_eq_some, inBraces_eq_some]
  constructor
  · rintro ⟨_, dollar, inner, isDollar, rfl, some, dropped, _⟩
    refine ⟨dollar, _, isDollar, isRun_takeWhile some, ?_⟩
    rw [← dropped, List.takeWhile_append_dropWhile]
  · rintro ⟨dollar, run, isDollar, isRun, rfl⟩
    obtain ⟨taken, dropped⟩ := @run_stops isTokenChar _ '\x7d' isRun.token (by decide) rest
    exact ⟨_, dollar, _, isDollar, rfl, by rw [taken]; exact isRun.notEmpty, dropped, rfl⟩

theorem between_isSome {quote : Char} {inner : Option (Placeholder × Text)} :
    (between quote inner).isSome = true ↔ ∃ rest found, inner = some (found, quote :: rest) := by
  rw [Option.isSome_iff_exists]
  simp only [between_eq_some]
  constructor
  · rintro ⟨_, found, rest, read, _⟩
    exact ⟨rest, found, read⟩
  · rintro ⟨rest, found, read⟩
    exact ⟨_, found, rest, read, rfl⟩

/-- What a value is behind its first quote. -/
inductive Quoted (quote : Char) : Text → Prop
  | run {run rest : Text} (isRun : IsRun run) : Quoted quote (run ++ quote :: rest)
  | braces {dollar run rest : Text} (isDollar : IsDollar dollar) (isRun : IsRun run) :
      Quoted quote (dollar ++ '\x7b' :: (run ++ '\x7d' :: quote :: rest))

theorem value_quote_isSome {quote : Char} (quoted : isQuote quote = true) {inner : Text} :
    (value (quote :: inner)).isSome = true ↔ Quoted quote inner := by
  have isQuote : (quote = '"' || quote = '\x27') = true := by simpa [isQuote] using quoted
  rw [value, if_pos isQuote, Option.isSome_or, Bool.or_eq_true, between_isSome, between_isSome]
  simp only [exists_braced_iff, exists_ofRun_iff (quote_refused quoted)]
  constructor
  · rintro (⟨rest, dollar, run, isDollar, isRun, rfl⟩ | ⟨rest, run, isRun, rfl⟩)
    · exact .braces isDollar isRun
    · exact .run isRun
  · rintro (isRun | ⟨isDollar, isRun⟩)
    · exact .inr ⟨_, _, isRun, rfl⟩
    · exact .inl ⟨_, _, _, isDollar, isRun, rfl⟩

theorem value_bare_isSome {c : Char} (noQuote : isQuote c = false) {rest : Text} :
    (value (c :: rest)).isSome = true ↔ isBareTokenChar c = true := by
  have noQuote : ¬ (c = '"' || c = '\x27') = true := by simpa [isQuote] using noQuote
  rw [value, if_neg noQuote, Option.isSome_map, Option.isSome_or, Bool.or_eq_true, ofRun_isSome]
  constructor
  · rintro (inBraces | ⟨first, _, same, bare⟩)
    · obtain ⟨⟨found, behind⟩, inBraces⟩ := Option.isSome_iff_exists.mp inBraces
      obtain ⟨dollar, run, rfl | rfl, -, same⟩ := exists_braced_iff.mp ⟨found, inBraces⟩
      · rw [(List.cons.inj same).1]
        decide
      · rw [(List.cons.inj same).1]
        decide
    · rwa [(List.cons.inj same).1]
  · intro bare
    exact .inr ⟨c, rest, rfl, bare⟩

/-- A text has a value at its start if it begins with a quoted one or with a character that a value
on its own may have. -/
theorem value_isSome {text : Text} :
    (value text).isSome = true ↔
      ∃ c rest, text = c :: rest ∧
        (isBareTokenChar c = true ∨ isQuote c = true ∧ Quoted c rest) := by
  cases text with
  | nil => simp [value]
  | cons c rest =>
      cases quoted : isQuote c with
      | true =>
          have noBare : isBareTokenChar c ≠ true := fun bare => by
            rw [not_quote_of_bare bare] at quoted
            cases quoted
          rw [value_quote_isSome quoted]
          constructor
          · exact fun within => ⟨c, rest, rfl, .inr ⟨quoted, within⟩⟩
          · rintro ⟨d, others, same, bare | ⟨_, within⟩⟩
            · cases same
              exact absurd bare noBare
            · cases same
              exact within
      | false =>
          rw [value_bare_isSome quoted]
          constructor
          · exact fun bare => ⟨c, rest, rfl, .inl bare⟩
          · rintro ⟨d, others, same, bare | ⟨isQuote, _⟩⟩
            · cases same
              exact bare
            · cases same
              rw [quoted] at isQuote
              cases isQuote

end Placeholder

/-! Other tokens in place of those of a text. -/

theorem isRun_of_plain {word : Text} (plain : IsPlain word) : IsRun word :=
  ⟨plain.notEmpty, fun c member => isTokenChar_of_plain (plain.plain c member)⟩

/-- The second text is the first one with plain words in place of some of its tokens, up to where
there is white space in the second. -/
inductive Exchanged : Text → Text → Prop
  | stop {c : Char} {old new : Text} (blank : Text.isBlank c = true) : Exchanged old (c :: new)
  | kept {c : Char} {old new : Text} (rest : Exchanged old new) : Exchanged (c :: old) (c :: new)
  | slot {token word old new : Text} (isRun : IsRun token) (plain : IsPlain word)
      (rest : Exchanged old new) : Exchanged (token ++ old) (word ++ new)

namespace Exchanged

variable {old new : Text}

theorem keptAll (rest : Exchanged old new) (text : Text) : Exchanged (text ++ old) (text ++ new) := by
  induction text with
  | nil => exact rest
  | cons c text ih => exact .kept ih

/-- A run of token characters up to a mark stands there in the first text as well, with other
tokens in it. -/
theorem run_mark (exchanged : Exchanged old new) {run rest : Text} {mark : Char}
    (token : ∀ c ∈ run, isTokenChar c = true) (noPlain : isPlain mark = false)
    (solid : Text.isBlank mark = false) (split : new = run ++ mark :: rest) :
    ∃ before behind, old = before ++ mark :: behind ∧ (∀ c ∈ before, isTokenChar c = true) ∧
      (before = [] ↔ run = []) ∧ Exchanged behind rest := by
  induction exchanged generalizing run with
  | stop blank =>
      exfalso
      cases run with
      | nil =>
          rw [(List.cons.inj split).1, solid] at blank
          cases blank
      | cons d run =>
          have inside := isTokenChar_solid d (token d List.mem_cons_self)
          rw [(List.cons.inj split).1, inside] at blank
          cases blank
  | @kept c old new rest ih =>
      cases run with
      | nil =>
          obtain ⟨rfl, rfl⟩ := List.cons.inj split
          exact ⟨[], old, rfl, by simp, Iff.rfl, rest⟩
      | cons d run =>
          obtain ⟨rfl, tails⟩ := List.cons.inj split
          obtain ⟨first, tokens⟩ := List.forall_mem_cons.mp token
          obtain ⟨before, behind, rfl, others, -, rest⟩ := ih tokens tails
          exact ⟨c :: before, behind, rfl, List.forall_mem_cons.mpr ⟨first, others⟩, by simp, rest⟩
  | @slot tokens word old new isRun plain rest ih =>
      rcases append_cases split with ⟨middle, notEmpty, wordIs, behindIs⟩ | ⟨middle, runIs, split⟩
      · obtain ⟨d, others, rfl⟩ := List.exists_cons_of_ne_nil notEmpty
        have isMark : mark = d := (List.cons.inj behindIs).1
        exact absurd (by rw [wordIs, isMark]; simp) (plain.not_mem noPlain)
      · rw [runIs] at token
        obtain ⟨before, behind, rfl, others, -, rest⟩ :=
          ih (fun c member => token c (List.mem_append_right _ member)) split
        refine ⟨tokens ++ before, behind, by simp, ?_, ?_, rest⟩
        · intro c member
          exact (List.mem_append.mp member).elim (isRun.token c) (others c)
        · simp [runIs, isRun.notEmpty, plain.notEmpty]

theorem mark (exchanged : Exchanged old new) {rest : Text} {mark : Char}
    (noPlain : isPlain mark = false) (solid : Text.isBlank mark = false)
    (split : new = mark :: rest) : ∃ behind, old = mark :: behind ∧ Exchanged behind rest := by
  obtain ⟨before, behind, rfl, -, nothing, rest⟩ := exchanged.run_mark (by simp) noPlain solid
    (show new = [] ++ mark :: rest from split)
  rw [nothing.mpr rfl]
  exact ⟨behind, rfl, rest⟩

theorem run (exchanged : Exchanged old new) {run rest : Text} {mark : Char} (isRun : IsRun run)
    (noPlain : isPlain mark = false) (solid : Text.isBlank mark = false)
    (split : new = run ++ mark :: rest) :
    ∃ before behind, IsRun before ∧ old = before ++ mark :: behind ∧ Exchanged behind rest := by
  obtain ⟨before, behind, whole, token, nothing, rest⟩ :=
    exchanged.run_mark isRun.token noPlain solid split
  exact ⟨before, behind, ⟨fun none => isRun.notEmpty (nothing.mp none), token⟩, whole, rest⟩

/-- What is quoted in the second text is quoted in the first. -/
theorem quoted (exchanged : Exchanged old new) {quote : Char} (quoted : isQuote quote = true)
    (within : Placeholder.Quoted quote new) : Placeholder.Quoted quote old := by
  have quoteMark := isPlain_of_quote quoted
  have quoteSolid := quote_solid (by simpa [isQuote] using quoted)
  have opens : isPlain '\x7b' = false := by decide
  have closes : isPlain '\x7d' = false := by decide
  have inBraces {old inner rest : Text} (exchanged : Exchanged old inner) {run : Text}
      (isRun : IsRun run) (split : inner = '\x7b' :: (run ++ '\x7d' :: quote :: rest)) :
      ∃ before behind, IsRun before ∧ old = '\x7b' :: (before ++ '\x7d' :: quote :: behind) := by
    obtain ⟨_, rfl, inside⟩ := exchanged.mark opens (by decide) split
    obtain ⟨before, _, isBefore, rfl, closed⟩ := inside.run isRun closes (by decide) rfl
    obtain ⟨behind, rfl, -⟩ := closed.mark quoteMark quoteSolid rfl
    exact ⟨before, behind, isBefore, rfl⟩
  rcases within with isRun | ⟨rfl | rfl, isRun⟩
  · obtain ⟨before, behind, isBefore, rfl, -⟩ := exchanged.run isRun quoteMark quoteSolid rfl
    exact .run isBefore
  · obtain ⟨before, behind, isBefore, rfl⟩ := inBraces exchanged isRun rfl
    exact @Placeholder.Quoted.braces quote [] _ _ (.inl rfl) isBefore
  · obtain ⟨_, rfl, braced⟩ := exchanged.mark isPlain_dollar (by decide) rfl
    obtain ⟨before, behind, isBefore, rfl⟩ := inBraces braced isRun rfl
    exact @Placeholder.Quoted.braces quote ['$'] _ _ (.inr rfl) isBefore

end Exchanged

end Migration.Declaration
