import Mathlib.Data.List.TakeWhile
import Migration.Proofs.Declaration
import Migration.Proofs.Resolution

namespace Migration

/-! Texts cut at marks and trimmed.

Trimming takes white space away at both ends and nothing else, and leaves a text that has none
there.  The first mark in a text and the last one cut it in one way each, and no field between marks
holds another one.
-/

/-- There is one first element of a kind. -/
theorem cut_inj {α : Type} {kind : α → Bool} {before other after behind : List α} {first second : α}
    (none : ∀ c ∈ before, kind c = false) (noneOther : ∀ c ∈ other, kind c = false)
    (isFirst : kind first = true) (isSecond : kind second = true)
    (same : before ++ first :: after = other ++ second :: behind) :
    before = other ∧ first = second ∧ after = behind := by
  induction before generalizing other with
  | nil =>
      cases other with
      | nil => simpa using same
      | cons c other =>
          obtain ⟨rfl, _⟩ := List.cons.inj same
          rw [noneOther first List.mem_cons_self] at isFirst
          cases isFirst
  | cons c before ih =>
      cases other with
      | nil =>
          obtain ⟨rfl, _⟩ := List.cons.inj same
          rw [none c List.mem_cons_self] at isSecond
          cases isSecond
      | cons d other =>
          obtain ⟨rfl, tails⟩ := List.cons.inj same
          obtain ⟨rfl, rest⟩ := ih (List.forall_mem_cons.mp none).2
            (List.forall_mem_cons.mp noneOther).2 tails
          exact ⟨rfl, rest⟩

namespace Text

/-- Neither end of the text is white space. -/
structure SolidEnds (text : Text) : Prop where
  first : ∀ c, text.head? = some c → isBlank c = false
  last : ∀ c, text.getLast? = some c → isBlank c = false

theorem trimStart_first {text : Text} {c : Char} (starts : (trimStart text).head? = some c) :
    isBlank c = false := by
  have stopped := List.head?_dropWhile_not isBlank text
  rw [trimStart] at starts
  rwa [starts] at stopped

theorem trimEnd_reverse (text : Text) : (trimEnd text).reverse = trimStart text.reverse :=
  List.reverse_reverse _

theorem trimEnd_last {text : Text} {c : Char} (ends : (trimEnd text).getLast? = some c) :
    isBlank c = false := by
  rw [← List.head?_reverse, trimEnd_reverse] at ends
  exact trimStart_first ends

/-- White space is all that trimming takes away. -/
theorem exists_trim (text : Text) :
    ∃ before after : Text, before.Blank ∧ after.Blank ∧ text = before ++ (trim text ++ after) := by
  have front : text.takeWhile isBlank ++ trimStart text = text := List.takeWhile_append_dropWhile
  have back : (trimStart text).reverse.takeWhile isBlank ++ (trim text).reverse =
      (trimStart text).reverse := by
    rw [trim, trimEnd_reverse]
    exact List.takeWhile_append_dropWhile
  refine ⟨text.takeWhile isBlank, ((trimStart text).reverse.takeWhile isBlank).reverse,
    blank_takeWhile text, ?_, ?_⟩
  · intro c member
    exact blank_takeWhile _ c (List.mem_reverse.mp member)
  · rw [← List.reverse_inj, List.reverse_append, List.reverse_reverse, List.reverse_reverse] at back
    rw [back, front]

theorem trim_within (text : Text) : trim text <:+: text := by
  obtain ⟨before, after, _, _, whole⟩ := exists_trim text
  exact ⟨before, after, (List.append_assoc ..).trans whole.symm⟩

theorem mem_of_mem_trim {text : Text} {c : Char} (member : c ∈ trim text) : c ∈ text :=
  (trim_within text).subset member

theorem solidEnds_trim (text : Text) : SolidEnds (trim text) where
  first c starts := by
    have trimmed : trim text <+: trimStart text := by
      rw [← List.reverse_suffix, trim, trimEnd_reverse]
      exact List.dropWhile_suffix _
    obtain ⟨after, whole⟩ := trimmed
    refine @trimStart_first text c ?_
    rw [← whole, List.head?_append, starts, Option.some_or]
  last c ends := trimEnd_last ends

theorem trim_of_solidEnds {text : Text} (solid : SolidEnds text) : trim text = text := by
  have start {text : Text} (first : ∀ c, text.head? = some c → isBlank c = false) :
      trimStart text = text := by
    cases text with
    | nil => rfl
    | cons c rest => exact List.dropWhile_cons_of_neg (by simp [first c rfl])
  rw [trim, start solid.first, ← List.reverse_inj, trimEnd_reverse]
  exact start fun c ends => solid.last c (by rwa [List.head?_reverse] at ends)

theorem trim_eq_nil_iff {text : Text} : trim text = [] ↔ text.Blank := by
  obtain ⟨before, after, beforeBlank, afterBlank, whole⟩ := exists_trim text
  constructor
  · intro nothing
    rw [whole, nothing, List.nil_append]
    exact fun c member => (List.mem_append.mp member).elim (beforeBlank c) (afterBlank c)
  · intro blank
    cases trimmed : trim text with
    | nil => rfl
    | cons c rest =>
        have solid := (solidEnds_trim text).first c (by rw [trimmed]; rfl)
        have member : c ∈ text := by
          rw [whole, trimmed]
          simp
        exact absurd (blank c member) (by simp [solid])

/-- There is one first mark and one last mark. -/
theorem append_mark_inj {mark : Char} {front other rest behind : Text} (absent : mark ∉ front)
    (absentToo : mark ∉ other) (same : front ++ mark :: rest = other ++ mark :: behind) :
    front = other ∧ rest = behind := by
  obtain ⟨fronts, _, rests⟩ := @cut_inj Char (· == mark) _ _ _ _ _ _
    (fun c member => beq_false_of_ne fun isMark => absent (isMark ▸ member))
    (fun c member => beq_false_of_ne fun isMark => absentToo (isMark ▸ member))
    (beq_self_eq_true mark) (beq_self_eq_true mark) same
  exact ⟨fronts, rests⟩

theorem append_last_inj {mark : Char} {front other rest behind : Text} (absent : mark ∉ rest)
    (absentToo : mark ∉ behind) (same : front ++ mark :: rest = other ++ mark :: behind) :
    front = other ∧ rest = behind := by
  have turned : rest.reverse ++ mark :: front.reverse =
      behind.reverse ++ mark :: other.reverse := by
    simpa using congrArg List.reverse same
  obtain ⟨rests, fronts⟩ :=
    append_mark_inj (by simpa using absent) (by simpa using absentToo) turned
  exact ⟨List.reverse_inj.mp fronts, List.reverse_inj.mp rests⟩

theorem not_mem_fields {separator : Char} (text : Text) :
    ∀ field ∈ fields separator text, separator ∉ field := by
  induction text with
  | nil => simp [fields]
  | cons c rest ih =>
      rw [fields_cons]
      split
      · simpa using ih
      · next other =>
          cases split : fields separator rest with
          | nil => simpa using Ne.symm other
          | cons first others =>
              rw [split, List.forall_mem_cons] at ih
              refine List.forall_mem_cons.mpr ⟨?_, ih.2⟩
              simpa [Ne.symm other] using ih.1

theorem mem_of_mem_fields {separator c : Char} {text field : Text}
    (inText : field ∈ fields separator text) (member : c ∈ field) : c ∈ text := by
  induction text generalizing field with
  | nil =>
      rw [List.mem_singleton.mp inText] at member
      cases member
  | cons d rest ih =>
      rw [fields_cons] at inText
      split at inText
      · rcases List.mem_cons.mp inText with rfl | inText
        · cases member
        · exact List.mem_cons_of_mem _ (ih inText member)
      · cases split : fields separator rest with
        | nil => exact absurd split (fields_ne_nil separator rest)
        | cons first others =>
            rw [split] at inText ih
            rcases List.mem_cons.mp inText with rfl | inText
            · exact (List.mem_cons.mp member).elim (fun same => same ▸ List.mem_cons_self)
                fun member => List.mem_cons_of_mem _ (ih List.mem_cons_self member)
            · exact List.mem_cons_of_mem _ (ih (List.mem_cons_of_mem _ inText) member)

theorem fields_eq_cons_cons {separator : Char} {text first second : Text} {rest : List Text}
    (split : fields separator text = first :: second :: rest) :
    ∃ behind, text = first ++ separator :: behind ∧ fields separator behind = second :: rest := by
  have whole := intercalate_fields separator text
  have absent := @not_mem_fields separator text
  rw [split] at whole absent
  refine ⟨[separator].intercalate (second :: rest), ?_, ?_⟩
  · rw [← whole, List.intercalate_cons_cons, List.append_assoc]
    rfl
  · exact fields_intercalate (by simp) fun field member =>
      absent field (List.mem_cons_of_mem _ member)

/-! Fields without the white space around them. -/

theorem Blank.append {first second : Text} (firstBlank : first.Blank) (secondBlank : second.Blank) :
    Blank (first ++ second) :=
  fun c member => (List.mem_append.mp member).elim (firstBlank c) (secondBlank c)

theorem trimStart_append {before text : Text} (blank : before.Blank)
    (solid : ∀ c, text.head? = some c → isBlank c = false) : trimStart (before ++ text) = text := by
  rw [trimStart, List.dropWhile_append_of_pos blank]
  cases text with
  | nil => rfl
  | cons c rest => exact List.dropWhile_cons_of_neg (by simp [solid c rfl])

theorem trim_eq_of_solidEnds {before core after : Text} (beforeBlank : before.Blank)
    (afterBlank : after.Blank) (solid : SolidEnds core) :
    trim (before ++ (core ++ after)) = core := by
  by_cases nothing : core = []
  · rw [nothing, trim_eq_nil_iff]
    exact beforeBlank.append afterBlank
  · obtain ⟨d, rest, rfl⟩ := List.exists_cons_of_ne_nil nothing
    have first : ∀ c, (d :: rest ++ after).head? = some c → isBlank c = false := solid.first
    have turnedBlank : Blank after.reverse := fun c member =>
      afterBlank c (List.mem_reverse.mp member)
    rw [trim, trimStart_append beforeBlank first, ← List.reverse_inj, trimEnd_reverse,
      List.reverse_append]
    refine trimStart_append turnedBlank fun c starts => solid.last c ?_
    rwa [List.head?_reverse] at starts

/-- White space around a text does not count. -/
theorem trim_around {before after : Text} (beforeBlank : before.Blank) (afterBlank : after.Blank)
    (text : Text) : trim (before ++ (text ++ after)) = trim text := by
  obtain ⟨front, back, frontBlank, backBlank, whole⟩ := exists_trim text
  have regrouped : before ++ (text ++ after) =
      (before ++ front) ++ (trim text ++ (back ++ after)) := by
    rw [whole]
    simp [trim_eq_of_solidEnds frontBlank backBlank (solidEnds_trim text)]
  rw [regrouped]
  exact trim_eq_of_solidEnds (beforeBlank.append frontBlank) (backBlank.append afterBlank)
    (solidEnds_trim text)

/-- The last field grows with what is written behind it. -/
theorem exists_lastField {mark : Char} {after : Text} (absent : mark ∉ after) (text : Text) :
    ∃ front last, fields mark text = front ++ [last] ∧
      fields mark (text ++ after) = front ++ [last ++ after] := by
  induction text with
  | nil => exact ⟨[], [], rfl, fields_of_not_mem absent⟩
  | cons c rest ih =>
      obtain ⟨front, last, split, grown⟩ := ih
      rw [List.cons_append, fields_cons, fields_cons, split, grown]
      by_cases isMark : c = mark
      · exact ⟨[] :: front, last, by simp [isMark], by simp [isMark]⟩
      · cases front with
        | nil => exact ⟨[], c :: last, by simp [isMark], by simp [isMark]⟩
        | cons first front =>
            exact ⟨(c :: first) :: front, last, by simp [isMark], by simp [isMark]⟩

theorem map_trim_fields_behind {mark : Char} (solid : isBlank mark = false) {after : Text}
    (blank : after.Blank) (text : Text) :
    (fields mark (text ++ after)).map trim = (fields mark text).map trim := by
  have absent : mark ∉ after := fun member =>
    Bool.false_ne_true (solid.symm.trans (blank mark member))
  obtain ⟨front, last, split, grown⟩ := exists_lastField absent text
  have same : trim (last ++ after) = trim last := @trim_around [] after nofun blank last
  rw [split, grown, List.map_append, List.map_append, List.map_singleton, List.map_singleton, same]

theorem map_trim_fields_front {mark : Char} (solid : isBlank mark = false) {before : Text}
    (blank : before.Blank) (text : Text) :
    (fields mark (before ++ text)).map trim = (fields mark text).map trim := by
  induction before with
  | nil => rfl
  | cons c rest ih =>
      obtain ⟨first, others⟩ := List.forall_mem_cons.mp blank
      have noMark : c ≠ mark := fun same => Bool.false_ne_true (solid.symm.trans (same ▸ first))
      have dropped (field : Text) : trim (c :: field) = trim field := by
        have around := @trim_around [c] [] (by simpa [Blank] using first) nofun field
        simpa using around
      rw [List.cons_append, fields_cons, if_neg noMark, ← ih others]
      cases split : fields mark (rest ++ text) with
      | nil => exact absurd split (fields_ne_nil mark _)
      | cons field fields => simp [dropped]

theorem map_trim_fields_trim {mark : Char} (solid : isBlank mark = false) (text : Text) :
    (fields mark (trim text)).map trim = (fields mark text).map trim := by
  obtain ⟨before, after, beforeBlank, afterBlank, whole⟩ := exists_trim text
  have front := map_trim_fields_front solid beforeBlank (trim text ++ after)
  have behind := map_trim_fields_behind solid afterBlank (trim text)
  rw [← whole] at front
  rw [front, behind]

theorem not_mem_of_splitLast_eq_none {mark : Char} {text : Text}
    (split : splitLast mark text = none) : mark ∉ text := by
  rw [splitLast] at split
  split at split
  · next dropped =>
      intro member
      have passed := List.dropWhile_eq_nil_iff.mp dropped mark (List.mem_reverse.mpr member)
      simp at passed
  · cases split

end Text

end Migration
