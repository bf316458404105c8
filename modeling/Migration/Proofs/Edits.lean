import Migration.Proofs.BuildLine
import Migration.Proofs.DeclarationMatches

namespace Migration

/-! The edits of a build line.

What the matches on a line capture are the slots of the line's declarations.  The spans stand one
behind the other, each cut at characters, so that the text between two of them is there to be kept;
with other text in their place the line is the one that filling its parts makes.
-/

open Pattern
open Text (byteLength byteLength_nil byteLength_cons byteLength_append)

namespace Declaration

/-! Spans of the slots. -/

theorem slotSpans_append (start : Nat) (first second : List Part) :
    slotSpans start (first ++ second) =
      slotSpans start first ++ slotSpans (start + byteLength (first.flatMap Part.old)) second := by
  induction first generalizing start with
  | nil => rfl
  | cons part rest ih =>
      cases part <;>
        simp only [List.cons_append, slotSpans, ih, List.flatMap_cons, Part.old, byteLength_append,
          Nat.add_assoc]

theorem slotSpans_eq_nil {start : Nat} {parts : List Part} :
    slotSpans start parts = [] ↔ parts.any (·.slot?.isSome) = false := by
  induction parts generalizing start with
  | nil => simp [slotSpans]
  | cons part rest ih => cases part <;> simp [slotSpans, Part.slot?, ih]

namespace Form

theorem head?_ways (form : Form) (group module before text : Text) :
    (ways (form.pattern group module) ⟨before, text⟩).head?.map
        (fun way => (way.stop, form.edits? way.captured)) =
      (form.declarationAt group module text).map (located before text) := by
  cases form with
  | coordinate => exact head?_coordinatePattern group module before text
  | keyword => exact head?_keywordPattern group module before text

/-- What the matches on a line capture of the slots, match by match. -/
def editsOn (form : Form) (group module line : Text) : List (List (Slot × Span)) :=
  (captures (form.pattern group module) line).filterMap form.edits?

theorem flatten_capturesFrom (form : Form) (group module : Text) (skip : Nat) (before text : Text) :
    ((capturesFrom (form.pattern group module) skip before text).filterMap form.edits?).flatten =
      slotSpans (byteLength before + byteLength (text.take skip))
        (partsFrom (form.declarationAt group module) skip text) := by
  have finds := form.finds group module
  generalize isFound : form.declarationAt group module = declarationAt at finds ⊢
  fun_induction partsFrom declarationAt skip text generalizing before with
  | case1 skip =>
      rw [capturesFrom]
      rfl
  | case2 skip c rest ih =>
      rw [capturesFrom, ih, List.take_succ_cons, byteLength_cons, byteLength_cons]
      simp only [Nat.add_assoc, Nat.add_left_comm]
  | case3 c rest parts found ih =>
      have first := form.head?_ways group module before (c :: rest)
      rw [isFound, found, Option.map_some] at first
      obtain ⟨way, matched, same⟩ := Option.map_eq_some_iff.mp first
      obtain ⟨stop, edits⟩ := Prod.mk.inj same
      have length : way.stop.before.length - before.length - 1 =
          (parts.flatMap Part.old).length - 1 := by
        rw [stop, Cursor.advance, List.length_append, List.length_reverse, Nat.add_sub_cancel]
      have whole : byteLength (c :: before) +
          byteLength (rest.take ((parts.flatMap Part.old).length - 1)) =
            byteLength before + byteLength (parts.flatMap Part.old) := by
        have cut := (finds.drop_eq found).1
        have taken : c :: rest.take ((parts.flatMap Part.old).length - 1) =
            parts.flatMap Part.old := by
          have next : (parts.flatMap Part.old).length - 1 + 1 = (parts.flatMap Part.old).length :=
            Nat.sub_add_cancel (finds.length_pos found)
          rw [← List.take_succ_cons, next, ← cut, List.take_left]
        rw [byteLength_cons, Nat.add_comm c.utf8Size, Nat.add_assoc, ← byteLength_cons, taken]
      rw [capturesFrom, matched]
      dsimp only
      rw [List.filterMap_cons_some edits, List.flatten_cons, length, ih, whole, slotSpans_append,
        List.take_zero, byteLength_nil, Nat.add_zero]
  | case4 c rest found ih =>
      have first := form.head?_ways group module before (c :: rest)
      rw [isFound, found, Option.map_none, Option.map_eq_none_iff] at first
      rw [capturesFrom, first]
      dsimp only
      simp only [ih, slotSpans, List.take_zero, byteLength_cons, byteLength_nil, Nat.add_zero]
      rw [Nat.add_comm c.utf8Size]

/-- What the matches capture are the slots of the line's parts. -/
theorem flatten_editsOn (form : Form) (group module line : Text) :
    (form.editsOn group module line).flatten = slotSpans 0 (form.partsOf group module line) := by
  rw [editsOn, captures, flatten_capturesFrom, List.take_zero, byteLength_nil]
  rfl

end Form

/-! Other text in place of the spans. -/

/-- The line with its spans filled, from the byte `last` on.  There is none if a span does not begin
behind the one before it, reaches beyond the line or cuts through a character. -/
def exchange? (fill : Slot → Text) (line : Text) :
    (last : Nat) → List (Slot × Span) → Option Text
  | last, [] => Span.slice? ⟨last, byteLength line⟩ line
  | last, edit :: rest => do
      let kept ← Span.slice? ⟨last, edit.2.start⟩ line
      let others ← exchange? fill line edit.2.stop rest
      return kept ++ (fill edit.1 ++ others)

theorem exchange?_slotSpans (fill : Slot → Text) {line : Text} {parts : List Part}
    (before kept : Text) (whole : line = before ++ kept ++ parts.flatMap Part.old) :
    exchange? fill line (byteLength before) (slotSpans (byteLength (before ++ kept)) parts) =
      some (kept ++ parts.flatMap (Part.filled fill)) := by
  have slice : Span.slice? ⟨byteLength before, byteLength (before ++ kept)⟩ line = some kept :=
    Span.slice?_eq_some.mpr ⟨before, parts.flatMap Part.old, whole, rfl, rfl⟩
  induction parts generalizing before kept with
  | nil =>
      rw [List.flatMap_nil, List.append_nil] at whole
      rw [slotSpans, exchange?, List.flatMap_nil, List.append_nil, whole]
      rwa [whole] at slice
  | cons part rest ih =>
      cases part with
      | kept text =>
          have longer := ih before (kept ++ text) (by simp [whole, Part.old])
            (Span.slice?_eq_some.mpr ⟨before, rest.flatMap Part.old, by simp [whole, Part.old], rfl,
              rfl⟩)
          rw [slotSpans, ← byteLength_append, List.append_assoc, longer]
          simp [Part.filled]
      | slot role old =>
          have later := ih (before ++ kept ++ old) [] (by simp [whole, Part.old])
            (Span.slice?_eq_some.mpr ⟨before ++ kept ++ old, rest.flatMap Part.old,
              by simp [whole, Part.old], rfl, rfl⟩)
          rw [List.append_nil, byteLength_append, List.nil_append] at later
          rw [slotSpans, exchange?, slice]
          dsimp only [Option.bind_eq_bind, Option.bind_some]
          rw [later]
          simp [Part.filled]

/-- A span of a line, its text, the text that takes its place, and what is kept behind it. -/
structure Exchange where
  span : Span
  old : Text
  new : Text
  kept : Text

namespace Exchange

def oldText (exchange : Exchange) : Text :=
  exchange.old ++ exchange.kept

def newText (exchange : Exchange) : Text :=
  exchange.new ++ exchange.kept

end Exchange

/-- The text in front of the first slot, and the slots with the text behind each of them. -/
def exchangesFrom (fill : Slot → Text) : (start : Nat) → List Part → Text × List Exchange
  | _, [] => ([], [])
  | start, .kept text :: rest =>
      let others := exchangesFrom fill (start + byteLength text) rest
      (text ++ others.1, others.2)
  | start, .slot role old :: rest =>
      let others := exchangesFrom fill (start + byteLength old) rest
      ([], ⟨⟨start, start + byteLength old⟩, old, fill role, others.1⟩ :: others.2)

section Exchanges

variable (fill : Slot → Text)

theorem exchangesFrom_span (start : Nat) (parts : List Part) :
    (exchangesFrom fill start parts).2.map Exchange.span =
      (slotSpans start parts).map Prod.snd := by
  induction parts generalizing start with
  | nil => rfl
  | cons part rest ih => cases part <;> simp [exchangesFrom, slotSpans, ih]

theorem exchangesFrom_texts (start : Nat) (parts : List Part) :
    (exchangesFrom fill start parts).2.map (fun exchange => (exchange.old, exchange.new)) =
      (parts.filterMap Part.slot?).map fun slot => (slot.2, fill slot.1) := by
  induction parts generalizing start with
  | nil => rfl
  | cons part rest ih =>
      cases part <;> simp [exchangesFrom, List.filterMap_cons, Part.slot?, ih]

theorem exchangesFrom_old (start : Nat) (parts : List Part) :
    (exchangesFrom fill start parts).1 ++
      (exchangesFrom fill start parts).2.flatMap Exchange.oldText = parts.flatMap Part.old := by
  induction parts generalizing start with
  | nil => rfl
  | cons part rest ih => cases part <;> simp [exchangesFrom, Part.old, Exchange.oldText, ih]

theorem exchangesFrom_new (start : Nat) (parts : List Part) :
    (exchangesFrom fill start parts).1 ++
      (exchangesFrom fill start parts).2.flatMap Exchange.newText =
        parts.flatMap (Part.filled fill) := by
  induction parts generalizing start with
  | nil => rfl
  | cons part rest ih => cases part <;> simp [exchangesFrom, Part.filled, Exchange.newText, ih]

/-- Each span holds its old text, and all of them stand at `start` or behind it. -/
theorem exchangesFrom_slices {line : Text} (before : Text) {parts : List Part}
    (whole : line = before ++ parts.flatMap Part.old) :
    ∀ exchange ∈ (exchangesFrom fill (byteLength before) parts).2,
      exchange.span.slice? line = some exchange.old ∧ byteLength before ≤ exchange.span.start := by
  induction parts generalizing before with
  | nil => simp [exchangesFrom]
  | cons part rest ih =>
      rw [List.flatMap_cons, ← List.append_assoc] at whole
      have later := ih _ whole
      rw [byteLength_append] at later
      cases part with
      | kept text =>
          intro exchange member
          obtain ⟨slice, behind⟩ := later exchange member
          exact ⟨slice, Nat.le_trans (Nat.le_add_right _ _) behind⟩
      | slot role old =>
          refine List.forall_mem_cons.mpr ⟨⟨?_, Nat.le_refl _⟩, fun exchange member => ?_⟩
          · exact Span.slice?_eq_some.mpr
              ⟨before, rest.flatMap Part.old, whole, rfl, byteLength_append _ _⟩
          · obtain ⟨slice, behind⟩ := later exchange member
            exact ⟨slice, Nat.le_trans (Nat.le_add_right _ _) behind⟩

theorem exchangesFrom_pairwise {line : Text} (before : Text) {parts : List Part}
    (whole : line = before ++ parts.flatMap Part.old) :
    (exchangesFrom fill (byteLength before) parts).2.Pairwise fun first second =>
      first.span.stop ≤ second.span.start := by
  induction parts generalizing before with
  | nil => exact .nil
  | cons part rest ih =>
      rw [List.flatMap_cons, ← List.append_assoc] at whole
      have later := ih _ whole
      rw [byteLength_append] at later
      cases part with
      | kept text => exact later
      | slot role old =>
          refine .cons (fun exchange member => ?_) later
          have behind := (exchangesFrom_slices fill _ whole exchange
            (by rw [byteLength_append]; exact member)).2
          rwa [byteLength_append] at behind

end Exchanges

end Declaration

end Migration
