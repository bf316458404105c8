import Migration.Proofs.CharacterBytes

namespace Migration.Utf8

/-! Where bytes stop being text.

Bytes that are no encoding are an encoded text and bytes at which no character can be read: either
they end inside a character, or a byte comes that no character has there.  Both are said without the
decoder, so that the place where it stops is the end of all text at the front.
-/

/-- The bytes are the beginning of a character, or nothing at all. -/
def Starts (bytes : List UInt8) : Prop :=
  ∃ c more, more ≠ [] ∧ String.utf8EncodeChar c = bytes ++ more

/-- No character can be read at the front of the bytes.  The width counts the bytes up to the one
that breaks off, and that one if it is the first; there is none if the bytes end too early. -/
inductive Stuck : List UInt8 → Option Nat → Prop
  | ended {bytes : List UInt8} (some : bytes ≠ []) (starts : Starts bytes) : Stuck bytes none
  | broken {front : List UInt8} {byte : UInt8} (starts : Starts front)
      (breaks : ∀ c, ¬ front ++ [byte] <+: String.utf8EncodeChar c) (rest : List UInt8) :
      Stuck (front ++ byte :: rest) (some (max 1 front.length))

section Starts

variable {first second third byte : UInt8} {front : List UInt8}

theorem Starts.nil : Starts [] :=
  ⟨'a', [97], by simp, rfl⟩

theorem Starts.dropLast (front : List UInt8) (starts : Starts (front ++ [byte])) :
    Starts front := by
  obtain ⟨c, more, _, bytes⟩ := starts
  exact ⟨c, byte :: more, by simp, by simp [bytes]⟩

theorem Reads.starts (front : List UInt8) {c : Char} (reads : Reads (front ++ [byte]) c) :
    Starts front :=
  ⟨c, [byte], by simp, reads.utf8EncodeChar⟩

theorem starts_one_of_two (lead : (0xC2 ≤ first && first ≤ 0xDF) = true) : Starts [first] :=
  (@Reads.two first 0x80 lead (by decide)).starts [first]

theorem starts_two_of_three (lead : (0xE0 ≤ first && first ≤ 0xEF) = true)
    (follows : secondOfThree first second = true) : Starts [first, second] :=
  (@Reads.three first second 0x80 lead follows (by decide)).starts [first, second]

theorem starts_one_of_three (lead : (0xE0 ≤ first && first ≤ 0xEF) = true) : Starts [first] := by
  have follows : ∃ second, secondOfThree first second = true := by
    by_cases least : first = 0xE0
    · exact ⟨0xA0, by rw [least]; decide⟩
    · refine ⟨0x80, secondOfThree_iff.mpr ⟨by decide, ?_, fun _ => by decide⟩⟩
      exact fun same => absurd (UInt8.toNat_inj.mp same) least
  obtain ⟨second, follows⟩ := follows
  exact (starts_two_of_three lead follows).dropLast [first]

theorem starts_three_of_four (lead : (0xF0 ≤ first && first ≤ 0xF4) = true)
    (follows : secondOfFour first second = true) (next : isContinuation third = true) :
    Starts [first, second, third] :=
  (@Reads.four first second third 0x80 lead follows next (by decide)).starts
    [first, second, third]

theorem starts_two_of_four (lead : (0xF0 ≤ first && first ≤ 0xF4) = true)
    (follows : secondOfFour first second = true) : Starts [first, second] :=
  (@starts_three_of_four first second 0x80 lead follows (by decide)).dropLast
    [first, second]

theorem starts_one_of_four (lead : (0xF0 ≤ first && first ≤ 0xF4) = true) : Starts [first] := by
  have follows : ∃ second, secondOfFour first second = true := by
    by_cases least : first = 0xF0
    · exact ⟨0x90, by rw [least]; decide⟩
    · refine ⟨0x80, secondOfFour_iff.mpr ⟨by decide, ?_, fun _ => by decide⟩⟩
      exact fun same => absurd (UInt8.toNat_inj.mp same) least
  obtain ⟨second, follows⟩ := follows
  exact (starts_two_of_four lead follows).dropLast [first]

/-- Bytes that are refused whatever follows them begin no character. -/
theorem Stuck.of_refused (starts : Starts front)
    (refused : ∀ more, decodeFrom [] 0 (front ++ byte :: more) =
      .error ⟨0, some (max 1 front.length)⟩)
    (rest : List UInt8) : Stuck (front ++ byte :: rest) (some (max 1 front.length)) := by
  refine .broken starts ?_ rest
  rintro c ⟨more, whole⟩
  have read := decodeFrom_encode [] 0 [c]
  rw [encode_cons, ← whole] at read
  simp only [encode, List.flatMap_nil, List.append_nil, List.append_assoc,
    List.singleton_append] at read
  rw [refused] at read
  cases read

end Starts

theorem Reads.exists_stuck {c : Char} {start bytes : List UInt8} (reads : Reads start c)
    {index : Nat} {fault : Fault}
    (later : ∃ valid rest, bytes = encode valid ++ rest ∧
      fault.index = index + start.length + (encode valid).length ∧ Stuck rest fault.width) :
    ∃ valid rest, start ++ bytes = encode valid ++ rest ∧
      fault.index = index + (encode valid).length ∧ Stuck rest fault.width := by
  obtain ⟨valid, rest, rfl, counted, stuck⟩ := later
  refine ⟨c :: valid, rest, ?_, ?_, stuck⟩
  · rw [encode_cons, reads.utf8EncodeChar, List.append_assoc]
  · rw [encode_cons, reads.utf8EncodeChar, List.length_append]
    omega

theorem exists_stuck {index : Nat} {bytes : List UInt8} {width : Option Nat}
    (stuck : Stuck bytes width) :
    ∃ valid rest, bytes = encode valid ++ rest ∧ index = index + (encode valid).length ∧
      Stuck rest width :=
  ⟨[], bytes, rfl, rfl, stuck⟩

/-- What is refused is an encoded text up to the reported place, with bytes behind it that no
character can be read from. -/
theorem decodeFrom_eq_error {done : Text} {index : Nat} {bytes : List UInt8} {fault : Fault}
    (failed : decodeFrom done index bytes = .error fault) :
    ∃ valid rest, bytes = encode valid ++ rest ∧
      fault.index = index + (encode valid).length ∧ Stuck rest fault.width := by
  fun_induction decodeFrom done index bytes with
  | case1 => cases failed
  | case2 done index first rest low ih => exact (Reads.one low).exists_stuck (ih failed)
  | case3 done index first _ lead =>
      cases failed
      exact exists_stuck (.ended (by simp) (starts_one_of_two lead))
  | case4 done index first _ lead second rest follows ih =>
      exact (Reads.two lead follows).exists_stuck (ih failed)
  | case5 done index first high lead second rest breaks =>
      cases failed
      refine exists_stuck (.of_refused (starts_one_of_two lead) (fun more => ?_) rest)
      rw [decodeFrom.eq_def]
      simp [high, lead, breaks]
  | case6 done index first _ _ lead =>
      cases failed
      exact exists_stuck (.ended (by simp) (starts_one_of_three lead))
  | case7 done index first _ _ lead second follows =>
      cases failed
      exact exists_stuck (.ended (by simp) (starts_two_of_three lead follows))
  | case8 done index first _ _ lead second follows third rest last ih =>
      exact (Reads.three lead follows last).exists_stuck (ih failed)
  | case9 done index first high notTwo lead second follows third rest breaks =>
      cases failed
      refine exists_stuck (.of_refused (starts_two_of_three lead follows) (fun more => ?_) rest)
      rw [decodeFrom.eq_def]
      simp [high, notTwo, lead, follows, breaks]
  | case10 done index first high notTwo lead second rest breaks =>
      cases failed
      refine exists_stuck (.of_refused (starts_one_of_three lead) (fun more => ?_) rest)
      rw [decodeFrom.eq_def]
      simp [high, notTwo, lead, breaks]
  | case11 done index first _ _ _ lead =>
      cases failed
      exact exists_stuck (.ended (by simp) (starts_one_of_four lead))
  | case12 done index first _ _ _ lead second follows =>
      cases failed
      exact exists_stuck (.ended (by simp) (starts_two_of_four lead follows))
  | case13 done index first _ _ _ lead second follows third next =>
      cases failed
      exact exists_stuck (.ended (by simp) (starts_three_of_four lead follows next))
  | case14 done index first _ _ _ lead second follows third next fourth rest last ih =>
      exact (Reads.four lead follows next last).exists_stuck (ih failed)
  | case15 done index first high notTwo notThree lead second follows third next fourth rest
      breaks =>
      cases failed
      refine exists_stuck
        (.of_refused (starts_three_of_four lead follows next) (fun more => ?_) rest)
      rw [decodeFrom.eq_def]
      simp [high, notTwo, notThree, lead, follows, next, breaks]
  | case16 done index first high notTwo notThree lead second follows third rest breaks =>
      cases failed
      refine exists_stuck (.of_refused (starts_two_of_four lead follows) (fun more => ?_) rest)
      rw [decodeFrom.eq_def]
      simp [high, notTwo, notThree, lead, follows, breaks]
  | case17 done index first high notTwo notThree lead second rest breaks =>
      cases failed
      refine exists_stuck (.of_refused (starts_one_of_four lead) (fun more => ?_) rest)
      rw [decodeFrom.eq_def]
      simp [high, notTwo, notThree, lead, breaks]
  | case18 done index first rest high notTwo notThree notFour =>
      cases failed
      refine exists_stuck (.of_refused Starts.nil (fun more => ?_) rest)
      rw [decodeFrom.eq_def]
      simp [high, notTwo, notThree, notFour]

theorem decode_eq_error {bytes : List UInt8} {fault : Fault}
    (failed : decode bytes = .error fault) :
    ∃ valid rest, bytes = encode valid ++ rest ∧ fault.index = (encode valid).length ∧
      Stuck rest fault.width := by
  simpa using decodeFrom_eq_error failed

/-! What can be said about bytes that no character can be read from. -/

section Stuck

variable {bytes : List UInt8} {width : Option Nat}

theorem Starts.no_character (starts : Starts bytes) (c : Char) :
    ¬ String.utf8EncodeChar c <+: bytes := by
  rintro ⟨behind, rfl⟩
  obtain ⟨d, more, some, whole⟩ := starts
  rw [List.append_assoc] at whole
  obtain ⟨_, nothing⟩ := eq_of_encodeChar_append whole.symm
  exact some (List.append_eq_nil_iff.mp nothing).2

theorem Stuck.no_character (stuck : Stuck bytes width) (c : Char) :
    ¬ String.utf8EncodeChar c <+: bytes := by
  cases stuck with
  | ended _ starts => exact starts.no_character c
  | @broken front byte starts breaks rest =>
      rintro ⟨behind, whole⟩
      rcases List.append_eq_append_iff.mp whole with ⟨more, longer, _⟩ | ⟨more, longer, ends⟩
      · exact starts.no_character c ⟨more, longer.symm⟩
      · cases more with
        | nil => exact starts.no_character c ⟨[], by simpa using longer⟩
        | cons other more =>
            refine breaks c ⟨more, ?_⟩
            rw [longer, (List.cons.inj ends).1]
            simp

/-- No longer text can be read than the one in front. -/
theorem Stuck.prefix_of_encode (stuck : Stuck bytes width) {text valid : Text}
    (read : encode text <+: encode valid ++ bytes) : text <+: valid := by
  induction text generalizing valid with
  | nil => exact List.nil_prefix
  | cons c text ih =>
      obtain ⟨behind, whole⟩ := read
      rw [encode_cons, List.append_assoc] at whole
      cases valid with
      | nil => exact absurd ⟨_, whole⟩ (stuck.no_character c)
      | cons d valid =>
          rw [encode_cons, List.append_assoc] at whole
          obtain ⟨rfl, rest⟩ := encodeChar_append_inj whole
          exact List.cons_prefix_cons.mpr ⟨rfl, ih ⟨behind, rest⟩⟩

theorem Stuck.ne_nil (stuck : Stuck bytes width) : bytes ≠ [] := by
  cases stuck with
  | ended some _ => exact some
  | broken => simp

/-- There is no width exactly if text could still come of the bytes. -/
theorem Stuck.width_eq_none_iff (stuck : Stuck bytes width) :
    width = none ↔ ∃ text more, more ≠ [] ∧ encode text = bytes ++ more := by
  constructor
  · rintro rfl
    obtain ⟨_, c, more, some, whole⟩ := stuck
    exact ⟨[c], more, some, by simpa [encode] using whole⟩
  · rintro ⟨text, more, some, whole⟩
    have stopped := stuck.no_character
    cases stuck with
    | ended => rfl
    | @broken front byte starts breaks rest =>
        exfalso
        cases text with
        | nil => simp [encode] at whole
        | cons c text =>
            rw [encode_cons] at whole
            rcases List.append_eq_append_iff.mp whole with ⟨left, longer, _⟩ | ⟨left, longer, _⟩
            · exact stopped c ⟨left, longer.symm⟩
            · exact breaks c ⟨rest ++ left, by simp [longer]⟩

theorem Stuck.width_bounds {size : Nat} (stuck : Stuck bytes (some size)) :
    1 ≤ size ∧ size ≤ 3 := by
  obtain _ | @⟨front, byte, starts, breaks, rest⟩ := stuck
  obtain ⟨c, more, someMore, whole⟩ := starts
  obtain ⟨lead, behind, bytes, _, _, short⟩ := exists_lead c
  have sizes := congrArg List.length (bytes.symm.trans whole)
  rw [List.length_cons, List.length_append] at sizes
  have positive := List.length_pos_iff.mpr someMore
  omega

end Stuck

/-- A fault tells how bytes that are no encoding fail to be one. -/
structure Fault.Exact (fault : Fault) (bytes : List UInt8) (valid : Text) : Prop where
  readable : encode valid = bytes.take fault.index
  within : fault.index < bytes.length
  longest : ∀ text, encode text <+: bytes → (encode text).length ≤ fault.index
  incomplete : fault.width = none ↔
    ∃ text more, more ≠ [] ∧ encode text = bytes.drop fault.index ++ more
  short : ∀ size, fault.width = some size → 1 ≤ size ∧ size ≤ 3

theorem exact_of_decode_eq_error {bytes : List UInt8} {fault : Fault}
    (failed : decode bytes = .error fault) : ∃ valid, fault.Exact bytes valid := by
  obtain ⟨valid, rest, rfl, index, stuck⟩ := decode_eq_error failed
  refine ⟨valid, ?_, ?_, ?_, ?_, ?_⟩
  · rw [index, List.take_left]
  · rw [index, List.length_append]
    exact Nat.lt_add_of_pos_right (List.length_pos_iff.mpr stuck.ne_nil)
  · intro text read
    obtain ⟨more, rfl⟩ := stuck.prefix_of_encode read
    rw [index, encode_append, List.length_append]
    exact Nat.le_add_right _ _
  · rw [index, List.drop_left]
    exact stuck.width_eq_none_iff
  · intro size isSize
    exact Stuck.width_bounds (isSize ▸ stuck)

end Migration.Utf8
