import Migration.Proofs.Encoding

namespace Migration.Utf8

/-! Where characters begin in encoded text.

The bytes of a character are a byte that continues no character, and bytes that do.  So the encoding
of one character never begins another one, and an encoded text can only be cut between characters.
-/

variable {c d : Char}

theorem encode_append (first second : Text) :
    encode (first ++ second) = encode first ++ encode second :=
  List.flatMap_append

theorem encode_injective {first second : Text} (same : encode first = encode second) :
    first = second := by
  have read : decode (encode second) = .ok first := decode_eq_ok.mpr same
  exact Except.ok.inj (read.symm.trans (decode_encode second))

theorem isContinuation_eq_false {byte : UInt8} :
    isContinuation byte = false ↔ byte.toNat < 128 ∨ 191 < byte.toNat := by
  rw [Bool.eq_false_iff, ne_eq, isContinuation_iff]
  omega

theorem Reads.exists_lead {bytes : List UInt8} (reads : Reads bytes c) :
    ∃ lead behind, bytes = lead :: behind ∧ isContinuation lead = false ∧
      (∀ byte ∈ behind, isContinuation byte = true) ∧ behind.length ≤ 3 := by
  cases reads with
  | @one first low =>
      rw [UInt8.lt_iff_toNat_lt] at low
      exact ⟨first, [], rfl, isContinuation_eq_false.mpr (.inl low), nofun, Nat.zero_le 3⟩
  | @two first second lead follows =>
      rw [between_iff] at lead
      simp only [UInt8.reduceToNat] at lead
      refine ⟨first, [second], rfl, isContinuation_eq_false.mpr (by omega), ?_, by simp⟩
      simpa using follows
  | @three first second third lead follows last =>
      rw [between_iff] at lead
      rw [secondOfThree_iff, ← isContinuation_iff] at follows
      simp only [UInt8.reduceToNat] at lead
      refine ⟨first, [second, third], rfl, isContinuation_eq_false.mpr (by omega), ?_, by simp⟩
      simpa using ⟨follows.1, last⟩
  | @four first second third fourth lead follows next last =>
      rw [between_iff] at lead
      rw [secondOfFour_iff, ← isContinuation_iff] at follows
      simp only [UInt8.reduceToNat] at lead
      refine ⟨first, [second, third, fourth], rfl, isContinuation_eq_false.mpr (by omega), ?_,
        by simp⟩
      simpa using ⟨follows.1, next, last⟩

theorem exists_lead (c : Char) :
    ∃ lead behind, String.utf8EncodeChar c = lead :: behind ∧ isContinuation lead = false ∧
      (∀ byte ∈ behind, isContinuation byte = true) ∧ behind.length ≤ 3 :=
  (reads_utf8EncodeChar c).exists_lead

theorem toNat_toUInt8 (small : c.toNat < 128) : c.toUInt8.toNat = c.toNat := by
  have cut : c.toUInt8.toNat = c.toNat % 256 := UInt32.toNat_toUInt8 c.val
  rw [cut, Nat.mod_eq_of_lt (Nat.lt_trans small (by decide))]

/-- A character below 128 is written as its own byte. -/
theorem encodeChar_small (small : c.toNat < 128) : String.utf8EncodeChar c = [c.toUInt8] := by
  have size : c.utf8Size = 1 := by
    rw [Char.utf8Size_eq_one_iff, UInt32.le_iff_toNat_le]
    exact Nat.le_of_lt_succ small
  rw [String.utf8EncodeChar_eq_singleton size, Char.toUInt8_val]

/-- And no other character has that byte. -/
theorem high_of_mem_encodeChar (big : 128 ≤ c.toNat) {byte : UInt8}
    (member : byte ∈ String.utf8EncodeChar c) : 128 ≤ byte.toNat := by
  have reads := reads_utf8EncodeChar c
  obtain ⟨lead, behind, bytes, _, continued, _⟩ := reads.exists_lead
  rw [bytes] at member reads
  rcases List.mem_cons.mp member with rfl | member
  · cases reads with
    | one low =>
        rw [UInt8.lt_iff_toNat_lt] at low
        have back : (Char.ofNat byte.toNat).toNat = byte.toNat := by
          rw [Char.ofNat, dif_pos (.inl (Nat.lt_trans low (by decide)))]
          rfl
        rwa [back] at big
    | two lead => rw [between_iff] at lead; exact Nat.le_trans (by decide) lead.1
    | three lead => rw [between_iff] at lead; exact Nat.le_trans (by decide) lead.1
    | four lead => rw [between_iff] at lead; exact Nat.le_trans (by decide) lead.1
  · exact (isContinuation_iff.mp (continued byte member)).1

theorem mem_encodeChar_iff (small : mark.toNat < 128) :
    mark.toUInt8 ∈ String.utf8EncodeChar c ↔ c = mark := by
  by_cases low : c.toNat < 128
  · rw [encodeChar_small low, List.mem_singleton, ← UInt8.toNat_inj, toNat_toUInt8 small,
      toNat_toUInt8 low, Char.toNat_inj]
    exact eq_comm
  · constructor
    · intro member
      have wide := high_of_mem_encodeChar (Nat.le_of_not_lt low) member
      rw [toNat_toUInt8 small] at wide
      omega
    · rintro rfl
      exact absurd small low

theorem eq_nil_of_encode_eq_nil {text : Text} (nothing : encode text = []) : text = [] :=
  encode_injective nothing

/-- What stands behind a character's bytes is all that stands behind them. -/
theorem eq_of_encodeChar_append {more : List UInt8}
    (same : String.utf8EncodeChar c ++ more = String.utf8EncodeChar d) : c = d ∧ more = [] := by
  have read : decodeFrom [] 0 (String.utf8EncodeChar c ++ more) = .ok [d] := by
    rw [same]
    simpa [encode] using decodeFrom_encode [] 0 [d]
  rw [decodeFrom_reads (reads_utf8EncodeChar c)] at read
  obtain ⟨rest, whole, encoded⟩ := decodeFrom_eq_ok read
  obtain ⟨sameChar, rfl⟩ : d = c ∧ rest = [] := by simpa using whole
  exact ⟨sameChar.symm, encoded.symm⟩

theorem encodeChar_append_inj {first second : List UInt8}
    (same : String.utf8EncodeChar c ++ first = String.utf8EncodeChar d ++ second) :
    c = d ∧ first = second := by
  rcases List.append_eq_append_iff.mp same with ⟨more, longer, rest⟩ | ⟨more, longer, rest⟩
  · obtain ⟨sameChar, rfl⟩ := eq_of_encodeChar_append longer.symm
    exact ⟨sameChar, by simpa using rest⟩
  · obtain ⟨sameChar, rfl⟩ := eq_of_encodeChar_append longer.symm
    exact ⟨sameChar.symm, by simpa using rest.symm⟩

/-- No text begins inside of a character. -/
theorem eq_nil_of_inside {before more behind : List UInt8} {text : Text} (begun : before ≠ [])
    (bytes : String.utf8EncodeChar c = before ++ more) (starts : encode text = more ++ behind) :
    more = [] := by
  cases more with
  | nil => rfl
  | cons byte more =>
      obtain ⟨first, before, rfl⟩ := List.exists_cons_of_ne_nil begun
      obtain ⟨_, rest, whole, _, continued, _⟩ := exists_lead c
      rw [bytes, List.cons_append, List.cons.injEq] at whole
      have continues := continued byte (by rw [← whole.2]; simp)
      cases text with
      | nil => cases starts
      | cons d text =>
          obtain ⟨lead, _, same, uncontinued, _⟩ := exists_lead d
          rw [encode_cons, same, List.cons_append, List.cons_append, List.cons.injEq] at starts
          rw [← starts.1, uncontinued] at continues
          cases continues

/-- Encoded text is cut between characters where its end is encoded text. -/
theorem exists_front_of_encode {text last : Text} {before : List UInt8}
    (cut : encode text = before ++ encode last) :
    ∃ front, text = front ++ last ∧ encode front = before := by
  induction text generalizing before with
  | nil =>
      obtain ⟨rfl, nothing⟩ := List.append_eq_nil_iff.mp cut.symm
      rw [eq_nil_of_encode_eq_nil nothing]
      exact ⟨[], rfl, rfl⟩
  | cons c rest ih =>
      by_cases begun : before = []
      · subst begun
        exact ⟨[], encode_injective cut, rfl⟩
      · have whole : ∃ later, before = String.utf8EncodeChar c ++ later ∧
            encode rest = later ++ encode last := by
          rw [encode_cons] at cut
          rcases List.append_eq_append_iff.mp cut with later | ⟨more, inside, starts⟩
          · exact later
          · obtain rfl := eq_nil_of_inside begun inside starts
            exact ⟨[], by rw [inside, List.append_nil, List.append_nil], starts.symm⟩
        obtain ⟨later, rfl, ends⟩ := whole
        obtain ⟨front, rfl, encoded⟩ := ih ends
        exact ⟨c :: front, rfl, by rw [encode_cons, encoded]⟩

/-- One text ends with another where their bytes do. -/
theorem encode_suffix_iff {text last : Text} : encode last <:+ encode text ↔ last <:+ text := by
  constructor
  · rintro ⟨before, cut⟩
    obtain ⟨front, rfl, _⟩ := exists_front_of_encode cut.symm
    exact List.suffix_append front last
  · rintro ⟨front, rfl⟩
    rw [encode_append]
    exact List.suffix_append _ _

end Migration.Utf8
