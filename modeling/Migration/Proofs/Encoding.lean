import Migration.Text.Utf8

namespace Migration.Utf8

/-! Strict UTF-8 read and written.

Every character is read from its own bytes, whatever follows them, and has no other bytes.  So
bytes are read as a text exactly if they are its encoding.
-/

section Bytes

variable {first second : UInt8}

theorem isContinuation_iff :
    isContinuation second = true ↔ 128 ≤ second.toNat ∧ second.toNat ≤ 191 := by
  simp only [isContinuation, Bool.and_eq_true, decide_eq_true_eq, UInt8.le_iff_toNat_le,
    UInt8.reduceToNat]

theorem secondOfThree_iff :
    secondOfThree first second = true ↔ (128 ≤ second.toNat ∧ second.toNat ≤ 191) ∧
      (first.toNat = 224 → 160 ≤ second.toNat) ∧ (first.toNat = 237 → second.toNat ≤ 159) := by
  simp only [secondOfThree, Bool.and_eq_true, decide_eq_true_eq, UInt8.le_iff_toNat_le,
    ← UInt8.toNat_inj, UInt8.reduceToNat, apply_ite UInt8.toNat]
  split <;> split <;> omega

theorem secondOfFour_iff :
    secondOfFour first second = true ↔ (128 ≤ second.toNat ∧ second.toNat ≤ 191) ∧
      (first.toNat = 240 → 144 ≤ second.toNat) ∧ (first.toNat = 244 → second.toNat ≤ 143) := by
  simp only [secondOfFour, Bool.and_eq_true, decide_eq_true_eq, UInt8.le_iff_toNat_le,
    ← UInt8.toNat_inj, UInt8.reduceToNat, apply_ite UInt8.toNat]
  split <;> split <;> omega

theorem between_iff {low high : UInt8} :
    (low ≤ first && first ≤ high) = true ↔
      low.toNat ≤ first.toNat ∧ first.toNat ≤ high.toNat := by
  simp only [Bool.and_eq_true, decide_eq_true_eq, UInt8.le_iff_toNat_le]

theorem not_ascii {low high : UInt8} (above : 0x80 ≤ low)
    (between : (low ≤ first && first ≤ high) = true) : ¬ first < 0x80 := by
  rw [between_iff] at between
  rw [UInt8.le_iff_toNat_le] at above
  rw [UInt8.lt_iff_toNat_lt]
  omega

theorem between_disjoint {low high top : UInt8} (above : top < low)
    (between : (low ≤ first && first ≤ high) = true) (bottom : UInt8) :
    (bottom ≤ first && first ≤ top) = false := by
  rw [between_iff] at between
  rw [UInt8.lt_iff_toNat_lt] at above
  rw [Bool.eq_false_iff, ne_eq, between_iff]
  omega

end Bytes

/-! One character. -/

theorem toNat_ofNat {code : Nat} (small : code < 256) : (UInt8.ofNat code).toNat = code := by
  rw [UInt8.toNat_ofNat']
  omega

theorem ofNat_eq_of_toNat {code : Nat} {byte : UInt8} (same : byte.toNat = code) :
    UInt8.ofNat code = byte := by
  rw [← same, UInt8.ofNat_toNat]

theorem utf8EncodeChar_ofNat {code : Nat} (valid : code.isValidChar) :
    String.utf8EncodeChar (Char.ofNat code) =
      if code ≤ 127 then [UInt8.ofNat code]
      else if code ≤ 2047 then
        [UInt8.ofNat (code / 64 % 32 + 192), UInt8.ofNat (code % 64 + 128)]
      else if code ≤ 65535 then
        [UInt8.ofNat (code / 4096 % 16 + 224), UInt8.ofNat (code / 64 % 64 + 128),
          UInt8.ofNat (code % 64 + 128)]
      else
        [UInt8.ofNat (code / 262144 % 8 + 240), UInt8.ofNat (code / 4096 % 64 + 128),
          UInt8.ofNat (code / 64 % 64 + 128), UInt8.ofNat (code % 64 + 128)] := by
  have back : (Char.ofNat code).val.toNat = code := by
    rw [Char.ofNat, dif_pos valid]
    rfl
  simp only [String.utf8EncodeChar, back]

/-- The bytes of a character, with what is read from them. -/
inductive Reads : List UInt8 → Char → Prop
  | one {first : UInt8} (low : first < 0x80) : Reads [first] (Char.ofNat first.toNat)
  | two {first second : UInt8} (lead : (0xC2 ≤ first && first ≤ 0xDF) = true)
      (follows : isContinuation second = true) :
      Reads [first, second] (Char.ofNat (payload first 32 * 64 + payload second 64))
  | three {first second third : UInt8} (lead : (0xE0 ≤ first && first ≤ 0xEF) = true)
      (follows : secondOfThree first second = true) (last : isContinuation third = true) :
      Reads [first, second, third]
        (Char.ofNat ((payload first 16 * 64 + payload second 64) * 64 + payload third 64))
  | four {first second third fourth : UInt8} (lead : (0xF0 ≤ first && first ≤ 0xF4) = true)
      (follows : secondOfFour first second = true) (next : isContinuation third = true)
      (last : isContinuation fourth = true) :
      Reads [first, second, third, fourth]
        (Char.ofNat (((payload first 8 * 64 + payload second 64) * 64 + payload third 64) * 64 +
          payload fourth 64))

/-- What is read from bytes has no other bytes. -/
theorem Reads.utf8EncodeChar {bytes : List UInt8} {c : Char} (reads : Reads bytes c) :
    String.utf8EncodeChar c = bytes := by
  cases reads with
  | @one first low =>
      have small : first.toNat < 128 := UInt8.lt_iff_toNat_lt.mp low
      rw [utf8EncodeChar_ofNat (.inl (by omega)), if_pos (by omega), UInt8.ofNat_toNat]
  | @two first second lead follows =>
      rw [between_iff] at lead
      rw [isContinuation_iff] at follows
      simp only [UInt8.reduceToNat] at lead
      simp only [payload]
      rw [utf8EncodeChar_ofNat (.inl (by omega)), if_neg (by omega), if_pos (by omega),
        ofNat_eq_of_toNat (show first.toNat = _ by omega),
        ofNat_eq_of_toNat (show second.toNat = _ by omega)]
  | @three first second third lead follows last =>
      rw [between_iff] at lead
      rw [secondOfThree_iff] at follows
      rw [isContinuation_iff] at last
      simp only [UInt8.reduceToNat] at lead
      simp only [payload]
      rw [utf8EncodeChar_ofNat (by rw [Nat.isValidChar]; omega), if_neg (by omega),
        if_neg (by omega), if_pos (by omega),
        ofNat_eq_of_toNat (show first.toNat = _ by omega),
        ofNat_eq_of_toNat (show second.toNat = _ by omega),
        ofNat_eq_of_toNat (show third.toNat = _ by omega)]
  | @four first second third fourth lead follows next last =>
      rw [between_iff] at lead
      rw [secondOfFour_iff] at follows
      rw [isContinuation_iff] at next last
      simp only [UInt8.reduceToNat] at lead
      simp only [payload]
      rw [utf8EncodeChar_ofNat (by rw [Nat.isValidChar]; omega), if_neg (by omega),
        if_neg (by omega), if_neg (by omega),
        ofNat_eq_of_toNat (show first.toNat = _ by omega),
        ofNat_eq_of_toNat (show second.toNat = _ by omega),
        ofNat_eq_of_toNat (show third.toNat = _ by omega),
        ofNat_eq_of_toNat (show fourth.toNat = _ by omega)]

theorem payload_ofNat {code lead size : Nat} (small : code < size) (fits : code + lead < 256)
    (multiple : size ∣ lead) : payload (UInt8.ofNat (code + lead)) size = code := by
  obtain ⟨times, rfl⟩ := multiple
  rw [payload, toNat_ofNat fits, Nat.add_mul_mod_self_left, Nat.mod_eq_of_lt small]

theorem isContinuation_ofNat {code : Nat} :
    isContinuation (UInt8.ofNat (code % 64 + 128)) = true := by
  rw [isContinuation_iff, toNat_ofNat (by omega)]
  omega

theorem between_ofNat {code : Nat} {low high : UInt8} (fits : code < 256)
    (range : low.toNat ≤ code ∧ code ≤ high.toNat) :
    (low ≤ UInt8.ofNat code && UInt8.ofNat code ≤ high) = true := by
  rwa [between_iff, toNat_ofNat fits]

/-- And every character is read from its bytes. -/
theorem reads_utf8EncodeChar (c : Char) : Reads (String.utf8EncodeChar c) c := by
  have valid : c.val.toNat < 0xD800 ∨ 0xDFFF < c.val.toNat ∧ c.val.toNat < 0x110000 := c.valid
  have back : Char.ofNat c.val.toNat = c := Char.ofNat_toNat c
  rw [String.utf8EncodeChar]
  generalize c.val.toNat = code at valid back
  subst back
  split
  · have low : UInt8.ofNat code < 0x80 := by
      rw [UInt8.lt_iff_toNat_lt, toNat_ofNat (by omega)]
      exact Nat.lt_of_le_of_lt (by assumption) (by decide)
    have reads := Reads.one low
    rwa [toNat_ofNat (by omega)] at reads
  · split
    · have whole : code / 64 % 32 * 64 + code % 64 = code := by omega
      have reads := Reads.two
        (@between_ofNat (code / 64 % 32 + 192) 0xC2 0xDF (by omega)
          (by simp only [UInt8.reduceToNat]; omega))
        (@isContinuation_ofNat code)
      rwa [payload_ofNat (by omega) (by omega) (by decide),
        payload_ofNat (by omega) (by omega) (by decide), whole] at reads
    · split
      · have whole : (code / 4096 % 16 * 64 + code / 64 % 64) * 64 + code % 64 = code := by omega
        have follows : secondOfThree (UInt8.ofNat (code / 4096 % 16 + 224))
            (UInt8.ofNat (code / 64 % 64 + 128)) = true := by
          rw [secondOfThree_iff, toNat_ofNat (by omega), toNat_ofNat (by omega)]
          omega
        have reads := Reads.three
          (@between_ofNat (code / 4096 % 16 + 224) 0xE0 0xEF (by omega)
            (by simp only [UInt8.reduceToNat]; omega))
          follows (@isContinuation_ofNat code)
        rwa [payload_ofNat (by omega) (by omega) (by decide),
          payload_ofNat (by omega) (by omega) (by decide),
          payload_ofNat (by omega) (by omega) (by decide), whole] at reads
      · have whole : ((code / 262144 % 8 * 64 + code / 4096 % 64) * 64 + code / 64 % 64) * 64 +
            code % 64 = code := by omega
        have follows : secondOfFour (UInt8.ofNat (code / 262144 % 8 + 240))
            (UInt8.ofNat (code / 4096 % 64 + 128)) = true := by
          rw [secondOfFour_iff, toNat_ofNat (by omega), toNat_ofNat (by omega)]
          omega
        have reads := Reads.four
          (@between_ofNat (code / 262144 % 8 + 240) 0xF0 0xF4 (by omega)
            (by simp only [UInt8.reduceToNat]; omega))
          follows (@isContinuation_ofNat (code / 64)) (@isContinuation_ofNat code)
        rwa [payload_ofNat (by omega) (by omega) (by decide),
          payload_ofNat (by omega) (by omega) (by decide),
          payload_ofNat (by omega) (by omega) (by decide),
          payload_ofNat (by omega) (by omega) (by decide), whole] at reads

/-! Whole texts. -/

theorem decodeFrom_reads {bytes : List UInt8} {c : Char} (reads : Reads bytes c) (done : Text)
    (index : Nat) (rest : List UInt8) :
    decodeFrom done index (bytes ++ rest) =
      decodeFrom (c :: done) (index + bytes.length) rest := by
  cases reads with
  | one low =>
      rw [List.singleton_append, decodeFrom.eq_def]
      simp only [low, if_true]
      rfl
  | two lead follows =>
      have high := not_ascii (by decide) lead
      simp only [List.cons_append, List.nil_append]
      rw [decodeFrom.eq_def]
      simp only [lead, follows, high, if_true, if_false]
      rfl
  | three lead follows last =>
      have high := not_ascii (by decide) lead
      have notTwo := between_disjoint (show (0xDF : UInt8) < 0xE0 by decide) lead 0xC2
      simp only [List.cons_append, List.nil_append]
      rw [decodeFrom.eq_def]
      simp only [lead, follows, last, high, notTwo, if_true, if_false, Bool.false_eq_true]
      rfl
  | four lead follows next last =>
      have high := not_ascii (by decide) lead
      have notTwo := between_disjoint (show (0xDF : UInt8) < 0xF0 by decide) lead 0xC2
      have notThree := between_disjoint (show (0xEF : UInt8) < 0xF0 by decide) lead 0xE0
      simp only [List.cons_append, List.nil_append]
      rw [decodeFrom.eq_def]
      simp only [lead, follows, next, last, high, notTwo, notThree, if_true, if_false,
        Bool.false_eq_true]
      rfl

theorem encode_cons (c : Char) (text : Text) :
    encode (c :: text) = String.utf8EncodeChar c ++ encode text := rfl

theorem utf8ByteSize_str (text : Text) :
    text.str.utf8ByteSize = text.foldr (fun c size => c.utf8Size + size) 0 := by
  induction text with
  | nil => rfl
  | cons c rest ih =>
      have size : (Text.str [c]).utf8ByteSize = c.utf8Size := String.utf8ByteSize_singleton
      rw [Text.str] at ih size
      rw [Text.str, ← List.singleton_append, String.ofList_append, String.utf8ByteSize_append, size,
        ih]
      rfl

theorem utf8ByteSize_append (first rest : Text) :
    (Text.str (first ++ rest)).utf8ByteSize = first.str.utf8ByteSize + rest.str.utf8ByteSize := by
  rw [Text.str, String.ofList_append, String.utf8ByteSize_append]
  rfl

theorem utf8ByteSize_replicate (count : Nat) (c : Char) :
    (Text.str (List.replicate count c)).utf8ByteSize = count * c.utf8Size := by
  rw [utf8ByteSize_str]
  induction count with
  | zero => rw [Nat.zero_mul]; rfl
  | succ count ih => rw [List.replicate_succ, List.foldr_cons, ih, Nat.succ_mul, Nat.add_comm]

theorem length_encode (text : Text) : (encode text).length = text.str.utf8ByteSize := by
  rw [utf8ByteSize_str]
  induction text with
  | nil => rfl
  | cons c rest ih =>
      rw [encode_cons, List.length_append, String.length_utf8EncodeChar, ih, List.foldr_cons]

theorem decodeFrom_encode (done : Text) (index : Nat) (text : Text) :
    decodeFrom done index (encode text) = .ok (done.reverse ++ text) := by
  induction text generalizing done index with
  | nil => simp [encode, decodeFrom]
  | cons c text ih =>
      rw [encode_cons, decodeFrom_reads (reads_utf8EncodeChar c), ih]
      simp

theorem Reads.extend {c : Char} {start bytes : List UInt8} (reads : Reads start c)
    {done text : Text}
    (later : ∃ rest, text = (c :: done).reverse ++ rest ∧ encode rest = bytes) :
    ∃ rest, text = done.reverse ++ rest ∧ encode rest = start ++ bytes := by
  obtain ⟨rest, whole, encoded⟩ := later
  refine ⟨c :: rest, by simpa using whole, ?_⟩
  rw [encode_cons, reads.utf8EncodeChar, encoded]

theorem decodeFrom_eq_ok {done text : Text} {index : Nat} {bytes : List UInt8}
    (read : decodeFrom done index bytes = .ok text) :
    ∃ rest, text = done.reverse ++ rest ∧ encode rest = bytes := by
  fun_induction decodeFrom done index bytes with
  | case1 =>
      cases read
      exact ⟨[], by simp, rfl⟩
  | case2 done index first rest low ih => exact (Reads.one low).extend (ih read)
  | case4 done index first _ lead second rest follows ih =>
      exact (Reads.two lead follows).extend (ih read)
  | case8 done index first _ _ lead second follows third rest last ih =>
      exact (Reads.three lead follows last).extend (ih read)
  | case14 done index first _ _ _ lead second follows third next fourth rest last ih =>
      exact (Reads.four lead follows next last).extend (ih read)
  | _ => cases read

theorem decode_encode (text : Text) : decode (encode text) = .ok text :=
  decodeFrom_encode [] 0 text

/-- Bytes are read as a text exactly if they are its encoding. -/
theorem decode_eq_ok {bytes : List UInt8} {text : Text} :
    decode bytes = .ok text ↔ encode text = bytes := by
  constructor
  · intro read
    obtain ⟨rest, rfl, encoded⟩ := decodeFrom_eq_ok read
    exact encoded
  · rintro rfl
    exact decode_encode text

end Migration.Utf8
