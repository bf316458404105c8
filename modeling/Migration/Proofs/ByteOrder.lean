import Migration.Proofs.Encoding

namespace Migration.Utf8

/-! Texts in the order of their bytes.

The first byte of a character tells how many there are, and greater characters have as many or
more.  So texts, which are compared character by character, stand in the order of their encodings.
-/

theorem lt_cons_iff {first second : Nat} (fits : first < 256) (secondFits : second < 256)
    (rest others : List UInt8) :
    UInt8.ofNat first :: rest < UInt8.ofNat second :: others ↔
      first < second ∨ first = second ∧ rest < others := by
  rw [List.cons_lt_cons_iff, UInt8.lt_iff_toNat_lt, ← UInt8.toNat_inj, toNat_ofNat fits,
    toNat_ofNat secondFits]

theorem utf8EncodeChar_lt {c d : Char} (less : c < d) (rest others : List UInt8) :
    String.utf8EncodeChar c ++ rest < String.utf8EncodeChar d ++ others := by
  have below : c.val.toNat < d.val.toNat := UInt32.lt_iff_toNat_lt.mp less
  have valid : d.val.toNat < 0xD800 ∨ 0xDFFF < d.val.toNat ∧ d.val.toNat < 0x110000 := d.valid
  simp only [String.utf8EncodeChar]
  generalize c.val.toNat = code at below ⊢
  generalize d.val.toNat = next at below valid ⊢
  have heads : code / 262144 % 8 < next / 262144 % 8 ∨ code / 262144 = next / 262144 := by omega
  split <;> repeat' split
  all_goals simp (disch := omega) only [List.cons_append, List.nil_append, lt_cons_iff]
  all_goals rcases heads with headLess | sameHead <;> omega

theorem nil_lt_utf8EncodeChar (c : Char) (rest : List UInt8) :
    [] < String.utf8EncodeChar c ++ rest := by
  rw [String.utf8EncodeChar]
  split <;> repeat' split
  all_goals exact List.nil_lt_cons _ _

/-- The order of texts is that of their bytes. -/
theorem encode_lt_of_compare {text other : Text} (less : compare text other = .lt) :
    encode text < encode other := by
  induction text generalizing other with
  | nil =>
      cases other with
      | nil => cases less
      | cons d other =>
          rw [encode_cons]
          exact nil_lt_utf8EncodeChar d _
  | cons c text ih =>
      cases other with
      | nil => cases less
      | cons d other =>
          rw [List.compare_cons_cons, Ordering.then_eq_lt] at less
          rw [encode_cons, encode_cons]
          rcases less with less | ⟨same, less⟩
          · exact utf8EncodeChar_lt (compareOfLessAndEq_eq_lt.mp less) _ _
          · rw [Std.LawfulEqOrd.eq_of_compare same]
            exact List.append_left_lt (ih less)

end Migration.Utf8
