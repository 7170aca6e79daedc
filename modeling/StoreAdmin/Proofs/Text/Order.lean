import StoreAdmin.Proofs.Text.Utf8

/-!
# The order of texts and of their bytes

Texts are ordered by the numbers of their characters, and their encodings are in
the same order: of two characters, the smaller one has the smaller lead, or the
first byte behind equal ones that differs is smaller.
-/

namespace StoreAdmin.Utf8

theorem utf8EncodeChar_append_lt {c d : Char} (hless : c < d) (x y : List UInt8) :
    String.utf8EncodeChar c ++ x < String.utf8EncodeChar d ++ y := by
  have hnumbers : c.toNat < d.toNat := hless
  have hlast : d.toNat < 0x110000 := by
    have hvalid : d.toNat < 0xD800 ∨ 0xDFFF < d.toNat ∧ d.toNat < 0x110000 := d.valid
    omega
  have hfirst : c.val.toNat = c.toNat := rfl
  have hsecond : d.val.toNat = d.toNat := rfl
  unfold String.utf8EncodeChar
  simp only [hfirst, hsecond]
  generalize c.toNat = m at hnumbers
  generalize d.toNat = n at hnumbers hlast
  -- The groups of six bits as digits to the base 64.
  have hgroups : ∀ k : Nat, k / 4096 = k / 64 / 64 ∧ k / 262144 = k / 64 / 64 / 64 := by
    intro k
    simp [Nat.div_div_eq_div_mul]
  simp only [hgroups]
  repeat' split
  all_goals
    simp only [List.cons_append, List.nil_append, List.cons_lt_cons_iff, UInt8.lt_iff_toNat_lt,
      ← UInt8.toNat_inj]
    simp (disch := omega) only [toNat_byte]
    omega

/-- The bytes of texts are in the order of the texts. -/
theorem encode_lt_encode {s t : List Char} (hless : s < t) : encode s < encode t := by
  induction hless with
  | @nil c rest =>
      obtain ⟨lead, tail, hbytes, -⟩ := exists_unit c []
      have hcons : encode (c :: rest) = lead :: (tail ++ encode rest) := by
        rw [← List.cons_append, ← hbytes]
        rfl
      rw [hcons]
      exact List.nil_lt_cons _ _
  | rel hless => exact utf8EncodeChar_append_lt hless _ _
  | cons _ ih => exact List.append_left_lt ih

end StoreAdmin.Utf8
