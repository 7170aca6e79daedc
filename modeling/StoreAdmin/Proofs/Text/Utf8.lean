import StoreAdmin.Text.Utf8

/-!
# Reading back what is encoded

The encoding of a character is one unit, whatever follows it.  Hence strict
reading gives back every text, and two texts with the same bytes are the same.
-/

namespace StoreAdmin.Utf8

section Units

variable {n : Nat} {lead second third fourth : UInt8} {rest : List UInt8}

theorem isTail_of_toNat (hlow : 0x80 ≤ second.toNat) (hhigh : second.toNat ≤ 0xBF) :
    isTail second = true := by
  simp only [isTail, Bool.and_eq_true, decide_eq_true_eq, UInt8.le_iff_toNat_le]
  exact ⟨hlow, hhigh⟩

/-- A tail may come second, unless the lead asks for more. -/
theorem isSecond_of_toNat (hlow : 0x80 ≤ second.toNat) (hhigh : second.toNat ≤ 0xBF)
    (hthree : lead.toNat = 0xE0 → 0xA0 ≤ second.toNat)
    (hsurrogate : lead.toNat = 0xED → second.toNat ≤ 0x9F)
    (hfour : lead.toNat = 0xF0 → 0x90 ≤ second.toNat)
    (hlast : lead.toNat = 0xF4 → second.toNat ≤ 0x8F) : isSecond lead second = true := by
  simp only [isSecond, secondRange, Bool.and_eq_true, decide_eq_true_eq,
    UInt8.le_iff_toNat_le, ← UInt8.toNat_inj, UInt8.reduceToNat]
  split
  · next h => exact ⟨hthree h, hhigh⟩
  split
  · next h => exact ⟨hlow, hsurrogate h⟩
  split
  · next h => exact ⟨hfour h, hhigh⟩
  split
  · next h => exact ⟨hlow, hlast h⟩
  · exact ⟨hlow, hhigh⟩

theorem unit_one (hlead : lead.toNat = n) (hn : n < 0x80) :
    unit lead rest = (some (Char.ofNat n), 1) := by
  have hone : lead < 0x80 := by
    rw [UInt8.lt_iff_toNat_lt, hlead]
    exact hn
  unfold unit
  rw [if_pos hone, assemble, hlead]
  rfl

theorem unit_two (hlead : lead.toNat = n / 64 + 0xC0) (hsecond : second.toNat = n % 64 + 0x80)
    (hlow : 0x80 ≤ n) (hhigh : n < 0x800) :
    unit lead (second :: rest) = (some (Char.ofNat n), 2) := by
  have hfits : isSecond lead second = true := by
    apply isSecond_of_toNat <;> omega
  have hvalue : assemble (lead.toNat % 32) [second] = Char.ofNat n := by
    unfold assemble
    simp only [List.foldl]
    congr 1
    omega
  unfold unit
  simp only [UInt8.lt_iff_toNat_lt, UInt8.reduceToNat]
  rw [if_neg (by omega), if_neg (by omega), if_pos (by omega)]
  simp [hfits, hvalue]

theorem unit_three (hlead : lead.toNat = n / 4096 + 0xE0)
    (hsecond : second.toNat = n / 64 % 64 + 0x80) (hthird : third.toNat = n % 64 + 0x80)
    (hlow : 0x800 ≤ n) (hhigh : n < 0x10000) (hvalid : n < 0xD800 ∨ 0xDFFF < n) :
    unit lead (second :: third :: rest) = (some (Char.ofNat n), 3) := by
  have hfits : isSecond lead second = true := by
    apply isSecond_of_toNat <;> omega
  have htail : isTail third = true := by
    apply isTail_of_toNat <;> omega
  have hvalue : assemble (lead.toNat % 16) [second, third] = Char.ofNat n := by
    unfold assemble
    simp only [List.foldl]
    congr 1
    omega
  unfold unit
  simp only [UInt8.lt_iff_toNat_lt, UInt8.reduceToNat]
  rw [if_neg (by omega), if_neg (by omega), if_neg (by omega), if_pos (by omega)]
  simp [hfits, htail, hvalue]

theorem unit_four (hlead : lead.toNat = n / 262144 + 0xF0)
    (hsecond : second.toNat = n / 4096 % 64 + 0x80)
    (hthird : third.toNat = n / 64 % 64 + 0x80) (hfourth : fourth.toNat = n % 64 + 0x80)
    (hlow : 0x10000 ≤ n) (hhigh : n < 0x110000) :
    unit lead (second :: third :: fourth :: rest) = (some (Char.ofNat n), 4) := by
  have hfits : isSecond lead second = true := by
    apply isSecond_of_toNat <;> omega
  have hnext : isTail third = true := by
    apply isTail_of_toNat <;> omega
  have htail : isTail fourth = true := by
    apply isTail_of_toNat <;> omega
  have hvalue : assemble (lead.toNat % 8) [second, third, fourth] = Char.ofNat n := by
    unfold assemble
    simp only [List.foldl]
    congr 1
    omega
  unfold unit
  simp only [UInt8.lt_iff_toNat_lt, UInt8.reduceToNat]
  rw [if_neg (by omega), if_neg (by omega), if_neg (by omega), if_neg (by omega),
    if_pos (by omega)]
  simp [hfits, hnext, htail, hvalue]

end Units

theorem toNat_byte {n : Nat} (hn : n < 256) : (UInt8.ofNat n).toNat = n := by
  rw [UInt8.toNat_ofNat']
  exact Nat.mod_eq_of_lt hn

/-- The bytes of a character are one unit. -/
theorem exists_unit (c : Char) (rest : List UInt8) :
    ∃ lead tail, String.utf8EncodeChar c = lead :: tail ∧
      unit lead (tail ++ rest) = (some c, tail.length + 1) := by
  have hvalid : c.toNat < 0xD800 ∨ 0xDFFF < c.toNat ∧ c.toNat < 0x110000 := c.valid
  have hchar : Char.ofNat c.toNat = c := Char.ofNat_toNat c
  have hvalue : c.val.toNat = c.toNat := rfl
  unfold String.utf8EncodeChar
  simp only [hvalue]
  generalize c.toNat = n at hvalid hchar
  subst hchar
  split
  · exact ⟨_, [], rfl, unit_one (toNat_byte (by omega)) (by omega)⟩
  split
  · refine ⟨_, [_], rfl, unit_two ?_ ?_ (by omega) (by omega)⟩
    · rw [toNat_byte (by omega)]
      omega
    · rw [toNat_byte (by omega)]
  split
  · refine ⟨_, [_, _], rfl, unit_three ?_ ?_ ?_ (by omega) (by omega) (by omega)⟩
    · rw [toNat_byte (by omega)]
      omega
    · rw [toNat_byte (by omega)]
    · rw [toNat_byte (by omega)]
  · refine ⟨_, [_, _, _], rfl, unit_four ?_ ?_ ?_ ?_ (by omega) (by omega)⟩
    · rw [toNat_byte (by omega)]
      omega
    · rw [toNat_byte (by omega)]
    · rw [toNat_byte (by omega)]
    · rw [toNat_byte (by omega)]

/-! ## Texts -/

theorem unitsFrom_length_append (skipped rest : List UInt8) :
    unitsFrom skipped.length (skipped ++ rest) = unitsFrom 0 rest := by
  induction skipped with
  | nil => rfl
  | cons b skipped ih =>
      rw [List.length_cons, List.cons_append, unitsFrom]
      exact ih

theorem units_encodeChar_append (c : Char) (rest : List UInt8) :
    units (String.utf8EncodeChar c ++ rest) = some c :: units rest := by
  obtain ⟨lead, tail, hbytes, hunit⟩ := exists_unit c rest
  rw [hbytes, List.cons_append, units, unitsFrom, hunit, Nat.add_sub_cancel,
    unitsFrom_length_append, units]

theorem units_encode_append (text : List Char) (rest : List UInt8) :
    units (encode text ++ rest) = text.map some ++ units rest := by
  induction text with
  | nil => rfl
  | cons c text ih =>
      have hcons : encode (c :: text) ++ rest = String.utf8EncodeChar c ++ (encode text ++ rest) :=
        List.append_assoc _ _ _
      rw [hcons, units_encodeChar_append, ih, List.map_cons, List.cons_append]

/-- The units of an encoded text are its characters. -/
theorem units_encode (text : List Char) : units (encode text) = text.map some := by
  have hunits := units_encode_append text []
  have hnil : units [] = [] := rfl
  rwa [List.append_nil, hnil, List.append_nil] at hunits

theorem sequence?_map_some (text : List Char) : sequence? (text.map some) = some text := by
  induction text with
  | nil => rfl
  | cons c text ih => rw [List.map_cons, sequence?, ih, Option.map_some]

theorem decode?_encode (text : List Char) : decode? (encode text) = some text := by
  rw [decode?, units_encode, sequence?_map_some]

theorem encode_injective {first second : List Char} (h : encode first = encode second) :
    first = second := by
  apply Option.some.inj
  calc
    some first = decode? (encode first) := (decode?_encode first).symm
    _ = decode? (encode second) := by rw [h]
    _ = some second := decode?_encode second

end StoreAdmin.Utf8
