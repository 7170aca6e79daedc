import StoreAdmin.Proofs.Text.Utf8

/-!
# Bytes that are read

Strict reading takes a text from its bytes only: what it reads is encoded by the
bytes that it was read from.
-/

namespace StoreAdmin.Utf8

/-! ## Bytes of a character -/

theorem toNat_char {n : Nat} (hvalid : n < 0xD800 ∨ 0xDFFF < n ∧ n < 0x110000) :
    (Char.ofNat n).toNat = n := by
  have hchar : n.isValidChar := hvalid
  rw [Char.ofNat, dif_pos hchar]
  rfl

theorem eq_ofNat {b : UInt8} {n : Nat} (hvalue : n = b.toNat) : UInt8.ofNat n = b := by
  rw [hvalue, UInt8.ofNat_toNat]

section Characters

variable {n : Nat} {lead second third fourth : UInt8}

theorem encodeChar_one (hlead : lead.toNat = n) (hn : n < 0x80) :
    String.utf8EncodeChar (Char.ofNat n) = [lead] := by
  have hvalue : (Char.ofNat n).val.toNat = n := toNat_char (by omega)
  unfold String.utf8EncodeChar
  simp only [hvalue]
  rw [if_pos (by omega), eq_ofNat hlead.symm]

theorem encodeChar_two (hlead : lead.toNat = n / 64 + 0xC0) (hsecond : second.toNat = n % 64 + 0x80)
    (hlow : 0x80 ≤ n) (hhigh : n < 0x800) :
    String.utf8EncodeChar (Char.ofNat n) = [lead, second] := by
  have hvalue : (Char.ofNat n).val.toNat = n := toNat_char (by omega)
  unfold String.utf8EncodeChar
  simp only [hvalue]
  rw [if_neg (by omega), if_pos (by omega), eq_ofNat (b := lead) (by omega),
    eq_ofNat (b := second) (by omega)]

theorem encodeChar_three (hlead : lead.toNat = n / 4096 + 0xE0)
    (hsecond : second.toNat = n / 64 % 64 + 0x80) (hthird : third.toNat = n % 64 + 0x80)
    (hlow : 0x800 ≤ n) (hhigh : n < 0x10000) (hvalid : n < 0xD800 ∨ 0xDFFF < n) :
    String.utf8EncodeChar (Char.ofNat n) = [lead, second, third] := by
  have hvalue : (Char.ofNat n).val.toNat = n := toNat_char (by omega)
  unfold String.utf8EncodeChar
  simp only [hvalue]
  rw [if_neg (by omega), if_neg (by omega), if_pos (by omega), eq_ofNat (b := lead) (by omega),
    eq_ofNat (b := second) (by omega), eq_ofNat (b := third) (by omega)]

theorem encodeChar_four (hlead : lead.toNat = n / 262144 + 0xF0)
    (hsecond : second.toNat = n / 4096 % 64 + 0x80)
    (hthird : third.toNat = n / 64 % 64 + 0x80) (hfourth : fourth.toNat = n % 64 + 0x80)
    (hlow : 0x10000 ≤ n) (hhigh : n < 0x110000) :
    String.utf8EncodeChar (Char.ofNat n) = [lead, second, third, fourth] := by
  have hvalue : (Char.ofNat n).val.toNat = n := toNat_char (by omega)
  unfold String.utf8EncodeChar
  simp only [hvalue]
  rw [if_neg (by omega), if_neg (by omega), if_neg (by omega), eq_ofNat (b := lead) (by omega),
    eq_ofNat (b := second) (by omega), eq_ofNat (b := third) (by omega),
    eq_ofNat (b := fourth) (by omega)]

end Characters

/-! ## Units that are characters -/

theorem toNat_of_isTail {b : UInt8} (hb : isTail b = true) :
    0x80 ≤ b.toNat ∧ b.toNat ≤ 0xBF := by
  simpa only [isTail, Bool.and_eq_true, decide_eq_true_eq, UInt8.le_iff_toNat_le,
    UInt8.reduceToNat] using hb

/-- What may come second is a tail, and a lead may ask for more. -/
theorem toNat_of_isSecond {lead b : UInt8} (hb : isSecond lead b = true) :
    (0x80 ≤ b.toNat ∧ b.toNat ≤ 0xBF) ∧ (lead.toNat = 0xE0 → 0xA0 ≤ b.toNat) ∧
      (lead.toNat = 0xED → b.toNat ≤ 0x9F) ∧ (lead.toNat = 0xF0 → 0x90 ≤ b.toNat) ∧
      (lead.toNat = 0xF4 → b.toNat ≤ 0x8F) := by
  simp only [isSecond, secondRange, Bool.and_eq_true, decide_eq_true_eq,
    UInt8.le_iff_toNat_le, ← UInt8.toNat_inj, UInt8.reduceToNat] at hb
  repeat' split at hb
  all_goals
    simp only [UInt8.reduceToNat] at hb
    omega

/-- A unit that is a character starts with the bytes of the character. -/
theorem exists_of_unit {lead : UInt8} {rest : List UInt8} {c : Char} {size : Nat}
    (hunit : unit lead rest = (some c, size)) :
    ∃ tail more, rest = tail ++ more ∧ size = tail.length + 1 ∧
      String.utf8EncodeChar c = lead :: tail := by
  unfold unit at hunit
  simp only [UInt8.lt_iff_toNat_lt, UInt8.reduceToNat] at hunit
  split at hunit
  · next hone =>
    simp only [Prod.mk.injEq, Option.some.injEq] at hunit
    obtain ⟨rfl, rfl⟩ := hunit
    exact ⟨[], rest, rfl, rfl, encodeChar_one rfl hone⟩
  split at hunit
  · simp at hunit
  split at hunit
  · next hlow hhigh =>
    match rest with
    | [] => simp at hunit
    | b :: more =>
      cases hb : isSecond lead b with
      | false => simp [hb] at hunit
      | true =>
        simp only [hb, ↓reduceIte, Prod.mk.injEq, Option.some.injEq] at hunit
        obtain ⟨rfl, rfl⟩ := hunit
        have hrange := toNat_of_isSecond hb
        refine ⟨[b], more, rfl, rfl, encodeChar_two ?_ ?_ ?_ ?_⟩ <;> simp only [List.foldl] <;>
          omega
  split at hunit
  · next hlow hhigh =>
    match rest with
    | [] | [b] => simp at hunit
    | b :: c :: more =>
      cases hb : isSecond lead b <;> cases hc : isTail c <;> simp [hb, hc] at hunit
      obtain ⟨rfl, rfl⟩ := hunit
      have hrange := toNat_of_isSecond hb
      have htail := toNat_of_isTail hc
      refine ⟨[b, c], more, rfl, rfl, encodeChar_three ?_ ?_ ?_ ?_ ?_ ?_⟩ <;>
        simp only [List.foldl] <;> omega
  split at hunit
  · next hlow hhigh =>
    match rest with
    | [] | [b] | [b, c] => simp at hunit
    | b :: c :: d :: more =>
      cases hb : isSecond lead b <;> cases hc : isTail c <;> cases hd : isTail d <;>
        simp [hb, hc, hd] at hunit
      obtain ⟨rfl, rfl⟩ := hunit
      have hrange := toNat_of_isSecond hb
      have hthird := toNat_of_isTail hc
      have hfourth := toNat_of_isTail hd
      refine ⟨[b, c, d], more, rfl, rfl, encodeChar_four ?_ ?_ ?_ ?_ ?_ ?_⟩ <;>
        simp only [List.foldl] <;> omega
  · simp at hunit

/-! ## Texts -/

/-- The bytes of a text that is read are those that were read. -/
theorem encode_of_sequence? {bytes : List UInt8} {text : List Char} (skip : Nat)
    (hskip : skip ≤ bytes.length)
    (hread : sequence? (unitsFrom skip bytes) = some text) : encode text = bytes.drop skip := by
  induction bytes generalizing skip text with
  | nil =>
      obtain rfl : skip = 0 := Nat.le_zero.mp hskip
      cases hread
      rfl
  | cons lead rest ih =>
      cases skip with
      | succ skip => exact ih skip (Nat.le_of_succ_le_succ hskip) hread
      | zero =>
          rw [unitsFrom] at hread
          cases hunit : unit lead rest with
          | mk unit? size =>
          rw [hunit] at hread
          cases unit? with
          | none => cases hread
          | some c =>
              obtain ⟨tail, more, rfl, rfl, hbytes⟩ := exists_of_unit hunit
              obtain ⟨text, htext, rfl⟩ := Option.map_eq_some_iff.mp hread
              have hmore : encode text = (tail ++ more).drop tail.length :=
                ih _ (by simp) htext
              rw [List.drop_left] at hmore
              calc
                encode (c :: text) = String.utf8EncodeChar c ++ encode text := rfl
                _ = lead :: (tail ++ more) := by rw [hbytes, hmore]; rfl

theorem decode?_eq_some_iff {bytes : List UInt8} {text : List Char} :
    decode? bytes = some text ↔ encode text = bytes := by
  constructor
  · exact encode_of_sequence? 0 (Nat.zero_le _)
  · rintro rfl
    exact decode?_encode text

end StoreAdmin.Utf8
