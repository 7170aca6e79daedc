import StoreAdmin.Number.Decimal
import Mathlib.Data.Fin.Basic

/-!
# Reading decimal numbers back

The digits of a number have its value, and a text of digits is read as those digits.  So the text of
an integer is read as that integer, and the text of a 64-bit integer as one that fits again.
-/

namespace StoreAdmin.Decimal

theorem digit?_toChar : ∀ d : Digit, digit? d.toChar = some d := by
  decide

@[simp]
theorem digits?_map_toChar (ds : List Digit) : digits? (ds.map Digit.toChar) = some ds := by
  induction ds with
  | nil => rfl
  | cons d rest ih => simp only [List.map_cons, digits?, digit?_toChar, ih]

/-! ## Natural numbers -/

theorem value_digitsOnto (fuel n : Nat) (acc : List Digit) (hfuel : n < fuel) :
    value (digitsOnto fuel n acc) = acc.foldl (fun n d => 10 * n + d.val) n := by
  induction fuel generalizing n acc with
  | zero => omega
  | succ fuel ih =>
    simp only [digitsOnto]
    split
    · next hlast =>
      have hdigit : 10 * 0 + n % 10 = n := by omega
      simp only [value, List.foldl_cons, hdigit]
    · next hmore =>
      have hdigit : 10 * (n / 10) + n % 10 = n := by omega
      rw [ih (n / 10) _ (by omega), List.foldl_cons, hdigit]

theorem value_digits (n : Nat) : value (digits n) = n :=
  value_digitsOnto (n + 1) n [] (Nat.lt_succ_self n)

theorem digitsOnto_ne_nil {fuel n : Nat} {acc : List Digit} (hsome : 0 < fuel ∨ acc ≠ []) :
    digitsOnto fuel n acc ≠ [] := by
  induction fuel generalizing n acc with
  | zero => exact hsome.resolve_left (Nat.lt_irrefl 0)
  | succ fuel ih =>
    simp only [digitsOnto]
    split
    · exact List.cons_ne_nil _ _
    · exact ih (.inr (List.cons_ne_nil _ _))

/-- A number has a first digit. -/
theorem exists_digits (n : Nat) : ∃ d ds, digits n = d :: ds :=
  List.exists_cons_of_ne_nil (digitsOnto_ne_nil (.inl (Nat.succ_pos n)))

theorem digitsOnto_zero_cons {fuel n : Nat} {acc ds : List Digit} (hfuel : n < fuel)
    (hdigits : digitsOnto fuel n acc = 0 :: ds) : n = 0 ∧ ds = acc := by
  induction fuel generalizing n acc with
  | zero => omega
  | succ fuel ih =>
    simp only [digitsOnto] at hdigits
    split at hdigits
    · next hlast =>
      obtain ⟨hfirst, hrest⟩ := List.cons.inj hdigits
      have hzero : n % 10 = 0 := congrArg Fin.val hfirst
      exact ⟨by omega, hrest.symm⟩
    · next hmore =>
      exact absurd (ih (by omega) hdigits).1 hmore

/-- Only zero starts with a zero. -/
theorem eq_nil_of_digits_zero {n : Nat} {ds : List Digit} (hdigits : digits n = 0 :: ds) :
    ds = [] :=
  (digitsOnto_zero_cons (Nat.lt_succ_self n) hdigits).2

theorem nat?_natText (n : Nat) : nat? (natText n) = some n := by
  obtain ⟨d, ds, hdigits⟩ := exists_digits n
  rw [nat?, natText, digits?_map_toChar, hdigits]
  exact congrArg some (hdigits ▸ value_digits n)

/-! ## Integers -/

theorem toChar_ne_sign : ∀ d : Digit, d.toChar ≠ '-' ∧ d.toChar ≠ '+' := by
  decide

/-- A text that starts with a digit has no sign. -/
theorem int?_natText (n : Nat) : int? (natText n) = some (n : Int) := by
  obtain ⟨d, ds, hdigits⟩ := exists_digits n
  have hread := nat?_natText n
  have htext : natText n = d.toChar :: ds.map Digit.toChar := by
    rw [natText, hdigits, List.map_cons]
  rw [htext] at hread ⊢
  unfold int?
  split
  · next heq => exact absurd (List.cons.inj heq).1 (toChar_ne_sign d).1
  · next heq => exact absurd (List.cons.inj heq).1 (toChar_ne_sign d).2
  · rw [hread]
    rfl

theorem int?_intText (i : Int) : int? (intText i) = some i := by
  unfold intText
  split
  · next hnegative =>
    have hread : int? ('-' :: natText i.natAbs) = some (-(i.natAbs : Int)) := by
      simp only [int?, nat?_natText]
      rfl
    rw [hread, Option.some.injEq]
    omega
  · next hpositive =>
    rw [int?_natText, Option.some.injEq]
    omega

theorem intText_injective {i j : Int} (h : intText i = intText j) : i = j := by
  apply Option.some.inj
  calc
    some i = int? (intText i) := (int?_intText i).symm
    _ = int? (intText j) := by rw [h]
    _ = some j := int?_intText j

theorem int64?_toInt (v : Int64) : int64? v.toInt = some v := by
  have hfits : -0x8000000000000000 ≤ v.toInt ∧ v.toInt < 0x8000000000000000 :=
    ⟨v.le_toInt, v.toInt_lt⟩
  rw [int64?, if_pos hfits, Int64.ofInt_toInt]

/-- An integer in the range of 64 bits has a word of its value. -/
theorem exists_int64? {i : Int} (hlow : -0x8000000000000000 ≤ i)
    (hhigh : i < 0x8000000000000000) : ∃ v, int64? i = some v ∧ v.toInt = i :=
  ⟨Int64.ofInt i, if_pos ⟨hlow, hhigh⟩, Int64.toInt_ofInt_of_le hlow hhigh⟩

/-- The text of an integer consists of digits and a sign. -/
theorem mem_intText {i : Int} {c : Char} (hc : c ∈ intText i) :
    c = '-' ∨ ∃ d : Digit, c = d.toChar := by
  have hdigit : ∀ n, c ∈ natText n → ∃ d : Digit, c = d.toChar := by
    intro n hmem
    obtain ⟨d, -, rfl⟩ := List.mem_map.mp hmem
    exact ⟨d, rfl⟩
  unfold intText at hc
  split at hc
  · exact (List.mem_cons.mp hc).imp_right (hdigit _)
  · exact .inr (hdigit _ hc)

end StoreAdmin.Decimal
