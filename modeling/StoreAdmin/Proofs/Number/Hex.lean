import StoreAdmin.Text.Hex
import Mathlib.Data.Fintype.Basic

/-!
# Reading hexadecimal numbers back

Digits of either case have their value, a number is written with digits only, and what is written
has the value of the number.
-/

namespace StoreAdmin.Hex

theorem digit?_upperDigit : ∀ n < 16, digit? (upperDigit n) = some n := by
  decide

theorem digit?_lowerDigit : ∀ n < 16, digit? (lowerDigit n) = some n := by
  decide

theorem mem_digitsOnto {digit : Nat → Char} {fuel n : Nat} {acc : List Char} {c : Char}
    (hc : c ∈ digitsOnto digit fuel n acc) : c ∈ acc ∨ ∃ m < 16, c = digit m := by
  induction fuel generalizing n acc with
  | zero => exact .inl hc
  | succ fuel ih =>
    rw [digitsOnto] at hc
    split at hc
    · next hlast =>
      rcases List.mem_cons.1 hc with rfl | hmem
      · exact .inr ⟨n, by omega, rfl⟩
      · exact .inl hmem
    · rcases ih hc with hmem | hdigit
      · rcases List.mem_cons.1 hmem with rfl | hmem
        · exact .inr ⟨n % 16, by omega, rfl⟩
        · exact .inl hmem
      · exact .inr hdigit

/-! ## Values -/

/-- A number with one more digit behind it. -/
def withDigit (n : Nat) (c : Char) : Nat :=
  16 * n + (digit? c).getD 0

/-- The number that digits stand for. -/
def value (text : List Char) : Nat :=
  text.foldl withDigit 0

theorem withDigit_lowerDigit (n : Nat) {d : Nat} (hd : d < 16) :
    withDigit n (lowerDigit d) = 16 * n + d := by
  rw [withDigit, digit?_lowerDigit d hd, Option.getD_some]

theorem value_digitsOnto {fuel n : Nat} (hfuel : n < fuel) (acc : List Char) :
    value (digitsOnto lowerDigit fuel n acc) = acc.foldl withDigit n := by
  induction fuel generalizing n acc with
  | zero => omega
  | succ fuel ih =>
    rw [digitsOnto]
    split
    · next hlast =>
      rw [value, List.foldl_cons, withDigit_lowerDigit 0 (by omega), Nat.mul_zero, Nat.zero_add]
    · next hmore =>
      have hdigit : 16 * (n / 16) + n % 16 = n := Nat.div_add_mod n 16
      rw [ih (by omega), List.foldl_cons, withDigit_lowerDigit _ (by omega), hdigit]

theorem value_lower (n : Nat) : value (lower n) = n :=
  value_digitsOnto (Nat.lt_succ_self n) []

end StoreAdmin.Hex
