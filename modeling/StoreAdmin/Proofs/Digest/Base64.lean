import StoreAdmin.Digest.Base64
import Mathlib.Data.Fintype.Basic

/-!
# Reading Base64 back

Every group of four characters gives its bytes back, and the equals signs tell
how many there are in the last one.  So a text stands for one list of bytes only.
-/

namespace StoreAdmin.Base64

/-- The value of a character of the alphabet. -/
def value (c : Char) : Nat :=
  if 'A' ≤ c ∧ c ≤ 'Z' then c.toNat - 65
  else if 'a' ≤ c ∧ c ≤ 'z' then c.toNat - 71
  else if '0' ≤ c ∧ c ≤ '9' then c.toNat + 4
  else if c = '+' then 62
  else 63

/-- The bytes that a text of whole groups stands for. -/
def decode : List Char → List UInt8
  | a :: b :: c :: d :: rest =>
    let first := UInt8.ofNat (value a * 4 + value b / 16)
    let second := UInt8.ofNat (value b % 16 * 16 + value c / 4)
    let third := UInt8.ofNat (value c % 4 * 64 + value d)
    if c = '=' then [first]
    else if d = '=' then [first, second]
    else first :: second :: third :: decode rest
  | _ => []

theorem value_symbol : ∀ n < 64, value (symbol n) = n := by
  decide

theorem symbol_ne_equals : ∀ n < 64, symbol n ≠ '=' := by
  decide

/-- The bytes behind the values of a group. -/
theorem byte_eq (b : UInt8) {n : Nat} (hn : n = b.toNat) : UInt8.ofNat n = b := by
  rw [hn, UInt8.ofNat_toNat]

theorem decode_encode (bytes : List UInt8) : decode (encode bytes) = bytes := by
  induction bytes using encode.induct with
  | case1 => rfl
  | case2 a =>
      have ha : a.toNat < 256 := a.toNat_lt
      have hfirst := value_symbol (a.toNat / 4) (by omega)
      have hsecond := value_symbol (a.toNat % 4 * 16) (by omega)
      rw [encode, decode, if_pos rfl, hfirst, hsecond, byte_eq a (by omega)]
  | case3 a b =>
      have ha : a.toNat < 256 := a.toNat_lt
      have hb : b.toNat < 256 := b.toNat_lt
      have hfirst := value_symbol (a.toNat / 4) (by omega)
      have hsecond := value_symbol (a.toNat % 4 * 16 + b.toNat / 16) (by omega)
      have hthird := value_symbol (b.toNat % 16 * 4) (by omega)
      have hmore := symbol_ne_equals (b.toNat % 16 * 4) (by omega)
      rw [encode, decode, if_neg hmore, if_pos rfl, hfirst, hsecond, hthird,
        byte_eq a (by omega), byte_eq b (by omega)]
  | case4 a b c rest ih =>
      have ha : a.toNat < 256 := a.toNat_lt
      have hb : b.toNat < 256 := b.toNat_lt
      have hc : c.toNat < 256 := c.toNat_lt
      have hfirst := value_symbol (a.toNat / 4) (by omega)
      have hsecond := value_symbol (a.toNat % 4 * 16 + b.toNat / 16) (by omega)
      have hthird := value_symbol (b.toNat % 16 * 4 + c.toNat / 64) (by omega)
      have hfourth := value_symbol (c.toNat % 64) (by omega)
      have hmore := symbol_ne_equals (b.toNat % 16 * 4 + c.toNat / 64) (by omega)
      have hlast := symbol_ne_equals (c.toNat % 64) (by omega)
      rw [encode, decode, if_neg hmore, if_neg hlast, hfirst, hsecond, hthird, hfourth, ih,
        byte_eq a (by omega), byte_eq b (by omega), byte_eq c (by omega)]

theorem encode_injective : Function.Injective encode :=
  Function.LeftInverse.injective decode_encode

end StoreAdmin.Base64
