/-!
# Hexadecimal digits
-/

namespace StoreAdmin.Hex

/-- The value of a hexadecimal digit of either case. -/
def digit? (c : Char) : Option Nat :=
  if '0' ≤ c ∧ c ≤ '9' then some (c.toNat - 48)
  else if 'a' ≤ c ∧ c ≤ 'f' then some (c.toNat - 87)
  else if 'A' ≤ c ∧ c ≤ 'F' then some (c.toNat - 55)
  else none

/-- The lower-case digit of a value below sixteen. -/
def lowerDigit (n : Nat) : Char :=
  if n < 10 then Char.ofNat (48 + n) else Char.ofNat (87 + n)

/-- The upper-case digit of a value below sixteen. -/
def upperDigit (n : Nat) : Char :=
  if n < 10 then Char.ofNat (48 + n) else Char.ofNat (55 + n)

/-- The last `width` digits of `n` to the base sixteen. -/
def padded (digit : Nat → Char) : Nat → Nat → List Char
  | 0, _ => []
  | width + 1, n => padded digit width (n / 16) ++ [digit (n % 16)]

/-- Puts the digits of `n` to the base sixteen in front of `acc`; `fuel` bounds their count. -/
def digitsOnto (digit : Nat → Char) : Nat → Nat → List Char → List Char
  | 0, _, acc => acc
  | fuel + 1, n, acc =>
    if n / 16 = 0 then digit n :: acc else digitsOnto digit fuel (n / 16) (digit (n % 16) :: acc)

/-- The digits of `n` to the base sixteen, in lower case and without leading zeros. -/
def lower (n : Nat) : List Char :=
  digitsOnto lowerDigit (n + 1) n []

end StoreAdmin.Hex
