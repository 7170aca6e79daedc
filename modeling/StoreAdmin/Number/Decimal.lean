/-!
# Decimal digits

Digits are numbers below ten, most significant first. `digits` writes a number without leading
zeros and `value` reads any list of digits.
-/

namespace StoreAdmin.Decimal

/-- A decimal digit. -/
abbrev Digit := Fin 10

/-- The character of a digit. -/
def Digit.toChar (d : Digit) : Char :=
  Char.ofNat (48 + d.val)

/-- The digit that a character stands for. -/
def digit? (c : Char) : Option Digit :=
  if h : 48 ≤ c.toNat ∧ c.toNat < 58 then some ⟨c.toNat - 48, by omega⟩ else none

/-- The number that a list of digits stands for. -/
def value (ds : List Digit) : Nat :=
  ds.foldl (fun n d => 10 * n + d.val) 0

/-- Puts the digits of `n` in front of `acc`; `fuel` bounds their count. -/
def digitsOnto : Nat → Nat → List Digit → List Digit
  | 0, _, acc => acc
  | fuel + 1, n, acc =>
    let d : Digit := ⟨n % 10, Nat.mod_lt n (by decide)⟩
    if n / 10 = 0 then d :: acc else digitsOnto fuel (n / 10) (d :: acc)

/-- The digits of a number; zero has one digit. -/
def digits (n : Nat) : List Digit :=
  digitsOnto (n + 1) n []

/-- The text of a natural number. -/
def natText (n : Nat) : List Char :=
  (digits n).map Digit.toChar

/-- The text of an integer: a minus sign in front of the digits of a negative one. -/
def intText (i : Int) : List Char :=
  if i < 0 then '-' :: natText i.natAbs else natText i.natAbs

/-- Reads a text that consists of digits only. -/
def digits? : List Char → Option (List Digit)
  | [] => some []
  | c :: rest =>
    match digit? c, digits? rest with
    | some d, some ds => some (d :: ds)
    | _, _ => none

/-- Reads one or more digits as a number. -/
def nat? (text : List Char) : Option Nat :=
  match digits? text with
  | some (d :: ds) => some (value (d :: ds))
  | _ => none

/-- Reads one or more digits with an optional sign. -/
def int? : List Char → Option Int
  | '-' :: rest => (nat? rest).map fun n => -(n : Int)
  | '+' :: rest => (nat? rest).map fun n => (n : Int)
  | text => (nat? text).map fun n => (n : Int)

/-- The 64-bit integer with this value, if there is one. -/
def int64? (i : Int) : Option Int64 :=
  if -0x8000000000000000 ≤ i ∧ i < 0x8000000000000000 then some (Int64.ofInt i) else none

end StoreAdmin.Decimal
