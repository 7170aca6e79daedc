import StoreAdmin.Number.Decimal

/-!
# JSON values

A value keeps numbers as they are written, because their meaning depends on the member that holds
them, and it keeps a string as its text, if it has one. A string literal has no text when it holds
an escape of half a surrogate pair or bytes that encode no character; such a string may be passed
over but not used.
-/

namespace StoreAdmin.Json

/-- A number literal: sign, digits before and after the point, and a signed exponent. -/
structure Number where
  negative : Bool := false
  whole : List Decimal.Digit
  fraction : List Decimal.Digit := []
  exponent : Option (Bool × List Decimal.Digit) := none
  deriving DecidableEq

/-- A JSON value. Members are kept in the order in which they are written. -/
inductive Value where
  | null
  | boolean (b : Bool)
  | number (n : Number)
  | string (text : Option String)
  | array (items : List Value)
  | object (members : List (Option String × Value))

/-- The literal of an integer. -/
def Number.ofInt (i : Int) : Number :=
  { negative := i < 0, whole := Decimal.digits i.natAbs }

/-- The integer that a literal without fraction and exponent writes. The literal `-0` is no
integer. -/
def Number.int? (n : Number) : Option Int :=
  if n.fraction ≠ [] ∨ n.exponent ≠ none then none
  else
    match n.negative, Decimal.value n.whole with
    | false, m => some m
    | true, 0 => none
    | true, m => some (-(m : Int))

end StoreAdmin.Json
