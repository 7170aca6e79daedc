import StoreAdmin.Number.Binary64

/-!
# Reading decimal numbers

A sign, digits with a point among, before or behind them, and an exponent; or the name of infinity
or NaN in any case. The result is the double nearest to the number that is written.
-/

namespace StoreAdmin.Binary64

open Decimal

/-- The digits at the start of a text, and the rest of it. -/
def leadingDigits : List Char → List Digit × List Char
  | [] => ([], [])
  | c :: rest =>
    match digit? c with
    | some d => (d :: (leadingDigits rest).1, (leadingDigits rest).2)
    | none => ([], c :: rest)

/-- The fraction at the start of a text, and the rest of it. -/
def leadingFraction : List Char → List Digit × List Char
  | '.' :: rest => leadingDigits rest
  | rest => ([], rest)

/-- The exponent that makes up a text: none, or a mark and an integer. -/
def exponent? : List Char → Option Int
  | [] => some 0
  | c :: rest => if c = 'e' ∨ c = 'E' then int? rest else none

/-- The number without a sign, or infinity or NaN by name. -/
def ofMagnitudeText? (negative : Bool) (text : List Char) : Option Binary64 :=
  let (whole, rest) := leadingDigits text
  let (fraction, rest) := leadingFraction rest
  if whole = [] ∧ fraction = [] then
    let name := String.ofList (text.map Char.toLower)
    if name = "inf" ∨ name = "infinity" then some (infinity negative)
    else if name = "nan" then some nan
    else none
  else
    (exponent? rest).map fun e =>
      ofDecimal negative (value (whole ++ fraction)) (e - fraction.length)

/-- The double that a text describes. -/
def ofText? : List Char → Option Binary64
  | '-' :: rest => ofMagnitudeText? true rest
  | '+' :: rest => ofMagnitudeText? false rest
  | text => ofMagnitudeText? false text

end StoreAdmin.Binary64
