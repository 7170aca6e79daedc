import StoreAdmin.Number.Binary64

/-!
# The fewest digits that read back

The text of a finite double has the fewest decimal digits among the numbers that round to it, and of
those the nearest. For one digit, two digits and so on the two neighbours of the value on that
decimal grid are tested in exact arithmetic; seventeen digits always suffice.

Where the digits are placed is a matter of the format, given by a `Style`.
-/

namespace StoreAdmin.Binary64

open Decimal

/-- Digits and an exponent: the number is `value digits * 10 ^ exponent`. -/
structure Decimal10 where
  digits : List Digit
  exponent : Int

/-- The smallest `j`, counted from `start`, with `d ≤ n * 10 ^ j`. -/
def tenfolds (n d : Nat) : Nat → Nat → Nat
  | 0, j => j
  | fuel + 1, j => if d ≤ n * 10 ^ j then j else tenfolds n d fuel (j + 1)

/-- The largest `e` with `10 ^ e ≤ n / d`, for a positive quotient. -/
def floorLog10 (n d : Nat) : Int :=
  if d ≤ n then (digits (n / d)).length - 1 else -(tenfolds n d 400 1 : Int)

/-- The numbers that round to a double: a value and two bounds over one denominator. The bounds
belong to the interval if the significand is even. -/
structure Interval where
  low : Nat
  mid : Nat
  high : Nat
  den : Nat
  closed : Bool

/-- The interval around a finite nonzero magnitude. The gap below a power of two is half as wide. -/
def interval (x : Binary64) : Interval :=
  let m := x.significand
  let narrow := x.magnitude % leastFactor = 0 ∧ 2 * leastFactor ≤ x.magnitude
  let (mid, den) := scale 2 (4 * m) 1 (x.exponent - 2)
  let step := mid / (4 * m)
  { low := mid - step * (if narrow then 1 else 2), mid, high := mid + step * 2, den,
    closed := m % 2 = 0 }

/-- Whether `c * 10 ^ k` lies in the interval. -/
def Interval.contains (i : Interval) (c : Nat) (k : Int) : Bool :=
  let (unit, den) := scale 10 i.den 1 k
  let x := c * unit
  if i.closed then i.low * den ≤ x && x ≤ i.high * den else i.low * den < x && x < i.high * den

/-- The neighbour of the value among the multiples of `10 ^ k` that lies in the interval and is
nearest to the value, if one does. -/
def Interval.pick? (i : Interval) (k : Int) : Option Nat :=
  let (unit, den) := scale 10 i.den 1 k
  let c := i.mid * den / unit
  let below := i.mid * den - c * unit
  let above := (c + 1) * unit - i.mid * den
  match i.contains c k, i.contains (c + 1) k with
  | true, true => some (if below < above ∨ below = above ∧ c % 2 = 0 then c else c + 1)
  | true, false => some c
  | false, true => some (c + 1)
  | false, false => none

/-- Tries grids from `count` digits on. The upper neighbour may be the next power of ten, which
has fewer digits than the grid. -/
def shortestFrom (i : Interval) (log10 : Int) : Nat → Nat → Decimal10
  | 0, count => ⟨digits (i.mid / i.den), count⟩
  | fuel + 1, count =>
    let k := log10 - count + 1
    match i.pick? k with
    | some c => if c % 10 = 0 then ⟨digits (c / 10), k + 1⟩ else ⟨digits c, k⟩
    | none => shortestFrom i log10 fuel (count + 1)

/-- The shortest digits of a finite nonzero magnitude. -/
def shortest (x : Binary64) : Decimal10 :=
  let i := interval x
  shortestFrom i (floorLog10 i.mid i.den) 17 1

/-- How a format places the digits. -/
structure Style where
  /-- The least and the greatest count of digits before the point of a number that is written
  without an exponent; without bounds every number is. -/
  positional : Option (Int × Int)
  /-- Whether a whole number without an exponent ends with `.0`. -/
  point : Bool

/-- All numbers are written out in full: `0.00001`, `1`. -/
def Style.plain : Style := ⟨none, false⟩

/-- Whole numbers keep their point, below `1e-4` and from `1e16` on there is an exponent. -/
def Style.inspected : Style := ⟨some (-3, 16), true⟩

/-- As `inspected`, with one more zero behind the point. -/
def Style.json : Style := ⟨some (-4, 16), true⟩

/-- The digits of a number as a format places them. -/
structure Spelling where
  whole : List Digit
  fraction : List Digit := []
  exponent : Option Int := none

/-- The digits without an exponent. -/
def positional (point : Bool) (d : Decimal10) : Spelling :=
  if 0 ≤ d.exponent then
    { whole := d.digits ++ List.replicate d.exponent.toNat 0
      fraction := if point then [0] else [] }
  else
    let places := (-d.exponent).toNat
    if d.digits.length ≤ places then
      { whole := [0], fraction := List.replicate (places - d.digits.length) 0 ++ d.digits }
    else
      { whole := d.digits.take (d.digits.length - places),
        fraction := d.digits.drop (d.digits.length - places) }

/-- The digits with an exponent: one digit in front of the point. -/
def scientific (d : Decimal10) : Spelling :=
  { whole := d.digits.take 1, fraction := d.digits.drop 1,
    exponent := some (d.exponent + d.digits.length - 1) }

/-- The magnitude of a finite number in a format. -/
def spelling (style : Style) (x : Binary64) : Spelling :=
  if x.isZero then positional style.point ⟨[0], 0⟩
  else
    let d := shortest x
    let before : Int := d.exponent + d.digits.length
    match style.positional with
    | none => positional style.point d
    | some (least, most) =>
      if least ≤ before ∧ before ≤ most then positional style.point d else scientific d

/-- The text of a spelling. -/
def Spelling.text (s : Spelling) : List Char :=
  s.whole.map Digit.toChar ++
    (if s.fraction = [] then [] else '.' :: s.fraction.map Digit.toChar) ++
    match s.exponent with
    | none => []
    | some e => 'e' :: intText e

/-- The text of a number; a NaN has no sign. -/
def text (style : Style) (x : Binary64) : List Char :=
  if x.isNaN then "NaN".toList
  else
    let body := if x.isFinite then (spelling style x).text else "inf".toList
    if x.isNegative then '-' :: body else body

end StoreAdmin.Binary64
