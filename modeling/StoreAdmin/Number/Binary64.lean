import StoreAdmin.Number.Decimal

/-!
# Double-precision numbers

A double is kept as its 64 bits, so equality is decidable and tells the two zeros apart. A finite
magnitude is `m * 2 ^ q`; a quotient of naturals is rounded to the nearest double, a tie to the even
neighbour, and beyond the largest finite double to infinity.
-/

namespace StoreAdmin

/-- A number of the IEEE 754 format binary64, given by its bits. -/
structure Binary64 where
  bits : UInt64
  deriving DecidableEq

namespace Binary64

/-- The bit of the sign. -/
def signBit : Nat :=
  0x8000000000000000

/-- The factor that a normal number has at least. -/
def leastFactor : Nat :=
  0x10000000000000

/-- A number from its sign and the 63 bits of its magnitude. -/
def ofMagnitude (negative : Bool) (magnitude : Nat) : Binary64 :=
  ⟨UInt64.ofNat (magnitude + if negative then signBit else 0)⟩

/-- The bits of the magnitude of infinity. -/
def infinityMagnitude : Nat :=
  0x7FF0000000000000

/-- Zero, of either sign. -/
def zero (negative : Bool) : Binary64 :=
  ofMagnitude negative 0

/-- Infinity, of either sign. -/
def infinity (negative : Bool) : Binary64 :=
  ofMagnitude negative infinityMagnitude

/-- The quiet NaN without payload. -/
def nan : Binary64 :=
  ⟨0x7FF8000000000000⟩

instance : Inhabited Binary64 := ⟨zero false⟩

/-- The bits without the sign. -/
def magnitude (x : Binary64) : Nat :=
  x.bits.toNat % signBit

/-- Whether the sign bit is set. -/
def isNegative (x : Binary64) : Bool :=
  signBit ≤ x.bits.toNat

def isNaN (x : Binary64) : Bool :=
  infinityMagnitude < x.magnitude

def isFinite (x : Binary64) : Bool :=
  x.magnitude < infinityMagnitude

def isZero (x : Binary64) : Bool :=
  x.magnitude = 0

/-- The factor `m` of a finite magnitude `m * 2 ^ q`. -/
def significand (x : Binary64) : Nat :=
  if x.magnitude < leastFactor then x.magnitude else leastFactor + x.magnitude % leastFactor

/-- The exponent `q` of a finite magnitude `m * 2 ^ q`. -/
def exponent (x : Binary64) : Int :=
  if x.magnitude < leastFactor then -1074 else (x.magnitude / leastFactor : Nat) - 1075

/-- `n * 2 ^ e` and `d` for `0 ≤ e`, else `n` and `d * 2 ^ (-e)`: a quotient times a power. -/
def scale (base : Nat) (n d : Nat) (e : Int) : Nat × Nat :=
  if 0 ≤ e then (n * Nat.pow base e.toNat, d) else (n, d * Nat.pow base (-e).toNat)

/-- A finite magnitude as a quotient of naturals. -/
def ratio (x : Binary64) : Nat × Nat :=
  scale 2 x.significand 1 x.exponent

/-- The largest `e` with `2 ^ e ≤ n / d`. -/
def floorLog2 (n d : Nat) : Int :=
  let e : Int := (n.log2 : Int) - d.log2
  let (n', d') := scale 2 n d (-e)
  if d' ≤ n' then e else e - 1

/-- The quotient rounded to the nearest natural, a tie to the even one. -/
def divideToEven (n d : Nat) : Nat :=
  let m := n / d
  let r := n % d
  if 2 * r < d then m else if d < 2 * r then m + 1 else m + m % 2

/-- The double nearest to `n / d`, with a sign. -/
def ofRatio (negative : Bool) (n d : Nat) : Binary64 :=
  if n = 0 then zero negative
  else
    let q := max (floorLog2 n d - 52) (-1074)
    let (n', d') := scale 2 n d (-q)
    ofMagnitude negative
      (min infinityMagnitude ((q + 1074).toNat * leastFactor + divideToEven n' d'))

/-- The double nearest to a natural number. -/
def ofNat (n : Nat) : Binary64 :=
  ofRatio false n 1

/-- The double nearest to an integer. -/
def ofInt (i : Int) : Binary64 :=
  ofRatio (i < 0) i.natAbs 1

/-- The double nearest to `n * 10 ^ e`. Far outside of the range of doubles the power is not
computed: the magnitude has `digits n` more places than `e` says. -/
def ofDecimal (negative : Bool) (n : Nat) (e : Int) : Binary64 :=
  let places : Int := e + (Decimal.digits n).length
  if n = 0 ∨ places < -330 then zero negative
  else if 310 < places then infinity negative
  else
    let (n', d') := scale 10 n 1 e
    ofRatio negative n' d'

/-- The rounded product of two finite numbers without regard to their signs. -/
def times (x y : Binary64) : Binary64 :=
  ofRatio false (x.ratio.1 * y.ratio.1) (x.ratio.2 * y.ratio.2)

/-- The rounded quotient of two finite numbers without regard to their signs; `y` is not zero. -/
def dividedBy (x y : Binary64) : Binary64 :=
  ofRatio false (x.ratio.1 * y.ratio.2) (x.ratio.2 * y.ratio.1)

/-- The number with the sign bit set or not. -/
def withSign (negative : Bool) (x : Binary64) : Binary64 :=
  ofMagnitude negative x.magnitude

end Binary64
end StoreAdmin
