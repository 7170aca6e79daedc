import StoreAdmin.Json.Value
import StoreAdmin.Number.Shortest

/-!
# JSON numbers as doubles

The digits are collected in a word of 64 bits as long as they fit; further ones only count as
places. The word is turned into a double and then scaled by a power of ten, with a rounding at each
of these steps. The result can therefore differ in its last bit from the double nearest to the
literal. A literal beyond the largest double has no value.

A double is written with the fewest digits that read back; what is not finite is written as `null`.
-/

namespace StoreAdmin.Json

/-- The largest collected word. -/
def maxWord : Nat := UInt64.size - 1

/-- Collects digits of the whole part; the second component counts those that did not fit. -/
def collectWhole : Nat → List Decimal.Digit → Nat × Nat
  | word, [] => (word, 0)
  | word, d :: rest =>
    if word * 10 + d.val ≤ maxWord then collectWhole (word * 10 + d.val) rest
    else (word, rest.length + 1)

/-- Collects digits of the fraction up to the first that does not fit; the second component counts
those that did. -/
def collectFraction : Nat → Nat → List Decimal.Digit → Nat × Nat
  | word, taken, [] => (word, taken)
  | word, taken, d :: rest =>
    if word * 10 + d.val ≤ maxWord then collectFraction (word * 10 + d.val) (taken + 1) rest
    else (word, taken)

/-- The largest power of ten that is a finite double. -/
def maxPower : Nat := 308

/-- A power of ten as a double. -/
def powerOfTen (k : Nat) : Binary64 :=
  Binary64.ofNat (Nat.pow 10 k)

/-- The word as a double, scaled by a power of ten. A deep power is divided out in two steps, after
which nothing is left of the word if there would be a third. -/
def scaleWord (word : Nat) (e : Int) : Option Binary64 :=
  let x := Binary64.ofNat word
  if word = 0 then some x
  else if 0 ≤ e then
    if maxPower < e.toNat then none
    else
      let y := x.times (powerOfTen e.toNat)
      if y.isFinite then some y else none
  else
    let k := (-e).toNat
    if k ≤ maxPower then some (x.dividedBy (powerOfTen k))
    else if k ≤ 2 * maxPower then
      some ((x.dividedBy (powerOfTen maxPower)).dividedBy (powerOfTen (k - maxPower)))
    else some (Binary64.zero false)

/-- The exponent that a literal writes. -/
def Number.power (n : Number) : Int :=
  match n.exponent with
  | none => 0
  | some (true, ds) => -(Decimal.value ds : Int)
  | some (false, ds) => Decimal.value ds

/-- The double of a literal. -/
def Number.real? (n : Number) : Option Binary64 :=
  let (word, dropped) := collectWhole 0 n.whole
  let (word, taken) := collectFraction word 0 n.fraction
  (scaleWord word (n.power + dropped - taken)).map (Binary64.withSign n.negative)

/-- The literal of a finite double. -/
def Number.ofReal (x : Binary64) : Number :=
  let s := Binary64.spelling .json x
  { negative := x.isNegative, whole := s.whole, fraction := s.fraction,
    exponent := s.exponent.map fun e => (e < 0, Decimal.digits e.natAbs) }

/-- The value that stands for a double. -/
def Value.ofReal (x : Binary64) : Value :=
  if x.isFinite then .number (Number.ofReal x) else .null

end StoreAdmin.Json
