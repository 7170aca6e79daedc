/-!
# Punycode

A label with characters outside of ASCII is sent in ASCII: first its ASCII characters, then a list
of gaps that tells where the others go. The others are put in by code point and, for one code point,
by place; a gap counts the possibilities that are skipped. Gaps are written to base 36 with a digit
for the end that adapts to the size of the gaps before.
-/

namespace StoreAdmin.Url.Punycode

/-! ## Numbers -/

/-- The digit for a value below 36. -/
def digit (d : Nat) : Char :=
  if d < 26 then Char.ofNat ('a'.toNat + d) else Char.ofNat ('0'.toNat + (d - 26))

/-- The value of a digit. -/
def digit? (c : Char) : Option Nat :=
  if 'a' ≤ c ∧ c ≤ 'z' then some (c.toNat - 'a'.toNat)
  else if 'A' ≤ c ∧ c ≤ 'Z' then some (c.toNat - 'A'.toNat)
  else if '0' ≤ c ∧ c ≤ '9' then some (c.toNat - '0'.toNat + 26)
  else none

theorem digit?_digit {d : Nat} (h : d < 36) : digit? (digit d) = some d := by
  have all : ∀ e < 36, digit? (digit e) = some e := by decide
  exact all d h

/-- A digit below this value ends a number; `place` is 36 for the first digit, 72 for the second
one. -/
def threshold (bias place : Nat) : Nat :=
  if place ≤ bias then 1 else if bias + 26 ≤ place then 26 else place - bias

theorem threshold_bounds (bias place : Nat) :
    1 ≤ threshold bias place ∧ threshold bias place ≤ 26 := by
  unfold threshold
  grind

/-- The digits of a number from a place on. -/
def writeFrom (bias place n : Nat) : List Char :=
  if n < threshold bias place then [digit n]
  else
    digit (threshold bias place + (n - threshold bias place) % (36 - threshold bias place)) ::
      writeFrom bias (place + 36) ((n - threshold bias place) / (36 - threshold bias place))
termination_by n
decreasing_by
  have bounds := threshold_bounds bias place
  have smaller := Nat.div_le_self (n - threshold bias place) (36 - threshold bias place)
  omega

/-- Reads a number from a place on, where a digit counts `weight` times, and gives the rest. -/
def readFrom (bias : Nat) : Nat → Nat → List Char → Option (Nat × List Char)
  | _, _, [] => none
  | place, weight, c :: rest =>
    match digit? c with
    | none => none
    | some d =>
      if d < threshold bias place then some (d * weight, rest)
      else
        match readFrom bias (place + 36) (weight * (36 - threshold bias place)) rest with
        | some (n, rest') => some (d * weight + n, rest')
        | none => none

theorem length_readFrom {bias place weight : Nat} {text : List Char} {result : Nat × List Char}
    (h : readFrom bias place weight text = some result) : result.2.length < text.length := by
  induction text generalizing place weight result with
  | nil => simp [readFrom] at h
  | cons c rest ih =>
    rw [readFrom] at h
    split at h
    · simp at h
    · split at h
      · grind
      · split at h
        · next found =>
          have shorter := ih found
          grind
        · simp at h

theorem readFrom_writeFrom (bias place weight n : Nat) (rest : List Char) :
    readFrom bias place weight (writeFrom bias place n ++ rest) = some (n * weight, rest) := by
  induction n using Nat.strongRecOn generalizing place weight with
  | ind n ih =>
    have ⟨low, high⟩ := threshold_bounds bias place
    generalize bound : threshold bias place = t at low high
    rw [writeFrom]
    split
    · next last =>
      simp [readFrom, digit?_digit (show n < 36 by omega), last]
    · next more =>
      rw [bound] at more ⊢
      have remainder := Nat.mod_lt (n - t) (show 0 < 36 - t by omega)
      have quotient := Nat.div_le_self (n - t) (36 - t)
      have whole : t + (n - t) % (36 - t) + (n - t) / (36 - t) * (36 - t) = n := by
        have := Nat.mod_add_div' (n - t) (36 - t)
        omega
      rw [List.cons_append, readFrom, digit?_digit (by omega), bound]
      simp only [show ¬t + (n - t) % (36 - t) < t by omega, if_false]
      rw [ih _ (by omega)]
      simp only [Option.some.injEq, Prod.mk.injEq, and_true]
      rw [Nat.mul_comm weight, ← Nat.mul_assoc, ← Nat.add_mul, whole]

/-- How often a value is divided by 35 until it is at most 455, and what is left of it. -/
def damp (n : Nat) : Nat × Nat :=
  if n ≤ 455 then (0, n) else ((damp (n / 35)).1 + 1, (damp (n / 35)).2)
termination_by n

/-- The bias behind a gap, where `count` characters are in place. The first gap counts for less. -/
def adapt (first : Bool) (gap count : Nat) : Nat :=
  let half := if first then gap / 700 else gap / 2
  let (steps, n) := damp (half + half / count)
  36 * steps + 36 * n / (n + 38)

/-- The bias in front of the first gap. -/
def firstBias : Nat := 72

/-- The text of gaps, where `count` characters are in place before the first of them. -/
def writeGaps (first : Bool) (bias count : Nat) : List Nat → List Char
  | [] => []
  | gap :: rest =>
    writeFrom bias 36 gap ++ writeGaps false (adapt first gap (count + 1)) (count + 1) rest

/-- The gaps that a text writes. -/
def readGaps? (first : Bool) (bias count : Nat) (text : List Char) : Option (List Nat) :=
  if text = [] then some []
  else
    match h : readFrom bias 36 1 text with
    | none => none
    | some (gap, rest) =>
      (readGaps? false (adapt first gap (count + 1)) (count + 1) rest).map (gap :: ·)
termination_by text.length
decreasing_by exact length_readFrom h

/-! ## Labels -/

def isAscii (c : Char) : Bool :=
  c.toNat < 0x80

/-- The gaps that a pass over a text for one code point `n` writes, and the possibilities skipped at
its end; `skipped` are those at its start. -/
def passGaps (n : Nat) : List Char → Nat → List Nat × Nat
  | [], skipped => ([], skipped)
  | c :: rest, skipped =>
    if c.toNat < n then passGaps n rest (skipped + 1)
    else if c.toNat = n then
      let (gaps, left) := passGaps n rest 0
      (skipped :: gaps, left)
    else passGaps n rest skipped

/-- The gaps of a text for some code points in ascending order, where all code points below `next`
are done and `count` characters are in place. -/
def gapsFrom (text : List Char) (next count skipped : Nat) : List Nat → List Nat
  | [] => []
  | n :: rest =>
    let (gaps, left) := passGaps n text (skipped + (n - next) * (count + 1))
    gaps ++ gapsFrom text (n + 1) (count + gaps.length) (left + 1) rest

/-- The code points outside of ASCII in a text, each once and in ascending order. -/
def codePoints (text : List Char) : List Nat :=
  ((text.filter fun c => !isAscii c).map Char.toNat).mergeSort.eraseDups

/-- The form of a label in ASCII. -/
def encode (text : List Char) : List Char :=
  let plain := text.filter isAscii
  plain ++ (if plain = [] then [] else ['-']) ++
    writeGaps true firstBias plain.length (gapsFrom text 0x80 plain.length 0 (codePoints text))

/-- Puts a character into a text behind some others. -/
def insertAt (place : Nat) (c : Char) (text : List Char) : List Char :=
  text.take place ++ c :: text.drop place

/-- Puts characters into a text by their gaps, from code point `next` and place `place` on. -/
def insertGaps? (next place : Nat) (text : List Char) : List Nat → Option (List Char)
  | [] => some text
  | gap :: rest =>
    let n := next + (place + gap) / (text.length + 1)
    let place' := (place + gap) % (text.length + 1)
    if n.isValidChar then insertGaps? n (place' + 1) (insertAt place' (Char.ofNat n) text) rest
    else none

/-- Cuts a text at its last hyphen. A hyphen in front belongs to the second part. -/
def cut (text : List Char) : List Char × List Char :=
  let back := text.reverse
  match (back.dropWhile (· ≠ '-')).drop 1 with
  | [] => ([], text)
  | plain => (plain.reverse, (back.takeWhile (· ≠ '-')).reverse)

/-- The label that a form in ASCII stands for. -/
def decode? (text : List Char) : Option (List Char) :=
  let (plain, code) := cut text
  (readGaps? true firstBias plain.length code).bind (insertGaps? 0x80 0 plain)

end StoreAdmin.Url.Punycode
