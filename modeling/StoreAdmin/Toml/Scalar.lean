import StoreAdmin.Number.Parse
import StoreAdmin.Text.Hex

/-!
# TOML scalars

Words that stand without quotes: flags, integers to four bases, floating-point numbers and points in
time. Digits may be separated by single underscores. Points in time are checked but not kept.
-/

namespace StoreAdmin.Toml

/-- A value that is written without quotes. -/
inductive Scalar where
  | flag (b : Bool)
  | integer (i : Int)
  | real (x : Binary64)
  | time

/-- Digits with single underscores between them, without the underscores. -/
def digits? (isDigit : Char → Bool) : List Char → Option (List Char)
  | [] => none
  | [c] => if isDigit c then some [c] else none
  | c :: rest =>
    if isDigit c then
      (match rest with
      | '_' :: rest' => digits? isDigit rest'
      | rest => digits? isDigit rest).map (c :: ·)
    else none

/-- Whether digits have no zero in front. -/
def isPlainNumber : List Char → Bool
  | '0' :: _ :: _ => false
  | _ => true

/-- A sign in front of a text, and the text behind it. -/
def signed : List Char → Bool × List Char
  | '-' :: rest => (true, rest)
  | '+' :: rest => (false, rest)
  | text => (false, text)

/-- The value of digits to a base. -/
def valueOf (base : Nat) (digits : List Char) : Nat :=
  digits.foldl (fun n c => base * n + (Hex.digit? c).getD 0) 0

/-- A natural number to a base that its first two characters name. -/
def based? : List Char → Option Nat
  | '0' :: 'x' :: rest => (digits? (fun c => (Hex.digit? c).isSome) rest).map (valueOf 16)
  | '0' :: 'o' :: rest => (digits? (fun c => '0' ≤ c ∧ c ≤ '7') rest).map (valueOf 8)
  | '0' :: 'b' :: rest => (digits? (fun c => c = '0' ∨ c = '1') rest).map (valueOf 2)
  | _ => none

/-- A decimal integer without zeros in front. -/
def decimal? (text : List Char) : Option Int :=
  match signed text with
  | (negative, text) =>
    match digits? Char.isDigit text with
    | some digits =>
      if isPlainNumber digits then
        let n : Int := valueOf 10 digits
        some (if negative then -n else n)
      else none
    | none => none

/-- An integer of at most 128 bits. -/
def integer? (text : List Char) : Option Int :=
  let i? : Option Int :=
    match based? text with
    | some n => some n
    | none => decimal? text
  i?.bind fun i => if -(Nat.pow 2 127 : Int) ≤ i ∧ i < Nat.pow 2 128 then some i else none

/-- The parts of a text around the first character that satisfies `p`. -/
def cut? (p : Char → Bool) (text : List Char) : Option (List Char × List Char) :=
  match text.span (!p ·) with
  | (before, _ :: after) => some (before, after)
  | (_, []) => none

/-- A floating-point number: a whole part with a fraction, an exponent or both. It must not be too
large for a double. -/
def real? (text : List Char) : Option Binary64 :=
  let (negative, body) := signed text
  if body = "inf".toList then some (Binary64.infinity negative)
  else if body = "nan".toList then some Binary64.nan
  else
    let isE (c : Char) : Bool := c = 'e' || c = 'E'
    let (mantissa, exponent) :=
      match cut? isE body with
      | some (m, e) => (m, some (signed e))
      | none => (body, none)
    let (whole, fraction) :=
      match cut? (· = '.') mantissa with
      | some (w, f) => (w, some f)
      | none => (mantissa, none)
    if fraction.isNone && exponent.isNone then none
    else
      match digits? Char.isDigit whole,
          (fraction.map (digits? Char.isDigit)).getD (some []),
          (exponent.map fun e => digits? Char.isDigit e.2).getD (some ['0']) with
      | some w, some f, some e =>
        if isPlainNumber w then
          let sign (b : Bool) := if b then ['-'] else []
          let spelled := sign negative ++ w ++ (if f = [] then [] else '.' :: f) ++
            'e' :: sign ((exponent.map (·.1)).getD false) ++ e
          (Binary64.ofText? spelled).bind fun x => if x.isFinite then some x else none
        else none
      | _, _, _ => none

/-! ## Points in time -/

/-- A number of exactly `count` digits within bounds, and what follows it. -/
def field? (count low high : Nat) (text : List Char) : Option (Nat × List Char) :=
  let digits := text.take count
  if digits.length = count ∧ digits.all Char.isDigit then
    let n := valueOf 10 digits
    if low ≤ n ∧ n ≤ high then some (n, text.drop count) else none
  else none

/-- The days of a month. -/
def daysIn (year month : Nat) : Nat :=
  if month = 2 then
    if year % 4 = 0 ∧ (year % 100 ≠ 0 ∨ year % 400 = 0) then 29 else 28
  else if month = 4 ∨ month = 6 ∨ month = 9 ∨ month = 11 then 30
  else 31

/-- What follows a date. -/
def afterDate? (text : List Char) : Option (List Char) :=
  match field? 4 0 9999 text with
  | some (year, '-' :: text) =>
    match field? 2 1 12 text with
    | some (month, '-' :: text) => (field? 2 1 (daysIn year month) text).map (·.2)
    | _ => none
  | _ => none

/-- What follows the seconds of a time, which may have a fraction. -/
def afterFraction? : List Char → Option (List Char)
  | '.' :: text =>
    if (text.takeWhile Char.isDigit) = [] then none else some (text.dropWhile Char.isDigit)
  | text => some text

/-- What follows a time. The seconds may be missing. -/
def afterTime? (text : List Char) : Option (List Char) :=
  match field? 2 0 23 text with
  | some (_, ':' :: text) =>
    match field? 2 0 59 text with
    | some (_, ':' :: text) => (field? 2 0 60 text).bind fun found => afterFraction? found.2
    | some (_, text) => some text
    | none => none
  | _ => none

/-- Whether a text is the distance of a clock from the common time, or nothing. -/
def isOffset : List Char → Bool
  | [] => true
  | ['Z'] => true
  | ['z'] => true
  | sign :: text =>
    (sign = '+' || sign = '-') &&
      match field? 2 0 23 text with
      | some (_, ':' :: text) => (field? 2 0 59 text).map (·.2) = some []
      | _ => false

/-- Whether a text is a date, a time, or both. -/
def isTime (text : List Char) : Bool :=
  match afterDate? text with
  | some [] => true
  | some (c :: rest) =>
    (c = 'T' || c = 't' || c = ' ') &&
      match afterTime? rest with
      | some offset => isOffset offset
      | none => false
  | none => afterTime? text = some []

/-- The scalar that a word stands for. -/
def scalar? (word : List Char) : Option Scalar :=
  if word = "true".toList then some (.flag true)
  else if word = "false".toList then some (.flag false)
  else
    match integer? word, real? word with
    | some i, _ => some (.integer i)
    | none, some x => some (.real x)
    | none, none => if isTime word then some .time else none

end StoreAdmin.Toml
