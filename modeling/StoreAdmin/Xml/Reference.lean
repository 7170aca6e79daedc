import StoreAdmin.Text.Hex
import StoreAdmin.Number.Decimal

/-!
# Character references

In text and attribute values `&` starts a reference that ends at `;`. The five predefined entities
and numbers are known. A printer replaces the three characters that are markup in text.
-/

namespace StoreAdmin.Xml

/-- The number in a numeric reference. -/
def referenceNumber? : List Char → Option Nat
  | 'x' :: digits => if digits = [] then none else
      digits.foldl (fun n c => n.bind fun n => (Hex.digit? c).map (n * 16 + ·)) (some 0)
  | digits => Decimal.nat? digits

/-- The character with a number: no NUL, no surrogate, nothing above U+10FFFF. -/
def charOfNumber? (n : Nat) : Option Char :=
  if h : n.isValidChar ∧ n ≠ 0 then some (Char.ofNatAux n h.1) else none

/-- The character that a reference stands for. -/
def reference? (name : List Char) : Option Char :=
  match name with
  | '#' :: number => (referenceNumber? number).bind charOfNumber?
  | name =>
    if name = "lt".toList then some '<'
    else if name = "gt".toList then some '>'
    else if name = "amp".toList then some '&'
    else if name = "apos".toList then some '\''
    else if name = "quot".toList then some '"'
    else none

/-- Replaces references; `pending` is the reversed name of the reference that is being read. -/
def resolveFrom : Option (List Char) → List Char → Option (List Char)
  | none, [] => some []
  | some _, [] => none
  | none, c :: rest =>
    if c = '&' then resolveFrom (some []) rest else (resolveFrom none rest).map (c :: ·)
  | some name, c :: rest =>
    if c = ';' then
      match reference? name.reverse with
      | some d => (resolveFrom none rest).map (d :: ·)
      | none => none
    else if c = '&' then none
    else resolveFrom (some (c :: name)) rest

/-- The text that is meant by raw text. -/
def resolve? (raw : List Char) : Option (List Char) :=
  resolveFrom none raw

/-- A character of text as it is written. -/
def escapeChar (c : Char) : List Char :=
  if c = '<' then "&lt;".toList
  else if c = '>' then "&gt;".toList
  else if c = '&' then "&amp;".toList
  else [c]

/-- A text as it is written. -/
def escape (text : List Char) : List Char :=
  text.flatMap escapeChar

end StoreAdmin.Xml
