import StoreAdmin.Json.Value
import StoreAdmin.Text.Hex

/-!
# Writing JSON

The compact form: no blanks, members in the order of the value. A string without a text is written
as half a surrogate pair, which again has none.
-/

namespace StoreAdmin.Json

/-- A character inside of a string literal. Quotes, backslashes and control characters are
escaped, the latter by a letter where there is one. -/
def escapeChar (c : Char) : List Char :=
  if c = '"' ∨ c = '\\' then ['\\', c]
  else if c = '\n' then ['\\', 'n']
  else if c = '\r' then ['\\', 'r']
  else if c = '\t' then ['\\', 't']
  else if c.toNat = 8 then ['\\', 'b']
  else if c.toNat = 12 then ['\\', 'f']
  else if c.toNat < 0x20 then '\\' :: 'u' :: Hex.padded Hex.lowerDigit 4 c.toNat
  else [c]

/-- The literal of a text. -/
def quote (text : List Char) : List Char :=
  '"' :: text.flatMap escapeChar ++ ['"']

/-- The literal of a string value. -/
def stringText : Option String → List Char
  | some text => quote text.toList
  | none => "\"\\ud800\"".toList

/-- A number as it was written, but for the case and the sign of the exponent mark. -/
def Number.text (n : Number) : List Char :=
  let digits (ds : List Decimal.Digit) := ds.map Decimal.Digit.toChar
  (if n.negative then ['-'] else []) ++ digits n.whole ++
    (if n.fraction = [] then [] else '.' :: digits n.fraction) ++
    match n.exponent with
    | none => []
    | some (down, ds) => 'e' :: (if down then ['-'] else []) ++ digits ds

mutual

/-- The text of a value. -/
def Value.text : Value → List Char
  | .null => "null".toList
  | .boolean b => if b then "true".toList else "false".toList
  | .number n => n.text
  | .string text => stringText text
  | .array items => '[' :: itemsText items ++ [']']
  | .object members => '{' :: membersText members ++ ['}']

/-- Items with commas between them. -/
def itemsText : List Value → List Char
  | [] => []
  | [v] => v.text
  | v :: rest => v.text ++ ',' :: itemsText rest

/-- Members with commas between them. -/
def membersText : List (Option String × Value) → List Char
  | [] => []
  | [(name, v)] => stringText name ++ ':' :: v.text
  | (name, v) :: rest => stringText name ++ ':' :: v.text ++ ',' :: membersText rest

end

end StoreAdmin.Json
