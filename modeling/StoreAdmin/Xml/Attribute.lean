import StoreAdmin.Text.Blank

/-!
# Attributes

The attributes of a start tag are a list of names and quoted values. A name reaches to the equals
sign or to a blank, blanks may stand around the equals sign, and no blank is needed behind a value.
No name may come twice.
-/

namespace StoreAdmin.Xml

/-- An attribute with its value as it is written. -/
structure Attribute where
  name : List Char
  raw : List Char

/-- How far an attribute has been read; contents are in reverse order. -/
inductive AttributePart where
  | gap
  | name (chars : List Char)
  | equals (name : List Char)
  | value (name : List Char)
  | quoted (name : List Char) (quote : Char) (chars : List Char)

/-- Reads the attributes that follow those `found` so far. -/
def attributesFrom (found : List Attribute) :
    AttributePart → List Char → Option (List Attribute)
  | .gap, [] => some found.reverse
  | _, [] => none
  | .gap, c :: rest =>
    if Text.isBlank c then attributesFrom found .gap rest
    else attributesFrom found (.name [c]) rest
  | .name chars, c :: rest =>
    if c = '=' then attributesFrom found (.value chars.reverse) rest
    else if Text.isBlank c then attributesFrom found (.equals chars.reverse) rest
    else attributesFrom found (.name (c :: chars)) rest
  | .equals name, c :: rest =>
    if c = '=' then attributesFrom found (.value name) rest
    else if Text.isBlank c then attributesFrom found (.equals name) rest
    else none
  | .value name, c :: rest =>
    if Text.isBlank c then attributesFrom found (.value name) rest
    else if (c = '"' ∨ c = '\'') ∧ found.all (·.name ≠ name) then
      attributesFrom found (.quoted name c []) rest
    else none
  | .quoted name quote chars, c :: rest =>
    if c = quote then attributesFrom (⟨name, chars.reverse⟩ :: found) .gap rest
    else attributesFrom found (.quoted name quote (c :: chars)) rest

/-- The attributes written in the part of a start tag behind its name. -/
def attributes? (raw : List Char) : Option (List Attribute) :=
  attributesFrom [] .gap raw

end StoreAdmin.Xml
