import StoreAdmin.Text.Case

/-!
# Lower case

Every character is mapped on its own, except for the capital sigma, whose form depends on whether it
ends a word. One character has a lower case of two.
-/

namespace StoreAdmin.Text

/-- The lower case of a character outside of any word. -/
def lowerChar (c : Char) : List Char :=
  if c.toNat < 0x80 then [c.toLower]
  else if c.toNat = 0x130 then [Char.ofNat 0x69, Char.ofNat 0x307]
  else
    match lowerRuns.find? fun r =>
      r.1 ≤ c.toNat && c.toNat ≤ r.2.1 && (c.toNat - r.1) % r.2.2.1 = 0 with
    | some r => [Char.ofNat (c.toNat + r.2.2.2).toNat]
    | none => [c]

/-- Whether the first character that is not looked through has case. -/
def startsCased (text : List Char) : Bool :=
  match text.dropWhile isCaseIgnored with
  | c :: _ => isCased c
  | [] => false

/-- The lower case of `rest`, where `before` is the text in front of it in reverse order. -/
def lowerFrom (before : List Char) : List Char → List Char
  | [] => []
  | c :: rest =>
    (if c.toNat = 0x3A3 then
      [Char.ofNat (if startsCased before && !startsCased rest then 0x3C2 else 0x3C3)]
    else lowerChar c) ++ lowerFrom (c :: before) rest

/-- The lower case of a text. -/
def lower (text : List Char) : List Char :=
  lowerFrom [] text

end StoreAdmin.Text
