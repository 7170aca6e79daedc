import StoreAdmin.Text.Composed
import StoreAdmin.Text.Split
import StoreAdmin.Url.Domain.Direction
import StoreAdmin.Url.Domain.Joiner
import StoreAdmin.Url.Domain.Mapping
import StoreAdmin.Url.Domain.Punycode

/-!
# Domains

A domain is a row of labels with full stops between them. It is read in its plain spelling and sent
in ASCII: labels with other characters are encoded, and labels that come encoded must be what the
plain spelling of some label is encoded to.
-/

namespace StoreAdmin.Url

/-- The ASCII characters that a domain may not hold. -/
def isForbidden (c : Char) : Bool :=
  c.toNat ≤ 0x20 || c.toNat = 0x7F || "%#/:<>?@[\\]^|".toList.contains c

namespace Domain

/-- A label: what it says, and how it is sent. -/
structure Label where
  shown : List Char
  sent : List Char
  deriving DecidableEq

/-- The plain spelling of a text, unless one of its characters is refused. -/
def plain? (text : List Char) : Option (List Char) :=
  (text.mapM spelling?).map fun words => Text.compose words.flatten

/-- The sign of a label that is encoded. -/
def encodedSign : List Char :=
  "xn--".toList

/-- Longer labels are not encoded. -/
def longestEncoded : Nat := 1000

/-- Longer labels are not decoded. -/
def longestDecoded : Nat := 2000

/-- A label that comes encoded, from the text behind the sign. -/
def Label.ofCode? (code : List Char) : Option Label :=
  if longestDecoded < code.length then none
  else
    match Punycode.decode? code with
    | none => none
    | some shown =>
      if shown.all Punycode.isAscii then none
      else if plain? shown = some shown then some ⟨shown, encodedSign ++ code⟩
      else none

/-- A label from its plain spelling. -/
def Label.ofText? (text : List Char) : Option Label :=
  if encodedSign.isPrefixOf text then Label.ofCode? (text.drop encodedSign.length)
  else if text.all Punycode.isAscii then some ⟨text, text⟩
  else if longestEncoded < text.length then none
  else some ⟨text, encodedSign ++ Punycode.encode text⟩

/-- Whether a label starts with a character of its own and holds joiners only where they matter. -/
def Label.isFit (l : Label) : Bool :=
  !(l.shown.take 1).any Text.isMark && joinersFit [] l.shown

/-- Whether the directions of some labels go together. -/
def directionsFit (labels : List Label) : Bool :=
  !labels.any (fun l => hasRightToLeft l.shown) || labels.all fun l => hasOneDirection l.shown

/-- The labels of a domain. -/
def labels? (text : List Char) : Option (List Label) :=
  (plain? text).bind fun plain => (Text.splitWhere (· = '.') plain).mapM Label.ofText?

end Domain

/-- The form in which a domain is sent. -/
def domain? (text : List Char) : Option (List Char) :=
  match Domain.labels? text with
  | none => none
  | some labels =>
    let sent := ['.'].intercalate (labels.map (·.sent))
    if labels.all Domain.Label.isFit && Domain.directionsFit labels && !sent.any isForbidden then
      some sent
    else none

end StoreAdmin.Url
