import StoreAdmin.Text.Hex
import StoreAdmin.Text.Utf8

/-!
# Percent encoding

Bytes that may not stand in a part of an address are written as `%` with two hexadecimal digits.
Which characters stand for themselves depends on the part; characters outside of ASCII never do.
-/

namespace StoreAdmin.Url

/-- A byte as `%` with two digits. -/
def escapeByte (b : UInt8) : List Char :=
  ['%', Hex.upperDigit (b.toNat / 16), Hex.upperDigit (b.toNat % 16)]

/-- A character with its bytes escaped. -/
def escapeChar (c : Char) : List Char :=
  (String.utf8EncodeChar c).flatMap escapeByte

/-- A text in which the characters that satisfy `plain` stand for themselves. -/
def percentEncode (plain : Char → Bool) (text : List Char) : List Char :=
  text.flatMap fun c => if plain c then [c] else escapeChar c

/-- The bytes that a text stands for. A `%` without two digits behind it stands for itself. -/
def percentDecode : List Char → List UInt8
  | [] => []
  | c :: rest =>
    match rest with
    | high :: low :: rest' =>
      match Hex.digit? high, Hex.digit? low with
      | some h, some l =>
        if c = '%' then UInt8.ofNat (16 * h + l) :: percentDecode rest'
        else String.utf8EncodeChar c ++ percentDecode (high :: low :: rest')
      | _, _ => String.utf8EncodeChar c ++ percentDecode (high :: low :: rest')
    | rest => String.utf8EncodeChar c ++ percentDecode rest

/-! ## Plain characters -/

/-- Letters, digits and the four marks that never need escaping. -/
def isUnreserved (c : Char) : Bool :=
  c.isAlphanum || c = '-' || c = '.' || c = '_' || c = '~'

/-- Visible ASCII characters, and the space. -/
def isPrintableAscii (c : Char) : Bool :=
  0x20 ≤ c.toNat && c.toNat < 0x7F

/-- Visible ASCII characters other than the given ones. -/
def isVisibleExcept (reserved : String) (c : Char) : Bool :=
  isPrintableAscii c && c ≠ ' ' && !reserved.toList.contains c

/-- The characters that stand for themselves in a fragment. -/
def isFragmentChar : Char → Bool :=
  isVisibleExcept "\"<>\x60"

/-- The characters that stand for themselves in a segment of a path. -/
def isPathChar : Char → Bool :=
  isVisibleExcept "\"<>\x60#?\x7b\x7d"

/-- The characters that stand for themselves in a user name or a password. -/
def isUserInfoChar : Char → Bool :=
  isVisibleExcept "\"<>\x60#?\x7b\x7d/:;=@[\\]^|"

/-- The characters that stand for themselves in a query; schemes that have hosts also escape the
single quote. -/
def isQueryChar (special : Bool) (c : Char) : Bool :=
  isVisibleExcept "\"#<>" c && !(special && c = '\'')

/-! ## Form encoding -/

/-- A text of a form: spaces become plus signs. -/
def formEncode (text : List Char) : List Char :=
  text.flatMap fun c =>
    if c.isAlphanum || c = '*' || c = '-' || c = '.' || c = '_' then [c]
    else if c = ' ' then ['+'] else escapeChar c

/-- The text of a form with these fields. -/
def formText : List (String × String) → List Char
  | [] => []
  | [(key, value)] => formEncode key.toList ++ '=' :: formEncode value.toList
  | (key, value) :: rest =>
    formEncode key.toList ++ '=' :: formEncode value.toList ++ '&' :: formText rest

end StoreAdmin.Url
