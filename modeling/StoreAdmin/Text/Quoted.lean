import StoreAdmin.Text.Hex
import StoreAdmin.Text.Printable

/-!
# Quoted texts

How a log shows a text: between double quotes, with quotes, backslashes and the common control
characters behind a backslash, and everything that cannot be shown by its number.
-/

namespace StoreAdmin.Text

/-- A character inside of quotes. -/
def quotedChar (c : Char) : List Char :=
  if c = '"' ∨ c = '\\' then ['\\', c]
  else if c = '\n' then ['\\', 'n']
  else if c = '\r' then ['\\', 'r']
  else if c = '\t' then ['\\', 't']
  else if c.toNat = 0 then ['\\', '0']
  else if isShown c then [c]
  else "\\u\x7b".toList ++ Hex.lower c.toNat ++ ['}']

/-- A text in quotes. -/
def quoted (text : List Char) : List Char :=
  '"' :: text.flatMap quotedChar ++ ['"']

end StoreAdmin.Text
