/-!
# Blanks

Two classes of blank characters are in use: the four of markup (space, tab, carriage return, line
feed) and the white space of Unicode. Trimming is the same for every class.
-/

namespace StoreAdmin.Text

/-- The blanks of XML and JSON: space, tab, line feed and carriage return. -/
def isBlank (c : Char) : Bool :=
  c = ' ' || c = '\t' || c = '\n' || c = '\r'

/-- The code points with the property `White_Space`. -/
def whiteSpace : List (Nat × Nat) :=
  [(0x09, 0x0D), (0x20, 0x20), (0x85, 0x85), (0xA0, 0xA0), (0x1680, 0x1680), (0x2000, 0x200A),
   (0x2028, 0x2029), (0x202F, 0x202F), (0x205F, 0x205F), (0x3000, 0x3000)]

/-- The white space of Unicode. -/
def isWhiteSpace (c : Char) : Bool :=
  whiteSpace.any fun range => range.1 ≤ c.toNat && c.toNat ≤ range.2

/-- Drops the longest end whose characters satisfy `p`. -/
def trimEnd (p : Char → Bool) (text : List Char) : List Char :=
  (text.reverse.dropWhile p).reverse

/-- Drops the longest start and the longest end whose characters satisfy `p`. -/
def trim (p : Char → Bool) (text : List Char) : List Char :=
  trimEnd p (text.dropWhile p)

end StoreAdmin.Text
