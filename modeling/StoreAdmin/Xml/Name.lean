import StoreAdmin.Text.Range

/-!
# Element names

The characters that XML 1.1 allows at the start of a name and behind it.
-/

namespace StoreAdmin.Xml

/-- The ranges of characters that may start a name. -/
def nameStart : List (Nat × Nat) :=
  [(0x3A, 0x3A), (0x41, 0x5A), (0x5F, 0x5F), (0x61, 0x7A), (0xC0, 0xD6), (0xD8, 0xF6),
   (0xF8, 0x2FF), (0x370, 0x37D), (0x37F, 0x1FFF), (0x200C, 0x200D), (0x2070, 0x218F),
   (0x2C00, 0x2FEF), (0x3001, 0xD7FF), (0xF900, 0xFDCF), (0xFDF0, 0xFFFD), (0x10000, 0xEFFFF)]

/-- The ranges of characters that may only follow. -/
def nameRest : List (Nat × Nat) :=
  [(0x2D, 0x2E), (0x30, 0x39), (0xB7, 0xB7), (0x300, 0x36F), (0x203F, 0x2040)]

def isNameStart (c : Char) : Bool :=
  Text.inRanges nameStart c

def isNameChar (c : Char) : Bool :=
  isNameStart c || Text.inRanges nameRest c

/-- Whether a root may be written with this name. The empty name is let through. -/
def isWritableName : List Char → Bool
  | [] => true
  | c :: rest => isNameStart c && rest.all isNameChar

end StoreAdmin.Xml
