import StoreAdmin.Text.Marks

/-!
# Writing directions in domains

In a domain with letters that are written from right to left, each label must read in one direction
only, so that it looks the same wherever it is shown.
-/

namespace StoreAdmin.Url.Domain

/-- How a character takes part in the direction of a text. -/
inductive Direction where
  | leftToRight
  | rightToLeft
  | europeanDigit
  | arabicDigit
  | mark
  | neutral
  deriving DecidableEq

/-- The ranges of letters that are written from right to left. -/
def rightToLeftRanges : List (Nat × Nat) :=
  [(0x5BE, 0x5F4), (0x608, 0x608), (0x60B, 0x60B), (0x60D, 0x60D), (0x61B, 0x64A), (0x66D, 0x6D5),
   (0x6E5, 0x6E6), (0x6EE, 0x6EF), (0x6FA, 0x7F5), (0x7FA, 0x8C9), (0xFBB2, 0xFBC2),
   (0xFE73, 0xFE73), (0x10800, 0x1091B), (0x10920, 0x10B35), (0x10B40, 0x10D23),
   (0x10E80, 0x10FF6), (0x1E800, 0x1ED3D)]

/-- The ranges of characters above ASCII that take any direction. -/
def neutralRanges : List (Nat × Nat) :=
  [(0xA1, 0xD7), (0xF7, 0xF7), (0x2B9, 0x2BA), (0x2C2, 0x2CF), (0x2D2, 0x2ED), (0x2EF, 0x2FF),
   (0x375, 0x375), (0x3F6, 0x3F6), (0x58A, 0x58F), (0x606, 0x607), (0x609, 0x60A), (0x60C, 0x60C),
   (0x60E, 0x60F), (0x66A, 0x66A), (0x6DE, 0x6DE), (0x6E9, 0x6E9), (0x7F6, 0x7F9), (0x9F2, 0x9F3),
   (0x9FB, 0x9FB), (0xAF1, 0xAF1), (0xBF3, 0xBFA), (0xC78, 0xC7E), (0xE3F, 0xE3F), (0xF3A, 0xF3D),
   (0x1390, 0x1399), (0x1400, 0x1400), (0x169B, 0x169C), (0x17DB, 0x17DB), (0x17F0, 0x180A),
   (0x1940, 0x1945), (0x19DE, 0x19FF), (0x200C, 0x214D), (0x218A, 0x2335), (0x237B, 0x2394),
   (0x2396, 0x26AB), (0x26AD, 0x27FF), (0x2900, 0x2BFF), (0x2CE5, 0x2CEA), (0x2CF9, 0x2CFF),
   (0x2E00, 0x3004), (0x3008, 0x3020), (0x3030, 0x3030), (0x3037, 0x3037), (0x303D, 0x303F),
   (0x30A0, 0x30A0), (0x30FB, 0x30FB), (0x31C0, 0x31E3), (0x4DC0, 0x4DFF), (0xA490, 0xA4C6),
   (0xA60D, 0xA60F), (0xA673, 0xA67F), (0xA700, 0xA721), (0xA788, 0xA788), (0xA828, 0xA82B),
   (0xA838, 0xA839), (0xA874, 0xA877), (0xAB6A, 0xAB6B), (0xFD3E, 0xFE46), (0x10101, 0x10101),
   (0x10140, 0x1018C), (0x10190, 0x101A0), (0x1091F, 0x1091F), (0x10B39, 0x10B3F),
   (0x11052, 0x11065), (0x11660, 0x1166C), (0x11FD5, 0x11FF1), (0x16FE2, 0x16FE2),
   (0x1D1E9, 0x1D245), (0x1D300, 0x1D356), (0x1E2FF, 0x1E2FF), (0x1EEF0, 0x1F12F),
   (0x1F16D, 0x1F16F), (0x1F1AD, 0x1F1AD), (0x1F260, 0x1FBCA)]

/-- The ranges of Arabic digits. -/
def arabicDigitRanges : List (Nat × Nat) :=
  [(0x660, 0x669), (0x66B, 0x66C), (0x10D30, 0x10E7E)]

/-- The ranges of digits that are written as the European ones are. -/
def europeanDigitRanges : List (Nat × Nat) :=
  [(0x6F0, 0x6F9), (0x102E1, 0x102FB)]

/-- The direction of a character. -/
def Direction.of (c : Char) : Direction :=
  if c.toNat < 0x80 then
    if c.isAlpha then .leftToRight else if c.isDigit then .europeanDigit else .neutral
  else if Text.isNonspacing c then .mark
  else if Text.inRanges rightToLeftRanges c then .rightToLeft
  else if Text.inRanges arabicDigitRanges c then .arabicDigit
  else if Text.inRanges europeanDigitRanges c then .europeanDigit
  else if Text.inRanges neutralRanges c then .neutral
  else .leftToRight

/-- Whether a label makes the directions of its domain matter. -/
def hasRightToLeft (label : List Char) : Bool :=
  label.any fun c => Direction.of c = .rightToLeft || Direction.of c = .arabicDigit

/-- Whether directions make up a label from left to right: it has no letter or digit of the other
direction, and ends, marks not counted, with a letter or a digit. -/
def readsRight (directions : List Direction) : Bool :=
  directions.all (fun d => d ≠ .rightToLeft && d ≠ .arabicDigit) &&
    match directions.reverse.dropWhile (· = .mark) with
    | d :: _ => d = .leftToRight || d = .europeanDigit
    | [] => false

/-- Whether directions make up a label from right to left: it has no letter of the other direction
and not both kinds of digits, and ends, marks not counted, with a letter or a digit. -/
def readsLeft (directions : List Direction) : Bool :=
  directions.all (· ≠ .leftToRight) &&
    !(directions.contains .europeanDigit && directions.contains .arabicDigit) &&
    match directions.reverse.dropWhile (· = .mark) with
    | d :: _ => d ≠ .neutral
    | [] => false

/-- Whether a label reads in one direction. Its first letter says in which. -/
def hasOneDirection (label : List Char) : Bool :=
  match label.map Direction.of with
  | [] => true
  | .leftToRight :: rest => readsRight (.leftToRight :: rest)
  | .rightToLeft :: rest => readsLeft (.rightToLeft :: rest)
  | _ => false

end StoreAdmin.Url.Domain
