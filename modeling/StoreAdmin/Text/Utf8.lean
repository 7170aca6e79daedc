/-!
# UTF-8

Bodies are lists of bytes and texts are lists of characters. A byte sequence is first cut into
units: the encoding of one character, or a longest start of an encoding that goes no further.
Strict reading asks that every unit is a character, lenient reading shows U+FFFD for the others.
-/

namespace StoreAdmin.Utf8

/-- The bytes of a text. -/
def encode (text : List Char) : List UInt8 :=
  text.flatMap String.utf8EncodeChar

/-- Continuation bytes are `80` to `BF`. -/
def isTail (b : UInt8) : Bool :=
  0x80 ≤ b && b ≤ 0xBF

/-- The bytes that may follow a lead byte. A second byte outside of this range would give an
overlong form, a surrogate or a value above U+10FFFF. -/
def secondRange (lead : UInt8) : UInt8 × UInt8 :=
  if lead = 0xE0 then (0xA0, 0xBF)
  else if lead = 0xED then (0x80, 0x9F)
  else if lead = 0xF0 then (0x90, 0xBF)
  else if lead = 0xF4 then (0x80, 0x8F)
  else (0x80, 0xBF)

/-- Whether `b` may come second after `lead`. -/
def isSecond (lead b : UInt8) : Bool :=
  (secondRange lead).1 ≤ b && b ≤ (secondRange lead).2

/-- The character whose bits are split over a lead value and the low six bits of some bytes. -/
def assemble (lead : Nat) (tail : List UInt8) : Char :=
  Char.ofNat (tail.foldl (fun n b => n * 64 + b.toNat % 64) lead)

/-- The unit that starts with the byte `lead`, and how many bytes it takes. -/
def unit (lead : UInt8) (rest : List UInt8) : Option Char × Nat :=
  if lead < 0x80 then (some (assemble lead.toNat []), 1)
  else if lead < 0xC2 then (none, 1)
  else if lead < 0xE0 then
    match rest with
    | b :: _ => if isSecond lead b then (some (assemble (lead.toNat % 32) [b]), 2) else (none, 1)
    | [] => (none, 1)
  else if lead < 0xF0 then
    match rest with
    | b :: c :: _ =>
      if !isSecond lead b then (none, 1)
      else if isTail c then (some (assemble (lead.toNat % 16) [b, c]), 3)
      else (none, 2)
    | [b] => (none, if isSecond lead b then 2 else 1)
    | [] => (none, 1)
  else if lead < 0xF5 then
    match rest with
    | b :: c :: d :: _ =>
      if !isSecond lead b then (none, 1)
      else if !isTail c then (none, 2)
      else if isTail d then (some (assemble (lead.toNat % 8) [b, c, d]), 4)
      else (none, 3)
    | [b, c] => (none, if !isSecond lead b then 1 else if isTail c then 3 else 2)
    | [b] => (none, if isSecond lead b then 2 else 1)
    | [] => (none, 1)
  else (none, 1)

/-- The units of `bytes` after `skip` bytes that belong to the unit before them. -/
def unitsFrom : Nat → List UInt8 → List (Option Char)
  | _, [] => []
  | skip + 1, _ :: rest => unitsFrom skip rest
  | 0, lead :: rest => (unit lead rest).1 :: unitsFrom ((unit lead rest).2 - 1) rest

/-- Cuts bytes into units; `none` stands for bytes that encode no character. -/
def units (bytes : List UInt8) : List (Option Char) :=
  unitsFrom 0 bytes

/-- The text of a list of units, if each of them is a character. -/
def sequence? : List (Option Char) → Option (List Char)
  | [] => some []
  | none :: _ => none
  | some c :: rest => (sequence? rest).map (c :: ·)

/-- The text that `bytes` encode, if they encode one. -/
def decode? (bytes : List UInt8) : Option (List Char) :=
  sequence? (units bytes)

/-- The text of `bytes`, with U+FFFD for what encodes no character. -/
def decodeLossy (bytes : List UInt8) : List Char :=
  (units bytes).map (·.getD (Char.ofNat 0xFFFD))

end StoreAdmin.Utf8
