/-!
# SHA-256

The hash function: a message is filled up to blocks of 64 bytes, and each block is mixed into eight
words of 32 bits. The initial words and the constants of the rounds are the first bits of the
fractional parts of roots of the first primes.
-/

namespace StoreAdmin.Sha256

/-- The constants of the sixty-four rounds. -/
def roundConstants : List UInt32 :=
  [0x428a2f98, 0x71374491, 0xb5c0fbcf, 0xe9b5dba5, 0x3956c25b, 0x59f111f1, 0x923f82a4, 0xab1c5ed5,
   0xd807aa98, 0x12835b01, 0x243185be, 0x550c7dc3, 0x72be5d74, 0x80deb1fe, 0x9bdc06a7, 0xc19bf174,
   0xe49b69c1, 0xefbe4786, 0x0fc19dc6, 0x240ca1cc, 0x2de92c6f, 0x4a7484aa, 0x5cb0a9dc, 0x76f988da,
   0x983e5152, 0xa831c66d, 0xb00327c8, 0xbf597fc7, 0xc6e00bf3, 0xd5a79147, 0x06ca6351, 0x14292967,
   0x27b70a85, 0x2e1b2138, 0x4d2c6dfc, 0x53380d13, 0x650a7354, 0x766a0abb, 0x81c2c92e, 0x92722c85,
   0xa2bfe8a1, 0xa81a664b, 0xc24b8b70, 0xc76c51a3, 0xd192e819, 0xd6990624, 0xf40e3585, 0x106aa070,
   0x19a4c116, 0x1e376c08, 0x2748774c, 0x34b0bcb5, 0x391c0cb3, 0x4ed8aa4a, 0x5b9cca4f, 0x682e6ff3,
   0x748f82ee, 0x78a5636f, 0x84c87814, 0x8cc70208, 0x90befffa, 0xa4506ceb, 0xbef9a3f7, 0xc67178f2]

/-- The words that are mixed. -/
structure State where
  a : UInt32
  b : UInt32
  c : UInt32
  d : UInt32
  e : UInt32
  f : UInt32
  g : UInt32
  h : UInt32

/-- The words before the first block. -/
def initial : State :=
  { a := 0x6a09e667, b := 0xbb67ae85, c := 0x3c6ef372, d := 0xa54ff53a,
    e := 0x510e527f, f := 0x9b05688c, g := 0x1f83d9ab, h := 0x5be0cd19 }

/-- A word turned to the right. -/
def turn (n : UInt32) (x : UInt32) : UInt32 :=
  (x >>> n) ||| (x <<< (32 - n))

/-- One round with a constant and a word of the block. -/
def round (s : State) (k w : UInt32) : State :=
  let sum1 := turn 6 s.e ^^^ turn 11 s.e ^^^ turn 25 s.e
  let choice := (s.e &&& s.f) ^^^ ((~~~ s.e) &&& s.g)
  let t1 := s.h + sum1 + choice + k + w
  let sum0 := turn 2 s.a ^^^ turn 13 s.a ^^^ turn 22 s.a
  let majority := (s.a &&& s.b) ^^^ (s.a &&& s.c) ^^^ (s.b &&& s.c)
  { a := t1 + sum0 + majority, b := s.a, c := s.b, d := s.c,
    e := s.d + t1, f := s.e, g := s.f, h := s.g }

/-- The next word of a schedule, from the sixteen words before it, the last one first. -/
def nextWord (recent : List UInt32) : UInt32 :=
  let word (back : Nat) := recent.getD (back - 1) 0
  let low := turn 7 (word 15) ^^^ turn 18 (word 15) ^^^ (word 15 >>> 3)
  let high := turn 17 (word 2) ^^^ turn 19 (word 2) ^^^ (word 2 >>> 10)
  word 16 + low + word 7 + high

/-- The words of a schedule, the last one first, after some more. -/
def extend : Nat → List UInt32 → List UInt32
  | 0, words => words
  | n + 1, words => extend n (nextWord words :: words)

/-- The words of a block. -/
def blockWords : List UInt8 → List UInt32
  | a :: b :: c :: d :: rest =>
    (a.toUInt32 <<< 24 ||| b.toUInt32 <<< 16 ||| c.toUInt32 <<< 8 ||| d.toUInt32) :: blockWords rest
  | _ => []

/-- Mixes a block of 64 bytes into the words. -/
def mix (s : State) (block : List UInt8) : State :=
  let schedule := (extend 48 (blockWords block).reverse).reverse
  let t := (roundConstants.zip schedule).foldl (fun t kw => round t kw.1 kw.2) s
  { a := s.a + t.a, b := s.b + t.b, c := s.c + t.c, d := s.d + t.d,
    e := s.e + t.e, f := s.f + t.f, g := s.g + t.g, h := s.h + t.h }

/-- The last `count` bytes of a number, the highest one first. -/
def bigEndian : Nat → Nat → List UInt8
  | 0, _ => []
  | count + 1, n => bigEndian count (n / 256) ++ [UInt8.ofNat n]

/-- A message filled up to whole blocks: a one, zeros, and the number of bits. -/
def pad (message : List UInt8) : List UInt8 :=
  message ++ 0x80 :: List.replicate ((119 - message.length % 64) % 64) 0 ++
    bigEndian 8 (8 * message.length)

/-- Mixes the blocks of a filled up message. -/
def mixAll : Nat → State → List UInt8 → State
  | 0, s, _ => s
  | blocks + 1, s, bytes => mixAll blocks (mix s (bytes.take 64)) (bytes.drop 64)

/-- The bytes of the words. -/
def State.bytes (s : State) : List UInt8 :=
  [s.a, s.b, s.c, s.d, s.e, s.f, s.g, s.h].flatMap fun w => bigEndian 4 w.toNat

/-- The hash of a message. -/
def hash (message : List UInt8) : List UInt8 :=
  let padded := pad message
  (mixAll (padded.length / 64) initial padded).bytes

end StoreAdmin.Sha256
