import StoreAdmin.Number.Decimal
import StoreAdmin.Text.Hex
import StoreAdmin.Url.Path

/-!
# Internet addresses

Hosts that are written as numbers. A host whose last part is a number is an IPv4 address; its parts
may be decimal, octal or hexadecimal, and the last one fills all bytes that are left. An IPv6
address is written in brackets.
-/

namespace StoreAdmin.Url

/-- The value of digits to a base, if all of them are digits to that base. -/
def valueIn? (base : Nat) : List Char → Option Nat
  | [] => some 0
  | text =>
    text.foldl
      (fun acc c =>
        match acc, Hex.digit? c with
        | some n, some d => if d < base then some (base * n + d) else none
        | _, _ => none)
      (some 0)

/-- A part of an IPv4 address: hexadecimal behind `0x`, octal behind another `0`, else decimal. -/
def part? : List Char → Option Nat
  | [] => none
  | '0' :: 'x' :: digits => valueIn? 16 digits
  | '0' :: 'X' :: digits => valueIn? 16 digits
  | '0' :: d :: digits => valueIn? 8 (d :: digits)
  | digits => valueIn? 10 digits

/-- The parts of a host, without an empty last one. -/
def parts (host : List Char) : List (List Char) :=
  let pieces := Text.splitWhere (· = '.') host
  if pieces.getLast? = some [] then pieces.dropLast else pieces

/-- Whether a host must be an IPv4 address: its last part consists of digits or is a number. -/
def endsInNumber (host : List Char) : Bool :=
  match (parts host).getLast? with
  | some last => (last ≠ [] && last.all (·.isDigit)) || (part? last).isSome
  | none => false

/-- Puts parts together: one byte each, and the last one fills the rest. -/
def assembleIpv4? (count : Nat) : List Nat → Option Nat
  | [] => none
  | [last] => if last < 256 ^ (4 - count) then some last else none
  | n :: rest =>
    if n < 256 then (assembleIpv4? (count + 1) rest).map (n * 256 ^ (3 - count) + ·) else none

/-- The IPv4 address that a host stands for. -/
def ipv4? (host : List Char) : Option Nat :=
  if 4 < (parts host).length then none
  else ((parts host).mapM part?).bind (assembleIpv4? 0)

/-- The text of an IPv4 address: four decimal bytes. -/
def ipv4Text (address : Nat) : List Char :=
  let byte (k : Nat) := Decimal.natText (address / Nat.pow 256 k % 256)
  byte 3 ++ '.' :: byte 2 ++ '.' :: byte 1 ++ '.' :: byte 0

/-! ## IPv6 -/

/-- A decimal byte without leading zeros, and what follows it. -/
def decimalByte? (text : List Char) : Option (Nat × List Char) :=
  let digits := text.takeWhile (·.isDigit)
  match digits, Decimal.nat? digits with
  | '0' :: _ :: _, _ => none
  | _, some n => if n < 256 then some (n, text.dropWhile (·.isDigit)) else none
  | _, none => none

/-- Four decimal bytes with dots between them, as two pieces. -/
def embeddedIpv4? (text : List Char) : Option (List Nat) :=
  match decimalByte? text with
  | some (a, '.' :: text) =>
    match decimalByte? text with
    | some (b, '.' :: text) =>
      match decimalByte? text with
      | some (c, '.' :: text) =>
        match decimalByte? text with
        | some (d, []) => some [256 * a + b, 256 * c + d]
        | _ => none
      | _ => none
    | _ => none
  | _ => none

/-- The pieces of an IPv6 address behind `before`, the last one first. `gap` tells how many pieces
stood in front of the `::`, if there was one. Fuel bounds the pieces. -/
def ipv6Pieces? : Nat → List Nat → Option Nat → List Char → Option (List Nat × Option Nat)
  | _, before, gap, [] => some (before, gap)
  | 0, _, _, _ => none
  | fuel + 1, before, gap, ':' :: rest =>
    if gap.isSome then none else ipv6Pieces? fuel (0 :: before) (some (before.length + 1)) rest
  | fuel + 1, before, gap, text =>
    let digits := (text.take 4).takeWhile fun c => (Hex.digit? c).isSome
    match valueIn? 16 digits, text.drop digits.length with
    | some n, [] => some (n :: before, gap)
    | some n, ':' :: c :: rest => ipv6Pieces? fuel (n :: before) gap (c :: rest)
    | some _, '.' :: _ =>
      if digits = [] ∨ 6 < before.length then none
      else (embeddedIpv4? text).map fun pieces => (pieces.reverse ++ before, gap)
    | _, _ => none

/-- The eight pieces of an IPv6 address. The `::` stands for one or more pieces of zero. -/
def ipv6? (text : List Char) : Option (List Nat) :=
  let read :=
    match text with
    | ':' :: ':' :: rest => ipv6Pieces? 7 [0] (some 1) rest
    | ':' :: _ => none
    | [_] => none
    | [] => none
    | text => ipv6Pieces? 8 [] none text
  match read with
  | some (pieces, some gap) =>
    if pieces.length ≤ 8 then
      let front := pieces.reverse.take gap
      some (front ++ List.replicate (8 - pieces.length) 0 ++ pieces.reverse.drop gap)
    else none
  | some (pieces, none) => if pieces.length = 8 then some pieces.reverse else none
  | none => none

/-- How many pieces at the start are zero. -/
def zeros : List Nat → Nat
  | 0 :: rest => zeros rest + 1
  | _ => 0

/-- The length of the longest run of zeros. -/
def longestZeros : List Nat → Nat
  | [] => 0
  | p :: rest => max (zeros (p :: rest)) (longestZeros rest)

/-- Hexadecimal pieces with colons between them. -/
def colonText : List Nat → List Char
  | [] => []
  | [p] => Hex.lower p
  | p :: rest => Hex.lower p ++ ':' :: colonText rest

/-- The text of pieces in which the first run of `run` zeros is written as `::`. -/
def gapText (run : Nat) : List Nat → List Nat → List Char
  | front, [] => colonText front.reverse
  | front, p :: rest =>
    if zeros (p :: rest) = run then
      colonText front.reverse ++ ':' :: ':' :: colonText (rest.drop (run - 1))
    else gapText run (p :: front) rest

/-- The text of an IPv6 address in brackets. The first of the longest runs of two or more zeros is
left out. -/
def ipv6Text (pieces : List Nat) : List Char :=
  '[' :: (if longestZeros pieces < 2 then colonText pieces
    else gapText (longestZeros pieces) [] pieces) ++ [']']

end StoreAdmin.Url
