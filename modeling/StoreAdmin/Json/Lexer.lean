import StoreAdmin.Json.Value
import StoreAdmin.Text.Blank
import StoreAdmin.Text.Hex
import StoreAdmin.Text.Scanner

/-!
# The tokens of JSON

The symbols are the units of a body: characters, and `none` for bytes that encode no character,
which may stand in string literals only. Two literals never touch in valid JSON, so taking each of
them as long as possible loses nothing.
-/

namespace StoreAdmin.Json

inductive Token where
  | beginArray
  | endArray
  | beginObject
  | endObject
  | comma
  | colon
  | string (text : Option String)
  /-- `null`, `true`, `false` or a number. -/
  | scalar (v : Value)
  /-- What is no token. -/
  | invalid

/-- One element of the contents of a string literal. -/
inductive Piece where
  | char (c : Char)
  /-- A code unit written as an escape of four digits. -/
  | code (unit : Nat)
  /-- Bytes that encode no character. -/
  | undecodable

def isHighSurrogate (unit : Nat) : Bool :=
  0xD800 ≤ unit && unit < 0xDC00

def isLowSurrogate (unit : Nat) : Bool :=
  0xDC00 ≤ unit && unit < 0xE000

/-- The text of a string literal. Only an escaped high surrogate and the escaped low surrogate
right after it make a character together. -/
def pieceText : List Piece → Option (List Char)
  | [] => some []
  | .char c :: rest => (pieceText rest).map (c :: ·)
  | .undecodable :: _ => none
  | .code u :: .code v :: rest =>
    if isHighSurrogate u then
      if isLowSurrogate v then
        (pieceText rest).map (Char.ofNat (0x10000 + (u - 0xD800) * 0x400 + (v - 0xDC00)) :: ·)
      else none
    else if isLowSurrogate u then none
    else (pieceText (.code v :: rest)).map (Char.ofNat u :: ·)
  | .code u :: rest =>
    if isHighSurrogate u || isLowSurrogate u then none
    else (pieceText rest).map (Char.ofNat u :: ·)

/-- How far a number literal has been read. -/
inductive NumberPart where
  | sign
  | zero
  | whole
  | point
  | fraction
  | mark
  | markSign
  | exponent

/-- A number literal that may go on; digits are in reverse order. -/
structure PartialNumber where
  negative : Bool
  whole : List Decimal.Digit := []
  fraction : List Decimal.Digit := []
  down : Bool := false
  exponent : List Decimal.Digit := []

/-- The literal read so far, where it may end. -/
def PartialNumber.complete (n : PartialNumber) : NumberPart → Option Number
  | .zero | .whole => some { negative := n.negative, whole := n.whole.reverse }
  | .fraction => some { negative := n.negative, whole := n.whole.reverse,
                        fraction := n.fraction.reverse }
  | .exponent => some { negative := n.negative, whole := n.whole.reverse,
                        fraction := n.fraction.reverse,
                        exponent := some (n.down, n.exponent.reverse) }
  | _ => none

/-- Reads a digit into a number literal, if one may come. -/
def PartialNumber.digit (n : PartialNumber) (d : Decimal.Digit) :
    NumberPart → Option (PartialNumber × NumberPart)
  | .sign => some ({ n with whole := [d] }, if d.val = 0 then .zero else .whole)
  | .whole => some ({ n with whole := d :: n.whole }, .whole)
  | .point | .fraction => some ({ n with fraction := d :: n.fraction }, .fraction)
  | .mark | .markSign | .exponent => some ({ n with exponent := d :: n.exponent }, .exponent)
  | .zero => none

/-- Reads a symbol into a number literal, if it may come. -/
def PartialNumber.extend (n : PartialNumber) (part : NumberPart) (c : Char) :
    Option (PartialNumber × NumberPart) :=
  match Decimal.digit? c with
  | some d => n.digit d part
  | none =>
    match part with
    | .zero | .whole =>
      if c = '.' then some (n, .point)
      else if c = 'e' ∨ c = 'E' then some (n, .mark)
      else none
    | .fraction => if c = 'e' ∨ c = 'E' then some (n, .mark) else none
    | .mark =>
      if c = '+' then some (n, .markSign)
      else if c = '-' then some ({ n with down := true }, .markSign)
      else none
    | _ => none

/-- Where in a string literal the lexer stands. -/
inductive Escape where
  | none
  /-- Behind a backslash. -/
  | opened
  /-- Inside of an escape of four digits, of which `count` have been read. -/
  | hex (count : Nat) (value : Nat)

inductive Mode where
  | between
  | word (letters : List Char)
  | number (n : PartialNumber) (part : NumberPart)
  | string (pieces : List Piece) (escape : Escape)
  | stuck

/-- The token of a word. -/
def wordToken (letters : List Char) : Token :=
  if letters = "null".toList then .scalar .null
  else if letters = "true".toList then .scalar (.boolean true)
  else if letters = "false".toList then .scalar (.boolean false)
  else .invalid

/-- The token of a number literal that ends. -/
def numberToken (n : PartialNumber) (part : NumberPart) : Token :=
  match n.complete part with
  | some literal => .scalar (.number literal)
  | none => .invalid

/-- The token of a string literal that ends. -/
def stringToken (pieces : List Piece) : Token :=
  .string ((pieceText pieces.reverse).map String.ofList)

/-- Gives up: nothing after an invalid symbol is read. -/
def giveUp : Mode × List Token :=
  (.stuck, [.invalid])

/-- A symbol outside of literals. -/
def start : Option Char → Mode × List Token
  | none => giveUp
  | some c =>
    if Text.isBlank c then (.between, [])
    else if c = '[' then (.between, [.beginArray])
    else if c = ']' then (.between, [.endArray])
    else if c = '{' then (.between, [.beginObject])
    else if c = '}' then (.between, [.endObject])
    else if c = ',' then (.between, [.comma])
    else if c = ':' then (.between, [.colon])
    else if c = '"' then (.string [] .none, [])
    else if c = '-' then (.number { negative := true } .sign, [])
    else if c.isLower then (.word [c], [])
    else
      match PartialNumber.extend { negative := false } .sign c with
      | some (n, part) => (.number n part, [])
      | none => giveUp

/-- The character that an escape of one letter stands for. -/
def simpleEscape? (c : Char) : Option Char :=
  if c = '"' ∨ c = '\\' ∨ c = '/' then some c
  else if c = 'b' then some (Char.ofNat 8)
  else if c = 'f' then some (Char.ofNat 12)
  else if c = 'n' then some '\n'
  else if c = 'r' then some '\r'
  else if c = 't' then some '\t'
  else none

/-- A symbol inside of a string literal. Control characters must be escaped. -/
def inString (pieces : List Piece) : Escape → Option Char → Mode × List Token
  | .none, none => (.string (.undecodable :: pieces) .none, [])
  | .none, some c =>
    if c = '"' then (.between, [stringToken pieces])
    else if c = '\\' then (.string pieces .opened, [])
    else if c.toNat < 0x20 then giveUp
    else (.string (.char c :: pieces) .none, [])
  | .opened, none => giveUp
  | .opened, some c =>
    if c = 'u' then (.string pieces (.hex 0 0), [])
    else
      match simpleEscape? c with
      | some d => (.string (.char d :: pieces) .none, [])
      | none => giveUp
  | .hex _ _, none => giveUp
  | .hex count value, some c =>
    match Hex.digit? c with
    | none => giveUp
    | some d =>
      if count = 3 then (.string (.code (value * 16 + d) :: pieces) .none, [])
      else (.string pieces (.hex (count + 1) (value * 16 + d)), [])

/-- Emits a token in front of what a symbol starts. -/
def after (t : Token) (next : Mode × List Token) : Mode × List Token :=
  (next.1, t :: next.2)

/-- One step of the lexer. -/
def lexStep : Mode → Option Char → Mode × List Token
  | .between, c => start c
  | .word letters, some c =>
    if c.isLower then (.word (c :: letters), [])
    else after (wordToken letters.reverse) (start (some c))
  | .word letters, none => after (wordToken letters.reverse) giveUp
  | .number n part, some c =>
    match n.extend part c with
    | some (n', part') => (.number n' part', [])
    | none => after (numberToken n part) (start (some c))
  | .number n part, none => after (numberToken n part) giveUp
  | .string pieces escape, c => inString pieces escape c
  | .stuck, _ => (.stuck, [])

/-- The tokens that the end of the input completes. -/
def lexEnd : Mode → List Token
  | .between => []
  | .word letters => [wordToken letters.reverse]
  | .number n part => [numberToken n part]
  | .string _ _ => [.invalid]
  | .stuck => []

/-- The lexer of JSON. -/
def lexer : Scanner Mode (Option Char) Token :=
  ⟨lexStep, lexEnd⟩

/-- The tokens of a body. -/
def tokens (units : List (Option Char)) : List Token :=
  lexer.run .between units

end StoreAdmin.Json
