import StoreAdmin.Text.Hex

/-!
# TOML strings

A string is basic, with escapes, or literal, and stands on one line or on several. A string on
several lines starts and ends with three quotes; a line break right behind the opening ones does not
count, and one or two quotes may stand in front of the closing ones.
-/

namespace StoreAdmin.Toml

/-- The characters that may stand in a string or in a comment: no control characters but the tab. -/
def isTextChar (c : Char) : Bool :=
  c = '\t' || (0x20 ≤ c.toNat && c.toNat ≠ 0x7F)

def isSpace (c : Char) : Bool :=
  c = ' ' || c = '\t'

/-- The character with the number that some hexadecimal digits write. -/
def coded? (digits : List Char) : Option Char :=
  let n := digits.foldl (fun n c => 16 * n + (Hex.digit? c).getD 0) 0
  if digits.all fun c => (Hex.digit? c).isSome then
    if n < 0xD800 ∨ (0xE000 ≤ n ∧ n < 0x110000) then some (Char.ofNat n) else none
  else none

/-- The character that an escape behind a backslash stands for, and how long the escape is. -/
def escape? : List Char → Option (Char × Nat)
  | [] => none
  | c :: rest =>
    let coded (count : Nat) : Option (Char × Nat) :=
      if (rest.take count).length = count then
        (coded? (rest.take count)).map fun c => (c, count + 1)
      else none
    if c = 'b' then some (Char.ofNat 8, 1)
    else if c = 't' then some ('\t', 1)
    else if c = 'n' then some ('\n', 1)
    else if c = 'f' then some (Char.ofNat 12, 1)
    else if c = 'r' then some ('\r', 1)
    else if c = 'e' then some (Char.ofNat 27, 1)
    else if c = '"' then some ('"', 1)
    else if c = '\\' then some ('\\', 1)
    else if c = 'x' then coded 2
    else if c = 'u' then coded 4
    else if c = 'U' then coded 8
    else none

/-- Puts a character in front of a text that was read. -/
def push (c : Char) : Option (List Char × List Char) → Option (List Char × List Char)
  | some (text, rest) => some (c :: text, rest)
  | none => none

/-- A basic string on one line behind its opening quote, and what follows it. The first argument
counts characters that belong to an escape before them. -/
def basic? : Nat → List Char → Option (List Char × List Char)
  | _, [] => none
  | skip + 1, _ :: rest => basic? skip rest
  | 0, c :: rest =>
    if c = '"' then some ([], rest)
    else if c = '\\' then
      match escape? rest with
      | some (e, length) => push e (basic? length rest)
      | none => none
    else if isTextChar c then push c (basic? 0 rest)
    else none

/-- A literal string on one line behind its opening quote, and what follows it. -/
def literal? : List Char → Option (List Char × List Char)
  | [] => none
  | c :: rest =>
    if c = '\'' then some ([], rest)
    else if isTextChar c then push c (literal? rest)
    else none

/-- Whether a text starts with a line break. -/
def startsLine : List Char → Bool
  | '\n' :: _ => true
  | '\r' :: '\n' :: _ => true
  | _ => false

/-- What follows the quotes that close a string on several lines, of `count` quotes in a row. -/
def closing (quote : Char) (count : Nat) (rest : List Char) : Option (List Char × List Char) :=
  if count ≤ 5 then some (List.replicate (count - 3) quote, rest) else none

/-- How a string on several lines is read on: how many characters belong to an escape, and whether
blanks and line breaks are dropped. -/
structure Skip where
  escaped : Nat := 0
  blank : Bool := false

/-- The number of quotes at the start of a text. -/
def quotes (quote : Char) (text : List Char) : Nat :=
  (text.takeWhile (· = quote)).length

/-- A basic string on several lines behind its opening quotes, and what follows it. A backslash at
the end of a line takes all blanks and line breaks behind it along. -/
def basicLines? : Skip → List Char → Option (List Char × List Char)
  | _, [] => none
  | skip, c :: rest =>
    if 0 < skip.escaped then basicLines? { skip with escaped := skip.escaped - 1 } rest
    else if skip.blank ∧ (isSpace c ∨ c = '\n' ∨ (c = '\r' ∧ rest.head? = some '\n')) then
      basicLines? { blank := true } rest
    else if c = '"' then
      if 3 ≤ quotes '"' (c :: rest) then
        closing '"' (quotes '"' (c :: rest)) ((c :: rest).dropWhile (· = '"'))
      else push c (basicLines? {} rest)
    else if c = '\\' then
      if startsLine (rest.dropWhile isSpace) then basicLines? { blank := true } rest
      else
        match escape? rest with
        | some (e, length) => push e (basicLines? { escaped := length } rest)
        | none => none
    else if isTextChar c ∨ startsLine (c :: rest) then push c (basicLines? {} rest)
    else none

/-- A literal string on several lines behind its opening quotes, and what follows it. -/
def literalLines? : List Char → Option (List Char × List Char)
  | [] => none
  | c :: rest =>
    if c = '\'' then
      if 3 ≤ quotes '\'' (c :: rest) then
        closing '\'' (quotes '\'' (c :: rest)) ((c :: rest).dropWhile (· = '\''))
      else push c (literalLines? rest)
    else if isTextChar c ∨ startsLine (c :: rest) then push c (literalLines? rest)
    else none

/-- A text without the line break at its start. -/
def afterBreak : List Char → List Char
  | '\n' :: rest => rest
  | '\r' :: '\n' :: rest => rest
  | text => text

/-- The string that a text starts with, and what follows it; `none` if it starts with no quote or
the string is malformed. -/
def string? : List Char → Option (List Char × List Char)
  | '"' :: '"' :: '"' :: rest => basicLines? {} (afterBreak rest)
  | '"' :: rest => basic? 0 rest
  | '\'' :: '\'' :: '\'' :: rest => literalLines? (afterBreak rest)
  | '\'' :: rest => literal? rest
  | _ => none

end StoreAdmin.Toml
