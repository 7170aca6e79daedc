import StoreAdmin.Number.Decimal
import StoreAdmin.Toml.Quoted

/-!
# Writing TOML

A text is written in the plainest form that can hold it: in double quotes if nothing has to be
escaped, in single quotes if there are no such quotes in it, on several lines if there are line
breaks or both kinds of quotes, and with escapes only if none of that is possible.
-/

namespace StoreAdmin.Toml

/-- The length of the longest run of a character. `run` counts the current one. -/
def longestRun (mark : Char) : Nat → List Char → Nat
  | run, [] => run
  | run, c :: rest =>
    if c = mark then longestRun mark (run + 1) rest else max run (longestRun mark 0 rest)

/-- Whether a character can only be written with an escape. -/
def isControl (c : Char) : Bool :=
  (c.toNat < 0x20 || c.toNat = 0x7F) && c ≠ '\t' && c ≠ '\n'

/-- The forms of a string. -/
inductive Form where
  | basic
  | literal
  | basicLines
  | literalLines
  deriving DecidableEq

/-- The plainest form for a text. -/
def Form.of (text : List Char) : Form :=
  let doubles := longestRun '"' 0 text
  let singles := longestRun '\'' 0 text
  let controls := text.any isControl
  let backslashes := text.contains '\\'
  let lines := text.contains '\n'
  if !controls && !backslashes && doubles = 0 && !lines then .basic
  else if !controls && singles = 0 && !lines then .literal
  else if !controls && !backslashes && doubles ≤ 2 then .basicLines
  else if !controls && singles ≤ 2 then .literalLines
  else if lines then .basicLines
  else .basic

/-- A character of a basic string. `run` counts the quotes in front of it, and a quote on several
lines is escaped only if it would be the third one. -/
def basicChar (lines : Bool) (run : Nat) (c : Char) : List Char :=
  if c = '"' then (if lines ∧ run < 2 then [c] else ['\\', c])
  else if c = '\\' then ['\\', c]
  else if c = '\t' then ['\\', 't']
  else if c = '\n' then (if lines then [c] else ['\\', 'n'])
  else if c = '\r' then ['\\', 'r']
  else if c.toNat = 8 then ['\\', 'b']
  else if c.toNat = 12 then ['\\', 'f']
  else if isControl c then '\\' :: 'u' :: Hex.padded Hex.upperDigit 4 c.toNat
  else [c]

/-- The characters of a basic string. -/
def basicText (lines : Bool) : Nat → List Char → List Char
  | _, [] => []
  | run, c :: rest =>
    basicChar lines run c ++ basicText lines (if c = '"' ∧ run < 2 then run + 1 else 0) rest

/-- A text as a string. -/
def stringText (text : List Char) : List Char :=
  let lineBreak := if text.contains '\n' then ['\n'] else []
  match Form.of text with
  | .basic => '"' :: basicText false 0 text ++ ['"']
  | .literal => '\'' :: text ++ ['\'']
  | .basicLines => "\"\"\"".toList ++ lineBreak ++ basicText true 0 text ++ "\"\"\"".toList
  | .literalLines => "'''".toList ++ lineBreak ++ text ++ "'''".toList

/-- A line that gives a value to a key. -/
def line (key : String) (value : List Char) : List Char :=
  key.toList ++ " = ".toList ++ value ++ ['\n']

def textLine (key value : String) : List Char :=
  line key (stringText value.toList)

def flagLine (key : String) (value : Bool) : List Char :=
  line key (if value then "true".toList else "false".toList)

def natLine (key : String) (value : Nat) : List Char :=
  line key (Decimal.natText value)

end StoreAdmin.Toml
