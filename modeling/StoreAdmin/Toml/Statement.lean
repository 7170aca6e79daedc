import StoreAdmin.Toml.Quoted
import StoreAdmin.Toml.Scalar

/-!
# TOML statements

A document is a list of statements: the start of a table, the start of another table of a list, or a
key with its value. A key is a path of names.
-/

namespace StoreAdmin.Toml

/-- The names between the dots of a key. -/
abbrev Key := List String

/-- A value as it is written. -/
inductive Written where
  | text (s : String)
  | scalar (s : Scalar)
  | array (items : List Written)
  | inlineTable (members : List (Key × Written))

/-- A statement of a document. -/
inductive Statement where
  | assign (key : Key) (value : Written)
  | table (key : Key)
  | nextTable (key : Key)

/-- How deep arrays and inline tables may be nested. -/
def maxDepth : Nat := 80

/-- What follows the blanks at the start of a text. -/
def afterSpaces (text : List Char) : List Char :=
  text.dropWhile isSpace

/-- What follows a comment at the start of a text, up to the end of the line. -/
def afterComment : List Char → List Char
  | '#' :: rest => rest.dropWhile isTextChar
  | text => text

/-- What follows the end of a line, with blanks and a comment in front of it. The end of a document
also ends a line. -/
def afterLine? (text : List Char) : Option (List Char) :=
  match afterComment (afterSpaces text) with
  | [] => some []
  | '\n' :: rest => some rest
  | '\r' :: '\n' :: rest => some rest
  | _ => none

/-- What follows blanks, comments and line breaks. A comment must be followed by a line break. Fuel
bounds the lines. -/
def afterBlanks? : Nat → List Char → Option (List Char)
  | 0, text => some text
  | fuel + 1, text =>
    match afterSpaces text with
    | '#' :: rest =>
      match afterLine? ('#' :: rest) with
      | some rest => afterBlanks? fuel rest
      | none => none
    | '\n' :: rest => afterBlanks? fuel rest
    | '\r' :: '\n' :: rest => afterBlanks? fuel rest
    | text => some text

/-- Whether a name may stand without quotes with this character. -/
def isBare (c : Char) : Bool :=
  c.isAlphanum || c = '_' || c = '-'

/-- A name of a key, and what follows it. A name in quotes stands on one line. -/
def name? (text : List Char) : Option (String × List Char) :=
  match text with
  | '"' :: rest => (basic? 0 rest).map fun (name, rest) => (String.ofList name, rest)
  | '\'' :: rest => (literal? rest).map fun (name, rest) => (String.ofList name, rest)
  | text =>
    match text.takeWhile isBare with
    | [] => none
    | name => some (String.ofList name, text.dropWhile isBare)

/-- A key, and what follows it. Fuel bounds the names. -/
def key? : Nat → List Char → Option (Key × List Char)
  | 0, _ => none
  | fuel + 1, text =>
    match name? (afterSpaces text) with
    | none => none
    | some (name, rest) =>
      match afterSpaces rest with
      | '.' :: rest => (key? fuel rest).map fun (names, rest) => (name :: names, rest)
      | rest => some ([name], rest)

/-- Whether a character may be part of a word. -/
def isWordChar (c : Char) : Bool :=
  !(isSpace c || "\r\n#,=[]\x7b\x7d\"'".toList.contains c)

/-- A word, and what follows it. A date may be followed by one blank and a time. -/
def word (text : List Char) : List Char × List Char :=
  let first := text.takeWhile isWordChar
  let rest := text.dropWhile isWordChar
  match afterDate? first, rest with
  | some [], ' ' :: d :: rest' =>
    if d.isDigit then
      (first ++ ' ' :: (d :: rest').takeWhile isWordChar, (d :: rest').dropWhile isWordChar)
    else (first, rest)
  | _, _ => (first, rest)

mutual

/-- A value, and what follows it. -/
def value? : Nat → Nat → List Char → Option (Written × List Char)
  | 0, _, _ => none
  | fuel + 1, depth, text =>
    match text with
    | '[' :: rest =>
      if depth = 0 then none
      else (items? fuel (depth - 1) rest).map fun (items, rest) => (.array items, rest)
    | '{' :: rest =>
      if depth = 0 then none
      else (members? fuel (depth - 1) rest).map fun (members, rest) => (.inlineTable members, rest)
    | '"' :: _ => (string? text).map fun (s, rest) => (.text (String.ofList s), rest)
    | '\'' :: _ => (string? text).map fun (s, rest) => (.text (String.ofList s), rest)
    | text => (scalar? (word text).1).map fun s => (.scalar s, (word text).2)

/-- The items of an array behind its opening bracket or a comma, and what follows it. -/
def items? : Nat → Nat → List Char → Option (List Written × List Char)
  | 0, _, _ => none
  | fuel + 1, depth, text =>
    match afterBlanks? text.length text with
    | none => none
    | some (']' :: rest) => some ([], rest)
    | some text =>
      match value? fuel depth text with
      | none => none
      | some (v, rest) =>
        match afterBlanks? rest.length rest with
        | some (',' :: rest) => (items? fuel depth rest).map fun (vs, rest) => (v :: vs, rest)
        | some (']' :: rest) => some ([v], rest)
        | _ => none

/-- The members of an inline table behind its opening brace or a comma, and what follows it. -/
def members? : Nat → Nat → List Char → Option (List (Key × Written) × List Char)
  | 0, _, _ => none
  | fuel + 1, depth, text =>
    match afterBlanks? text.length text with
    | none => none
    | some ('}' :: rest) => some ([], rest)
    | some text =>
      match key? text.length text with
      | some (key, '=' :: rest) =>
        match value? fuel depth (afterSpaces rest) with
        | none => none
        | some (v, rest) =>
          match afterBlanks? rest.length rest with
          | some (',' :: rest) =>
            (members? fuel depth rest).map fun (ms, rest) => ((key, v) :: ms, rest)
          | some ('}' :: rest) => some ([(key, v)], rest)
          | _ => none
      | _ => none

end

/-- The statement on a line, and what follows the line. -/
def statement? (text : List Char) : Option (Statement × List Char) :=
  let head? (mark : List Char) (make : Key → Statement) (text : List Char) :=
    match key? text.length text with
    | some (key, rest) =>
      if rest.take mark.length = mark then
        (afterLine? (rest.drop mark.length)).map fun rest => (make key, rest)
      else none
    | none => none
  match text with
  | '[' :: '[' :: rest => head? "]]".toList .nextTable rest
  | '[' :: rest => head? "]".toList .table rest
  | text =>
    match key? text.length text with
    | some (key, '=' :: rest) =>
      match value? rest.length maxDepth (afterSpaces rest) with
      | some (v, rest) => (afterLine? rest).map fun rest => (.assign key v, rest)
      | none => none
    | _ => none

/-- The statements of a text. Fuel bounds them. -/
def statementsFrom? : Nat → List Char → Option (List Statement)
  | 0, _ => none
  | fuel + 1, text =>
    match afterBlanks? text.length text with
    | none => none
    | some [] => some []
    | some text =>
      match statement? text with
      | some (s, rest) => (statementsFrom? fuel rest).map (s :: ·)
      | none => none

/-- The statements of a document. A byte order mark in front does not count. -/
def statements? (document : List Char) : Option (List Statement) :=
  let text :=
    match document with
    | c :: rest => if c.toNat = 0xFEFF then rest else document
    | [] => []
  statementsFrom? (text.length + 1) text

end StoreAdmin.Toml
