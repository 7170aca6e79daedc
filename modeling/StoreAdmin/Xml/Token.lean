import StoreAdmin.Text.Blank
import StoreAdmin.Text.Scanner

/-!
# The tokens of XML

Tags, text, CDATA sections and document types. Comments, processing instructions and the declaration
give no token; text around them arrives in several pieces. Names and attributes stay as they are
written, since not every reader of a document looks at them. What is malformed ends the token list,
and a reader that stops before it never notices.
-/

namespace StoreAdmin.Xml

inductive Token where
  /-- A piece of text, not empty, with its references. -/
  | text (raw : List Char)
  | cdata (content : List Char)
  /-- A start tag, or a tag that is start and end at once. -/
  | startTag (name : List Char) (attributes : List Char) (closed : Bool)
  | endTag (name : List Char)
  | doctype
  /-- What is no token. -/
  | malformed
  deriving DecidableEq

/-- What the lexer is inside of. Contents are in reverse order, without the opening `<`. -/
inductive Mode where
  | text (raw : List Char)
  /-- Just behind a `<`. -/
  | markup
  /-- A start or end tag, possibly inside of a quoted attribute value. -/
  | tag (content : List Char) (quote : Option Char)
  | instruction (content : List Char)
  /-- Just behind `<!`. -/
  | bang
  | comment (content : List Char)
  | cdata (content : List Char)
  /-- A document type; `depth` counts the open angle brackets inside of it. -/
  | doctype (content : List Char) (depth : Nat)
  | stuck

/-- Gives up: nothing after malformed markup is read. -/
def giveUp : Mode × List Token :=
  (.stuck, [.malformed])

/-- The token of a piece of text; an empty piece is none. -/
def textTokens (raw : List Char) : List Token :=
  if raw = [] then [] else [.text raw.reverse]

/-- The end tag with this content behind the slash. Blanks behind the name are dropped, unless
there is nothing else. -/
def endTagOf (content : List Char) : Token :=
  let name := Text.trimEnd Text.isBlank content
  .endTag (if name = [] then content else name)

/-- The start tag with this content: the name reaches to the first blank. -/
def startTagOf (content : List Char) (closed : Bool) : Token :=
  .startTag (content.takeWhile (!Text.isBlank ·)) (content.dropWhile (!Text.isBlank ·)) closed

/-- The token of a tag with this content between the angle brackets. -/
def tagOf : List Char → Token
  | '/' :: name => endTagOf name
  | content =>
    if content.getLast? = some '/' then startTagOf content.dropLast true
    else startTagOf content false

/-- Whether a document type with this content names one. -/
def isDoctype (content : List Char) : Bool :=
  (content.take 8).map Char.toUpper = "!DOCTYPE".toList && (content.drop 8).any (!Text.isBlank ·)

/-- One step of the lexer. -/
def lexStep : Mode → Char → Mode × List Token
  | .text raw, c => if c = '<' then (.markup, textTokens raw) else (.text (c :: raw), [])
  | .markup, c =>
    if c = '!' then (.bang, [])
    else if c = '?' then (.instruction ['?'], [])
    else if c = '>' then (.text [], [tagOf []])
    else (.tag [c] (if c = '"' ∨ c = '\'' then some c else none), [])
  | .tag content none, c =>
    if c = '>' then (.text [], [tagOf content.reverse])
    else (.tag (c :: content) (if c = '"' ∨ c = '\'' then some c else none), [])
  | .tag content (some quote), c =>
    (.tag (c :: content) (if c = quote then none else some quote), [])
  | .instruction content, c =>
    if c = '>' ∧ content.head? = some '?' then
      if content.length = 1 then giveUp else (.text [], [])
    else (.instruction (c :: content), [])
  | .bang, c =>
    if c = '-' then (.comment [c, '!'], [])
    else if c = '[' then (.cdata [c, '!'], [])
    else if c = 'D' ∨ c = 'd' then (.doctype [c, '!'] 0, [])
    else giveUp
  | .comment content, c =>
    if c = '>' ∧ 5 ≤ content.length ∧ content.take 2 = ['-', '-'] then
      if content.reverse.take 3 = "!--".toList then (.text [], []) else giveUp
    else (.comment (c :: content), [])
  | .cdata content, c =>
    if c = '>' ∧ content.take 2 = [']', ']'] then
      if content.reverse.take 8 = "![CDATA[".toList then
        (.text [], [.cdata ((content.drop 2).reverse.drop 8)])
      else giveUp
    else (.cdata (c :: content), [])
  | .doctype content depth, c =>
    if c = '>' ∧ depth = 0 then
      if isDoctype content.reverse then (.text [], [.doctype]) else giveUp
    else
      (.doctype (c :: content)
        (if c = '<' then depth + 1 else if c = '>' then depth - 1 else depth), [])
  | .stuck, _ => (.stuck, [])

/-- The tokens that the end of the input completes. Open markup is malformed. -/
def lexEnd : Mode → List Token
  | .text raw => textTokens raw
  | .stuck => []
  | _ => [.malformed]

/-- The lexer of XML. -/
def lexer : Scanner Mode Char Token :=
  ⟨lexStep, lexEnd⟩

/-- Drops a byte order mark. -/
def withoutMark : List Char → List Char
  | c :: rest => if c.toNat = 0xFEFF then rest else c :: rest
  | [] => []

/-- The tokens of a document. -/
def tokens (document : List Char) : List Token :=
  lexer.run (.text []) (withoutMark document)

/-- The name behind the first colon. -/
def localName (name : List Char) : List Char :=
  match name.dropWhile (· ≠ ':') with
  | [] => name
  | _ :: rest => rest

end StoreAdmin.Xml
