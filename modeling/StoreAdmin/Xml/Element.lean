import StoreAdmin.Xml.Token
import StoreAdmin.Xml.Reference
import StoreAdmin.Text.Utf8

/-!
# XML elements

A document is its root element. Everything up to the end of the root must be well formed, and what
follows is not read. Text between two tags may come in several pieces, some of them CDATA; blanks at
the two outer ends of such a run are dropped, and a run of blanks only is no content at all.
-/

namespace StoreAdmin.Xml

/-- A piece of text: with references, or from a CDATA section. -/
inductive Piece where
  | text (raw : List Char)
  | cdata (content : List Char)
  deriving DecidableEq

/-- The content of an element, in order. -/
inductive Node where
  /-- A run of text, never empty. -/
  | text (pieces : List Piece)
  | element (name : List Char) (attributes : List Char) (content : List Node)

/-- The text of one piece. -/
def Piece.read? : Piece → Option (List Char)
  | .text raw => resolve? raw
  | .cdata content => some content

/-- The text of a run. -/
def piecesText? : List Piece → Option (List Char)
  | [] => some []
  | p :: rest =>
    match p.read?, piecesText? rest with
    | some a, some b => some (a ++ b)
    | _, _ => none

/-- Drops blanks at the start of a run, up to the first CDATA section. -/
def trimRunStart : List Piece → List Piece
  | .text raw :: rest =>
    match raw.dropWhile Text.isBlank with
    | [] => trimRunStart rest
    | raw' => .text raw' :: rest
  | run => run

/-- Drops blanks at the end of the last piece of a run. -/
def trimRunEnd : List Piece → List Piece
  | [] => []
  | [.text raw] => [.text (Text.trimEnd Text.isBlank raw)]
  | p :: rest => p :: trimRunEnd rest

/-- A run of text without the blanks at its ends. -/
def trimRun (run : List Piece) : List Piece :=
  trimRunEnd (trimRunStart run)

/-- An element that is still open: its tag and its content so far, the last node first. -/
structure Open where
  name : List Char
  attributes : List Char
  content : List Node

/-- Ends a run of text: adds it to the content unless it is blank. -/
def settle (run : List Piece) (content : List Node) : List Node :=
  match trimRun run.reverse with
  | [] => content
  | pieces => .text pieces :: content

/-- Reads up to the end of the root, with the open elements on a stack and the current run of text
in reverse order. In front of the root there is nothing but blanks and a document type. -/
def rootOf : List Open → List Piece → List Token → Option Node
  | _, _, [] => none
  | _, _, .malformed :: _ => none
  | stack, run, .text raw :: rest => rootOf stack (.text raw :: run) rest
  | stack, run, .cdata content :: rest => rootOf stack (.cdata content :: run) rest
  | [], run, .doctype :: rest => if settle run [] matches [] then rootOf [] [] rest else none
  | e :: stack, run, .doctype :: rest =>
    rootOf ({ e with content := settle run e.content } :: stack) [] rest
  | [], run, .startTag name attributes closed :: rest =>
    if settle run [] matches [] then
      if closed then some (.element name attributes [])
      else rootOf [⟨name, attributes, []⟩] [] rest
    else none
  | e :: stack, run, .startTag name attributes closed :: rest =>
    let content := settle run e.content
    if closed then
      rootOf ({ e with content := .element name attributes [] :: content } :: stack) [] rest
    else rootOf (⟨name, attributes, []⟩ :: { e with content } :: stack) [] rest
  | [], _, .endTag _ :: _ => none
  | [e], run, .endTag name :: _ =>
    if name = e.name then some (.element e.name e.attributes (settle run e.content).reverse)
    else none
  | e :: parent :: stack, run, .endTag name :: rest =>
    if name = e.name then
      let node := Node.element e.name e.attributes (settle run e.content).reverse
      rootOf ({ parent with content := node :: parent.content } :: stack) [] rest
    else none

/-- The root of a document. -/
def root? (document : List Char) : Option Node :=
  rootOf [] [] (tokens document)

/-- The local name of the first start tag among some tokens, if they are well formed up to it. -/
inductive RootName where
  | found (name : List Char)
  /-- The document ends without an element. -/
  | absent
  | malformed
  deriving DecidableEq

/-- The first start tag among some tokens. An end tag in front of it is malformed. -/
def rootNameOf : List Token → RootName
  | [] => .absent
  | .startTag name _ _ :: _ => .found (localName name)
  | .malformed :: _ => .malformed
  | .endTag _ :: _ => .malformed
  | _ :: rest => rootNameOf rest

/-- The local name of the root of a body, with U+FFFD for bytes that encode no character. Bytes of
that kind are never markup, so they do not change where the first tag is. -/
def rootName (body : List UInt8) : RootName :=
  rootNameOf (tokens (Utf8.decodeLossy body))

end StoreAdmin.Xml
