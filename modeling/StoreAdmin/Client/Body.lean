import StoreAdmin.Error
import StoreAdmin.Record.Json
import StoreAdmin.Record.Xml

/-!
# Bodies

What is sent is a text that was written in a known format. What is received are bytes, with the
format that they are to be read in. A body without bytes stands for the empty record.
-/

namespace StoreAdmin

/-- A body that is sent. -/
structure Body where
  format : Format
  text : String
  deriving DecidableEq

namespace Body

variable {α : Type} [Model α]

/-- A record as XML under a given root. -/
def xmlUnder (root : String) (a : α) : Except Error Body :=
  match Model.xmlText? root a with
  | some text => .ok { format := .xml, text := String.ofList text }
  | none => .error (.encode .xml .badRoot)

/-- A record as XML under its own root. -/
def xml (a : α) : Except Error Body :=
  xmlUnder (Model.heading α).root a

/-- A record as JSON. -/
def json (a : α) : Except Error Body :=
  .ok { format := .json, text := String.ofList (Model.jsonText a) }

/-- A JSON text that is sent as it is. -/
def rawJson (text : String) : Body :=
  { format := .json, text }

end Body

namespace Model

variable {α : Type} [Model α]

/-- The record that a body describes. -/
def ofBytes? (format : Format) (bytes : List UInt8) : Option α :=
  match format with
  | .json => (Json.ofBytes? bytes).bind Model.ofJson?
  | .xml => (Utf8.decode? bytes).bind Model.ofXml?

/-- The record that a body describes, or the error that it describes none. -/
def ofBytes (format : Format) (bytes : List UInt8) : Except Error α :=
  match ofBytes? format bytes with
  | some a => .ok a
  | none => .error (.decode format .malformed)

end Model

/-- The body of an answer. -/
structure Payload where
  format : Format
  body : List UInt8
  deriving DecidableEq

namespace Payload

/-- The record in a payload; without bytes it is the empty one. -/
def decode (α : Type) [Model α] (p : Payload) : Except Error α :=
  if p.body = [] then .ok (Model.empty α) else Model.ofBytes p.format p.body

/-- The text of a payload. -/
def text (p : Payload) : Except Error String :=
  match Utf8.decode? p.body with
  | some text => .ok (String.ofList text)
  | none => .error (.decode p.format .malformed)

end Payload
end StoreAdmin
