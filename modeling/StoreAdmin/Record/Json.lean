import StoreAdmin.Record.Shape
import StoreAdmin.Json.Real
import StoreAdmin.Json.Reader
import StoreAdmin.Json.Writer

/-!
# Records in JSON

A record is an object; an array is also read, position by position. Members with other names are
passed over whatever they hold, a member that comes twice is an error, and the kinds of values are
not converted into each other.
-/

namespace StoreAdmin

mutual

/-- A value as JSON. -/
def Shape.toJson : (s : Shape) → s.Val → Json.Value
  | .text, (v : String) => .string (some v)
  | .integer, (v : Int64) => .number (Json.Number.ofInt v.toInt)
  | .flag, (v : Bool) => .boolean v
  | .ratio, (v : Binary64) => Json.Value.ofReal v
  | .list item, vs => .array (List.map item.toJson vs)
  | .record _ fields, v => .object (fields.toMembers v)

/-- The members of a record. -/
def Fields.toMembers : (fs : Fields) → fs.Val → List (Option String × Json.Value)
  | .nil, _ => []
  | .cons field shape rest, (v, vs) =>
    if field.isWritten shape v then (some field.wire, shape.toJson v) :: rest.toMembers vs
    else rest.toMembers vs

end

namespace Json

/-- The names of members, if each of them is a text. -/
def named? : List (Option String × Value) → Option (List (String × Value))
  | [] => some []
  | (some name, v) :: rest => (named? rest).map ((name, v) :: ·)
  | (none, _) :: _ => none

/-- The integer of a value, if it is a 64-bit one. -/
def Value.int64? : Value → Option Int64
  | .number n => n.int?.bind Decimal.int64?
  | _ => none

/-- The double of a number. -/
def Value.real? : Value → Option Binary64
  | .number n => n.real?
  | _ => none

def Value.text? : Value → Option String
  | .string text => text
  | _ => none

def Value.boolean? : Value → Option Bool
  | .boolean b => some b
  | _ => none

end Json

mutual

/-- Reads a value from JSON. -/
def Shape.ofJson? : (s : Shape) → Json.Value → Option s.Val
  | .text, v => v.text?
  | .integer, v => v.int64?
  | .flag, v => v.boolean?
  | .ratio, v => v.real?
  | .list item, v =>
    match v with
    | .array items => items.mapM item.ofJson?
    | _ => none
  | .record heading fields, v =>
    match v with
    | .object members => (Json.named? members).bind (fields.ofMembers? heading.lenient)
    | .array items => fields.ofItems? heading.lenient items
    | _ => none

/-- Reads each field from the member that has one of its names. -/
def Fields.ofMembers? (lenient : Bool) :
    (fs : Fields) → List (String × Json.Value) → Option fs.Val
  | .nil, _ => some ()
  | .cons field shape rest, members =>
    let missing := if lenient || field.omission = .always then some shape.default else none
    let own := members.filter fun m => field.answersTo m.1
    match Field.pick missing (fun m => shape.ofJson? m.2) own, rest.ofMembers? lenient members with
    | some v, some vs => some (v, vs)
    | _, _ => none

/-- Reads the fields from items in their order. Fields behind the last item are missing, items
behind the last field are an error. -/
def Fields.ofItems? (lenient : Bool) : (fs : Fields) → List Json.Value → Option fs.Val
  | .nil, [] => some ()
  | .nil, _ :: _ => none
  | .cons field shape rest, items =>
    if field.omission = .always then
      (rest.ofItems? lenient items).map fun vs => (shape.default, vs)
    else
      match items with
      | [] => if lenient then (rest.ofItems? lenient []).map fun vs => (shape.default, vs) else none
      | item :: items =>
        match shape.ofJson? item, rest.ofItems? lenient items with
        | some v, some vs => some (v, vs)
        | _, _ => none

end

namespace Model

variable {α : Type} [Model α]

/-- A record as JSON text. -/
def jsonText (a : α) : List Char :=
  ((shape α).toJson (toVal a)).text

/-- The record that a JSON value describes. -/
def ofJson? (v : Json.Value) : Option α :=
  ((shape α).ofJson? v).map ofVal

end Model
end StoreAdmin
