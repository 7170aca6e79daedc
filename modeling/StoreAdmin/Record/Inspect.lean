import StoreAdmin.Record.Shape
import StoreAdmin.Number.Shortest
import StoreAdmin.Text.Quoted

/-!
# Records in logs

The text that a log shows of a record: its name and its fields in order. A redacted field shows a
fixed word and a hidden one nothing, so the text does not depend on their values.
-/

namespace StoreAdmin

/-- Parts with a separator between them. -/
def Text.joined (separator : List Char) : List (List Char) → List Char
  | [] => []
  | [part] => part
  | part :: rest => part ++ separator ++ Text.joined separator rest

/-- The word that stands for the value of a redacted field. -/
def redactedText : List Char :=
  Text.quoted "<redacted>".toList

/-- A name with its parts in braces. -/
def braced (name : String) (parts : List (List Char)) : List Char :=
  name.toList ++ " \x7b ".toList ++ Text.joined ", ".toList parts ++ " \x7d".toList

mutual

/-- The text of a value. -/
def Shape.inspect : (s : Shape) → s.Val → List Char
  | .text, (v : String) => Text.quoted v.toList
  | .integer, (v : Int64) => Decimal.intText v.toInt
  | .flag, (v : Bool) => if v then "true".toList else "false".toList
  | .ratio, (v : Binary64) => v.text .inspected
  | .list item, vs => '[' :: Text.joined ", ".toList (List.map item.inspect vs) ++ [']']
  | .record heading fields, v =>
    braced heading.name (fields.inspect v ++ if heading.partlyShown then ["..".toList] else [])

/-- The fields that are shown, each with its label. -/
def Fields.inspect : (fs : Fields) → fs.Val → List (List Char)
  | .nil, _ => []
  | .cons field shape rest, (v, vs) =>
    let labelled (text : List Char) := field.label.toList ++ ": ".toList ++ text
    match field.visibility with
    | .shown => labelled (shape.inspect v) :: rest.inspect vs
    | .redacted => labelled redactedText :: rest.inspect vs
    | .hidden => rest.inspect vs

end

/-- The text of a record. -/
def Model.inspect {α : Type} [Model α] (a : α) : List Char :=
  (shape α).inspect (toVal a)

end StoreAdmin
