import StoreAdmin.Number.Binary64

/-!
# Record shapes

Every record that travels is described once, by the list of its fields with their names on the wire.
Reading, writing and showing a record are functions of that description, and a type of records takes
part by being recovered from the values of its shape (`Model`).
-/

namespace StoreAdmin

/-- When a field is left out of what is written. -/
inductive Omission where
  | never
  /-- A text without characters, or the number zero. -/
  | whenEmpty
  /-- The field is local: it is neither written nor read. -/
  | always
  deriving DecidableEq

/-- What a log shows of a field. -/
inductive Visibility where
  | shown
  /-- A fixed word stands for the value. -/
  | redacted
  /-- Not even the name of the field is shown. -/
  | hidden
  deriving DecidableEq

/-- A field: its name on the wire, other names that are read as well, and its name in logs. -/
structure Field where
  wire : String
  label : String := wire
  aliases : List String := []
  omission : Omission := .never
  visibility : Visibility := .shown

/-- What is said of a record as a whole. -/
structure Heading where
  /-- The name in logs. -/
  name : String
  /-- The name of the root element. -/
  root : String := name
  /-- Whether a missing field is read as its default. -/
  lenient : Bool := true
  /-- Whether a log shows that fields are left out. -/
  partlyShown : Bool := false

mutual

/-- The shape of a value. -/
inductive Shape where
  | text
  | integer
  | flag
  | ratio
  | list (item : Shape)
  | record (heading : Heading) (fields : Fields)

/-- The fields of a record with their shapes, in order. -/
inductive Fields where
  | nil
  | cons (field : Field) (shape : Shape) (rest : Fields)

end

mutual

/-- The values of a shape. -/
def Shape.Val : Shape → Type
  | .text => String
  | .integer => Int64
  | .flag => Bool
  | .ratio => Binary64
  | .list item => List item.Val
  | .record _ fields => fields.Val

/-- One value for each field. -/
def Fields.Val : Fields → Type
  | .nil => Unit
  | .cons _ shape rest => shape.Val × rest.Val

end

mutual

/-- The value of a field that is not given. -/
def Shape.default : (s : Shape) → s.Val
  | .text => ""
  | .integer => (0 : Int64)
  | .flag => false
  | .ratio => Binary64.zero false
  | .list _ => []
  | .record _ fields => fields.default

def Fields.default : (fs : Fields) → fs.Val
  | .nil => ()
  | .cons _ shape rest => (shape.default, rest.default)

end

/-- Whether a value is left out where empty ones are. -/
def Shape.isEmpty : (s : Shape) → s.Val → Bool
  | .text, (v : String) => v = ""
  | .integer, (v : Int64) => v = 0
  | _, _ => false

/-- Whether the value of a field is written. -/
def Field.isWritten (f : Field) (s : Shape) (v : s.Val) : Bool :=
  match f.omission with
  | .never => true
  | .whenEmpty => !s.isEmpty v
  | .always => false

/-- Whether a member with this name is read into the field. -/
def Field.answersTo (f : Field) (name : String) : Bool :=
  f.omission ≠ .always && (name = f.wire || f.aliases.contains name)

/-- The value of a field from what was found under one of its names: nothing, which may be allowed,
or one thing. -/
def Field.pick {α β : Type} (missing : Option β) (read : α → Option β) :
    List α → Option β
  | [] => missing
  | [a] => read a
  | _ => none

/-- A type of records that is described by a shape. -/
class Model (α : Type) where
  heading : Heading
  fields : Fields
  toVal : α → fields.Val
  ofVal : fields.Val → α
  ofVal_toVal : ∀ a, ofVal (toVal a) = a

namespace Model

variable (α : Type) [Model α]

/-- The shape of the records of a type. -/
def shape : Shape :=
  .record (heading α) (fields α)

/-- The record whose fields are all empty. -/
def empty : α :=
  ofVal (fields α).default

variable {α}

/-- The values of a list of records. -/
def toVals (as : List α) : List (fields α).Val :=
  as.map toVal

/-- The records of a list of values. -/
def ofVals (vs : List (fields α).Val) : List α :=
  vs.map ofVal

theorem ofVals_toVals (as : List α) : ofVals (toVals as) = as := by
  induction as with
  | nil => rfl
  | cons a rest ih => simpa [ofVals, toVals, ofVal_toVal] using ih

end Model

/-! ## Describing fields -/

/-- A field together with its shape. -/
abbrev Entry := Field × Shape

/-- The fields of a record from a list of them. -/
def Fields.of : List Entry → Fields
  | [] => .nil
  | (field, shape) :: rest => .cons field shape (Fields.of rest)

namespace Entry

def text (wire : String) (label : String := wire) : Entry :=
  ({ wire, label }, .text)

def integer (wire : String) (label : String := wire) : Entry :=
  ({ wire, label }, .integer)

def flag (wire : String) (label : String := wire) : Entry :=
  ({ wire, label }, .flag)

def ratio (wire : String) (label : String := wire) : Entry :=
  ({ wire, label }, .ratio)

/-- A list of texts. -/
def texts (wire : String) (label : String := wire) : Entry :=
  ({ wire, label }, .list .text)

/-- A record of a type. -/
def one (α : Type) [Model α] (wire : String) (label : String := wire) : Entry :=
  ({ wire, label }, Model.shape α)

/-- A list of records of a type. -/
def many (α : Type) [Model α] (wire : String) (label : String := wire) : Entry :=
  ({ wire, label }, .list (Model.shape α))

/-- The field is also read under another name. -/
def alsoNamed (e : Entry) (name : String) : Entry :=
  ({ e.1 with aliases := name :: e.1.aliases }, e.2)

/-- The field is left out when it is empty. -/
def unlessEmpty (e : Entry) : Entry :=
  ({ e.1 with omission := .whenEmpty }, e.2)

/-- The field is neither written nor read. -/
def unwritten (e : Entry) : Entry :=
  ({ e.1 with omission := .always }, e.2)

/-- Logs show a fixed word for the value. -/
def redacted (e : Entry) : Entry :=
  ({ e.1 with visibility := .redacted }, e.2)

/-- Logs do not show the field. -/
def hidden (e : Entry) : Entry :=
  ({ e.1 with visibility := .hidden }, e.2)

end Entry
end StoreAdmin
