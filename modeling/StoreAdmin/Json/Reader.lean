import StoreAdmin.Json.Lexer
import StoreAdmin.Text.Utf8

/-!
# Reading JSON

One pass over the tokens with the open containers on a stack, so the depth of a document costs
nothing but memory. A body must hold exactly one value.
-/

namespace StoreAdmin.Json

/-- An open container that waits for a value: its contents so far, the last one first. -/
inductive Frame where
  | array (items : List Value)
  | object (members : List (Option String × Value)) (name : Option String)

/-- What may come next in the innermost container. -/
inductive Expect where
  | value
  /-- A value or the end of an array that is empty so far. -/
  | firstItem
  /-- A comma or the end of an array. -/
  | afterItem (items : List Value)
  /-- A name or the end of an object that is empty so far. -/
  | firstName
  | name (members : List (Option String × Value))
  | colon (members : List (Option String × Value)) (name : Option String)
  /-- A comma or the end of an object. -/
  | afterMember (members : List (Option String × Value))
  /-- Nothing: the document is complete. -/
  | nothing (v : Value)

/-- Hands a complete value to the container that waits for it. -/
def complete (v : Value) : List Frame → List Frame × Expect
  | [] => ([], .nothing v)
  | .array items :: stack => (stack, .afterItem (v :: items))
  | .object members name :: stack => (stack, .afterMember ((name, v) :: members))

/-- A token where a value must come. -/
def readValue (stack : List Frame) : Token → Option (List Frame × Expect)
  | .scalar v => some (complete v stack)
  | .string text => some (complete (.string text) stack)
  | .beginArray => some (stack, .firstItem)
  | .beginObject => some (stack, .firstName)
  | _ => none

/-- One token. -/
def readStep : List Frame × Expect → Token → Option (List Frame × Expect)
  | (stack, .value), t => readValue stack t
  | (stack, .firstItem), .endArray => some (complete (.array []) stack)
  | (stack, .firstItem), t => readValue (.array [] :: stack) t
  | (stack, .afterItem items), .comma => some (.array items :: stack, .value)
  | (stack, .afterItem items), .endArray => some (complete (.array items.reverse) stack)
  | (stack, .firstName), .endObject => some (complete (.object []) stack)
  | (stack, .firstName), .string name => some (stack, .colon [] name)
  | (stack, .name members), .string name => some (stack, .colon members name)
  | (stack, .colon members name), .colon => some (.object members name :: stack, .value)
  | (stack, .afterMember members), .comma => some (stack, .name members)
  | (stack, .afterMember members), .endObject => some (complete (.object members.reverse) stack)
  | _, _ => none

/-- All tokens. -/
def readTokens : List Frame × Expect → List Token → Option (List Frame × Expect)
  | state, [] => some state
  | state, t :: rest =>
    match readStep state t with
    | some state' => readTokens state' rest
    | none => none

/-- The value of a list of units. -/
def ofUnits? (units : List (Option Char)) : Option Value :=
  match readTokens ([], .value) (tokens units) with
  | some (_, .nothing v) => some v
  | _ => none

/-- The value that a body holds. -/
def ofBytes? (bytes : List UInt8) : Option Value :=
  ofUnits? (Utf8.units bytes)

end StoreAdmin.Json
