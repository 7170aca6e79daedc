import StoreAdmin.Client.Request

/-!
# What an operation returns

The answer to an operation is a record, a text that is not looked into, or of no interest.
-/

namespace StoreAdmin

/-- What the answer to an operation holds. -/
inductive Expected : Type 1 where
  | record (α : Type) [Model α]
  | text
  | nothing

namespace Expected

/-- The values that are read from an answer. -/
def Result : Expected → Type
  | @Expected.record α _ => α
  | .text => String
  | .nothing => Unit

/-- Reads an answer. -/
def read : (e : Expected) → Payload → Except Error e.Result
  | @Expected.record α _, p => p.decode α
  | .text, p => p.text
  | .nothing, _ => .ok ()

end Expected
end StoreAdmin
