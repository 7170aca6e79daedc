import StoreAdmin.Config.ClientConfig
import StoreAdmin.Json.Value
import StoreAdmin.Toml.Table
import StoreAdmin.Toml.Writer

/-!
# Configuration documents

A configuration is kept as a TOML document and shown as a JSON object under the same names. Names
that are not known are passed over, and everything but the endpoint may be missing.
-/

namespace StoreAdmin

namespace Toml

def Value.text? : Value → Option String
  | .text s => some s
  | _ => none

def Value.flag? : Value → Option Bool
  | .scalar (.flag b) => some b
  | _ => none

/-- A natural number below a bound. -/
def Value.natBelow? (bound : Nat) : Value → Option Nat
  | .scalar (.integer i) => if 0 ≤ i ∧ i < bound then some i.toNat else none
  | _ => none

end Toml

/-- The value of an entry that may be missing. -/
def optional? {α β : Type} (missing : β) (read : α → Option β) : Option α → Option β
  | none => some missing
  | some a => read a

namespace Credentials

/-- Reads credentials from a table, or from a list of their type and texts. -/
def ofToml? : Toml.Value → Option Credentials
  | .table _ entries =>
    ((entries.lookup "type").bind Toml.Value.text?).bind fun type =>
      ofFields? type fun name => (entries.lookup name).bind Toml.Value.text?
  | .array items => (items.mapM Toml.Value.text?).bind ofList?
  | _ => none

/-- The lines of a table with credentials. -/
def tomlText (c : Credentials) : List Char :=
  "\n[auth]\n".toList ++ Toml.textLine "type" c.type ++
    c.fields.flatMap fun field => Toml.textLine field.1 field.2

/-- Credentials as JSON. -/
def toJson (c : Credentials) : Json.Value :=
  .object ((some "type", .string (some c.type)) ::
    c.fields.map fun field => (some field.1, .string (some field.2)))

end Credentials

namespace ClientConfig

/-- Reads a configuration from the entries of a document. -/
def ofEntries? (entries : Toml.Entries) : Option ClientConfig := do
  let endpoint ← (entries.lookup "endpoint").bind Toml.Value.text?
  let overrideHeader ← optional? false Toml.Value.flag? (entries.lookup "override_header")
  let attempts ←
    optional? 3 (Toml.Value.natBelow? UInt32.size) (entries.lookup "auth_retries_max")
  let timeout ← optional? 30 (Toml.Value.natBelow? UInt64.size) (entries.lookup "timeout_secs")
  let insecure ← optional? false Toml.Value.flag? (entries.lookup "insecure_skip_verify")
  let credentials ←
    optional? none (fun v => (Credentials.ofToml? v).map some) (entries.lookup "auth")
  return {
    endpoint, overrideHeader, attempts := UInt32.ofNat attempts, timeout := UInt64.ofNat timeout,
    insecure, credentials }

/-- Reads a configuration from a TOML document. -/
def ofToml? (document : List Char) : Option ClientConfig :=
  (Toml.entries? document).bind ofEntries?

/-- A configuration as a TOML document. A timeout is written with all of its 64 bits. -/
def tomlText (c : ClientConfig) : List Char :=
  Toml.textLine "endpoint" c.endpoint ++
    Toml.flagLine "override_header" c.overrideHeader ++
    Toml.natLine "auth_retries_max" c.attempts.toNat ++
    Toml.natLine "timeout_secs" c.timeout.toNat ++
    Toml.flagLine "insecure_skip_verify" c.insecure ++
    match c.credentials with
    | some credentials => credentials.tomlText
    | none => []

/-- A configuration as JSON. Credentials are left out where there are none. -/
def toJson (c : ClientConfig) : Json.Value :=
  .object ([
    (some "endpoint", .string (some c.endpoint)),
    (some "override_header", .boolean c.overrideHeader),
    (some "auth_retries_max", .number (Json.Number.ofInt c.attempts.toNat)),
    (some "timeout_secs", .number (Json.Number.ofInt c.timeout.toNat)),
    (some "insecure_skip_verify", .boolean c.insecure)] ++
    match c.credentials with
    | some credentials => [(some "auth", credentials.toJson)]
    | none => [])

end ClientConfig
end StoreAdmin
