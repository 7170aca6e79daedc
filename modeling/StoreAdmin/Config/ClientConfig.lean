import StoreAdmin.Client.Retry
import StoreAdmin.Config.Credentials

/-!
# Client configurations

The settings of a client for one endpoint.
-/

namespace StoreAdmin

/-- The settings of a client. -/
structure ClientConfig where
  /-- The address of the management interface. -/
  endpoint : String
  /-- Whether every request asks to bypass throttling. -/
  overrideHeader : Bool := false
  /-- How often a call is attempted when its credentials are refused. -/
  attempts : UInt32 := 3
  /-- The seconds after which a request is given up. -/
  timeout : UInt64 := 30
  /-- Whether any certificate is accepted. -/
  insecure : Bool := false
  /-- How to log in; without credentials no token is sent. -/
  credentials : Option Credentials := none
  deriving DecidableEq

namespace ClientConfig

/-- Whether a text holds nothing but white space. -/
def isBlank (text : String) : Bool :=
  text.toList.all Text.isWhiteSpace

/-- Refuses settings that no client could work with. Addresses are not looked into here. -/
def validate (c : ClientConfig) : Except Error Unit :=
  if isBlank c.endpoint then .error (.config .noEndpoint)
  else if c.attempts = 0 then .error (.config .noAttempts)
  else
    match c.credentials with
    | some credentials =>
      if isBlank credentials.gateway then .error (.config .noGateway) else .ok ()
    | none => .ok ()

/-- What a log shows of a configuration. -/
def inspect (c : ClientConfig) : List Char :=
  let flag (b : Bool) := if b then "true".toList else "false".toList
  let field (name : String) (value : List Char) := name.toList ++ ": ".toList ++ value
  braced "ClientConfig" [
    field "endpoint" (Text.quoted c.endpoint.toList),
    field "override_header" (flag c.overrideHeader),
    field "auth_retries_max" (Decimal.natText c.attempts.toNat),
    field "timeout_secs" (Decimal.natText c.timeout.toNat),
    field "insecure_skip_verify" (flag c.insecure),
    field "auth" (match c.credentials with
      | some credentials => "Some(".toList ++ credentials.inspect ++ [')']
      | none => "None".toList)]

end ClientConfig
end StoreAdmin
