import StoreAdmin.Client.Login
import StoreAdmin.Client.Retry
import StoreAdmin.Config.ClientConfig
import StoreAdmin.Resource.Operation

/-!
# Sessions

A client makes calls. Before the first one it logs in, and when a token is refused it forgets it,
logs in again and repeats the call. A token that was replaced while the call was on its way is not
forgotten.
-/

namespace StoreAdmin

/-- A client of an endpoint. -/
structure Client where
  endpoint : String
  /-- How to log in; without it no token is sent. -/
  login : Option LoginMethod := none
  /-- Whether every request asks to bypass throttling. -/
  overrideHeader : Bool := false
  attempts : Nat := Retry.defaultAttempts
  /-- Whether calls can be cancelled. -/
  cancellable : Bool := false
  deriving DecidableEq

namespace Client

/-- A client with an endpoint. -/
def withEndpoint (endpoint : Option String) : Except Error Client :=
  match endpoint with
  | some endpoint =>
    if endpoint = "" then .error (.invalidRequest .noEndpoint) else .ok { endpoint }
  | none => .error (.invalidRequest .noEndpoint)

/-- The client that a configuration describes. -/
def ofConfig (config : ClientConfig) : Except Error Client := do
  config.validate
  let client ← withEndpoint config.endpoint
  return { client with
    login := config.credentials.map .withCredentials
    overrideHeader := config.overrideHeader
    attempts := config.attempts.toNat }

/-- The message of a request. It carries the token even if there is none. -/
def message (c : Client) (r : Request) (url : Url) (format : Format) (token : String) : Message :=
  let tokenHeaders := if c.login.isSome then [(Login.tokenHeader, token)] else []
  let overrideHeaders := if c.overrideHeader then [("x-emc-override", "true")] else []
  Message.addressed r.method url
    ([("accept", format.mediaType), ("accept", Format.xml.mediaType),
      ("content-type", format.mediaType)] ++ tokenHeaders ++ overrideHeaders)
    (r.body.map (·.text))

/-- Makes a request once. An answer without a known content type is read in the format of the
request. -/
def attempt (c : Client) (r : Request) (url : Url) (format : Format) : Act Payload := do
  checkCancelled c.cancellable
  let token := (← get).token
  let response ← exchange c.cancellable .call (c.message r url format token)
  if response.status = Status.refused ∧ c.login.isSome then
    modify fun w => if w.token = token then { w with token := "" } else w
  let format := response.format?.getD format
  Answer.checkCall response.status format response.content
  return { format, body := response.content }

/-- Logs in unless a token is kept. -/
def ensureLogin (c : Client) (method : LoginMethod) : Act Unit := do
  checkCancelled c.cancellable
  if (← get).token = "" then
    modify fun w => { w with log := w.log ++ [.login] }
    Login.run c.cancellable method

/-- The error of the login in front of a call. -/
def loginError : Error → Error
  | .cancelled => .cancelled
  | e => .authorization ("login: " ++ e.message)

/-- Makes a call: checks the request, logs in if no token is kept, and makes up to a number of
attempts. Without a login there is one attempt. -/
def call (c : Client) (r : Request) : Act Payload := do
  let format ← r.validate
  let url ← r.url c.endpoint
  match c.login with
  | none => c.attempt r url format
  | some method =>
    if (← get).token = "" then
      tryCatch (c.ensureLogin method) fun e => throw (loginError e)
    ExceptT.mk (Retry.run c.attempts (fun _ => (c.attempt r url format).run)
      (c.ensureLogin method).run)

/-- Performs an operation. -/
def perform (c : Client) (o : Operation) : Act o.expected.Result :=
  ExceptT.mk (o.perform fun r => (c.call r).run)

/-- What a log shows of a client. -/
def inspect (c : Client) : List Char :=
  let flag (b : Bool) := if b then "true".toList else "false".toList
  let attempts :=
    braced "RetryConfig" ["max_attempts: ".toList ++ Decimal.natText c.attempts]
  let transport := braced "TransportClient" [
    "endpoint: ".toList ++ Text.quoted c.endpoint.toList,
    "authenticated: ".toList ++ flag c.login.isSome,
    "override_header: ".toList ++ flag c.overrideHeader,
    "retry: ".toList ++ attempts]
  braced "ClientSet" ["transport: ".toList ++ transport]

end Client
end StoreAdmin
