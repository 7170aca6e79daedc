import StoreAdmin.Client.Answer
import StoreAdmin.Client.Exchange
import StoreAdmin.Config.Credentials
import StoreAdmin.Digest.Hmac
import StoreAdmin.Model.Login

/-!
# Logins

A login obtains a token and keeps it. A workload signs a window of time with its secret. An operator
first asks for a token document, and if that brings no token for whatever reason, logs in with name
and password.
-/

namespace StoreAdmin

/-- How a client obtains tokens. -/
inductive LoginMethod where
  | withCredentials (credentials : Credentials)
  /-- Tokens are handed out without an exchange. -/
  | granted
  deriving DecidableEq

namespace Login

/-- The header that carries a token. -/
def tokenHeader : String :=
  "x-sds-auth-token"

def servicePath : String := "/mgmt/serviceLogin"
def documentPath : String := "/mgmt/auth/login"
def passwordPath : String := "/mgmt/login"

/-- The address of a login: the gateway with another path. -/
def url (gateway path : String) : Except Error Url :=
  match Url.ofText gateway.toList with
  | .ok base => .ok (base.withPath path.toList)
  | .error fault => .error (.invalidUrl fault)

/-- The token in the header of an answer, if the answer reports success. -/
def tokenOfHeader (r : Response) : Except Error String := do
  Answer.checkLogin r.status r.format? r.content
  match r.header? tokenHeader with
  | some token => if token = "" then throw .loginFailed else return token
  | none => throw .loginFailed

/-- The token in the document of an answer, if the answer reports success. -/
def tokenOfDocument (r : Response) : Except Error String := do
  Answer.checkLogin r.status (r.format?.getD .json) r.content
  let login : LoginResponse ← Model.ofBytes .json r.content
  if login.accessToken = "" then throw .loginFailed else return login.accessToken

/-- Logs in with a name and a password. -/
def byPassword (cancellable : Bool) (gateway path user password : String) : Act String := do
  let url ← url gateway path
  let message := Message.addressed "GET" url [Message.basicAuthorization user password]
  tokenOfHeader (← exchange cancellable .login message)

/-- Asks for a token document. -/
def byDocument (cancellable : Bool) (gateway user password : String) : Act String := do
  let url ← url gateway documentPath
  let body ← Body.json ({ username := user, password } : LoginRequest)
  let message := Message.addressed "POST" url
    [("content-type", Format.json.mediaType), ("accept", Format.json.mediaType)] body.text
  tokenOfDocument (← exchange cancellable .login message)

/-- Logs in as an operator. A login that is cancelled is not tried in the other way. -/
def asUser (cancellable : Bool) (gateway user password : String) : Act String :=
  tryCatch (byDocument cancellable gateway user password) fun
    | .cancelled => throw .cancelled
    | _ => byPassword cancellable gateway passwordPath user password

/-! ## Signed windows of time -/

/-- The length of a window of time in milliseconds. -/
def window : Int := 30000

/-- The middle of the window around an instant: the nearest multiple of the length, upwards from the
half. -/
def timeFactor (now : Int) : Int :=
  (now + window / 2).fdiv window * window

/-- The name of a workload. -/
def serviceUrn (objectScaleId podName : String) : String :=
  "urn:osc:" ++ objectScaleId ++ "::service/" ++ podName

/-- The user name of a workload. -/
def serviceUser (objectScaleId namespaceName podName : String) : String :=
  let text := objectScaleId ++ ",," ++ namespaceName ++ "," ++ podName
  "B64-" ++ String.ofList (Base64.encode (Utf8.encode text.toList))

/-- What a workload signs. -/
def signedText (urn : String) (now : Int) : String :=
  urn ++ String.ofList (Decimal.intText (timeFactor now))

/-- The password of a workload. -/
def servicePassword (secret urn : String) (now : Int) : String :=
  let signature :=
    Hmac.sign (Utf8.encode secret.toList) (Utf8.encode (signedText urn now).toList)
  String.ofList (Base64.encode signature)

/-- Logs in as a workload. -/
def asService (cancellable : Bool)
    (gateway sharedSecret podName namespaceName objectScaleId : String) : Act String := do
  let now := (← get).now
  byPassword cancellable gateway servicePath (serviceUser objectScaleId namespaceName podName)
    (servicePassword sharedSecret (serviceUrn objectScaleId podName) now)

/-! ## Keeping the token -/

/-- The token that a login brings. -/
def obtain (cancellable : Bool) : LoginMethod → Act String
  | .withCredentials (.user gateway user password) => asUser cancellable gateway user password
  | .withCredentials (.legacy gateway user password) =>
    byPassword cancellable gateway passwordPath user password
  | .withCredentials (.service gateway sharedSecret podName namespaceName objectScaleId) =>
    asService cancellable gateway sharedSecret podName namespaceName objectScaleId
  | .granted => do
    let grants := (← get).grants
    modify fun w => { w with grants := grants.drop 1 }
    match grants with
    | [] => return ""
    | grant :: _ => grant

/-- Logs in and keeps the token. A login that fails keeps nothing. -/
def run (cancellable : Bool) (method : LoginMethod) : Act Unit := do
  let token ← obtain cancellable method
  modify fun w => { w with token }

/-- Forgets the token. -/
def invalidate : Act Unit :=
  modify fun w => { w with token := "" }

/-- What a log shows of credentials and the token, of which it shows whether there is one. -/
def inspect (c : Credentials) (token : String) : List Char :=
  let shown (field : String × String) :=
    field.1.toList ++ ": ".toList ++
      if Credentials.secrets.contains field.1 then "<redacted>".toList
      else Text.quoted field.2.toList
  let kept := "token: ".toList ++ (if token = "" then "<empty>" else "<set>").toList
  braced (c.logName ++ "Authenticator") (c.fields.map shown ++ [kept])

end Login
end StoreAdmin
