import StoreAdmin.Format
import StoreAdmin.Model.ApiError
import StoreAdmin.Url.Fault

/-!
# Errors

Every failure is a cause in one of a few classes. The classes tell callers what to do, and the text
is made from the cause.
-/

namespace StoreAdmin

/-- Why a request cannot be made. -/
inductive RequestFault where
  | noEndpoint
  /-- The endpoint names no place on a host. -/
  | opaqueEndpoint (endpoint : String)
  | noBucketName
  | noPolicyName
  | other (text : String)
  deriving DecidableEq

def RequestFault.message : RequestFault → String
  | .noEndpoint => "endpoint is required"
  | .opaqueEndpoint endpoint => "endpoint is not a base URL: " ++ endpoint
  | .noBucketName => "bucket name is required"
  | .noPolicyName => "alert policy name is required"
  | .other text => text

/-- Why an answer cannot be read. -/
inductive DecodeFault where
  /-- The body is no document of its format or does not fit the expected record. -/
  | malformed
  /-- The body ends before its root element. -/
  | noRoot
  /-- The root is not an error document. -/
  | wrongRoot (root : String)
  | other (text : String)
  deriving DecidableEq

/-- The fault in words. There are none for a malformed body. -/
def DecodeFault.message? : DecodeFault → Option String
  | .malformed => none
  | .noRoot => some "unexpected EOF"
  | .wrongRoot root => some ("expected element type <error> but have <" ++ root ++ ">")
  | .other text => some text

/-- Why a document cannot be written or sent. -/
inductive EncodeFault where
  /-- The root may not have this name. -/
  | badRoot
  /-- The body is in another format than the request. -/
  | mixedFormats (body : Format)
  | other (text : String)
  deriving DecidableEq

def EncodeFault.message? : EncodeFault → Option String
  | .badRoot => none
  | .mixedFormats body => some ("body is encoded as " ++ body.name)
  | .other text => some text

/-- Why an exchange with a server failed. -/
inductive TransportFault where
  /-- The request cannot be sent at all. Without an address, a header is at fault. -/
  | unsendable (url : Option String)
  /-- No answer came. -/
  | unanswered (url : String)
  /-- The body is shorter than announced. -/
  | incomplete
  | other (text : String)
  deriving DecidableEq

def TransportFault.message : TransportFault → String
  | .unsendable none => "builder error"
  | .unsendable (some url) => "builder error for url (" ++ url ++ ")"
  | .unanswered url => "error sending request for url (" ++ url ++ ")"
  | .incomplete => "error decoding response body"
  | .other text => text

/-- What is wrong with a configuration. -/
inductive ConfigFault where
  | noEndpoint
  | noAttempts
  | noGateway
  | notFound (path : String)
  /-- The file is no TOML document or does not describe a configuration. -/
  | unreadable
  | noDirectory
  | other (text : String)
  deriving DecidableEq

def ConfigFault.message : ConfigFault → String
  | .noEndpoint => "endpoint must not be empty"
  | .noAttempts => "auth_retries_max must be at least 1"
  | .noGateway => "auth gateway must not be empty"
  | .notFound path => "configuration file not found: " ++ path
  | .unreadable => "failed to parse config"
  | .noDirectory => "could not determine config directory"
  | .other text => text

/-- What the file system refuses. -/
inductive FileFault where
  | isDirectory
  | notDirectory
  | alreadyThere
  | denied
  | missing
  | notText
  | other (text : String)
  deriving DecidableEq

def FileFault.message : FileFault → String
  | .isDirectory => "Is a directory (os error 21)"
  | .notDirectory => "Not a directory (os error 20)"
  | .alreadyThere => "File exists (os error 17)"
  | .denied => "Permission denied (os error 13)"
  | .missing => "No such file or directory (os error 2)"
  | .notText => "stream did not contain valid UTF-8"
  | .other text => text

/-- The classes of errors. -/
inductive ErrorKind where
  | validation
  | authorization
  | api
  | decode
  | transport
  | cancelled
  | config
  deriving DecidableEq, Repr

/-- An error of a call. -/
inductive Error where
  | invalidUrl (fault : Url.Fault)
  | invalidRequest (fault : RequestFault)
  | contentType (value : String)
  /-- One request was answered by 401. -/
  | unauthorized
  | authorization (text : String)
  | api (error : ApiError)
  | server (text : String)
  /-- The body of a failed call that is no error document. -/
  | unexpectedResponse (body : String)
  | decode (format : Format) (fault : DecodeFault)
  | encode (format : Format) (fault : EncodeFault)
  | transport (fault : TransportFault)
  | cancelled
  | config (fault : ConfigFault)
  | io (fault : FileFault)
  deriving DecidableEq

namespace Error

/-- The class of an error. -/
def kind : Error → ErrorKind
  | .invalidUrl _ => .validation
  | .invalidRequest _ => .validation
  | .contentType _ => .validation
  | .unauthorized => .authorization
  | .authorization _ => .authorization
  | .api _ => .api
  | .server _ => .api
  | .unexpectedResponse _ => .api
  | .decode _ _ => .decode
  | .encode _ _ => .decode
  | .transport _ => .transport
  | .cancelled => .cancelled
  | .config _ => .config
  | .io _ => .transport

/-- A format and a text behind `start`. -/
def formatMessage (start : String) (format : Format) (text : Option String) : String :=
  start ++ format.name ++
    match text with
    | some text => ": " ++ text
    | none => ""

/-- An error in words. -/
def message : Error → String
  | .invalidUrl fault => "invalid request: " ++ fault.message
  | .invalidRequest fault => "invalid request: " ++ fault.message
  | .contentType value => "invalid content-type: " ++ value
  | .unauthorized => "unauthorized"
  | .authorization text => "authorization: " ++ text
  | .api error => error.message
  | .server text => "server error: " ++ text
  | .unexpectedResponse body => body
  | .decode format fault => formatMessage "response: " format fault.message?
  | .encode format fault => formatMessage "request: " format fault.message?
  | .transport fault => fault.message
  | .cancelled => "operation cancelled"
  | .config fault => "configuration error: " ++ fault.message
  | .io fault => "I/O error: " ++ fault.message

/-- Whether the error says that a thing does not exist: an error document with the code for it, or
the plain words. -/
def isNotFound : Error → Bool
  | .api error => error.isNotFound
  | .server text => text = "not found"
  | _ => false

/-- Whether logging in again may help. -/
def isUnauthorized : Error → Bool
  | .unauthorized => true
  | _ => false

/-- Whether the error has another error as its cause. -/
def hasCause : Error → Bool
  | .invalidUrl _ => true
  | .decode _ _ => true
  | .io _ => true
  | _ => false

/-- The error document, if the server sent one. -/
def apiError? : Error → Option ApiError
  | .api error => some error
  | _ => none

/-- The error of a missing thing, in the words of the client. -/
def notFoundText : String :=
  "not found"

/-- The error of a login that returned no token. -/
def loginFailed : Error :=
  .server "login failed"

/-- The error of a call whose attempts were all answered by 401. -/
def exhausted : Error :=
  .authorization "exhausted authentication tries"

end Error

/-- What an error document can be compared with. -/
inductive ApiError.Target where
  | document (error : ApiError)
  | error (error : Error)

/-- Whether an error document is the given error: two documents are compared by their codes, and any
other error by its words. -/
def ApiError.is (e : ApiError) : ApiError.Target → Bool
  | .document other => e.code = other.code
  | .error other => other.message = e.message

end StoreAdmin
