import StoreAdmin.Client.Request
import StoreAdmin.Digest.Base64
import StoreAdmin.Url.Sendable

/-!
# Exchanges

A client and the network around it are a state. The state holds the token that the client keeps,
what the network is going to do, and a log of what has happened. An exchange sends one message and
waits for its answer; while it waits the call may be cancelled, and someone else may replace the
token.
-/

namespace StoreAdmin

/-- A message as it is sent. A header may come more than once. -/
structure Message where
  method : String
  url : Url
  headers : List (String × String)
  body : Option String := none

/-- An answer. -/
structure Response where
  status : Nat := 200
  headers : List (String × String) := []
  body : List UInt8 := []

/-- What the network does with a message. -/
inductive Reply where
  | answer (response : Response)
  /-- The body ends too early. -/
  | cutShort (response : Response)
  /-- The connection ends without an answer. -/
  | lost
  /-- There is no connection, so the message does not arrive. -/
  | unreachable
  /-- No answer ever comes. Who can cancel does so. -/
  | silence

/-- Whether the server receives the message. -/
def Reply.arrives : Reply → Bool
  | .unreachable => false
  | _ => true

/-- What happens in one exchange. -/
structure Turn where
  reply : Reply
  /-- The token that someone else puts in place of the one that is kept. -/
  replacement : Option String := none

/-- What a message is sent for. -/
inductive Purpose where
  | login
  | call
  deriving DecidableEq

/-- An event of a log. -/
inductive Event where
  /-- A login begins. -/
  | login
  | exchange (purpose : Purpose) (message : Message) (reply : Reply)

/-- A client and the network around it. -/
structure World where
  /-- The token that is kept; it is empty if there is none. -/
  token : String := ""
  cancelled : Bool := false
  /-- The time, in milliseconds since 1970. -/
  now : Int := 0
  /-- What the network does with the next messages. -/
  turns : List Turn := []
  /-- What it does with all messages behind them. -/
  later : Reply := .unreachable
  /-- What the next logins bring, where tokens are handed out. -/
  grants : List (Except Error String) := []
  /-- What has happened, in order. -/
  log : List Event := []

/-- An activity: it changes the world and may fail. -/
abbrev Act (α : Type) := ExceptT Error (StateM World) α

namespace Message

/-- Whether a text may be sent as the value of a header. It need not be ASCII, but of the control
characters only tabs may stand in it. -/
def isHeaderValue (text : String) : Bool :=
  text.toList.all fun c => c = '\t' || (0x20 ≤ c.toNat && c.toNat ≠ 0x7F)

/-- Whether the value of a header can be read as a text. -/
def isHeaderText (text : String) : Bool :=
  text.toList.all fun c => c = '\t' || Url.isPrintableAscii c

/-- Why a message cannot be sent. -/
def fault? (m : Message) : Option TransportFault :=
  if m.headers.any fun h => !isHeaderValue h.2 then some (.unsendable none)
  else if m.url.isSendable then none
  else some (.unsendable (some (String.ofList m.url.text)))

/-- The header that carries a user and a password. -/
def basicAuthorization (user : String) (password : Option String) : String × String :=
  let text := user ++ ":" ++ password.getD ""
  ("authorization", "Basic " ++ String.ofList (Base64.encode (Utf8.encode text.toList)))

/-- A message to an address. A user in the address becomes a header. -/
def addressed (method : String) (url : Url) (headers : List (String × String))
    (body : Option String := none) : Message :=
  let own :=
    match url.userInfo? with
    | some (user, password) => [basicAuthorization user password]
    | none => []
  { method, url := url.withoutUser, headers := own ++ headers, body }

end Message

namespace Response

/-- The first header with a name, without blanks around it, if it can be read. -/
def header? (r : Response) (name : String) : Option String :=
  match r.headers.find? fun h => Format.sameLetters h.1.toList name.toList with
  | some (_, value) =>
    let value := String.ofList (Text.trim (fun c => c = ' ' || c = '\t') value.toList)
    if Message.isHeaderText value then some value else none
  | none => none

/-- The format that an answer names. -/
def format? (r : Response) : Option Format :=
  (r.header? "content-type").bind Format.ofMediaType?

/-- The body that arrives: some answers never have one. -/
def content (r : Response) : List UInt8 :=
  if r.status = 204 ∨ r.status = 304 then [] else r.body

end Response

namespace World

/-- What happens next, and what happens after that. -/
def nextTurn (w : World) : Turn × List Turn :=
  match w.turns with
  | [] => ({ reply := w.later }, [])
  | turn :: rest => (turn, rest)

/-- The world after an exchange. -/
def afterExchange (w : World) (purpose : Purpose) (m : Message) : World :=
  let (turn, rest) := w.nextTurn
  { w with
    turns := rest
    token := turn.replacement.getD w.token
    log := w.log ++ [.exchange purpose m turn.reply] }

end World

/-- Fails if the call can be cancelled and is. -/
def checkCancelled (cancellable : Bool) : Act Unit := do
  if cancellable && (← get).cancelled then throw .cancelled

/-- Sends a message and waits for the whole answer. -/
def exchange (cancellable : Bool) (purpose : Purpose) (m : Message) : Act Response := do
  match m.fault? with
  | some fault => throw (.transport fault)
  | none =>
    let w ← get
    set (w.afterExchange purpose m)
    match w.nextTurn.1.reply with
    | .answer response => return response
    | .cutShort _ => throw (.transport .incomplete)
    | .lost => throw unanswered
    | .unreachable => throw unanswered
    | .silence =>
      if cancellable then
        modify fun w => { w with cancelled := true }
        throw .cancelled
      else throw unanswered
where
  /-- The error of a message without an answer. -/
  unanswered : Error :=
    .transport (.unanswered (String.ofList m.url.text))

end StoreAdmin
