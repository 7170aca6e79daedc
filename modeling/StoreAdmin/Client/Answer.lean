import StoreAdmin.Client.Body
import StoreAdmin.Client.Status
import StoreAdmin.Text.Lower

/-!
# Failed answers

A failed call is answered by an error document or by something else. Logins put any failure into
words, whereas calls keep an error document as it is and do not accept anything else. Both take an
empty body for its status.
-/

namespace StoreAdmin.Answer

/-- The error document in a body. The root of an XML document must be `error`. -/
def errorDocument (format : Format) (body : List UInt8) : Except Error ApiError :=
  match format with
  | .json => Model.ofBytes .json body
  | .xml =>
    match Xml.rootName body with
    | .malformed => .error (.decode .xml .malformed)
    | .absent => .error (.decode .xml .noRoot)
    | .found name =>
      if name = "error".toList then Model.ofBytes .xml body
      else .error (.decode .xml (.wrongRoot (String.ofList name)))

/-- Whether an answer to a login reports success. An error document is reported by its description,
and a body of any other kind as it is. -/
def checkLogin (status : Nat) (format : Option Format) (body : List UInt8) : Except Error Unit :=
  if status ≤ 399 then .ok ()
  else if body = [] then .error (.server (Status.text status))
  else
    match errorDocument (format.getD .xml) body with
    | .ok e =>
      if e.isNotFound then .error (.server Error.notFoundText)
      else .error (.server (String.ofList (Text.lower e.description.toList)))
    | .error _ => .error (.unexpectedResponse (String.ofList (Utf8.decodeLossy body)))

/-- Whether an answer to a call reports success. -/
def checkCall (status : Nat) (format : Format) (body : List UInt8) : Except Error Unit :=
  if status = Status.refused then .error .unauthorized
  else if status < 400 then .ok ()
  else if body = [] then .error (.server (Status.text status))
  else
    match errorDocument format body with
    | .ok e => .error (.api e)
    | .error e => .error e

end StoreAdmin.Answer
