import StoreAdmin.Client.Body
import StoreAdmin.Client.Params
import StoreAdmin.Url.Parse

/-!
# Requests

A request is put together first and checked when it is made, so a wrong content type fails before
anything is sent. Its address is the endpoint with another path and another query.
-/

namespace StoreAdmin

/-- A call of the management interface. -/
structure Request where
  method : String
  path : String
  contentType : String := Format.xml.mediaType
  params : Params := {}
  body : Option Body := none

namespace Request

/-- A path of segments. Everything in a segment is escaped but letters, digits and `-._~`. -/
def pathJoin (segments : List String) : String :=
  String.ofList (segments.flatMap fun s => '/' :: Url.percentEncode Url.isUnreserved s.toList)

/-- A request that speaks a format. -/
def of (method : String) (segments : List String) (format : Format) : Request :=
  { method, path := pathJoin segments, contentType := format.mediaType }

def get (segments : List String) (format : Format := .xml) : Request :=
  of "GET" segments format

def post (segments : List String) (format : Format := .xml) : Request :=
  of "POST" segments format

def put (segments : List String) (format : Format := .xml) : Request :=
  of "PUT" segments format

def delete (segments : List String) (format : Format := .xml) : Request :=
  of "DELETE" segments format

/-- The request with one more parameter. -/
def withParam (r : Request) (key value : String) : Request :=
  { r with params := r.params.insert key value }

/-- The request with more parameters. -/
def withParams (r : Request) (params : Params) : Request :=
  { r with params := r.params.extend params }

/-- The request with a body. -/
def withBody (r : Request) (body : Body) : Request :=
  { r with body := some body }

/-- The format of a request, if its content type names one and the body is written in it. -/
def validate (r : Request) : Except Error Format :=
  match Format.ofExact? r.contentType with
  | none => .error (.contentType r.contentType)
  | some format =>
    match r.body with
    | some body =>
      if body.format = format then .ok format
      else .error (.encode format (.mixedFormats body.format))
    | none => .ok format

/-- The address of a request at an endpoint. The path and the query of the endpoint are replaced. -/
def url (r : Request) (endpoint : String) : Except Error Url :=
  match Url.ofText endpoint.toList with
  | .error fault => .error (.invalidUrl fault)
  | .ok base =>
    if base.isOpaque then .error (.invalidRequest (.opaqueEndpoint endpoint))
    else
      let path := r.path.toList
      let rooted := if path.head? = some '/' then path else '/' :: path
      .ok ((base.withPath rooted).withForm r.params.fields)

end Request
end StoreAdmin
