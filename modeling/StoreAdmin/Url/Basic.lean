import StoreAdmin.Url.Host

/-!
# Addresses

An address has a scheme and either names a place on a host by the segments of a path, or holds a
text that means something to its scheme only (`mailto:`).
-/

namespace StoreAdmin

/-- Who is addressed: a host with an optional port, and a user. Empty texts stand for a user or a
password that is not given. -/
structure Url.Authority where
  user : List Char := []
  password : List Char := []
  host : Url.Host
  port : Option Nat := none
  deriving DecidableEq

/-- What is addressed there. -/
inductive Url.Path where
  | segments (path : List Url.Segment)
  | opaqueText (text : List Char)
  deriving DecidableEq

/-- An address. All parts are kept in the form in which they are sent. -/
structure Url where
  scheme : List Char
  authority : Option Url.Authority
  path : Url.Path
  query : Option (List Char) := none
  fragment : Option (List Char) := none
  deriving DecidableEq

namespace Url

/-- The schemes that have hosts, with their usual ports. -/
def specialSchemes : List (String × Option Nat) :=
  [("http", some 80), ("https", some 443), ("ws", some 80), ("wss", some 443), ("ftp", some 21),
   ("file", none)]

def isSpecial (scheme : List Char) : Bool :=
  specialSchemes.any fun s => s.1.toList = scheme

/-- The port that is not written for a scheme. -/
def defaultPort? (scheme : List Char) : Option Nat :=
  (specialSchemes.find? fun s => s.1.toList = scheme).bind (·.2)

/-- The text of user and password, with the sign behind it. -/
def Authority.userText (a : Authority) : List Char :=
  if a.user = [] ∧ a.password = [] then []
  else a.user ++ (if a.password = [] then [] else ':' :: a.password) ++ ['@']

/-- The text of an authority, with the slashes in front of it. -/
def Authority.text (a : Authority) : List Char :=
  '/' :: '/' :: a.userText ++ a.host.text ++
    match a.port with
    | some port => ':' :: Decimal.natText port
    | none => []

/-- The text of a path. -/
def Path.text : Path → List Char
  | .segments path => pathText path
  | .opaqueText text => text

/-- The text of an address. -/
def text (url : Url) : List Char :=
  url.scheme ++ ':' ::
    (match url.authority with
    | some authority => authority.text
    | none => []) ++
    url.path.text ++
    (match url.query with
    | some query => '?' :: query
    | none => []) ++
    match url.fragment with
    | some fragment => '#' :: fragment
    | none => []

/-- Whether the address names no place on a host. -/
def isOpaque (url : Url) : Bool :=
  url.path matches .opaqueText _

/-- Line breaks and tabs are no part of an address. -/
def withoutBreaks (text : List Char) : List Char :=
  text.filter fun c => c ≠ '\t' ∧ c ≠ '\n' ∧ c ≠ '\r'

/-- The path that a text behind the host stands for, in a scheme. The text may start with a slash;
without any text there is a path only where the scheme has hosts. -/
def pathOf (scheme text : List Char) : List Segment :=
  let special := isSpecial scheme
  let inner :=
    match text with
    | c :: rest => if c = '/' ∨ (special ∧ c = '\\') then rest else text
    | [] => []
  if scheme = "file".toList then fileSegments inner
  else if text = [] ∧ !special then []
  else segments special inner

/-- The address with another path. In an address without places the text is kept, and so is a slash
in front of it, as an escape. -/
def withPath (url : Url) (path : List Char) : Url :=
  let path := withoutBreaks path
  match url.path with
  | .segments _ => { url with path := .segments (pathOf url.scheme path) }
  | .opaqueText _ =>
    let text :=
      match path with
      | '/' :: rest => "%2F".toList ++ percentEncode isPrintableAscii rest
      | text => percentEncode isPrintableAscii text
    { url with path := .opaqueText text }

/-- The address with the fields of a form as its query, or without a query if there are no fields.
-/
def withForm (url : Url) (fields : List (String × String)) : Url :=
  { url with query := if fields = [] then none else some (formText fields) }

end Url
end StoreAdmin
