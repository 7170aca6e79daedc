import StoreAdmin.Url.Basic
import StoreAdmin.Text.Blank

/-!
# Reading addresses

Reading is lenient where it can be: blanks at the ends and line breaks do not count, schemes with
hosts may have any number of slashes of either kind in front of the host, and characters that may
not stand in an address are escaped. What it refuses is a missing scheme, and a host or a port that
make no sense.
-/

namespace StoreAdmin.Url

/-- The scheme in front of the first colon, in lower case, and what is behind it. -/
def scheme? (text : List Char) : Option (List Char × List Char) :=
  match text.span (· ≠ ':') with
  | (first :: more, ':' :: rest) =>
    if first.isAlpha ∧ more.all fun c => c.isAlphanum || c = '+' || c = '-' || c = '.' then
      some ((first :: more).map Char.toLower, rest)
    else none
  | _ => none

/-- A text and what is behind the first `mark` in it, if there is one. -/
def cutAt (mark : Char) (text : List Char) : List Char × Option (List Char) :=
  match text.span (· ≠ mark) with
  | (before, _ :: after) => (before, some after)
  | (before, []) => (before, none)

/-- The parts of a text around the last `@`. -/
def cutUser? (text : List Char) : Option (List Char × List Char) :=
  match text.reverse.span (· ≠ '@') with
  | (host, _ :: user) => some (user.reverse, host.reverse)
  | (_, []) => none

/-- The host at the start of a text, which a colon outside of brackets ends. -/
def cutHost : Bool → List Char → List Char × List Char
  | _, [] => ([], [])
  | inside, c :: rest =>
    if c = ':' ∧ !inside then ([], c :: rest)
    else
      let (host, port) := cutHost (if c = '[' then true else if c = ']' then false else inside) rest
      (c :: host, port)

/-- The port behind a host, and what follows it. -/
def readPort (scheme text : List Char) : Except Fault (Option Nat × List Char) :=
  match text with
  | ':' :: rest =>
    let digits := rest.takeWhile (·.isDigit)
    let after := rest.dropWhile (·.isDigit)
    let port := Decimal.nat? digits
    if 65535 < port.getD 0 then .error .badPort
    else if after = [] ∨ after.head? = some '\\' then
      .ok (if port = defaultPort? scheme then none else port, after)
    else .error .badPort
  | text => .ok (none, text)

/-- User, host and port, and what follows them. `alone` tells that nothing stands behind the
authority. -/
def readAuthority (scheme text : List Char) (alone : Bool) :
    Except Fault (Authority × List Char) := do
  let special := isSpecial scheme
  let (userText, hostText) := (cutUser? text).getD ([], text)
  if hostText = [] ∧ userText = [] ∧ (cutUser? text).isSome ∧ !alone then throw .emptyHost
  let (user, password) := cutAt ':' userText
  let user := percentEncode isUserInfoChar user
  let password := percentEncode isUserInfoChar (password.getD [])
  let (name, behind) := cutHost false hostText
  if special ∧ name = [] then throw .emptyHost
  let host ← if special then Host.ofText name else Host.ofOpaque name
  if name = [] ∧ behind ≠ [] then throw .emptyHost
  let (port, rest) ← readPort scheme behind
  if name = [] ∧ (user ≠ [] ∨ password ≠ []) then throw .emptyHost
  return ({ user, password, host, port }, rest)

/-- The host of a file, if it has one. A drive is no host, and neither is the own machine. -/
def readFileHost (text : List Char) : Except Fault (Option Host) :=
  if text = [] ∨ Segment.isDrive text then .ok none
  else do
    let host ← Host.ofText text
    return if host = .name "localhost".toList then none else some host

/-- The authority and the path of an address. -/
def readPlace (scheme text : List Char) (alone : Bool) :
    Except Fault (Option Authority × Path) := do
  let isSlash (c : Char) := c = '/' || c = '\\'
  if scheme = "file".toList then
    let inner :=
      match text with
      | a :: b :: rest => if isSlash a && isSlash b then some rest else none
      | _ => none
    match inner with
    | none => return (some { host := .name [] }, .segments (pathOf scheme text))
    | some inner =>
      let name := inner.takeWhile (!isSlash ·)
      let host ← readFileHost name
      let path :=
        pathOf scheme (if Segment.isDrive name then inner else inner.dropWhile (!isSlash ·))
      let host := if (path.head?.map Segment.isDrive).getD false then none else host
      return (some { host := host.getD (.name []) }, .segments path)
  else if isSpecial scheme then
    let inner := text.dropWhile isSlash
    let path := inner.dropWhile (!isSlash ·)
    let (authority, rest) ←
      readAuthority scheme (inner.takeWhile (!isSlash ·)) (alone && path = [])
    return (some authority, .segments (pathOf scheme (rest ++ path)))
  else
    match text with
    | '/' :: '/' :: inner =>
      let path := inner.dropWhile (· ≠ '/')
      let (authority, rest) ←
        readAuthority scheme (inner.takeWhile (· ≠ '/')) (alone && path = [])
      return (some authority, .segments (pathOf scheme (rest ++ path)))
    | '/' :: _ => return (none, .segments (pathOf scheme text))
    | _ => return (none, .opaqueText (percentEncode isPrintableAscii text))

/-- The address that a text stands for. -/
def ofText (text : List Char) : Except Fault Url :=
  match scheme? (withoutBreaks (Text.trim (·.toNat ≤ 0x20) text)) with
  | none => .error .relative
  | some (scheme, rest) => do
    let (rest, fragment) := cutAt '#' rest
    let (rest, query) := cutAt '?' rest
    let (authority, path) ← readPlace scheme rest (query.isNone && fragment.isNone)
    return {
      scheme, authority, path,
      query := query.map (percentEncode (isQueryChar (isSpecial scheme))),
      fragment := fragment.map (percentEncode isFragmentChar) }

end StoreAdmin.Url
