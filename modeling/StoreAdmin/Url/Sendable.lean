import StoreAdmin.Url.Basic

/-!
# Addresses that a message can be sent to

A user in an address is not sent with it but as a header, and what is sent must be a web address
with plain characters in its host.
-/

namespace StoreAdmin.Url

/-- The characters that may stand in the host of a web address. -/
def isHostChar (c : Char) : Bool :=
  isVisibleExcept "\"<>\\^\x60\x7b|\x7d" c

/-- How long an address may be. -/
def maxLength : Nat := 65534

/-- Whether a message can be sent to an address. -/
def isSendable (url : Url) : Bool :=
  (url.scheme = "http".toList || url.scheme = "https".toList) &&
    ((url.authority.map fun a => a.host.text.all isHostChar).getD false) &&
    url.text.length ≤ maxLength

/-- The user and the password of an address. There is no user if its escapes make no text, and no
password if its escapes do not. -/
def userInfo? (url : Url) : Option (String × Option String) :=
  match url.authority with
  | none => none
  | some a =>
    match Utf8.decode? (percentDecode a.user) with
    | none => none
    | some user =>
      let password :=
        if a.password = [] then none
        else (Utf8.decode? (percentDecode a.password)).map String.ofList
      if user = [] ∧ password = none then none else some (String.ofList user, password)

/-- The address without its user, if it has one that makes sense. -/
def withoutUser (url : Url) : Url :=
  if url.userInfo?.isSome then
    { url with authority := url.authority.map fun a => { a with user := [], password := [] } }
  else url

/-- The address without its fragment, as it is sent. -/
def withoutFragment (url : Url) : Url :=
  { url with fragment := none }

end StoreAdmin.Url
