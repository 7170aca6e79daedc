import StoreAdmin.Url.Fault
import StoreAdmin.Url.Address
import StoreAdmin.Url.Domain

/-!
# Hosts

A host is a name or an address. Schemes with hosts of their own kind read names as domains; all
other schemes take the text as it is.
-/

namespace StoreAdmin.Url

/-- A host. The empty name means that there is none. -/
inductive Host where
  | name (text : List Char)
  | ipv4 (address : Nat)
  | ipv6 (pieces : List Nat)
  deriving DecidableEq

/-- The text of a host. -/
def Host.text : Host → List Char
  | .name text => text
  | .ipv4 address => ipv4Text address
  | .ipv6 pieces => ipv6Text pieces

/-- An address in brackets, if the text starts with one. -/
def bracketed? (text : List Char) : Option (Except Fault Host) :=
  match text with
  | '[' :: rest =>
    if rest.getLast? = some ']' then
      match ipv6? rest.dropLast with
      | some pieces => some (.ok (.ipv6 pieces))
      | none => some (.error .badIpv6)
    else some (.error .badIpv6)
  | _ => none

/-- A host that is a domain or an address. -/
def Host.ofText (text : List Char) : Except Fault Host :=
  match bracketed? text with
  | some host => host
  | none =>
    match (Utf8.decode? (percentDecode text)).bind domain? with
    | none => .error .badDomain
    | some [] => .error .emptyHost
    | some domain =>
      if endsInNumber domain then
        match ipv4? domain with
        | some address => .ok (.ipv4 address)
        | none => .error .badIpv4
      else .ok (.name domain)

/-- A host of another scheme. -/
def Host.ofOpaque (text : List Char) : Except Fault Host :=
  match bracketed? text with
  | some host => host
  | none =>
    if text.any fun c => c.toNat = 0 || "\t\n\r #/:<>?@[\\]^|".toList.contains c then
      .error .badDomainCharacter
    else .ok (.name (percentEncode isPrintableAscii text))

end StoreAdmin.Url
