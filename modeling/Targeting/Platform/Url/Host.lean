import Targeting.Platform.Url.Flaw
import Targeting.Platform.Url.Ip
import Targeting.Platform.Url.Name.Basic
import Targeting.Platform.Url.Percent

/-!
# Hosts

The host of a common scheme is a name, an address of four bytes or an address of eight groups. A
name is decoded and brought into ASCII, and must not hold characters that have another meaning in
addresses. Of other schemes the host is any text without such characters.

## Main definitions

* `Url.commonHost`, `Url.otherHost` — the written form of a host
-/

namespace Targeting.Platform.Url

/-- Whether a character may not be in the host of an uncommon scheme. -/
def isForbiddenInHost (c : Char) : Bool :=
  c.toNat == 0 || ['\t', '\n', '\r', ' ', '#', '/', ':', '<', '>', '?', '@', '[', '\\', ']', '^',
    '|'].contains c

/-- The written form of a host in brackets. -/
def bracketedHost (host : List Char) : Except Flaw (List Char) :=
  if host.getLast? = some ']' then
    match ipv6? host.dropLast with
    | some groups => .ok ('[' :: (ipv6Text groups ++ [']']))
    | none => .error .invalidIpv6
  else .error .invalidIpv6

/-- The written form of a name. -/
def nameHost (host : List Char) : Except Flaw (List Char) :=
  match (String.fromUTF8? ⟨⟨decode host⟩⟩).bind (Name.ascii? ·.toList) with
  | none => .error .invalidInternationalName
  | some name =>
    if name.isEmpty then .error .emptyHost
    else if endsInNumber name then
      match ipv4? name with
      | some n => .ok (ipv4Text n)
      | none => .error .invalidIpv4
    else .ok name

/-- The written form of the host of a common scheme. -/
def commonHost : List Char → Except Flaw (List Char)
  | '[' :: host => bracketedHost host
  | host => nameHost host

/-- The written form of the host of another scheme. -/
def otherHost : List Char → Except Flaw (List Char)
  | '[' :: host => bracketedHost host
  | host =>
    if host.any isForbiddenInHost then .error .invalidDomainCharacter
    else .ok (encode inControl host)

end Targeting.Platform.Url
