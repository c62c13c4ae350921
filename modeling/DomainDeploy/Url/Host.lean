import DomainDeploy.Url.Fault
import DomainDeploy.Url.Host.Ipv4
import DomainDeploy.Url.Host.Ipv6
import DomainDeploy.Url.Host.Domain

/-!
# Hosts

A host is a domain name, a text that is kept as it stands, an IPv4 address, or an IPv6 address.
Domain names and IPv4 addresses are known only to the special schemes; any other scheme keeps the
text, letter case included.
-/

namespace DomainDeploy.Url

/-- The part of a URL that names a machine. -/
inductive Host where
  /-- A domain name in ASCII. -/
  | domain (name : List Char)
  /-- A text kept as it stands; empty when no machine is named. -/
  | verbatim (text : List Char)
  | ipv4 (address : Nat)
  | ipv6 (pieces : List Nat)
deriving DecidableEq, Repr

namespace Host

/-- The host as it stands in a URL. -/
def chars : Host → List Char
  | domain name => name
  | verbatim text => text
  | ipv4 address => (Ipv4.toText address).toList
  | ipv6 pieces => '[' :: Ipv6.chars pieces ++ [']']

/-- Characters that a text kept as it stands must not hold. -/
def isForbidden (c : Char) : Bool :=
  c.toNat == 0 || ['\t', '\n', '\r', ' ', '#', '/', ':', '<', '>', '?', '@', '[', '\\', ']', '^',
    '|'].contains c

/-- The IPv6 address in brackets that starts behind the opening one. -/
def ofBracketed (inside : List Char) : Except Fault Host :=
  if inside.getLast? == some ']' then
    match Ipv6.parse inside.dropLast with
    | some pieces => .ok (ipv6 pieces)
    | none => .error .invalidIpv6
  else .error .invalidIpv6

/-- Reads the host of a special scheme. -/
def ofSpecial : List Char → Except Fault Host
  | '[' :: inside => ofBracketed inside
  | text =>
    match Domain.toAscii? (decodeBytes text) with
    | none => .error .invalidDomain
    | some [] => .error .emptyHost
    | some name =>
      if Ipv4.endsInNumber name then
        match Ipv4.parse name with
        | some address => .ok (ipv4 address)
        | none => .error .invalidIpv4
      else .ok (domain name)

/-- Reads the host of any other scheme. -/
def ofVerbatim : List Char → Except Fault Host
  | '[' :: inside => ofBracketed inside
  | text =>
    if text.any isForbidden then .error .invalidDomainCharacter
    else .ok (verbatim (encodeWith .controls text))

end Host

end DomainDeploy.Url
