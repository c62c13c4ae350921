import DomainDeploy.DeployError
import DomainDeploy.Text.Blank
import DomainDeploy.Text.Case
import DomainDeploy.Url.Parser

/-!
# Addresses of admin servers

An admin server listens for several protocols on one port.  An `AdminUrl` is the protocol, the host
and the port of such an address; everything else that a URL may carry is dropped.
-/

namespace DomainDeploy

/-- The protocols that an admin server listens for. -/
inductive Protocol where
  | t3
  | t3s
  | http
  | https
  | iiop
  | iiops
deriving DecidableEq, Repr

namespace Protocol

/-- The protocol as the scheme of a URL. -/
def name : Protocol → String
  | t3 => "t3"
  | t3s => "t3s"
  | http => "http"
  | https => "https"
  | iiop => "iiop"
  | iiops => "iiops"

/-- Whether the protocol is encrypted. -/
def isSecure : Protocol → Bool
  | t3s | https | iiops => true
  | t3 | http | iiop => false

/-- The scheme that reaches the same port over HTTP. -/
def httpScheme (p : Protocol) : String := if p.isSecure then "https" else "http"

/-- The port that the server listens on unless told otherwise. -/
def defaultPort : Protocol → Nat
  | http => 80
  | https => 443
  | t3 | iiop => 7001
  | t3s | iiops => 7002

/-- Every protocol. -/
def all : List Protocol := [t3, t3s, http, https, iiop, iiops]

/-- The protocol of that name, in any letter case. -/
def ofText (text : String) : Except DeployError Protocol :=
  let name := Text.lower text
  match all.find? (·.name == name) with
  | some p => .ok p
  | none => .error (.configuration (.unknownProtocol name))

end Protocol

/-- The address of an admin server. -/
structure AdminUrl where
  protocol : Protocol
  host : String
  port : Nat
deriving DecidableEq, Repr

namespace AdminUrl

/-- Reads an address; blanks around it do not count. -/
def parse (text : String) : Except DeployError AdminUrl := do
  let text := Text.trim text
  if text == "" then throw (.configuration .adminUrlBlank)
  let url ←
    match Url.parse text with
    | .ok url => pure url
    | .error fault => throw (.configuration (.adminUrlInvalid text fault))
  let protocol ← Protocol.ofText url.scheme
  match url.host? with
  | none => throw (.configuration (.adminUrlWithoutHost text))
  | some host => return ⟨protocol, host, url.port?.getD protocol.defaultPort⟩

/-- The address with its port written out. -/
def display (a : AdminUrl) : String := s!"{a.protocol.name}://{a.host}:{a.port}"

/-- Where the server is reached over HTTP. -/
def httpBase (a : AdminUrl) : String := s!"{a.protocol.httpScheme}://{a.host}:{a.port}"

end AdminUrl

end DomainDeploy
