import DomainDeploy.Trust.Store

/-!
# Trust contexts

What an operation is told about trust.  The built-in mode publishes no store at all, so whatever is
published stays; every other mode publishes the location and the password that it has.
-/

namespace DomainDeploy

/-- Which certificates are trusted. -/
inductive TrustMode where
  /-- Those that are built in; nothing is configured. -/
  | builtIn
  /-- The demonstration store of the server software. -/
  | demo
  /-- A store of the user's own. -/
  | custom
  /-- The standard store of the program that runs the tool. -/
  | standard
deriving DecidableEq, Repr

/-- Everything that is known about trust. -/
structure TrustContext where
  mode : TrustMode := .builtIn
  location : Option String := none
  password : Option String := none
  /-- Names of hosts are not compared with the certificates. -/
  ignoreHostName : Bool := false
  /-- What the deployment tool checks names of hosts with. -/
  verifierClass : Option String := none
deriving DecidableEq, Repr

namespace TrustContext

/-- Whether more than the built-in certificates is asked for. -/
def isConfigured (c : TrustContext) : Bool := c.mode != .builtIn

/-- The store to publish while a channel is in use. -/
def store? (c : TrustContext) : Option TrustStore :=
  if c.isConfigured then some ⟨c.location, c.password⟩ else none

end TrustContext

end DomainDeploy
