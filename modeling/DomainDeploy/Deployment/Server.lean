import DomainDeploy.Json.Shape

/-!
# Servers and targets

A server instance as the domain reports it.  Only a running server says where it is reached.
-/

namespace DomainDeploy

/-- A server instance. -/
structure ServerInstance where
  name : String
  state : String
  /-- Where the server is reached over HTTP; asked only while it runs. -/
  baseUrl : Option String
deriving DecidableEq, Repr

namespace ServerInstance

/-- The state of a server that can serve deployments. -/
def running : String := "RUNNING"

/-- Whether the server can serve deployments. -/
def isRunning (s : ServerInstance) : Bool := s.state == running

/-- The server as JSON; an address that is not known is left out. -/
def toJson (s : ServerInstance) : Json :=
  .object ([("name", .string s.name), ("state", .string s.state)] ++
    (s.baseUrl.map fun url => ("base_url", Json.string url)).toList)

/-- Reads a server. -/
def reader : Json.Reader ServerInstance := Json.record "ServerInstance" ⟨"", "", none⟩ [
  ⟨"name", do let a ← Json.text; pure fun s => { s with name := a }, true⟩,
  ⟨"state", do let a ← Json.text; pure fun s => { s with state := a }, true⟩,
  ⟨"base_url", do let a ← Json.optional Json.text; pure fun s => { s with baseUrl := a }, false⟩]

end ServerInstance

/-- What a deployment is targeted to. -/
inductive TargetKind where
  | server
  | cluster
  | other
deriving DecidableEq, Repr

namespace TargetKind

/-- The kind that the type of a target object names. -/
def ofText : String → TargetKind
  | "Server" => server
  | "Cluster" => cluster
  | _ => other

/-- The kind as a word. -/
def name : TargetKind → String
  | server => "Server"
  | cluster => "Cluster"
  | other => "Other"

end TargetKind

end DomainDeploy
