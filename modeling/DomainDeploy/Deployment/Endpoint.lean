import DomainDeploy.Json.Shape

/-!
# Where a deployment is served

An endpoint is a host, a port and the servlets that the deployment shows there.  It is written as a
JSON object and read back from one.
-/

namespace DomainDeploy

/-- A servlet of a deployment. -/
structure Servlet where
  name : String
  contextPath : String
deriving DecidableEq, Repr

namespace Servlet

/-- Servlets are ordered by name and then by context path, byte by byte. -/
def precedes (a b : Servlet) : Bool :=
  a.name < b.name || (a.name == b.name && (a.contextPath < b.contextPath || a == b))

/-- Servlets in their order. -/
def sort (servlets : List Servlet) : List Servlet := servlets.mergeSort precedes

/-- The servlet as JSON. -/
def toJson (s : Servlet) : Json :=
  .object [("name", .string s.name), ("context_path", .string s.contextPath)]

/-- Reads a servlet. -/
def reader : Json.Reader Servlet := Json.record "Servlet" ⟨"", ""⟩ [
  ⟨"name", do let a ← Json.text; pure fun s => { s with name := a }, true⟩,
  ⟨"context_path", do let a ← Json.text; pure fun s => { s with contextPath := a }, true⟩]

end Servlet

/-- Where a deployment is served. -/
structure Endpoint where
  host : String
  port : Nat
  servlets : List Servlet
deriving DecidableEq, Repr

namespace Endpoint

/-- The endpoint as JSON. -/
def toJson (e : Endpoint) : Json :=
  .object [("host", .string e.host), ("port", .ofNat e.port),
    ("servlets", .array (e.servlets.map Servlet.toJson))]

/-- Reads an endpoint. -/
def reader : Json.Reader Endpoint := Json.record "EndpointInfo" ⟨"", 0, []⟩ [
  ⟨"host", do let a ← Json.text; pure fun e => { e with host := a }, true⟩,
  ⟨"port", do let a ← Json.natural 16; pure fun e => { e with port := a }, true⟩,
  ⟨"servlets", do let a ← Json.list Servlet.reader; pure fun e => { e with servlets := a }, true⟩]

end Endpoint

end DomainDeploy
