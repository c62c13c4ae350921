import DomainDeploy.Deployment.Endpoint
import DomainDeploy.Deployment.Server
import DomainDeploy.Outside
import DomainDeploy.Url.Parser

/-!
# Reading the domain

What has been submitted and what a domain serves may differ for a while, so whether a deployment is
served is always read from the domain: from its configuration, which says what is deployed to which
target, and from the runtime objects of its servers, which say what runs.
-/

namespace DomainDeploy.Resolution

open Activity

/-- The configuration of the domain. -/
def domainConfiguration : Activity ObjectName := getReference .root "DomainConfiguration"

/-- The first record of a deployment of that name, if there is one. -/
def findDeployment (name : String) : Activity (Option ObjectName) := do
  firstNamed name (← getReferences (← domainConfiguration) "AppDeployments")

/-- Whether no deployment of that name is on record. -/
def confirmAbsent (name : String) : Activity Bool := return (← findDeployment name).isNone

/-- The target of that name among those of a deployment. -/
def findTarget (deployment : ObjectName) (name target : String) : Activity ObjectName := do
  match ← firstNamed target (← getReferences deployment "Targets") with
  | some found => pure found
  | none => throw (.targetNotFound name target)

/-- The names of objects, in their order. -/
def namesOf : List ObjectName → Activity (List String)
  | [] => pure []
  | object :: rest => do
    let name ← getText object "Name"
    return name :: (← namesOf rest)

/-- The names of the servers of a cluster. -/
def clusterMembers (cluster : ObjectName) : Activity (List String) := do
  namesOf (← getReferences cluster "Servers")

/-- Where a running server is reached over HTTP. -/
def askUrl (runtime : ObjectName) : Activity String := do
  let reading ← call (.invoke runtime "getURL" (.object [("protocol", .string "http")]))
  ofResult reading.toText

/-- Reads one server. -/
def readServer (runtime : ObjectName) : Activity ServerInstance := do
  let name ← getText runtime "Name"
  let state ← getText runtime "State"
  if state == ServerInstance.running then return ⟨name, state, some (← askUrl runtime)⟩
  else return ⟨name, state, none⟩

/-- Reads servers, in their order. -/
def readServers : List ObjectName → Activity (List (ObjectName × ServerInstance))
  | [] => pure []
  | runtime :: rest => do
    let server ← readServer runtime
    return (runtime, server) :: (← readServers rest)

/-- The servers of the domain with their runtime objects. -/
def serverRuntimes : Activity (List (ObjectName × ServerInstance)) := do
  readServers (← getReferences .root "ServerRuntimes")

/-- The servers of the domain. -/
def listServers : Activity (List ServerInstance) := return (← serverRuntimes).map (·.2)

/-- The first running server among `members`; without members no server is asked. -/
def runningMember (members : List String) : Activity (Option (ObjectName × ServerInstance)) := do
  if members.isEmpty then return none
  else
    return (← serverRuntimes).find? fun (_, server) =>
      server.isRunning && members.contains server.name

/-- Host and port of the address that a server gave. -/
def addressOf (server : ServerInstance) : Except DeployError (String × Nat) := do
  match server.baseUrl with
  | none => throw (.protocol (.urlMissing server.name))
  | some text =>
    match Url.parse text with
    | .error fault => throw (.protocol (.urlInvalid server.name text fault))
    | .ok url =>
      match url.host? with
      | none => throw (.protocol (.urlWithoutHost text))
      | some host =>
        match url.port? with
        | none => throw (.protocol (.urlWithoutPort text))
        | some port => return (host, port)

/-- The type of the components that hold servlets. -/
def webComponent : String := "WebAppComponentRuntime"

/-- Reads servlets, in their order. -/
def readServlets : List ObjectName → Activity (List Servlet)
  | [] => pure []
  | servlet :: rest => do
    let name ← getText servlet "ServletName"
    let contextPath ← getText servlet "ContextPath"
    return ⟨name, contextPath⟩ :: (← readServlets rest)

/-- The servlets of a component; only web components have any. -/
def componentServlets (component : ObjectName) : Activity (List Servlet) := do
  if (← getText component "Type") == webComponent then
    readServlets (← getReferences component "Servlets")
  else return []

/-- The servlets of components, in their order. -/
def servletsOf : List ObjectName → Activity (List Servlet)
  | [] => pure []
  | component :: rest => do
    let servlets ← componentServlets component
    return servlets ++ (← servletsOf rest)

/-- The servlets of the application of that name on a server. -/
def applicationServlets (runtime : ObjectName) (name : String) : Activity (List Servlet) := do
  match ← firstNamed name (← getReferences runtime "ApplicationRuntimes") with
  | some application => servletsOf (← getReferences application "ComponentRuntimes")
  | none => throw (.applicationRuntimeNotFound name)

/-- The servers that a target stands for. -/
def membersOf (targetObject : ObjectName) (target : String) : Activity (List String) := do
  let type ← getText targetObject "Type"
  match TargetKind.ofText type with
  | .server => return [target]
  | .cluster => clusterMembers targetObject
  | .other =>
    note .debug s!"Target {target} is a {type}, not a server or cluster"
    return []

/-- Where a deployment is served on a target. -/
def buildEndpoint (name target : String) : Activity Endpoint := do
  match ← findDeployment name with
  | none => throw (.deploymentNotFound name)
  | some deployment =>
    let targetObject ← findTarget deployment name target
    match ← runningMember (← membersOf targetObject target) with
    | none => throw (.targetNotRunning target)
    | some (runtime, server) =>
      note .debug s!"Resolving {name} through {server.name}"
      let (host, port) ← ofResult (addressOf server)
      let servlets ← applicationServlets runtime name
      note .info s!"{name} is served by {server.name} at {host}:{port}"
      return ⟨host, port, servlets⟩

/-- Whether one of the clusters has that name and a running member; the first one of the name
decides. -/
def isClusterRunning (servers : List ServerInstance) (target : String)
    (clusters : List ObjectName) : Activity Bool := do
  match ← firstNamed target clusters with
  | none => return false
  | some cluster =>
    let members ← clusterMembers cluster
    return servers.any fun s => s.isRunning && members.contains s.name

/-- Whether a target runs: the server of that name, or else any member of the cluster. -/
def isTargetRunning (target : String) : Activity Bool := do
  let servers ← listServers
  match servers.find? (·.name == target) with
  | some server => return server.isRunning
  | none =>
    isClusterRunning servers target (← getReferences (← domainConfiguration) "Clusters")

end DomainDeploy.Resolution
