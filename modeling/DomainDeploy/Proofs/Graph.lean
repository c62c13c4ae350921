import Mathlib.Data.List.Nodup
import DomainDeploy.Json.Printer
import DomainDeploy.Management.Reading
import DomainDeploy.Proofs.Static
import DomainDeploy.Rest.Channel

/-!
# Domains as graphs of objects

A finite domain is given by its objects: configured servers and clusters, deployments with their
targets, and the runtime objects of its servers. Names are proper and distinct within a collection,
and what a deployment is targeted to and what a cluster consists of is configured. The objects stand
in a tree, and `DomainGraph.resource?` finds what stands at the end of a path.

There are two ways to such a domain. `DomainGraph.direct` reads the objects themselves.
`DomainGraph.serve` is a server that shows them as JSON documents below a base address: fields by
their names, collections as items with names, references as the names on the way to what they refer
to. A server is free to leave out the type of a configured server or cluster, and to write a
reference as a list or as an object that holds the list.
-/

namespace DomainDeploy

/-! ### Objects -/

/-- A name that can stand on the way to an object. -/
structure IsProperName (name : String) : Prop where
  nonempty : name ≠ ""
  not_dot : name ≠ "."
  not_dots : name ≠ ".."
  chars : ∀ c ∈ name.toList, c ≠ '/' ∧ c ≠ '\t' ∧ c ≠ '\r' ∧ c ≠ '\n'

/-- Whether a character cannot stand in a name on the way to an object. -/
def isImproper (c : Char) : Bool := c == '/' || c == '\t' || c == '\r' || c == '\n'

theorem isProperName_iff {name : String} : IsProperName name ↔
    name ≠ "" ∧ name ≠ "." ∧ name ≠ ".." ∧ name.toList.any isImproper = false := by
  constructor
  · intro h
    refine ⟨h.nonempty, h.not_dot, h.not_dots, List.any_eq_false.2 fun c hc => ?_⟩
    simp [isImproper, h.chars c hc]
  · rintro ⟨nonempty, not_dot, not_dots, proper⟩
    refine ⟨nonempty, not_dot, not_dots, fun c hc => ?_⟩
    simpa [isImproper, and_assoc] using List.any_eq_false.1 proper c hc

instance (name : String) : Decidable (IsProperName name) := decidable_of_iff _ isProperName_iff.symm

/-- Things with proper and distinct names, in their order. -/
structure Collection (α : Type) where
  items : List (String × α)
  proper : ∀ item ∈ items, IsProperName item.1
  distinct : (items.map (·.1)).Nodup

namespace Collection

variable {α : Type} {c : Collection α} {name : String} {a : α}

def names (c : Collection α) : List String := c.items.map (·.1)

def find? (c : Collection α) (name : String) : Option α := c.items.lookup name

theorem exists_find?_eq_some (h : name ∈ c.names) : ∃ a, c.find? name = some a := by
  obtain ⟨item, hitem, rfl⟩ := List.mem_map.1 h
  cases hfind : c.items.lookup item.1 with
  | some a => exact ⟨a, hfind⟩
  | none =>
      have absent := List.lookup_eq_none_iff.1 hfind item hitem
      simp at absent

theorem mem_of_find?_eq_some (h : c.find? name = some a) : (name, a) ∈ c.items := by
  obtain ⟨before, behind, hitems, -⟩ := List.lookup_eq_some_iff.1 h
  rw [hitems]
  simp

theorem isProperName_of_find?_eq_some (h : c.find? name = some a) : IsProperName name :=
  c.proper _ (mem_of_find?_eq_some h)

end Collection

structure ServletRuntime where
  servletName : String
  contextPath : String

structure ComponentRuntime where
  type : String
  servlets : Collection ServletRuntime

structure ApplicationRuntime where
  components : Collection ComponentRuntime

structure ServerRuntime where
  state : String
  url : String
  applications : Collection ApplicationRuntime

/-- What a deployment is targeted to: a configured server or cluster. -/
inductive Target where
  | server (name : String)
  | cluster (name : String)

/-- A finite domain. -/
structure DomainGraph where
  servers : Collection Unit
  /-- Clusters with the names of their members. -/
  clusters : Collection (List String)
  deployments : Collection (List Target)
  runtimes : Collection ServerRuntime
  members_configured : ∀ c ∈ clusters.items, ∀ name ∈ c.2, name ∈ servers.names
  targets_configured : ∀ d ∈ deployments.items, ∀ t ∈ d.2, match t with
    | .server name => name ∈ servers.names
    | .cluster name => name ∈ clusters.names

/-! ### What objects show -/

/-- An attribute that is a text. -/
inductive Scalar where
  | name
  | type
  | state
  | servletName
  | contextPath
deriving DecidableEq

/-- An attribute that refers to configured objects. -/
inductive Link where
  | targets
  | servers

/-- An attribute that lists objects below. -/
inductive Branch where
  | deployments
  | clusters
  | runtimes
  | applications
  | components
  | servlets

namespace Scalar

def key : Scalar → String
  | name => "Name"
  | type => "Type"
  | state => "State"
  | servletName => "ServletName"
  | contextPath => "ContextPath"

def field : Scalar → String
  | name => "name"
  | type => "type"
  | state => "state"
  | servletName => "servletName"
  | contextPath => "contextPath"

def all : List Scalar := [name, type, state, servletName, contextPath]

end Scalar

namespace Link

def key : Link → String
  | targets => "Targets"
  | servers => "Servers"

def field : Link → String
  | targets => "targets"
  | servers => "servers"

def all : List Link := [targets, servers]

end Link

namespace Branch

def key : Branch → String
  | deployments => "AppDeployments"
  | clusters => "Clusters"
  | runtimes => "ServerRuntimes"
  | applications => "ApplicationRuntimes"
  | components => "ComponentRuntimes"
  | servlets => "Servlets"

def field : Branch → String
  | deployments => "appDeployments"
  | clusters => "clusters"
  | runtimes => "serverRuntimes"
  | applications => "applicationRuntimes"
  | components => "componentRuntimes"
  | servlets => "servlets"

def all : List Branch := [deployments, clusters, runtimes, applications, components, servlets]

end Branch

/-- The object at the end of a path, in the order of their names from the root. -/
def ObjectName.ofPath (path : List String) : ObjectName := ⟨"/".intercalate path⟩

namespace Target

def path : Target → List String
  | server name => ["domainConfig", "servers", name]
  | cluster name => ["domainConfig", "clusters", name]

def object (t : Target) : ObjectName := .ofPath t.path

end Target

/-- An object with its name and what it holds. -/
inductive Resource where
  | configuration (deployments : Collection (List Target)) (servers : Collection Unit)
      (clusters : Collection (List String))
  | deployment (name : String) (targets : List Target)
  | server (name : String)
  | cluster (name : String) (members : List String)
  | domain (runtimes : Collection ServerRuntime)
  | runtime (name : String) (r : ServerRuntime)
  | application (name : String) (a : ApplicationRuntime)
  | component (name : String) (c : ComponentRuntime)
  | servlet (name : String) (s : ServletRuntime)

namespace Resource

def text : Resource → Scalar → Option String
  | deployment name _, .name | server name, .name | cluster name _, .name => some name
  | server _, .type => some "Server"
  | cluster _ _, .type => some "Cluster"
  | runtime name _, .name | application name _, .name | component name _, .name => some name
  | servlet name _, .name => some name
  | runtime _ r, .state => some r.state
  | component _ c, .type => some c.type
  | servlet _ s, .servletName => some s.servletName
  | servlet _ s, .contextPath => some s.contextPath
  | _, _ => none

/-- What the object refers to. -/
def links : Resource → Link → Option (List Target)
  | deployment _ targets, .targets => some targets
  | cluster _ members, .servers => some (members.map .server)
  | _, _ => none

/-- The names of the objects that are listed. -/
def listed : Resource → Branch → Option (List String)
  | configuration deployments _ _, .deployments => some deployments.names
  | configuration _ _ clusters, .clusters => some clusters.names
  | domain runtimes, .runtimes => some runtimes.names
  | runtime _ r, .applications => some r.applications.names
  | application _ a, .components => some a.components.names
  | component _ c, .servlets => some c.servlets.names
  | _, _ => none

/-- Where the object is reached over HTTP. -/
def url? : Resource → Option String
  | runtime _ r => some r.url
  | _ => none

/-- Whether where the object stands tells its type. -/
def isTypedByPlace : Resource → Bool
  | server _ | cluster _ _ => true
  | _ => false

/-- The object of that name in a collection of an object. -/
def child? (collection name : String) : Resource → Option Resource
  | configuration deployments servers clusters =>
    match collection with
    | "appDeployments" => (deployments.find? name).map (deployment name)
    | "servers" => (servers.find? name).map fun _ => server name
    | "clusters" => (clusters.find? name).map (cluster name)
    | _ => none
  | domain runtimes =>
    if collection == "serverRuntimes" then (runtimes.find? name).map (runtime name) else none
  | runtime _ r =>
    if collection == "applicationRuntimes" then (r.applications.find? name).map (application name)
    else none
  | application _ a =>
    if collection == "componentRuntimes" then (a.components.find? name).map (component name)
    else none
  | component _ c =>
    if collection == "servlets" then (c.servlets.find? name).map (servlet name) else none
  | _ => none

/-- What stands at the end of a path below an object. -/
def below? (r : Resource) : List String → Option Resource
  | [] => some r
  | [_] => none
  | collection :: name :: rest => (r.child? collection name).bind (·.below? rest)

end Resource

/-! ### Reading the objects themselves -/

namespace Resource

variable (r : Resource) (object : ObjectName) (key : String)

def textReading? : Option Reading := do
  let s ← Scalar.all.find? (·.key == key)
  return .text (← r.text s)

def linkReading? : Option Reading := do
  let l ← Link.all.find? (·.key == key)
  return .references ((← r.links l).map Target.object)

def branchReading? : Option Reading := do
  let b ← Branch.all.find? (·.key == key)
  return .references ((← r.listed b).map (object.child b.field).child)

end Resource

namespace DomainGraph

def configuration (g : DomainGraph) : Resource :=
  .configuration g.deployments g.servers g.clusters

def domain (g : DomainGraph) : Resource := .domain g.runtimes

/-- The object at the end of a path. -/
def resource? (g : DomainGraph) : List String → Option Resource
  | "domainConfig" :: rest => g.configuration.below? rest
  | "domainRuntime" :: rest => g.domain.below? rest
  | _ => none

/-- The value of an attribute of an object below the root. -/
def attribute? (g : DomainGraph) (object : ObjectName) (key : String) : Option Reading := do
  let r ← g.resource? object.segments
  r.textReading? key <|> r.linkReading? key <|> r.branchReading? object key

/-- The value of an attribute. -/
def get (g : DomainGraph) (object : ObjectName) (key : String) : Option Reading :=
  if object.isRoot then
    match key with
    | "DomainConfiguration" => some (.reference (.ofPath ["domainConfig"]))
    | "ServerRuntimes" => g.attribute? (.ofPath ["domainRuntime"]) "ServerRuntimes"
    | _ => none
  else g.attribute? object key

/-- What an operation comes to. -/
def invoke (g : DomainGraph) (object : ObjectName) (operation : String) : Option Reading :=
  if operation == "getURL" then ((g.resource? object.segments).bind Resource.url?).map .text
  else none

/-- A channel that reads the objects themselves. -/
def direct (g : DomainGraph) : Program.Static Outside
  | .connect | .disconnect => .ok ()
  | .call (.get object key) =>
    match g.get object key with
    | some reading => .ok reading
    | none => .error (.protocol (.noAttribute key object))
  | .call (.invoke object operation _) =>
    match g.invoke object operation with
    | some reading => .ok reading
    | none => .error (.protocol (.noOperation operation object))
  | .call (.upload object operation _ _) => .error (.protocol (.noOperation operation object))
  | .runTool _ _ => .timedOut
  | .sleep _ => true

end DomainGraph

/-! ### Serving the objects -/

/-- What a server is free in. -/
structure Style where
  /-- Whether the type of the object at a path is left out, if its place tells it. -/
  omitsType : List String → Bool
  /-- Whether a reference from the object at a path to a target is a bare list. -/
  isBare : List String → Target → Bool

namespace Style

/-- A reference: the names on the way from the configuration. -/
def identity (style : Style) (holder : List String) (t : Target) : Json :=
  let names := Json.array (t.path.tail.map .string)
  if style.isBare holder t then names else .object [("identity", names)]

end Style

namespace Resource

variable (style : Style) (path : List String) (r : Resource) (field : String)

def textField? : Option Json := do
  let s ← Scalar.all.find? (·.field == field)
  let value ← r.text s
  if s == .type && r.isTypedByPlace && style.omitsType path then none else some (.string value)

def linkField? : Option Json := do
  let l ← Link.all.find? (·.field == field)
  return .array ((← r.links l).map (style.identity path))

/-- A document with one field of the object. -/
def document : Json :=
  match r.textField? style path field <|> r.linkField? style path field with
  | some value => .object [(field, value)]
  | none => .object []

/-- A document with names. -/
def namedItems (names : List String) : Json :=
  .object [("items", .array (names.map fun name => .object [("name", .string name)]))]

/-- A document with the names of the objects in a collection. -/
def listing? (r : Resource) (collection : String) : Option Json := do
  let b ← Branch.all.find? (·.field == collection)
  return namedItems (← r.listed b)

end Resource

namespace DomainGraph

variable (g : DomainGraph) (style : Style)

/-- What is shown of a field at a path. -/
def document? (path : List String) (field : String) : Option Json :=
  match g.resource? path with
  | some r => some (r.document style path field)
  | none => do
    let r ← g.resource? path.dropLast
    r.listing? (← path.getLast?)

/-- What an operation at a path returns. -/
def result? (path : List String) : Option Json := do
  let r ← g.resource? path.dropLast
  if path.getLast? == some "getURL" then
    return .object [("return", .string (← r.url?))]
  else none

end DomainGraph

namespace Url

/-- The segments that stand before those that are put behind. -/
def mount (base : Url) : List (List Char) :=
  match base.path with
  | .literal _ => []
  | .segments parts =>
    let parts := if 1 < parts.length && parts.getLast? == some [] then parts.dropLast else parts
    if parts == [[]] then [] else parts

/-- The names on the way from a base address, if they can be read. -/
def names? (base url : Url) : Option (List String) :=
  match url.path with
  | .literal _ => none
  | .segments parts =>
    if base.mount.isPrefixOf parts then
      (parts.drop base.mount.length).mapM fun part => Text.Utf8.decode? (decodeBytes part)
    else none

/-- The field that a query asks for last. -/
def askedField? (url : Url) : Option String := do
  let pieces := (url.query.getD []).splitOn '&'
  let piece ← pieces.reverse.find? ("fields=".toList.isPrefixOf ·)
  Text.Utf8.decode? (decodeBytes (piece.drop "fields=".length))

end Url

namespace DomainGraph

open Rest.Channel (apiRoot)

/-- The path of what is asked for, if it lies below the root of the resources. -/
def path? (base url : Url) : Option (List String) := do
  let names ← base.names? url
  if apiRoot.isPrefixOf names then some (names.drop apiRoot.length) else none

/-- What a server below a base address answers. -/
def serve (g : DomainGraph) (style : Style) (base : Url) (request : Http.Request) : Http.Reply :=
  let shown := do
    let path ← path? base request.url
    match request.method with
    | .get => g.document? style path (← request.url.askedField?)
    | .post => g.result? path
  match shown with
  | some json => .answered 200 (Text.Utf8.encode json.compact) true
  | none => .answered 404 [] true

end DomainGraph

end DomainDeploy
