import Mathlib.Data.List.Forall2
import DomainDeploy.Proofs.Bystander

/-!
# Where a deployment is served, read off an inventory

An inventory is what a domain says about itself: its deployments with their targets, and its server
runtimes with what they run, each thing under the name that it gives itself. Names may be missing,
repeated or shared. `Inventory.endpoint` says where a deployment is served on a target: five
searches, each for the first thing that fits, and an error for each search that finds nothing.

A static domain shows an inventory when the replies about its objects say the same. Every domain
whose replies are of the kinds that were asked for shows one, and reading such a domain comes to
what its inventory says (`value_buildEndpoint_eq_endpoint`).
-/

namespace DomainDeploy

open Program Activity Resolution

/-! ### Inventories -/

namespace Inventory

/-- What a deployment is targeted to. -/
structure Target where
  name : String
  type : String
  /-- The names of the servers of a cluster. -/
  members : List String

structure Deployment where
  name : String
  targets : List Target

structure Component where
  type : String
  /-- The servlets of a web component. -/
  servlets : List Servlet

structure Application where
  name : String
  components : List Component

structure Runtime where
  name : String
  state : String
  /-- Where a running server says that it is reached. -/
  url : String
  applications : List Application

/-- Whether a target stands for the server of that name. -/
def Target.standsFor (t : Target) (server : String) : Bool :=
  match t.type with
  | "Server" => server == t.name
  | "Cluster" => t.members.contains server
  | _ => false

def Component.isWeb (c : Component) : Bool := c.type == "WebAppComponentRuntime"

/-- The servlets of the web components. -/
def Application.servlets (a : Application) : List Servlet :=
  (a.components.filter (·.isWeb)).flatMap (·.servlets)

def Runtime.isRunning (r : Runtime) : Bool := r.state == "RUNNING"

/-- Host and port of the URL. -/
def Runtime.address (r : Runtime) : Except ProtocolFault (String × Nat) :=
  match Url.parse r.url with
  | .error fault => .error (.urlInvalid r.name r.url fault)
  | .ok url =>
    match url.host?, url.port? with
    | none, _ => .error (.urlWithoutHost r.url)
    | some _, none => .error (.urlWithoutPort r.url)
    | some host, some port => .ok (host, port)

/-- Where an application is served on a running server. -/
def Runtime.endpoint (r : Runtime) (name : String) : Except DeployError Endpoint :=
  match r.address with
  | .error fault => .error (.protocol fault)
  | .ok (host, port) =>
    match r.applications.find? (·.name == name) with
    | none => .error (.applicationRuntimeNotFound name)
    | some a => .ok ⟨host, port, a.servlets⟩

end Inventory

/-- What a domain says about itself. -/
structure Inventory where
  deployments : List Inventory.Deployment
  runtimes : List Inventory.Runtime

/-- Where a deployment is served on a target. -/
def Inventory.endpoint (v : Inventory) (name target : String) : Except DeployError Endpoint :=
  match v.deployments.find? (·.name == name) with
  | none => .error (.deploymentNotFound name)
  | some d =>
    match d.targets.find? (·.name == target) with
    | none => .error (.targetNotFound name target)
    | some t =>
      match v.runtimes.find? fun r => r.isRunning && t.standsFor r.name with
      | none => .error (.targetNotRunning target)
      | some r => r.endpoint name

/-! ### Domains that show an inventory -/

namespace Program.Static

section Shows

variable {α : Type} (D : Static Outside) (object : ObjectName) (field : String)

/-- An attribute is this text. -/
def Tells (text : String) : Prop := D.reply (.get object field) = .ok (.text text)

/-- An attribute is a list of objects, each of which shows the item at its place. -/
def Lists (shows : ObjectName → α → Prop) (items : List α) : Prop :=
  ∃ reading objects, D.reply (.get object field) = .ok reading ∧
    reading.toReferences = .ok objects ∧ List.Forall₂ shows objects items

/-- A server gives this URL. -/
def GivesUrl (url : String) : Prop :=
  D.reply (.invoke object "getURL" (.object [("protocol", .string "http")])) = .ok (.text url)

structure ShowsTarget (t : Inventory.Target) : Prop where
  name : D.Tells object "Name" t.name
  type : D.Tells object "Type" t.type
  members : t.type = "Cluster" →
    D.Lists object "Servers" (fun server => D.Tells server "Name") t.members

structure ShowsDeployment (d : Inventory.Deployment) : Prop where
  name : D.Tells object "Name" d.name
  targets : D.Lists object "Targets" D.ShowsTarget d.targets

structure ShowsServlet (s : Servlet) : Prop where
  name : D.Tells object "ServletName" s.name
  contextPath : D.Tells object "ContextPath" s.contextPath

structure ShowsComponent (c : Inventory.Component) : Prop where
  type : D.Tells object "Type" c.type
  servlets : c.isWeb = true → D.Lists object "Servlets" D.ShowsServlet c.servlets

structure ShowsApplication (a : Inventory.Application) : Prop where
  name : D.Tells object "Name" a.name
  components : D.Lists object "ComponentRuntimes" D.ShowsComponent a.components

structure ShowsRuntime (r : Inventory.Runtime) : Prop where
  name : D.Tells object "Name" r.name
  state : D.Tells object "State" r.state
  url : r.isRunning = true → D.GivesUrl object r.url
  applications : r.isRunning = true →
    D.Lists object "ApplicationRuntimes" D.ShowsApplication r.applications

/-- The replies of the domain say what the inventory says. -/
structure Shows (v : Inventory) : Prop where
  deployments : ∃ configuration,
    D.reply (.get .root "DomainConfiguration") = .ok (.reference configuration) ∧
      D.Lists configuration "AppDeployments" D.ShowsDeployment v.deployments
  runtimes : D.Lists .root "ServerRuntimes" D.ShowsRuntime v.runtimes

/-! ### Domains whose replies are of the right kinds -/

/-- An attribute is a text. -/
def IsText : Prop := ∃ text, D.Tells object field text

/-- An attribute is a list of objects that are all of one sort. -/
def IsListOf (sort : ObjectName → Prop) : Prop :=
  ∃ reading objects, D.reply (.get object field) = .ok reading ∧
    reading.toReferences = .ok objects ∧ ∀ item ∈ objects, sort item

structure IsTarget : Prop where
  name : D.IsText object "Name"
  type : D.IsText object "Type"
  members : D.Tells object "Type" "Cluster" →
    D.IsListOf object "Servers" fun server => D.IsText server "Name"

structure IsDeployment : Prop where
  name : D.IsText object "Name"
  targets : D.IsListOf object "Targets" D.IsTarget

structure IsServlet : Prop where
  name : D.IsText object "ServletName"
  contextPath : D.IsText object "ContextPath"

structure IsComponent : Prop where
  type : D.IsText object "Type"
  servlets : D.Tells object "Type" "WebAppComponentRuntime" →
    D.IsListOf object "Servlets" D.IsServlet

structure IsApplication : Prop where
  name : D.IsText object "Name"
  components : D.IsListOf object "ComponentRuntimes" D.IsComponent

structure IsRuntime : Prop where
  name : D.IsText object "Name"
  state : D.IsText object "State"
  url : D.Tells object "State" "RUNNING" → ∃ url, D.GivesUrl object url
  applications : D.Tells object "State" "RUNNING" →
    D.IsListOf object "ApplicationRuntimes" D.IsApplication

/-- All that a walk may read is of the kind that it wants. -/
structure IsWellTyped : Prop where
  deployments : ∃ configuration,
    D.reply (.get .root "DomainConfiguration") = .ok (.reference configuration) ∧
      D.IsListOf configuration "AppDeployments" D.IsDeployment
  runtimes : D.IsListOf .root "ServerRuntimes" D.IsRuntime

end Shows

variable {α : Type} {D : Static Outside} {object : ObjectName} {field : String}

/-! ### Every domain of the right kinds shows an inventory -/

theorem IsListOf.exists_lists {sort : ObjectName → Prop} {shows : ObjectName → α → Prop}
    (h : D.IsListOf object field sort) (hsort : ∀ item, sort item → ∃ a, shows item a) :
    ∃ items, D.Lists object field shows items := by
  obtain ⟨reading, objects, hreply, hobjects, hall⟩ := h
  suffices hitems : ∃ items, List.Forall₂ shows objects items by
    obtain ⟨items, hitems⟩ := hitems
    exact ⟨items, reading, objects, hreply, hobjects, hitems⟩
  clear hobjects
  induction objects with
  | nil => exact ⟨[], .nil⟩
  | cons item rest ih =>
      obtain ⟨hitem, hrest⟩ := List.forall_mem_cons.1 hall
      obtain ⟨a, ha⟩ := hsort item hitem
      obtain ⟨items, hitems⟩ := ih hrest
      exact ⟨a :: items, .cons ha hitems⟩

theorem IsTarget.exists_shows (h : D.IsTarget object) : ∃ t, D.ShowsTarget object t := by
  obtain ⟨⟨name, hname⟩, ⟨type, htype⟩, hmembers⟩ := h
  by_cases hcluster : type = "Cluster"
  · subst hcluster
    obtain ⟨members, hlists⟩ := (hmembers htype).exists_lists fun _ hserver => hserver
    exact ⟨⟨name, "Cluster", members⟩, hname, htype, fun _ => hlists⟩
  · exact ⟨⟨name, type, []⟩, hname, htype, fun h => (hcluster h).elim⟩

theorem IsDeployment.exists_shows (h : D.IsDeployment object) :
    ∃ d, D.ShowsDeployment object d := by
  obtain ⟨⟨name, hname⟩, htargets⟩ := h
  obtain ⟨targets, hlists⟩ := htargets.exists_lists fun _ => IsTarget.exists_shows
  exact ⟨⟨name, targets⟩, hname, hlists⟩

theorem IsServlet.exists_shows (h : D.IsServlet object) : ∃ s, D.ShowsServlet object s := by
  obtain ⟨⟨name, hname⟩, ⟨contextPath, hcontextPath⟩⟩ := h
  exact ⟨⟨name, contextPath⟩, hname, hcontextPath⟩

theorem IsComponent.exists_shows (h : D.IsComponent object) : ∃ c, D.ShowsComponent object c := by
  obtain ⟨⟨type, htype⟩, hservlets⟩ := h
  by_cases hweb : type = "WebAppComponentRuntime"
  · subst hweb
    obtain ⟨servlets, hlists⟩ := (hservlets htype).exists_lists fun _ => IsServlet.exists_shows
    exact ⟨⟨_, servlets⟩, htype, fun _ => hlists⟩
  · exact ⟨⟨type, []⟩, htype, fun h => (hweb (by simpa [Inventory.Component.isWeb] using h)).elim⟩

theorem IsApplication.exists_shows (h : D.IsApplication object) :
    ∃ a, D.ShowsApplication object a := by
  obtain ⟨⟨name, hname⟩, hcomponents⟩ := h
  obtain ⟨components, hlists⟩ := hcomponents.exists_lists fun _ => IsComponent.exists_shows
  exact ⟨⟨name, components⟩, hname, hlists⟩

theorem IsRuntime.exists_shows (h : D.IsRuntime object) : ∃ r, D.ShowsRuntime object r := by
  obtain ⟨⟨name, hname⟩, ⟨state, hstate⟩, hurl, happlications⟩ := h
  by_cases hrunning : state = "RUNNING"
  · subst hrunning
    obtain ⟨url, hgives⟩ := hurl hstate
    obtain ⟨applications, hlists⟩ :=
      (happlications hstate).exists_lists fun _ => IsApplication.exists_shows
    exact ⟨⟨name, _, url, applications⟩, hname, hstate, fun _ => hgives, fun _ => hlists⟩
  · have hnot : ∀ {p : Prop}, (state == "RUNNING") = true → p := fun h =>
      (hrunning (by simpa using h)).elim
    exact ⟨⟨name, state, "", []⟩, hname, hstate, hnot, hnot⟩

theorem IsWellTyped.exists_shows (h : D.IsWellTyped) : ∃ v, D.Shows v := by
  obtain ⟨⟨configuration, hconfiguration, hdeployments⟩, hruntimes⟩ := h
  obtain ⟨deployments, hlists⟩ := hdeployments.exists_lists fun _ => IsDeployment.exists_shows
  obtain ⟨runtimes, hruns⟩ := hruntimes.exists_lists fun _ => IsRuntime.exists_shows
  exact ⟨⟨deployments, runtimes⟩, ⟨configuration, hconfiguration, hlists⟩, hruns⟩

/-! ### Reading what is shown -/

theorem Tells.unique {text text' : String} (h : D.Tells object field text)
    (h' : D.Tells object field text') : text = text' := by
  cases h.symm.trans h'
  rfl

theorem value_bind_of_ok {β : Type} {x : Activity α} {a : α} (h : D.value x = .ok a)
    (f : α → Activity β) : D.value (x >>= f) = D.value (f a) := by
  rw [value_bind, h]
  rfl

theorem Tells.value_getText {text : String} (h : D.Tells object field text) :
    D.value (getText object field) = .ok text := by
  rw [Static.value_getText, h]
  rfl

theorem GivesUrl.value_askUrl {url : String} (h : D.GivesUrl object url) :
    D.value (askUrl object) = .ok url := by
  rw [askUrl, value_bind_of_ok ((value_call _).trans h)]
  rfl

theorem Lists.value_getReferences {shows : ObjectName → α → Prop} {items : List α}
    (h : D.Lists object field shows items) :
    ∃ objects, D.value (getReferences object field) = .ok objects ∧
      List.Forall₂ shows objects items := by
  obtain ⟨reading, objects, hreply, hobjects, hshows⟩ := h
  refine ⟨objects, ?_, hshows⟩
  rw [getReferences, Activity.get, value_bind_of_ok ((value_call _).trans hreply)]
  exact hobjects

/-- A search among related things finds related things. -/
theorem rel_find? {β : Type} {R : α → β → Prop} {p : α → Bool} {q : β → Bool} {as : List α}
    {bs : List β} (h : List.Forall₂ R as bs) (hpq : ∀ a b, R a b → p a = q b) :
    Option.Rel R (as.find? p) (bs.find? q) := by
  induction h with
  | nil => exact .none
  | @cons a b as bs hab _ ih =>
      rw [List.find?_cons, List.find?_cons, hpq a b hab]
      cases q b with
      | true => exact .some hab
      | false => exact ih

theorem eq_none_or_eq_some_of_rel {β : Type} {R : α → β → Prop} {a : Option α} {b : Option β}
    (h : Option.Rel R a b) :
    a = none ∧ b = none ∨ ∃ found shown, a = some found ∧ b = some shown ∧ R found shown := by
  cases h with
  | none => exact .inl ⟨rfl, rfl⟩
  | some hab => exact .inr ⟨_, _, rfl, rfl, hab⟩

/-- The search for a name among objects finds the one that shows the first item of that name. -/
theorem value_firstNamed {shows : ObjectName → α → Prop} {nameOf : α → String}
    {objects : List ObjectName} {items : List α} (h : List.Forall₂ shows objects items)
    (hname : ∀ object a, shows object a → D.Tells object "Name" (nameOf a)) (name : String) :
    ∃ found, D.value (firstNamed name objects) = .ok found ∧
      Option.Rel shows found (items.find? (nameOf · == name)) := by
  induction h with
  | nil => exact ⟨none, rfl, .none⟩
  | @cons object a objects items ha _ ih =>
      rw [List.find?_cons, firstNamed, value_bind_of_ok (hname object a ha).value_getText]
      cases hsame : nameOf a == name with
      | true => exact ⟨some object, rfl, .some ha⟩
      | false => exact ih

/-- The servers of a cluster are read as its members. -/
theorem value_namesOf {objects : List ObjectName} {names : List String}
    (h : List.Forall₂ (fun object name => D.Tells object "Name" name) objects names) :
    D.value (namesOf objects) = .ok names := by
  induction h with
  | nil => rfl
  | cons hname _ ih =>
      rw [namesOf, value_bind_of_ok hname.value_getText, value_bind_of_ok ih, value_pure]

theorem value_readServlets {objects : List ObjectName} {servlets : List Servlet}
    (h : List.Forall₂ D.ShowsServlet objects servlets) :
    D.value (readServlets objects) = .ok servlets := by
  induction h with
  | nil => rfl
  | cons hservlet _ ih =>
      rw [readServlets, value_bind_of_ok hservlet.name.value_getText,
        value_bind_of_ok hservlet.contextPath.value_getText, value_bind_of_ok ih, value_pure]

theorem ShowsComponent.value_componentServlets {c : Inventory.Component}
    (h : D.ShowsComponent object c) :
    D.value (componentServlets object) = .ok (if c.isWeb then c.servlets else []) := by
  rw [componentServlets, value_bind_of_ok h.type.value_getText]
  -- the walk compares the type with the word that `isWeb` compares it with
  change D.value (if c.isWeb = true then _ else _) = _
  split
  next hweb =>
    obtain ⟨objects, hobjects, hservlets⟩ := (h.servlets hweb).value_getReferences
    rw [value_bind_of_ok hobjects]
    exact value_readServlets hservlets
  next => rfl

theorem value_servletsOf {objects : List ObjectName} {components : List Inventory.Component}
    (h : List.Forall₂ D.ShowsComponent objects components) :
    D.value (servletsOf objects) =
      .ok ((components.filter (·.isWeb)).flatMap (·.servlets)) := by
  induction h with
  | nil => rfl
  | @cons object c _ _ hc _ ih =>
      rw [servletsOf, value_bind_of_ok hc.value_componentServlets, value_bind_of_ok ih, value_pure,
        List.filter_cons]
      cases c.isWeb <;> rfl

/-- The servlets that an application is served with on a running server. -/
theorem ShowsRuntime.value_applicationServlets {r : Inventory.Runtime}
    (h : D.ShowsRuntime object r) (hrunning : r.isRunning = true) (name : String) :
    D.value (applicationServlets object name) =
      match r.applications.find? (·.name == name) with
      | none => .error (.applicationRuntimeNotFound name)
      | some a => .ok a.servlets := by
  obtain ⟨objects, hobjects, hshows⟩ := (h.applications hrunning).value_getReferences
  obtain ⟨found, hfound, hrel⟩ := value_firstNamed hshows (fun _ _ ha => ha.name) name
  rw [applicationServlets, value_bind_of_ok hobjects, value_bind_of_ok hfound]
  generalize r.applications.find? (·.name == name) = shown at hrel ⊢
  cases hrel with
  | none => rfl
  | @some application a ha =>
      obtain ⟨components, hcomponents, hall⟩ := ha.components.value_getReferences
      exact (value_bind_of_ok hcomponents _).trans (value_servletsOf hall)

/-! ### The server that a target stands for -/

/-- What is read of a server. -/
def serverOf (r : Inventory.Runtime) : ServerInstance :=
  ⟨r.name, r.state, if r.isRunning then some r.url else none⟩

theorem ShowsRuntime.value_readServer {r : Inventory.Runtime} (h : D.ShowsRuntime object r) :
    D.value (readServer object) = .ok (serverOf r) := by
  rw [readServer, value_bind_of_ok h.name.value_getText, value_bind_of_ok h.state.value_getText,
    serverOf]
  change D.value (if r.isRunning = true then _ else _) = _
  split
  next hrunning =>
    rw [value_bind_of_ok (h.url hrunning).value_askUrl]
    rfl
  next => rfl

theorem value_readServers {objects : List ObjectName} {runtimes : List Inventory.Runtime}
    (h : List.Forall₂ D.ShowsRuntime objects runtimes) :
    ∃ servers, D.value (readServers objects) = .ok servers ∧
      List.Forall₂ (fun p r => D.ShowsRuntime p.1 r ∧ p.2 = serverOf r) servers runtimes := by
  induction h with
  | nil => exact ⟨[], rfl, .nil⟩
  | @cons object r _ _ hr _ ih =>
      obtain ⟨servers, hservers, hshows⟩ := ih
      refine ⟨(object, serverOf r) :: servers, ?_, .cons ⟨hr, rfl⟩ hshows⟩
      rw [readServers, value_bind_of_ok hr.value_readServer, value_bind_of_ok hservers, value_pure]

/-- The server that is chosen is the first running one among the members. -/
theorem Shows.value_runningMember {v : Inventory} (h : D.Shows v) (members : List String) :
    ∃ found, D.value (runningMember members) = .ok found ∧
      Option.Rel (fun p r => D.ShowsRuntime p.1 r ∧ p.2 = serverOf r) found
        (v.runtimes.find? fun r => r.isRunning && members.contains r.name) := by
  by_cases hmembers : members = []
  · subst hmembers
    have hnone : (v.runtimes.find? fun r => r.isRunning && [].contains r.name) = none := by simp
    rw [hnone]
    exact ⟨none, rfl, .none⟩
  · obtain ⟨objects, hobjects, hshows⟩ := h.runtimes.value_getReferences
    obtain ⟨servers, hservers, hrel⟩ := value_readServers hshows
    refine ⟨servers.find? (isRunningMember members), ?_, rel_find? hrel ?_⟩
    · rw [Static.value_runningMember hmembers, hobjects]
      exact congrArg ((·.find? (isRunningMember members)) <$> ·) hservers
    · rintro p r ⟨-, hp⟩
      rw [isRunningMember, hp]
      rfl

/-- Host and port of the address that a running server gave. -/
theorem addressOf_serverOf {r : Inventory.Runtime} (h : r.isRunning = true) :
    addressOf (serverOf r) = r.address.mapError .protocol := by
  unfold addressOf serverOf Inventory.Runtime.address
  rw [if_pos h]
  dsimp only
  cases Url.parse r.url with
  | error fault => rfl
  | ok url =>
      dsimp only
      cases url.host? <;> cases url.port? <;> rfl

/-- The members that are read for a target are the servers that it stands for. -/
theorem ShowsTarget.value_membersOf {t : Inventory.Target} (h : D.ShowsTarget object t) :
    ∃ members, D.value (membersOf object t.name) = .ok members ∧
      ∀ server, members.contains server = t.standsFor server := by
  rw [membersOf, value_bind_of_ok h.type.value_getText]
  by_cases hserver : t.type = "Server"
  · refine ⟨[t.name], ?_, fun server => ?_⟩
    · rw [hserver]
      rfl
    · simp [Inventory.Target.standsFor, hserver, beq_eq_decide]
  by_cases hcluster : t.type = "Cluster"
  · obtain ⟨objects, hobjects, hnames⟩ := (h.members hcluster).value_getReferences
    refine ⟨t.members, ?_, fun server => ?_⟩
    · rw [hcluster]
      exact (value_bind_of_ok hobjects _).trans (value_namesOf hnames)
    · simp [Inventory.Target.standsFor, hcluster]
  · have hother : TargetKind.ofText t.type = .other := by
      unfold TargetKind.ofText
      split <;> simp_all
    refine ⟨[], ?_, fun server => ?_⟩
    · rw [hother]
      rfl
    · unfold Inventory.Target.standsFor
      split <;> simp_all

/-! ### The whole walk -/

theorem value_domainConfiguration {configuration : ObjectName}
    (h : D.reply (.get .root "DomainConfiguration") = .ok (.reference configuration)) :
    D.value domainConfiguration = .ok configuration := by
  rw [domainConfiguration, getReference, Activity.get, value_bind_of_ok ((value_call _).trans h)]
  rfl

theorem Shows.value_findDeployment {v : Inventory} (h : D.Shows v) (name : String) :
    ∃ found, D.value (findDeployment name) = .ok found ∧
      Option.Rel D.ShowsDeployment found (v.deployments.find? (·.name == name)) := by
  obtain ⟨configuration, hreply, hlists⟩ := h.deployments
  obtain ⟨objects, hobjects, hshows⟩ := hlists.value_getReferences
  obtain ⟨found, hfound, hrel⟩ := value_firstNamed hshows (fun _ _ hd => hd.name) name
  refine ⟨found, ?_, hrel⟩
  rw [findDeployment, value_bind_of_ok (value_domainConfiguration hreply),
    value_bind_of_ok hobjects, hfound]

/-- What is read through the server that was chosen. -/
theorem ShowsRuntime.value_endpointThrough {r : Inventory.Runtime} (h : D.ShowsRuntime object r)
    (hrunning : r.isRunning = true) (name target : String) :
    D.value (endpointThrough name target (some (object, serverOf r))) = r.endpoint name := by
  unfold endpointThrough Inventory.Runtime.endpoint
  rw [value_bind_of_ok (value_note _ _), value_bind, value_ofResult, addressOf_serverOf hrunning]
  cases r.address with
  | error fault => rfl
  | ok address =>
      change D.value (applicationServlets object name >>= _) = _
      rw [value_bind, h.value_applicationServlets hrunning]
      cases r.applications.find? (·.name == name) <;> rfl

/-- What is read through the members of a target. -/
theorem Shows.value_throughMembers {v : Inventory} (h : D.Shows v) {t : Inventory.Target}
    {members : List String} (hstands : ∀ server, members.contains server = t.standsFor server)
    (name target : String) :
    D.value (runningMember members >>= endpointThrough name target) =
      match v.runtimes.find? fun r => r.isRunning && t.standsFor r.name with
      | none => .error (.targetNotRunning target)
      | some r => r.endpoint name := by
  obtain ⟨found, hfound, hrel⟩ := h.value_runningMember members
  simp only [hstands] at hrel
  rw [value_bind_of_ok hfound]
  obtain ⟨rfl, hnone⟩ | ⟨⟨runtime, server⟩, r, rfl, hsome, hr, hserver⟩ :=
    eq_none_or_eq_some_of_rel hrel
  · rw [hnone]
    rfl
  · obtain rfl : server = serverOf r := hserver
    have hchosen := List.find?_some hsome
    have hrunning : r.isRunning = true := (Bool.and_eq_true_iff.1 hchosen).1
    rw [hsome]
    exact hr.value_endpointThrough hrunning name target

theorem Shows.value_buildEndpoint {v : Inventory} (h : D.Shows v) (name target : String) :
    D.value (buildEndpoint name target) = v.endpoint name target := by
  unfold Inventory.endpoint
  obtain ⟨found, hfound, hrel⟩ := h.value_findDeployment name
  rw [buildEndpoint_eq, targetMembers, value_bind, value_bind_of_ok hfound]
  obtain ⟨rfl, hnone⟩ | ⟨deployment, d, rfl, hsome, hd⟩ := eq_none_or_eq_some_of_rel hrel
  · rw [hnone]
    rfl
  rw [hsome]
  obtain ⟨objects, hobjects, hshows⟩ := hd.targets.value_getReferences
  obtain ⟨found, hfound, hrel⟩ := value_firstNamed hshows (fun _ _ ht => ht.name) target
  dsimp only
  rw [findTarget, value_bind, value_bind_of_ok hobjects, value_bind_of_ok hfound]
  obtain ⟨rfl, hnone⟩ | ⟨object, t, rfl, hsome, ht⟩ := eq_none_or_eq_some_of_rel hrel
  · rw [hnone]
    rfl
  -- the target that is found has the name that was looked for
  obtain rfl : t.name = target := by simpa using List.find?_some hsome
  rw [hsome]
  dsimp only
  obtain ⟨members, hmembers, hstands⟩ := ht.value_membersOf
  change (D.value (membersOf object t.name) >>= _) = _
  rw [hmembers]
  exact h.value_throughMembers hstands name t.name

/-- Every domain of the right kinds shows what it serves, and a deployment is found to be served
where the inventory that the domain shows says so. -/
theorem value_buildEndpoint_eq_endpoint {D : Static Outside} (h : D.IsWellTyped) :
    (∃ v, D.Shows v) ∧
      ∀ v, D.Shows v → ∀ name target,
        D.value (buildEndpoint name target) = v.endpoint name target :=
  ⟨h.exists_shows, fun _ hv => hv.value_buildEndpoint⟩

/-- A domain with a deployment on a cluster, whose first member is shut down. -/
def clustered : Static Outside := fun q => (Rehearsal.outside q { domain := {
  attributes := [
    ("#DomainConfiguration", [.ok (.reference ⟨"domainConfig"⟩)]),
    ("domainConfig#AppDeployments", [.ok (.reference ⟨"foo"⟩)]),
    ("foo#Name", [.ok (.text "foo")]),
    ("foo#Targets", [.ok (.reference ⟨"target"⟩)]),
    ("target#Name", [.ok (.text "Cluster1")]),
    ("target#Type", [.ok (.text "Cluster")]),
    ("target#Servers", [.ok (.references [⟨"member1"⟩, ⟨"member2"⟩])]),
    ("member1#Name", [.ok (.text "Server1")]),
    ("member2#Name", [.ok (.text "Server2")]),
    ("#ServerRuntimes", [.ok (.references [⟨"server1"⟩, ⟨"server2"⟩])]),
    ("server1#Name", [.ok (.text "Server1")]),
    ("server1#State", [.ok (.text "SHUTDOWN")]),
    ("server2#Name", [.ok (.text "Server2")]),
    ("server2#State", [.ok (.text "RUNNING")]),
    ("server2#ApplicationRuntimes", [.ok (.references [⟨"application"⟩])]),
    ("application#Name", [.ok (.text "foo")]),
    ("application#ComponentRuntimes", [.ok (.references [⟨"beans"⟩, ⟨"pages"⟩])]),
    ("beans#Type", [.ok (.text "EJBComponentRuntime")]),
    ("pages#Type", [.ok (.text "WebAppComponentRuntime")]),
    ("pages#Servlets", [.ok (.reference ⟨"servlet"⟩)]),
    ("servlet#ServletName", [.ok (.text "Main")]),
    ("servlet#ContextPath", [.ok (.text "/")])]
  operations := [("server2#getURL", [.ok (.text "http://10.0.0.6:7003")])] } }).1

theorem isWellTyped_clustered : clustered.IsWellTyped := by
  have members : clustered.IsListOf ⟨"target"⟩ "Servers" fun server =>
      clustered.IsText server "Name" :=
    ⟨_, [⟨"member1"⟩, ⟨"member2"⟩], rfl, rfl, List.forall_mem_cons.2
      ⟨⟨_, rfl⟩, List.forall_mem_singleton.2 ⟨_, rfl⟩⟩⟩
  have deployment : clustered.IsDeployment ⟨"foo"⟩ :=
    ⟨⟨_, rfl⟩, _, [⟨"target"⟩], rfl, rfl, List.forall_mem_singleton.2
      ⟨⟨_, rfl⟩, ⟨_, rfl⟩, fun _ => members⟩⟩
  have beans : clustered.IsComponent ⟨"beans"⟩ :=
    ⟨⟨_, rfl⟩, fun h => absurd (h.unique rfl) (by decide)⟩
  have pages : clustered.IsComponent ⟨"pages"⟩ :=
    ⟨⟨_, rfl⟩, fun _ => ⟨_, [⟨"servlet"⟩], rfl, rfl, List.forall_mem_singleton.2
      ⟨⟨_, rfl⟩, _, rfl⟩⟩⟩
  have application : clustered.IsApplication ⟨"application"⟩ :=
    ⟨⟨_, rfl⟩, _, [⟨"beans"⟩, ⟨"pages"⟩], rfl, rfl, List.forall_mem_cons.2
      ⟨beans, List.forall_mem_singleton.2 pages⟩⟩
  have server1 : clustered.IsRuntime ⟨"server1"⟩ :=
    ⟨⟨_, rfl⟩, ⟨_, rfl⟩, fun h => absurd (h.unique rfl) (by decide),
      fun h => absurd (h.unique rfl) (by decide)⟩
  have server2 : clustered.IsRuntime ⟨"server2"⟩ :=
    ⟨⟨_, rfl⟩, ⟨_, rfl⟩, fun _ => ⟨_, rfl⟩, fun _ => ⟨_, [⟨"application"⟩], rfl, rfl,
      List.forall_mem_singleton.2 application⟩⟩
  exact ⟨⟨⟨"domainConfig"⟩, rfl, _, [⟨"foo"⟩], rfl, rfl, List.forall_mem_singleton.2 deployment⟩,
    _, [⟨"server1"⟩, ⟨"server2"⟩], rfl, rfl, List.forall_mem_cons.2
      ⟨server1, List.forall_mem_singleton.2 server2⟩⟩

/-- Its second member serves the deployment. -/
theorem value_buildEndpoint_eq_endpoint_clustered :
    clustered.IsWellTyped ∧ ∃ v, clustered.Shows v ∧
      v.endpoint "foo" "Cluster1" = .ok ⟨"10.0.0.6", 7003, [⟨"Main", "/"⟩]⟩ := by
  obtain ⟨⟨v, hv⟩, h⟩ := value_buildEndpoint_eq_endpoint isWellTyped_clustered
  refine ⟨isWellTyped_clustered, v, hv, ?_⟩
  have served : (clustered.value (buildEndpoint "foo" "Cluster1")).toOption =
      some ⟨"10.0.0.6", 7003, [⟨"Main", "/"⟩]⟩ := by decide +kernel
  rw [← h v hv]
  exact eq_ok_of_toOption served

end Program.Static

end DomainDeploy
