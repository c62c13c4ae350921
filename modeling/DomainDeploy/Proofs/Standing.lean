import DomainDeploy.Proofs.Address

/-!
# Where objects stand

`Resource.Holds` tells what stands directly below an object, and `DomainGraph.Stands` what stands at
the end of a path from the root of a tree. What an object lists stands below it, what it refers to
stands in the configuration, and the type of a configured server or cluster can be told from the
collection that it stands in.
-/

namespace DomainDeploy

/-- The kinds of objects. -/
inductive Resource.Kind where
  | configuration
  | deployment
  | server
  | cluster
  | domain
  | runtime
  | application
  | component
  | servlet
deriving DecidableEq

/-- The kind of what is listed. -/
def Branch.kind : Branch → Resource.Kind
  | deployments => .deployment
  | clusters => .cluster
  | runtimes => .runtime
  | applications => .application
  | components => .component
  | servlets => .servlet

namespace Resource

def kind : Resource → Kind
  | configuration .. => .configuration
  | deployment .. => .deployment
  | server .. => .server
  | cluster .. => .cluster
  | domain .. => .domain
  | runtime .. => .runtime
  | application .. => .application
  | component .. => .component
  | servlet .. => .servlet

/-- An object holds another one in a collection, under a name. -/
inductive Holds : Resource → String → String → Resource → Prop
  | deployment {d : Collection (List Target)} {s : Collection Unit} {c : Collection (List String)}
      {name : String} {targets : List Target} (h : d.find? name = some targets) :
      Holds (.configuration d s c) "appDeployments" name (.deployment name targets)
  | server {d : Collection (List Target)} {s : Collection Unit} {c : Collection (List String)}
      {name : String} {u : Unit} (h : s.find? name = some u) :
      Holds (.configuration d s c) "servers" name (.server name)
  | cluster {d : Collection (List Target)} {s : Collection Unit} {c : Collection (List String)}
      {name : String} {members : List String} (h : c.find? name = some members) :
      Holds (.configuration d s c) "clusters" name (.cluster name members)
  | runtime {runtimes : Collection ServerRuntime} {name : String} {r : ServerRuntime}
      (h : runtimes.find? name = some r) :
      Holds (.domain runtimes) "serverRuntimes" name (.runtime name r)
  | application {server name : String} {r : ServerRuntime} {a : ApplicationRuntime}
      (h : r.applications.find? name = some a) :
      Holds (.runtime server r) "applicationRuntimes" name (.application name a)
  | component {application name : String} {a : ApplicationRuntime} {c : ComponentRuntime}
      (h : a.components.find? name = some c) :
      Holds (.application application a) "componentRuntimes" name (.component name c)
  | servlet {component name : String} {c : ComponentRuntime} {s : ServletRuntime}
      (h : c.servlets.find? name = some s) :
      Holds (.component component c) "servlets" name (.servlet name s)

variable {r r' : Resource} {collection name : String}

theorem Holds.child?_eq (h : r.Holds collection name r') : r.child? collection name = some r' := by
  cases h with
  | deployment h => simp [child?, h]
  | server h => simp [child?, h]
  | cluster h => simp [child?, h]
  | runtime h => simp [child?, h]
  | application h => simp [child?, h]
  | component h => simp [child?, h]
  | servlet h => simp [child?, h]

theorem Holds.isProperName_collection (h : r.Holds collection name r') :
    IsProperName collection := by
  cases h <;> decide

theorem Holds.isProperName (h : r.Holds collection name r') : IsProperName name := by
  cases h with
  | deployment h => exact Collection.isProperName_of_find?_eq_some h
  | server h => exact Collection.isProperName_of_find?_eq_some h
  | cluster h => exact Collection.isProperName_of_find?_eq_some h
  | runtime h => exact Collection.isProperName_of_find?_eq_some h
  | application h => exact Collection.isProperName_of_find?_eq_some h
  | component h => exact Collection.isProperName_of_find?_eq_some h
  | servlet h => exact Collection.isProperName_of_find?_eq_some h

/-- The name of the collection in the singular is the type. -/
theorem Holds.text_type (h : r.Holds collection name r') (typed : r'.isTypedByPlace = true) :
    Rest.singular collection ≠ "" ∧
      r'.text .type = some (Text.upperFirst (Rest.singular collection)) := by
  cases h with
  | server h =>
      have htype : Text.upperFirst (Rest.singular "servers") = "Server" := by decide
      exact ⟨by decide, by rw [htype, text]⟩
  | cluster h =>
      have htype : Text.upperFirst (Rest.singular "clusters") = "Cluster" := by decide
      exact ⟨by decide, by rw [htype, text]⟩
  | deployment h => cases typed
  | runtime h => cases typed
  | application h => cases typed
  | component h => cases typed
  | servlet h => cases typed

/-- What is listed is held. -/
theorem exists_holds {b : Branch} {names : List String} (hb : r.listed b = some names)
    (hname : name ∈ names) : ∃ r', r.Holds b.field name r' ∧ r'.kind = b.kind := by
  cases r with
  | configuration d s c =>
      cases b with
      | deployments =>
          cases hb
          obtain ⟨targets, h⟩ := Collection.exists_find?_eq_some hname
          exact ⟨_, .deployment h, rfl⟩
      | clusters =>
          cases hb
          obtain ⟨members, h⟩ := Collection.exists_find?_eq_some hname
          exact ⟨_, .cluster h, rfl⟩
      | _ => cases hb
  | domain runtimes =>
      cases b with
      | runtimes =>
          cases hb
          obtain ⟨runtime, h⟩ := Collection.exists_find?_eq_some hname
          exact ⟨_, .runtime h, rfl⟩
      | _ => cases hb
  | runtime server runtime =>
      cases b with
      | applications =>
          cases hb
          obtain ⟨a, h⟩ := Collection.exists_find?_eq_some hname
          exact ⟨_, .application h, rfl⟩
      | _ => cases hb
  | application application a =>
      cases b with
      | components =>
          cases hb
          obtain ⟨c, h⟩ := Collection.exists_find?_eq_some hname
          exact ⟨_, .component h, rfl⟩
      | _ => cases hb
  | component component c =>
      cases b with
      | servlets =>
          cases hb
          obtain ⟨s, h⟩ := Collection.exists_find?_eq_some hname
          exact ⟨_, .servlet h, rfl⟩
      | _ => cases hb
  | _ => cases b <;> cases hb

end Resource

namespace DomainGraph

/-- What stands at the end of a path. -/
inductive Stands (g : DomainGraph) : List String → Resource → Prop
  | configuration : g.Stands ["domainConfig"] g.configuration
  | domain : g.Stands ["domainRuntime"] g.domain
  | held {p : List String} {r r' : Resource} {collection name : String} (h : g.Stands p r)
      (holds : r.Holds collection name r') : g.Stands (p ++ [collection, name]) r'

namespace Stands

variable {g : DomainGraph} {p : List String} {r : Resource}

theorem resource?_append (h : g.Stands p r) (rest : List String) :
    g.resource? (p ++ rest) = r.below? rest := by
  induction h generalizing rest with
  | configuration => rfl
  | domain => rfl
  | held h holds ih =>
      rw [List.append_assoc, ih, List.cons_append, List.singleton_append, Resource.below?,
        holds.child?_eq, Option.bind_some]

theorem resource?_eq (h : g.Stands p r) : g.resource? p = some r := by
  have hend := h.resource?_append []
  rwa [List.append_nil, Resource.below?] at hend

/-- No object stands where a collection starts. -/
theorem resource?_collection (h : g.Stands p r) (collection : String) :
    g.resource? (p ++ [collection]) = none := by
  rw [h.resource?_append, Resource.below?]

theorem isProperPath (h : g.Stands p r) : IsProperPath p := by
  induction h with
  | configuration => exact ⟨by decide, by decide⟩
  | domain => exact ⟨by decide, by decide⟩
  | held h holds ih =>
      refine ih.append fun name hname => ?_
      rcases List.mem_pair.1 hname with rfl | rfl
      · exact holds.isProperName_collection
      · exact holds.isProperName

theorem typeByCollection_eq (h : g.Stands p r) (typed : r.isTypedByPlace = true) :
    Rest.typeByCollection (.ofPath p) = r.text .type := by
  have hpath := h.isProperPath
  -- the roots of the trees are no targets, and anything else stands in a collection
  cases h with
  | configuration => cases typed
  | domain => cases typed
  | held h holds =>
      rcases holds.text_type typed with ⟨singular, htype⟩
      rw [Rest.typeByCollection, ObjectName.segments_ofPath hpath, htype]
      simp [singular]

/-! ### References -/

/-- What an object refers to is configured. -/
def IsConfigured (g : DomainGraph) : Resource → Prop
  | .configuration d s c => d = g.deployments ∧ s = g.servers ∧ c = g.clusters
  | .deployment _ targets => ∀ t ∈ targets, match t with
    | .server name => name ∈ g.servers.names
    | .cluster name => name ∈ g.clusters.names
  | .cluster _ members => ∀ name ∈ members, name ∈ g.servers.names
  | _ => True

theorem isConfigured (h : g.Stands p r) : IsConfigured g r := by
  induction h with
  | configuration => exact ⟨rfl, rfl, rfl⟩
  | domain => trivial
  | held h holds ih =>
      cases holds with
      | deployment h =>
          rcases ih with ⟨rfl, -, -⟩
          exact g.targets_configured _ (Collection.mem_of_find?_eq_some h)
      | cluster h =>
          rcases ih with ⟨-, -, rfl⟩
          exact g.members_configured _ (Collection.mem_of_find?_eq_some h)
      | _ => trivial

end Stands

variable {g : DomainGraph} {p q : List String} {r : Resource} {name : String}

theorem exists_stands_target {t : Target} (h : match t with
    | .server name => name ∈ g.servers.names
    | .cluster name => name ∈ g.clusters.names) :
    ∃ r, g.Stands t.path r ∧ r.isTypedByPlace = true := by
  cases t with
  | server name =>
      rcases Collection.exists_find?_eq_some h with ⟨u, hfind⟩
      exact ⟨_, .held .configuration (.server hfind), rfl⟩
  | cluster name =>
      rcases Collection.exists_find?_eq_some h with ⟨members, hfind⟩
      exact ⟨_, .held .configuration (.cluster hfind), rfl⟩

/-- What an object refers to stands in the configuration. -/
theorem Stands.exists_target (h : g.Stands p r) {l : Link} {targets : List Target}
    (hl : r.links l = some targets) {t : Target} (ht : t ∈ targets) :
    ∃ r', g.Stands t.path r' ∧ r'.isTypedByPlace = true := by
  have configured := h.isConfigured
  cases r with
  | deployment name targets =>
      cases l with
      | targets =>
          cases hl
          exact exists_stands_target (configured t ht)
      | servers => cases hl
  | cluster name members =>
      cases l with
      | targets => cases hl
      | servers =>
          cases hl
          rcases List.mem_map.1 ht with ⟨member, hmember, rfl⟩
          exact exists_stands_target (t := .server member) (configured member hmember)
  | _ => cases l <;> cases hl

/-- What an object lists stands below it. -/
theorem Stands.exists_listed (h : g.Stands p r) {b : Branch} {names : List String}
    (hb : r.listed b = some names) (hname : name ∈ names) :
    ∃ r', g.Stands (p ++ [b.field, name]) r' ∧ r'.kind = b.kind := by
  rcases Resource.exists_holds hb hname with ⟨r', holds, hkind⟩
  exact ⟨r', .held h holds, hkind⟩

/-! ### Reading the objects -/

section

variable {s : Scalar} {l : Link} {b : Branch} {text : String} {targets : List Target}
  {listed : List String}

theorem Stands.get_eq_attribute? (h : g.Stands p r) (key : String) :
    g.get (.ofPath p) key = g.attribute? (.ofPath p) key := by
  simp [get, ObjectName.isRoot_ofPath h.isProperPath]

theorem Stands.get_eq (h : g.Stands p r) (key : String) : g.get (.ofPath p) key =
    (r.textReading? key <|> r.linkReading? key <|> r.branchReading? (.ofPath p) key) := by
  rw [h.get_eq_attribute?, attribute?, ObjectName.segments_ofPath h.isProperPath, h.resource?_eq]
  rfl

theorem Stands.get_text (h : g.Stands p r) (hs : r.text s = some text) :
    g.get (.ofPath p) s.key = some (.text text) := by
  have hfind : Scalar.all.find? (·.key == s.key) = some s := by cases s <;> decide
  simp [h.get_eq, Resource.textReading?, hfind, hs]

theorem Stands.get_links (h : g.Stands p r) (hl : r.links l = some targets) :
    g.get (.ofPath p) l.key = some (.references (targets.map Target.object)) := by
  have notText : Scalar.all.find? (·.key == l.key) = none := by cases l <;> decide
  have hfind : Link.all.find? (·.key == l.key) = some l := by cases l <;> rfl
  simp [h.get_eq, Resource.textReading?, Resource.linkReading?, notText, hfind, hl]

theorem map_child_ofPath (h : IsProperPath p) (hb : IsProperName name) (listed : List String) :
    listed.map ((ObjectName.ofPath p).child name).child =
      listed.map fun n => .ofPath (p ++ [name, n]) := by
  refine List.map_congr_left fun n _ => ?_
  rw [ObjectName.child_ofPath h, ObjectName.child_ofPath (h.append (by simpa using hb))]
  simp

theorem isProperName_field (b : Branch) : IsProperName b.field := by cases b <;> decide

theorem Stands.get_branch (h : g.Stands p r) (hb : r.listed b = some listed) :
    g.get (.ofPath p) b.key =
      some (.references (listed.map fun n => .ofPath (p ++ [b.field, n]))) := by
  have notText : Scalar.all.find? (·.key == b.key) = none := by cases b <;> decide
  have notLink : Link.all.find? (·.key == b.key) = none := by cases b <;> rfl
  have hfind : Branch.all.find? (·.key == b.key) = some b := by cases b <;> rfl
  simp [h.get_eq, Resource.textReading?, Resource.linkReading?, Resource.branchReading?, notText,
    notLink, hfind, hb, map_child_ofPath h.isProperPath (isProperName_field b)]

theorem get_root_runtimes : g.get .root Branch.runtimes.key =
    some (.references (g.runtimes.names.map fun n =>
      .ofPath (["domainRuntime"] ++ [Branch.runtimes.field, n]))) := by
  have below := (Stands.domain (g := g)).get_branch (b := .runtimes) rfl
  rw [← below, Stands.domain.get_eq_attribute?]
  rfl

theorem Stands.invoke_getURL (h : g.Stands p r) {url : String} (hurl : r.url? = some url) :
    g.invoke (.ofPath p) "getURL" = some (.text url) := by
  simp [invoke, ObjectName.segments_ofPath h.isProperPath, h.resource?_eq, hurl]

end

end DomainGraph

end DomainDeploy
