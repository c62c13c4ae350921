import DomainDeploy.Proofs.Inventory
import DomainDeploy.Proofs.Parts

/-!
# Targets that run

Whether a target runs is told in two ways. The walk that looks for an endpoint takes the target from
the deployment and asks whether a running server is among those that it stands for. The question
whether a target runs only has a name: it looks for a server of that name, and if there is none, for
a cluster. A domain in which names are ambiguous may answer the two differently; where they are not,
both come to whether a running server stands for the target (`isServed`).
-/

namespace DomainDeploy

open Program Activity Resolution

/-! ### Layouts -/

namespace Inventory

/-- A cluster with the names of its servers. -/
structure Cluster where
  name : String
  members : List String

end Inventory

/-- What a domain says about itself, with its clusters. -/
structure Layout extends Inventory where
  clusters : List Inventory.Cluster

namespace Layout

/-- Whether a target runs: the first server of that name, or else the first cluster. -/
def isRunning (v : Layout) (target : String) : Bool :=
  match v.runtimes.find? (·.name == target) with
  | some r => r.isRunning
  | none =>
    match v.clusters.find? (·.name == target) with
    | some c => v.runtimes.any fun r => r.isRunning && c.members.contains r.name
    | none => false

/-- Whether a running server stands for a target. -/
def isServed (v : Layout) (t : Inventory.Target) : Bool :=
  v.runtimes.any fun r => r.isRunning && t.standsFor r.name

/-- Whether a server of that name has a runtime or is a target of some deployment. -/
def HasServer (v : Layout) (name : String) : Prop :=
  name ∈ v.runtimes.map (·.name) ∨
    ∃ d ∈ v.deployments, ∃ t ∈ d.targets, t.type = "Server" ∧ t.name = name

/-- A name of a server or of a cluster tells which one is meant. -/
structure IsUnambiguous (v : Layout) : Prop where
  servers : (v.runtimes.map (·.name)).Nodup
  clusters : (v.clusters.map (·.name)).Nodup
  apart : ∀ c ∈ v.clusters, ¬ v.HasServer c.name

variable {v : Layout} {d : Inventory.Deployment} {t : Inventory.Target} {name : String}

/-- Among things of distinct names a search for the name of one of them finds it. -/
theorem find?_eq_some_of_mem {α : Type} {nameOf : α → String} {items : List α} {a : α}
    (distinct : (items.map nameOf).Nodup) (ha : a ∈ items) :
    items.find? (nameOf · == nameOf a) = some a := by
  induction items with
  | nil => cases ha
  | cons item rest ih =>
      rw [List.map_cons, List.nodup_cons] at distinct
      rw [List.find?_cons]
      rcases List.mem_cons.1 ha with rfl | ha
      · simp
      · have other : nameOf item ≠ nameOf a := fun h =>
          distinct.1 (h ▸ List.mem_map_of_mem ha)
        rw [beq_eq_false_iff_ne.2 other]
        exact ih distinct.2 ha

theorem find?_eq_none_of_not_mem {α : Type} {nameOf : α → String} {items : List α}
    (h : name ∉ items.map nameOf) : items.find? (nameOf · == name) = none := by
  rw [List.find?_eq_none]
  intro a ha hname
  exact h (List.mem_map.2 ⟨a, ha, by simpa using hname⟩)

/-- What runs in place of a target that is a server is the server of its name. -/
theorem isRunning_of_server (unambiguous : v.IsUnambiguous) (hd : d ∈ v.deployments)
    (ht : t ∈ d.targets) (server : t.type = "Server") :
    v.isRunning t.name = v.isServed t := by
  have stands : ∀ name, t.standsFor name = (name == t.name) := fun name => by
    simp [Inventory.Target.standsFor, server]
  have noCluster : t.name ∉ v.clusters.map (·.name) := fun hmem => by
    obtain ⟨c, hc, hname⟩ := List.mem_map.1 hmem
    exact unambiguous.apart c hc (.inr ⟨d, hd, t, ht, server, hname.symm⟩)
  simp only [isRunning, isServed, stands, find?_eq_none_of_not_mem noCluster]
  cases hfind : v.runtimes.find? (·.name == t.name) with
  | none =>
      rw [List.find?_eq_none] at hfind
      symm
      rw [List.any_eq_false]
      intro r hr
      simp [hfind r hr]
  | some r =>
      have hname : r.name = t.name := by simpa using List.find?_some hfind
      rw [Bool.eq_iff_iff, List.any_eq_true]
      constructor
      · intro running
        exact ⟨r, List.mem_of_find?_eq_some hfind, by simpa [hname] using running⟩
      · intro h
        obtain ⟨r', hr', hruns⟩ := h
        rw [Bool.and_eq_true, beq_iff_eq] at hruns
        have same := find?_eq_some_of_mem unambiguous.servers hr'
        rw [hruns.2, hfind] at same
        rw [Option.some.inj same]
        exact hruns.1

/-- What runs in place of a target that is a cluster is any of its servers. -/
theorem isRunning_of_cluster (unambiguous : v.IsUnambiguous) (cluster : t.type = "Cluster")
    (listed : ⟨t.name, t.members⟩ ∈ v.clusters) :
    v.isRunning t.name = v.isServed t := by
  have noServer : t.name ∉ v.runtimes.map (·.name) := fun hmem =>
    unambiguous.apart _ listed (.inl hmem)
  have found : v.clusters.find? (·.name == t.name) = some ⟨t.name, t.members⟩ :=
    find?_eq_some_of_mem unambiguous.clusters listed
  simp [isRunning, isServed, find?_eq_none_of_not_mem noServer, found, Inventory.Target.standsFor,
    cluster]

theorem endpoint_ne_targetNotRunning (r : Inventory.Runtime) (name told : String) :
    r.endpoint name ≠ .error (.targetNotRunning told) := by
  unfold Inventory.Runtime.endpoint
  cases r.address with
  | error fault => simp
  | ok address =>
      dsimp only
      cases r.applications.find? (·.name == name) <;> simp

/-- A target has no endpoint for want of a running server where none stands for it. -/
theorem endpoint_eq_targetNotRunning_iff (first : v.deployments.find? (·.name == name) = some d)
    (distinct : (d.targets.map (·.name)).Nodup) (ht : t ∈ d.targets) (told : String) :
    v.endpoint name t.name = .error (.targetNotRunning told) ↔
      told = t.name ∧ v.isServed t = false := by
  have found : d.targets.find? (·.name == t.name) = some t := find?_eq_some_of_mem distinct ht
  rw [Inventory.endpoint, first]
  dsimp only
  rw [found]
  dsimp only
  cases hchosen : v.runtimes.find? fun r => r.isRunning && t.standsFor r.name with
  | none =>
      have unserved : v.isServed t = false :=
        List.any_eq_false.2 fun r hr => List.find?_eq_none.1 hchosen r hr
      simp [unserved, eq_comm]
  | some r =>
      have hr := List.mem_of_find?_eq_some hchosen
      have served : v.isServed t = true :=
        List.any_eq_true.2 ⟨r, hr, by simpa using List.find?_some hchosen⟩
      simp [endpoint_ne_targetNotRunning, served]

end Layout

/-! ### Domains that show a layout -/

namespace Program.Static

section Shows

variable (D : Static Outside) (object : ObjectName)

structure ShowsCluster (c : Inventory.Cluster) : Prop where
  name : D.Tells object "Name" c.name
  members : D.Lists object "Servers" (fun server => D.Tells server "Name") c.members

/-- The replies of the domain say what the layout says. -/
structure ShowsLayout (v : Layout) : Prop extends D.Shows v.toInventory where
  clusters : ∃ configuration,
    D.reply (.get .root "DomainConfiguration") = .ok (.reference configuration) ∧
      D.Lists configuration "Clusters" D.ShowsCluster v.clusters

structure IsCluster : Prop where
  name : D.IsText object "Name"
  members : D.IsListOf object "Servers" fun server => D.IsText server "Name"

/-- All that may be read of the domain, its clusters included, is of the right kind. -/
structure IsLaidOut : Prop extends D.IsWellTyped where
  clusters : ∃ configuration,
    D.reply (.get .root "DomainConfiguration") = .ok (.reference configuration) ∧
      D.IsListOf configuration "Clusters" D.IsCluster

/-- An object stands among the clusters of the domain. -/
def HasCluster : Prop :=
  ∃ configuration reading objects,
    D.reply (.get .root "DomainConfiguration") = .ok (.reference configuration) ∧
      D.reply (.get configuration "Clusters") = .ok reading ∧
        reading.toReferences = .ok objects ∧ object ∈ objects

end Shows

variable {α : Type} {D : Static Outside} {object : ObjectName} {field : String} {v : Layout}

theorem IsCluster.exists_shows (h : D.IsCluster object) : ∃ c, D.ShowsCluster object c := by
  obtain ⟨⟨name, hname⟩, hmembers⟩ := h
  obtain ⟨members, hlists⟩ := hmembers.exists_lists fun _ hserver => hserver
  exact ⟨⟨name, members⟩, hname, hlists⟩

theorem IsLaidOut.exists_showsLayout (h : D.IsLaidOut) : ∃ v, D.ShowsLayout v := by
  obtain ⟨v, hv⟩ := h.exists_shows
  obtain ⟨configuration, hconfiguration, hclusters⟩ := h.clusters
  obtain ⟨clusters, hlists⟩ := hclusters.exists_lists fun _ => IsCluster.exists_shows
  exact ⟨{ v with clusters }, hv, configuration, hconfiguration, hlists⟩

/-! ### Clusters that are targets -/

/-- An attribute is one list of names only. -/
theorem Lists.unique {names names' : List String}
    (h : D.Lists object field (fun server => D.Tells server "Name") names)
    (h' : D.Lists object field (fun server => D.Tells server "Name") names') : names = names' := by
  obtain ⟨reading, objects, hreply, hobjects, hnames⟩ := h
  obtain ⟨_, _, hreply', hobjects', hnames'⟩ := h'
  cases hreply.symm.trans hreply'
  cases hobjects.symm.trans hobjects'
  refine List.right_unique_forall₂' (fun _ _ _ hname hname' => ?_) hnames hnames'
  exact Tells.unique hname hname'

/-- A target that stands among the clusters is a cluster of the layout. -/
theorem ShowsTarget.mem_clusters {t : Inventory.Target} (h : D.ShowsTarget object t)
    (cluster : t.type = "Cluster") (listed : D.HasCluster object) (hv : D.ShowsLayout v) :
    ⟨t.name, t.members⟩ ∈ v.clusters := by
  obtain ⟨_, _, _, hconfiguration, hreply, hobjects, hmem⟩ := listed
  obtain ⟨_, hconfiguration', _, _, hreply', hobjects', hshows⟩ := hv.clusters
  cases hconfiguration.symm.trans hconfiguration'
  cases hreply.symm.trans hreply'
  cases hobjects.symm.trans hobjects'
  obtain ⟨c, hc, hshown⟩ := exists_of_forall₂ hshows.flip hmem
  rw [h.name.unique hshown.name, (h.members cluster).unique hshown.members]
  exact hc

/-! ### Reading whether a target runs -/

theorem map_snd_of_forall₂ {servers : List (ObjectName × ServerInstance)}
    {runtimes : List Inventory.Runtime}
    (h : List.Forall₂ (fun p r => D.ShowsRuntime p.1 r ∧ p.2 = serverOf r) servers runtimes) :
    servers.map (·.2) = runtimes.map serverOf := by
  induction h with
  | nil => rfl
  | cons hp _ ih => rw [List.map_cons, List.map_cons, hp.2, ih]

theorem Shows.value_listServers {v : Inventory} (h : D.Shows v) :
    D.value listServers = .ok (v.runtimes.map serverOf) := by
  obtain ⟨objects, hobjects, hshows⟩ := h.runtimes.value_getReferences
  obtain ⟨servers, hservers, hrel⟩ := value_readServers hshows
  have hruntimes : D.value serverRuntimes = .ok servers := by
    rw [serverRuntimes, value_bind_of_ok hobjects, hservers]
  rw [listServers, value_bind_of_ok hruntimes, value_pure, map_snd_of_forall₂ hrel]

/-- Whether a cluster of that name runs, told from the servers that were read before. -/
theorem value_isClusterRunning {runtimes : List Inventory.Runtime} {objects : List ObjectName}
    {clusters : List Inventory.Cluster} (h : List.Forall₂ D.ShowsCluster objects clusters)
    (target : String) :
    D.value (isClusterRunning (runtimes.map serverOf) target objects) =
      .ok (match clusters.find? (·.name == target) with
        | some c => runtimes.any fun r => r.isRunning && c.members.contains r.name
        | none => false) := by
  obtain ⟨found, hfound, hrel⟩ := value_firstNamed h (fun _ _ hc => hc.name) target
  rw [isClusterRunning, value_bind_of_ok hfound]
  obtain ⟨rfl, hnone⟩ | ⟨cluster, c, rfl, hsome, hc⟩ := eq_none_or_eq_some_of_rel hrel
  · rw [hnone]
    rfl
  · obtain ⟨servers, hservers, hnames⟩ := hc.members.value_getReferences
    have hmembers : D.value (clusterMembers cluster) = .ok c.members := by
      rw [clusterMembers, value_bind_of_ok hservers, value_namesOf hnames]
    rw [hsome]
    dsimp only
    rw [value_bind_of_ok hmembers, value_pure, List.any_map]
    rfl

theorem ShowsLayout.value_isTargetRunning (h : D.ShowsLayout v) (target : String) :
    D.value (isTargetRunning target) = .ok (v.isRunning target) := by
  have hserver : (fun s : ServerInstance => s.name == target) ∘ serverOf =
      fun r : Inventory.Runtime => r.name == target := rfl
  rw [isTargetRunning, value_bind_of_ok h.value_listServers, List.find?_map, hserver,
    Layout.isRunning]
  cases v.runtimes.find? (·.name == target) with
  | some r => rfl
  | none =>
      obtain ⟨configuration, hconfiguration, hlists⟩ := h.clusters
      obtain ⟨objects, hobjects, hshows⟩ := hlists.value_getReferences
      dsimp only [Option.map_none]
      rw [value_bind_of_ok (value_domainConfiguration hconfiguration), value_bind_of_ok hobjects]
      exact value_isClusterRunning hshows target

/-- In a domain whose names are unambiguous, a target is said not to run exactly when the walk that
looks for an endpoint finds no running server for it. -/
theorem isTargetRunning_agrees {D : Static Outside} (h : D.IsLaidOut) :
    (∃ v, D.ShowsLayout v) ∧
      ∀ v, D.ShowsLayout v → v.IsUnambiguous →
        ∀ name d t, v.deployments.find? (·.name == name) = some d →
          (d.targets.map (·.name)).Nodup → t ∈ d.targets →
            (t.type = "Server" ∨
              t.type = "Cluster" ∧ ∃ object, D.ShowsTarget object t ∧ D.HasCluster object) →
              ∃ runs, D.value (isTargetRunning t.name) = .ok runs ∧
                ∀ told, D.value (buildEndpoint name t.name) = .error (.targetNotRunning told) ↔
                  told = t.name ∧ runs = false := by
  refine ⟨h.exists_showsLayout, fun v hv unambiguous name d t first distinct ht sort => ?_⟩
  refine ⟨v.isRunning t.name, hv.value_isTargetRunning t.name, fun told => ?_⟩
  have hd : d ∈ v.deployments := List.mem_of_find?_eq_some first
  have agrees : v.isRunning t.name = v.isServed t := by
    rcases sort with server | ⟨cluster, object, shown, listed⟩
    · exact Layout.isRunning_of_server unambiguous hd ht server
    · exact Layout.isRunning_of_cluster unambiguous cluster (shown.mem_clusters cluster listed hv)
  rw [hv.value_buildEndpoint, Layout.endpoint_eq_targetNotRunning_iff first distinct ht, agrees]

/-- A domain with a deployment on a cluster, whose only member is shut down. -/
def idle : Static Outside := fun q => (Rehearsal.outside q { domain := {
  attributes := [
    ("#DomainConfiguration", [.ok (.reference ⟨"domainConfig"⟩)]),
    ("domainConfig#AppDeployments", [.ok (.reference ⟨"foo"⟩)]),
    ("domainConfig#Clusters", [.ok (.reference ⟨"target"⟩)]),
    ("foo#Name", [.ok (.text "foo")]),
    ("foo#Targets", [.ok (.reference ⟨"target"⟩)]),
    ("target#Name", [.ok (.text "Cluster1")]),
    ("target#Type", [.ok (.text "Cluster")]),
    ("target#Servers", [.ok (.reference ⟨"member"⟩)]),
    ("member#Name", [.ok (.text "Server1")]),
    ("#ServerRuntimes", [.ok (.reference ⟨"server"⟩)]),
    ("server#Name", [.ok (.text "Server1")]),
    ("server#State", [.ok (.text "SHUTDOWN")])] } }).1

/-- What it says about itself. -/
def idleLayout : Layout where
  deployments := [⟨"foo", [⟨"Cluster1", "Cluster", ["Server1"]⟩]⟩]
  runtimes := [⟨"Server1", "SHUTDOWN", "", []⟩]
  clusters := [⟨"Cluster1", ["Server1"]⟩]

theorem isLaidOut_idle : idle.IsLaidOut := by
  have members : idle.IsListOf ⟨"target"⟩ "Servers" fun server => idle.IsText server "Name" :=
    ⟨_, [⟨"member"⟩], rfl, rfl, List.forall_mem_singleton.2 ⟨_, rfl⟩⟩
  have deployment : idle.IsDeployment ⟨"foo"⟩ :=
    ⟨⟨_, rfl⟩, _, [⟨"target"⟩], rfl, rfl,
      List.forall_mem_singleton.2 ⟨⟨_, rfl⟩, ⟨_, rfl⟩, fun _ => members⟩⟩
  have server : idle.IsRuntime ⟨"server"⟩ :=
    ⟨⟨_, rfl⟩, ⟨_, rfl⟩, fun h => absurd (h.unique rfl) (by decide),
      fun h => absurd (h.unique rfl) (by decide)⟩
  exact
    { deployments :=
        ⟨⟨"domainConfig"⟩, rfl, _, [⟨"foo"⟩], rfl, rfl, List.forall_mem_singleton.2 deployment⟩
      runtimes := ⟨_, [⟨"server"⟩], rfl, rfl, List.forall_mem_singleton.2 server⟩
      clusters := ⟨⟨"domainConfig"⟩, rfl, _, [⟨"target"⟩], rfl, rfl,
        List.forall_mem_singleton.2 ⟨⟨_, rfl⟩, members⟩⟩ }

theorem showsTarget_idle : idle.ShowsTarget ⟨"target"⟩ ⟨"Cluster1", "Cluster", ["Server1"]⟩ :=
  ⟨rfl, rfl, fun _ => ⟨_, [⟨"member"⟩], rfl, rfl, .cons rfl .nil⟩⟩

theorem showsLayout_idle : idle.ShowsLayout idleLayout where
  deployments := ⟨⟨"domainConfig"⟩, rfl, _, [⟨"foo"⟩], rfl, rfl,
    .cons ⟨rfl, _, [⟨"target"⟩], rfl, rfl, .cons showsTarget_idle .nil⟩ .nil⟩
  runtimes := ⟨_, [⟨"server"⟩], rfl, rfl,
    .cons ⟨rfl, rfl, fun h => absurd h (by decide), fun h => absurd h (by decide)⟩ .nil⟩
  clusters := ⟨⟨"domainConfig"⟩, rfl, _, [⟨"target"⟩], rfl, rfl,
    .cons ⟨rfl, showsTarget_idle.members rfl⟩ .nil⟩

/-- Its cluster does not run, and has no endpoint for that reason. -/
theorem isTargetRunning_agrees_idle :
    (idle.IsLaidOut ∧ idle.ShowsLayout idleLayout ∧ idleLayout.IsUnambiguous) ∧
      idle.value (isTargetRunning "Cluster1") = .ok false ∧
        idle.value (buildEndpoint "foo" "Cluster1") = .error (.targetNotRunning "Cluster1") := by
  have unambiguous : idleLayout.IsUnambiguous := by
    refine ⟨by decide, by decide, ?_⟩
    simp [idleLayout, Layout.HasServer]
  have listed : idle.HasCluster ⟨"target"⟩ :=
    ⟨⟨"domainConfig"⟩, _, [⟨"target"⟩], rfl, rfl, rfl, List.mem_cons_self⟩
  obtain ⟨runs, hruns, hagrees⟩ := (isTargetRunning_agrees isLaidOut_idle).2 _ showsLayout_idle
    unambiguous "foo" _ ⟨"Cluster1", "Cluster", ["Server1"]⟩ rfl (by decide) List.mem_cons_self
    (.inr ⟨rfl, _, showsTarget_idle, listed⟩)
  have idles : idleLayout.isRunning "Cluster1" = false := by decide
  have halted : runs = false := by
    rw [showsLayout_idle.value_isTargetRunning, idles] at hruns
    exact (Except.ok.inj hruns).symm
  exact ⟨⟨isLaidOut_idle, showsLayout_idle, unambiguous⟩, hruns.trans (congrArg _ halted),
    (hagrees "Cluster1").2 ⟨rfl, halted⟩⟩

end Program.Static

end DomainDeploy
