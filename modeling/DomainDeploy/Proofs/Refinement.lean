import DomainDeploy.Proofs.Service
import DomainDeploy.Proofs.Session
import DomainDeploy.Rest.Connection

/-!
# Reading a domain over HTTP

What reads a domain over a usable channel to a server that shows it comes to what it comes to when
the objects are read themselves, values and errors alike. Only a URL that is asked for and is too
long stands in the way (`ServedDomain.resolution_agrees`).

`ServedDomain.Follows` is closed under the steps that activities are made of, and each part of the
resolution has a lemma of its own. Its second part tells what an activity comes to when the objects
are read themselves: that they stand in the domain, and of what kind they are.
-/

namespace DomainDeploy

open Program Activity Resolution

/-! ### Agreement -/

namespace DomainGraph

variable {g : DomainGraph} {c : Rest.Channel}

/-- The URL to which a call to an object of the domain leads. -/
inductive Addresses (g : DomainGraph) (c : Rest.Channel) : Call → Url → Prop
  | text {p : List String} {r : Resource} (h : g.Stands p r) (s : Scalar) :
      g.Addresses c (.get (.ofPath p) s.key) (c.fieldAddress p s.field)
  | links {p : List String} {r : Resource} (h : g.Stands p r) (l : Link) :
      g.Addresses c (.get (.ofPath p) l.key) (c.fieldAddress p l.field)
  | listing {p : List String} {r : Resource} (h : g.Stands p r) (b : Branch) :
      g.Addresses c (.get (.ofPath p) b.key) (c.fieldAddress (p ++ [b.field]) "name")
  | runtimes : g.Addresses c (.get .root Branch.runtimes.key)
      (c.fieldAddress (["domainRuntime"] ++ [Branch.runtimes.field]) "name")
  | operation {p : List String} {r : Resource} (h : g.Stands p r) (name : String)
      (arguments : Json) :
      g.Addresses c (.invoke (.ofPath p) name arguments) (c.address (p ++ [name]))

end DomainGraph

/-- A domain, a server that shows it, and a usable channel to that server. -/
structure ServedDomain where
  graph : DomainGraph
  style : Style
  channel : Rest.Channel
  usable : channel.IsUsable
  files : FileSystem
  environment : String → Option String
  configuration : Configuration

namespace ServedDomain

variable {D : ServedDomain} {α β : Type} {x : Activity α} {f : α → Activity β} {a : α}
  {e : DeployError} {P : α → Prop} {Q : β → Prop}

/-- What an activity comes to over the channel, and the channel behind it. -/
def overHttp (D : ServedDomain) (x : Activity α) : Except DeployError α × Option Rest.Channel :=
  (D.graph.service D.style D.channel.base).outcome
    (x.run.via (Rest.bridge D.files D.environment D.configuration) (some D.channel))

theorem overHttp_bind_ok (h : D.overHttp x = (.ok a, some D.channel)) :
    D.overHttp (x >>= f) = D.overHttp (f a) := by
  unfold overHttp at h ⊢
  rw [run_bind_eq_andThen, via_andThen, Static.outcome_andThen, h]

theorem overHttp_bind_error (h : D.overHttp x = (.error e, some D.channel)) :
    D.overHttp (x >>= f) = (.error e, some D.channel) := by
  unfold overHttp at h ⊢
  rw [run_bind_eq_andThen, via_andThen, Static.outcome_andThen, h]
  rfl

theorem overHttp_call (q : Call) : D.overHttp (call q) =
    ((D.graph.service D.style D.channel.base).outcome (D.channel.call D.files q).run,
      some D.channel) := by
  unfold overHttp
  rw [call, ExceptT.run_mk, attempt, request, via, Static.outcome_andThen, Rest.bridge]
  simp

/-- A URL to which the activity comes is too long, and over the channel it ends there. -/
structure StopsAt (D : ServedDomain) (x : Activity α) (url : Url) : Prop where
  asked : ∃ q, D.graph.direct.Asked x.run (.call q) ∧ D.graph.Addresses D.channel q url
  isTooLong : url.isTooLong = true
  overHttp_eq : D.overHttp x =
    (.error (.transport (.unsendable url.withoutCredentials.toText)), some D.channel)

/-- Over the channel the activity comes to what it comes to directly, unless a URL is too long. -/
def AgreesOn (D : ServedDomain) (x : Activity α) : Prop :=
  D.overHttp x = (D.graph.direct.value x, some D.channel) ∨ ∃ url, D.StopsAt x url

/-- The results agree, and what the activity comes to directly satisfies `P`. -/
structure Follows (D : ServedDomain) (x : Activity α) (P : α → Prop) : Prop where
  agrees : D.AgreesOn x
  post : ∀ a, D.graph.direct.value x = .ok a → P a

theorem follows_pure (h : P a) : D.Follows (pure a) P where
  agrees := .inl rfl
  post := by
    intro b hb
    cases hb
    exact h

theorem follows_throw : D.Follows (throw e) P where
  agrees := .inl rfl
  post := by
    intro a ha
    cases ha

theorem follows_ofResult {r : Except DeployError α} : D.Follows (ofResult r) fun _ => True where
  agrees := .inl rfl
  post := fun _ _ => trivial

theorem follows_note (level : LogLevel) (text : String) :
    D.Follows (Activity.note level text) fun _ => True where
  agrees := .inl rfl
  post := fun _ _ => trivial

theorem Follows.imp {P' : α → Prop} (h : D.Follows x P) (hP : ∀ a, P a → P' a) :
    D.Follows x P' where
  agrees := h.agrees
  post := fun a ha => hP a (h.post a ha)

theorem Follows.bind (h : D.Follows x P) (hf : ∀ a, P a → D.Follows (f a) Q) :
    D.Follows (x >>= f) Q := by
  constructor
  -- either step may come to the URL that is too long; the second is come to only behind the first
  · rcases h.agrees with same | ⟨url, stops⟩
    · cases hdirect : D.graph.direct.value x with
      | ok a =>
          rw [hdirect] at same
          have hbind := overHttp_bind_ok (f := f) same
          rw [AgreesOn, Static.value_bind, hdirect, ok_bind, hbind]
          rcases (hf a (h.post a hdirect)).agrees with hrest | ⟨url, stops⟩
          · exact .inl hrest
          · rcases stops.asked with ⟨q, asked, leads⟩
            have later := Static.asked_bind_of_ok (f := f) hdirect asked
            exact .inr ⟨url, ⟨q, later, leads⟩, stops.isTooLong, hbind.trans stops.overHttp_eq⟩
      | error e =>
          rw [hdirect] at same
          rw [AgreesOn, Static.value_bind, hdirect]
          exact .inl (overHttp_bind_error same)
    · rcases stops.asked with ⟨q, asked, leads⟩
      exact .inr ⟨url, ⟨q, asked.bind f, leads⟩, stops.isTooLong,
        overHttp_bind_error stops.overHttp_eq⟩
  · intro b hb
    rcases Static.value_bind_eq_ok.1 hb with ⟨a, ha, hb⟩
    exact (hf a (h.post a ha)).post b hb

/-! ### Reading -/

theorem value_read {q : Call} {take : Reading → Except DeployError α} {direct : Reading}
    (read : D.graph.direct.reply q = .ok direct) (hdirect : take direct = .ok a) :
    D.graph.direct.value (do ofResult (take (← call q))) = .ok a := by
  rw [Static.value_bind, Static.value_call, read]
  exact hdirect

theorem overHttp_read {q : Call} {take : Reading → Except DeployError α} {served : Reading}
    {url : Url}
    (delivered : (D.graph.service D.style D.channel.base).outcome (D.channel.call D.files q).run =
      Http.delivered url served) (hserved : take served = .ok a) :
    D.overHttp (do ofResult (take (← call q))) = (Http.delivered url a, some D.channel) := by
  have hcall := overHttp_call (D := D) q
  rw [delivered] at hcall
  cases long : url.isTooLong with
  | true =>
      simp only [Http.delivered, long, if_true] at hcall ⊢
      exact overHttp_bind_error hcall
  | false =>
      simp only [Http.delivered, long, Bool.false_eq_true, if_false] at hcall ⊢
      rw [overHttp_bind_ok hcall, hserved]
      rfl

/-- A call is followed when what it comes to on both sides is taken for the same value. -/
theorem follows_read {q : Call} {take : Reading → Except DeployError α} {direct served : Reading}
    {url : Url} (leads : D.graph.Addresses D.channel q url)
    (read : D.graph.direct.reply q = .ok direct)
    (delivered : (D.graph.service D.style D.channel.base).outcome (D.channel.call D.files q).run =
      Http.delivered url served)
    (hdirect : take direct = .ok a) (hserved : take served = .ok a) :
    D.Follows (do ofResult (take (← call q))) (· = a) := by
  have hvalue := value_read read hdirect
  have hhttp := overHttp_read delivered hserved
  constructor
  · cases long : url.isTooLong with
    | true =>
        rw [Http.delivered, if_pos long] at hhttp
        exact .inr ⟨url, ⟨q, (Static.asked_call q).bind _, leads⟩, long, hhttp⟩
    | false =>
        rw [Http.delivered, if_neg (by simp [long])] at hhttp
        exact .inl (by rw [hhttp, hvalue])
  · intro b hb
    rw [hvalue] at hb
    cases hb
    rfl

section

variable {p : List String} {r : Resource} {s : Scalar} {l : Link} {b : Branch} {text : String}
  {targets : List Target} {names : List String}

theorem reply_get {object : ObjectName} {key : String} {reading : Reading}
    (h : D.graph.get object key = some reading) :
    D.graph.direct.reply (.get object key) = .ok reading := by
  rw [Static.reply, DomainGraph.direct, h]

theorem follows_getText (h : D.graph.Stands p r) (hs : r.text s = some text) :
    D.Follows (getText (.ofPath p) s.key) (· = text) :=
  follows_read (.text h s) (reply_get (h.get_text hs))
    (DomainGraph.outcome_getAttribute_text D.style D.usable h hs) rfl rfl

theorem follows_links (h : D.graph.Stands p r) (hl : r.links l = some targets) :
    D.Follows (getReferences (.ofPath p) l.key) (· = targets.map Target.object) := by
  rcases DomainGraph.outcome_getAttribute_links D.style D.usable h hl with
    ⟨reading, hreading, delivered⟩
  exact follows_read (.links h l) (reply_get (h.get_links hl)) delivered rfl hreading

theorem follows_branch (h : D.graph.Stands p r) (hb : r.listed b = some names) :
    D.Follows (getReferences (.ofPath p) b.key)
      (· = names.map fun n => .ofPath (p ++ [b.field, n])) :=
  follows_read (.listing h b) (reply_get (h.get_branch hb))
    (DomainGraph.outcome_getAttribute_branch D.style D.usable h hb) rfl rfl

theorem follows_root_runtimes : D.Follows (getReferences .root Branch.runtimes.key)
    (· = D.graph.runtimes.names.map fun n =>
      .ofPath (["domainRuntime"] ++ [Branch.runtimes.field, n])) :=
  follows_read .runtimes (reply_get DomainGraph.get_root_runtimes)
    (DomainGraph.outcome_getAttribute_root_runtimes D.style D.usable) rfl rfl

theorem follows_domainConfiguration :
    D.Follows domainConfiguration (· = .ofPath ["domainConfig"]) where
  agrees := .inl rfl
  post := by
    intro a ha
    cases ha
    rfl

theorem follows_askUrl (h : D.graph.Stands p r) (hurl : r.url? = some text) :
    D.Follows (askUrl (.ofPath p)) (· = text) := by
  have read : D.graph.direct.reply (.invoke (.ofPath p) "getURL"
      (.object [("protocol", .string "http")])) = .ok (.text text) := by
    rw [Static.reply, DomainGraph.direct, h.invoke_getURL hurl]
  exact follows_read (.operation h _ _) read
    (DomainGraph.outcome_getURL D.style D.usable h hurl _ _) rfl rfl

end

end ServedDomain

/-! ### Objects of a kind -/

/-- The name of an object of the domain that satisfies `P`. -/
def DomainGraph.Shows (g : DomainGraph) (P : Resource → Prop) (object : ObjectName) : Prop :=
  ∃ p r, g.Stands p r ∧ object = .ofPath p ∧ P r

/-- An object with a name of its own. -/
def Resource.IsNamed (r : Resource) : Prop := ∃ name, r.text .name = some name

theorem DomainGraph.Shows.imp {g : DomainGraph} {P Q : Resource → Prop} {object : ObjectName}
    (h : g.Shows P object) (hPQ : ∀ r, P r → Q r) : g.Shows Q object := by
  rcases h with ⟨p, r, stands, hobject, hr⟩
  exact ⟨p, r, stands, hobject, hPQ r hr⟩

theorem Resource.isNamed_of_kind {b : Branch} (r : Resource) (h : r.kind = b.kind) : r.IsNamed := by
  cases r with
  | configuration => cases b <;> cases h
  | domain => cases b <;> cases h
  | _ => exact ⟨_, rfl⟩

theorem Resource.isNamed_of_isTypedByPlace (r : Resource) (h : r.isTypedByPlace = true) :
    r.IsNamed := by
  cases r with
  | server name => exact ⟨name, rfl⟩
  | cluster name members => exact ⟨name, rfl⟩
  | _ => cases h

namespace ServedDomain

variable {D : ServedDomain} {p : List String} {r : Resource} {object : ObjectName}
  {objects : List ObjectName} {name target : String}

theorem follows_listing {b : Branch} {names : List String} (h : D.graph.Stands p r)
    (hb : r.listed b = some names) : D.Follows (getReferences (.ofPath p) b.key)
      fun objects => ∀ o ∈ objects, D.graph.Shows (·.kind = b.kind) o := by
  refine (follows_branch h hb).imp ?_
  rintro _ rfl o ho
  rcases List.mem_map.1 ho with ⟨n, hn, rfl⟩
  rcases h.exists_listed hb hn with ⟨r', stands, hkind⟩
  exact ⟨_, r', stands, rfl, hkind⟩

theorem follows_targets {l : Link} {targets : List Target} (h : D.graph.Stands p r)
    (hl : r.links l = some targets) : D.Follows (getReferences (.ofPath p) l.key)
      fun objects => ∀ o ∈ objects, D.graph.Shows (·.isTypedByPlace = true) o := by
  refine (follows_links h hl).imp ?_
  rintro _ rfl o ho
  rcases List.mem_map.1 ho with ⟨t, ht, rfl⟩
  rcases h.exists_target hl ht with ⟨r', stands, typed⟩
  exact ⟨_, r', stands, rfl, typed⟩

theorem follows_name (h : D.graph.Shows Resource.IsNamed object) :
    D.Follows (getText object "Name") fun _ => True := by
  rcases h with ⟨p, r, stands, rfl, name, hname⟩
  exact (follows_getText (s := .name) stands hname).imp fun _ _ => trivial

theorem follows_firstNamed (name : String)
    (h : ∀ o ∈ objects, D.graph.Shows Resource.IsNamed o) :
    D.Follows (firstNamed name objects) fun found => ∀ o ∈ found, o ∈ objects := by
  induction objects with
  | nil => exact follows_pure (by simp)
  | cons object rest ih =>
      refine (follows_name (h object List.mem_cons_self)).bind fun text _ => ?_
      -- the names are read one by one, and none behind the one that is looked for
      split
      · exact follows_pure (by simp)
      · refine (ih fun o ho => h o (List.mem_cons_of_mem _ ho)).imp fun found hfound o ho => ?_
        exact List.mem_cons_of_mem _ (hfound o ho)

/-! ### Deployments and their targets -/

theorem follows_findDeployment (name : String) : D.Follows (findDeployment name)
    fun found => ∀ o ∈ found, D.graph.Shows (·.kind = .deployment) o := by
  refine follows_domainConfiguration.bind ?_
  rintro _ rfl
  refine (follows_listing .configuration (b := .deployments) rfl).bind fun objects h => ?_
  have named : ∀ o ∈ objects, D.graph.Shows Resource.IsNamed o := fun o ho =>
    (h o ho).imp fun r hkind => r.isNamed_of_kind hkind
  exact (follows_firstNamed name named).imp fun found hfound o ho => h o (hfound o ho)

theorem follows_findTarget (h : D.graph.Shows (·.kind = .deployment) object)
    (name target : String) : D.Follows (findTarget object name target)
      fun o => D.graph.Shows (·.isTypedByPlace = true) o := by
  rcases h with ⟨p, r, stands, rfl, hkind⟩
  cases r with
  | deployment d targets =>
      refine (follows_targets stands (l := .targets) rfl).bind fun objects h => ?_
      have named : ∀ o ∈ objects, D.graph.Shows Resource.IsNamed o := fun o ho =>
        (h o ho).imp fun r htyped => r.isNamed_of_isTypedByPlace htyped
      refine (follows_firstNamed target named).bind fun found hfound => ?_
      cases found with
      | none => exact follows_throw
      | some o => exact follows_pure (h o (hfound o rfl))
  | _ => cases hkind

theorem follows_namesOf (h : ∀ o ∈ objects, D.graph.Shows Resource.IsNamed o) :
    D.Follows (namesOf objects) fun _ => True := by
  induction objects with
  | nil => exact follows_pure trivial
  | cons object rest ih =>
      refine (follows_name (h object List.mem_cons_self)).bind fun text _ => ?_
      refine (ih fun o ho => h o (List.mem_cons_of_mem _ ho)).bind fun names _ => ?_
      exact follows_pure trivial

theorem follows_clusterMembers (h : D.graph.Shows (·.kind = .cluster) object) :
    D.Follows (clusterMembers object) fun _ => True := by
  rcases h with ⟨p, r, stands, rfl, hkind⟩
  cases r with
  | cluster c members =>
      refine (follows_targets stands (l := .servers) rfl).bind fun objects h => ?_
      exact follows_namesOf fun o ho =>
        (h o ho).imp fun r htyped => r.isNamed_of_isTypedByPlace htyped
  | _ => cases hkind

theorem follows_membersOf (h : D.graph.Shows (·.isTypedByPlace = true) object) (target : String) :
    D.Follows (membersOf object target) fun _ => True := by
  rcases h with ⟨p, r, stands, rfl, htyped⟩
  cases r with
  | server s =>
      refine (follows_getText stands (s := .type) rfl).bind ?_
      rintro _ rfl
      exact follows_pure trivial
  | cluster c members =>
      refine (follows_getText stands (s := .type) rfl).bind ?_
      rintro _ rfl
      exact follows_clusterMembers ⟨p, _, stands, rfl, rfl⟩
  | _ => cases htyped

/-! ### Servers -/

theorem follows_readServer (h : D.graph.Shows (·.kind = .runtime) object) :
    D.Follows (readServer object) fun _ => True := by
  rcases h with ⟨p, r, stands, rfl, hkind⟩
  cases r with
  | runtime s runtime =>
      refine (follows_getText stands (s := .name) rfl).bind fun name _ => ?_
      refine (follows_getText stands (s := .state) rfl).bind fun state _ => ?_
      split
      · refine (follows_askUrl stands rfl).bind fun url _ => ?_
        exact follows_pure trivial
      · exact follows_pure trivial
  | _ => cases hkind

theorem follows_readServers (h : ∀ o ∈ objects, D.graph.Shows (·.kind = .runtime) o) :
    D.Follows (readServers objects)
      fun servers => ∀ server ∈ servers, D.graph.Shows (·.kind = .runtime) server.1 := by
  induction objects with
  | nil => exact follows_pure (by simp)
  | cons object rest ih =>
      have first := h object List.mem_cons_self
      refine (follows_readServer first).bind fun server _ => ?_
      refine (ih fun o ho => h o (List.mem_cons_of_mem _ ho)).bind fun servers hservers => ?_
      exact follows_pure (List.forall_mem_cons.2 ⟨first, hservers⟩)

theorem follows_serverRuntimes : D.Follows serverRuntimes
    fun servers => ∀ server ∈ servers, D.graph.Shows (·.kind = .runtime) server.1 := by
  refine follows_root_runtimes.bind ?_
  rintro _ rfl
  refine follows_readServers fun o ho => ?_
  rcases List.mem_map.1 ho with ⟨n, hn, rfl⟩
  rcases DomainGraph.Stands.domain.exists_listed (b := .runtimes) rfl hn with ⟨r, stands, hkind⟩
  exact ⟨_, r, stands, rfl, hkind⟩

theorem follows_listServers : D.Follows listServers fun _ => True :=
  follows_serverRuntimes.bind fun _ _ => follows_pure trivial

theorem follows_runningMember (members : List String) : D.Follows (runningMember members)
    fun found => ∀ server ∈ found, D.graph.Shows (·.kind = .runtime) server.1 := by
  unfold runningMember
  split
  · exact follows_pure (by simp)
  · refine follows_serverRuntimes.bind fun servers h => ?_
    exact follows_pure fun server hserver => h server (List.mem_of_find?_eq_some hserver)

/-! ### Servlets -/

theorem follows_readServlets (h : ∀ o ∈ objects, D.graph.Shows (·.kind = .servlet) o) :
    D.Follows (readServlets objects) fun _ => True := by
  induction objects with
  | nil => exact follows_pure trivial
  | cons object rest ih =>
      rcases h object List.mem_cons_self with ⟨p, r, stands, rfl, hkind⟩
      cases r with
      | servlet s servlet =>
          refine (follows_getText stands (s := .servletName) rfl).bind fun name _ => ?_
          refine (follows_getText stands (s := .contextPath) rfl).bind fun contextPath _ => ?_
          refine (ih fun o ho => h o (List.mem_cons_of_mem _ ho)).bind fun servlets _ => ?_
          exact follows_pure trivial
      | _ => cases hkind

theorem follows_componentServlets (h : D.graph.Shows (·.kind = .component) object) :
    D.Follows (componentServlets object) fun _ => True := by
  rcases h with ⟨p, r, stands, rfl, hkind⟩
  cases r with
  | component c component =>
      refine (follows_getText stands (s := .type) rfl).bind fun type _ => ?_
      split
      · exact (follows_listing stands (b := .servlets) rfl).bind fun objects h =>
          follows_readServlets h
      · exact follows_pure trivial
  | _ => cases hkind

theorem follows_servletsOf (h : ∀ o ∈ objects, D.graph.Shows (·.kind = .component) o) :
    D.Follows (servletsOf objects) fun _ => True := by
  induction objects with
  | nil => exact follows_pure trivial
  | cons object rest ih =>
      refine (follows_componentServlets (h object List.mem_cons_self)).bind fun servlets _ => ?_
      refine (ih fun o ho => h o (List.mem_cons_of_mem _ ho)).bind fun more _ => ?_
      exact follows_pure trivial

theorem follows_applicationServlets (h : D.graph.Shows (·.kind = .runtime) object) (name : String) :
    D.Follows (applicationServlets object name) fun _ => True := by
  rcases h with ⟨p, r, stands, rfl, hkind⟩
  cases r with
  | runtime s runtime =>
      refine (follows_listing stands (b := .applications) rfl).bind fun objects h => ?_
      have named : ∀ o ∈ objects, D.graph.Shows Resource.IsNamed o := fun o ho =>
        (h o ho).imp fun r hkind => r.isNamed_of_kind hkind
      refine (follows_firstNamed name named).bind fun found hfound => ?_
      cases found with
      | none => exact follows_throw
      | some o =>
          rcases h o (hfound o rfl) with ⟨q, r, stands, rfl, hkind⟩
          cases r with
          | application a application =>
              exact (follows_listing stands (b := .components) rfl).bind fun objects h =>
                follows_servletsOf h
          | _ => cases hkind
  | _ => cases hkind

/-! ### Endpoints and running targets -/

theorem follows_buildEndpoint (name target : String) :
    D.Follows (buildEndpoint name target) fun _ => True := by
  refine (follows_findDeployment name).bind fun found h => ?_
  cases found with
  | none => exact follows_throw
  | some deployment =>
      refine (follows_findTarget (h deployment rfl) name target).bind fun object h => ?_
      refine (follows_membersOf h target).bind fun members _ => ?_
      refine (follows_runningMember members).bind fun found h => ?_
      cases found with
      | none => exact follows_throw
      | some pair =>
          rcases pair with ⟨runtime, server⟩
          refine (follows_note _ _).bind fun _ _ => ?_
          refine follows_ofResult.bind fun address _ => ?_
          refine (follows_applicationServlets (h _ rfl) name).bind fun servlets _ => ?_
          exact (follows_note _ _).bind fun _ _ => follows_pure trivial

theorem follows_isClusterRunning (servers : List ServerInstance) (target : String)
    (h : ∀ o ∈ objects, D.graph.Shows (·.kind = .cluster) o) :
    D.Follows (isClusterRunning servers target objects) fun _ => True := by
  have named : ∀ o ∈ objects, D.graph.Shows Resource.IsNamed o := fun o ho =>
    (h o ho).imp fun r hkind => r.isNamed_of_kind (b := .clusters) hkind
  refine (follows_firstNamed target named).bind fun found hfound => ?_
  cases found with
  | none => exact follows_pure trivial
  | some cluster =>
      refine (follows_clusterMembers (h cluster (hfound cluster rfl))).bind fun members _ => ?_
      exact follows_pure trivial

theorem follows_isTargetRunning (target : String) :
    D.Follows (isTargetRunning target) fun _ => True := by
  refine follows_listServers.bind fun servers _ => ?_
  split
  · exact follows_pure trivial
  · refine follows_domainConfiguration.bind ?_
    rintro _ rfl
    refine (follows_listing .configuration (b := .clusters) rfl).bind fun objects h => ?_
    exact follows_isClusterRunning servers target h

/-- Over HTTP the domain is read as it is, as far as its URLs can be sent. -/
theorem resolution_agrees (D : ServedDomain) (name target : String) :
    D.AgreesOn (findDeployment name) ∧ D.AgreesOn listServers ∧
      D.AgreesOn (isTargetRunning target) ∧ D.AgreesOn (buildEndpoint name target) :=
  ⟨(follows_findDeployment name).agrees, follows_listServers.agrees,
    (follows_isTargetRunning target).agrees, (follows_buildEndpoint name target).agrees⟩

/-! ### A name that is too long -/

section

variable (single : D.graph.deployments.names = [name])

include single

theorem listed_of_single : D.graph.configuration.listed .deployments = some [name] :=
  congrArg some single

theorem stands_of_single : ∃ targets,
    D.graph.Stands ["domainConfig", "appDeployments", name] (.deployment name targets) := by
  have recorded : name ∈ D.graph.deployments.names := by simp [single]
  rcases Collection.exists_find?_eq_some recorded with ⟨targets, hfind⟩
  exact ⟨targets, .held .configuration (.deployment hfind)⟩

theorem value_findDeployment : D.graph.direct.value (findDeployment name) =
    .ok (some (.ofPath ["domainConfig", "appDeployments", name])) := by
  rcases stands_of_single single with ⟨targets, stands⟩
  have configuration : D.graph.direct.value domainConfiguration =
      .ok (.ofPath ["domainConfig"]) := rfl
  have records : D.graph.direct.value
      (getReferences (.ofPath ["domainConfig"]) "AppDeployments") =
        .ok [.ofPath ["domainConfig", "appDeployments", name]] :=
    value_read (reply_get (DomainGraph.Stands.configuration.get_branch (listed_of_single single)))
      rfl
  have called : D.graph.direct.value
      (getText (.ofPath ["domainConfig", "appDeployments", name]) "Name") = .ok name :=
    value_read (reply_get (stands.get_text (s := .name) rfl)) rfl
  simp [findDeployment, firstNamed, configuration, records, called, ok_bind]

theorem overHttp_findDeployment_of_long (long : Http.longestUrl < name.length) :
    ∃ url, D.overHttp (findDeployment name) =
      (.error (.transport (.unsendable url)), some D.channel) := by
  rcases stands_of_single single with ⟨targets, stands⟩
  have onTheWay : name ∈ ["domainConfig", "appDeployments", name] := by simp
  have tooLong := D.channel.isTooLong_fieldAddress onTheWay long "name"
  have configuration : D.overHttp domainConfiguration =
      (.ok (.ofPath ["domainConfig"]), some D.channel) := rfl
  have records : D.overHttp (getReferences (.ofPath ["domainConfig"]) "AppDeployments") =
      (Http.delivered (D.channel.fieldAddress ["domainConfig", "appDeployments"] "name")
        [.ofPath ["domainConfig", "appDeployments", name]], some D.channel) :=
    overHttp_read (DomainGraph.outcome_getAttribute_branch D.style D.usable .configuration
      (listed_of_single single)) rfl
  have called : D.overHttp
      (getText (.ofPath ["domainConfig", "appDeployments", name]) "Name") =
        (Http.delivered (D.channel.fieldAddress ["domainConfig", "appDeployments", name] "name")
          name, some D.channel) :=
    overHttp_read
      (DomainGraph.outcome_getAttribute_text D.style D.usable stands (s := .name) rfl) rfl
  rw [Http.delivered, if_pos tooLong] at called
  rw [findDeployment, overHttp_bind_ok configuration]
  -- the URL of the records may be too long already, below a long base address
  unfold Http.delivered at records
  split at records
  · exact ⟨_, overHttp_bind_error records⟩
  · rw [overHttp_bind_ok records, firstNamed]
    exact ⟨_, overHttp_bind_error called⟩

end

/-- A name of so many letters and one more. -/
def longName (n : Nat) : String := String.ofList (List.replicate (n + 1) 'a')

theorem length_longName (n : Nat) : (longName n).length = n + 1 := by simp [longName]

theorem isProperName_longName (n : Nat) : IsProperName (longName n) := by
  have letters : ∀ c ∈ (longName n).toList, c = 'a' := by
    intro c hc
    rw [longName, String.toList_ofList] at hc
    exact List.eq_of_mem_replicate hc
  have nonempty : longName n ≠ "" := by
    intro h
    have hlength := length_longName n
    simp [h] at hlength
  have not_dotted {text : String} (h : '.' ∈ text.toList) : longName n ≠ text := by
    rintro rfl
    exact absurd (letters _ h) (by decide)
  refine ⟨nonempty, not_dotted (by decide), not_dotted (by decide), fun c hc => ?_⟩
  rw [letters c hc]
  decide

/-- A domain with one deployment, which has such a name. -/
def longNamed (n : Nat) : ServedDomain where
  graph := {
    servers := ⟨[], by simp, by simp⟩
    clusters := ⟨[], by simp, by simp⟩
    deployments := ⟨[(longName n, [])], by simpa using isProperName_longName n, by simp⟩
    runtimes := ⟨[], by simp, by simp⟩
    members_configured := by simp
    targets_configured := by simp }
  style := ⟨fun _ => false, fun _ _ => false⟩
  channel := {
    base := ⟨"http", some ⟨[], none, .domain "localhost".toList, some 7001⟩, .segments [[]], none,
      none⟩
    userName := "weblogic"
    password := "welcome1"
    logMessages := false }
  usable := ⟨rfl, .inl rfl, by decide, _, rfl⟩
  files := .empty
  environment := fun _ => none
  configuration := Deployer.sample.configuration

theorem overHttp_longNamed {n : Nat} (long : Http.longestUrl ≤ n) :
    (longNamed n).overHttp (findDeployment (longName n)) ≠
      ((longNamed n).graph.direct.value (findDeployment (longName n)),
        some (longNamed n).channel) := by
  have hlong : Http.longestUrl < (longName n).length := by
    rw [length_longName]
    exact Nat.lt_succ_of_le long
  rcases overHttp_findDeployment_of_long (D := longNamed n) rfl hlong with ⟨url, unsent⟩
  rw [unsent, value_findDeployment (D := longNamed n) rfl]
  simp

/-- With a name of 65600 letters the results differ. -/
theorem overHttp_ne_value : (longNamed 65599).overHttp (findDeployment (longName 65599)) ≠
    ((longNamed 65599).graph.direct.value (findDeployment (longName 65599)),
      some (longNamed 65599).channel) :=
  overHttp_longNamed (by decide)

end ServedDomain

end DomainDeploy
