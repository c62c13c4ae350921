import DomainDeploy.Proofs.Session
import DomainDeploy.Proofs.Walk

/-!
# What a successful deploy was shown

How the deployment tool exits and what the progress object says decide nothing: a deploy succeeds
because of what the domain showed after it was submitted. `Shown` says what that is, turn by turn:
a record of the deployment, its target, the first running server of the target, that server's own
application of the name, and the servlets of the application's web components. The domain may have
answered differently before, and may answer differently later; nothing else was read in between.
-/

namespace DomainDeploy

open Program Activity

variable {d : Dialogue Outside} {name target : String} {σ : Type}

namespace Resolution

/-! ### Servlets -/

/-- Reading a servlet, with what came back. -/
def servletTurns (object : ObjectName) (servlet : Servlet) : Dialogue Outside :=
  [look object "ServletName" (.text servlet.name),
    look object "ContextPath" (.text servlet.contextPath)]

/-- Reading a servlet as one item of a list of them. -/
theorem leadsTo_readServlet {object : ObjectName} {servlet : Servlet} :
    (getText object "ServletName" >>= fun name => getText object "ContextPath" >>=
      fun contextPath => pure (⟨name, contextPath⟩ : Servlet)).run.LeadsTo d (.ok servlet) ↔
        d = servletTurns object servlet := by
  rw [leadsTo_bind_ok]
  constructor
  · intro h
    rcases h with ⟨_, name, _, rfl, h₁, h₂⟩
    obtain rfl := leadsTo_getText.1 h₁
    obtain ⟨_, contextPath, _, rfl, h₃, rfl, h₄⟩ := leadsTo_bind_ok.1 h₂
    obtain rfl := leadsTo_getText.1 h₃
    cases h₄
    rfl
  · intro h
    subst h
    refine ⟨[_], servlet.name, [_], rfl, leadsTo_getText.2 rfl, leadsTo_bind_ok.2 ?_⟩
    exact ⟨[_], servlet.contextPath, [], rfl, leadsTo_getText.2 rfl, rfl, rfl⟩

theorem leadsTo_readServlets {objects : List ObjectName} {servlets : List Servlet} :
    (readServlets objects).run.LeadsTo d (.ok servlets) ↔
      ∃ read : List (ObjectName × Servlet), objects = read.map (·.1) ∧
        servlets = read.map (·.2) ∧ d = read.flatMap fun p => servletTurns p.1 p.2 := by
  have hcons : ∀ object rest, readServlets (object :: rest) =
      (getText object "ServletName" >>= fun name => getText object "ContextPath" >>=
        fun contextPath => pure (⟨name, contextPath⟩ : Servlet)) >>= fun servlet =>
          readServlets rest >>= fun servlets => pure (servlet :: servlets) := by
    intro object rest
    rw [readServlets]
    simp only [bind_assoc, pure_bind]
  rw [leadsTo_readList (P := fun _ _ => True) _ readServlets rfl hcons fun _ _ _ =>
    leadsTo_readServlet.trans (iff_of_eq (true_and _).symm)]
  simp

/-- Reading a component, with the servlets that it shows. -/
inductive ComponentWalk (component : ObjectName) : List Servlet → Dialogue Outside → Prop
  | web {listing : Reading} {read : List (ObjectName × Servlet)}
      (listed : listing.toReferences = .ok (read.map (·.1))) :
      ComponentWalk component (read.map (·.2))
        (look component "Type" (.text webComponent) ::
          look component "Servlets" listing :: read.flatMap fun p => servletTurns p.1 p.2)
  | other {type : String} (type_other : type ≠ webComponent) :
      ComponentWalk component [] [look component "Type" (.text type)]

theorem leadsTo_componentServlets {component : ObjectName} {servlets : List Servlet} :
    (componentServlets component).run.LeadsTo d (.ok servlets) ↔
      ComponentWalk component servlets d := by
  rw [componentServlets, leadsTo_bind_ok]
  constructor
  · intro h
    rcases h with ⟨_, type, _, rfl, h₁, h₂⟩
    obtain rfl := leadsTo_getText.1 h₁
    by_cases htype : type = webComponent
    · subst htype
      rw [if_pos (by simp)] at h₂
      obtain ⟨_, objects, _, rfl, h₃, h₄⟩ := leadsTo_bind_ok.1 h₂
      obtain ⟨listing, hlisting, rfl⟩ := leadsTo_getReferences.1 h₃
      obtain ⟨read, rfl, rfl, rfl⟩ := leadsTo_readServlets.1 h₄
      exact .web hlisting
    · rw [if_neg (by simpa using htype)] at h₂
      obtain ⟨rfl, h₂⟩ := h₂
      cases h₂
      exact .other htype
  · intro h
    rcases h with hlisting | htype
    · refine ⟨_, webComponent, _, rfl, leadsTo_getText.2 rfl, ?_⟩
      rw [if_pos (by simp)]
      exact leadsTo_bind_ok.2 ⟨_, _, _, rfl, leadsTo_getReferences.2 ⟨_, hlisting, rfl⟩,
        leadsTo_readServlets.2 ⟨_, rfl, rfl, rfl⟩⟩
    · refine ⟨_, _, [], rfl, leadsTo_getText.2 rfl, ?_⟩
      rw [if_neg (by simpa using htype)]
      exact ⟨rfl, rfl⟩

/-- Reading components in turn, with all the servlets that they show. -/
inductive ComponentsWalk : List ObjectName → List Servlet → Dialogue Outside → Prop
  | nil : ComponentsWalk [] [] []
  | cons {component : ObjectName} {rest : List ObjectName} {servlets others : List Servlet}
      {d₁ d₂ : Dialogue Outside} (first : ComponentWalk component servlets d₁)
      (behind : ComponentsWalk rest others d₂) :
      ComponentsWalk (component :: rest) (servlets ++ others) (d₁ ++ d₂)

theorem leadsTo_servletsOf {components : List ObjectName} {servlets : List Servlet} :
    (servletsOf components).run.LeadsTo d (.ok servlets) ↔
      ComponentsWalk components servlets d := by
  induction components generalizing d servlets with
  | nil =>
      constructor
      · intro h
        rcases h with ⟨rfl, h⟩
        cases h
        exact .nil
      · rintro ⟨⟩
        exact ⟨rfl, rfl⟩
  | cons component rest ih =>
      rw [servletsOf, leadsTo_bind_ok]
      constructor
      · intro h
        rcases h with ⟨_, first, _, rfl, h₁, h₂⟩
        obtain ⟨_, others, _, rfl, h₃, rfl, h₄⟩ := leadsTo_bind_ok.1 h₂
        cases h₄
        rw [List.append_nil]
        exact .cons (leadsTo_componentServlets.1 h₁) (ih.1 h₃)
      · intro h
        rcases h with _ | ⟨first, behind⟩
        refine ⟨_, _, _, rfl, leadsTo_componentServlets.2 first, leadsTo_bind_ok.2 ?_⟩
        exact ⟨_, _, [], (List.append_nil _).symm, ih.2 behind, rfl, rfl⟩

/-- Reading the servlets of an application on a server. -/
inductive ApplicationWalk (runtime : ObjectName) (name : String) :
    List Servlet → Dialogue Outside → Prop
  | read {application : ObjectName} {listing : Reading} {components : List ObjectName}
      {servlets : List Servlet} {d₁ d₂ : Dialogue Outside}
      (application_found : Search runtime "ApplicationRuntimes" name (some application) d₁)
      (components_listed : listing.toReferences = .ok components)
      (components_read : ComponentsWalk components servlets d₂) :
      ApplicationWalk runtime name servlets
        (d₁ ++ look application "ComponentRuntimes" listing :: d₂)

theorem leadsTo_applicationServlets {runtime : ObjectName} {servlets : List Servlet} :
    (applicationServlets runtime name).run.LeadsTo d (.ok servlets) ↔
      ApplicationWalk runtime name servlets d := by
  rw [applicationServlets, leadsTo_search_bind]
  constructor
  · intro h
    rcases h with ⟨e, he, -⟩ | ⟨d₁, r, d₂, rfl, h₁, h₂⟩
    · cases he
    · cases r with
      | none => cases h₂.2
      | some application =>
          obtain ⟨_, components, _, rfl, h₃, h₄⟩ := leadsTo_bind_ok.1 h₂
          obtain ⟨listing, hlisting, rfl⟩ := leadsTo_getReferences.1 h₃
          exact .read h₁ hlisting (leadsTo_servletsOf.1 h₄)
  · intro h
    rcases h with ⟨hfound, hlisting, hread⟩
    refine .inr ⟨_, some _, _, rfl, hfound, leadsTo_bind_ok.2 ?_⟩
    exact ⟨_, _, _, rfl, leadsTo_getReferences.2 ⟨_, hlisting, rfl⟩, leadsTo_servletsOf.2 hread⟩

/-! ### Endpoints -/

theorem addressOf_eq_ok {server : ServerInstance} {host : String} {port : Nat} :
    addressOf server = .ok (host, port) ↔
      ∃ text url, server.baseUrl = some text ∧ Url.parse text = .ok url ∧
        url.host? = some host ∧ url.port? = some port := by
  unfold addressOf
  constructor
  · intro h
    split at h
    · cases h
    next text htext =>
      split at h
      · cases h
      next url hurl =>
        split at h
        · cases h
        next host' hhost =>
          split at h
          · cases h
          next port' hport =>
            cases h
            exact ⟨text, url, htext, hurl, hhost, hport⟩
  · intro h
    rcases h with ⟨text, url, htext, hurl, hhost, hport⟩
    simp only [htext, hurl, hhost, hport]
    rfl

/-- Everything that is read of a deployment that is served on a target, and the endpoint that it
shows. -/
inductive Shown (name target : String) : Endpoint → Dialogue Outside → Prop
  | read {domain deployment targetObject runtime : ObjectName} {members : List String}
      {servers : List (ObjectName × ServerInstance)} {server : ServerInstance}
      {text host : String} {url : Url} {port : Nat} {servlets : List Servlet}
      {d₁ d₂ d₃ d₄ d₅ : Dialogue Outside}
      (deployment_found : Search domain "AppDeployments" name (some deployment) d₁)
      (target_found : Search deployment "Targets" target (some targetObject) d₂)
      (members_read : Membership targetObject target members d₃)
      (servers_read : Roster servers d₄)
      (server_first : servers.find? (isRunningMember members) = some (runtime, server))
      (address : server.baseUrl = some text) (address_parsed : Url.parse text = .ok url)
      (host_told : url.host? = some host) (port_told : url.port? = some port)
      (servlets_read : ApplicationWalk runtime name servlets d₅) :
      Shown name target ⟨host, port, servlets⟩
        (look .root "DomainConfiguration" (.reference domain) :: (d₁ ++ (d₂ ++ (d₃ ++ (d₄ ++ d₅)))))

theorem members_ne_nil_of_find? {members : List String}
    {servers : List (ObjectName × ServerInstance)} {p : ObjectName × ServerInstance}
    (h : servers.find? (isRunningMember members) = some p) : members ≠ [] := by
  rintro rfl
  have hp := List.find?_some h
  simp [isRunningMember] at hp

/-- An endpoint is what a dialogue shows, and nothing else leads to one. -/
theorem leadsTo_buildEndpoint {e : Endpoint} :
    (buildEndpoint name target).run.LeadsTo d (.ok e) ↔ Shown name target e d := by
  rw [buildEndpoint, leadsTo_bind_ok]
  constructor
  · intro h
    rcases h with ⟨_, r, _, rfl, h₁, h₂⟩
    obtain ⟨domain, d₁, rfl, hdeployment⟩ := leadsTo_findDeployment.1 h₁
    cases r with
    | none => cases h₂.2
    | some deployment =>
        obtain ⟨d₂, targetObject, _, rfl, htarget, h₃⟩ := leadsTo_bind_ok.1 h₂
        obtain ⟨d₃, members, _, rfl, hmembers, h₄⟩ := leadsTo_bind_ok.1 h₃
        obtain ⟨d₄, chosen, _, rfl, hchosen, h₅⟩ := leadsTo_bind_ok.1 h₄
        cases chosen with
        | none => cases h₅.2
        | some p =>
            obtain ⟨-, servers, hservers, hfirst⟩ := leadsTo_runningMember_some.1 hchosen
            obtain ⟨_, _, _, rfl, ⟨rfl, -⟩, h₆⟩ := leadsTo_bind_ok.1 h₅
            obtain ⟨_, ⟨host, port⟩, _, rfl, ⟨rfl, haddress⟩, h₇⟩ := leadsTo_bind_ok.1 h₆
            obtain ⟨text, url, htext, hurl, hhost, hport⟩ := addressOf_eq_ok.1 haddress
            obtain ⟨d₅, servlets, _, rfl, hservlets, h₈⟩ := leadsTo_bind_ok.1 h₇
            obtain ⟨_, _, _, rfl, ⟨rfl, -⟩, rfl, h₉⟩ := leadsTo_bind_ok.1 h₈
            cases h₉
            -- a target of another kind stands for no server, but a running member was found
            rcases leadsTo_membersOf.1 hmembers with hmembers | ⟨_, _, rfl, _⟩
            · have shown := Shown.read hdeployment (leadsTo_findTarget.1 htarget) hmembers
                hservers hfirst htext hurl hhost hport (leadsTo_applicationServlets.1 hservlets)
              simpa using shown
            · exact (members_ne_nil_of_find? hfirst rfl).elim
  · intro h
    rcases h with ⟨hdeployment, htarget, hmembers, hservers, hfirst, htext, hurl, hhost, hport,
      hservlets⟩
    have haddress := addressOf_eq_ok.2 ⟨_, _, htext, hurl, hhost, hport⟩
    refine ⟨_, some _, _, rfl, leadsTo_findDeployment.2 ⟨_, _, rfl, hdeployment⟩, ?_⟩
    refine leadsTo_bind_ok.2 ⟨_, _, _, rfl, leadsTo_findTarget.2 htarget, ?_⟩
    refine leadsTo_bind_ok.2 ⟨_, _, _, rfl, leadsTo_membersOf.2 (.inl hmembers), ?_⟩
    refine leadsTo_bind_ok.2 ⟨_, some _, _, rfl, leadsTo_runningMember_some.2
      ⟨members_ne_nil_of_find? hfirst, _, hservers, hfirst⟩, ?_⟩
    refine leadsTo_bind_ok.2 ⟨[], (), _, rfl, ⟨rfl, rfl⟩, ?_⟩
    refine leadsTo_bind_ok.2 ⟨[], _, _, rfl, ⟨rfl, haddress⟩, ?_⟩
    refine leadsTo_bind_ok.2 ⟨_, _, [], (List.append_nil _).symm,
      leadsTo_applicationServlets.2 hservlets, ?_⟩
    exact leadsTo_bind_ok.2 ⟨[], (), [], rfl, ⟨rfl, rfl⟩, rfl, rfl⟩

end Resolution

namespace Submission

/-- What the deployment manager is told of a deploy. -/
abbrev deployArguments (r : DeploymentRequest) : Json := .object [
  ("applicationName", .string r.name),
  ("applicationPath", .string r.artifact),
  ("targets", .array [.string r.target])]

/-- The turn that submits a deploy: the tool ran to its end, or the deployment manager took the
request. -/
inductive Submits (c : Configuration) (r : DeploymentRequest) (store : TrustStore) :
    Turn Outside → Prop
  | tool {status : Option Int} {stdout stderr : List UInt8} {order : List Bool}
      (strategy : c.strategy = .process) :
      Submits c r store
        ⟨.runTool ((ToolCommand.build c .deploy r.name (some r.artifact) r.target).withTrustStore
          store) (c.timeouts.tool * 1000), .exited status stdout stderr order⟩
  | invoked {manager object : ObjectName} (strategy : c.strategy = .rest) :
      Submits c r store
        ⟨.call (.invoke manager "deploy" (deployArguments r)), .ok (.reference object)⟩
  | uploaded {manager object : ObjectName} (strategy : c.strategy = .rest) :
      Submits c r store
        ⟨.call (.upload manager "deploy" (deployArguments r) r.artifact), .ok (.reference object)⟩

variable {c : Configuration} {r : DeploymentRequest} {store : TrustStore}

theorem leadsTo_submitting {α : Type} {a : Activity α} {came : Except DeployError α} :
    (submitting a).run.LeadsTo d came ↔
      ∃ first, a.run.LeadsTo d first ∧ came = first.mapError asSubmission := by
  constructor
  · intro h
    obtain ⟨d₁, first, _, rfl, h₁, rfl, rfl⟩ := leadsTo_andThen.1 h
    exact ⟨first, by simpa using h₁, rfl⟩
  · intro h
    obtain ⟨first, h, rfl⟩ := h
    exact leadsTo_andThen.2 ⟨d, first, [], by simp, h, rfl, rfl⟩

theorem exited_of_outputOf_eq_ok {program : String} {timeout : Nat} {ended : ToolEnd}
    {output : ToolOutput} (h : outputOf program timeout ended = .ok output) :
    ∃ status stdout stderr order, ended = .exited status stdout stderr order := by
  cases ended with
  | exited status stdout stderr order => exact ⟨status, stdout, stderr, order, rfl⟩
  | _ => cases h

theorem leadsTo_runTool {command : ToolCommand} {timeout : Nat}
    {came : Except DeployError ToolOutput} (h : (runTool command timeout).run.LeadsTo d came) :
    ∃ ended, d = [⟨.runTool command timeout, ended⟩] ∧
      came = outputOf command.program timeout ended := by
  obtain ⟨ended, _, rfl, rfl, rfl⟩ := h
  exact ⟨ended, rfl, rfl⟩

/-- A tool that ran to its end has submitted, however it exited. -/
theorem leadsTo_throughTool {command : ToolCommand} {came : Except DeployError Unit}
    (h : (throughTool c command store).run.LeadsTo d came) :
    ∃ ended, d = [⟨.runTool (command.withTrustStore store) (c.timeouts.tool * 1000), ended⟩] ∧
      came = (outputOf command.program (c.timeouts.tool * 1000) ended).map fun _ => () := by
  rcases leadsTo_bind.1 h with ⟨e, rfl, h₁⟩ | ⟨_, output, _, rfl, h₁, h₂⟩
  · obtain ⟨ended, rfl, hended⟩ := leadsTo_runTool h₁
    exact ⟨ended, rfl, congrArg (Except.map fun _ => ()) hended⟩
  · obtain ⟨ended, rfl, hended⟩ := leadsTo_runTool h₁
    refine ⟨ended, ?_, ?_⟩
    · split at h₂ <;> obtain ⟨rfl, -⟩ := h₂ <;> rfl
    · split at h₂ <;> obtain ⟨-, rfl⟩ := h₂ <;>
        exact congrArg (Except.map fun _ => ()) hended

/-- Asking for the deployment manager, with what came back. -/
def managerTurns (domain manager : ObjectName) : Dialogue Outside :=
  [look .root "DomainRuntime" (.reference domain),
    look domain "DeploymentManager" (.reference manager)]

theorem leadsTo_deploymentManager {manager : ObjectName} :
    deploymentManager.run.LeadsTo d (.ok manager) ↔
      ∃ domain, d = managerTurns domain manager := by
  rw [deploymentManager, leadsTo_bind_ok]
  constructor
  · intro h
    obtain ⟨_, domain, _, rfl, h₁, h₂⟩ := h
    obtain rfl := leadsTo_getReference.1 h₁
    obtain rfl := leadsTo_getReference.1 h₂
    exact ⟨domain, rfl⟩
  · intro h
    obtain ⟨domain, rfl⟩ := h
    exact ⟨[_], domain, [_], rfl, leadsTo_getReference.2 rfl, leadsTo_getReference.2 rfl⟩

/-- What the deployment manager is asked for when something is to be deployed. -/
inductive DeployCall (r : DeploymentRequest) (manager : ObjectName) : Call → Prop
  | invoked : DeployCall r manager (.invoke manager "deploy" (deployArguments r))
  | uploaded : DeployCall r manager (.upload manager "deploy" (deployArguments r) r.artifact)

/-- What is waited for is what a call was answered with. -/
structure Hands (manager : ObjectName) (application : String) (reply : Except DeployError Reading)
    (handle : ProgressHandle) : Prop where
  answered : reply = .ok (.reference handle.object)
  manager : handle.manager = manager
  application : handle.application = application

/-- A call that should answer with a reference; nothing is asked behind an answer of another
kind. -/
theorem leadsTo_askReference {α : Type} {call : Call} {k : Option ObjectName → Activity α}
    {came : Except DeployError α}
    (h : (do k (← ofResult (← Activity.call call).toReference)).run.LeadsTo d came) :
    ∃ reply rest, d = ⟨.call call, reply⟩ :: rest ∧
      (rest = [] ∧ (∃ e, came = .error e) ∨
        ∃ reading found, reply = .ok reading ∧ reading.toReference = .ok found ∧
          (k found).run.LeadsTo rest came) := by
  rcases leadsTo_bind.1 h with ⟨e, rfl, h₁⟩ | ⟨_, reading, _, rfl, h₁, h₂⟩
  · obtain rfl := leadsTo_call.1 h₁
    exact ⟨_, [], rfl, .inl ⟨rfl, e, rfl⟩⟩
  · obtain rfl := leadsTo_call.1 h₁
    rcases leadsTo_bind.1 h₂ with ⟨e, rfl, rfl, -⟩ | ⟨_, found, rest, rfl, ⟨rfl, hfound⟩, h₃⟩
    · exact ⟨_, [], rfl, .inl ⟨rfl, e, rfl⟩⟩
    · exact ⟨_, rest, rfl, .inr ⟨reading, found, rfl, hfound, h₃⟩⟩

/-- Of the answer to a deploy only a reference is something to wait for. -/
theorem hands_of_leadsTo_deployCall {manager : ObjectName} {call : Call}
    {came : Except DeployError ProgressHandle} (h : (do
      match ← ofResult (← Activity.call call).toReference with
      | some object => return (⟨object, manager, r.name⟩ : ProgressHandle)
      | none => throw (.submission (.noProgressObject r.name)) : Activity _).run.LeadsTo d came) :
    ∃ reply, d = [⟨.call call, reply⟩] ∧
      ∀ handle, came = .ok handle → Hands manager r.name reply handle := by
  obtain ⟨reply, rest, rfl, ⟨rfl, e, rfl⟩ | ⟨reading, found, rfl, hfound, h₁⟩⟩ :=
    leadsTo_askReference h
  · exact ⟨reply, rfl, by simp⟩
  · cases found with
    | none =>
        obtain ⟨rfl, rfl⟩ := h₁
        exact ⟨_, rfl, by simp⟩
    | some object =>
        obtain ⟨rfl, rfl⟩ := h₁
        refine ⟨_, rfl, fun handle hhandle => ?_⟩
        cases hhandle
        rw [Reading.toReference_eq_some.1 hfound]
        exact ⟨rfl, rfl, rfl⟩

/-- The deployment manager is asked once, unless it could not be found. -/
theorem leadsTo_deployByManager {came : Except DeployError ProgressHandle}
    (h : (deployByManager c r).run.LeadsTo d came) :
    ((∃ e, came = .error e) ∧ ∀ t ∈ d, t.1.IsStateless) ∨
      ∃ domain manager call reply, d = managerTurns domain manager ++ [⟨.call call, reply⟩] ∧
        DeployCall r manager call ∧
          ∀ handle, came = .ok handle → Hands manager r.name reply handle := by
  obtain ⟨first, h₁, rfl⟩ := leadsTo_submitting.1 h
  rcases leadsTo_bind.1 h₁ with ⟨e, rfl, h₂⟩ | ⟨_, manager, _, rfl, h₂, h₃⟩
  · exact .inl ⟨⟨_, rfl⟩, asks_deploymentManager.of_leadsTo h₂⟩
  · obtain ⟨domain, rfl⟩ := leadsTo_deploymentManager.1 h₂
    refine .inr ⟨domain, manager, ?_⟩
    simp only [mapError_eq_ok]
    simp only at h₃
    split at h₃
    · obtain ⟨reply, rfl, hreply⟩ := hands_of_leadsTo_deployCall (leadsTo_log_bind.1 h₃)
      exact ⟨_, reply, rfl, .uploaded, hreply⟩
    · obtain ⟨reply, rfl, hreply⟩ := hands_of_leadsTo_deployCall h₃
      exact ⟨_, reply, rfl, .invoked, hreply⟩

/-- A deploy that has been submitted was submitted by the last turn. -/
theorem submits_of_leadsTo {handle : Option ProgressHandle}
    (h : (deploy c r store).run.LeadsTo d (.ok handle)) :
    ∃ before t, d = before ++ [t] ∧ Submits c r store t := by
  have h₁ := leadsTo_log_bind.1 h
  split at h₁
  next strategy =>
    obtain ⟨came, h₂, hcame⟩ := leadsTo_bind_pure.1 h₁
    obtain ⟨u, rfl, -⟩ := map_eq_ok.1 hcame
    obtain ⟨ended, rfl, hended⟩ := leadsTo_throughTool h₂
    obtain ⟨output, houtput, -⟩ := map_eq_ok.1 hended.symm
    obtain ⟨status, stdout, stderr, order, rfl⟩ := exited_of_outputOf_eq_ok houtput
    exact ⟨[], _, rfl, .tool strategy⟩
  next strategy =>
    obtain ⟨came, h₂, hcame⟩ := leadsTo_bind_pure.1 h₁
    obtain ⟨handle, rfl, -⟩ := map_eq_ok.1 hcame
    rcases leadsTo_deployByManager h₂ with ⟨⟨e, he⟩, -⟩ | ⟨domain, manager, call, reply, rfl,
      requested, handed⟩
    · cases he
    · obtain rfl := (handed handle rfl).answered
      refine ⟨_, ⟨.call call, .ok (.reference handle.object)⟩, rfl, ?_⟩
      cases requested with
      | invoked => exact .invoked strategy
      | uploaded => exact .uploaded strategy

end Submission

namespace Deployer

open Resolution Submission

theorem shown_of_leadsTo_deployBody {D : Deployer} {r : DeploymentRequest} {store : TrustStore}
    {e : Endpoint} (h : (D.deployBody r store).run.LeadsTo d (.ok e)) :
    ∃ before t during after, d = before ++ t :: (during ++ after) ∧
      Submits D.configuration r store t ∧ Shown r.name r.target e after := by
  obtain ⟨_, handle, _, rfl, h₁, h₂⟩ := leadsTo_bind_ok.1 h
  obtain ⟨before, t, rfl, ht⟩ := submits_of_leadsTo h₁
  obtain ⟨during, _, after, rfl, -, h₃⟩ := leadsTo_bind_ok.1 h₂
  exact ⟨before, t, during, after, by simp, ht, leadsTo_buildEndpoint.1 h₃⟩

/-- Whatever a deploy is answered, if it succeeds then the domain was read behind the submission and
showed the endpoint, and that was the last before the channel was closed. -/
theorem shown_of_deploy_eq_ok (D : Deployer) (w : Responder Outside σ) (r : DeploymentRequest)
    (g : TrustGuard) (s : σ) (e : Endpoint) (h : ((D.deploy r g).run w s).value.1 = .ok e) :
    ∃ before submission during after closed,
      ((D.deploy r g).run w s).dialogue = ⟨.connect, .ok ()⟩ ::
        (before ++ submission :: (during ++ after) ++ [⟨.disconnect, closed⟩]) ∧
      Submits D.configuration r (g.enter D.configuration.trust).2.current submission ∧
        Shown r.name r.target e after := by
  have led : (D.perform (.deploy r) g).LeadsTo ((D.deploy r g).run w s).dialogue
      (.ok e, ((D.deploy r g).run w s).value.2) := by
    rw [← h]
    exact leadsTo_run w (D.deploy r g) s
  generalize ((D.deploy r g).run w s).dialogue = dialogue at led ⊢
  generalize ((D.deploy r g).run w s).value.2 = g' at led
  have session := session_of_perform led
  generalize hresult : (Except.ok e : Except DeployError Endpoint) = result at session
  cases session with
  | barred entered => cases hresult
  | refused entered => cases hresult
  | @held g₁ during came closed entered body_leadsTo =>
      cases came with
      | error cause => cases hresult
      | ok e' =>
          cases hresult
          obtain ⟨before, t, during, after, rfl, ht, hshown⟩ :=
            shown_of_leadsTo_deployBody body_leadsTo
          rw [entered]
          exact ⟨before, t, during, after, closed, rfl, ht, hshown⟩

/-- A domain with one running server that serves a deployment. -/
def serving : RehearsedDomain where
  attributes := [
    ("#DomainRuntime", [.ok (.reference ⟨"domainRuntime"⟩)]),
    ("domainRuntime#DeploymentManager", [.ok (.reference ⟨"manager"⟩)]),
    ("progress#State", [.ok (.text "STATE_RUNNING"), .ok (.text "STATE_COMPLETED")]),
    ("#DomainConfiguration", [.ok (.reference ⟨"domainConfig"⟩)]),
    ("domainConfig#AppDeployments", [.ok (.references [⟨"foo"⟩])]),
    ("foo#Name", [.ok (.text "foo")]),
    ("foo#Targets", [.ok (.reference ⟨"target"⟩)]),
    ("target#Name", [.ok (.text "AdminServer")]),
    ("target#Type", [.ok (.text "Server")]),
    ("#ServerRuntimes", [.ok (.reference ⟨"server"⟩)]),
    ("server#Name", [.ok (.text "AdminServer")]),
    ("server#State", [.ok (.text "RUNNING")]),
    ("server#ApplicationRuntimes", [.ok (.reference ⟨"application"⟩)]),
    ("application#Name", [.ok (.text "foo")]),
    ("application#ComponentRuntimes", [.ok (.reference ⟨"component"⟩)]),
    ("component#Type", [.ok (.text "WebAppComponentRuntime")]),
    ("component#Servlets", [.ok (.reference ⟨"servlet"⟩)]),
    ("servlet#ServletName", [.ok (.text "Main")]),
    ("servlet#ContextPath", [.ok (.text "/")])]
  operations := [
    ("manager#deploy", [.ok (.reference ⟨"progress"⟩)]),
    ("manager#removeDeploymentProgressObject", [.ok .null]),
    ("server#getURL", [.ok (.text "http://10.0.0.5:7001")])]

/-- Such a deploy, with its endpoint. -/
theorem shown_of_deploy_eq_ok_serving :
    let r : DeploymentRequest := ⟨"foo", "foo.war", "AdminServer"⟩
    let e : Endpoint := ⟨"10.0.0.5", 7001, [⟨"Main", "/"⟩]⟩
    let played := (sample.deploy r (.ofPublished .nowhere)).run Rehearsal.outside
      { domain := serving }
    played.value.1 = .ok e ∧ ∃ before submission during after closed,
      played.dialogue = ⟨.connect, .ok ()⟩ ::
        (before ++ submission :: (during ++ after) ++ [⟨.disconnect, closed⟩]) ∧
      Submits sample.configuration r
        ((TrustGuard.ofPublished .nowhere).enter sample.configuration.trust).2.current submission ∧
        Shown r.name r.target e after := by
  intro r e played
  have served : played.value.1.toOption = some e := by decide +kernel
  have h := eq_ok_of_toOption served
  exact ⟨h, shown_of_deploy_eq_ok sample _ r _ _ e h⟩

end Deployer

end DomainDeploy
