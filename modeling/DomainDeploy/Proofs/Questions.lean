import DomainDeploy.Deployer
import DomainDeploy.Proofs.Dialogue

/-!
# What the parts of an operation ask

Reading the domain asks for attributes and for the addresses of servers, and nothing else
(`IsRead`); states and addresses are asked for in one place only, where the servers of the domain
are read, and everything else asks for other attributes (`IsStateless`). Submitting and waiting may
call anything, run the tool and sleep, but they neither open a channel nor close it (`IsInner`); so
the channel belongs to the session alone.
-/

namespace DomainDeploy

open Program Activity

namespace Outside.Question

/-- A question that only reads: an attribute, or the address of a server. -/
def IsRead : Outside.Question → Prop
  | .call (.get _ _) => True
  | .call (.invoke _ operation _) => operation = "getURL"
  | _ => False

/-- A question for an attribute other than a state. -/
@[simp] def IsStateless : Outside.Question → Prop
  | .call (.get _ name) => name ≠ "State"
  | _ => False

/-- A question for which a channel is open already and stays open. -/
def IsInner : Outside.Question → Prop
  | .call _ | .runTool .. | .sleep _ => True
  | .connect | .disconnect => False

theorem IsStateless.isRead : ∀ {q : Outside.Question}, q.IsStateless → q.IsRead
  | .call (.get _ _), _ => trivial

theorem IsRead.isInner : ∀ {q : Outside.Question}, q.IsRead → q.IsInner
  | .call _, _ => trivial

end Outside.Question

open Outside.Question

namespace Program

theorem Asks.isRead {α : Type} {p : Program Outside Note α} (h : p.Asks IsStateless) :
    p.Asks IsRead := h.mono fun _ => IsStateless.isRead

theorem Asks.isInner {α : Type} {p : Program Outside Note α} (h : p.Asks IsRead) :
    p.Asks IsInner := h.mono fun _ => IsRead.isInner

end Program

/-! ### Steps that ask nothing -/

theorem asks_ofResult {P : Outside.Question → Prop} {α : Type} (r : Except DeployError α) :
    (ofResult r).run.Asks P := trivial

theorem asks_note {P : Outside.Question → Prop} (level : LogLevel) (text : String) :
    (note level text).run.Asks P := trivial

/-! ### Reading attributes -/

section

variable {P : Outside.Question → Prop} {object : ObjectName} {name : String}

theorem asks_getText (h : P (.call (.get object name))) : (getText object name).run.Asks P :=
  Asks.bind (asks_request (S := Outside) h) fun _ => asks_ofResult _

theorem asks_getReferences (h : P (.call (.get object name))) :
    (getReferences object name).run.Asks P :=
  Asks.bind (asks_request (S := Outside) h) fun _ => asks_ofResult _

theorem asks_getReference (h : P (.call (.get object name))) :
    (getReference object name).run.Asks P := by
  refine Asks.bind (asks_request (S := Outside) h) fun reading =>
    (asks_ofResult _).bind fun found => ?_
  cases found <;> trivial

end

theorem asks_firstNamed (name : String) (objects : List ObjectName) :
    (firstNamed name objects).run.Asks IsStateless := by
  induction objects with
  | nil => trivial
  | cons object rest ih =>
      refine (asks_getText (by simp)).bind fun read => ?_
      split
      · trivial
      · exact ih

/-! ### Reading the domain -/

namespace Resolution

theorem asks_findDeployment (name : String) : (findDeployment name).run.Asks IsStateless :=
  (asks_getReference (by simp)).bind fun _ =>
    (asks_getReferences (by simp)).bind fun _ => asks_firstNamed _ _

theorem asks_confirmAbsent (name : String) : (confirmAbsent name).run.Asks IsStateless :=
  (asks_findDeployment name).bind fun _ => trivial

theorem asks_findTarget (deployment : ObjectName) (name target : String) :
    (findTarget deployment name target).run.Asks IsStateless := by
  refine (asks_getReferences (by simp)).bind fun _ => (asks_firstNamed _ _).bind fun found => ?_
  cases found <;> trivial

theorem asks_namesOf (objects : List ObjectName) : (namesOf objects).run.Asks IsStateless := by
  induction objects with
  | nil => trivial
  | cons object rest ih => exact (asks_getText (by simp)).bind fun _ => ih.bind fun _ => trivial

theorem asks_clusterMembers (cluster : ObjectName) :
    (clusterMembers cluster).run.Asks IsStateless :=
  (asks_getReferences (by simp)).bind fun _ => asks_namesOf _

theorem asks_askUrl (runtime : ObjectName) : (askUrl runtime).run.Asks IsRead :=
  Asks.bind (asks_request (S := Outside) rfl) fun _ => trivial

theorem asks_readServer (runtime : ObjectName) : (readServer runtime).run.Asks IsRead := by
  refine (asks_getText trivial).bind fun name => (asks_getText trivial).bind fun state => ?_
  split
  · exact (asks_askUrl runtime).bind fun _ => trivial
  · trivial

theorem asks_readServers (runtimes : List ObjectName) :
    (readServers runtimes).run.Asks IsRead := by
  induction runtimes with
  | nil => trivial
  | cons runtime rest ih => exact (asks_readServer _).bind fun _ => ih.bind fun _ => trivial

theorem asks_serverRuntimes : serverRuntimes.run.Asks IsRead :=
  (asks_getReferences trivial).bind fun _ => asks_readServers _

theorem asks_listServers : listServers.run.Asks IsRead :=
  asks_serverRuntimes.bind fun _ => trivial

theorem asks_runningMember (members : List String) :
    (runningMember members).run.Asks IsRead := by
  unfold runningMember
  split
  · trivial
  · exact asks_serverRuntimes.bind fun _ => trivial

theorem asks_readServlets (servlets : List ObjectName) :
    (readServlets servlets).run.Asks IsStateless := by
  induction servlets with
  | nil => trivial
  | cons servlet rest ih =>
      exact (asks_getText (by simp)).bind fun _ => (asks_getText (by simp)).bind fun _ =>
        ih.bind fun _ => trivial

theorem asks_componentServlets (component : ObjectName) :
    (componentServlets component).run.Asks IsStateless := by
  refine (asks_getText (by simp)).bind fun type => ?_
  split
  · exact (asks_getReferences (by simp)).bind fun _ => asks_readServlets _
  · trivial

theorem asks_servletsOf (components : List ObjectName) :
    (servletsOf components).run.Asks IsStateless := by
  induction components with
  | nil => trivial
  | cons component rest ih =>
      exact (asks_componentServlets _).bind fun _ => ih.bind fun _ => trivial

theorem asks_applicationServlets (runtime : ObjectName) (name : String) :
    (applicationServlets runtime name).run.Asks IsStateless := by
  refine (asks_getReferences (by simp)).bind fun _ => (asks_firstNamed _ _).bind fun found => ?_
  cases found with
  | none => trivial
  | some application =>
      exact (asks_getReferences (by simp)).bind fun _ => asks_servletsOf _

theorem asks_membersOf (targetObject : ObjectName) (target : String) :
    (membersOf targetObject target).run.Asks IsStateless := by
  refine (asks_getText (by simp)).bind fun type => ?_
  split
  · trivial
  · exact asks_clusterMembers targetObject
  · trivial

theorem asks_buildEndpoint (name target : String) :
    (buildEndpoint name target).run.Asks IsRead := by
  refine (asks_findDeployment name).isRead.bind fun found => ?_
  cases found with
  | none => trivial
  | some deployment =>
      refine (asks_findTarget _ _ _).isRead.bind fun targetObject =>
        (asks_membersOf _ _).isRead.bind fun members =>
          (asks_runningMember members).bind fun chosen => ?_
      cases chosen with
      | none => trivial
      | some server =>
          exact (asks_note _ _).bind fun _ => (asks_ofResult _).bind fun address =>
            (asks_applicationServlets _ _).isRead.bind fun _ => trivial

theorem asks_isClusterRunning (servers : List ServerInstance) (target : String)
    (clusters : List ObjectName) :
    (isClusterRunning servers target clusters).run.Asks IsStateless := by
  refine (asks_firstNamed _ _).bind fun found => ?_
  cases found with
  | none => trivial
  | some cluster => exact (asks_clusterMembers cluster).bind fun _ => trivial

theorem asks_isTargetRunning (target : String) : (isTargetRunning target).run.Asks IsRead := by
  refine asks_listServers.bind fun servers => ?_
  split
  · trivial
  · exact (asks_getReference trivial).bind fun _ =>
      (asks_getReferences trivial).bind fun _ => (asks_isClusterRunning _ _ _).isRead

end Resolution

/-! ### Submitting and waiting -/

theorem asks_call (c : Call) : (Activity.call c).run.Asks IsInner :=
  asks_request (S := Outside) trivial

namespace Submission

theorem asks_submitting {α : Type} {a : Activity α} (h : a.run.Asks IsInner) :
    (submitting a).run.Asks IsInner := h.andThen fun _ => trivial

theorem asks_throughTool (c : Configuration) (command : ToolCommand) (store : TrustStore) :
    (throughTool c command store).run.Asks IsInner := by
  refine Asks.bind ?_ fun output => ?_
  · exact (asks_note _ _).bind fun _ => ⟨trivial, fun _ => trivial⟩
  · split <;> trivial

theorem asks_deploymentManager : deploymentManager.run.Asks IsStateless :=
  (asks_getReference (by simp)).bind fun _ => asks_getReference (by simp)

/-- What is made of the answer to a deploy asks nothing. -/
theorem asks_takeProgress (manager : ObjectName) (name : String) (reply : Reading) : (do
    match ← ofResult reply.toReference with
    | some object => return (⟨object, manager, name⟩ : ProgressHandle)
    | none => throw (.submission (.noProgressObject name)) : Activity _).run.Asks IsInner := by
  refine (asks_ofResult _).bind fun found => ?_
  cases found <;> trivial

theorem asks_deployByManager (c : Configuration) (r : DeploymentRequest) :
    (deployByManager c r).run.Asks IsInner := by
  refine asks_submitting (asks_deploymentManager.isRead.isInner.bind fun manager => ?_)
  simp only
  split
  · exact (asks_note _ _).bind fun _ => (asks_call _).bind (asks_takeProgress manager r.name)
  · exact (asks_call _).bind (asks_takeProgress manager r.name)

theorem asks_undeployByManager (name target : String) :
    (undeployByManager name target).run.Asks IsInner := by
  refine asks_submitting (asks_deploymentManager.isRead.isInner.bind fun manager =>
    (asks_getReferences trivial).bind fun runtimes =>
      (asks_firstNamed _ _).isRead.isInner.bind fun found => ?_)
  cases found with
  | none => trivial
  | some runtime => exact (asks_call _).bind fun _ => (asks_ofResult _).bind fun _ => trivial

theorem asks_deploy (c : Configuration) (r : DeploymentRequest) (store : TrustStore) :
    (deploy c r store).run.Asks IsInner := by
  refine (asks_note _ _).bind fun _ => ?_
  split
  · exact (asks_throughTool _ _ _).bind fun _ => trivial
  · exact (asks_deployByManager c r).bind fun _ => trivial

theorem asks_undeploy (c : Configuration) (name target : String) (store : TrustStore) :
    (undeploy c name target store).run.Asks IsInner := by
  refine (asks_note _ _).bind fun _ => ?_
  split
  · exact (asks_throughTool _ _ _).bind fun _ => trivial
  · exact asks_undeployByManager name target

end Submission

namespace ProgressHandle

/-- A question that sampling asks: the state, or a sleep. -/
def IsSampling (h : ProgressHandle) : Outside.Question → Prop
  | .sleep _ => True
  | .call (.get object name) => object = h.object ∧ name = "State"
  | _ => False

theorem IsSampling.isInner {h : ProgressHandle} :
    ∀ {q : Outside.Question}, h.IsSampling q → q.IsInner
  | .sleep _, _ => trivial
  | .call (.get _ _), _ => trivial

theorem asks_look (h : ProgressHandle) (waited : Nat) : (h.look waited).run.Asks h.IsSampling := by
  refine Asks.bind (asks_request (S := Outside) ⟨rfl, rfl⟩) fun reading => ?_
  split <;> trivial

theorem asks_sampleFrom (h : ProgressHandle) (o : PollOptions) (waited left : Nat) :
    (h.sampleFrom o waited left).run.Asks h.IsSampling := by
  induction left generalizing waited with
  | zero => exact (h.asks_look waited).bind fun _ => trivial
  | succ left ih =>
      refine (h.asks_look waited).bind fun state => ?_
      cases state with
      | some state => trivial
      | none =>
          dsimp only
          split
          · trivial
          · exact Asks.bind ⟨trivial, fun _ => trivial⟩ fun _ => ih _

theorem asks_failedTargets (h : ProgressHandle) : h.failedTargets.Asks IsInner := by
  refine (asks_call _).andThen fun reply => ?_
  cases reply <;> trivial

theorem asks_failure (h : ProgressHandle) : h.failure.Asks IsInner := by
  refine h.asks_failedTargets.andThen fun targets => ?_
  cases targets with
  | nil => trivial
  | cons target rest => exact (asks_call _).andThen fun _ => trivial

theorem asks_verdict (h : ProgressHandle) (outcome : Except DeployError TerminalState) :
    (h.verdict outcome).Asks IsInner := by
  match outcome with
  | .ok .failed => exact h.asks_failure.andThen fun _ => trivial
  | .ok .completed | .ok .unknown => trivial
  | .error e => trivial

theorem asks_release (h : ProgressHandle) : h.release.Asks IsInner := by
  refine (asks_call _).andThen fun reply => ?_
  cases reply <;> trivial

theorem asks_poll (h : ProgressHandle) (o : PollOptions) : (h.poll o).run.Asks IsInner :=
  ((h.asks_sampleFrom _ _ _).mono fun _ => IsSampling.isInner).andThen fun outcome =>
    (h.asks_verdict outcome).andThen fun _ => h.asks_release.andThen fun _ => trivial

end ProgressHandle

/-! ### The bodies of operations -/

namespace Deployer

theorem asks_awaitIfAny (d : Deployer) (handle : Option ProgressHandle) :
    (d.awaitIfAny handle).run.Asks IsInner := by
  cases handle with
  | none => trivial
  | some h =>
      refine (h.asks_poll d.pollOptions).bind fun state => ?_
      split <;> trivial

theorem asks_deployBody (d : Deployer) (r : DeploymentRequest) (store : TrustStore) :
    (d.deployBody r store).run.Asks IsInner :=
  (Submission.asks_deploy _ r store).bind fun handle => (d.asks_awaitIfAny handle).bind fun _ =>
    (Resolution.asks_buildEndpoint _ _).isInner

theorem asks_undeployBody (d : Deployer) (name target : String) (store : TrustStore) :
    (d.undeployBody name target store).run.Asks IsInner := by
  refine (Submission.asks_undeploy _ name target store).bind fun handle =>
    (d.asks_awaitIfAny handle).bind fun _ =>
      (Resolution.asks_confirmAbsent name).isRead.isInner.bind fun absent => ?_
  split <;> trivial

end Deployer

end DomainDeploy
