import DomainDeploy.Resolution
import DomainDeploy.Submission
import DomainDeploy.Trust.Guard

/-!
# Operations on a domain

Every operation runs in a session: the trust store is published, the channel is opened, the body of
the operation runs, the channel is closed, and what was published before is published again.  The
last two happen however the body ends; when they fail, their errors are attached to the error of the
body and otherwise only go to the log.

An operation takes the trust guard and gives the guard that comes after it.
-/

namespace DomainDeploy

/-- A configuration with the options for waiting. -/
structure Deployer where
  configuration : Configuration
  pollOptions : PollOptions

namespace Deployer

/-- Waits as long as the configuration says. -/
def ofConfiguration (c : Configuration) : Deployer :=
  ⟨c, { maxWait := c.timeouts.deploy * oneSecond }⟩

variable {α : Type}

/-- What an operation comes to: a value or an error, and the guard after it. -/
abbrev Operation (α : Type) := TrustGuard → Program Outside Note (Except DeployError α × TrustGuard)

/-- The error of a result, if it is one. -/
def errorOf {β : Type} : Except DeployError β → List DeployError
  | .ok _ => []
  | .error e => [e]

/-- Notes each error of a cleanup. -/
def noteCleanup : List DeployError → Program Outside Note Unit
  | [] => pure ()
  | e :: rest => do
    Program.say ⟨.warn, s!"Cleanup failed: {e.message}"⟩
    noteCleanup rest

/-- Closes the channel and puts the trust store back behind a body that came to `result`. -/
def finish (result : Except DeployError α) (g : TrustGuard) :
    Program Outside Note (Except DeployError α × TrustGuard) := do
  let closed ← Program.request (S := Outside) .disconnect
  let (reverted, g) := g.revert
  let cleanup := errorOf closed ++ errorOf reverted
  noteCleanup cleanup
  return (result.mapError (·.attach cleanup), g)

/-- Puts the trust store back when no channel could be opened. -/
def abandon (e : DeployError) (g : TrustGuard) :
    Program Outside Note (Except DeployError α × TrustGuard) :=
  match g.revert with
  | (.ok (), g) => return (.error e, g)
  | (.error cleanup, g) => do
    Program.say ⟨.warn, cleanup.message⟩
    return (.error (e.attach [cleanup]), g)

/-- Runs a body in a session; the body is told which trust store is published. -/
def inSession (d : Deployer) (body : TrustStore → Activity α) : Operation α := fun g =>
  match g.enter d.configuration.trust with
  | (.error e, g) => return (.error e, g)
  | (.ok (), g) => do
    match ← Program.request (S := Outside) .connect with
    | .error e => abandon e g
    | .ok () => finish (← (body g.current).run) g

/-- Waits for an operation that has been submitted. -/
def await (d : Deployer) (h : ProgressHandle) : Activity Unit := do
  if (← h.poll d.pollOptions) == .unknown then
    Activity.note .warn (s!"{h.application} did not report a terminal state within " ++
      s!"{Text.duration d.pollOptions.maxWait}, checking the runtime")

/-- Waits for an operation if there is something to wait for. -/
def awaitIfAny (d : Deployer) : Option ProgressHandle → Activity Unit
  | some h => d.await h
  | none => pure ()

/-- Submits a deploy, waits, and reads where the deployment is served. -/
def deployBody (d : Deployer) (r : DeploymentRequest) (store : TrustStore) : Activity Endpoint := do
  d.awaitIfAny (← Submission.deploy d.configuration r store)
  Resolution.buildEndpoint r.name r.target

/-- Submits an undeploy, waits, and makes sure that nothing is left. -/
def undeployBody (d : Deployer) (name target : String) (store : TrustStore) : Activity Unit := do
  d.awaitIfAny (← Submission.undeploy d.configuration name target store)
  if ← Resolution.confirmAbsent name then
    Activity.note .info s!"{name} is no longer deployed"
  else throw (.stillDeployed name)

/-- Deploys an artifact and tells where it is served. -/
def deploy (d : Deployer) (r : DeploymentRequest) : Operation Endpoint := fun g => do
  Program.say ⟨.info, s!"Deploying {r.name} ({r.artifact}) to {r.target}"⟩
  d.inSession (d.deployBody r) g

/-- Undeploys by name; what is not deployed is undeployed already. -/
def undeploy (d : Deployer) (name target : String) : Operation Unit := fun g => do
  Program.say ⟨.info, s!"Undeploying {name} from {target}"⟩
  d.inSession (d.undeployBody name target) g

/-- The servers of the domain. -/
def status (d : Deployer) : Operation (List ServerInstance) :=
  d.inSession fun _ => Resolution.listServers

/-- Whether a server or a member of a cluster runs. -/
def isTargetRunning (d : Deployer) (target : String) : Operation Bool :=
  d.inSession fun _ => Resolution.isTargetRunning target

end Deployer

end DomainDeploy
