import DomainDeploy.Deployment.Request
import DomainDeploy.Progress

/-!
# Submitting operations

An operation is submitted in one of two ways.  The deployment tool is run as a child process: how it
exits is only advice, since the domain is read afterwards anyway.  Or the deployment manager of the
domain is called, which answers with a progress object to wait for.  Whatever goes wrong in between
counts as a failed submission, unless it was cancelled.
-/

namespace DomainDeploy.Submission

open Activity

/-- The error of a submission: only a cancelled one keeps its own. -/
def asSubmission : DeployError → DeployError
  | .cancelled => .cancelled
  | .submission fault => .submission fault
  | e => .submission (.stated e.message)

/-- An action whose errors count as a failed submission. -/
def submitting {α : Type} (a : Activity α) : Activity α :=
  ExceptT.mk do return (← a.run).mapError asSubmission

/-- What is kept of a run of the tool. -/
def outputOf (program : String) (timeout : Nat) : ToolEnd → Except DeployError ToolOutput
  | .exited status stdout stderr order => .ok (.collect status stdout stderr order)
  | .notStarted cause => .error (.submission (.toolNotStarted program cause))
  | .lost cause => .error (.submission (.toolLost cause))
  | .timedOut => .error (.submission (.toolTimedOut (timeout / 1000)))
  | .cancelled => .error .cancelled

/-- Runs the tool, for so many milliseconds at most. -/
def runTool (command : ToolCommand) (timeout : Nat) : Activity ToolOutput := do
  note .debug s!"Executing {command.masked}"
  ExceptT.mk (Program.ask (S := Outside) (.runTool command timeout) fun ended =>
    pure (outputOf command.program timeout ended))

/-- An exit status as it is shown in the log. -/
def shownStatus : Option Int → String
  | some status => s!"Some({status})"
  | none => "None"

/-- Runs the tool and takes its exit for advice. -/
def throughTool (c : Configuration) (command : ToolCommand) (store : TrustStore) :
    Activity Unit := do
  let output ← runTool (command.withTrustStore store) (c.timeouts.tool * 1000)
  if output.success then note .debug "weblogic.Deployer finished"
  else
    note .warn (s!"weblogic.Deployer exited with {shownStatus output.status}, the runtime state " ++
      s!"decides the outcome. Output:\n{output.text}")

/-- The deployment manager of the domain. -/
def deploymentManager : Activity ObjectName := do
  getReference (← getReference .root "DomainRuntime") "DeploymentManager"

/-- Asks the deployment manager for a deploy. -/
def deployByManager (c : Configuration) (r : DeploymentRequest) : Activity ProgressHandle :=
  submitting do
    let manager ← deploymentManager
    let arguments := Json.object [
      ("applicationName", .string r.name),
      ("applicationPath", .string r.artifact),
      ("targets", .array [.string r.target])]
    let reply ←
      if c.remoteMachine then do
        note .info s!"Uploading {r.artifact} to the admin server"
        call (.upload manager "deploy" arguments r.artifact)
      else call (.invoke manager "deploy" arguments)
    match ← ofResult reply.toReference with
    | some object => return ⟨object, manager, r.name⟩
    | none => throw (.submission (.noProgressObject r.name))

/-- Asks the deployment manager for an undeploy; without a runtime of that name nothing is asked. -/
def undeployByManager (name target : String) : Activity (Option ProgressHandle) :=
  submitting do
    let manager ← deploymentManager
    match ← firstNamed name (← getReferences manager "AppDeploymentRuntimes") with
    | none =>
      note .info s!"No application runtime named {name}, nothing to undeploy"
      return none
    | some runtime =>
      let arguments := Json.object [("targets", .array [.string target])]
      let reply ← call (.invoke runtime "undeploy" arguments)
      return (← ofResult reply.toReference).map (⟨·, manager, name⟩)

/-- Submits a deploy; only the deployment manager gives something to wait for. -/
def deploy (c : Configuration) (r : DeploymentRequest) (store : TrustStore) :
    Activity (Option ProgressHandle) := do
  note .info s!"Submitting deploy of {r.name} to {r.target}"
  match c.strategy with
  | .process =>
    throughTool c (ToolCommand.build c .deploy r.name (some r.artifact) r.target) store
    return none
  | .rest => return some (← deployByManager c r)

/-- Submits an undeploy. -/
def undeploy (c : Configuration) (name target : String) (store : TrustStore) :
    Activity (Option ProgressHandle) := do
  note .info s!"Submitting undeploy of {name} from {target}"
  match c.strategy with
  | .process =>
    throughTool c (ToolCommand.build c .undeploy name none target) store
    return none
  | .rest => undeployByManager name target

end DomainDeploy.Submission
