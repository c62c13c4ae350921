import DomainDeploy.Fault.Configuration
import DomainDeploy.Fault.Management
import DomainDeploy.FileSystem.Basic
import DomainDeploy.Json.Fault

/-!
# Errors

`DeployError` says what ended an operation.  Cleaning up behind an error may fail too; such errors
are attached to the one that ended the operation, which stays the primary one: `attach` changes
neither `primary` nor `phase` nor `message`, and attaching twice is attaching the lists one after
the other.
-/

namespace DomainDeploy

/-- What ended an operation. -/
inductive DeployError where
  | file (fault : FileFault)
  | json (fault : Json.Fault)
  | transport (fault : TransportFault)
  | configuration (fault : ConfigurationFault)
  | connect (fault : ConnectFault)
  | submission (fault : SubmissionFault)
  /-- The domain reported that the operation failed on `target`. -/
  | deploymentFailed (target detail : String)
  | deploymentNotFound (name : String)
  | applicationRuntimeNotFound (name : String)
  | targetNotFound (deployment target : String)
  | targetNotRunning (target : String)
  /-- The deployment is still there after an undeploy. -/
  | stillDeployed (name : String)
  /-- The trust settings could not be put back. -/
  | guardCleanup (cause : String)
  | protocol (fault : ProtocolFault)
  | cancelled
  /-- An error with the errors of the cleanup behind it. -/
  | suppressed (primary : DeployError) (attached : List DeployError)
  | internal (text : String)

/-- Where an operation broke down; each phase asks for another reaction. -/
inductive Phase where
  /-- The configuration is invalid and has to be mended first. -/
  | configuration
  /-- The domain could not be reached; the operation may be tried again. -/
  | connection
  /-- Nothing was submitted; the operation may be tried again. -/
  | submission
  /-- Something was submitted, but the domain does not show the result. -/
  | verification
  /-- The domain confirmed that the operation failed. -/
  | confirmedFailure
  | other
deriving DecidableEq, Repr

/-- The name of a phase. -/
def Phase.name : Phase → String
  | configuration => "Configuration"
  | connection => "Connection"
  | submission => "Submission"
  | verification => "Verification"
  | confirmedFailure => "ConfirmedFailure"
  | other => "Other"

namespace DeployError

/-- The phase of an error; attached errors do not count. -/
def phase : DeployError → Phase
  | configuration _ => .configuration
  | connect _ => .connection
  | submission _ => .submission
  | deploymentFailed .. => .confirmedFailure
  | deploymentNotFound _ | applicationRuntimeNotFound _ | targetNotFound .. | targetNotRunning _
  | stillDeployed _ => .verification
  | suppressed primary _ => primary.phase
  | file _ | json _ | transport _ | guardCleanup _ | protocol _ | cancelled | internal _ => .other

/-- The error that ended the operation, without what is attached to it. -/
def primary : DeployError → DeployError
  | suppressed primary _ => primary.primary
  | e => e

/-- The errors attached to this one. -/
def attached : DeployError → List DeployError
  | suppressed _ attached => attached
  | _ => []

/-- Attaches errors of a cleanup; attaching none changes nothing. -/
def attach (e : DeployError) (errors : List DeployError) : DeployError :=
  if errors.isEmpty then e
  else match e with
    | suppressed primary attached => suppressed primary (attached ++ errors)
    | e => suppressed e errors

/-- The wording of an error; attached errors are not told. -/
def message : DeployError → String
  | file fault => s!"IO error: {fault.message}"
  | json fault => s!"JSON error: {fault.message}"
  | transport fault => s!"HTTP error: {fault.message}"
  | configuration fault => s!"Configuration error: {fault.message}"
  | connect fault => s!"Failed to connect to the management endpoint: {fault.message}"
  | submission fault => s!"Deployment submission failed: {fault.message}"
  | deploymentFailed target detail => s!"Deployment failed on target {target}: {detail}"
  | deploymentNotFound name =>
    s!"Deployment {name} could not be found in the domain configuration. The deployment must " ++
      "have failed; inspect the submission output"
  | applicationRuntimeNotFound name =>
    s!"Deployment details were not found on the running target: {name}"
  | targetNotFound deployment target => s!"Deployment {deployment} is not targeted to {target}"
  | targetNotRunning target => s!"None of the targets of {target} are in the RUNNING state"
  | stillDeployed name => s!"Deployment {name} is still present after undeploy"
  | guardCleanup cause => s!"Failed to restore the process trust settings: {cause}"
  | protocol fault => s!"Unexpected response from the management endpoint: {fault.message}"
  | cancelled => "Operation cancelled"
  | suppressed primary _ => primary.message
  | internal text => s!"Internal error: {text}"

@[simp] theorem attach_nil (e : DeployError) : e.attach [] = e := rfl

@[simp] theorem primary_attach (e : DeployError) (errors : List DeployError) :
    (e.attach errors).primary = e.primary := by
  cases errors with
  | nil => rfl
  | cons first rest => cases e <;> rfl

@[simp] theorem phase_attach (e : DeployError) (errors : List DeployError) :
    (e.attach errors).phase = e.phase := by
  cases errors with
  | nil => rfl
  | cons first rest => cases e <;> rfl

@[simp] theorem message_attach (e : DeployError) (errors : List DeployError) :
    (e.attach errors).message = e.message := by
  cases errors with
  | nil => rfl
  | cons first rest => cases e <;> rfl

@[simp] theorem attached_attach (e : DeployError) (errors : List DeployError) :
    (e.attach errors).attached = e.attached ++ errors := by
  cases errors with
  | nil => simp
  | cons first rest => cases e <;> rfl

end DeployError

end DomainDeploy
