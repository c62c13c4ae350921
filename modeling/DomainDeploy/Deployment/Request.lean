import DomainDeploy.DeployError
import DomainDeploy.Deployment.Name

/-!
# Requests to deploy

A request names an artifact that is there, the deployment that it becomes, and a target.
-/

namespace DomainDeploy

/-- A request to deploy one artifact to one target. -/
structure DeploymentRequest where
  name : String
  artifact : String
  target : String
deriving DecidableEq, Repr

/-- The request for an artifact: it must exist and have a name. -/
def DeploymentRequest.ofArtifact (files : FileSystem) (artifact target : String) :
    Except DeployError DeploymentRequest :=
  if files.holds artifact then
    match deploymentNameAt? artifact with
    | some name => .ok ⟨name, artifact, target⟩
    | none => .error (.configuration (.artifactWithoutName artifact))
  else .error (.configuration (.artifactNotFound artifact))

end DomainDeploy
