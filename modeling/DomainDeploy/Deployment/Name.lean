import DomainDeploy.FileSystem.Name

/-!
# Names of deployments

A deployment is named after its artifact: the file name up to the first dot.  The domain records
the deployment under this name, and the same name finds it again.
-/

namespace DomainDeploy

/-- A file name up to its first dot. -/
def deploymentName (fileName : String) : String :=
  String.ofList (fileName.toList.takeWhile (· != '.'))

/-- The name of the deployment of the artifact at a path, if the path ends in a name. -/
def deploymentNameAt (path : String) : Option String :=
  (FileSystem.fileName? path).map deploymentName

/-- The same, if it is not empty. -/
def deploymentNameAt? (path : String) : Option String :=
  (deploymentNameAt path).filter (· != "")

end DomainDeploy
