import DomainDeploy.Management.ObjectName
import DomainDeploy.Text.Case

/-!
# Where attributes lie in the tree of resources

The management endpoint shows the domain as a tree of resources, and the name of an object is its
way from the root of that tree.  An attribute is a field of the object's resource, or another
resource below it, or a collection of them, or a field that names resources elsewhere in the tree.
-/

namespace DomainDeploy.Rest

/-- How an attribute lies in the tree. -/
inductive AttributeKind where
  | field
  /-- One resource below. -/
  | child
  /-- A collection of resources below. -/
  | children
  /-- A field that names resources of the configuration. -/
  | references
deriving DecidableEq, Repr

/-- The attributes that lead to one resource below. -/
def childAttributes : List String := ["DomainRuntime", "DomainConfiguration", "DeploymentManager"]

/-- The attributes that lead to a collection. -/
def collectionAttributes : List String := ["ServerRuntimes", "AppDeployments",
  "ApplicationRuntimes", "ComponentRuntimes", "Servlets", "AppDeploymentRuntimes",
  "DeploymentProgressObjects", "Clusters"]

/-- The attributes that name resources elsewhere. -/
def referenceAttributes : List String := ["Targets", "Servers"]

/-- How an attribute lies in the tree; all but the known ones are fields. -/
def AttributeKind.of (name : String) : AttributeKind :=
  if childAttributes.contains name then child
  else if collectionAttributes.contains name then children
  else if referenceAttributes.contains name then references
  else field

/-- The name of the field that holds an attribute. -/
def fieldName (name : String) : String := Text.lowerFirst name

/-- The tree of the configuration. -/
def configurationTree : String := "domainConfig"

/-- The resource below an object that an attribute leads to. -/
def below (object : ObjectName) (name : String) : ObjectName :=
  if object.isRoot && name == "DomainConfiguration" then ⟨configurationTree⟩
  else if object.isRoot && name == "ServerRuntimes" then ⟨"domainRuntime/serverRuntimes"⟩
  else object.child (fieldName name)

/-- The tree that an object stands in. -/
def treeOf (object : ObjectName) : String := object.segments.headD ""

/-- The last name on the way to an object. -/
def lastName (object : ObjectName) : String := object.segments.getLastD ""

/-- The name of a collection for one of its items. -/
def singular (collection : String) : String :=
  if collection.toList.getLast? == some 's' then String.ofList collection.toList.dropLast
  else collection

/-- The type of an object, told from the collection that it stands in. -/
def typeByCollection (object : ObjectName) : Option String :=
  match object.segments.reverse with
  | _ :: collection :: _ =>
    if singular collection == "" then none else some (Text.upperFirst (singular collection))
  | _ => none

end DomainDeploy.Rest
