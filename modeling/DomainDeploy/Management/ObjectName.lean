/-!
# Names of managed objects

A managed object is named by its way from the domain runtime service, which is the root and has the
empty name.
-/

namespace DomainDeploy

/-- The name of a managed object. -/
structure ObjectName where
  path : String
deriving DecidableEq, Repr

namespace ObjectName

/-- The domain runtime service, from which every object is reached. -/
def root : ObjectName := ⟨""⟩

/-- Whether this is the domain runtime service. -/
def isRoot (name : ObjectName) : Bool := name.path == ""

/-- The object `segment` under this one. -/
def child (name : ObjectName) (segment : String) : ObjectName :=
  if name.isRoot then ⟨segment⟩ else ⟨name.path ++ "/" ++ segment⟩

/-- The names on the way to the object; a name may be empty. -/
def segments (name : ObjectName) : List String :=
  (name.path.toList.splitOn '/').map String.ofList

/-- The name as it is shown to people. -/
def display (name : ObjectName) : String :=
  if name.isRoot then "<domain runtime service>" else name.path

@[simp] theorem isRoot_root : root.isRoot = true := rfl

@[simp] theorem child_root (segment : String) : root.child segment = ⟨segment⟩ := rfl

end ObjectName

end DomainDeploy
