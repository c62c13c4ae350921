/-!
# Names in paths

A path is a text of names with slashes between them.  Empty names and `.` say nothing, `..` names
the directory above, and the last name that says something is the name of the file.
-/

namespace DomainDeploy.FileSystem

/-- Everything that stands between slashes, in order. -/
def components (path : String) : List String := (path.toList.splitOn '/').map String.ofList

/-- Whether a component only stays where it is. -/
def staysInPlace (component : String) : Bool := component == "" || component == "."

/-- The last name of a path, if the path ends in a name. -/
def fileName? (path : String) : Option String :=
  ((components path).filter (!staysInPlace ·)).getLast?.filter (· != "..")

/-- What stands behind the last dot of the last name; a dot that starts the name does not count. -/
def extension? (path : String) : Option String := do
  let name := (← fileName? path).toList
  let after := (name.reverse.takeWhile (· != '.')).reverse
  if name.length < after.length + 2 then none else some (String.ofList after)

/-- The path `path` seen from `base`; a path that starts with a slash is seen from nowhere else. -/
def join (base path : String) : String :=
  if path.toList.head? == some '/' || base == "" then path
  else if base.toList.getLast? == some '/' then base ++ path
  else base ++ "/" ++ path

end DomainDeploy.FileSystem
