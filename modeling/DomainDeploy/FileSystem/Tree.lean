import DomainDeploy.FileSystem.Basic
import DomainDeploy.FileSystem.Name

/-!
# A tree of files

`FileTree` holds everything below the working directory: files, and directories with or without
something in them.  `FileTree.view` shows it as a file system.  The directories above exist, but
nothing else in them does.  `FileTree.opened?` is the tree once a file has been opened for writing
in a directory; what that makes above the working directory does not show.
-/

namespace DomainDeploy

/-- Entries below the working directory, each with the names on its way. -/
structure FileTree where
  entries : List (List String × FileSystem.Entry)
deriving DecidableEq, Repr

namespace FileTree

open FileSystem

/-- The tree whose entries stand at the given relative paths. -/
def ofPaths (entries : List (String × Entry)) : FileTree :=
  ⟨entries.map fun (path, entry) => ((components path).filter (!staysInPlace ·), entry)⟩

/-- What stands at the given names; a name on the way to an entry is a directory. -/
def entryAt (tree : FileTree) (names : List String) : Option Entry :=
  if names.isEmpty then some .directory
  else match tree.entries.lookup names with
    | some entry => some entry
    | none =>
      if tree.entries.any fun (way, _) => names.isPrefixOf way then some .directory else none

/-- A place on the way along a path. -/
inductive Place where
  /-- The names that lead there from the working directory. -/
  | below (names : List String)
  /-- A directory above the working directory. -/
  | above

/-- What stands at a place. -/
def atPlace (tree : FileTree) : Place → Option Entry
  | .below names => tree.entryAt names
  | .above => some .directory

/-- The place that a component leads to. -/
def step (place : Place) (component : String) : Option Place :=
  if staysInPlace component then some place
  else match place with
    | .below names =>
      if component == ".." then some (if names.isEmpty then .above else .below names.dropLast)
      else some (.below (names ++ [component]))
    | .above => if component == ".." then some .above else none

/-- How many bytes a name may have. -/
def longestName : Nat := 255

/-- How many bytes a path may have. -/
def longestPath : Nat := 4095

/-- Follows the components of a path, each of which must be looked up in a directory. -/
def follow (tree : FileTree) (place : Place) : List String → Except FileFault Entry
  | [] =>
    match tree.atPlace place with
    | some entry => .ok entry
    | none => .error .notFound
  | component :: rest =>
    match tree.atPlace place with
    | none => .error .notFound
    | some (.file _) => .error .notDirectory
    | some .directory =>
      if longestName < component.utf8ByteSize then .error .nameTooLong
      else match step place component with
        | some place => tree.follow place rest
        | none => .error .notFound

/-- The place that a path starts from. -/
def start (path : String) : Place := if path.toList.head? == some '/' then .above else .below []

/-- The file system that the tree stands for. -/
def view (tree : FileTree) : FileSystem where
  look path :=
    if path.toList.any (·.toNat == 0) then .error .zeroByte
    else if path == "" then .error .notFound
    else if longestPath < path.utf8ByteSize then .error .nameTooLong
    else tree.follow (start path) (components path)

/-- The tree with a directory at a place, unless a file stands there. -/
def withDirectory? (tree : FileTree) : Place → Option FileTree
  | .above => some tree
  | .below names =>
    match tree.entryAt names with
    | some (.file _) => none
    | some .directory => some tree
    | none => some ⟨(names, .directory) :: tree.entries⟩

/-- The tree with directories all the way along the components of a path, and the place that they
lead to. -/
def withWay? (tree : FileTree) (place : Place) : List String → Option (FileTree × Place)
  | [] => (tree.withDirectory? place).map (·, place)
  | component :: rest =>
    match tree.withDirectory? place with
    | none => none
    | some tree =>
      if longestName < component.utf8ByteSize then none
      else tree.withWay? ((step place component).getD .above) rest

/-- The tree once a file has been opened for writing at its end, in a directory that is made if it
is missing. -/
def opened? (tree : FileTree) (directory name : String) : Option FileTree :=
  let path := join directory name
  if path.toList.any (·.toNat == 0) || longestPath < path.utf8ByteSize then none
  else match tree.withWay? (start path) (components directory) with
    | none => none
    | some (tree, .above) => some tree
    | some (tree, .below names) =>
      match tree.entryAt (names ++ [name]) with
      | some .directory => none
      | some (.file _) => some tree
      | none => some ⟨(names ++ [name], .file []) :: tree.entries⟩

end FileTree

end DomainDeploy
