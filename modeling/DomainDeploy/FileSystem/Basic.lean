import DomainDeploy.Text.Utf8

/-!
# Files

A file system is what it shows at each path: a file with its bytes, a directory, or a fault.  It is
a view at one time: where a process adds to its files, as it does when it opens its log, another
view takes the place of the first.
-/

namespace DomainDeploy

/-- What stands at a path. -/
inductive FileSystem.Entry where
  | file (bytes : List UInt8)
  | directory
deriving DecidableEq, Repr

/-- Why a path cannot be read. -/
inductive FileFault where
  | notFound
  | notDirectory
  | isDirectory
  | denied
  | nameTooLong
  /-- A path with a zero byte names nothing. -/
  | zeroByte
  | notText (defect : Text.Utf8.Defect)
  | other (text : String)
deriving DecidableEq

/-- The wording of a fault. -/
def FileFault.message : FileFault → String
  | notFound => "No such file or directory (os error 2)"
  | notDirectory => "Not a directory (os error 20)"
  | isDirectory => "Is a directory (os error 21)"
  | denied => "Permission denied (os error 13)"
  | nameTooLong => "File name too long (os error 36)"
  | zeroByte => "file name contained an unexpected NUL byte"
  | notText defect => defect.message
  | other text => text

/-- What a run can see of the files around it. -/
structure FileSystem where
  look : String → Except FileFault FileSystem.Entry

namespace FileSystem

/-- Whether anything stands at the path. -/
def holds (fs : FileSystem) (path : String) : Bool :=
  match fs.look path with
  | .ok _ => true
  | .error _ => false

/-- Whether a file stands at the path. -/
def isFile (fs : FileSystem) (path : String) : Bool :=
  match fs.look path with
  | .ok (.file _) => true
  | _ => false

/-- The bytes of the file at the path. -/
def bytesAt (fs : FileSystem) (path : String) : Except FileFault (List UInt8) :=
  match fs.look path with
  | .ok (.file bytes) => .ok bytes
  | .ok .directory => .error .isDirectory
  | .error fault => .error fault

/-- The text in the file at the path. -/
def textAt (fs : FileSystem) (path : String) : Except FileFault String := do
  match Text.Utf8.decode (← fs.bytesAt path) with
  | .ok text => return text
  | .error defect => throw (.notText defect)

/-- Nothing stands anywhere. -/
def empty : FileSystem := ⟨fun _ => .error .notFound⟩

end FileSystem

end DomainDeploy
