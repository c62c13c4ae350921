import DomainDeploy.DeployError
import DomainDeploy.FileSystem.Tree
import DomainDeploy.Log

/-!
# Where the log goes

A process sets its log up once: what passes the filter is written to the standard output, plainly or
as JSON, and to a file if a directory for log files is given.  Trying again is an error and changes
nothing but the files.

The log file comes first.  Opening it adds to the files of the process, which may get a directory
and a file that were not there before, and where it cannot be opened the process is broken off
without an error to handle.  What the file system makes of opening is its own matter: it is a
parameter here, `LogOpening`, and `LogOpening.inTree` is what becomes of a tree of files.
-/

namespace DomainDeploy

/-- What opening a log file in a directory makes of the files, if it can be opened there.  The lines
that are written to it later do not show. -/
abbrev LogOpening := String → Option FileSystem

/-- What is asked of a log. -/
structure LogOptions where
  level : LogLevel := .info
  toStdout : Bool := true
  /-- Lines on the standard output are JSON. -/
  asJson : Bool := false
  /-- Where a log file is kept, if there is one. -/
  directory : Option String := none
  /-- Where the notes come from. -/
  origin : String := LogFilter.origin
deriving DecidableEq, Repr

/-- The files once the log file that is asked for has been opened; they are as before if none is. -/
def LogOptions.openFile? (options : LogOptions) (opening : LogOpening) (files : FileSystem) :
    Option FileSystem :=
  match options.directory with
  | none => some files
  | some directory => opening directory

/-- A log that has been set up. -/
structure LogSetup where
  options : LogOptions
  filter : LogFilter
deriving DecidableEq, Repr

namespace LogSetup

/-- The variable that states a filter. -/
def filterVariable : String := "RUST_LOG"

/-- Sets up the log of a process, given what has been set up before, and tells what the files are
then.  Without an answer the log file cannot be opened, and the process is broken off. -/
def install? (environment : String → Option String) (opening : LogOpening) (files : FileSystem)
    (options : LogOptions) (before : Option LogSetup) :
    Option (Except DeployError LogSetup × FileSystem) :=
  (options.openFile? opening files).map fun there =>
    match before with
    | none =>
      let filter := .choose options.origin (environment filterVariable) options.level
      (.ok ⟨options, filter⟩, there)
    | some _ => (.error (.configuration .loggingAlreadySet), there)

/-- The notes that go to the standard output. -/
def stdoutNotes (s : LogSetup) (notes : List Note) : List Note :=
  if s.options.toStdout then notes.filter s.filter.admits else []

/-- The notes that go to the log file. -/
def fileNotes (s : LogSetup) (notes : List Note) : List Note :=
  if s.options.directory.isSome then notes.filter s.filter.admits else []

/-- The name of the log file of a day. -/
def fileName (day : String) : String := s!"wlsdeployer.log.{day}"

end LogSetup

/-- Opening the log file of a day in a tree of files. -/
def LogOpening.inTree (tree : FileTree) (day : String) : LogOpening := fun directory =>
  (tree.opened? directory (LogSetup.fileName day)).map FileTree.view

end DomainDeploy
