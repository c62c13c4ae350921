import DomainDeploy.CommandLine

/-!
# The executable

The outer layer of the command line: it opens the log file, takes a picture of the files and
variables that the program looks at, hands them over, and writes what the program writes.  There is
no transport behind it, so requests stay unanswered, and it starts no other program.
-/

namespace DomainDeploy.Main

/-- The number that the system gives to reading a directory as a file. -/
def isDirectoryNumber : UInt32 := 21

/-- What stands at a path. -/
def lookUp (path : String) : IO (Except FileFault FileSystem.Entry) := do
  try
    return .ok (.file (← IO.FS.readBinFile path).toList)
  catch
    | .noFileOrDirectory .. => return .error .notFound
    | .inappropriateType _ number _ =>
      return if number == isDirectoryNumber then .ok .directory else .error .notDirectory
    | .permissionDenied .. => return .error .denied
    | e => return .error (.other e.toString)

/-- A file system that knows the given paths. -/
def filesAt (paths : List String) : IO FileSystem := do
  let seen ← paths.mapM fun path => return (path, ← lookUp path)
  return ⟨fun path => (seen.lookup path).getD (.error .notFound)⟩

/-- The variables that the program looks at. -/
def environmentNow : IO (String → Option String) := do
  let seen ← CommandLine.lookedUp.mapM fun name => return (name, ← IO.getEnv name)
  return fun name => (seen.lookup name).getD none

/-- Opens the log file in a directory, which is made if it is missing.  What day it is is not known
here. -/
def openLog (directory : String) : IO (Option IO.FS.Handle) := do
  let path := FileSystem.join directory (LogSetup.fileName "today")
  try
    return some (← IO.FS.Handle.mk path .append)
  catch _ =>
    try
      IO.FS.createDirAll directory
      return some (← IO.FS.Handle.mk path .append)
    catch _ => return none

/-- What the program stands on: the files, and the log file if there is one. -/
structure Ground where
  files : FileSystem := .empty
  log : Option IO.FS.Handle := none

/-- The log file has been opened before the picture of the files was taken. -/
def Ground.opening (g : Ground) : LogOpening := fun _ => g.log.map fun _ => g.files

/-- The files that the program looks at, given its arguments, with the log file opened. -/
def groundFor (environment : String → Option String) (arguments : List String) : IO Ground := do
  let arguments := CommandLine.namedArguments arguments
  if (arguments.lookup "version").isSome then return {}
  let settingsPath := CommandLine.settingsPath arguments
  let files ← filesAt [settingsPath]
  match Settings.ofFile files settingsPath with
  | .error _ => return { files }
  | .ok settings =>
    let log ← match settings.logDir with
      | some directory => openLog directory
      | none => pure none
    let files ← filesAt (settingsPath :: CommandLine.paths environment settings arguments)
    return { files, log }

/-- Writes a line. -/
def write (log : Option IO.FS.Handle) : CommandLine.Output → IO Unit
  | .out text => IO.println text
  | .err text => IO.eprintln text
  | .logged text =>
    match log with
    | some log => log.putStrLn text
    | none => pure ()

/-- Plays the program. -/
def play (log : Option IO.FS.Handle) :
    Program Wire CommandLine.Output CommandLine.Exit → IO CommandLine.Exit
  | .done exit => pure exit
  | .note output rest => do
    write log output
    play log rest
  | .ask (.send _) next => play log (next .lost)
  | .ask (.runTool _ _) next => play log (next (.notStarted "no program can be started"))
  | .ask (.sleep time) next => do
    IO.sleep (time / 1000000).toUInt32
    play log (next true)

end DomainDeploy.Main

/-- Runs the program; how it ends shows in the exit status. -/
def main (arguments : List String) : IO UInt32 := do
  let environment ← DomainDeploy.Main.environmentNow
  let ground ← DomainDeploy.Main.groundFor environment arguments
  let program :=
    DomainDeploy.CommandLine.program ground.files environment ground.opening {} arguments
  return (← DomainDeploy.Main.play ground.log program).status.toUInt32
