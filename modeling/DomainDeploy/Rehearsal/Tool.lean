import DomainDeploy.FileSystem.Name
import DomainDeploy.Outside

/-!
# A tool that is known in advance

A rehearsed tool stands at a path, prints the same bytes in every run, all of the first stream
before the second, and ends in the same way.  A command that names another program starts nothing.
-/

namespace DomainDeploy

/-- How the tool ends. -/
inductive RehearsedTool.Ending where
  | exits (status : Int)
  | killed
  /-- The tool runs until it is stopped. -/
  | never

/-- A tool whose runs are known in advance. -/
structure RehearsedTool where
  path : String
  stdout : List UInt8 := []
  stderr : List UInt8 := []
  ending : RehearsedTool.Ending := .exits 0

namespace RehearsedTool

/-- The names on the way along a path. -/
def way (path : String) : List String :=
  (FileSystem.components path).filter (!FileSystem.staysInPlace ·)

/-- Whether a text holds a zero byte. -/
def hasZero (text : String) : Bool := text.toList.any (·.toNat == 0)

/-- Whether anything that is handed to the child process holds a zero byte. -/
def isUnspeakable (command : ToolCommand) : Bool :=
  hasZero command.program || command.arguments.any hasZero ||
    command.overrides.any fun (name, value) => hasZero name || hasZero value

/-- Why no program is started: what stands at its path is no program. -/
def obstacle (files : FileSystem) (program : String) : FileFault :=
  if !program.toList.contains '/' then .notFound
  else match files.look program with
    | .ok _ => .denied
    | .error fault => fault

/-- Starts the program of a command; a program without a directory is looked for nowhere. -/
def start (tool : Option RehearsedTool) (files : FileSystem) (command : ToolCommand) :
    Except String RehearsedTool :=
  if isUnspeakable command then .error "nul byte found in provided data"
  else match tool with
    | some tool =>
      if command.program.toList.contains '/' && way tool.path == way command.program then .ok tool
      else .error (obstacle files command.program).message
    | none => .error (obstacle files command.program).message

/-- How a run comes to its end, seen by who waits for it. -/
def run (tool : Option RehearsedTool) (files : FileSystem) (cancelled : Bool)
    (command : ToolCommand) : ToolEnd :=
  match start tool files command with
  | .error cause => .notStarted cause
  | .ok tool =>
    if cancelled then .cancelled
    else
      let exited (status : Option Int) : ToolEnd :=
        .exited status tool.stdout tool.stderr
          (List.replicate (ToolOutput.linesOf tool.stdout).length true)
      match tool.ending with
      | .exits status => exited (some status)
      | .killed => exited none
      | .never => .timedOut

end RehearsedTool

end DomainDeploy
