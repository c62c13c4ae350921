import DomainDeploy.Command
import DomainDeploy.Log.Setup
import DomainDeploy.Rest.Connection

/-!
# The command line

The program reads its arguments, then the settings file, then sets up the log that the settings ask
for, then checks the settings and the command, and only then asks its surroundings anything.  A
version argument goes before everything else.  Everything behind the log sees the files as the log
leaves them, and where the log file cannot be opened the program is broken off.

What the program writes is the history of its run: lines of the log and lines of its own on the
standard output, the lines of the log once more in the log file if there is one, and one complaint
on the standard error when there are no settings to start from.  What the system writes of a program
that is broken off is left out.
-/

namespace DomainDeploy

/-- Which program this is. -/
structure Version where
  number : String := "0.1.0"
  commit : String := "unknown"
  buildTime : String := "unknown"
deriving DecidableEq, Repr

/-- The version as JSON. -/
def Version.toJson (v : Version) : Json :=
  .object [("version", .string v.number), ("git_hash", .string v.commit),
    ("build_time", .string v.buildTime)]

namespace CommandLine

/-- Something written to the standard output, to the standard error or to the log file. -/
inductive Output where
  | out (text : String)
  | err (text : String)
  | logged (text : String)
deriving DecidableEq, Repr

/-- How the program ends. -/
inductive Exit where
  | success
  | failure
  /-- A fault that nothing handles ends the program where it stands. -/
  | brokenOff
deriving DecidableEq, Repr

/-- The number that an end shows to the outside. -/
def Exit.status : Exit → Nat
  | success => 0
  | failure => 1
  | brokenOff => 101

/-- Something that the program says once there is a log. -/
inductive Utterance where
  | note (n : Note)
  | print (text : String)
deriving DecidableEq, Repr

/-- What is written of an utterance; without a log nothing is written of a note. -/
def Utterance.written (log : Option LogSetup) : Utterance → List Output
  | note n =>
    match log with
    | some log =>
      (log.stdoutNotes [n]).map (.out ·.line) ++ (log.fileNotes [n]).map (.logged ·.line)
    | none => []
  | print text => [.out text]

/-- The name and the value of an argument: `--name=value` with any number of dashes, or the bare
`--name`. -/
def named? (argument : String) : Option (String × String) :=
  let cs := argument.toList
  match cs.dropWhile (· != '=') with
  | _ :: value =>
    some (Text.trimLeading '-' (String.ofList (cs.takeWhile (· != '='))), String.ofList value)
  | [] => if ['-', '-'].isPrefixOf cs then some (Text.trimLeading '-' argument, "true") else none

/-- The named arguments, the last one first, so that it is the one that is found. -/
def namedArguments (arguments : List String) : List (String × String) :=
  (arguments.filterMap named?).reverse

/-- Pads a text with spaces to a width in characters. -/
def padded (width : Nat) (text : String) : String :=
  text ++ String.ofList (List.replicate (width - text.length) ' ')

/-- The line for one server. -/
def serverLine (s : ServerInstance) : String :=
  let url := s.baseUrl.getD "-"
  s!"{padded 24 s.name} {padded 32 url} {s.state}"

/-- Whether a target runs, in words. -/
def verdict (running : Bool) : String := if running then "running" else "not running"

/-- What is printed of an outcome. -/
def report : Outcome → List Utterance
  | .deployed endpoint => [.print endpoint.toJson.pretty]
  | .undeployed name => [.print s!"Undeployed {name}"]
  | .status target running servers =>
    servers.map (fun s => .print (serverLine s)) ++
      [.print s!"Target {target} is {verdict running}"]

/-- A line of the log for an error. -/
def complaint (text : String) : Utterance := .note ⟨.error, text⟩

/-- The lines of the log for an error that ended a command. -/
def complaints (e : DeployError) : List Utterance :=
  complaint s!"{e.message} ({e.phase.name})" ::
    e.attached.map fun c => complaint s!"  cleanup also failed: {c.message}"

/-- A program that only says something and ends. -/
def ending {ν : Type} (lines : List ν) (exit : Exit) : Program Wire ν Exit :=
  Program.noteAll lines (pure exit)

/-- The log that settings ask for. -/
def logOptions (settings : Settings) : LogOptions where
  level := settings.logLevel
  directory := settings.logDir

section

variable (files : FileSystem) (environment : String → Option String)

/-- Carries a command out over the management endpoint. -/
def perform (c : Configuration) (command : Command) :
    Program Wire Note (Except DeployError Outcome) := do
  let guard := TrustGuard.ofPublished (.ofVariables environment)
  let run := command.run (Deployer.ofConfiguration c) files guard
  let ((result, _), _) ← run.via (Rest.bridge files environment c) none
  return result

/-- Does what the arguments ask for, once the settings have been read and the log is set up. -/
def work (version : Version) (settings : Settings) (arguments : List (String × String)) :
    Program Wire Utterance Exit :=
  match Configuration.ofSettings files environment settings with
  | .error e => ending [complaint e.message] .failure
  | .ok c =>
    match Command.ofArguments arguments c with
    | .error e => ending [complaint e.message] .failure
    | .ok command =>
      Program.note (.note ⟨.info,
        s!"Running WebLogic Deployer {version.number} against {c.admin.display}"⟩) do
          match ← (perform files environment c command).renote fun n => [.note n] with
          | .ok outcome => ending (report outcome) .success
          | .error e => ending (complaints e) .failure

/-- The path of the settings file. -/
def settingsPath (arguments : List (String × String)) : String :=
  (arguments.lookup "settings").getD Settings.defaultFile

/-- The variables of the environment that the program looks at. -/
def lookedUp : List String := ["WL_HOME", "JAVA_HOME", TrustStore.locationVariable,
  TrustStore.passwordVariable, LogSetup.filterVariable]

/-- The paths that the program looks at once the settings have been read. -/
def paths (settings : Settings) (arguments : List (String × String)) : List String :=
  let home := Configuration.home environment settings
  let javaHome := Configuration.javaHome environment settings
  (Configuration.archive? environment settings).toList ++
    (home.map (FileSystem.join · Configuration.demoTrustPath)).toList ++
    (Text.nonBlank settings.trustLocation).toList ++
    (javaHome.map (FileSystem.join · Configuration.standardTrustPath)).toList ++
    (environment TrustStore.locationVariable).toList ++
    (arguments.lookup "deploy").toList

/-- The whole program. The work is done among the files as the log leaves them. -/
def program (opening : LogOpening) (version : Version) (arguments : List String) :
    Program Wire Output Exit :=
  let arguments := namedArguments arguments
  if (arguments.lookup "version").isSome then ending [.out version.toJson.pretty] .success
  else
    let path := settingsPath arguments
    match Settings.ofFile files path with
    | .error e => ending [.err s!"Unable to read settings file {path}: {e.message}"] .failure
    | .ok settings =>
      match LogSetup.install? environment opening files (logOptions settings) none with
      | none => ending [] .brokenOff
      | some (.error e, files) =>
        Program.note (.out s!"Failed to initialize logging: {e.message}")
          ((work files environment version settings arguments).renote (Utterance.written none))
      | some (.ok log, files) =>
        (work files environment version settings arguments).renote (Utterance.written (some log))

end

end CommandLine

end DomainDeploy
