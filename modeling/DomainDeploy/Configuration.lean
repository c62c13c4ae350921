import DomainDeploy.AdminUrl
import DomainDeploy.FileSystem.Name
import DomainDeploy.Settings
import DomainDeploy.Trust.Context

/-!
# Configurations

A configuration is what becomes of settings that have been checked.  The checks run in one order,
and the first that fails names the fault: the four required texts, the two addresses, trust, the
tool, and the two timeouts that must not be zero.
-/

namespace DomainDeploy

/-- How long is waited, in seconds. -/
structure Timeouts where
  /-- For an operation to come to an end. -/
  deploy : Nat
  /-- For a server to start or stop. -/
  server : Nat
  /-- For the deployment tool to exit. -/
  tool : Nat
  /-- For the answer to a request. -/
  request : Nat
deriving DecidableEq, Repr

/-- How the deployment tool is started. -/
structure ToolOptions where
  /-- The program that runs the tool. -/
  program : String
  classPath : String
  useUrandom : Bool
deriving DecidableEq, Repr

/-- Settings that have been checked. -/
structure Configuration where
  /-- The address of the admin server as it was given; the tool gets it in this form. -/
  adminUrl : String
  admin : AdminUrl
  /-- Where the management channel leads. -/
  management : AdminUrl
  userName : String
  password : String
  /-- The target of commands that name none. -/
  target : String
  strategy : SubmissionStrategy
  trust : TrustContext
  tool : ToolOptions
  /-- The server does not see this machine's files. -/
  remoteMachine : Bool
  timeouts : Timeouts
  /-- Requests and replies go to the log. -/
  logMessages : Bool
deriving DecidableEq, Repr

namespace Configuration

/-- The deployment tool, seen from the home of the server software. -/
def archivePath : String := "server/lib/weblogic.jar"

/-- The demonstration store, seen from the home of the server software. -/
def demoTrustPath : String := "server/lib/DemoTrust.jks"

/-- The standard store, seen from the home of the program that runs the tool. -/
def standardTrustPath : String := "lib/security/cacerts"

/-- What separates the entries of a class path. -/
def classPathSeparator : String := ":"

variable (files : FileSystem) (environment : String → Option String)

/-- A path from the settings, or else from a variable of the environment that is not empty. -/
def homeOf (setting : Option String) (name : String) : Option String :=
  Text.nonBlank setting <|> (environment name).filter (· != "")

/-- Where the server software is installed. -/
def home (s : Settings) : Option String := homeOf environment s.home "WL_HOME"

/-- Where the program that runs the tool is installed. -/
def javaHome (s : Settings) : Option String := homeOf environment s.javaHome "JAVA_HOME"

/-- Fails unless a value holds more than blanks. -/
def require (value : String) (fault : ConfigurationFault) : Except DeployError Unit :=
  if Text.isAllBlank value then .error (.configuration fault) else .ok ()

/-- The value, or else a fault. -/
def need {α : Type} (value : Option α) (fault : ConfigurationFault) : Except DeployError α :=
  match value with
  | some a => .ok a
  | none => .error (.configuration fault)

/-- The path, if a file stands there. -/
def needFile (path : String) (fault : String → ConfigurationFault) : Except DeployError String :=
  if files.isFile path then .ok path else .error (.configuration (fault path))

/-- How many modes of trust the settings ask for. -/
def trustModeCount (s : Settings) : Nat :=
  [s.demoTrust, s.customTrust, s.standardTrust].count true

/-- The mode of trust and the store that goes with it. -/
def trustStoreOf (s : Settings) : Except DeployError (TrustMode × Option String) := do
  if 1 < trustModeCount s then throw (.configuration .severalTrustModes)
  if s.demoTrust then
    let home ← need (home environment s) .demoTrustWithoutHome
    let path ← needFile files (FileSystem.join home demoTrustPath) .demoTrustNotFound
    return (.demo, some path)
  else if s.customTrust then
    let path ← need (Text.nonBlank s.trustLocation) .customTrustWithoutLocation
    let path ← needFile files path .customTrustNotFound
    return (.custom, some path)
  else if s.standardTrust then
    let home ← need (javaHome environment s) .standardTrustWithoutHome
    let path ← needFile files (FileSystem.join home standardTrustPath) .standardTrustNotFound
    return (.standard, some path)
  else return (.builtIn, none)

/-- Everything that the settings say about trust. -/
def trustOf (s : Settings) : Except DeployError TrustContext := do
  let (mode, location) ← trustStoreOf files environment s
  return {
    mode, location
    password := Text.nonBlank s.trustPassword
    ignoreHostName := s.ignoreHostName
    verifierClass := Text.nonBlank s.verifierClass }

/-- The archive that holds the deployment tool, if it can be told. -/
def archive? (s : Settings) : Option String :=
  Text.nonBlank s.archive <|> (home environment s).map (FileSystem.join · archivePath)

/-- Entries of a class path, put together. -/
def classPathOf (entries : List String) : String := classPathSeparator.intercalate entries

/-- How the tool is started; the archive must be there when the tool is going to be used. -/
def toolOf (s : Settings) : Except DeployError ToolOptions := do
  let archive := archive? environment s
  if s.strategy == .process then
    let path ← need archive .toolWithoutArchive
    let _ ← needFile files path .toolArchiveNotFound
  let program :=
    match javaHome environment s with
    | some home => FileSystem.join (FileSystem.join home "bin") "java"
    | none => "java"
  return {
    program
    classPath := classPathOf (archive.toList ++ (Text.nonBlank s.classPath).toList)
    useUrandom := s.useUrandom }

/-- Where the management channel leads: to the admin server unless told otherwise. -/
def managementOf (s : Settings) (admin : AdminUrl) : Except DeployError AdminUrl :=
  match Text.nonBlank s.managementUrl with
  | some url => AdminUrl.parse url
  | none => .ok admin

/-- Fails if a number is zero. -/
def requirePositive (n : Nat) (fault : ConfigurationFault) : Except DeployError Unit :=
  if n == 0 then .error (.configuration fault) else .ok ()

/-- Checks settings against the files and the environment. -/
def ofSettings (s : Settings) : Except DeployError Configuration := do
  require s.adminUrl .adminUrlMissing
  require s.userName .userNameMissing
  require s.password .passwordMissing
  require s.target .targetMissing
  let admin ← AdminUrl.parse s.adminUrl
  let management ← managementOf s admin
  let trust ← trustOf files environment s
  let tool ← toolOf files environment s
  requirePositive s.deployTimeout .deployTimeoutZero
  requirePositive s.requestTimeout .requestTimeoutZero
  return {
    adminUrl := Text.trim s.adminUrl
    admin, management
    userName := s.userName
    password := s.password
    target := s.target
    strategy := s.strategy
    trust, tool
    remoteMachine := s.remoteMachine
    timeouts := ⟨s.deployTimeout, s.serverTimeout, s.toolTimeout, s.requestTimeout⟩
    logMessages := s.logMessages }

end Configuration

end DomainDeploy
