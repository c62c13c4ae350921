import DomainDeploy.DeployError
import DomainDeploy.Json.Shape
import DomainDeploy.Log

/-!
# Settings

What a settings file may state, before anything of it has been checked.  Every field has a default;
`Settings.reader` reads the fields from a JSON object in any order, or from an array in the order in
which they are declared here.
-/

namespace DomainDeploy

/-- How operations reach the domain. -/
inductive SubmissionStrategy where
  /-- The deployment tool is run. -/
  | process
  /-- The deployment manager is called over the management channel. -/
  | rest
deriving DecidableEq, Repr

/-- The strategy as a word. -/
def SubmissionStrategy.name : SubmissionStrategy → String
  | process => "process"
  | rest => "rest"

/-- The contents of a settings file. -/
structure Settings where
  /-- Log lines that are at least this urgent are written. -/
  logLevel : LogLevel := .info
  /-- Where log files are kept. -/
  logDir : Option String := none
  /-- Address of the admin server. -/
  adminUrl : String := ""
  userName : String := ""
  password : String := ""
  /-- A server or a cluster. -/
  target : String := ""
  /-- Address of the management endpoint, if it is another one. -/
  managementUrl : Option String := none
  /-- Where the server software is installed. -/
  home : Option String := none
  /-- The archive that holds the deployment tool. -/
  archive : Option String := none
  /-- Further entries behind that archive. -/
  classPath : Option String := none
  /-- Where the program that runs the tool is installed. -/
  javaHome : Option String := none
  strategy : SubmissionStrategy := .process
  demoTrust : Bool := false
  customTrust : Bool := false
  standardTrust : Bool := false
  trustLocation : Option String := none
  trustPassword : Option String := none
  ignoreHostName : Bool := false
  verifierClass : Option String := none
  useUrandom : Bool := false
  /-- The server does not see this machine's files. -/
  remoteMachine : Bool := false
  /-- In seconds. -/
  deployTimeout : Nat := 200
  /-- In seconds. -/
  serverTimeout : Nat := 90
  /-- In seconds. -/
  toolTimeout : Nat := 600
  /-- In seconds. -/
  requestTimeout : Nat := 30
  /-- Requests and replies go to the log. -/
  logMessages : Bool := false
deriving DecidableEq, Repr

namespace Settings

/-- Reads the name of a log level. -/
def level : Json.Reader LogLevel := do
  let word ← Json.text
  match LogLevel.ofText? word with
  | some level => pure level
  | none => Json.failLater (.custom (LogLevel.unknown word))

/-- Reads the name of a strategy. -/
def strategyName : Json.Reader SubmissionStrategy :=
  Json.choice [("process", .process), ("rest", .rest)]

/-- Reads a text or null. -/
def optionalText : Json.Reader (Option String) := Json.optional Json.text

/-- A field whose value `put` stores; it may be left out. -/
def field {α : Type} (name : String) (read : Json.Reader α) (put : Settings → α → Settings) :
    Json.Field Settings :=
  ⟨name, do let a ← read; pure fun s => put s a, false⟩

/-- The fields in the order of their declaration. -/
def fields : List (Json.Field Settings) := [
  field "log_level" level fun s a => { s with logLevel := a },
  field "log_dir" optionalText fun s a => { s with logDir := a },
  field "admin_url" Json.text fun s a => { s with adminUrl := a },
  field "admin_user_name" Json.text fun s a => { s with userName := a },
  field "admin_password" Json.text fun s a => { s with password := a },
  field "target" Json.text fun s a => { s with target := a },
  field "management_url" optionalText fun s a => { s with managementUrl := a },
  field "wl_home" optionalText fun s a => { s with home := a },
  field "weblogic_jar_path" optionalText fun s a => { s with archive := a },
  field "class_path" optionalText fun s a => { s with classPath := a },
  field "java_home" optionalText fun s a => { s with javaHome := a },
  field "submission_strategy" strategyName fun s a => { s with strategy := a },
  field "use_demo_trust" Json.flag fun s a => { s with demoTrust := a },
  field "use_custom_trust" Json.flag fun s a => { s with customTrust := a },
  field "use_java_standard_trust" Json.flag fun s a => { s with standardTrust := a },
  field "trust_store_location" optionalText fun s a => { s with trustLocation := a },
  field "trust_store_password" optionalText fun s a => { s with trustPassword := a },
  field "ignore_host_name_verification" Json.flag fun s a => { s with ignoreHostName := a },
  field "hostname_verifier_class" optionalText fun s a => { s with verifierClass := a },
  field "use_urandom" Json.flag fun s a => { s with useUrandom := a },
  field "remote_machine" Json.flag fun s a => { s with remoteMachine := a },
  field "deploy_timeout_secs" (Json.natural 64) fun s a => { s with deployTimeout := a },
  field "server_timeout_secs" (Json.natural 64) fun s a => { s with serverTimeout := a },
  field "tool_timeout_secs" (Json.natural 64) fun s a => { s with toolTimeout := a },
  field "request_timeout_secs" (Json.natural 64) fun s a => { s with requestTimeout := a },
  field "log_rest_messages" Json.flag fun s a => { s with logMessages := a }]

/-- Reads settings. -/
def reader : Json.Reader Settings := Json.record "Settings" {} fields

/-- Reads the text of a settings file. -/
def parse (text : String) : Except Json.Fault Settings := Json.readText reader text

/-- Reads a settings file. -/
def ofFile (files : FileSystem) (path : String) : Except DeployError Settings := do
  let text ← (files.textAt path).mapError .file
  (parse text).mapError .json

/-- Where settings are kept unless told otherwise. -/
def defaultFile : String := "wlsdeployer.json"

end Settings

end DomainDeploy
