import DomainDeploy.Configuration

/-!
# Command lines of the deployment tool

The command line starts with the class path and the properties of the program that runs the tool,
then names the tool, then says who asks for what.  Two kinds of secret stand in it: the password of
the administrator and the pass phrases of trust stores; `masked` shows the line without them.
-/

namespace DomainDeploy

/-- What the tool is asked for. -/
inductive ToolAction where
  | deploy
  | undeploy
deriving DecidableEq, Repr

/-- The option that asks for it. -/
def ToolAction.option : ToolAction → String
  | deploy => "-deploy"
  | undeploy => "-undeploy"

/-- A command line, ready to be run. -/
structure ToolCommand where
  program : String
  arguments : List String
  /-- Variables that only the child process sees. -/
  overrides : List (String × String)
  /-- Where the password stands among the arguments. -/
  passwordIndex : Nat
deriving DecidableEq, Repr

/-- What is shown in place of a secret. -/
def mask (secret : String) : String := if secret == "" then "" else "********"

namespace ToolCommand

/-- The class that holds the tool. -/
def mainClass : String := "weblogic.Deployer"

/-- The property that hands over a pass phrase, if there is one. -/
def passPhrase (name : String) (password : Option String) : List String :=
  ((password.filter (· != "")).map fun p => s!"-Dweblogic.security.{name}={p}").toList

/-- The properties that a mode of trust asks for. -/
def trustProperties (trust : TrustContext) : List String :=
  match trust.mode with
  | .builtIn => []
  | .demo => ["-Dweblogic.security.TrustKeyStore=DemoTrust"]
  | .custom =>
    ["-Dweblogic.security.TrustKeyStore=CustomTrust"] ++
      (trust.location.map fun path =>
        s!"-Dweblogic.security.CustomTrustKeyStoreFileName={path}").toList ++
      ["-Dweblogic.security.TrustKeystoreType=jks"] ++
      passPhrase "CustomTrustKeyStorePassPhrase" trust.password
  | .standard =>
    ["-Dweblogic.security.TrustKeyStore=JavaStandardTrust"] ++
      passPhrase "JavaStandardTrustKeyStorePassPhrase" trust.password

/-- All properties of the program that runs the tool. -/
def properties (c : Configuration) : List String :=
  trustProperties c.trust ++
    (if c.trust.ignoreHostName then ["-Dweblogic.security.SSL.ignoreHostnameVerification=true"]
      else []) ++
    (c.trust.verifierClass.map fun name =>
      s!"-Dweblogic.security.SSL.hostnameVerifier={name}").toList ++
    (if c.tool.useUrandom then ["-Djava.security.egd=file:/dev/./urandom"] else [])

/-- The arguments up to the password. -/
def leading (c : Configuration) : List String :=
  ["-classpath", c.tool.classPath] ++ properties c ++
    [mainClass, "-adminurl", c.adminUrl, "-username", c.userName, "-password"]

/-- The arguments behind the password. -/
def trailing (c : Configuration) (action : ToolAction) (name : String) (source : Option String)
    (target : String) : List String :=
  [action.option, "-name", name] ++
    (match source with | some path => ["-source", path] | none => []) ++
    ["-targets", target] ++
    (if action == .deploy then ["-upload"] else []) ++
    ["-debug"] ++
    (if action == .deploy && c.remoteMachine then ["-remote"] else [])

/-- The command line for one deployment. -/
def build (c : Configuration) (action : ToolAction) (name : String) (source : Option String)
    (target : String) : ToolCommand where
  program := c.tool.program
  arguments := leading c ++ c.password :: trailing c action name source target
  overrides := []
  passwordIndex := (leading c).length

/-- The same command line for a child that sees the published trust store. -/
def withTrustStore (command : ToolCommand) (store : TrustStore) : ToolCommand :=
  { command with overrides := store.childVariables }

/-- The variables that the child process sees: its own, and behind them what it inherits. -/
def environment (command : ToolCommand) (inherited : String → Option String) (name : String) :
    Option String :=
  command.overrides.lookup name <|> inherited name

/-- Whether a text contains another one. -/
def holds (part whole : List Char) : Bool :=
  part.isPrefixOf whole || match whole with
    | [] => false
    | _ :: rest => holds part rest

/-- Whether an argument is a property. -/
def isProperty (argument : String) : Bool := ['-', 'D'].isPrefixOf argument.toList

/-- Whether an argument is a property that hands over a pass phrase. -/
def isSecretProperty (argument : String) : Bool :=
  isProperty argument && holds "PassPhrase=".toList argument.toList

/-- An argument whose secret is masked: of a property only the value is secret. -/
def maskedArgument (argument : String) : String :=
  match argument.toList.dropWhile (· != '=') with
  | _ :: value =>
    if isProperty argument then
      String.ofList (argument.toList.takeWhile (· != '=')) ++ "=" ++ mask (String.ofList value)
    else mask argument
  | [] => mask argument

/-- The arguments without their secrets, the first of them standing at index `i`. -/
def maskedFrom (passwordIndex : Nat) (i : Nat) : List String → List String
  | [] => []
  | argument :: rest =>
    (if i == passwordIndex || isSecretProperty argument then maskedArgument argument
      else argument) :: maskedFrom passwordIndex (i + 1) rest

/-- The command line without its secrets. -/
def masked (command : ToolCommand) : String :=
  " ".intercalate (command.program :: maskedFrom command.passwordIndex 0 command.arguments)

end ToolCommand

end DomainDeploy
