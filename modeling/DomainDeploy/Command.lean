import DomainDeploy.Deployer

/-!
# Commands

A command says which operation to run on which target.  It is picked from named arguments; the
target is the configured one unless an argument names another.
-/

namespace DomainDeploy

/-- What to do. -/
inductive Command where
  | deploy (artifact target : String)
  | undeploy (name target : String)
  | status (target : String)
deriving DecidableEq, Repr

/-- What came of a command. -/
inductive Outcome where
  | deployed (endpoint : Endpoint)
  | undeployed (name : String)
  | status (target : String) (running : Bool) (servers : List ServerInstance)
deriving DecidableEq, Repr

namespace Command

/-- The target that the arguments name, or else the configured one. -/
def targetOf (arguments : List (String × String)) (c : Configuration) : String :=
  (Text.nonBlank (arguments.lookup "target")).getD c.target

/-- Picks the command from named arguments: a deploy before an undeploy before a status. -/
def ofArguments (arguments : List (String × String)) (c : Configuration) :
    Except DeployError Command :=
  let target := targetOf arguments c
  match arguments.lookup "deploy" with
  | some artifact => .ok (deploy artifact target)
  | none =>
    match arguments.lookup "undeploy" with
    | some text =>
      match deploymentNameAt? text with
      | some name => .ok (undeploy name target)
      | none => .error (.configuration (.deploymentNameInvalid text))
    | none =>
      match arguments.lookup "status" with
      | some _ => .ok (status target)
      | none => .error (.configuration .nothingToDo)

variable {α : Type}

/-- What an operation comes to, seen as the outcome of a command. -/
def outcome (f : α → Outcome) (p : Except DeployError α × TrustGuard) :
    Except DeployError Outcome × TrustGuard := (p.1.map f, p.2)

/-- Runs a command. -/
def run (d : Deployer) (files : FileSystem) : Command → Deployer.Operation Outcome
  | deploy artifact target, g =>
    match DeploymentRequest.ofArtifact files artifact target with
    | .error e => return (.error e, g)
    | .ok request => return outcome .deployed (← d.deploy request g)
  | undeploy name target, g =>
    return outcome (fun _ => .undeployed name) (← d.undeploy name target g)
  | status target, g => do
    match ← d.status g with
    | (.error e, g) => return (.error e, g)
    | (.ok servers, g) =>
      return outcome (.status target · servers) (← d.isTargetRunning target g)

end Command

end DomainDeploy
