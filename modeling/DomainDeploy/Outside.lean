import DomainDeploy.Json.Value
import DomainDeploy.Log
import DomainDeploy.Management.Reading
import DomainDeploy.Program
import DomainDeploy.Tool.Command
import DomainDeploy.Tool.Output

/-!
# What an operation asks of its surroundings

An operation opens one channel to the domain, calls the domain over it, may run the deployment tool
and may sleep.  Everything else that it does it decides itself, so an `Activity` is a program that
asks these questions and ends with a value or an error.
-/

namespace DomainDeploy

/-- Something asked of the domain over an open channel. -/
inductive Call where
  /-- Reads an attribute of an object. -/
  | get (object : ObjectName) (name : String)
  /-- Invokes an operation with named arguments. -/
  | invoke (object : ObjectName) (operation : String) (arguments : Json)
  /-- Invokes an operation and sends a file along. -/
  | upload (object : ObjectName) (operation : String) (arguments : Json) (file : String)
deriving Repr

/-- How a run of the deployment tool ended. -/
inductive ToolEnd where
  | notStarted (cause : String)
  /-- The tool exited, or was killed when there is no status; `order` tells which of the streams the
  lines came from one after the other. -/
  | exited (status : Option Int) (stdout stderr : List UInt8) (order : List Bool)
  /-- Nobody knows how the tool ended. -/
  | lost (cause : String)
  | timedOut
  | cancelled

namespace Outside

/-- What an operation may ask. -/
inductive Question where
  /-- Opens the channel. -/
  | connect
  | call (c : Call)
  /-- Closes the channel. -/
  | disconnect
  /-- Runs the tool and waits for it, for so many milliseconds at most. -/
  | runTool (command : ToolCommand) (timeout : Nat)
  /-- Sleeps for so many nanoseconds. -/
  | sleep (time : Nat)

/-- What it is answered with; a sleep tells whether it ended by itself. -/
abbrev Answer : Question → Type
  | .connect => Except DeployError Unit
  | .call _ => Except DeployError Reading
  | .disconnect => Except DeployError Unit
  | .runTool .. => ToolEnd
  | .sleep _ => Bool

end Outside

/-- The questions of an operation with their answers. -/
abbrev Outside : Signature := ⟨Outside.Question, Outside.Answer⟩

/-- A program that asks its surroundings and ends with a value or an error. -/
abbrev Activity (α : Type) := ExceptT DeployError (Program Outside Note) α

namespace Activity

variable {α : Type}

/-- Ends with a result that is known already. -/
def ofResult (r : Except DeployError α) : Activity α := ExceptT.mk (pure r)

/-- Adds a line to the log. -/
def note (level : LogLevel) (text : String) : Activity Unit :=
  ExceptT.mk (Program.note ⟨level, text⟩ (pure (.ok ())))

/-- Calls the domain and ends with whatever comes back. -/
def attempt (c : Call) : Program Outside Note (Except DeployError Reading) :=
  Program.request (S := Outside) (.call c)

/-- Calls the domain. -/
def call (c : Call) : Activity Reading := ExceptT.mk (attempt c)

/-- Reads an attribute. -/
def get (object : ObjectName) (name : String) : Activity Reading := call (.get object name)

/-- Reads a reference, which must not be null. -/
def getReference (object : ObjectName) (name : String) : Activity ObjectName := do
  match ← ofResult (← get object name).toReference with
  | some found => pure found
  | none => throw (.protocol (.nullReference name object))

/-- Reads a list of references. -/
def getReferences (object : ObjectName) (name : String) : Activity (List ObjectName) := do
  ofResult (← get object name).toReferences

/-- Reads a text. -/
def getText (object : ObjectName) (name : String) : Activity String := do
  ofResult (← get object name).toText

/-- Sleeps for so many nanoseconds; a sleep that does not end by itself has been cancelled. -/
def sleep (time : Nat) : Activity Unit :=
  ExceptT.mk (Program.ask (S := Outside) (.sleep time) fun woke =>
    pure (if woke then .ok () else .error .cancelled))

/-- The first of the objects whose name reads as `name`; those behind it are not asked. -/
def firstNamed (name : String) : List ObjectName → Activity (Option ObjectName)
  | [] => pure none
  | object :: rest => do
    if (← getText object "Name") == name then pure (some object) else firstNamed name rest

end Activity

end DomainDeploy
