import DomainDeploy.Http.Message
import DomainDeploy.Outside

/-!
# What a management channel asks of its surroundings

Behind a channel to the domain there are only requests and replies.  The tool and the clock stay
what they are.
-/

namespace DomainDeploy

namespace Wire

/-- What may be asked. -/
inductive Question where
  | send (request : Http.Request)
  /-- Runs the tool and waits for it, for so many milliseconds at most. -/
  | runTool (command : ToolCommand) (timeout : Nat)
  /-- Sleeps for so many milliseconds. -/
  | sleep (time : Nat)

/-- What it is answered with. -/
abbrev Answer : Question → Type
  | .send _ => Http.Reply
  | .runTool .. => ToolEnd
  | .sleep _ => Bool

end Wire

/-- The questions of an operation once its channel is a matter of requests. -/
abbrev Wire : Signature := ⟨Wire.Question, Wire.Answer⟩

/-- A program that exchanges requests and ends with a value or an error. -/
abbrev Exchange (α : Type) := ExceptT DeployError (Program Wire Note) α

namespace Exchange

/-- Ends with a result that is known already. -/
def ofResult {α : Type} (r : Except DeployError α) : Exchange α := ExceptT.mk (pure r)

/-- Adds a line to the log. -/
def note (level : LogLevel) (text : String) : Exchange Unit :=
  ExceptT.mk (Program.note ⟨level, text⟩ (pure (.ok ())))

/-- Sends a request and waits for the reply. -/
def send (request : Http.Request) : Exchange Http.Reply :=
  ExceptT.mk (Program.ask (S := Wire) (.send request) fun reply => pure (.ok reply))

end Exchange

end DomainDeploy
