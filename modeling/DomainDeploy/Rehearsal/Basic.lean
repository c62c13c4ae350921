import DomainDeploy.Rehearsal.Clock
import DomainDeploy.Rehearsal.Domain
import DomainDeploy.Rehearsal.Tool
import DomainDeploy.Wire

/-!
# Rehearsals

A rehearsal is everything that an operation may ask, known in advance: the domain, or the server
that stands for it, the tool and the clock, together with the files that the tool is looked for in.
It answers every question, so an operation can be played against it from beginning to end.
-/

namespace DomainDeploy

/-- Surroundings that are known in advance. -/
structure Rehearsal where
  domain : RehearsedDomain := {}
  /-- What opening a channel fails with, if it does. -/
  refusal : Option DeployError := none
  tool : Option RehearsedTool := none
  clock : RehearsedClock := {}
  files : FileSystem := .empty
  /-- What requests are answered with; unless told otherwise nobody listens. -/
  server : Http.Request → Http.Reply := fun _ => .lost

namespace Rehearsal

/-- Opens a channel. -/
def open? (r : Rehearsal) : Except DeployError Unit :=
  match r.refusal with
  | some e => .error e
  | none => .ok ()

/-- Answers what an operation asks. -/
def outside : Program.Responder Outside Rehearsal
  | .connect, r => (r.open?, r)
  | .call c, r =>
    let (reply, domain) := r.domain.answer c
    (reply, { r with domain })
  | .disconnect, r => (r.domain.close, r)
  | .runTool command _, r => (RehearsedTool.run r.tool r.files r.clock.isCancelled command, r)
  | .sleep _, r =>
    let (woke, clock) := r.clock.sleep
    (woke, { r with clock })

/-- Answers what is asked behind a management channel. -/
def wire : Program.Responder Wire Rehearsal
  | .send request, r => (r.server request, r)
  | .runTool command _, r => (RehearsedTool.run r.tool r.files r.clock.isCancelled command, r)
  | .sleep _, r =>
    let (woke, clock) := r.clock.sleep
    (woke, { r with clock })

end Rehearsal

end DomainDeploy
