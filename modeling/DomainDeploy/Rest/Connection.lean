import DomainDeploy.Configuration
import DomainDeploy.Rest.Channel
import DomainDeploy.Trust.Certificate
import DomainDeploy.Trust.Roots

/-!
# Connecting to the management endpoint

A connection is opened with the certificates that the trust context asks for, and one read with the
credentials proves that the endpoint is there.  `Rest.bridge` then carries out whatever an operation
asks of its surroundings: calls become requests over the channel that has been opened last.
-/

namespace DomainDeploy.Rest

/-- What is read to prove that the endpoint is there. -/
def probed : ObjectName := ⟨"domainRuntime"⟩

/-- Why the endpoint counts as unreachable, from the error of the first read. -/
def unreachable (management : AdminUrl) (e : DeployError) : DeployError :=
  .connect (.unreachable management.display e.message)

/-- Reads once, to prove that the endpoint is there. -/
def probe (management : AdminUrl) (channel : Channel) : Exchange Unit := ExceptT.mk do
  let result ← (channel.get probed "name").run
  return (result.map fun _ => ()).mapError (unreachable management)

/-- Notes lines and ends with a result that is known already. -/
def noting {α : Type} (r : Except DeployError α × List Note) : Exchange α :=
  ExceptT.mk (Program.noteAll r.2 (pure r.1))

/-- Opens a channel to the management endpoint of a configuration. -/
def connect (files : FileSystem) (environment : String → Option String) (c : Configuration) :
    Exchange Channel := do
  let certificates ← noting (c.trust.roots files environment)
  if !certificates.all Trust.Certificate.isWellFormed then
    throw (.connect .certificatesUnusable)
  let channel ← Exchange.ofResult
    (Channel.ofBase c.management.httpBase c.userName c.password c.logMessages)
  probe c.management channel
  Exchange.note .info s!"Connected to the management endpoint at {c.management.display}"
  return channel

/-- Carries out what an operation asks, given the channel that has been opened last. -/
def bridge (files : FileSystem) (environment : String → Option String) (c : Configuration) :
    Program.Bridge Outside Wire Note (Option Channel)
  | .connect, _ => do
    match ← (connect files environment c).run with
    | .ok channel => return (.ok (), some channel)
    | .error e => return (.error e, none)
  | .call question, some channel => return (← (channel.call files question).run, some channel)
  | .call _, none => return (.error (.protocol .channelClosed), none)
  | .disconnect, some channel => return (.ok (), some (← channel.close))
  | .disconnect, none => return (.ok (), none)
  | .runTool command timeout, channel =>
    return (← Program.request (S := Wire) (.runTool command timeout), channel)
  | .sleep time, channel => return (← Program.request (S := Wire) (.sleep time), channel)

end DomainDeploy.Rest
