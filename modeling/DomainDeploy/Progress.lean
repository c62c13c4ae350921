import DomainDeploy.Outside
import DomainDeploy.Text.Duration

/-!
# Waiting for an operation

An operation that the domain carries out has a progress object, whose state is read again and again
until it is terminal or the wait is used up.  Whatever comes of it, the progress object is released
at the end, and a release that fails only goes to the log.

Two ends of waiting are not told here.  An interval of zero never uses a wait up, so nothing but a
terminal state, an error or a cancelled sleep ends the reading then; a program here has an end, and
takes the place of such a reading by `PollOptions.endless` rounds with the outcome `unknown` behind
them, which no reading without an end comes to.  And the time waited has no longest value here, where
a wait of 2^64 seconds is more than a duration can hold and breaks the program off.  With an interval
above zero the bound on the rounds is not seen (`sampleFrom_of_patience_le`), and the wait of a
configuration never gets that long (`lastRound_ofConfiguration`).
-/

namespace DomainDeploy

/-- What the domain keeps of an operation under way. -/
structure ProgressHandle where
  object : ObjectName
  /-- The deployment manager that holds the progress object. -/
  manager : ObjectName
  /-- The application that the operation is about. -/
  application : String
deriving DecidableEq, Repr

/-- A second in nanoseconds. -/
def oneSecond : Nat := 1000000000

/-- How often and how long the state is read; both in nanoseconds. -/
structure PollOptions where
  interval : Nat := oneSecond
  maxWait : Nat := 200 * oneSecond
deriving DecidableEq, Repr

/-- Where waiting came to its end. -/
inductive TerminalState where
  | completed
  | failed
  /-- The wait was used up first; often the domain does not tell, so this is no failure. -/
  | unknown
deriving DecidableEq, Repr

/-- The state as a word. -/
def TerminalState.name : TerminalState → String
  | completed => "Completed"
  | failed => "Failed"
  | unknown => "Unknown"

/-- The terminal state that a reading shows, if it shows one. -/
def TerminalState.ofReading? : Reading → Option TerminalState
  | .text s =>
    if s == "STATE_COMPLETED" then some completed
    else if s == "STATE_FAILED" then some failed
    else none
  | _ => none

/-- How many sleeps stand for reading without an end, as there is with an interval of zero, which
never uses up the wait. -/
def PollOptions.endless : Nat := Nat.pow 2 64

/-- No fewer sleeps than it takes to use up the wait, since a sleep takes a nanosecond at least
unless the interval is zero. -/
def PollOptions.patience (o : PollOptions) : Nat :=
  if o.interval == 0 then endless else o.maxWait

theorem PollOptions.patience_of_pos {o : PollOptions} (positive : 0 < o.interval) :
    o.patience = o.maxWait := if_neg (by simpa using Nat.ne_of_gt positive)

namespace ProgressHandle

open Activity

/-- Reads the state once, after `waited` nanoseconds of sleep. -/
def look (h : ProgressHandle) (waited : Nat) : Activity (Option TerminalState) := do
  let reading ← get h.object "State"
  match TerminalState.ofReading? reading with
  | some state => return some state
  | none =>
    note .debug s!"{h.application} is {reading.shown} after {Text.duration waited}"
    return none

/-- Reads the state until it is terminal or the wait is used up, when `waited` nanoseconds have been
slept and the patience is for so many sleeps more.  The outcome `unknown` at the end of the patience
is one of the program only if the wait is used up there as well: with an interval of zero the program
reads on. -/
def sampleFrom (h : ProgressHandle) (o : PollOptions) (waited : Nat) : Nat → Activity TerminalState
  | 0 => return (← h.look waited).getD .unknown
  | left + 1 => do
    match ← h.look waited with
    | some state => return state
    | none =>
      if o.maxWait ≤ waited then return .unknown
      else
        sleep o.interval
        sampleFrom h o (waited + o.interval) left

/-- Reads the state until it is terminal or the wait is used up. -/
def sample (h : ProgressHandle) (o : PollOptions) : Activity TerminalState :=
  h.sampleFrom o 0 o.patience

/-- What went wrong on a target, as far as the domain tells. -/
def detailOf : Except DeployError Reading → String
  | .ok (.text text) => text
  | .ok (.texts (first :: rest)) => "; ".intercalate (first :: rest)
  | .ok _ => "no error detail was reported"
  | .error e => s!"the error detail could not be read: {e.message}"

/-- The targets on which the operation failed; what cannot be read is none. -/
def failedTargets (h : ProgressHandle) : Program Outside Note (List String) := do
  match ← attempt (.get h.object "FailedTargets") with
  | .ok reading => return reading.toTexts.toOption.getD []
  | .error e =>
    Program.say ⟨.warn, s!"Failed to read the failed targets of {h.application}: {e.message}"⟩
    return []

/-- The error of an operation that the domain reports as failed: the first failed target and what
went wrong there. -/
def failure (h : ProgressHandle) : Program Outside Note DeployError := do
  match ← h.failedTargets with
  | [] => return .deploymentFailed "unknown" "the server reported no failed target"
  | target :: _ =>
    let arguments := Json.object [("target", .string target)]
    let reply ← attempt (.invoke h.object "getExceptions" arguments)
    return .deploymentFailed target (detailOf reply)

/-- Asks the domain to drop the progress object. -/
def release (h : ProgressHandle) : Program Outside Note Unit := do
  let arguments := Json.object [("applicationName", .string h.application)]
  match ← attempt (.invoke h.manager "removeDeploymentProgressObject" arguments) with
  | .ok _ => Program.say ⟨.debug, s!"Released progress object {h.object.display}"⟩
  | .error e =>
    Program.say
      ⟨.warn, s!"Failed to release progress object {h.object.display}: {e.message}"⟩

/-- What waiting comes to: an operation that failed is an error. -/
def verdict (h : ProgressHandle) :
    Except DeployError TerminalState → Program Outside Note (Except DeployError TerminalState)
  | .ok .failed => return .error (← h.failure)
  | .ok state => do
    Program.say ⟨.info, s!"{h.application} reached {state.name}"⟩
    return .ok state
  | .error e => return .error e

/-- Waits for the operation and releases the progress object. -/
def poll (h : ProgressHandle) (o : PollOptions) : Activity TerminalState := ExceptT.mk do
  let outcome ← h.verdict (← (h.sample o).run)
  h.release
  return outcome

end ProgressHandle

end DomainDeploy
