import DomainDeploy.Management.ObjectName
import DomainDeploy.Url.Fault

/-!
# What goes wrong while a domain is asked
-/

namespace DomainDeploy

/-- The kinds of value that a domain answers with. -/
inductive ValueKind where
  | null
  | boolean
  | number
  | text
  | texts
  | reference
  | references
deriving DecidableEq, Repr

/-- The kind in words. -/
def ValueKind.message : ValueKind → String
  | null => "null"
  | boolean => "boolean"
  | number => "number"
  | text => "string"
  | texts => "string list"
  | reference => "object reference"
  | references => "object reference list"

/-- An answer that does not fit the question. -/
inductive ProtocolFault where
  | wrongKind (wanted got : ValueKind)
  | nullReference (name : String) (object : ObjectName)
  | channelClosed
  /-- An answer with a status other than success. -/
  | refused (status body : String)
  | urlMissing (server : String)
  | urlInvalid (server url : String) (fault : Url.Fault)
  | urlWithoutHost (url : String)
  | urlWithoutPort (url : String)
  | noAttribute (name : String) (object : ObjectName)
  | noOperation (name : String) (object : ObjectName)
  /-- A cause that comes from elsewhere, in its own words. -/
  | stated (text : String)
deriving DecidableEq

/-- The wording of a fault. -/
def ProtocolFault.message : ProtocolFault → String
  | wrongKind wanted got => s!"expected a {wanted.message}, got a {got.message}"
  | nullReference name object => s!"{name} of {object.display} is null"
  | channelClosed => "the management channel is closed"
  | refused status body => s!"{status}: {body}"
  | urlMissing server => s!"{server} advertised no URL"
  | urlInvalid server url fault => s!"{server} advertised an invalid URL {url}: {fault.message}"
  | urlWithoutHost url => s!"No host in {url}"
  | urlWithoutPort url => s!"No port in {url}"
  | noAttribute name object => s!"no attribute {name} on {object.display}"
  | noOperation name object => s!"no operation {name} on {object.display}"
  | stated text => text

/-- Why a request has no answer. -/
inductive TransportFault where
  /-- The request was sent, or tried to be, and nothing came back. -/
  | unanswered (url : String)
  /-- The request cannot be sent to such a URL. -/
  | unsendable (url : String)
  /-- A cause that comes from elsewhere, in its own words. -/
  | stated (text : String)
deriving DecidableEq

/-- The wording of a fault. -/
def TransportFault.message : TransportFault → String
  | unanswered url => s!"error sending request for url ({url})"
  | unsendable url => s!"builder error for url ({url})"
  | stated text => text

/-- Why no channel to the domain could be opened. -/
inductive ConnectFault where
  /-- The certificates to trust are of no use. -/
  | certificatesUnusable
  /-- The first read failed. -/
  | unreachable (endpoint cause : String)
  /-- A cause that comes from elsewhere, in its own words. -/
  | stated (text : String)
deriving DecidableEq

/-- The wording of a fault. -/
def ConnectFault.message : ConnectFault → String
  | certificatesUnusable => "builder error"
  | unreachable endpoint cause =>
    s!"{endpoint} ({cause}). Verify the admin channel is reachable and no firewall blocks it"
  | stated text => text

/-- Why an operation could not be submitted. -/
inductive SubmissionFault where
  | toolNotStarted (program cause : String)
  | toolLost (cause : String)
  | toolTimedOut (seconds : Nat)
  | noProgressObject (name : String)
  /-- A cause that comes from elsewhere, in its own words. -/
  | stated (text : String)
deriving DecidableEq

/-- The wording of a fault. -/
def SubmissionFault.message : SubmissionFault → String
  | toolNotStarted program cause => s!"Failed to start {program}: {cause}"
  | toolLost cause => s!"Interrupted while waiting for the deployment tool: {cause}"
  | toolTimedOut seconds => s!"The deployment tool did not exit within {seconds}s"
  | noProgressObject name => s!"The deploy of {name} returned no progress object"
  | stated text => text

end DomainDeploy
