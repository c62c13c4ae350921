import DomainDeploy.FileSystem.Name
import DomainDeploy.Rest.Reading
import DomainDeploy.Rest.Resource
import DomainDeploy.Url.Parser
import DomainDeploy.Wire

/-!
# Channels to the management endpoint

A channel turns calls into requests: an attribute is read by reading the resource that holds it,
and an operation is invoked by posting its arguments to a resource below the object.  Some
attributes only say where to look next; these need no request.  A channel that has been closed sends
nothing any more.
-/

namespace DomainDeploy.Rest

/-- A channel to the management endpoint. -/
structure Channel where
  base : Url
  userName : String
  password : String
  /-- Replies go to the log. -/
  logMessages : Bool
  isClosed : Bool := false

namespace Channel

/-- Where the resources start, seen from the base. -/
def apiRoot : List String := ["management", "weblogic", "latest"]

/-- What requests say about who made them. -/
def requester : String := "wlsdeployer"

/-- A channel to the endpoint at an address; slashes at its end do not count. -/
def ofBase (base userName password : String) (logMessages : Bool) : Except DeployError Channel :=
  match Url.parse (Text.trimTrailing '/' base) with
  | .ok url => .ok ⟨url, userName, password, logMessages, false⟩
  | .error fault => .error (.configuration (.managementUrlInvalid base fault))

/-- The URL of an object's resource, or of an operation below it. -/
def resourceUrl (c : Channel) (object : ObjectName) (operation : Option String) :
    Except DeployError Url :=
  match c.base.extend? (apiRoot ++ object.segments.filter (· != "") ++ operation.toList) with
  | some url => .ok url
  | none => .error (.configuration (.notABase c.base.toText))

/-- Fails when the channel has been closed. -/
def ensureOpen (c : Channel) : Exchange Unit :=
  if c.isClosed then throw (.protocol .channelClosed) else pure ()

/-- What a successful reply says; blanks say null. -/
def parseBody (body : String) : Except DeployError Json :=
  if Text.isAllBlank body then .ok .null
  else ((Json.parse body).map Json.sorted).mapError .json

/-- Reads a reply.  A body that broke off reads as an empty one. -/
def readReply (c : Channel) (method : Http.Method) (url : Url) (status : Nat) (bytes : List UInt8)
    (complete : Bool) : Exchange Json := do
  let body := if complete then Text.Utf8.decodeLenient bytes else ""
  let request := s!"{method.name} {url.toText}"
  if c.logMessages then
    Exchange.note .debug s!"{request} -> {Http.statusText status} {body}"
  if Http.isSuccess status then Exchange.ofResult (parseBody body)
  else
    Exchange.note .error s!"{request} failed: {Http.statusText status} - {body}"
    throw (.protocol (.refused (Http.statusText status) body))

/-- What every request says about itself. -/
def headers : Http.Method → List (String × String)
  | .get => [("X-Requested-By", requester), ("Accept", "application/json")]
  | .post =>
    [("X-Requested-By", requester), ("Accept", "application/json"), ("Prefer", "respond-async")]

/-- Sends a request and reads the reply.  Credentials in the URL are not sent as part of it. -/
def exchange (c : Channel) (method : Http.Method) (url : Url) (body : Http.Body) :
    Exchange Json := do
  let sent := url.withoutCredentials
  if !Http.canSendTo sent then throw (.transport (.unsendable sent.toText))
  match ← Exchange.send ⟨method, sent, c.userName, c.password, headers method, body⟩ with
  | .lost => throw (.transport (.unanswered sent.toText))
  | .answered status bytes complete => c.readReply method url status bytes complete

/-- Reads some fields of a resource. -/
def get (c : Channel) (object : ObjectName) (fields : String) : Exchange Json := do
  c.ensureOpen
  let url ← Exchange.ofResult (c.resourceUrl object none)
  let url := url.addQuery [("fields", fields), ("links", "none")]
  Exchange.note .debug s!"GET {url.toText}"
  c.exchange .get url .nothing

/-- Posts arguments to an operation of an object. -/
def post (c : Channel) (object : ObjectName) (operation : String) (arguments : Json) :
    Exchange Json := do
  c.ensureOpen
  let url ← Exchange.ofResult (c.resourceUrl object (some operation))
  Exchange.note .debug s!"POST {url.toText}"
  if c.logMessages then
    Exchange.note .debug s!"POST {url.toText} body: {arguments.compact}"
  c.exchange .post url (.json arguments.compact)

/-- The form that sends a file along with arguments. -/
def uploadForm (arguments : Json) (fileName : String) (bytes : List UInt8) : List Http.Part := [
  ⟨"model", none, "application/json", Text.Utf8.encode arguments.compact⟩,
  ⟨"sourcePath", some fileName, "application/octet-stream", bytes⟩]

/-- Posts arguments and a file to an operation of an object. -/
def upload (c : Channel) (files : FileSystem) (object : ObjectName) (operation : String)
    (arguments : Json) (file : String) : Exchange Json := do
  c.ensureOpen
  let bytes ← Exchange.ofResult ((files.bytesAt file).mapError .file)
  let fileName := (FileSystem.fileName? file).getD "deployment"
  let url ← Exchange.ofResult (c.resourceUrl object (some operation))
  Exchange.note .debug
    s!"POST {url.toText} (upload of {fileName}, {bytes.length} bytes)"
  c.exchange .post url (.form (uploadForm arguments fileName bytes))

/-- The items of a collection that have a name. -/
def itemsOf (collection : ObjectName) (body : Json) : List ObjectName :=
  let items := ((body.member? "items").bind Json.items?).getD []
  (items.filterMap fun item => (item.member? "name").bind Json.text?).map collection.child

/-- What a resource leaves out although it is known from where the resource stands. -/
def byPlace (object : ObjectName) (name : String) : Reading :=
  if name == "Type" then ((typeByCollection object).map Reading.text).getD .null
  else if name == "Name" then .text (lastName object)
  else .null

/-- References are a list, also when there is only one of them. -/
def asList : Reading → Reading
  | .reference name => .references [name]
  | reading => reading

/-- Reads an attribute of an object. -/
def getAttribute (c : Channel) (object : ObjectName) (name : String) : Exchange Reading := do
  match AttributeKind.of name with
  | .child => return .reference (below object name)
  | .children =>
    let collection := below object name
    return .references (itemsOf collection (← c.get collection "name"))
  | .references =>
    let body ← c.get object (fieldName name)
    match body.member? (fieldName name) with
    | some value => return asList (Reading.ofJson configurationTree value)
    | none => return .null
  | .field =>
    let body ← c.get object (fieldName name)
    match body.member? (fieldName name) with
    | some value => return Reading.ofJson (treeOf object) value
    | none => return byPlace object name

/-- What an operation of an object came to: what it returns, or else the resource that it made. -/
def operationResult (object : ObjectName) (body : Json) : Reading :=
  match body.member? "return" with
  | some value => Reading.ofJson (treeOf object) value
  | none =>
    match body.member? "identity" with
    | some _ => Reading.ofJson (treeOf object) body
    | none => .null

/-- Carries out a call. -/
def call (c : Channel) (files : FileSystem) : Call → Exchange Reading
  | .get object name => c.getAttribute object name
  | .invoke object operation arguments =>
    return operationResult object (← c.post object operation arguments)
  | .upload object operation arguments file =>
    return operationResult object (← c.upload files object operation arguments file)

/-- Closes the channel; once is enough. -/
def close (c : Channel) : Program Wire Note Channel :=
  if c.isClosed then pure c
  else Program.note ⟨.debug, s!"Closed management channel to {c.base.toText}"⟩
    (pure { c with isClosed := true })

end Channel

end DomainDeploy.Rest
