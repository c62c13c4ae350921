import DomainDeploy.Outside

/-!
# A domain that is known in advance

A rehearsed domain has replies for every attribute and every operation.  Calls of one kind get them
one after the other, and the last one stays for good; a domain with one reply for each key never
changes, whatever it is asked.
-/

namespace DomainDeploy

/-- The replies of each attribute or operation, under its key. -/
abbrev ReplyTable := List (String × List (Except DeployError Reading))

/-- The reply for a key and the table after it; the last reply of a key is never used up. -/
def ReplyTable.next? (key : String) : ReplyTable → Option (Except DeployError Reading × ReplyTable)
  | [] => none
  | (k, replies) :: rest =>
    if k == key then
      match replies with
      | [] => none
      | [reply] => some (reply, (k, [reply]) :: rest)
      | reply :: more => some (reply, (k, more) :: rest)
    else (next? key rest).map fun (reply, rest) => (reply, (k, replies) :: rest)

/-- A domain whose replies are known in advance. -/
structure RehearsedDomain where
  attributes : ReplyTable := []
  operations : ReplyTable := []
  /-- What closing a channel fails with, if it does. -/
  closing : Option DeployError := none

namespace RehearsedDomain

/-- The key of an attribute or an operation. -/
def key (object : ObjectName) (name : String) : String := s!"{object.path}#{name}"

/-- Reads an attribute. -/
def get (d : RehearsedDomain) (object : ObjectName) (name : String) :
    Except DeployError Reading × RehearsedDomain :=
  match d.attributes.next? (key object name) with
  | some (reply, attributes) => (reply, { d with attributes })
  | none => (.error (.protocol (.noAttribute name object)), d)

/-- Invokes an operation, whatever its arguments. -/
def invoke (d : RehearsedDomain) (object : ObjectName) (operation : String) :
    Except DeployError Reading × RehearsedDomain :=
  match d.operations.next? (key object operation) with
  | some (reply, operations) => (reply, { d with operations })
  | none => (.error (.protocol (.noOperation operation object)), d)

/-- Answers a call; a file that is sent along changes nothing. -/
def answer (d : RehearsedDomain) : Call → Except DeployError Reading × RehearsedDomain
  | .get object name => d.get object name
  | .invoke object operation _ | .upload object operation _ _ => d.invoke object operation

/-- Closes a channel. -/
def close (d : RehearsedDomain) : Except DeployError Unit :=
  match d.closing with
  | some e => .error e
  | none => .ok ()

end RehearsedDomain

end DomainDeploy
