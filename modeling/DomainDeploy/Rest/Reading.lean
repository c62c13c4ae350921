import DomainDeploy.Json.Printer
import DomainDeploy.Management.Reading

/-!
# Readings from JSON

A resource names another one by its identity: the names on the way to it from the root of a tree.
`Reading.ofJson` turns the value of a field into a reading; a list of identities becomes a list of
references only if every item is one, and what fits nothing else becomes its own text.
-/

namespace DomainDeploy

/-- The object that an identity names in a tree. -/
def ObjectName.ofIdentity? (tree : String) (identity : List Json) : Option ObjectName :=
  (identity.mapM Json.text?).map fun names => names.foldl ObjectName.child ⟨tree⟩

namespace Json

/-- The identity that a value holds as a member of that name. -/
def identityMember? (value : Json) : Option (List Json) :=
  (value.member? "identity").bind Json.items?

/-- The identity that an item of a list holds, or is. -/
def identity? (item : Json) : Option (List Json) :=
  match item with
  | array items => if items.all Json.isText && !items.isEmpty then some items else none
  | _ => item.identityMember?

end Json

namespace Reading

/-- A list of identities, or else the text of the list. -/
def ofItems (tree : String) (items : List Json) : Reading :=
  match items.mapM fun item => item.identity?.bind (ObjectName.ofIdentity? tree) with
  | some names => .references names
  | none => .text (Json.array items).compact

/-- The reading that the value of a field stands for, seen from a tree. -/
def ofJson (tree : String) (value : Json) : Reading :=
  match value with
  | .null => .null
  | .bool b => .bool b
  | .number n =>
    match n.toInt? with
    | some i => .number i
    | none => .text n.toText
  | .string s => .text s
  | .array [] => .null
  | .array items =>
    match items.mapM Json.text? with
    | some strings => .texts strings
    | none => ofItems tree items
  | .object _ =>
    match value.identityMember? with
    | some identity =>
      match ObjectName.ofIdentity? tree identity with
      | some name => .reference name
      | none => .null
    | none => .text value.compact

end Reading

end DomainDeploy
