import DomainDeploy.DeployError

/-!
# What a domain answers with

A `Reading` is the value of an attribute or the result of an operation.  Whoever asks wants one kind
of value; null stands for no reference and for an empty list, and a single value stands for the list
of it.
-/

namespace DomainDeploy

/-- The value of an attribute or the result of an operation. -/
inductive Reading where
  | null
  | bool (b : Bool)
  | number (n : Int)
  | text (s : String)
  | texts (items : List String)
  | reference (name : ObjectName)
  | references (names : List ObjectName)
deriving DecidableEq, Repr

namespace Reading

/-- The kind of value. -/
def kind : Reading → ValueKind
  | null => .null
  | bool _ => .boolean
  | number _ => .number
  | text _ => .text
  | texts _ => .texts
  | reference _ => .reference
  | references _ => .references

/-- The complaint that another kind of value was wanted. -/
def refuse {α : Type} (r : Reading) (wanted : ValueKind) : Except DeployError α :=
  .error (.protocol (.wrongKind wanted r.kind))

/-- The value as a text. -/
def toText : Reading → Except DeployError String
  | text s => .ok s
  | r => r.refuse .text

/-- The value as a list of texts. -/
def toTexts : Reading → Except DeployError (List String)
  | texts items => .ok items
  | text s => .ok [s]
  | null => .ok []
  | r => r.refuse .texts

/-- The value as a reference, or none. -/
def toReference : Reading → Except DeployError (Option ObjectName)
  | reference name => .ok (some name)
  | null => .ok none
  | r => r.refuse .reference

/-- The value as a list of references. -/
def toReferences : Reading → Except DeployError (List ObjectName)
  | references names => .ok names
  | reference name => .ok [name]
  | null => .ok []
  | r => r.refuse .references

/-- Items in brackets. -/
def listed (items : List String) : String := "[" ++ ", ".intercalate items ++ "]"

/-- An object name as it is shown in the log. -/
def shownName (name : ObjectName) : String := s!"ObjectName({Text.quoted name.path})"

/-- The value as it is shown in the log. -/
def shown : Reading → String
  | null => "Null"
  | bool b => s!"Bool({b})"
  | number n => s!"Number({n})"
  | text s => s!"Text({Text.quoted s})"
  | texts items => s!"Texts({listed (items.map Text.quoted)})"
  | reference name => s!"Ref({shownName name})"
  | references names => s!"Refs({listed (names.map shownName)})"

end Reading

end DomainDeploy
