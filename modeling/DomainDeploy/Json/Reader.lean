import DomainDeploy.Json.Lexeme

/-!
# Reading JSON values

`readValue` reads any value; arrays and objects may be nested 127 deep.  `skim` goes over a value
that nobody wants: it follows the grammar, but neither the nesting nor the size of a number nor
what an escape spells is looked at.
-/

namespace DomainDeploy.Json

/-- The deepest nesting that is read, plus one. -/
def depthLimit : Nat := 128

/-- Reads the items of a list. -/
def itemsOf {α : Type} (item : Reader α) (first : Bool) : Nat → Reader (List α)
  | 0 => failHere .endInList
  | fuel + 1 => do
    if ← moreItems first then
      let a ← item
      return a :: (← itemsOf item false fuel)
    else pure []

/-- Reads the members of an object. -/
def membersOf {α : Type} (value : String → Reader α) (first : Bool) :
    Nat → Reader (List (String × α))
  | 0 => failHere .endInObject
  | fuel + 1 => do
    if ← moreMembers first then
      eat
      let name ← restOfText
      colon
      let a ← value name
      return (name, a) :: (← membersOf value false fuel)
    else pure []

/-- A list or an object cannot have more items than there are characters left. -/
def withFuel {α : Type} (r : Nat → Reader α) : Reader α := fun cur => r (cur.rest.length + 1) cur

/-- Reads a value with `depth` levels left; the objects read keep their members sorted. -/
def valueAt : Nat → Reader Json
  | 0 => failHere .tooDeep
  | depth + 1 => do
    match ← peekValue with
    | 'n' => do eat; word ['u', 'l', 'l']; pure .null
    | 't' => do eat; word ['r', 'u', 'e']; pure (.bool true)
    | 'f' => do eat; word ['a', 'l', 's', 'e']; pure (.bool false)
    | '-' => do eat; return .number (← numberText false)
    | '"' => do eat; return .string (← restOfText)
    | '[' =>
      if depth == 0 then failAhead .tooDeep
      else
        eat
        return .array (← closing (withFuel (itemsOf (valueAt depth) true)) endList)
    | '\x7b' =>
      if depth == 0 then failAhead .tooDeep
      else
        eat
        let members ← closing (withFuel (membersOf (fun _ => valueAt depth) true)) endObject
        return .object (sortMembers members)
    | c => if isDigit c then return .number (← numberText true) else failAhead .expectedValue

/-- Reads any value. -/
def readValue : Reader Json := valueAt depthLimit

mutual

/-- Goes over one value. -/
def skimValue : Nat → Reader Unit
  | 0 => failHere .endInValue
  | fuel + 1 => do
    match ← peekValue with
    | 'n' => do eat; word ['u', 'l', 'l']
    | 't' => do eat; word ['r', 'u', 'e']
    | 'f' => do eat; word ['a', 'l', 's', 'e']
    | '-' => do eat; skimNumber
    | '"' => do eat; skimText
    | '[' =>
      eat
      match ← peekToken with
      | some ']' => eat
      | some _ => skimItems fuel
      | none => failAhead .endInList
    | '\x7b' =>
      eat
      match ← peekToken with
      | some '\x7d' => eat
      | some _ => skimMembers fuel
      | none => failAhead .endInObject
    | c => if isDigit c then skimNumber else failAhead .expectedValue

/-- Goes over the items of a list, from an item on. -/
def skimItems : Nat → Reader Unit
  | 0 => failHere .endInList
  | fuel + 1 => do
    skimValue fuel
    match ← peekToken with
    | some ']' => eat
    | some ',' => do eat; skimItems fuel
    | some _ => failAhead .expectedListEnd
    | none => failAhead .endInList

/-- Goes over the members of an object, from a name on. -/
def skimMembers : Nat → Reader Unit
  | 0 => failHere .endInObject
  | fuel + 1 => do
    match ← peekToken with
    | some '"' => eat
    | some _ => failAhead .nameNotText
    | none => failAhead .endInObject
    skimText
    match ← peekToken with
    | some ':' => eat
    | some _ => failAhead .expectedColon
    | none => failAhead .endInObject
    skimValue fuel
    match ← peekToken with
    | some '\x7d' => eat
    | some ',' => do eat; skimMembers fuel
    | some _ => failAhead .expectedObjectEnd
    | none => failAhead .endInObject

end

/-- Goes over a value that nobody wants. -/
def skim : Reader Unit := fun cur => skimValue (2 * cur.rest.length + 2) cur

/-- Reads a whole text with `r`: only white space may follow the value. -/
def readText {α : Type} (r : Reader α) (text : String) : Except Fault α :=
  let chars := text.toList
  let whole : Reader α := do
    let a ← r
    match ← peekToken with
    | none => pure a
    | some _ => failAhead .trailingText
  match whole ⟨chars, 0⟩ with
  | .ok (a, _) => .ok a
  | .error (.placed cause offset) => .error (.locate chars cause offset)
  | .error (.floating cause reached) => .error (.locate chars cause reached.offset)

/-- Reads a text as a value. -/
def parse (text : String) : Except Fault Json := readText readValue text

end DomainDeploy.Json
