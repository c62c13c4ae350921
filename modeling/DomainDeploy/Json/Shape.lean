import DomainDeploy.Json.Reader

/-!
# Reading values of a known shape

Readers for texts, flags, numbers, lists and named choices that say what they wanted when they find
something else, and `record`, which reads a structure from an object or from an array.

An object may list the fields of a record in any order and hold members of other names, which are
skimmed; a field must not occur twice.  An array holds the values in the order of the fields.
A field that is left out takes its default, or is reported when it has none.
-/

namespace DomainDeploy.Json

variable {α σ : Type}

/-- Reports the value at the front, which is not of the `expected` kind. -/
def refuse (expected : String) : Reader α := placeLate do
  match ← peek with
  | some 'n' => do eat; word ['u', 'l', 'l']; failLater (.wrongType .null expected)
  | some 't' => do eat; word ['r', 'u', 'e']; failLater (.wrongType (.bool true) expected)
  | some 'f' => do eat; word ['a', 'l', 's', 'e']; failLater (.wrongType (.bool false) expected)
  | some '-' => do eat; failLater (.wrongType (.number (← numberText false)) expected)
  | some '"' => do eat; failLater (.wrongType (.string (← restOfText)) expected)
  | some '[' => failLater (.wrongType .sequence expected)
  | some '\x7b' => failLater (.wrongType .map expected)
  | some c =>
    if isDigit c then failLater (.wrongType (.number (← numberText true)) expected)
    else failAhead .expectedValue
  | none => failAhead .expectedValue

/-- Reads a text; anything else is reported as not being what was `expected`. -/
def textAs (expected : String) : Reader String := do
  match ← peekValue with
  | '"' => do eat; restOfText
  | _ => refuse expected

/-- Reads a text. -/
def text : Reader String := textAs "a string"

/-- Reads a truth value. -/
def flag : Reader Bool := do
  match ← peekValue with
  | 't' => do eat; word ['r', 'u', 'e']; pure true
  | 'f' => do eat; word ['a', 'l', 's', 'e']; pure false
  | _ => refuse "a boolean"

/-- Takes a number that is natural and has at most `bits` bits. -/
def asNatural (bits : Nat) (n : Number) : Reader Nat := placeLate do
  let expected := s!"u{bits}"
  match n with
  | .natural n =>
    if n < Nat.pow 2 bits then pure n else failLater (.wrongValue (.number (.natural n)) expected)
  | .negative n => failLater (.wrongValue (.number (.negative n)) expected)
  | .float x => failLater (.wrongType (.number (.float x)) expected)

/-- Reads a natural number of at most `bits` bits. -/
def natural (bits : Nat) : Reader Nat := do
  let c ← peekValue
  if c == '-' then
    eat
    asNatural bits (← numberText false)
  else if isDigit c then asNatural bits (← numberText true)
  else refuse s!"u{bits}"

/-- Reads nothing but null. -/
def nothing : Reader Unit := do
  match ← peekValue with
  | 'n' => do eat; word ['u', 'l', 'l']
  | _ => refuse "unit"

/-- Reads null as `none` and anything else with `r`. -/
def optional (r : Reader α) : Reader (Option α) := do
  match ← peekToken with
  | some 'n' => do eat; word ['u', 'l', 'l']; pure none
  | _ => return some (← r)

/-- Reads a list of values. -/
def list (r : Reader α) : Reader (List α) := placeLate do
  match ← peekValue with
  | '[' => do
    eat
    closing (withFuel (itemsOf r true)) endList
  | _ => refuse "a sequence"

/-- Takes the name of a choice. -/
def choose (choices : List (String × α)) (name : String) : Reader α :=
  match choices.lookup name with
  | some a => pure a
  | none => failLater (.unknownVariant name (choices.map (·.1)))

/-- Reads the name of a choice. -/
def choiceName (choices : List (String × α)) : Reader α := placeLate do
  choose choices (← textAs "variant identifier")

/-- Reads one of several named choices: its name, or an object that maps the name to null. -/
def choice (choices : List (String × α)) : Reader α := do
  match ← peekValue with
  | '"' => choiceName choices
  | '\x7b' => do
    eat
    let a ← choiceName choices
    colon
    nothing
    match ← peekToken with
    | some '\x7d' => do eat; pure a
    | some _ => failHere .expectedValue
    | none => failHere .endInObject
  | _ => failAhead .expectedValue

/-- A field of a record: how its value is read, and whether it may be left out. -/
structure Field (σ : Type) where
  name : String
  read : Reader (σ → σ)
  required : Bool

/-- The field of that name. -/
def fieldNamed (fields : List (Field σ)) (name : String) : Option (Field σ) :=
  fields.find? (·.name == name)

/-- Reads the members of a record; `seen` names the fields that have been read. -/
def recordMembers (fields : List (Field σ)) (first : Bool) (seen : List String) (s : σ) :
    Nat → Reader σ
  | 0 => failHere .endInObject
  | fuel + 1 => do
    if ← moreMembers first then
      eat
      let name ← restOfText
      match fieldNamed fields name with
      | none =>
        colon
        skim
        recordMembers fields false seen s fuel
      | some field =>
        if seen.contains name then failLater (.duplicateField name)
        else
          colon
          let update ← field.read
          recordMembers fields false (name :: seen) (update s) fuel
    else
      match fields.find? fun f => f.required && !seen.contains f.name with
      | some missing => failLater (.missingField missing.name)
      | none => pure s

/-- Reads the values of the fields in their order; `count` of them have been read. -/
def recordItems (expected : String) (first : Bool) (count : Nat) (s : σ) :
    List (Field σ) → Reader σ
  | [] => pure s
  | field :: rest => do
    if ← moreItems first then
      let update ← field.read
      recordItems expected false (count + 1) (update s) rest
    else
      match (field :: rest).findIdx? (·.required) with
      | some i => failLater (.wrongLength (count + i) expected)
      | none => pure s

/-- Reads a record of the given fields, starting from the value `blank`. -/
def record (name : String) (blank : σ) (fields : List (Field σ)) : Reader σ := placeLate do
  match ← peekValue with
  | '[' => do
    eat
    let expected := s!"struct {name} with {fields.length} elements"
    closing (recordItems expected true 0 blank fields) endList
  | '\x7b' => do
    eat
    closing (withFuel (recordMembers fields true [] blank)) endObject
  | _ => refuse s!"struct {name}"

end DomainDeploy.Json
