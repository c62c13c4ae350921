import DomainDeploy.Binary64.Basic

/-!
# JSON values

Members of an object are kept in the order in which they are written.  A number is a natural
number, the negative of one, or a binary floating point number.
-/

namespace DomainDeploy

/-- A JSON number as it is read: whole numbers of 64 bits stay whole. -/
inductive Json.Number where
  | natural (n : Nat)
  /-- The number `-n`. -/
  | negative (n : Nat)
  | float (x : Binary64)
deriving DecidableEq, Repr

/-- A JSON value. -/
inductive Json where
  | null
  | bool (b : Bool)
  | number (n : Json.Number)
  | string (s : String)
  | array (items : List Json)
  | object (members : List (String × Json))
deriving Repr, Inhabited

namespace Json

/-- The number as a whole number of 64 bits with a sign. -/
def Number.toInt? : Number → Option Int
  | .natural n => if n < Nat.pow 2 63 then some n else none
  | .negative n => if n ≤ Nat.pow 2 63 then some (-(n : Int)) else none
  | .float _ => none

/-- A whole number. -/
def ofInt : Int → Json
  | .ofNat n => number (.natural n)
  | .negSucc n => number (.negative (n + 1))

/-- A natural number. -/
def ofNat (n : Nat) : Json := number (.natural n)

/-- The member of that name, if the value is an object that has one. -/
def member? (name : String) : Json → Option Json
  | object members => members.lookup name
  | _ => none

/-- The text, if the value is one. -/
def text? : Json → Option String
  | string s => some s
  | _ => none

/-- The items, if the value is an array. -/
def items? : Json → Option (List Json)
  | array items => some items
  | _ => none

/-- Whether the value is a text. -/
def isText : Json → Bool
  | string _ => true
  | _ => false

/-- Puts a member where the byte order of the names wants it; a second value replaces the first. -/
def insertMember (name : String) (value : Json) : List (String × Json) → List (String × Json)
  | [] => [(name, value)]
  | (n, v) :: rest =>
    if name = n then (n, value) :: rest
    else if name < n then (name, value) :: (n, v) :: rest
    else (n, v) :: insertMember name value rest

/-- Members in the byte order of their names, the last value of a name winning. -/
def sortMembers (members : List (String × Json)) : List (String × Json) :=
  members.foldl (fun sorted m => insertMember m.1 m.2 sorted) []

mutual

/-- The value with the members of every object in it sorted. -/
def sorted : Json → Json
  | array items => array (sortedItems items)
  | object members => object (sortMembers (sortedValues members))
  | value => value

/-- Items, each of them sorted. -/
def sortedItems : List Json → List Json
  | [] => []
  | item :: rest => sorted item :: sortedItems rest

/-- Members, the value of each sorted. -/
def sortedValues : List (String × Json) → List (String × Json)
  | [] => []
  | (name, value) :: rest => (name, sorted value) :: sortedValues rest

end

end Json

end DomainDeploy
