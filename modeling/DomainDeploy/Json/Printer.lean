import DomainDeploy.Json.Value
import DomainDeploy.Binary64.Shortest

/-!
# Writing JSON

Two layouts of one value: `Json.compact` writes no white space at all, `Json.pretty` puts every
item and member on a line of its own, two spaces deeper than what holds it.  An empty array or
object stays on one line in both.
-/

namespace DomainDeploy.Json

/-- A hexadecimal digit in lower case. -/
def hexDigit (n : Nat) : Char := if n < 10 then Char.ofNat (48 + n) else Char.ofNat (87 + n)

/-- How a character stands inside a quoted text. -/
def escapeChar (c : Char) : List Char :=
  if c == '"' then ['\\', '"']
  else if c == '\\' then ['\\', '\\']
  else if c == '\n' then ['\\', 'n']
  else if c == '\r' then ['\\', 'r']
  else if c == '\t' then ['\\', 't']
  else if c.toNat == 8 then ['\\', 'b']
  else if c.toNat == 12 then ['\\', 'f']
  else if c.toNat < 32 then
    ['\\', 'u', '0', '0', hexDigit (c.toNat / 16), hexDigit (c.toNat % 16)]
  else [c]

/-- A quoted text. -/
def quoted (s : String) : List Char := '"' :: s.toList.flatMap escapeChar ++ ['"']

/-- A number in decimal. -/
def Number.chars : Number → List Char
  | .natural n => Nat.toDigits 10 n
  | .negative n => '-' :: Nat.toDigits 10 n
  | .float x => x.toText.toList

/-- The number as text. -/
def Number.toText (n : Number) : String := String.ofList n.chars

/-- What differs between the layouts: the space before an item, before a closing bracket, and
behind the colon of a member, at a given depth. -/
structure Layout where
  beforeItem : Nat → List Char
  beforeClose : Nat → List Char
  afterColon : List Char

/-- No white space at all. -/
def Layout.tight : Layout := ⟨fun _ => [], fun _ => [], []⟩

/-- A new line, indented by two spaces for each level. -/
def newLine (depth : Nat) : List Char := '\n' :: List.replicate (2 * depth) ' '

/-- One item or member on a line. -/
def Layout.spread : Layout := ⟨fun depth => newLine (depth + 1), newLine, [' ']⟩

mutual

/-- The value as text, standing at the given depth. -/
def write (layout : Layout) (depth : Nat) : Json → List Char
  | null => "null".toList
  | bool true => "true".toList
  | bool false => "false".toList
  | number n => n.chars
  | string s => quoted s
  | array [] => ['[', ']']
  | array (item :: rest) =>
    '[' :: layout.beforeItem depth ++ write layout (depth + 1) item ++
      writeItems layout depth rest ++ layout.beforeClose depth ++ [']']
  | object [] => ['\x7b', '\x7d']
  | object ((name, value) :: rest) =>
    '\x7b' :: layout.beforeItem depth ++ quoted name ++ ':' :: layout.afterColon ++
      write layout (depth + 1) value ++ writeMembers layout depth rest ++
      layout.beforeClose depth ++ ['\x7d']

/-- The items behind the first one, each behind a comma. -/
def writeItems (layout : Layout) (depth : Nat) : List Json → List Char
  | [] => []
  | item :: rest =>
    ',' :: layout.beforeItem depth ++ write layout (depth + 1) item ++ writeItems layout depth rest

/-- The members behind the first one, each behind a comma. -/
def writeMembers (layout : Layout) (depth : Nat) : List (String × Json) → List Char
  | [] => []
  | (name, value) :: rest =>
    ',' :: layout.beforeItem depth ++ quoted name ++ ':' :: layout.afterColon ++
      write layout (depth + 1) value ++ writeMembers layout depth rest

end

/-- The value on one line, without white space. -/
def compact (j : Json) : String := String.ofList (write .tight 0 j)

/-- The value with one item or member on a line. -/
def pretty (j : Json) : String := String.ofList (write .spread 0 j)

end DomainDeploy.Json
