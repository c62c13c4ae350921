import DomainDeploy.Json.Value
import DomainDeploy.Json.Printer
import DomainDeploy.Text.Quoted

/-!
# What is wrong with a JSON text

A text can end too early, break the grammar, or be well formed and hold the wrong kind of value.
Each cause has its wording; a `Fault` adds the line and the column, in bytes, where reading stopped.
-/

namespace DomainDeploy.Json

/-- A value that stands where another kind was wanted. -/
inductive Found where
  | null
  | bool (b : Bool)
  | number (n : Number)
  | string (s : String)
  | sequence
  | map
deriving DecidableEq

/-- The wording of a found value. -/
def Found.message : Found → String
  | .null => "null"
  | .bool b => s!"boolean `{b}`"
  | .number (.float x) => s!"floating point `{x.toText}`"
  | .number n => s!"integer `{n.toText}`"
  | .string s => s!"string {Text.quoted s}"
  | .sequence => "sequence"
  | .map => "map"

/-- Why a text is refused. -/
inductive Cause where
  | endInList
  | endInObject
  | endInString
  | endInValue
  | expectedColon
  | expectedListEnd
  | expectedObjectEnd
  | expectedWord
  | expectedValue
  | invalidEscape
  | invalidNumber
  | numberOutOfRange
  | controlCharacter
  | nameNotText
  | loneSurrogate
  | trailingComma
  | trailingText
  | unfinishedSurrogate
  | tooDeep
  | wrongType (found : Found) (expected : String)
  | wrongValue (found : Found) (expected : String)
  | wrongLength (count : Nat) (expected : String)
  | missingField (name : String)
  | duplicateField (name : String)
  | unknownVariant (name : String) (known : List String)
  | custom (text : String)
deriving DecidableEq

/-- How a cause is classed. -/
inductive Cause.Kind where
  | tooShort
  | grammar
  | shape
deriving DecidableEq

/-- A text that stops too early, a text that is no JSON, or a value of the wrong shape. -/
def Cause.kind : Cause → Cause.Kind
  | .endInList | .endInObject | .endInString | .endInValue => .tooShort
  | .wrongType .. | .wrongValue .. | .wrongLength .. | .missingField _ | .duplicateField _
  | .unknownVariant .. | .custom _ => .shape
  | _ => .grammar

/-- The known variants as they are listed to the reader. -/
def listed : List String → String
  | [] => "there are no variants"
  | [a] => s!"expected `{a}`"
  | [a, b] => s!"expected `{a}` or `{b}`"
  | many => "expected one of " ++ ", ".intercalate (many.map fun v => s!"`{v}`")

/-- The wording of a cause. -/
def Cause.message : Cause → String
  | .endInList => "EOF while parsing a list"
  | .endInObject => "EOF while parsing an object"
  | .endInString => "EOF while parsing a string"
  | .endInValue => "EOF while parsing a value"
  | .expectedColon => "expected `:`"
  | .expectedListEnd => "expected `,` or `]`"
  | .expectedObjectEnd => "expected `,` or `\x7d`"
  | .expectedWord => "expected ident"
  | .expectedValue => "expected value"
  | .invalidEscape => "invalid escape"
  | .invalidNumber => "invalid number"
  | .numberOutOfRange => "number out of range"
  | .controlCharacter => "control character (\\u0000-\\u001F) found while parsing a string"
  | .nameNotText => "key must be a string"
  | .loneSurrogate => "lone leading surrogate in hex escape"
  | .trailingComma => "trailing comma"
  | .trailingText => "trailing characters"
  | .unfinishedSurrogate => "unexpected end of hex escape"
  | .tooDeep => "recursion limit exceeded"
  | .wrongType found expected => s!"invalid type: {found.message}, expected {expected}"
  | .wrongValue found expected => s!"invalid value: {found.message}, expected {expected}"
  | .wrongLength count expected => s!"invalid length {count}, expected {expected}"
  | .missingField name => s!"missing field `{name}`"
  | .duplicateField name => s!"duplicate field `{name}`"
  | .unknownVariant name known => s!"unknown variant `{name}`, {listed known}"
  | .custom text => text

/-- A cause and the place where reading stopped: a line from 1 and a byte of that line. -/
structure Fault where
  cause : Cause
  line : Nat
  column : Nat
deriving DecidableEq

/-- The wording of a fault with its place. -/
def Fault.message (f : Fault) : String :=
  s!"{f.cause.message} at line {f.line} column {f.column}"

/-- Counts lines and bytes up to byte `offset` of a text, from the given line and column. -/
def placeFrom (line column offset : Nat) : List Char → Nat × Nat
  | [] => (line, column + offset)
  | c :: rest =>
    if offset < c.utf8Size then (line, column + offset)
    else if c == '\n' then placeFrom (line + 1) 0 (offset - 1) rest
    else placeFrom line (column + c.utf8Size) (offset - c.utf8Size) rest

/-- The fault for a cause found at byte `offset` of `text`. -/
def Fault.locate (text : List Char) (cause : Cause) (offset : Nat) : Fault :=
  let (line, column) := placeFrom 1 0 offset text
  ⟨cause, line, column⟩

end DomainDeploy.Json
