import DomainDeploy.Text.Utf8

/-!
# What the tool prints

The tool writes bytes to two streams, and each stream is read line by line while the tool runs.  A
line ends in a line feed, and one carriage return before that belongs to the end; a last line
without an end counts unless it is empty.  A line that is no text ends the reading of its stream.
The lines of both streams are kept in the order in which they arrive, whatever that is.
-/

namespace DomainDeploy

/-- What the tool printed, and how it ended. -/
structure ToolOutput where
  /-- Nothing when the tool was killed. -/
  status : Option Int
  lines : List String
deriving DecidableEq, Repr

namespace ToolOutput

/-- A line without a carriage return at its end. -/
def dropReturn (line : List UInt8) : List UInt8 :=
  if line.getLast? == some 13 then line.dropLast else line

/-- The pieces of a stream, before they are read as texts. -/
def pieces (stream : List UInt8) : List (List UInt8) :=
  let all := stream.splitOn 10
  all.dropLast.map dropReturn ++ all.getLast?.toList.filter (!·.isEmpty)

/-- The texts up to the first piece that is none. -/
def readable : List (List UInt8) → List String
  | [] => []
  | piece :: rest =>
    match Text.Utf8.decode? piece with
    | some line => line :: readable rest
    | none => []

/-- The lines of a stream. -/
def linesOf (stream : List UInt8) : List String := readable (pieces stream)

/-- Two lists merged into one: each `true` takes from the first, each `false` from the second, and
what is left at the end follows. -/
def merge {α : Type} : List Bool → List α → List α → List α
  | true :: order, a :: first, second => a :: merge order first second
  | false :: order, first, b :: second => b :: merge order first second
  | true :: order, [], second => merge order [] second
  | false :: order, first, [] => merge order first []
  | [], first, second => first ++ second

/-- What is kept of a tool that ended with `status`. -/
def collect (status : Option Int) (stdout stderr : List UInt8) (order : List Bool) : ToolOutput :=
  ⟨status, merge order (linesOf stdout) (linesOf stderr)⟩

/-- Whether the tool says that all went well. -/
def success (o : ToolOutput) : Bool := o.status == some 0

/-- The lines as one text. -/
def text (o : ToolOutput) : String := "\n".intercalate o.lines

end ToolOutput

end DomainDeploy
