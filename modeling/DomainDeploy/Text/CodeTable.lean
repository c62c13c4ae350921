/-!
# Tables of code points

A table says what belongs to a code point.  It is written as text: entries stand between blanks, and
an entry is a code point or a stretch of them, `first-last`, where `/2` takes every second one;
behind `>` stand the numbers that belong to it, with points between them.  All numbers are
hexadecimal except the stride.
-/

namespace DomainDeploy.Text

/-- A stretch of code points and the numbers that belong to it. -/
structure CodeEntry where
  first : Nat
  last : Nat
  stride : Nat
  codes : List Nat
deriving DecidableEq, Repr

namespace CodeEntry

/-- Whether the entry speaks about a code point. -/
def covers (e : CodeEntry) (n : Nat) : Bool :=
  e.first ≤ n && n ≤ e.last && (n - e.first) % e.stride == 0

/-- The code points that `n` stands for: a single one moves along the stretch. -/
def target (e : CodeEntry) (n : Nat) : List Nat :=
  match e.codes with
  | [code] => [code + (n - e.first)]
  | codes => codes

/-- The value of a hexadecimal digit in upper case. -/
def digit (c : Char) : Nat := if c.isDigit then c.toNat - 48 else c.toNat - 55

/-- The number that hexadecimal digits spell. -/
def number (cs : List Char) : Nat := cs.foldl (fun n c => n * 16 + digit c) 0

/-- The text before the first `c`, and the text behind it if there is one. -/
def splitAt (c : Char) (cs : List Char) : List Char × Option (List Char) :=
  match cs.dropWhile (· != c) with
  | _ :: rest => (cs.takeWhile (· != c), some rest)
  | [] => (cs, none)

/-- Reads an entry. -/
def ofChars (cs : List Char) : CodeEntry :=
  let (stretch, codes) := splitAt '>' cs
  let (ends, stride) := splitAt '/' stretch
  let (first, last) := splitAt '-' ends
  { first := number first
    last := number (last.getD first)
    stride := number (stride.getD ['1'])
    codes := match codes with
      | some codes => (codes.splitOn '.').map number
      | none => [] }

end CodeEntry

/-- A table of code points. -/
structure CodeTable where
  entries : List CodeEntry

namespace CodeTable

/-- Reads a table. -/
def ofText (text : String) : CodeTable :=
  ⟨((text.toList.splitOnP fun c => c == ' ' || c == '\n').filter (!·.isEmpty)).map
    CodeEntry.ofChars⟩

/-- The first entry that speaks about a code point. -/
def find? (t : CodeTable) (n : Nat) : Option CodeEntry := t.entries.find? (·.covers n)

/-- Whether the table speaks about a code point. -/
def holds (t : CodeTable) (n : Nat) : Bool := (t.find? n).isSome

/-- The code points that `n` stands for. -/
def target? (t : CodeTable) (n : Nat) : Option (List Nat) := (t.find? n).map (·.target n)

/-- The number that belongs to `n`. -/
def value? (t : CodeTable) (n : Nat) : Option Nat := (t.find? n).bind (·.codes.head?)

/-- The code point that the given ones belong to. -/
def source? (t : CodeTable) (codes : List Nat) : Option Nat :=
  (t.entries.find? (·.codes == codes)).map (·.first)

end CodeTable

end DomainDeploy.Text
