import DomainDeploy.Text.CaseTable

/-!
# Letter case

Full lower and upper case of a text.  A character may turn into several, and a capital sigma that
ends a word turns into the final form of the letter.
-/

namespace DomainDeploy.Text

/-- What a table turns a character into; one that it does not know stays. -/
def convert (table : CodeTable) (c : Char) : List Char :=
  match table.target? c.toNat with
  | some codes => codes.map Char.ofNat
  | none => [c]

/-- Lower case of one character, whatever stands around it. -/
def lowerChar (c : Char) : List Char :=
  if c.toNat < 128 then [c.toLower]
  else convert lowerTable c

/-- Upper case of one character. -/
def upperChar (c : Char) : List Char :=
  if c.toNat < 128 then [c.toUpper]
  else convert upperTable c

/-- A letter with a case. -/
def isCased (c : Char) : Bool :=
  if c.toNat < 128 then c.isAlpha else casedTable.holds c.toNat

/-- A character that a look for a neighbouring cased letter skips. -/
def isCaseIgnorable (c : Char) : Bool := ignorableTable.holds c.toNat

/-- Whether the nearest character that is not ignorable is a cased letter. -/
def startsCased (cs : List Char) : Bool :=
  match cs.dropWhile isCaseIgnorable with
  | c :: _ => isCased c
  | [] => false

/-- Lower case of `cs`, which stands behind `before` (nearest character first). -/
def lowerFrom (before : List Char) : List Char → List Char
  | [] => []
  | c :: rest =>
    let here :=
      if c == 'Σ' then (if startsCased before && !startsCased rest then ['ς'] else ['σ'])
      else lowerChar c
    here ++ lowerFrom (c :: before) rest

/-- The text in lower case. -/
def lower (s : String) : String := String.ofList (lowerFrom [] s.toList)

/-- The text with its first character in lower case. -/
def lowerFirst (s : String) : String :=
  match s.toList with
  | [] => ""
  | c :: rest => String.ofList (lowerChar c ++ rest)

/-- The text with its first character in upper case. -/
def upperFirst (s : String) : String :=
  match s.toList with
  | [] => ""
  | c :: rest => String.ofList (upperChar c ++ rest)

end DomainDeploy.Text
