import DomainDeploy.Text.HiddenTable

/-!
# Quoting for the eye

A text in quotes in which every character can be seen: quotes and backslashes are marked with a
backslash, the common controls have a letter, and whatever does not print is written as its code
point in braces.
-/

namespace DomainDeploy.Text

/-- Whether a character cannot be seen by itself. -/
def isHidden (c : Char) : Bool :=
  if c.toNat < 128 then c.toNat < 32 || c.toNat == 127 else hiddenTable.holds c.toNat

/-- How a character stands in a quoted text. -/
def quoteChar (c : Char) : List Char :=
  if c == '"' then ['\\', '"']
  else if c == '\\' then ['\\', '\\']
  else if c == '\n' then ['\\', 'n']
  else if c == '\r' then ['\\', 'r']
  else if c == '\t' then ['\\', 't']
  else if c.toNat == 0 then ['\\', '0']
  else if isHidden c then
    ['\\', 'u', '\x7b'] ++ Nat.toDigits 16 c.toNat ++ ['\x7d']
  else [c]

/-- The text in quotes. -/
def quoted (s : String) : String := String.ofList ('"' :: s.toList.flatMap quoteChar ++ ['"'])

end DomainDeploy.Text
