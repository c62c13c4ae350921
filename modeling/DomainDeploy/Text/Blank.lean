/-!
# White space and trimming

Blanks are the code points with the Unicode property White_Space.  A value that holds nothing else
counts as missing wherever the settings ask for one.
-/

namespace DomainDeploy.Text

/-- The code points with the property White_Space. -/
def isBlank (c : Char) : Bool :=
  let n := c.toNat
  (9 ≤ n && n ≤ 13) || n == 0x20 || n == 0x85 || n == 0xA0 || n == 0x1680 ||
    (0x2000 ≤ n && n ≤ 0x200A) || n == 0x2028 || n == 0x2029 || n == 0x202F || n == 0x205F ||
    n == 0x3000

/-- Drops the leading characters that satisfy `p`, and the trailing ones. -/
def trimWhere (p : Char → Bool) (cs : List Char) : List Char :=
  ((cs.dropWhile p).reverse.dropWhile p).reverse

/-- The text without the blanks at both ends. -/
def trim (s : String) : String := String.ofList (trimWhere isBlank s.toList)

/-- Whether a text holds no character other than blanks. -/
def isAllBlank (s : String) : Bool := s.toList.all isBlank

/-- A given value without the blanks around it, unless nothing is left. -/
def nonBlank (value : Option String) : Option String :=
  (value.map trim).filter (!·.isEmpty)

/-- The text without `c` at its start. -/
def trimLeading (c : Char) (s : String) : String := String.ofList (s.toList.dropWhile (· == c))

/-- The text without `c` at its end. -/
def trimTrailing (c : Char) (s : String) : String :=
  String.ofList ((s.toList.reverse.dropWhile (· == c)).reverse)

end DomainDeploy.Text
