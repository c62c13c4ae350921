import DomainDeploy.Text.Utf8

/-!
# Percent encoding

A byte is spelled as `%` and two hexadecimal digits.  Which characters are spelled out depends on
the part of a URL they stand in; every character beyond ASCII always is, byte by byte.
-/

namespace DomainDeploy.Url

/-- A hexadecimal digit in upper case. -/
def upperHex (n : Nat) : Char := if n < 10 then Char.ofNat (48 + n) else Char.ofNat (55 + n)

/-- The value of a hexadecimal digit. -/
def hexDigit? (c : Char) : Option Nat :=
  if '0' ≤ c && c ≤ '9' then some (c.toNat - 48)
  else if 'a' ≤ c && c ≤ 'f' then some (c.toNat - 87)
  else if 'A' ≤ c && c ≤ 'F' then some (c.toNat - 55)
  else none

/-- `%` and the two digits of a byte. -/
def spellByte (b : UInt8) : List Char := ['%', upperHex (b.toNat / 16), upperHex (b.toNat % 16)]

/-- The bytes of a character, each spelled out. -/
def spellChar (c : Char) : List Char := (Text.Utf8.encode c.toString).flatMap spellByte

/-- Characters to spell out in one part of a URL. -/
abbrev EncodeSet := Char → Bool

/-- Control characters and everything beyond ASCII. -/
def EncodeSet.controls : EncodeSet := fun c => c.toNat < 0x20 || 0x7E < c.toNat

/-- A set with further characters. -/
def EncodeSet.add (set : EncodeSet) (more : List Char) : EncodeSet :=
  fun c => set c || more.contains c

/-- Spelled out in a fragment. -/
def EncodeSet.fragment : EncodeSet := EncodeSet.controls.add [' ', '"', '<', '>', '\x60']

/-- Spelled out in a query. -/
def EncodeSet.query : EncodeSet := EncodeSet.controls.add [' ', '"', '#', '<', '>']

/-- Spelled out in the query of a special scheme. -/
def EncodeSet.specialQuery : EncodeSet := EncodeSet.query.add ['\'']

/-- Spelled out in a path that is read as text. -/
def EncodeSet.path : EncodeSet := EncodeSet.fragment.add ['#', '?', '\x7b', '\x7d']

/-- Spelled out in a user name or a password. -/
def EncodeSet.userinfo : EncodeSet :=
  EncodeSet.path.add ['/', ':', ';', '=', '@', '[', '\\', ']', '^', '|']

/-- Spelled out in a segment that is put into a path as a whole. -/
def EncodeSet.segment : EncodeSet := EncodeSet.path.add ['/', '%']

/-- Spelled out in a segment that is put into the path of a special scheme. -/
def EncodeSet.specialSegment : EncodeSet := EncodeSet.segment.add ['\\']

/-- Spells out the characters of the set. -/
def encodeWith (set : EncodeSet) (cs : List Char) : List Char :=
  cs.flatMap fun c => if set c then spellChar c else [c]

/-- The bytes that a text stands for, with spelled-out ones decoded. -/
def decodeBytes : List Char → List UInt8
  | [] => []
  | '%' :: a :: b :: rest =>
    match hexDigit? a, hexDigit? b with
    | some x, some y => UInt8.ofNat (x * 16 + y) :: decodeBytes rest
    | _, _ => Text.Utf8.encode "%" ++ decodeBytes (a :: b :: rest)
  | c :: rest => Text.Utf8.encode c.toString ++ decodeBytes rest
termination_by cs => cs.length

/-- The form encoding of one byte: letters, digits and `*-._` stay, a space becomes `+`. -/
def formByte (b : UInt8) : List Char :=
  let c := Char.ofNat b.toNat
  if c.isAlphanum || c == '*' || c == '-' || c == '.' || c == '_' then [c]
  else if c == ' ' then ['+']
  else spellByte b

/-- The form encoding of a text. -/
def formEncode (s : String) : List Char := (Text.Utf8.encode s).flatMap formByte

end DomainDeploy.Url
