import DomainDeploy.Url.Host.Ipv4
import DomainDeploy.Url.Host.Label
import DomainDeploy.Url.Host.MappingTable
import DomainDeploy.Url.Host.Punycode

/-!
# Domain names in ASCII

A domain name is compared without regard to case and to ways of writing, and it travels in ASCII.
Its characters are mapped first, which lower case is part of; then the name is composed and taken
apart at its dots.  Labels with characters beyond ASCII are spelled in Punycode behind `xn--`, and a
label that is spelled so already must spell what mapping and composing leave as it is.
-/

namespace DomainDeploy.Url.Domain

/-- Characters that no domain name holds. -/
def isForbidden (c : Char) : Bool :=
  c.toNat ≤ 0x20 || c.toNat == 0x7F ||
    ['%', '#', '/', ':', '<', '>', '?', '@', '[', '\\', ']', '^', '|'].contains c

/-- Whether a character is an ASCII character. -/
def isAscii (c : Char) : Bool := c.toNat < 128

/-- What a character stands for, unless no domain name holds it. -/
def mapChar? (c : Char) : Option (List Char) :=
  if isAscii c then some [c.toLower]
  else if disallowedTable.holds c.toNat then none
  else if ignoredTable.holds c.toNat then some []
  else match mappedTable.target? c.toNat with
    | some codes => some (codes.map Char.ofNat)
    | none => some [c]

/-- The mapped and composed form of a name. -/
def mapped? (name : List Char) : Option (List Char) :=
  (name.mapM mapChar?).map fun parts =>
    if parts.all (·.all isAscii) then parts.flatten else Text.composed parts.flatten

/-- What marks a label in Punycode. -/
def mark : List Char := ['x', 'n', '-', '-']

/-- The label that a label in Punycode stands for; any other label stands for itself. -/
def shown? (label : List Char) : Option (List Char) :=
  if mark.isPrefixOf label then do
    let decoded ← Punycode.decode (label.drop mark.length)
    if decoded.all isAscii || mapped? decoded != some decoded then none else some decoded
  else some label

/-- Whether labels may stand together in a name; nothing speaks against those in ASCII. -/
def areValid (labels : List (List Char)) : Bool :=
  labels.all (·.all isAscii) ||
    (labels.all isValidLabel && (!labels.any (·.any isRightToLeft) || labels.all keepsDirection))

/-- One label in ASCII. -/
def labelToAscii (label : List Char) : List Char :=
  if label.all isAscii then label else mark ++ Punycode.encode label

/-- A domain name in ASCII, read from its bytes. -/
def toAscii? (bytes : List UInt8) : Option (List Char) := do
  let name ← Text.Utf8.decode? bytes
  let name ← mapped? name.toList
  if name.any isForbidden then none
  let labels ← (Ipv4.splitDots name).mapM shown?
  if areValid labels then some (['.'].intercalate (labels.map labelToAscii)) else none

end DomainDeploy.Url.Domain
