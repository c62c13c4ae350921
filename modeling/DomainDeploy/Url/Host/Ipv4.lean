import DomainDeploy.Url.Percent

/-!
# IPv4 addresses

An address is written in one to four parts, each decimal, octal (behind `0`) or hexadecimal (behind
`0x`); the last part fills all the bytes that are left.  It is printed as four decimal bytes.
-/

namespace DomainDeploy.Url.Ipv4

/-- Splits a text at every dot. -/
def splitDots (cs : List Char) : List (List Char) := cs.splitOn '.'

/-- The number that digits of base `base` spell. -/
def digitsIn (base : Nat) (cs : List Char) : Option Nat :=
  cs.foldl (fun acc c => do
    let n ← acc
    let d ← hexDigit? c
    if d < base then some (n * base + d) else none) (some 0)

/-- The number that one part spells. -/
def part? : List Char → Option Nat
  | [] => none
  | '0' :: x :: rest =>
    if x == 'x' || x == 'X' then digitsIn 16 rest else digitsIn 8 (x :: rest)
  | cs => digitsIn 10 cs

/-- Whether a domain ends in a part that makes it an address. -/
def endsInNumber (domain : List Char) : Bool :=
  let last :=
    match (splitDots domain).reverse with
    | [] :: part :: _ => some part
    | [] :: [] => none
    | part :: _ => some part
    | [] => none
  match last with
  | none => false
  | some part => (!part.isEmpty && part.all Char.isDigit) || (part? part).isSome

/-- The address whose leading bytes are `leading`, with the last number in the bytes left over. -/
def combine (leading : List Nat) (last : Nat) : Nat :=
  leading.zipIdx.foldr (fun (n, i) rest => n * Nat.pow 256 (3 - i) + rest) last

/-- The address that a domain spells. -/
def parse (domain : List Char) : Option Nat := do
  let parts := splitDots domain
  let parts := if parts.getLast? == some [] then parts.dropLast else parts
  if 4 < parts.length then none
  else
    let numbers ← parts.mapM part?
    let last ← numbers.getLast?
    let leading := numbers.dropLast
    if Nat.pow 256 (4 - leading.length) ≤ last || leading.any (255 < ·) then none
    else some (combine leading last)

/-- Four decimal bytes. -/
def toText (address : Nat) : String :=
  ".".intercalate ([3, 2, 1, 0].map fun i => toString (address / Nat.pow 256 i % 256))

end DomainDeploy.Url.Ipv4
