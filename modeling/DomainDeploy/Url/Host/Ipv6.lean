import DomainDeploy.Url.Percent

/-!
# IPv6 addresses

Eight pieces of 16 bits in hexadecimal; one run of zero pieces may be left out (`::`), and the last
two pieces may be written as an IPv4 address.  In print the longest run of at least two zero pieces
is left out, the first one of equal runs.
-/

namespace DomainDeploy.Url.Ipv6

/-- What has been read of an address: pieces, and how many of them stood before `::`. -/
structure Partial where
  pieces : List Nat
  gap : Option Nat

/-- Reads up to `limit` hexadecimal digits. -/
def hexPrefix (limit : Nat) (value : Nat) : List Char → Nat × List Char
  | [] => (value, [])
  | c :: rest =>
    match limit with
    | 0 => (value, c :: rest)
    | limit + 1 =>
      match hexDigit? c with
      | some d => hexPrefix limit (value * 16 + d) rest
      | none => (value, c :: rest)

/-- Reads a decimal byte without a leading zero. -/
def decimalByte (seen : Option Nat) : List Char → Option (Nat × List Char)
  | [] => seen.map (·, [])
  | c :: rest =>
    if c.isDigit then
      match seen with
      | none => decimalByte (some (c.toNat - 48)) rest
      | some 0 => none
      | some n =>
        let n := n * 10 + (c.toNat - 48)
        if 255 < n then none else decimalByte (some n) rest
    else seen.map (·, c :: rest)

/-- Reads the four bytes of an embedded IPv4 address, which must end the text. -/
def embedded (cs : List Char) : Option (List Nat) := do
  let (a, cs) ← decimalByte none cs
  let '.' :: cs := cs | none
  let (b, cs) ← decimalByte none cs
  let '.' :: cs := cs | none
  let (c, cs) ← decimalByte none cs
  let '.' :: cs := cs | none
  let (d, cs) ← decimalByte none cs
  if cs.isEmpty then some [a * 256 + b, c * 256 + d] else none

/-- Reads the pieces of an address; `count` have been read, the gap counting as one. -/
def piecesFrom (count : Nat) (p : Partial) : Nat → List Char → Option Partial
  | _, [] => some p
  | 0, _ => none
  | fuel + 1, cs =>
    if count == 8 then none
    else match cs with
      | ':' :: rest =>
        if p.gap.isSome then none
        else piecesFrom (count + 1) { p with gap := some p.pieces.length } fuel rest
      | _ =>
        let (value, rest) := hexPrefix 4 0 cs
        match rest with
        | [] => some { p with pieces := p.pieces ++ [value] }
        | '.' :: _ =>
          if rest.length == cs.length || 6 < count then none
          else (embedded cs).map fun tail => { p with pieces := p.pieces ++ tail }
        | ':' :: rest =>
          if rest.isEmpty then none
          else piecesFrom (count + 1) { p with pieces := p.pieces ++ [value] } fuel rest
        | _ => none

/-- The address that a text spells. -/
def parse (cs : List Char) : Option (List Nat) := do
  if cs.length < 2 then none
  else
    let p ←
      match cs with
      | ':' :: ':' :: rest => piecesFrom 1 ⟨[], some 0⟩ (rest.length + 1) rest
      | ':' :: _ => none
      | _ => piecesFrom 0 ⟨[], none⟩ (cs.length + 1) cs
    match p.gap with
    | none => if p.pieces.length == 8 then some p.pieces else none
    | some at_ =>
      if 8 < p.pieces.length + 1 then none
      else
        some (p.pieces.take at_ ++ List.replicate (8 - p.pieces.length) 0 ++ p.pieces.drop at_)

/-- The length of the run of zeros at the front. -/
def zeroRun : List Nat → Nat
  | 0 :: rest => zeroRun rest + 1
  | _ => 0

/-- The start and the length of the first longest run of zeros, looked for from index `i` on. -/
def longestRun (i : Nat) : List Nat → Nat × Nat
  | [] => (i, 0)
  | n :: rest =>
    let here := zeroRun (n :: rest)
    let later := longestRun (i + 1) rest
    if later.2 ≤ here then (i, here) else later

/-- Pieces in hexadecimal with colons between them. -/
def joinPieces (pieces : List Nat) : List Char :=
  (":".intercalate (pieces.map fun n => String.ofList (Nat.toDigits 16 n))).toList

/-- The address in print, without brackets. -/
def chars (pieces : List Nat) : List Char :=
  let (start, length) := longestRun 0 pieces
  if length < 2 then joinPieces pieces
  else
    joinPieces (pieces.take start) ++ [':', ':'] ++ joinPieces (pieces.drop (start + length))

end DomainDeploy.Url.Ipv6
