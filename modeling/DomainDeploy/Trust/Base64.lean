/-!
# Base64

Four symbols spell three bytes.  Blanks between symbols do not count, and the padding at the end may
be left out; padding anywhere else is refused.
-/

namespace DomainDeploy.Trust

/-- Why a text spells no bytes. -/
inductive Base64Fault where
  | invalidCharacter (byte : UInt8)
  | prematurePadding
  | invalidTrailingPadding
deriving DecidableEq, Repr

/-- The wording of a fault. -/
def Base64Fault.message : Base64Fault → String
  | invalidCharacter byte => s!"InvalidCharacter({byte.toNat})"
  | prematurePadding => "PrematurePadding"
  | invalidTrailingPadding => "InvalidTrailingPadding"

namespace Base64

/-- What a byte of the text is. -/
inductive Symbol where
  | blank
  | padding
  | digit (value : Nat)
  | invalid

/-- Reads one byte of the text. -/
def symbol (b : UInt8) : Symbol :=
  let n := b.toNat
  if (9 ≤ n && n ≤ 13) || n == 32 then .blank
  else if n == 61 then .padding
  else if 65 ≤ n && n ≤ 90 then .digit (n - 65)
  else if 97 ≤ n && n ≤ 122 then .digit (n - 71)
  else if 48 ≤ n && n ≤ 57 then .digit (n + 4)
  else if n == 43 then .digit 62
  else if n == 47 then .digit 63
  else .invalid

/-- The three bytes that four symbols spell, padding standing for zero. -/
def quad (a b c d : Option Nat) : List UInt8 :=
  let n := ((a.getD 0 * 64 + b.getD 0) * 64 + c.getD 0) * 64 + d.getD 0
  [UInt8.ofNat (n / 65536), UInt8.ofNat (n / 256 % 256), UInt8.ofNat (n % 256)]

/-- The bytes that whole quads spell; symbols left over spell nothing. -/
def quads : List (Option Nat) → List UInt8
  | a :: b :: c :: d :: rest => quad a b c d ++ quads rest
  | _ => []

/-- The bytes that the last symbols spell, four at most. -/
def lastQuad : List (Option Nat) → Except Base64Fault (List UInt8)
  | [] => .ok []
  | [some a, some b, some c, some d] => .ok (quad a b c d)
  | [some a, some b, some c, none] | [some a, some b, some c] =>
    .ok ((quad (some a) (some b) (some c) none).take 2)
  | [some a, some b, none, none] | [some a, some b] =>
    .ok ((quad (some a) (some b) none none).take 1)
  | _ => .error .invalidTrailingPadding

/-- The bytes that the last group of symbols spells, eight at most. -/
def lastGroup (group : List (Option Nat)) : Except Base64Fault (List UInt8) :=
  if 4 < group.length then
    if (group.take 4).any Option.isNone then .error .prematurePadding
    else (lastQuad (group.drop 4)).map (quads (group.take 4) ++ ·)
  else lastQuad group

/-- Reads on behind the symbols of a group that is not known to be the last one. -/
def decodeBehind (group : List (Option Nat)) : List UInt8 → Except Base64Fault (List UInt8)
  | [] => lastGroup group
  | b :: rest =>
    let take (s : Option Nat) : Except Base64Fault (List UInt8) :=
      if group.length == 8 then
        if group.any Option.isNone then .error .prematurePadding
        else (decodeBehind [s] rest).map (quads group ++ ·)
      else decodeBehind (group ++ [s]) rest
    match symbol b with
    | .blank => decodeBehind group rest
    | .invalid => .error (.invalidCharacter b)
    | .padding => take none
    | .digit n => take (some n)

/-- The bytes that a text spells. -/
def decode (text : List UInt8) : Except Base64Fault (List UInt8) := decodeBehind [] text

end Base64

end DomainDeploy.Trust
