/-!
# The shape of a certificate

A certificate is a nest of tagged values, each with its length in front.  Only the shape is looked
at: a version, a serial number, an algorithm, who issued it, how long it holds, whom it names, a
key, extensions, and a signature.
-/

namespace DomainDeploy.Trust.Certificate

/-- A tag, the contents behind it, and what stands behind those. -/
structure Tagged where
  tag : Nat
  contents : List UInt8
  rest : List UInt8

/-- Reads `count` bytes as a length, which must not fit into fewer. -/
def longLength (count : Nat) (bytes : List UInt8) : Option (Nat × List UInt8) :=
  if bytes.length < count then none
  else
    let n := (bytes.take count).foldl (fun n b => n * 256 + b.toNat) 0
    let least := if count == 1 then 128 else Nat.pow 256 (count - 1)
    if n < least then none else some (n, bytes.drop count)

/-- Reads one tagged value from the front. -/
def read? : List UInt8 → Option Tagged
  | tag :: length :: rest => do
    -- tags of more than one byte do not occur
    if tag.toNat % 32 == 31 then none
    let (n, rest) ←
      if length < 128 then some (length.toNat, rest)
      else if 0x81 ≤ length && length ≤ 0x83 then longLength (length.toNat - 128) rest
      else none
    if rest.length < n then none else some ⟨tag.toNat, rest.take n, rest.drop n⟩
  | _ => none

/-- Reads a value of the given tag. -/
def expect (tag : Nat) (bytes : List UInt8) : Option Tagged :=
  (read? bytes).filter (·.tag == tag)

/-- Passes over values of the given tags, in order. -/
def pass (tags : List Nat) (bytes : List UInt8) : Option (List UInt8) :=
  tags.foldlM (fun bytes tag => (expect tag bytes).map (·.rest)) bytes

/-- Passes over a value of the given tag, if one stands there. -/
def passOptional (tag : Nat) (bytes : List UInt8) : List UInt8 :=
  match expect tag bytes with
  | some value => value.rest
  | none => bytes

/-- A whole number. -/
def integerTag : Nat := 0x02

/-- A string of bits. -/
def bitsTag : Nat := 0x03

/-- A sequence of values. -/
def sequenceTag : Nat := 0x30

/-- Whether the bytes have the shape of a certificate. -/
def isWellFormed (bytes : List UInt8) : Bool :=
  let shape : Option Unit := do
    let outer ← expect sequenceTag bytes
    guard outer.rest.isEmpty
    let body ← expect sequenceTag outer.contents
    guard ((← pass [sequenceTag, bitsTag] body.rest).isEmpty)
    let version ← expect 0xA0 body.contents
    guard (version.contents == [2, 1, 2])
    let behind ← pass
      [integerTag, sequenceTag, sequenceTag, sequenceTag, sequenceTag, sequenceTag] version.rest
    guard (passOptional 0xA3 (passOptional 0xA2 (passOptional 0xA1 behind))).isEmpty
  shape.isSome

end DomainDeploy.Trust.Certificate
