import DomainDeploy.Json.Cursor

/-!
# Texts and numbers

A quoted text may spell characters by escapes; characters beyond the basic plane are spelled by a
pair of surrogates.  A number is read digit by digit into a natural number of 64 bits; what does
not fit, and what has a fraction or an exponent, is a floating point number: the leading digits,
rounded, times a rounded power of ten.
-/

namespace DomainDeploy.Json

/-- The value of a hexadecimal digit. -/
def hexValue (c : Char) : Option Nat :=
  if '0' ≤ c && c ≤ '9' then some (c.toNat - 48)
  else if 'a' ≤ c && c ≤ 'f' then some (c.toNat - 87)
  else if 'A' ≤ c && c ≤ 'F' then some (c.toNat - 55)
  else none

/-- The number of bytes of a text. -/
def byteCount (cs : List Char) : Nat := cs.foldl (fun n c => n + c.utf8Size) 0

/-- Reads the four digits of an escape. -/
def hexEscape : Reader Nat := fun cur =>
  match cur.rest with
  | a :: b :: c :: d :: rest =>
    match hexValue a, hexValue b, hexValue c, hexValue d with
    | some a, some b, some c, some d =>
      .ok (((a * 16 + b) * 16 + c) * 16 + d, ⟨rest, cur.offset + 4⟩)
    | _, _, _, _ => .error (.placed .invalidEscape (cur.offset + 4))
  | short =>
    if byteCount short < 4 then .error (.placed .endInString (cur.offset + byteCount short))
    else .error (.placed .invalidEscape (cur.offset + 4))

/-- The next character of a text, which must not end here. -/
def nextInText : Reader Char := fun cur =>
  match cur.rest with
  | [] => .error (.placed .endInString cur.offset)
  | c :: rest => .ok (c, .behind cur.offset c rest)

/-- Takes the next character, which must be `wanted`. -/
def surrogateMark (wanted : Char) : Reader Unit := fun cur =>
  match cur.rest with
  | [] => .error (.placed .endInString cur.offset)
  | c :: rest =>
    if c == wanted then .ok ((), .behind cur.offset c rest)
    else .error (.placed .unfinishedSurrogate (cur.offset + 1))

/-- The character that the digits behind `\u` spell. -/
def unicodeEscape : Reader Char := do
  let n ← hexEscape
  if 0xDC00 ≤ n && n ≤ 0xDFFF then failHere .loneSurrogate
  else if n < 0xD800 || 0xDBFF < n then pure (Char.ofNat n)
  else
    surrogateMark '\\'
    surrogateMark 'u'
    let m ← hexEscape
    if m < 0xDC00 || 0xDFFF < m then failHere .loneSurrogate
    else pure (Char.ofNat ((n - 0xD800) * 0x400 + (m - 0xDC00) + 0x10000))

/-- The character that an escape of one letter spells. -/
def shortEscape (c : Char) : Option Char :=
  if c == '"' || c == '\\' || c == '/' then some c
  else if c == 'b' then some (Char.ofNat 8)
  else if c == 'f' then some (Char.ofNat 12)
  else if c == 'n' then some '\n'
  else if c == 'r' then some '\r'
  else if c == 't' then some '\t'
  else none

/-- The characters of a text up to its closing quote. -/
def textChars : Nat → Reader (List Char)
  | 0 => failHere .endInString
  | fuel + 1 => do
    let c ← nextInText
    if c == '"' then pure []
    else if c == '\\' then
      let e ← nextInText
      let decoded ←
        if e == 'u' then unicodeEscape
        else match shortEscape e with
          | some d => pure d
          | none => failInside e .invalidEscape
      return decoded :: (← textChars fuel)
    else if c.toNat < 32 then failHere .controlCharacter
    else return c :: (← textChars fuel)

/-- Reads a text whose opening quote has been taken. -/
def restOfText : Reader String := fun cur =>
  (textChars (cur.rest.length + 1)).andThen (fun cs => .done (String.ofList cs)) cur

/-- Skims a text up to its closing quote; what its escapes spell does not matter. -/
def skimTextChars : Nat → Reader Unit
  | 0 => failHere .endInString
  | fuel + 1 => do
    match (← peek) with
    | none => failHere .endInString
    | some c =>
      if c == '"' then eat
      else if c == '\\' then
        eat
        let e ← nextInText
        if e == 'u' then
          let _ ← hexEscape
          skimTextChars fuel
        else if (shortEscape e).isSome then skimTextChars fuel
        else failInside e .invalidEscape
      else if c.toNat < 32 then failHere .controlCharacter
      else
        eat
        skimTextChars fuel

/-- Skims a text whose opening quote has been taken. -/
def skimText : Reader Unit := fun cur => skimTextChars (cur.rest.length + 1) cur

/-- Whether a character is a decimal digit. -/
def isDigit (c : Char) : Bool := '0' ≤ c && c ≤ '9'

/-- The value of a decimal digit. -/
def digitValue (c : Char) : Nat := c.toNat - 48

/-- Digits taken into a number of 64 bits. -/
structure Digits where
  value : Nat
  /-- How many digits were taken. -/
  count : Nat
  /-- Whether a further digit stands there that would not fit. -/
  full : Bool

/-- Takes digits from the front of the text as long as the number fits into 64 bits. -/
def takeDigitsFrom (value count : Nat) : List Char → Nat → Digits × Cursor
  | [], offset => (⟨value, count, false⟩, ⟨[], offset⟩)
  | c :: rest, offset =>
    if !isDigit c then (⟨value, count, false⟩, ⟨c :: rest, offset⟩)
    else if Nat.pow 2 64 ≤ value * 10 + digitValue c then
      (⟨value, count, true⟩, ⟨c :: rest, offset⟩)
    else takeDigitsFrom (value * 10 + digitValue c) (count + 1) rest (offset + 1)

/-- Takes further digits of a number whose leading digits are `value`. -/
def takeDigits (value : Nat) : Reader Digits := fun cur =>
  .ok (takeDigitsFrom value 0 cur.rest cur.offset)

/-- Skips digits from the front of the text and counts them. -/
def skipDigitsFrom (count : Nat) : List Char → Nat → Nat × Cursor
  | [], offset => (count, ⟨[], offset⟩)
  | c :: rest, offset =>
    if isDigit c then skipDigitsFrom (count + 1) rest (offset + 1) else (count, ⟨c :: rest, offset⟩)

/-- Skips digits and counts them. -/
def skipDigits : Reader Nat := fun cur => .ok (skipDigitsFrom 0 cur.rest cur.offset)

/-- The greatest power of ten that a number of 64 bits is scaled by in one step. -/
def maxScale : Nat := 308

/-- Scales `x` by a power of ten: small powers come from dividing in steps. -/
def scale (x : Binary64) (power : Int) : Nat → Option Binary64
  | 0 => some (.zero false)
  | steps + 1 =>
    if power.natAbs ≤ maxScale then
      match Binary64.ofNat (Nat.pow 10 power.natAbs) with
      | none => none
      | some ten => if 0 ≤ power then x.mul ten else x.div ten
    else if x.mantissa == 0 then some x
    else if 0 ≤ power then none
    else
      match Binary64.ofNat (Nat.pow 10 maxScale) with
      | none => none
      | some ten => (x.div ten).bind fun y => scale y (power + maxScale) steps

/-- The floating point number `± digits · 10 ^ power`. -/
def floatOf (positive : Bool) (digits : Nat) (power : Int) : Reader Number :=
  match (Binary64.ofNat digits).bind fun x => scale x power 8 with
  | some x => pure (.float (x.withSign !positive))
  | none => failHere .numberOutOfRange

/-- An exponent beyond this is not read any further. -/
def maxExponentText : Nat := Nat.pow 2 31 - 1

/-- The digits of an exponent; nothing when they exceed what is kept. -/
def exponentDigits (value : Nat) : List Char → Nat → Option Nat × Cursor
  | [], offset => (some value, ⟨[], offset⟩)
  | c :: rest, offset =>
    if !isDigit c then (some value, ⟨c :: rest, offset⟩)
    else if maxExponentText < value * 10 + digitValue c then (none, ⟨rest, offset + 1⟩)
    else exponentDigits (value * 10 + digitValue c) rest (offset + 1)

/-- Reads `e`, a sign and digits, and ends with the number. -/
def exponentPart (positive : Bool) (digits : Nat) (power : Int) : Reader Number := do
  eat
  let up ← match ← peek with
    | some '+' => do eat; pure true
    | some '-' => do eat; pure false
    | _ => pure true
  match ← next with
  | none => failHere .endInValue
  | some c =>
    if !isDigit c then failInside c .invalidNumber
    else
      let value ← fun cur => .ok (exponentDigits (digitValue c) cur.rest cur.offset)
      match value with
      | some n => floatOf positive digits (if up then power + n else power - n)
      | none =>
        if digits != 0 && up then failHere .numberOutOfRange
        else
          let _ ← skipDigits
          pure (.float (.zero !positive))

/-- Reads what may follow the digits of a fraction, and ends with the number. -/
def afterFraction (positive : Bool) (digits : Nat) (power : Int) : Reader Number := do
  match ← peek with
  | some 'e' | some 'E' => exponentPart positive digits power
  | _ => floatOf positive digits power

/-- Reads a point and digits, and ends with the number; `power` counts digits left out before. -/
def fractionPart (positive : Bool) (digits : Nat) (power : Nat) : Reader Number := do
  eat
  let taken ← takeDigits digits
  if taken.full then
    let _ ← skipDigits
    afterFraction positive taken.value ((power : Int) - taken.count)
  else if taken.count == 0 then
    match ← peek with
    | some _ => failAhead .invalidNumber
    | none => failAhead .endInValue
  else afterFraction positive taken.value ((power : Int) - taken.count)

/-- Reads a number whose sign has been taken. -/
def numberText (positive : Bool) : Reader Number := do
  match ← next with
  | none => failHere .endInValue
  | some c =>
    if !isDigit c then failInside c .invalidNumber
    else
      let taken ←
        if c == '0' then
          match ← peek with
          | some d => if isDigit d then failAhead .invalidNumber else pure ⟨0, 0, false⟩
          | none => pure ⟨0, 0, false⟩
        else takeDigits (digitValue c)
      let left ← if taken.full then skipDigits else pure 0
      match ← peek with
      | some '.' => fractionPart positive taken.value left
      | some 'e' | some 'E' => exponentPart positive taken.value left
      | _ =>
        if taken.full then floatOf positive taken.value left
        else if positive then pure (.natural taken.value)
        else if taken.value == 0 || Nat.pow 2 63 < taken.value then floatOf false taken.value 0
        else pure (.negative taken.value)

/-- Skims a number whose sign has been taken; its size does not matter. -/
def skimNumber : Reader Unit := do
  match ← next with
  | none => failHere .invalidNumber
  | some c =>
    if !isDigit c then failInside c .invalidNumber
    else
      if c == '0' then
        match ← peek with
        | some d => if isDigit d then failAhead .invalidNumber
        | none => pure ()
      else
        let _ ← skipDigits
      match ← peek with
      | some '.' =>
        eat
        let count ← skipDigits
        if count == 0 then failAhead .invalidNumber
        else match ← peek with
          | some 'e' | some 'E' => skimExponent
          | _ => pure ()
      | some 'e' | some 'E' => skimExponent
      | _ => pure ()
where
  /-- Skims `e`, a sign and digits. -/
  skimExponent : Reader Unit := do
    eat
    match ← peek with
    | some '+' | some '-' => eat
    | _ => pure ()
    match ← next with
    | none => failHere .invalidNumber
    | some c =>
      if isDigit c then
        let _ ← skipDigits
      else failInside c .invalidNumber

end DomainDeploy.Json
