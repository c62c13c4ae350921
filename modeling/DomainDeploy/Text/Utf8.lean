/-!
# Reading bytes as UTF-8

`Utf8.step` reads one character from the front of a byte list, or says how many bytes form the
longest start of a character that cannot be completed.  Two readings build on it: a strict one that
stops at the first such defect, and a lenient one that puts U+FFFD in its place.
-/

namespace DomainDeploy.Text.Utf8

/-- The bytes of a text. -/
def encode (s : String) : List UInt8 := s.toUTF8.toList

/-- What stands at the front of a byte list. -/
inductive Step where
  /-- A character and the bytes behind it. -/
  | char (c : Char) (rest : List UInt8)
  /-- `bad + 1` bytes that start no character, and the bytes behind them. -/
  | invalid (bad : Nat) (rest : List UInt8)
  /-- A character whose last bytes are missing. -/
  | cut

/-- A byte of the form `10xxxxxx`. -/
def isContinuation (b : UInt8) : Bool := 0x80 ≤ b && b ≤ 0xBF

/-- The bytes allowed behind the leading byte of a character of three or four bytes. -/
def secondAllowed (lead b : UInt8) : Bool :=
  if lead == 0xE0 then 0xA0 ≤ b && b ≤ 0xBF
  else if lead == 0xED then 0x80 ≤ b && b ≤ 0x9F
  else if lead == 0xF0 then 0x90 ≤ b && b ≤ 0xBF
  else if lead == 0xF4 then 0x80 ≤ b && b ≤ 0x8F
  else isContinuation b

/-- The six payload bits of a continuation byte. -/
def payload (b : UInt8) : Nat := b.toNat % 64

/-- Reads the front of a list that starts with `lead`. -/
def step (lead : UInt8) (rest : List UInt8) : Step :=
  if lead < 0x80 then .char (Char.ofNat lead.toNat) rest
  else if 0xC2 ≤ lead && lead ≤ 0xDF then
    match rest with
    | [] => .cut
    | b :: rest =>
      if isContinuation b then .char (Char.ofNat (lead.toNat % 32 * 64 + payload b)) rest
      else .invalid 0 (b :: rest)
  else if 0xE0 ≤ lead && lead ≤ 0xEF then
    match rest with
    | [] => .cut
    | b :: rest =>
      if !secondAllowed lead b then .invalid 0 (b :: rest)
      else match rest with
        | [] => .cut
        | c :: rest =>
          if isContinuation c then
            .char (Char.ofNat ((lead.toNat % 16 * 64 + payload b) * 64 + payload c)) rest
          else .invalid 1 (c :: rest)
  else if 0xF0 ≤ lead && lead ≤ 0xF4 then
    match rest with
    | [] => .cut
    | b :: rest =>
      if !secondAllowed lead b then .invalid 0 (b :: rest)
      else match rest with
        | [] => .cut
        | c :: rest =>
          if !isContinuation c then .invalid 1 (c :: rest)
          else match rest with
            | [] => .cut
            | d :: rest =>
              if isContinuation d then
                .char (Char.ofNat (((lead.toNat % 8 * 64 + payload b) * 64 + payload c) * 64 +
                  payload d)) rest
              else .invalid 2 (d :: rest)
  else .invalid 0 rest

/-- The bytes that a step leaves are part of those it was given. -/
def Step.rest : Step → List UInt8
  | .char _ rest => rest
  | .invalid _ rest => rest
  | .cut => []

theorem step_rest_length_le (lead : UInt8) (rest : List UInt8) :
    (step lead rest).rest.length ≤ rest.length := by
  unfold step
  repeat' split
  all_goals simp [Step.rest]
  all_goals omega

/-- What is wrong with bytes that are no UTF-8. -/
inductive Defect where
  /-- `size` bytes that start no character, at byte `offset`. -/
  | invalid (size offset : Nat)
  /-- The character that starts at byte `offset` is cut off. -/
  | incomplete (offset : Nat)
deriving DecidableEq

/-- The wording of a defect. -/
def Defect.message : Defect → String
  | .invalid size offset => s!"invalid utf-8 sequence of {size} bytes from index {offset}"
  | .incomplete offset => s!"incomplete utf-8 byte sequence from index {offset}"

/-- The characters that the bytes spell, read from byte `offset` on, or the first defect. -/
def decodeFrom (offset : Nat) (bytes : List UInt8) : Except Defect (List Char) :=
  match bytes with
  | [] => .ok []
  | lead :: rest =>
    match h : step lead rest with
    | .char c rest' =>
      have : rest'.length ≤ rest.length := by
        have := step_rest_length_le lead rest
        rw [h] at this; exact this
      (decodeFrom (offset + (rest.length + 1 - rest'.length)) rest').map (c :: ·)
    | .invalid bad _ => .error (.invalid (bad + 1) offset)
    | .cut => .error (.incomplete offset)
termination_by bytes.length
decreasing_by simp; omega

/-- The text that the bytes spell, or the first defect. -/
def decode (bytes : List UInt8) : Except Defect String := (decodeFrom 0 bytes).map String.ofList

/-- The text that the bytes spell, if they have no defect. -/
def decode? (bytes : List UInt8) : Option String := (decode bytes).toOption

/-- The characters that the bytes spell, with U+FFFD in place of every defect. -/
def decodeLenientChars (bytes : List UInt8) : List Char :=
  match bytes with
  | [] => []
  | lead :: rest =>
    match h : step lead rest with
    | .char c rest' =>
      have : rest'.length ≤ rest.length := by
        have := step_rest_length_le lead rest
        rw [h] at this; exact this
      c :: decodeLenientChars rest'
    | .invalid _ rest' =>
      have : rest'.length ≤ rest.length := by
        have := step_rest_length_le lead rest
        rw [h] at this; exact this
      '\uFFFD' :: decodeLenientChars rest'
    | .cut => ['\uFFFD']
termination_by bytes.length
decreasing_by all_goals simp; omega

/-- The text that the bytes spell, with U+FFFD in place of every defect. -/
def decodeLenient (bytes : List UInt8) : String := String.ofList (decodeLenientChars bytes)

end DomainDeploy.Text.Utf8
