/-!
# Punycode

A label with characters beyond ASCII is spelled in ASCII: first its ASCII characters, then, in base
36, where the others go.  Each of them is a step from the one before it in the order of code points,
so the steps are small; how many digits a step is expected to need adapts to the steps made.
-/

namespace DomainDeploy.Url.Punycode

/-- The digit of value `d`: letters up to 25, decimal digits behind them. -/
def digit (d : Nat) : Char := if d < 26 then Char.ofNat (97 + d) else Char.ofNat (22 + d)

/-- The value of a digit. -/
def value? (c : Char) : Option Nat :=
  if 'a' ≤ c && c ≤ 'z' then some (c.toNat - 97)
  else if 'A' ≤ c && c ≤ 'Z' then some (c.toNat - 65)
  else if '0' ≤ c && c ≤ '9' then some (c.toNat - 22)
  else none

/-- The threshold of the digit at position `k`: a smaller digit ends the number. -/
def threshold (k bias : Nat) : Nat :=
  if k ≤ bias then 1 else if bias + 26 ≤ k then 26 else k - bias

theorem one_le_threshold (k bias : Nat) : 1 ≤ threshold k bias := by
  unfold threshold; split
  · omega
  · split <;> omega

/-- Divides a step until it is small, counting positions. -/
def settle (delta k : Nat) : Nat × Nat :=
  if 455 < delta then settle (delta / 35) (k + 36) else (delta, k)
termination_by delta
decreasing_by omega

/-- The bias after a step of size `delta`, the `count`-th one. -/
def adapt (delta count : Nat) (first : Bool) : Nat :=
  let delta := if first then delta / 700 else delta / 2
  let (small, k) := settle (delta + delta / count) 0
  k + 36 * small / (small + 38)

/-- A step in digits, from position `k` on. -/
def digitsOf (bias k q : Nat) : List Char :=
  let t := threshold k bias
  if q < t then [digit q]
  else digit (t + (q - t) % (36 - t)) :: digitsOf bias (k + 36) ((q - t) / (36 - t))
termination_by q
decreasing_by
  have := one_le_threshold k bias
  have := Nat.div_le_self (q - threshold k bias) (36 - threshold k bias)
  omega

/-- What has been written, the step since the last character, the bias, and how many characters
have been placed. -/
structure Writing where
  text : List Char
  delta : Nat
  bias : Nat
  placed : Nat

/-- Passes one character of the label while those with code `code` are being placed. -/
def Writing.pass (basic code : Nat) (w : Writing) (c : Char) : Writing :=
  if c.toNat < code then { w with delta := w.delta + 1 }
  else if c.toNat == code then
    { text := w.text ++ digitsOf w.bias 36 w.delta
      delta := 0
      bias := adapt w.delta (w.placed + 1) (w.placed == basic)
      placed := w.placed + 1 }
  else w

/-- Places the characters with the given codes, in their order; `next` is the first code that has
not been looked at. -/
def place (label : List Char) (basic next : Nat) (w : Writing) : List Nat → Writing
  | [] => w
  | code :: codes =>
    let start := { w with delta := w.delta + (code - next) * (w.placed + 1) }
    let passed := label.foldl (Writing.pass basic code) start
    place label basic (code + 1) { passed with delta := passed.delta + 1 } codes

/-- The label in ASCII, without the mark that says so. -/
def encode (label : List Char) : List Char :=
  let basic := label.filter (·.toNat < 128)
  let codes := ((label.filter (128 ≤ ·.toNat)).map Char.toNat).mergeSort.eraseDups
  let start : Writing :=
    ⟨if basic.isEmpty then [] else basic ++ ['-'], 0, 72, basic.length⟩
  (place label basic.length 128 start codes).text

/-- Reads one step, from position `k` on and with the weight `w` of its next digit. -/
def step? (bias k w i : Nat) : List Char → Option (Nat × List Char)
  | [] => none
  | c :: rest =>
    match value? c with
    | none => none
    | some d =>
      let t := threshold k bias
      if d < t then some (i + d * w, rest)
      else step? bias (k + 36) (w * (36 - t)) (i + d * w) rest

/-- Reads the steps behind the ASCII characters; a step too far leaves Unicode. -/
def steps? (label : List Char) (code i bias : Nat) (first : Bool) :
    Nat → List Char → Option (List Char)
  | _, [] => some label
  | 0, _ => none
  | fuel + 1, cs =>
    match step? bias 36 1 i cs with
    | none => none
    | some (j, rest) =>
      let count := label.length + 1
      let code := code + j / count
      if 0x110000 ≤ code || (0xD800 ≤ code && code ≤ 0xDFFF) then none
      else
        steps? (label.insertIdx (j % count) (Char.ofNat code)) code (j % count + 1)
          (adapt (j - i) count first) false fuel rest

/-- The label that a spelling stands for. -/
def decode (spelling : List Char) : Option (List Char) :=
  let tail := (spelling.reverse.takeWhile (· != '-')).reverse
  let head := spelling.take (spelling.length - tail.length - 1)
  if head.all (·.toNat < 128) then steps? head 128 0 72 true (tail.length + 1) tail else none

end DomainDeploy.Url.Punycode
