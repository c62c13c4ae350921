import DomainDeploy.Binary64.Basic

/-!
# The fewest digits that read back

`Binary64.digits` finds the shortest decimal that rounds to the number, and of those the nearest.
It tests the two neighbours of the number on the grid of `n`-digit decimals for `n = 1, 2, …`; on
the first grid where one of them lies between the midpoints to the adjacent numbers, that neighbour
is the answer.
-/

namespace DomainDeploy.Binary64

/-- The decimal `digits · 10 ^ power`. -/
structure Decimal where
  digits : Nat
  power : Int
deriving DecidableEq, Repr

/-- A number with the midpoints to its neighbours, as numerators over one denominator. -/
structure Interval where
  low : Nat
  value : Nat
  high : Nat
  denominator : Nat
  /-- Whether the midpoints themselves round to the number. -/
  closed : Bool

/-- The decimals that round to `x` lie between these bounds. -/
def interval (x : Binary64) : Interval :=
  let m := x.mantissa
  let below := if m == Nat.pow 2 52 && minExponent < x.exponent then 4 * m - 1 else 4 * m - 2
  let up := Nat.pow 2 x.exponent.toNat
  let down := Nat.pow 2 (-x.exponent).toNat
  ⟨below * up, 4 * m * up, (4 * m + 2) * up, 4 * down, m % 2 == 0⟩

/-- `n · 10 ^ p` against the value `v / d`, as two naturals to compare. -/
def sides (n : Nat) (p : Int) (v d : Nat) : Nat × Nat :=
  (n * Nat.pow 10 p.toNat * d, v * Nat.pow 10 (-p).toNat)

/-- Whether the decimal lies in the interval. -/
def Interval.holds (i : Interval) (n : Nat) (p : Int) : Bool :=
  let (l, lo) := sides n p i.low i.denominator
  let (h, hi) := sides n p i.high i.denominator
  if i.closed then lo ≤ l && h ≤ hi else lo < l && h < hi

/-- The number of decimal digits of `n`. -/
def digitCount (n : Nat) : Nat := (Nat.toDigits 10 n).length

/-- The power of ten of the leading digit of `v / d`. -/
def leadingPower (v d : Nat) : Int :=
  let guess : Int := (digitCount v : Int) - (digitCount d : Int)
  let (a, b) := sides 1 guess v d
  if b < a then guess - 1 else guess

/-- The shortest decimal in the interval, tried with `n` digits and up to `more` further ones. -/
def shortestFrom (i : Interval) (lead : Int) (n : Nat) : Nat → Decimal
  | 0 =>
    let p := lead - n + 1
    let (_, v) := sides 0 p i.value i.denominator
    ⟨v / (Nat.pow 10 p.toNat * i.denominator), p⟩
  | more + 1 =>
    let p := lead - n + 1
    let (unit, v) := sides 1 p i.value i.denominator
    let floor := v / unit
    let twice := 2 * (v % unit)
    match i.holds floor p && floor != 0, i.holds (floor + 1) p with
    | true, true =>
      if twice < unit then ⟨floor, p⟩
      else if unit < twice then ⟨floor + 1, p⟩
      else if floor % 2 == 0 then ⟨floor, p⟩ else ⟨floor + 1, p⟩
    | true, false => ⟨floor, p⟩
    | false, true => ⟨floor + 1, p⟩
    | false, false => shortestFrom i lead (n + 1) more

/-- The digits of a decimal without the zeros at their end. -/
def Decimal.normal (d : Decimal) : Nat → Decimal
  | 0 => d
  | fuel + 1 =>
    if d.digits != 0 && d.digits % 10 == 0 then Decimal.normal ⟨d.digits / 10, d.power + 1⟩ fuel
    else d

/-- The shortest decimal that rounds to the magnitude of `x`. -/
def decimal (x : Binary64) : Decimal :=
  if x.mantissa == 0 then ⟨0, 0⟩
  else
    let i := x.interval
    Decimal.normal (shortestFrom i (leadingPower i.value i.denominator) 1 17) 20

/-- Decimals are written with a point from `1e-5` up to below `1e16`, and with an exponent
elsewhere. -/
def lowestPositional : Int := -5

/-- The first power of ten that is written with an exponent. -/
def firstScientific : Int := 16

/-- The number as text: a point and at least one digit behind it, or digits with an exponent. -/
def toText (x : Binary64) : String :=
  let sign := if x.negative then "-" else ""
  let d := x.decimal
  let digits := Nat.toDigits 10 d.digits
  let lead : Int := d.power + (digits.length : Int) - 1
  let body : List Char :=
    if d.digits == 0 then "0.0".toList
    else if lowestPositional ≤ lead && lead < firstScientific then
      if 0 ≤ d.power then digits ++ List.replicate d.power.toNat '0' ++ ".0".toList
      else if 0 ≤ lead then
        digits.take (lead.toNat + 1) ++ '.' :: digits.drop (lead.toNat + 1)
      else "0.".toList ++ List.replicate ((-lead).toNat - 1) '0' ++ digits
    else
      let fraction := if digits.length == 1 then [] else '.' :: digits.drop 1
      let exponent :=
        if lead < 0 then '-' :: Nat.toDigits 10 (-lead).toNat
        else '+' :: Nat.toDigits 10 lead.toNat
      digits.take 1 ++ fraction ++ 'e' :: exponent
  sign ++ String.ofList body

end DomainDeploy.Binary64
