/-!
# Durations as text

A duration is written in the largest unit that gives it at least one, with no more decimals than
needed.
-/

namespace DomainDeploy.Text

/-- The last `places` digits of a number behind a point, without zeros at the end. -/
def decimals (places n : Nat) : String :=
  let digits := (List.range places).map fun i => Nat.digitChar (n / Nat.pow 10 i % 10)
  match digits.dropWhile (· == '0') with
  | [] => ""
  | kept => "." ++ String.ofList kept.reverse

/-- So many nanoseconds in a unit that is `places` digits longer than a nanosecond. -/
def inUnit (places : Nat) (unit : String) (nanoseconds : Nat) : String :=
  s!"{nanoseconds / Nat.pow 10 places}{decimals places nanoseconds}{unit}"

/-- A duration of so many nanoseconds. -/
def duration (nanoseconds : Nat) : String :=
  if nanoseconds < 1000 then inUnit 0 "ns" nanoseconds
  else if nanoseconds < 1000000 then inUnit 3 "µs" nanoseconds
  else if nanoseconds < 1000000000 then inUnit 6 "ms" nanoseconds
  else inUnit 9 "s" nanoseconds

end DomainDeploy.Text
