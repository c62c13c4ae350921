import DomainDeploy.Text.CompositionTable

/-!
# Composed text

One character with a mark can be spelled in several ways.  The composed form of a text takes every
character apart, puts marks in the order of their combining classes, and then puts together what
goes together, so texts that mean the same have one composed form.
-/

namespace DomainDeploy.Text

namespace Composition

/-- The first syllable of Hangul. -/
def syllables : Nat := 0xAC00

/-- The first leading consonant, vowel and trailing consonant; the last of these stands for none. -/
def jamo : Nat × Nat × Nat := (0x1100, 0x1161, 0x11A7)

/-- The parts of a syllable. -/
def syllableParts? (n : Nat) : Option (List Nat) :=
  if syllables ≤ n && n < syllables + 11172 then
    let i := n - syllables
    let pair := [jamo.1 + i / 588, jamo.2.1 + i % 588 / 28]
    some (if i % 28 == 0 then pair else pair ++ [jamo.2.2 + i % 28])
  else none

/-- The syllable of a consonant and a vowel, or of an open syllable and a trailing consonant. -/
def syllable? (a b : Nat) : Option Nat :=
  if jamo.1 ≤ a && a < jamo.1 + 19 && jamo.2.1 ≤ b && b < jamo.2.1 + 21 then
    some (syllables + ((a - jamo.1) * 21 + (b - jamo.2.1)) * 28)
  else if syllables ≤ a && a < syllables + 11172 && (a - syllables) % 28 == 0 &&
      jamo.2.2 < b && b < jamo.2.2 + 28 then
    some (a + (b - jamo.2.2))
  else none

/-- The combining class of a code point; only marks have one other than 0. -/
def combiningClass (n : Nat) : Nat := (combiningTable.value? n).getD 0

/-- What a code point is taken apart into, in one step. -/
def parts? (n : Nat) : Option (List Nat) :=
  syllableParts? n <|> composedTable.target? n <|> decomposedTable.target? n

/-- What a code point is taken apart into, in so many steps at most. -/
def takeApart : Nat → Nat → List Nat
  | 0, n => [n]
  | steps + 1, n =>
    match parts? n with
    | some parts => parts.flatMap (takeApart steps)
    | none => [n]

/-- No code point takes more steps to be taken apart. -/
def mostSteps : Nat := 4

/-- Marks in the order of their classes; marks of one class keep theirs. -/
def sortMarks (marks : List Nat) : List Nat :=
  marks.mergeSort fun a b => combiningClass a ≤ combiningClass b

/-- Puts marks that stand together in order, the given ones and those that follow. -/
def reorder (marks : List Nat) : List Nat → List Nat
  | [] => sortMarks marks
  | n :: rest =>
    if combiningClass n == 0 then sortMarks marks ++ n :: reorder [] rest
    else reorder (marks ++ [n]) rest

/-- What two code points compose to. -/
def compose? (a b : Nat) : Option Nat := syllable? a b <|> composedTable.source? [a, b]

/-- Whether nothing between the base and `n` keeps them apart. -/
def reaches (marks : List Nat) (n : Nat) : Bool :=
  match marks.getLast? with
  | some mark => combiningClass mark < combiningClass n
  | none => true

/-- Composes what follows with a base, behind which stand marks that did not compose. -/
def composeWith (base : Option Nat) (marks : List Nat) : List Nat → List Nat
  | [] => base.toList ++ marks
  | n :: rest =>
    match if reaches marks n then base.bind (compose? · n) else none with
    | some composed => composeWith (some composed) marks rest
    | none =>
      if combiningClass n == 0 then base.toList ++ marks ++ composeWith (some n) [] rest
      else composeWith base (marks ++ [n]) rest

end Composition

/-- The composed form of a text. -/
def composed (cs : List Char) : List Char :=
  let apart := cs.flatMap fun c => Composition.takeApart Composition.mostSteps c.toNat
  (Composition.composeWith none [] (Composition.reorder [] apart)).map Char.ofNat

end DomainDeploy.Text
