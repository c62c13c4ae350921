import DomainDeploy.Text.Composition
import DomainDeploy.Url.Host.LabelTable

/-!
# Labels with characters beyond ASCII

A label must not start with a mark, and its joiners must stand where they join something.  As soon
as one label of a name is written from right to left, every label must keep to one direction.
-/

namespace DomainDeploy.Url.Domain

/-- The direction that a character is written in, or what it does to its neighbours'. -/
inductive Direction where
  | left
  | right
  | arabicLetter
  | arabicNumber
  | number
  | separator
  | commonSeparator
  | terminator
  | neutral
  | boundary
  | mark
  | other
deriving DecidableEq, Repr

/-- The directions in the order of their numbers. -/
def Direction.all : List Direction := [left, right, arabicLetter, arabicNumber, number, separator,
  commonSeparator, terminator, neutral, boundary, mark, other]

/-- The direction of a character. -/
def direction (c : Char) : Direction :=
  (Direction.all[(directionTable.value? c.toNat).getD 0]?).getD .other

/-- Whether a character makes a name one that is written from right to left. -/
def isRightToLeft (c : Char) : Bool :=
  [Direction.right, .arabicLetter, .arabicNumber].contains (direction c)

/-- The direction that a label ends in, marks not counted. -/
def lastDirection? (label : List Char) : Option Direction :=
  ((label.map direction).reverse.dropWhile (· == .mark)).head?

/-- Whether the directions of a label are among `allowed` and the last one among `ends`. -/
def keepsTo (allowed ends : List Direction) (label : List Char) : Bool :=
  (label.map direction).all allowed.contains &&
    ((lastDirection? label).map ends.contains).getD false

/-- Directions that may stand in every label. -/
def shared : List Direction :=
  [.number, .separator, .commonSeparator, .terminator, .neutral, .boundary, .mark]

/-- Whether a label keeps to one direction, which its first character gives. -/
def keepsDirection (label : List Char) : Bool :=
  match label with
  | [] => true
  | c :: _ =>
    match direction c with
    | .left => keepsTo (.left :: shared) [.left, .number] label
    | .right | .arabicLetter =>
      keepsTo ([.right, .arabicLetter, .arabicNumber] ++ shared)
        [.right, .arabicLetter, .number, .arabicNumber] label &&
        !((label.map direction).contains .number && (label.map direction).contains .arabicNumber)
    | _ => false

/-- The joining type of a character, by number. -/
def joining (c : Char) : Nat := (joiningTable.value? c.toNat).getD 0

/-- Whether the nearest character that is not transparent has one of the joining types. -/
def meets (types : List Nat) (cs : List Char) : Bool :=
  match cs.dropWhile (joining · == 4) with
  | c :: _ => types.contains (joining c)
  | [] => false

/-- Whether a joiner or a non-joiner may stand between `before` (nearest first) and `after`. -/
def joins (c : Char) (before after : List Char) : Bool :=
  (match before with
    | b :: _ => Text.Composition.combiningClass b.toNat == 9
    | [] => false) ||
  (c == '\u200C' && meets [1, 3] before && meets [2, 3] after)

/-- Whether the joiners of a text behind `before` (nearest first) may stand where they do. -/
def joinersFit (before : List Char) : List Char → Bool
  | [] => true
  | c :: rest =>
    (!(c == '\u200C' || c == '\u200D') || joins c before rest) && joinersFit (c :: before) rest

/-- Whether a label may stand in a name. -/
def isValidLabel (label : List Char) : Bool :=
  match label with
  | [] => true
  | c :: _ => !markTable.holds c.toNat && joinersFit [] label

end DomainDeploy.Url.Domain
