import DomainDeploy.Url.Percent

/-!
# Paths of URLs

The path of a URL is either a text that cannot be taken apart, or a list of segments.  While a path
is read, `..` takes the segment before it away and `.` counts for nothing; at the end of a path both
leave an empty segment, so that the path still ends in a slash.
-/

namespace DomainDeploy.Url

/-- The path of a URL. -/
inductive Path where
  /-- A text behind the colon of the scheme that does not start with a slash. -/
  | literal (text : List Char)
  /-- Segments, each behind a slash; none at all is the empty path. -/
  | segments (parts : List (List Char))
deriving DecidableEq, Repr

/-- The path as it stands in a URL. -/
def Path.chars : Path → List Char
  | literal text => text
  | segments parts => parts.flatMap ('/' :: ·)

/-- Ways to write a dot. -/
def isDot (cs : List Char) : Bool :=
  cs == ['.'] || cs == ['%', '2', 'e'] || cs == ['%', '2', 'E']

/-- Whether a segment stands for the segment above. -/
def isDoubleDot (cs : List Char) : Bool :=
  cs.length != 1 &&
    ((isDot (cs.take 1) && isDot (cs.drop 1)) || (isDot (cs.take 3) && isDot (cs.drop 3)))

/-- Adds one encoded segment; `last` when nothing follows it. -/
def addSegment (parts : List (List Char)) (segment : List Char) (last : Bool) :
    List (List Char) :=
  if isDoubleDot segment then
    if last then parts.dropLast ++ [[]] else parts.dropLast
  else if isDot segment then
    if last then parts ++ [[]] else parts
  else parts ++ [segment]

/-- Adds the raw segments of a path, encoded, from the first one on. -/
def addSegments (set : EncodeSet) (parts : List (List Char)) :
    List (List Char) → List (List Char)
  | [] => parts
  | [raw] => addSegment parts (encodeWith set raw) true
  | raw :: rest => addSegments set (addSegment parts (encodeWith set raw) false) rest

/-- Tabs and line ends, which a URL never holds. -/
def isDropped (c : Char) : Bool := c == '\t' || c == '\n' || c == '\r'

/-- Puts a whole segment behind the last one; a path that is only a slash is filled instead. -/
def pushSegment (special : Bool) (parts : List (List Char)) (segment : String) :
    List (List Char) :=
  if segment == "." || segment == ".." then parts
  else
    let kept := segment.toList.filter (!isDropped ·)
    let parts := if parts == [[]] then [] else parts
    addSegment parts (encodeWith (if special then .specialSegment else .segment) kept) true

end DomainDeploy.Url
