import DomainDeploy.Text.Blank
import DomainDeploy.Url.Basic

/-!
# Reading URLs

Controls and spaces around a URL and tabs and line ends inside it do not count.  Behind the scheme,
a special scheme reads an authority whatever number of slashes stands there, backslashes being
slashes too; any other scheme reads one behind exactly two slashes, a list of segments behind one,
and otherwise a text that it does not take apart.
-/

namespace DomainDeploy.Url

/-- The scheme in lower case and what stands behind its colon. -/
def splitScheme (cs : List Char) : Option (String × List Char) :=
  let isSchemeChar (c : Char) : Bool := c.isAlphanum || c == '+' || c == '-' || c == '.'
  match cs, cs.dropWhile isSchemeChar with
  | c :: _, ':' :: rest =>
    if c.isAlpha then some (String.ofList ((cs.takeWhile isSchemeChar).map Char.toLower), rest)
    else none
  | _, _ => none

/-- Whether a character ends the authority. -/
def endsAuthority (special : Bool) (c : Char) : Bool :=
  c == '/' || c == '?' || c == '#' || (special && c == '\\')

/-- Splits a text before its last `@`, which is dropped. -/
def splitLastAt (cs : List Char) : Option (List Char × List Char) :=
  let after := (cs.reverse.takeWhile (· != '@')).reverse
  if after.length == cs.length then none
  else some (cs.take (cs.length - after.length - 1), after)

/-- User name and password, encoded; an empty password is none. -/
def readCredentials (cs : List Char) : List Char × Option (List Char) :=
  let user := cs.takeWhile (· != ':')
  let password := (cs.dropWhile (· != ':')).drop 1
  (encodeWith .userinfo user,
    if password.isEmpty then none else some (encodeWith .userinfo password))

/-- How much of a text belongs to the host: up to a colon outside brackets. -/
def splitHost (inBrackets : Bool) : List Char → List Char × List Char
  | [] => ([], [])
  | c :: rest =>
    if c == ':' && !inBrackets then ([], c :: rest)
    else
      let inBrackets := if c == '[' then true else if c == ']' then false else inBrackets
      let (host, rest) := splitHost inBrackets rest
      (c :: host, rest)

/-- The port that digits spell; leading zeros do not count. -/
def readPort (cs : List Char) : Except Fault (Option Nat) :=
  let port := cs.foldl (fun n c => min (n * 10 + (c.toNat - 48)) 65536) 0
  if cs.any (!·.isDigit) || 65535 < port then .error .invalidPort
  else .ok (if cs.isEmpty then none else some port)

/-- Reads an authority, which is all of `cs`; `atEnd` when nothing follows it.  A backslash ends a
port under every scheme, and what it starts is left over. -/
def readAuthority (scheme : String) (atEnd : Bool) (cs : List Char) :
    Except Fault (Authority × List Char) := do
  let special := isSpecialScheme scheme
  let (credentials, rest) := (splitLastAt cs).getD ([], cs)
  if credentials.isEmpty && rest.length < cs.length && rest.isEmpty && !atEnd then
    throw .emptyHost
  let (hostText, rest) := splitHost false rest
  if special && hostText.isEmpty then throw .emptyHost
  let host ← if special then Host.ofSpecial hostText else Host.ofVerbatim hostText
  if hostText.isEmpty && !rest.isEmpty then throw .emptyHost
  let port ← readPort ((rest.drop 1).takeWhile (· != '\\'))
  let (user, password) := readCredentials credentials
  if hostText.isEmpty && !(user.isEmpty && password.isNone) then throw .emptyHost
  return (⟨user, password, host, if port == defaultPort scheme then none else port⟩,
    rest.dropWhile (· != '\\'))

/-- Splits a text at the slashes of a path. -/
def splitPath (special : Bool) (cs : List Char) : List (List Char) :=
  cs.splitOnP fun c => c == '/' || (special && c == '\\')

/-- Reads the segments of a path whose leading slash has been dropped. -/
def readSegments (special : Bool) (cs : List Char) : Path :=
  .segments (addSegments .path [] (splitPath special cs))

/-- Reads the path behind an authority. -/
def readPath (special : Bool) (cs : List Char) : Path :=
  match cs with
  | [] => if special then .segments [[]] else .segments []
  | c :: rest => readSegments special (if c == '/' || (special && c == '\\') then rest else cs)

/-- Splits off the query and the fragment. -/
def splitTail (cs : List Char) : List Char × Option (List Char) × Option (List Char) :=
  let beforeFragment := cs.takeWhile (· != '#')
  let fragment :=
    match cs.dropWhile (· != '#') with
    | _ :: f => some f
    | [] => none
  let query :=
    match beforeFragment.dropWhile (· != '?') with
    | _ :: q => some q
    | [] => none
  (beforeFragment.takeWhile (· != '?'), query, fragment)

/-- Reads what stands behind the slashes that announce an authority. -/
def readBehindSlashes (scheme : String) (cs : List Char) :
    Except Fault (Option Authority × Path) := do
  let special := isSpecialScheme scheme
  let text := cs.takeWhile (!endsAuthority special ·)
  let rest := cs.drop text.length
  let (authority, left) ← readAuthority scheme rest.isEmpty text
  return (some authority, readPath special (left ++ rest))

/-- Reads what stands behind `file:`. -/
def readFile (cs : List Char) : Except Fault (Option Authority × Path) :=
  let isSlash (c : Char) : Bool := c == '/' || c == '\\'
  let nowhere : Authority := ⟨[], none, .verbatim [], none⟩
  match cs with
  | a :: b :: rest =>
    if isSlash a && isSlash b then do
      let hostText := rest.takeWhile (!isSlash ·)
      let host ←
        if hostText.isEmpty then pure (Host.verbatim [])
        else match ← Host.ofSpecial hostText with
          | .domain ['l', 'o', 'c', 'a', 'l', 'h', 'o', 's', 't'] => pure (Host.verbatim [])
          | host => pure host
      return (some { nowhere with host }, readPath true (rest.drop hostText.length))
    else .ok (some nowhere, readPath true cs)
  | _ => .ok (some nowhere, readPath true cs)

/-- Reads the authority and the path of a URL. -/
def readHierarchy (scheme : String) (cs : List Char) : Except Fault (Option Authority × Path) :=
  if scheme == "file" then readFile cs
  else if isSpecialScheme scheme then
    readBehindSlashes scheme (cs.dropWhile fun c => c == '/' || c == '\\')
  else match cs with
    | '/' :: '/' :: rest => readBehindSlashes scheme rest
    | '/' :: rest => .ok (none, readSegments false rest)
    | _ => .ok (none, .literal (encodeWith .controls cs))

/-- Reads a text as a URL. -/
def parse (text : String) : Except Fault Url :=
  let trimmed := Text.trimWhere (·.toNat ≤ 0x20) text.toList
  match splitScheme (trimmed.filter (!isDropped ·)) with
  | none => .error .relative
  | some (scheme, rest) => do
    let (hierarchy, query, fragment) := splitTail rest
    let (authority, path) ← readHierarchy scheme hierarchy
    let querySet := if isSpecialScheme scheme then EncodeSet.specialQuery else EncodeSet.query
    return {
      scheme, authority, path
      query := query.map (encodeWith querySet)
      fragment := fragment.map (encodeWith .fragment) }

end DomainDeploy.Url
