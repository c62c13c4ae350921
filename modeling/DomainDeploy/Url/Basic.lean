import DomainDeploy.Url.Host
import DomainDeploy.Url.Path

/-!
# URLs

A URL names a scheme, who asks whom (the authority), a path, and optionally a query and a fragment.
The parts are kept in the form in which they are written, so `Url.toText` only puts them together.
-/

namespace DomainDeploy

/-- Who asks whom: user name and password, host, and a port other than the scheme's own. -/
structure Url.Authority where
  user : List Char
  password : Option (List Char)
  host : Url.Host
  port : Option Nat
deriving DecidableEq, Repr

/-- A URL in its parts. -/
structure Url where
  scheme : String
  authority : Option Url.Authority
  path : Url.Path
  query : Option (List Char)
  fragment : Option (List Char)
deriving DecidableEq, Repr

namespace Url

/-- The schemes whose URLs always have a host and a path. -/
def specialSchemes : List String := ["http", "https", "ws", "wss", "ftp", "file"]

/-- Whether a scheme is special. -/
def isSpecialScheme (scheme : String) : Bool := specialSchemes.contains scheme

/-- The port that a scheme stands for. -/
def defaultPort : String → Option Nat
  | "http" | "ws" => some 80
  | "https" | "wss" => some 443
  | "ftp" => some 21
  | _ => none

/-- User name and password as they stand before the host. -/
def Authority.credentials (a : Authority) : List Char :=
  if a.user.isEmpty && a.password.isNone then []
  else a.user ++ (match a.password with | some p => ':' :: p | none => []) ++ ['@']

/-- The authority behind its two slashes. -/
def Authority.chars (a : Authority) : List Char :=
  a.credentials ++ a.host.chars ++
    (match a.port with | some p => ':' :: Nat.toDigits 10 p | none => [])

/-- The URL as text, in characters. -/
def chars (u : Url) : List Char :=
  let path := u.path.chars
  u.scheme.toList ++ ':' ::
    ((match u.authority with
      | some a => '/' :: '/' :: a.chars
      | none => if path.take 2 == ['/', '/'] then ['/', '.'] else []) ++
    path ++
    (match u.query with | some q => '?' :: q | none => []) ++
    (match u.fragment with | some f => '#' :: f | none => []))

/-- The URL as text. -/
def toText (u : Url) : String := String.ofList u.chars

/-- The host, unless it is missing or empty. -/
def host? (u : Url) : Option String :=
  match u.authority with
  | some a => if a.host.chars.isEmpty then none else some (String.ofList a.host.chars)
  | none => none

/-- The port that the URL gives, or else the one its scheme stands for. -/
def port? (u : Url) : Option Nat :=
  match u.authority.bind (·.port) with
  | some port => some port
  | none => defaultPort u.scheme

/-- User name and password as texts, if there are any that can be read. -/
def credentials? (u : Url) : Option (String × Option String) := do
  let a ← u.authority
  let user ← Text.Utf8.decode? (decodeBytes a.user)
  let password := a.password.bind fun p => Text.Utf8.decode? (decodeBytes p)
  if user == "" && password.isNone then none else some (user, password)

/-- The URL without user name and password, if these can be read. -/
def withoutCredentials (u : Url) : Url :=
  if u.credentials?.isNone then u
  else { u with authority := u.authority.map fun a => { a with user := [], password := none } }

/-- The URL with a last empty segment taken away, unless it is the only one, and the given ones put
behind the others; nothing when the path cannot be taken apart. -/
def extend? (u : Url) (more : List String) : Option Url :=
  match u.path with
  | .literal _ => none
  | .segments parts =>
    let parts := if 1 < parts.length && parts.getLast? == some [] then parts.dropLast else parts
    some { u with path := .segments (more.foldl (pushSegment (isSpecialScheme u.scheme)) parts) }

/-- A name and a value in the form encoding. -/
def formPair (name value : String) : List Char := formEncode name ++ '=' :: formEncode value

/-- The URL with names and values put behind its query. -/
def addQuery (u : Url) (pairs : List (String × String)) : Url :=
  let add (query : List Char) (pair : String × String) : List Char :=
    (if query.isEmpty then [] else query ++ ['&']) ++ formPair pair.1 pair.2
  { u with query := some (pairs.foldl add (u.query.getD [])) }

end Url

end DomainDeploy
