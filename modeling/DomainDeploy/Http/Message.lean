import DomainDeploy.Url.Basic

/-!
# Requests and replies

A request names a URL, says who asks, and may carry a JSON text or a form with files.  A reply has a
status and a body, unless it never came or broke off before its end.
-/

namespace DomainDeploy.Http

/-- What is done to a resource. -/
inductive Method where
  | get
  | post
deriving DecidableEq, Repr

/-- The method as a word. -/
def Method.name : Method → String
  | get => "GET"
  | post => "POST"

/-- One part of a form. -/
structure Part where
  name : String
  fileName : Option String
  mediaType : String
  contents : List UInt8
deriving DecidableEq, Repr

/-- What a request carries. -/
inductive Body where
  | nothing
  | json (text : String)
  | form (parts : List Part)
deriving DecidableEq, Repr

/-- A request. -/
structure Request where
  method : Method
  url : Url
  userName : String
  password : String
  headers : List (String × String)
  body : Body
deriving DecidableEq, Repr

/-- What comes back. -/
inductive Reply where
  /-- The connection was closed, or never made. -/
  | lost
  /-- The body is not complete when the connection was closed before its end. -/
  | answered (status : Nat) (body : List UInt8) (complete : Bool)
deriving DecidableEq, Repr

/-- Whether a status says that all went well. -/
def isSuccess (status : Nat) : Bool := 200 ≤ status && status < 300

/-- What the known statuses say. -/
def phrases : List (Nat × String) := [
  (100, "Continue"), (101, "Switching Protocols"), (102, "Processing"), (200, "OK"),
  (201, "Created"), (202, "Accepted"), (203, "Non Authoritative Information"),
  (204, "No Content"), (205, "Reset Content"), (206, "Partial Content"), (207, "Multi-Status"),
  (208, "Already Reported"), (226, "IM Used"), (300, "Multiple Choices"),
  (301, "Moved Permanently"), (302, "Found"), (303, "See Other"), (304, "Not Modified"),
  (305, "Use Proxy"), (307, "Temporary Redirect"), (308, "Permanent Redirect"),
  (400, "Bad Request"), (401, "Unauthorized"), (402, "Payment Required"), (403, "Forbidden"),
  (404, "Not Found"), (405, "Method Not Allowed"), (406, "Not Acceptable"),
  (407, "Proxy Authentication Required"), (408, "Request Timeout"), (409, "Conflict"),
  (410, "Gone"), (411, "Length Required"), (412, "Precondition Failed"),
  (413, "Payload Too Large"), (414, "URI Too Long"), (415, "Unsupported Media Type"),
  (416, "Range Not Satisfiable"), (417, "Expectation Failed"), (418, "I'm a teapot"),
  (421, "Misdirected Request"), (422, "Unprocessable Entity"), (423, "Locked"),
  (424, "Failed Dependency"), (426, "Upgrade Required"), (428, "Precondition Required"),
  (429, "Too Many Requests"), (431, "Request Header Fields Too Large"),
  (451, "Unavailable For Legal Reasons"), (500, "Internal Server Error"),
  (501, "Not Implemented"), (502, "Bad Gateway"), (503, "Service Unavailable"),
  (504, "Gateway Timeout"), (505, "HTTP Version Not Supported"),
  (506, "Variant Also Negotiates"), (507, "Insufficient Storage"), (508, "Loop Detected"),
  (510, "Not Extended"), (511, "Network Authentication Required")]

/-- What a status says. -/
def phrase (status : Nat) : String := (phrases.lookup status).getD "<unknown status code>"

/-- A status with what it says. -/
def statusText (status : Nat) : String := s!"{status} {phrase status}"

/-- The length beyond which the text of a URL cannot be sent. -/
def longestUrl : Nat := 65534

/-- Whether a character can stand in the name of a host that requests are sent to. -/
def isHostChar (c : Char) : Bool := !(['"', '\x60', '\x7b', '\x7d'].contains c)

/-- Whether a request can be sent to a URL. -/
def canSendTo (url : Url) : Bool :=
  (url.scheme == "http" || url.scheme == "https") &&
    (url.host?.getD "").toList.all isHostChar && url.toText.utf8ByteSize ≤ longestUrl

end DomainDeploy.Http
