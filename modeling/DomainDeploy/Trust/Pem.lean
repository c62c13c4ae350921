import DomainDeploy.Text.Quoted
import DomainDeploy.Text.Utf8
import DomainDeploy.Trust.Base64

/-!
# Certificates in text files

A file holds sections between a `BEGIN` and an `END` line, and anything may stand around them.  The
sections of certificates are decoded and kept; sections of other known kinds are decoded and
dropped; sections of kinds that nobody knows are passed over.
-/

namespace DomainDeploy.Trust

/-- Why a file of sections cannot be read. -/
inductive PemFault where
  | endMissing (label : List UInt8)
  | startInvalid (line : List UInt8)
  | contents (fault : Base64Fault)
deriving DecidableEq, Repr

/-- The wording of a fault. -/
def PemFault.message : PemFault → String
  | endMissing label => s!"section end {Text.quoted (Text.Utf8.decodeLenient label)} missing"
  | startInvalid line => s!"illegal section start: {Text.quoted (Text.Utf8.decodeLenient line)}"
  | contents fault => fault.message

namespace Pem

/-- Whether a byte ends a line. -/
def endsLine (b : UInt8) : Bool := b == 10 || b == 13

/-- Cuts a file behind every byte that ends a line. -/
def lines : List UInt8 → List (List UInt8)
  | [] => []
  | b :: rest =>
    if endsLine b then [b] :: lines rest
    else match lines rest with
      | [] => [[b]]
      | line :: more => (b :: line) :: more

/-- A line without the blanks and line ends at its end. -/
def trimEnd (line : List UInt8) : List UInt8 :=
  (line.reverse.dropWhile fun b => endsLine b || b == 32).reverse

/-- What a section starts with. -/
def beginMark : List UInt8 := Text.Utf8.encode "-----BEGIN "

/-- What a section ends with. -/
def endMark : List UInt8 := Text.Utf8.encode "-----END "

/-- Five dashes. -/
def dashes : List UInt8 := List.replicate 5 45

/-- The label of a certificate. -/
def certificateLabel : List UInt8 := Text.Utf8.encode "CERTIFICATE"

/-- The labels of the sections that are decoded. -/
def knownLabels : List (List UInt8) :=
  ["CERTIFICATE", "PUBLIC KEY", "RSA PRIVATE KEY", "PRIVATE KEY", "EC PRIVATE KEY", "X509 CRL",
    "CERTIFICATE REQUEST", "ECHCONFIG"].map Text.Utf8.encode

/-- The label of a line that starts a section: all up to the five dashes at its end.  Dashes are
counted from the end, past line ends and blanks. -/
def startLabel? (line : List UInt8) : Option (List UInt8) :=
  let tail := line.reverse.takeWhile fun b => b == 45 || endsLine b || b == 32
  if tail.count 45 != 5 then none
  else
    let blanks := (tail.reverse.takeWhile (· != 45)).length
    some ((line.drop beginMark.length).take
      (line.length - tail.length + blanks - beginMark.length))

/-- Whether a line ends the section of that label. -/
def endsSection (label line : List UInt8) : Bool :=
  (endMark ++ label ++ dashes).isPrefixOf line

/-- Reads lines; `label` is that of the section that has been started, if any, and `text` what has
been read of it. -/
def readLines (label : Option (List UInt8)) (text : List UInt8) :
    List (List UInt8) → Except PemFault (List (List UInt8))
  | [] =>
    match label with
    | some label => .error (.endMissing label)
    | none => .ok []
  | line :: rest =>
    if beginMark.isPrefixOf line then
      match startLabel? line with
      | some label => readLines (some label) text rest
      | none => .error (.startInvalid line)
    else match label with
      | none => readLines none text rest
      | some label =>
        if endsSection label line then
          if knownLabels.contains label then do
            let bytes ← (Base64.decode text).mapError .contents
            let more ← readLines none [] rest
            return if label == certificateLabel then bytes :: more else more
          else readLines none [] rest
        else readLines (some label) (text ++ trimEnd line) rest

/-- The certificates in a file. -/
def certificates (file : List UInt8) : Except PemFault (List (List UInt8)) :=
  readLines none [] (lines file)

end Pem

end DomainDeploy.Trust
