import DomainDeploy.Text.Case

/-!
# Notes for the log

A note is a text with a level.  A filter lets the notes through that are at least as urgent as its
threshold; the threshold comes from the settings unless the environment states one.
-/

namespace DomainDeploy

/-- How urgent a note is. -/
inductive LogLevel where
  | trace
  | debug
  | info
  | warn
  | error
deriving DecidableEq, Repr

namespace LogLevel

/-- The level as a word. -/
def name : LogLevel → String
  | trace => "trace"
  | debug => "debug"
  | info => "info"
  | warn => "warn"
  | error => "error"

/-- The level as it heads a line. -/
def tag : LogLevel → String
  | trace => "TRACE"
  | debug => "DEBUG"
  | info => "INFO"
  | warn => "WARN"
  | error => "ERROR"

/-- The more urgent a level, the greater its rank. -/
def rank : LogLevel → Nat
  | trace => 0
  | debug => 1
  | info => 2
  | warn => 3
  | error => 4

/-- The words for levels. -/
def words : List (String × LogLevel) :=
  [("trace", trace), ("debug", debug), ("info", info), ("warn", warn), ("warning", warn),
    ("error", error)]

/-- The level that a word names in any letter case. -/
def ofText? (text : String) : Option LogLevel := words.lookup (Text.lower text)

/-- What is said of a word that names no level. -/
def unknown (text : String) : String := s!"Invalid log level: {text}"

end LogLevel

/-- A line for the log. -/
structure Note where
  level : LogLevel
  text : String
deriving DecidableEq, Repr

/-- The line with its level in front. -/
def Note.line (n : Note) : String := s!"{n.level.tag} {n.text}"

/-- The least urgent level that is let through, if any is. -/
structure LogFilter where
  threshold : Option LogLevel
deriving DecidableEq, Repr

namespace LogFilter

/-- Whether the filter lets a note through. -/
def admits (f : LogFilter) (n : Note) : Bool :=
  match f.threshold with
  | some least => least.rank ≤ n.level.rank
  | none => false

/-- Where the notes of the program come from. -/
def origin : String := "wlsdeployer"

/-- The thresholds that a word or a digit states; `off` lets nothing through. -/
def threshold? (word : String) : Option (Option LogLevel) :=
  [("trace", some LogLevel.trace), ("5", some .trace), ("debug", some .debug), ("4", some .debug),
    ("info", some .info), ("3", some .info), ("warn", some .warn), ("2", some .warn),
    ("error", some .error), ("1", some .error), ("off", none), ("0", none)].lookup
      (Text.lower word)

/-- A directive: a threshold for everything that comes from an origin starting with `start`. -/
structure Directive where
  start : String
  threshold : Option LogLevel

/-- Whether a text can name an origin. -/
def isOrigin (text : String) : Bool :=
  text != "" && text.toList.all fun c => c.isAlphanum || c == '_' || c == ':' || c == '-'

/-- An origin as a directive names it; a word for a threshold names every origin. -/
def originOf (text : String) : String := if (threshold? text).isSome then "" else text

/-- Reads a directive: a threshold for all, or an origin with or without one. -/
def directive? (text : String) : Option Directive :=
  match threshold? text with
  | some threshold => some ⟨"", threshold⟩
  | none =>
    match text.splitOn "=" with
    | [start] => if isOrigin start then some ⟨start, some .trace⟩ else none
    | [start, word] =>
      if !isOrigin start then none
      else if word == "" then some ⟨originOf start, some .trace⟩
      else (threshold? word).map (⟨originOf start, ·⟩)
    | _ => none

/-- Of the directives that speak about an origin, the one that is most specific decides. -/
def decide (origin : String) (directives : List Directive) : LogFilter :=
  let speaking := directives.filter fun d => d.start.toList.isPrefixOf origin.toList
  let best := speaking.foldl (fun best d =>
    match best with
    | some (b : Directive) => if b.start.length ≤ d.start.length then some d else best
    | none => some d) none
  ⟨best.bind (·.threshold)⟩

/-- The filter that directives with commas between them state for an origin; with none of them
nothing passes. -/
def ofDirectives? (origin text : String) : Option LogFilter :=
  (((text.splitOn ",").filter (· != "")).mapM directive?).map (decide origin)

/-- The filter that the environment states for an origin, or else the level of the settings. -/
def choose (origin : String) (stated : Option String) (level : LogLevel) : LogFilter :=
  (stated.bind (ofDirectives? origin)).getD ⟨some level⟩

end LogFilter

end DomainDeploy
