/-
Settings of the log: how severe a message must be to appear, how lines
look, and finer directives for single targets.

A level is named in any case and with white space around it, and one level
has two names. The filter is one text, the level first and then the
directives in their order.
-/
import EventAnalytics.Text.Blank
import EventAnalytics.Text.Numeral
import EventAnalytics.Toml.Record

namespace EventAnalytics

/-- The severity of a log message. -/
inductive LogLevel where
  | trace
  | debug
  | info
  | warn
  | error
  deriving DecidableEq, Repr

namespace LogLevel

/-- The levels, the least severe first. -/
def all : List LogLevel := [trace, debug, info, warn, error]

/-- The level's place among all levels. -/
def rank : LogLevel → Nat
  | .trace => 0
  | .debug => 1
  | .info => 2
  | .warn => 3
  | .error => 4

/-- The level's names, the usual one first. -/
def names : LogLevel → List String
  | .trace => ["trace"]
  | .debug => ["debug"]
  | .info => ["info"]
  | .warn => ["warn", "warning"]
  | .error => ["error"]

def name : LogLevel → String
  | .trace => "trace"
  | .debug => "debug"
  | .info => "info"
  | .warn => "warn"
  | .error => "error"

/-- The level that a text names. -/
def ofText? (s : String) : Option LogLevel :=
  all.find? fun l => l.names.contains (Text.lowered (Text.trimmed s))

/-- The report of a text that names no level. -/
def unknownMessage (s : String) : String := "unknown log level: " ++ s

/-- A level in a settings document. -/
def decode? (v : Toml) : Option LogLevel := v.text?.bind ofText?

end LogLevel

inductive LogFormat where
  /-- Lines for reading. -/
  | console
  /-- One JSON object on each line. -/
  | json
  deriving DecidableEq, Repr

namespace LogFormat

def name : LogFormat → String
  | .console => "console"
  | .json => "json"

/-- A format in a settings document, which must spell it exactly. -/
def decode? (v : Toml) : Option LogFormat :=
  v.choice?.bind fun s => [console, json].find? fun f => f.name == s

end LogFormat

structure LogSettings where
  level : LogLevel := .info
  format : LogFormat := .console
  directives : List String := []
  deriving DecidableEq, Repr

namespace LogSettings

/-- The filter for a level, which may differ from the one in the settings. -/
def filter (s : LogSettings) (level : LogLevel) : String :=
  String.intercalate "," (level.name :: s.directives)

def decode? (v : Toml) : Option LogSettings :=
  match v.record? ["level", "format", "directives"] with
  | some [level, format, directives] => do
    let level ← Toml.fieldOr .info LogLevel.decode? level
    let format ← Toml.fieldOr .console LogFormat.decode? format
    let directives ← Toml.fieldOr [] Toml.texts? directives
    return ⟨level, format, directives⟩
  | _ => none

end LogSettings

end EventAnalytics
