import ScriptRegistrar.Json.Basic

namespace ScriptRegistrar

inductive LogLevel where
  | error
  | warn
  | info
  | debug
  | trace
deriving DecidableEq, Repr, Inhabited

namespace LogLevel

def all : List LogLevel := [error, warn, info, debug, trace]

def name : LogLevel → String
  | error => "error"
  | warn => "warn"
  | info => "info"
  | debug => "debug"
  | trace => "trace"

def label (level : LogLevel) : String := level.name.toUpper

def verbosity : LogLevel → Nat
  | error => 0
  | warn => 1
  | info => 2
  | debug => 3
  | trace => 4

/-- Whether a log of this level shows an event of the other one. -/
def admits (limit level : LogLevel) : Bool := level.verbosity ≤ limit.verbosity

end LogLevel

inductive LogFormat where
  | text
  | json
deriving DecidableEq, Repr, Inhabited

namespace LogFormat

def all : List LogFormat := [text, json]

def name : LogFormat → String
  | text => "text"
  | json => "json"

end LogFormat

inductive LogValue where
  | text (text : String)
  | number (value : Nat)
deriving DecidableEq, Repr, Inhabited

namespace LogValue

def render : LogValue → String
  | text value => value
  | number value => toString value

def encode : LogValue → Json
  | text value => .str value
  | number value => .int value

end LogValue

/-- `topic` is the part of the program that the event comes from. -/
structure LogEvent where
  level : LogLevel
  topic : String
  message : String
  values : List (String × LogValue) := []
deriving DecidableEq, Repr, Inhabited

namespace LogEvent

def line (e : LogEvent) : String :=
  e.level.label ++ " " ++ e.topic ++ ": " ++ e.message ++
    String.join (e.values.map fun (name, value) => " " ++ name ++ "=" ++ value.render)

def encode (e : LogEvent) : Json := .obj [
  ("level", .str e.level.label),
  ("fields", .obj (("message", .str e.message) ::
    e.values.map fun (name, value) => (name, value.encode))),
  ("target", .str e.topic)]

end LogEvent

end ScriptRegistrar

namespace ScriptRegistrar.CommandLine

abbrev Environment := String → Option String

structure LogOptions where
  format : LogFormat := .text
  level : LogLevel := .info
deriving DecidableEq, Repr, Inhabited

/-- The environment may use other names too, in capital or small letters. -/
def formatNamed? (name : String) : Option LogFormat :=
  match name.toLower with
  | "text" | "plain" | "compact" => some .text
  | "json" => some .json
  | _ => none

def levelNamed? (name : String) : Option LogLevel :=
  match name.toLower with
  | "error" | "err" => some .error
  | "warn" | "warning" => some .warn
  | "info" => some .info
  | "debug" => some .debug
  | "trace" | "verbose" => some .trace
  | _ => none

namespace LogOptions

def formatVariable : String := "GODOT_ENTRY_LOG_FORMAT"

def levelVariable : String := "GODOT_ENTRY_LOG_LEVEL"

def ofEnvironment (environment : Environment) : LogOptions where
  format := ((environment formatVariable).bind formatNamed?).getD .text
  level := ((environment levelVariable).bind levelNamed?).getD .info

/-- Flags go before the environment. -/
def override (options : LogOptions) (format : Option LogFormat) (level : Option LogLevel) :
    LogOptions where
  format := format.getD options.format
  level := level.getD options.level

end LogOptions

end ScriptRegistrar.CommandLine
