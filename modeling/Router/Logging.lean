import Router.Text.Keyword

/-!
# Logging settings

A level and an output form, kept as the words of the configuration. A word that is not known stands for the default.
-/

namespace Router

/-- How much is logged. -/
inductive LogLevel
  | error
  | warn
  | info
  | debug
  | trace
  deriving DecidableEq, Repr

namespace LogLevel

/-- The name of a level. -/
def name : LogLevel → String
  | .error => "ERROR"
  | .warn => "WARN"
  | .info => "INFO"
  | .debug => "DEBUG"
  | .trace => "TRACE"

instance : Text.Keyword LogLevel where
  noun := "level"
  spelling := name
  all := [.error, .warn, .info, .debug, .trace]

end LogLevel

/-- In which form it is logged. -/
inductive LogFormat
  | pretty
  | compact
  | json
  deriving DecidableEq, Repr

namespace LogFormat

/-- The name of a form. -/
def name : LogFormat → String
  | .pretty => "Pretty"
  | .compact => "Compact"
  | .json => "Json"

instance : Text.Keyword LogFormat where
  noun := "format"
  spelling := name
  all := [.pretty, .compact, .json]

end LogFormat

/-- The logging settings as given. -/
structure LogConfig where
  level : String
  format : String
  deriving DecidableEq, Repr

namespace LogConfig

/-- The settings where none were given. -/
def default : LogConfig :=
  ⟨"info", "pretty"⟩

/-- The level in force. -/
def levelInForce (c : LogConfig) : LogLevel :=
  (Text.Keyword.find? c.level).getD .info

/-- The form in force. -/
def formatInForce (c : LogConfig) : LogFormat :=
  (Text.Keyword.find? c.format).getD .pretty

/-- The word, if a reading failed on it. -/
def unknown? {α : Type} : Except Text.UnknownWord α → List Text.UnknownWord
  | .ok _ => []
  | .error word => [word]

/-- The words that are not known. -/
def unknown (c : LogConfig) : List Text.UnknownWord :=
  unknown? (Text.Keyword.read (α := LogLevel) c.level) ++ unknown? (Text.Keyword.read (α := LogFormat) c.format)

end LogConfig

end Router
