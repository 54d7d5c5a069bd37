import IncidentWatch.Json.Basic

/-!
# Log entries

An entry of the log has a level, a message and named fields, which are texts,
integers and truth values.
-/

set_option autoImplicit false

namespace IncidentWatch

/-- How much attention an entry asks for. -/
inductive LogLevel where
  | debug
  | info
  | warn
  | error
  deriving DecidableEq, Repr

def LogLevel.name : LogLevel → String
  | .debug => "DEBUG"
  | .info => "INFO"
  | .warn => "WARN"
  | .error => "ERROR"

/-- One entry of the log. -/
structure LogEntry where
  level : LogLevel
  message : String
  fields : List (String × Json)

namespace LogEntry

def debug (message : String) (fields : List (String × Json)) : LogEntry := ⟨.debug, message, fields⟩

def info (message : String) (fields : List (String × Json)) : LogEntry := ⟨.info, message, fields⟩

def warn (message : String) (fields : List (String × Json)) : LogEntry := ⟨.warn, message, fields⟩

def error (message : String) (fields : List (String × Json)) : LogEntry := ⟨.error, message, fields⟩

def encode (e : LogEntry) : Json :=
  .object [("level", .str e.level.name), ("message", .str e.message), ("fields", .object e.fields)]

end LogEntry

end IncidentWatch
