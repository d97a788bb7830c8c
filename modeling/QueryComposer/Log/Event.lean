import QueryComposer.Json
import QueryComposer.Redaction

namespace QueryComposer.Log

/-!
# Log events

An event has a level, the name of the logger, a text that says what happened and further fields.
Before it is written it is redacted and turned into plain data; `Event.render?` does both.
-/

/-- The levels of events. -/
inductive Level where
  | debug
  | info
  | warning
  | error
  | critical
  deriving Repr, DecidableEq

namespace Level

/-- The name of a level in an event. -/
def name : Level → String
  | .debug => "debug"
  | .info => "info"
  | .warning => "warning"
  | .error => "error"
  | .critical => "critical"

/-- The number of a level: the higher, the more severe. -/
def severity : Level → Nat
  | .debug => 10
  | .info => 20
  | .warning => 30
  | .error => 40
  | .critical => 50

end Level

/-- The severity that a configured name stands for, if it stands for one. -/
def severityOfName? : String → Option Nat
  | "DEBUG" => some 10
  | "INFO" => some 20
  | "WARN"
  | "WARNING" => some 30
  | "ERROR" => some 40
  | "CRITICAL"
  | "FATAL" => some 50
  | "NOTSET" => some 0
  | _ => none

/-- The severity for a configured name; an unknown name means the usual one. -/
def severityOfName (name : String) : Nat :=
  (severityOfName? name).getD Level.info.severity

/-- The usual layout of a line, whose name may be configured in the place of a level. -/
def basicLayout : String :=
  "%(levelname)s:%(name)s:%(message)s"

/-- What a configured name stands for: the severity of a level, or the usual layout of a line. -/
def valueOfName : String → Value
  | "BASIC_FORMAT" => .text basicLayout
  | name => .int (severityOfName name)

/-- Something that happened. -/
structure Event where
  level : Level
  logger : String
  fields : List (String × Value)
  deriving Repr

/-- An event as it is written. -/
structure Record where
  level : Level
  members : List (String × Json)
  deriving Repr

namespace Event

/-- The fields that an event is written with: its own, under which level and logger are set. -/
def allFields (event : Event) : List (String × Value) :=
  Association.merge event.fields [
    ("level", .text event.level.name),
    ("logger", .text event.logger)]

/-- Redact an event and turn it into plain data. -/
def render? (event : Event) : Except Error Record := do
  let pairs := event.allFields.map fun (name, value) => (Value.text name, value)
  let redacted ← Redaction.redactPairs pairs
  let members ← Json.ofPairs redacted
  return ⟨event.level, members⟩

end Event

/-- The records at or above a severity. -/
def atLeast
    (severity : Nat)
    (records : List Record) :
    List Record :=
  records.filter fun record => severity ≤ record.level.severity

end QueryComposer.Log
