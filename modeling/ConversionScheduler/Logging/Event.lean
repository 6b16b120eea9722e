import ConversionScheduler.Json.Value
/-!
# Events for the log

## Main definitions

* `Severity` — how much an event matters.
* `Event` — what is written to the log.
* `Event.toJson` — an event as JSON.
-/

namespace ConversionScheduler

/-- How much an event matters. -/
inductive Severity
  | trace
  | debug
  | info
  | warn
  | error
deriving DecidableEq, Inhabited

namespace Severity

/-- The name of a severity in the log. -/
def title : Severity → String
  | .trace => "TRACE"
  | .debug => "DEBUG"
  | .info => "INFO"
  | .warn => "WARN"
  | .error => "ERROR"

/-- The digit of a severity. Zero stands for nothing at all. -/
def digit : Severity → Nat
  | .error => 1
  | .warn => 2
  | .info => 3
  | .debug => 4
  | .trace => 5

end Severity

/-- What is written to the log. -/
structure Event where
  severity : Severity
  /-- The part of the program that the event comes from. -/
  target : String
  message : String
  /-- What else is said, by name. -/
  details : List (String × String) := []
deriving DecidableEq, Inhabited

namespace Event

/-- All that is said, by name. -/
def fields (e : Event) : List (String × String) := ("message", e.message) :: e.details

/-- The JSON object of what is said. -/
def fieldsJson (e : Event) : Json.Value :=
  .object (e.fields.map fun f => (f.1, .string f.2))

/-- The JSON object of an event. -/
def toJson (e : Event) : Json.Value :=
  .object [("level", .string e.severity.title), ("fields", e.fieldsJson),
    ("target", .string e.target)]

/-- One line with the severity and the message. -/
def summary (e : Event) : String := e.severity.title ++ " " ++ e.message

end Event

end ConversionScheduler
