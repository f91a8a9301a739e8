/-
Diagnostics: what a run reports about itself, in the order in which it happens.
-/
namespace ValidatorGen

/-- How much a diagnostic matters. -/
inductive Level
  | debug
  | info
  | warn
  deriving DecidableEq, Repr

/-- The level as a word. -/
def Level.label : Level → String
  | .debug => "debug"
  | .info => "info"
  | .warn => "warn"

/-- One report: what happened, and in detail. -/
structure Diagnostic where
  level : Level
  event : String
  message : String
  deriving DecidableEq, Repr

/-- Where diagnostics go: a list that keeps them, or nowhere. -/
inductive Sink
  | keep (records : List Diagnostic)
  | discard
  deriving DecidableEq, Repr

namespace Sink

/-- Hands a diagnostic to the sink. -/
def emit (d : Diagnostic) : Sink → Sink
  | .keep records => .keep (records ++ [d])
  | .discard => .discard

/-- What the sink has kept, in order of arrival. -/
def records : Sink → List Diagnostic
  | .keep records => records
  | .discard => []

/-- What the sink has kept of one kind of event. -/
def events (name : String) (s : Sink) : List Diagnostic :=
  s.records.filter (·.event == name)

end Sink

end ValidatorGen
