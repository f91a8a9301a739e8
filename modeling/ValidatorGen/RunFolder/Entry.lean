/-
What the log of a run holds: one document a line, with the time, a level, the fields of the
event, and the program.
-/
import ValidatorGen.Diagnostics
import ValidatorGen.Error
import ValidatorGen.Json.Value
import ValidatorGen.RunFolder.Moment

namespace ValidatorGen

open Json (Value)

/-- An event of a run. -/
inductive Entry
  | started (id source input dialect folder : String)
  | rowsLoaded (path : String) (rows : Nat)
  | reported (d : Diagnostic)
  | failed (error : Error)
  | outputWritten (path : String)
  | finished (tables elapsed : Nat)

namespace Entry

/-- The level of an event. -/
def level : Entry → String
  | .started .. => "INFO"
  | .rowsLoaded .. => "DEBUG"
  | .reported ⟨.debug, _, _⟩ => "DEBUG"
  | .reported ⟨.info, _, _⟩ => "INFO"
  | .reported ⟨.warn, _, _⟩ => "WARN"
  | .failed _ => "ERROR"
  | .outputWritten _ => "INFO"
  | .finished .. => "INFO"

/-- The fields of an event. -/
def fields : Entry → List (String × Value)
  | .started id source input dialect folder => [
      ("event", .text "run_started"), ("run_id", .text id), ("source", .text source),
      ("input", .text input), ("dialect", .text dialect), ("run_path", .text folder)]
  | .rowsLoaded path rows => [
      ("event", .text "raw_columns_loaded"), ("path", .text path), ("columns", .int rows)]
  | .reported d => [("message", .text d.message), ("event", .text d.event)]
  | .failed error => [
      ("event", .text "run_failed"),
      ("error", .text (error.message.getD "malformed document"))]
  | .outputWritten path => [("event", .text "render_written"), ("path", .text path)]
  | .finished tables elapsed => [
      ("event", .text "run_finished"), ("status", .text "success"), ("tables", .int tables),
      ("duration_ms", .int elapsed)]

/-- The line of an event. -/
def line (moment : Moment) (e : Entry) : String :=
  (Value.record [("timestamp", .text moment.stamp), ("level", .text e.level),
    ("fields", .record e.fields), ("target", .text "schemaforge")]).compact ++ "\n"

end Entry

end ValidatorGen
