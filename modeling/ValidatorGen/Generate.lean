/-
A whole run: rows are collected and normalized, and every table of the schema is rendered
in order. Nothing is handed on when any part of it fails.
-/
import ValidatorGen.Model.OfTable
import ValidatorGen.Model.Summary
import ValidatorGen.Normalize.Schema
import ValidatorGen.Source

namespace ValidatorGen

/-- The output of a schema. -/
def renderSchema (schema : Schema) (config : Configuration) (hooks : Option RenderHooks) :
    Run Output := do
  let tables ← schema.tables.mapM fun t => tableModel t config hooks
  pure ⟨contractVersion, .ofSchema schema, tables⟩

/-- The extensions of a run. -/
structure Hooks where
  normalize : Option NormalizeHooks := none
  render : Option RenderHooks := none

/-- All of a run but its last report. -/
def produce [PatternEngine] (source : Source) (request : Request) (hooks : Hooks) :
    Run Output := do
  let rows ← Run.ofExcept source.rows
  Run.report .info "columns_collected"
    (toString rows.length ++ " raw column(s) from " ++ source.label)
  let schema ← normalize rows request.selection request.config hooks.normalize
  renderSchema schema request.config hooks.render

/-- The last report of a run that took so many milliseconds. -/
def finished (request : Request) (output : Output) (elapsed : Nat) : Diagnostic :=
  ⟨.info, "generate_finished", "rendered " ++ toString output.tables.length
    ++ " table(s) with dialect " ++ request.config.dialect.label ++ " in " ++ toString elapsed
    ++ " ms"⟩

/-- A whole run that takes so many milliseconds. -/
def generate [PatternEngine] (source : Source) (request : Request) (hooks : Hooks)
    (elapsed : Nat) : Run Output := do
  let output ← produce source request hooks
  Run.reportAll [finished request output elapsed]
  pure output

end ValidatorGen
