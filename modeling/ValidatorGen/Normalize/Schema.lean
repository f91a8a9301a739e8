/-
From rows to a schema. Extensions see every column and then its table, table by table in
the order of first appearance; what they return is taken as it is, and the first error
ends the run. Only then are the tables put in order.
-/
import ValidatorGen.Normalize.Grouping
import ValidatorGen.Run

namespace ValidatorGen

/-- What an extension does to columns and tables. -/
structure NormalizeHooks where
  /-- Called with the name of the table and the column. -/
  onColumn : String → Column → Except Error Column := fun _ c => .ok c
  onTable : Table → Except Error Table := .ok

/-- Shows the columns of a table to an extension, and then the table. -/
def NormalizeHooks.run (hooks : NormalizeHooks) (t : Table) : Run Table := do
  let columns ← t.columns.mapM fun c => Run.ask (.column t.name c) (hooks.onColumn t.name c)
  let t := { t with columns }
  Run.ask (.table t) (hooks.onTable t)

/-- The tables as the extension, if there is one, returns them. -/
def hookTables (hooks : Option NormalizeHooks) (tables : List Table) : Run (List Table) :=
  match hooks with
  | none => pure tables
  | some hooks => tables.mapM hooks.run

/-- Reports how many rows were taken, if some were not. -/
def reportFiltered (kept total : Nat) : Run Unit :=
  if kept < total then
    Run.report .debug "columns_filtered"
      ("kept " ++ toString kept ++ " of " ++ toString total ++ " columns")
  else pure ()

/-- The schema that rows make up. -/
def normalize [PatternEngine] (rows : List RawColumn) (selection : Selection)
    (config : Configuration) (hooks : Option NormalizeHooks) : Run Schema := do
  if Text.trim selection.schemaName.toList = [] then
    Run.fail (.configuration .blankSchemaName)
  else
    let kept ← Run.ofExcept
      ((filterColumns rows selection.included selection.excluded).mapError .configuration)
    reportFiltered kept.length rows.length
    Run.reportAll (kept.flatMap (·.notes config))
    let tables ← hookTables hooks (groupIntoTables kept selection.schemaName config)
    let tables := sortTables tables
    Run.report .info "schema_normalized" ("schema '" ++ selection.schemaName
      ++ "' normalized with " ++ toString tables.length ++ " table(s)")
    pure ⟨selection.schemaName, tables⟩

end ValidatorGen
