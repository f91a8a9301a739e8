/-
Runs without extensions: **a run that comes to an output took its rows, and the output holds the
models of their tables, in order** (`generate_hookless`).
-/
import ValidatorGen.Generate
import ValidatorGen.Proofs.Normalize.Schema
import ValidatorGen.Proofs.Normalize.Tables
import ValidatorGen.Proofs.Run

namespace ValidatorGen

/-- The model of a table that no extension sees. -/
def Table.model (config : Configuration) (t : Table) : TableModel :=
  .ofColumns t config (t.columns.map fun c => .ofColumn t.name c config)

/-- The tables of some rows, in order. -/
def sortedTablesOf (schemaName : String) (config : Configuration) (rows : List RawColumn) :
    List Table :=
  sortTables (tablesOf schemaName config rows)

/-- What a run hands on that takes the given rows. -/
def outputOf (request : Request) (kept : List RawColumn) : Output :=
  let tables := sortedTablesOf request.selection.schemaName request.config kept
  { contractVersion
    summary := .ofSchema ⟨request.selection.schemaName, tables⟩
    tables := tables.map (Table.model request.config) }

theorem result_renderSchema (schema : Schema) (config : Configuration) :
    (renderSchema schema config none).result
      = .ok ⟨contractVersion, .ofSchema schema, schema.tables.map (Table.model config)⟩ := by
  have htable : ∀ t, (tableModel t config none).result = .ok (t.model config) := fun t => rfl
  rw [renderSchema, Run.result_bind, Run.result_mapM htable]
  rfl

section

variable [PatternEngine] {label : String} {rows kept : List RawColumn} {request : Request}
  {elapsed : Nat}

/-- A run fails or not as normalizing the rows does, and renders what that comes to. -/
theorem result_generate (label : String) (rows : List RawColumn) (request : Request)
    (elapsed : Nat) : (generate ⟨label, .ok rows⟩ request {} elapsed).result
      = (normalize rows request.selection request.config none).result.map fun s =>
          ⟨contractVersion, .ofSchema s, s.tables.map (Table.model request.config)⟩ := by
  have hproduce : (produce ⟨label, .ok rows⟩ request {}).result
      = (normalize rows request.selection request.config none).result >>= fun s =>
          (renderSchema s request.config none).result :=
    Run.result_bind (normalize rows request.selection request.config none) fun s =>
      renderSchema s request.config none
  rw [generate, Run.result_bind, hproduce]
  cases (normalize rows request.selection request.config none).result with
  | error e => rfl
  | ok s =>
    show ((renderSchema s request.config none).result >>= _) = _
    rw [result_renderSchema]
    rfl

/-- Without a name nothing is normalized. -/
theorem normalize_blank (config : Configuration)
    (hname : Text.trim request.selection.schemaName.toList = []) :
    (normalize rows request.selection config none).result
      = .error (.configuration .blankSchemaName) := by
  rw [normalize, if_pos hname]
  rfl

/-- With a pattern that is none nothing is normalized. -/
theorem normalize_filter_error {fault : ConfigurationFault} (config : Configuration)
    (hname : Text.trim request.selection.schemaName.toList ≠ [])
    (hfilter : filterColumns rows request.selection.included request.selection.excluded
      = .error fault) :
    (normalize rows request.selection config none).result = .error (.configuration fault) := by
  rw [normalize, if_neg hname, hfilter]
  rfl

/-- **A run without extensions that comes to an output.** -/
theorem generate_hookless {output : Output}
    (h : (generate ⟨label, .ok rows⟩ request {} elapsed).result = .ok output) :
    ∃ kept, filterColumns rows request.selection.included request.selection.excluded = .ok kept ∧
      output = outputOf request kept := by
  rw [result_generate] at h
  by_cases hname : Text.trim request.selection.schemaName.toList = []
  · rw [normalize_blank request.config hname] at h
    cases h
  · cases hfilter : filterColumns rows request.selection.included request.selection.excluded with
    | error fault =>
      rw [normalize_filter_error request.config hname hfilter] at h
      cases h
    | ok kept =>
      rw [normalize_result request.config hname hfilter, groupIntoTables_eq] at h
      cases h
      exact ⟨kept, rfl, rfl⟩

/-- A run with a name and filters that can be made ready comes to an output. -/
theorem generate_ok (label : String) (elapsed : Nat)
    (hname : Text.trim request.selection.schemaName.toList ≠ [])
    (hkept : filterColumns rows request.selection.included request.selection.excluded
      = .ok kept) :
    (generate ⟨label, .ok rows⟩ request {} elapsed).result = .ok (outputOf request kept) := by
  rw [result_generate, normalize_result request.config hname hkept, groupIntoTables_eq]
  rfl

end

section

variable {rows kept : List RawColumn} {request : Request}

/-- There is a table for every row. -/
theorem mem_sortedTablesOf {schemaName : String} {config : Configuration} {t : Table} :
    t ∈ sortedTablesOf schemaName config rows ↔
      ∃ raw ∈ rows, t = tableOf schemaName config rows (raw.key schemaName) := by
  simp only [sortedTablesOf, sortTables, tablesOf, List.mem_mergeSort, List.mem_map,
    List.mem_eraseDups]
  constructor
  · rintro ⟨_, ⟨raw, hraw, rfl⟩, rfl⟩
    exact ⟨raw, hraw, rfl⟩
  · rintro ⟨raw, hraw, rfl⟩
    exact ⟨_, ⟨raw, hraw, rfl⟩, rfl⟩

/-- The tables of an output are those of the rows that are taken. -/
theorem mem_tables_outputOf {t : TableModel} : t ∈ (outputOf request kept).tables ↔
    ∃ raw ∈ kept, t = (tableOf request.selection.schemaName request.config kept
      (raw.key request.selection.schemaName)).model request.config := by
  simp only [outputOf, List.mem_map, mem_sortedTablesOf]
  constructor
  · rintro ⟨_, ⟨raw, hraw, rfl⟩, rfl⟩
    exact ⟨raw, hraw, rfl⟩
  · rintro ⟨raw, hraw, rfl⟩
    exact ⟨_, ⟨raw, hraw, rfl⟩, rfl⟩

end

end ValidatorGen
