/-
What a run reports. A run without extensions that is asked for what cannot be done reports the rows
it was given and nothing else. Any other run reports, after them, whether rows were left out, then
of every row that it takes what was lost of it, in the order of the rows, then the tables in the
order of the output, and at last that it is through (`Reports`). **No run reports anything else or
in another order** (`generate_reports`).
-/
import ValidatorGen.Proofs.Generate.Independence

namespace ValidatorGen

/-! ## Requests that are rejected -/

section

variable [PatternEngine]

/-- The filter has a pattern that is none. -/
def TableFilter.IsBroken : TableFilter → Prop
  | .pattern text => PatternEngine.read? text = none
  | .names _ => False

/-- The namespace has no name, or a filter cannot be made ready. -/
def Selection.IsRejected (selection : Selection) : Prop :=
  Text.trim selection.schemaName.toList = [] ∨ (∃ f ∈ selection.included, f.IsBroken) ∨
    ∃ f ∈ selection.excluded, f.IsBroken

theorem TableFilter.compile_eq_error_iff (role : String) {f : TableFilter} :
    (∃ fault, f.compile role = .error fault) ↔ f.IsBroken := by
  cases f with
  | names list => simp [compile, IsBroken]
  | pattern text =>
    rw [compile, IsBroken]
    cases PatternEngine.read? text with
    | none => simp
    | some p => simp

theorem TableFilter.compileOption_eq_error_iff (role : String) {f : Option TableFilter} :
    (∃ fault, compileOption role f = .error fault) ↔ ∃ g ∈ f, g.IsBroken := by
  cases f with
  | none => simp [compileOption]
  | some f =>
    simp only [Option.mem_some_iff, exists_eq_left', ← compile_eq_error_iff role, compileOption]
    cases f.compile role with
    | error fault => simp [Except.map]
    | ok ready => simp [Except.map]

/-- **Rows are filtered just if both filters can be made ready.** -/
theorem filterColumns_eq_error_iff {rows : List RawColumn}
    {included excluded : Option TableFilter} :
    (∃ fault, filterColumns rows included excluded = .error fault) ↔
      (∃ f ∈ included, f.IsBroken) ∨ ∃ f ∈ excluded, f.IsBroken := by
  rw [← TableFilter.compileOption_eq_error_iff "include",
    ← TableFilter.compileOption_eq_error_iff "exclude", filterColumns]
  cases TableFilter.compileOption "include" included with
  | error fault => simp [bind, Except.bind]
  | ok readyIncluded =>
    cases TableFilter.compileOption "exclude" excluded with
    | error fault => simp [bind, Except.bind]
    | ok readyExcluded => simp [bind, Except.bind]

end

/-! ## Reports -/

/-- A report that is made just if something is so. -/
def reportIf (p : Prop) [Decidable p] (d : Diagnostic) : List Diagnostic := if p then [d] else []

theorem reportIf_congr {p q : Prop} [Decidable p] [Decidable q] (h : p ↔ q) (d : Diagnostic) :
    reportIf p d = reportIf q d := if_congr h rfl rfl

/-- The name of the declared type, without what is written around it, is a known one. -/
def ColumnType.IsKnown (declared : String) : Prop :=
  ∃ row ∈ knownNames, String.ofList (element (plainName declared.toList)).1 ∈ row.1

instance (declared : String) : Decidable (ColumnType.IsKnown declared) :=
  inferInstanceAs (Decidable (∃ row ∈ ColumnType.knownNames, _ ∈ row.1))

namespace RawColumn

/-- A declared type that is not known is reported with what it was mapped to. -/
def typeUnmapped (raw : RawColumn) (config : Configuration) : Diagnostic :=
  ⟨.debug, "type_unmapped", raw.fullName ++ ": '" ++ raw.dataType ++ "' mapped to "
    ++ (raw.mapped config).semanticType.display⟩

/-- Check clauses that list no values are reported with how many they are. -/
def constraintUnrecognized (raw : RawColumn) : Diagnostic :=
  ⟨.debug, "constraint_unrecognized", raw.fullName ++ ": no enumeration in "
    ++ toString raw.checks.length ++ " check clause(s)"⟩

/-- What is lost of a row. -/
def losses (config : Configuration) (raw : RawColumn) : List Diagnostic :=
  reportIf (¬ ColumnType.IsKnown raw.dataType) (raw.typeUnmapped config)
    ++ reportIf (raw.checks ≠ [] ∧ raw.enumValues = []) raw.constraintUnrecognized

end RawColumn

/-- The rows that a source had. -/
def columnsCollected (label : String) (rows : List RawColumn) : Diagnostic :=
  ⟨.info, "columns_collected", toString rows.length ++ " raw column(s) from " ++ label⟩

/-- The rows that were taken. -/
def columnsFiltered (rows kept : List RawColumn) : Diagnostic :=
  ⟨.debug, "columns_filtered", "kept " ++ toString kept.length ++ " of " ++ toString rows.length
    ++ " columns"⟩

/-- The tables that were made of rows. -/
def schemaNormalized (schemaName : String) (tables : Nat) : Diagnostic :=
  ⟨.info, "schema_normalized", "schema '" ++ schemaName ++ "' normalized with "
    ++ toString tables ++ " table(s)"⟩

/-- The columns of a table, those of them that are written, and its enumerations. -/
def TableModel.built (m : TableModel) : Diagnostic :=
  ⟨.debug, "table_model_built", m.schema ++ "." ++ m.name ++ ": " ++ toString m.columns.length
    ++ " column(s), " ++ toString (m.columns.countP (·.column.isWritable)) ++ " writable, "
    ++ toString m.enums.length ++ " enum(s)"⟩

/-- The end of a run: how many tables were rendered, in which dialect, and how long all of it
took. -/
def generateFinished (dialect : Dialect) (tables elapsed : Nat) : Diagnostic :=
  ⟨.info, "generate_finished", "rendered " ++ toString tables ++ " table(s) with dialect "
    ++ dialect.label ++ " in " ++ toString elapsed ++ " ms"⟩

/-- What a run reports, by what comes of it. -/
inductive Reports [PatternEngine] (label : String) (rows : List RawColumn) (request : Request)
    (elapsed : Nat) : Except Error Output → List Diagnostic → Prop
  | rejected (fault : ConfigurationFault) (hrejected : request.selection.IsRejected) :
      Reports label rows request elapsed (.error (.configuration fault))
        [columnsCollected label rows]
  | through (kept : List RawColumn) (output : Output) (hrequest : ¬ request.selection.IsRejected)
      (hkept : filterColumns rows request.selection.included request.selection.excluded = .ok kept)
      (hsublist : kept.Sublist rows) :
      Reports label rows request elapsed (.ok output)
        ([columnsCollected label rows]
          ++ reportIf (∃ raw ∈ rows, raw ∉ kept) (columnsFiltered rows kept)
          ++ kept.flatMap (RawColumn.losses request.config)
          ++ [schemaNormalized request.selection.schemaName output.tables.length]
          ++ output.tables.map TableModel.built
          ++ [generateFinished request.config.dialect output.tables.length elapsed])

/-! ## What each part of a run reports -/

theorem ColumnType.recognized_map_iff (declared : String) (fallback : Option TypeFallback) :
    (map declared fallback).recognized = true ↔ IsKnown declared := by
  simp only [map, mapName, semanticType?, Option.isSome_map, List.find?_isSome,
    List.contains_iff_mem, IsKnown]

theorem RawColumn.notes_eq (raw : RawColumn) (config : Configuration) :
    raw.notes config = raw.losses config := by
  have hknown : (raw.mapped config).recognized = true ↔ ColumnType.IsKnown raw.dataType :=
    ColumnType.recognized_map_iff raw.dataType config.typeFallback
  have hlists : (raw.enumValues.isEmpty && !raw.checks.isEmpty) = true ↔
      raw.checks ≠ [] ∧ raw.enumValues = [] := by
    simp [and_comm]
  rw [notes, losses, reportIf, reportIf, ite_not]
  simp only [hknown, hlists]
  rfl

section

variable [PatternEngine] {rows kept : List RawColumn} {included excluded : Option TableFilter}

theorem exists_filter_eq (hkept : filterColumns rows included excluded = .ok kept) :
    ∃ p : RawColumn → Bool, rows.filter p = kept := by
  obtain ⟨takes, htakes⟩ := exists_takes hkept
  exact ⟨_, Except.ok.inj ((htakes rows).symm.trans hkept)⟩

/-- Rows are left out just if fewer are taken than there are. -/
theorem length_lt_iff (hkept : filterColumns rows included excluded = .ok kept) :
    kept.length < rows.length ↔ ∃ raw ∈ rows, raw ∉ kept := by
  obtain ⟨p, rfl⟩ := exists_filter_eq hkept
  rw [List.length_filter_lt_length_iff_exists]
  refine exists_congr fun raw => and_congr_right fun hraw => not_congr ?_
  rw [List.mem_filter, and_iff_right hraw]

theorem reportFiltered_told (hkept : filterColumns rows included excluded = .ok kept) :
    reportFiltered kept.length rows.length
      = Run.told (reportIf (∃ raw ∈ rows, raw ∉ kept) (columnsFiltered rows kept)) (.ok ()) := by
  rw [reportFiltered, reportIf_congr (length_lt_iff hkept).symm, reportIf]
  split <;> rfl

end

theorem tableModel_told (config : Configuration) (t : Table) :
    tableModel t config none = Run.told [(t.model config).built] (.ok (t.model config)) := by
  have hnote : (t.model config).built = ⟨.debug, "table_model_built", (t.model config).note⟩ := by
    rw [TableModel.built, List.countP_eq_length_filter]
    rfl
  rw [hnote]
  rfl

theorem renderSchema_told (schema : Schema) (config : Configuration) :
    renderSchema schema config none
      = Run.told ((schema.tables.map (Table.model config)).map TableModel.built)
          (.ok ⟨contractVersion, .ofSchema schema, schema.tables.map (Table.model config)⟩) := by
  have hmodels : schema.tables.mapM (fun t => tableModel t config none)
      = Run.told (schema.tables.flatMap fun t => [(t.model config).built])
          (.ok (schema.tables.map (Table.model config))) :=
    Run.mapM_told fun t _ => tableModel_told config t
  rw [List.map_map, List.map_eq_flatMap]
  exact Run.told_bind_pure hmodels fun models =>
    (⟨contractVersion, .ofSchema schema, models⟩ : Output)

section

variable [PatternEngine] {rows kept : List RawColumn} {selection : Selection}

theorem normalize_told (config : Configuration)
    (hname : Text.trim selection.schemaName.toList ≠ [])
    (hkept : filterColumns rows selection.included selection.excluded = .ok kept) :
    normalize rows selection config none
      = Run.told (reportIf (∃ raw ∈ rows, raw ∉ kept) (columnsFiltered rows kept)
          ++ (kept.flatMap (RawColumn.losses config)
            ++ [schemaNormalized selection.schemaName
              (sortedTablesOf selection.schemaName config kept).length]))
        (.ok ⟨selection.schemaName, sortedTablesOf selection.schemaName config kept⟩) := by
  have hlosses : Run.reportAll (kept.flatMap (·.notes config))
      = Run.told (kept.flatMap (RawColumn.losses config)) (.ok ()) := by
    rw [List.flatMap_congr fun raw _ => raw.notes_eq config]
    rfl
  rw [normalize, if_neg hname, hkept, sortedTablesOf, ← groupIntoTables_eq]
  refine (Run.ofExcept_bind kept _).trans ?_
  exact Run.told_bind (reportFiltered_told hkept) (Run.told_bind hlosses rfl)

theorem normalize_rejected (rows : List RawColumn) (config : Configuration)
    (hrejected : selection.IsRejected) :
    ∃ fault, normalize rows selection config none
      = Run.told [] (.error (.configuration fault)) := by
  by_cases hname : Text.trim selection.schemaName.toList = []
  · exact ⟨.blankSchemaName, by rw [normalize, if_pos hname]; rfl⟩
  · obtain ⟨fault, hfault⟩ := filterColumns_eq_error_iff.mpr (hrejected.resolve_left hname)
    refine ⟨fault, ?_⟩
    rw [normalize, if_neg hname, hfault]
    rfl

end

/-! ## Runs -/

section

variable [PatternEngine] {rows kept : List RawColumn} {request : Request}

/-- A request that is rejected ends the run after its first report. -/
theorem generate_rejected_told (label : String) (rows : List RawColumn) (elapsed : Nat)
    (hrejected : request.selection.IsRejected) :
    ∃ fault, generate ⟨label, .ok rows⟩ request {} elapsed
      = Run.told [columnsCollected label rows] (.error (.configuration fault)) := by
  obtain ⟨fault, hfault⟩ := normalize_rejected rows request.config hrejected
  have hproduce : produce ⟨label, .ok rows⟩ request {}
      = Run.told ([columnsCollected label rows] ++ []) (.error (.configuration fault)) :=
    (Run.ofExcept_bind rows _).trans (Run.told_bind rfl (Run.told_bind_error hfault))
  exact ⟨fault, Run.told_bind_error hproduce⟩

/-- A run that comes to an output. -/
theorem generate_told (label : String) (elapsed : Nat)
    (hname : Text.trim request.selection.schemaName.toList ≠ [])
    (hkept : filterColumns rows request.selection.included request.selection.excluded
      = .ok kept) :
    generate ⟨label, .ok rows⟩ request {} elapsed
      = Run.told ([columnsCollected label rows]
          ++ reportIf (∃ raw ∈ rows, raw ∉ kept) (columnsFiltered rows kept)
          ++ kept.flatMap (RawColumn.losses request.config)
          ++ [schemaNormalized request.selection.schemaName (outputOf request kept).tables.length]
          ++ (outputOf request kept).tables.map TableModel.built
          ++ [generateFinished request.config.dialect (outputOf request kept).tables.length
            elapsed])
        (.ok (outputOf request kept)) := by
  let s : Schema := ⟨request.selection.schemaName,
    sortedTablesOf request.selection.schemaName request.config kept⟩
  have hcollected : Run.report .info "columns_collected"
      (toString rows.length ++ " raw column(s) from " ++ label)
      = Run.told [columnsCollected label rows] (.ok ()) := rfl
  have hrender : renderSchema s request.config none
      = Run.told ((outputOf request kept).tables.map TableModel.built)
          (.ok (outputOf request kept)) := renderSchema_told s request.config
  have hproduce : produce ⟨label, .ok rows⟩ request {} = Run.told _ (.ok (outputOf request kept)) :=
    (Run.ofExcept_bind rows _).trans <| Run.told_bind hcollected <|
      Run.told_bind (normalize_told request.config hname hkept) hrender
  have htables : s.tables.length = (outputOf request kept).tables.length :=
    (List.length_map _).symm
  have hgenerate : generate ⟨label, .ok rows⟩ request {} elapsed
      = Run.told (_ ++ [generateFinished request.config.dialect
            (outputOf request kept).tables.length elapsed])
          (.ok (outputOf request kept)) := Run.told_bind hproduce rfl
  rw [hgenerate, htables]
  simp only [List.append_assoc]

end

/-- **Exactly what a run without extensions reports**, whatever rows it is given and whatever it is
asked for. -/
theorem generate_reports [PatternEngine] (label : String) (rows : List RawColumn)
    (request : Request) (elapsed : Nat) :
    Reports label rows request elapsed (generate ⟨label, .ok rows⟩ request {} elapsed).result
      (generate ⟨label, .ok rows⟩ request {} elapsed).diagnostics := by
  by_cases hrejected : request.selection.IsRejected
  · obtain ⟨fault, hrun⟩ := generate_rejected_told label rows elapsed hrejected
    rw [hrun, Run.diagnostics_told, Run.result_told]
    exact .rejected fault hrejected
  · have hname : Text.trim request.selection.schemaName.toList ≠ [] := fun h => hrejected (.inl h)
    cases hkept : filterColumns rows request.selection.included request.selection.excluded with
    | error fault => exact absurd (.inr (filterColumns_eq_error_iff.mp ⟨fault, hkept⟩)) hrejected
    | ok kept =>
      have hsublist : kept.Sublist rows := by
        obtain ⟨p, rfl⟩ := exists_filter_eq hkept
        exact List.filter_sublist
      rw [generate_told label elapsed hname hkept, Run.diagnostics_told, Run.result_told]
      exact .through kept (outputOf request kept) hrejected hkept hsublist

end ValidatorGen
