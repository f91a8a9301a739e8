/-
What an option can change in an output. The tables of the rows do not depend on the configuration,
but for the fallback of unknown types; the model of a table is made of names and expressions, and
every option bears on some of these only. An output is compared with another one after the part
that an option may change is taken out of both (`Output.withoutFieldNames`,
`Output.withoutExpressions`, `Output.withoutReads`, `Output.withoutWrites`): **all else is the same
under both configurations** (`generate_confines_options`).
-/
import ValidatorGen.Proofs.Generate.Columns

namespace ValidatorGen

/-! ## Configurations that differ in some options -/

namespace Configuration

/-- Two configurations differ at most in how properties and transform functions are named. -/
def DifferInFieldNames (c c' : Configuration) : Prop :=
  ∃ on casing, c' = { c with caseTransform := on, fieldCasing := casing }

/-- Two configurations differ at most in how dates are read. -/
def DifferInCoercion (c c' : Configuration) : Prop :=
  ∃ coerce, c' = { c with coerceDatesOnRead := coerce }

/-- Two configurations differ at most in what is turned into text when it is written. -/
def DifferInStringify (c c' : Configuration) : Prop :=
  ∃ dates json, c' = { c with stringifyDatesOnWrite := dates, stringifyJsonOnWrite := json }

/-- Two configurations differ at most in the dialect and in what validators do with dates, with
what is turned into text and with absent values. -/
def DifferInExpressions (c c' : Configuration) : Prop :=
  ∃ dialect coerce dates json emptyArray undefined, c' = { c with
    dialect := dialect
    coerceDatesOnRead := coerce
    stringifyDatesOnWrite := dates
    stringifyJsonOnWrite := json
    emptyArrayDefault := emptyArray
    undefinedDefault := undefined }

end Configuration

/-! ## Outputs without a part -/

namespace ColumnModel

def withoutProperty (m : ColumnModel) : ColumnModel := { m with propertyName := "" }

def withoutRead (m : ColumnModel) : ColumnModel := { m with readExpression := "" }

def withoutWrite (m : ColumnModel) : ColumnModel := { m with writeExpression := "" }

end ColumnModel

def TableIdentifiers.withoutTransforms (ids : TableIdentifiers) : TableIdentifiers :=
  { ids with transformBase := none, transformInsert := none, transformUpdate := none }

/-- The model with every column model put through a function, wherever it is listed. -/
def TableModel.mapColumns (f : ColumnModel → ColumnModel) (t : TableModel) : TableModel :=
  { t with columns := t.columns.map f, writeColumns := t.writeColumns.map f }

/-- The model without the names of properties and of transform functions. -/
def TableModel.withoutFieldNames (t : TableModel) : TableModel :=
  { t.mapColumns ColumnModel.withoutProperty with
    identifiers := t.identifiers.withoutTransforms }

namespace Output

/-- The output with every table model put through a function. -/
def mapTables (f : TableModel → TableModel) (o : Output) : Output :=
  { o with tables := o.tables.map f }

def withoutFieldNames (o : Output) : Output := o.mapTables TableModel.withoutFieldNames

def withoutReads (o : Output) : Output := o.mapTables (.mapColumns .withoutRead)

def withoutWrites (o : Output) : Output := o.mapTables (.mapColumns .withoutWrite)

def withoutExpressions (o : Output) : Output :=
  o.mapTables (.mapColumns fun m => m.withoutRead.withoutWrite)

end Output

section

variable {config config' : Configuration} {selection : Selection} {kept : List RawColumn}

/-! ## Tables -/

theorem column_congr (h : config.typeFallback = config'.typeFallback) (raw : RawColumn) :
    raw.column config = raw.column config' := by
  simp only [RawColumn.column, RawColumn.mapped, RawColumn.isGenerated, h]

/-- Of the configuration, the tables of some rows depend on the fallback only. -/
theorem sortedTablesOf_congr (h : config.typeFallback = config'.typeFallback)
    (schemaName : String) (rows : List RawColumn) :
    sortedTablesOf schemaName config rows = sortedTablesOf schemaName config' rows := by
  have hcolumn : (fun raw : RawColumn => raw.column config) = fun raw => raw.column config' :=
    funext (column_congr h)
  have htable : tableOf schemaName config rows = tableOf schemaName config' rows := by
    funext key
    simp only [tableOf, hcolumn]
  rw [sortedTablesOf, sortedTablesOf, tablesOf, tablesOf, htable]

theorem outputOf_congr {f : TableModel → TableModel}
    (h : config.typeFallback = config'.typeFallback)
    (hmodel : ∀ t : Table, f (t.model config) = f (t.model config')) :
    (outputOf ⟨selection, config⟩ kept).mapTables f
      = (outputOf ⟨selection, config'⟩ kept).mapTables f := by
  have htables := sortedTablesOf_congr h selection.schemaName kept
  simp only [outputOf, Output.mapTables, htables, List.map_map]
  congr 1
  exact List.map_congr_left fun t _ => hmodel t

/-! ## The model of a table -/

/-- Two configurations make the same columns, and name what a table defines alike. -/
structure SameDefinitions (config config' : Configuration) : Prop where
  typeFallback : config.typeFallback = config'.typeFallback
  jsonImport : config.jsonImport = config'.jsonImport
  enumTypeName : ∀ table column,
    Naming.enumTypeName table column config = Naming.enumTypeName table column config'

theorem Configuration.DifferInFieldNames.sameDefinitions (h : config.DifferInFieldNames config') :
    SameDefinitions config config' := by
  obtain ⟨on, casing, rfl⟩ := h
  exact ⟨rfl, rfl, fun _ _ => rfl⟩

theorem Configuration.DifferInExpressions.sameDefinitions
    (h : config.DifferInExpressions config') : SameDefinitions config config' := by
  obtain ⟨dialect, coerce, dates, json, emptyArray, undefined, rfl⟩ := h
  exact ⟨rfl, rfl, fun _ _ => rfl⟩

/-- A function on column models changes nothing that the definitions of a table are made of. -/
structure KeepsDefinitions (f : ColumnModel → ColumnModel) : Prop where
  column : ∀ m, (f m).column = m.column
  enumName : ∀ m, (f m).enumName = m.enumName
  enumTypeName : ∀ m, (f m).enumTypeName = m.enumTypeName
  jsonSchemaName : ∀ m, (f m).jsonSchemaName = m.jsonSchemaName

theorem mapColumns_ofColumns {f : ColumnModel → ColumnModel} (hf : KeepsDefinitions f) (t : Table)
    (config : Configuration) (columns : List ColumnModel) :
    (TableModel.ofColumns t config columns).mapColumns f = .ofColumns t config (columns.map f) := by
  have hwritable : (fun m : ColumnModel => m.column.isWritable) ∘ f = fun m => m.column.isWritable := by
    funext m
    simp only [Function.comp, hf.column]
  have henum : (fun m => (f m).enumDefinition? t.name config)
      = fun m => m.enumDefinition? t.name config := by
    funext m
    simp only [ColumnModel.enumDefinition?, hf.column, hf.enumName, hf.enumTypeName]
  have himport : (fun m => (f m).jsonImport? config) = fun m => m.jsonImport? config := by
    funext m
    simp only [ColumnModel.jsonImport?, hf.jsonSchemaName]
  simp only [TableModel.mapColumns, TableModel.ofColumns, List.filterMap_map, List.filter_map,
    hwritable, Function.comp_def, henum, himport]

theorem mapColumns_model {f : ColumnModel → ColumnModel} (hf : KeepsDefinitions f)
    (hsame : SameDefinitions config config') (t : Table)
    (hcolumns : ∀ c, f (.ofColumn t.name c config) = f (.ofColumn t.name c config')) :
    (t.model config).mapColumns f = { (t.model config').mapColumns f with
      identifiers := Naming.tableIdentifiers t config } := by
  have hmodels : t.columns.map (fun c => f (.ofColumn t.name c config))
      = t.columns.map fun c => f (.ofColumn t.name c config') :=
    List.map_congr_left fun c _ => hcolumns c
  have henum : (fun m : ColumnModel => m.enumDefinition? t.name config)
      = fun m => m.enumDefinition? t.name config' := by
    funext m
    simp only [ColumnModel.enumDefinition?, hsame.enumTypeName]
  have hjson : (fun m : ColumnModel => m.jsonImport? config) = fun m => m.jsonImport? config' := by
    funext m
    simp only [ColumnModel.jsonImport?, hsame.jsonImport]
  rw [Table.model, Table.model, mapColumns_ofColumns hf, mapColumns_ofColumns hf]
  simp only [List.map_map, Function.comp_def, hmodels, TableModel.ofColumns, henum, hjson]

/-! ## Outputs of some rows -/

theorem withoutFieldNames_outputOf (h : config.DifferInFieldNames config') :
    (outputOf ⟨selection, config⟩ kept).withoutFieldNames
      = (outputOf ⟨selection, config'⟩ kept).withoutFieldNames := by
  have hsame := h.sameDefinitions
  obtain ⟨on, casing, h⟩ := h
  have hkeeps : KeepsDefinitions .withoutProperty :=
    ⟨fun _ => rfl, fun _ => rfl, fun _ => rfl, fun _ => rfl⟩
  have hcolumns : ∀ table c, (ColumnModel.ofColumn table c config).withoutProperty
      = (ColumnModel.ofColumn table c config').withoutProperty := by
    intro table c
    subst h
    rfl
  have hids : ∀ t, (Naming.tableIdentifiers t config).withoutTransforms
      = (Naming.tableIdentifiers t config').withoutTransforms := by
    intro t
    subst h
    rfl
  refine outputOf_congr hsame.typeFallback fun t => ?_
  have hmodel := mapColumns_model hkeeps hsame t (hcolumns t.name)
  show { (t.model config).mapColumns .withoutProperty with
      identifiers := (Naming.tableIdentifiers t config).withoutTransforms : TableModel } = _
  rw [hmodel, hids]
  rfl

/-- What only expressions are made of touches no other part. -/
theorem mapColumns_outputOf {f : ColumnModel → ColumnModel} (hf : KeepsDefinitions f)
    (h : config.DifferInExpressions config')
    (hcolumns : ∀ table c, f (.ofColumn table c config) = f (.ofColumn table c config')) :
    (outputOf ⟨selection, config⟩ kept).mapTables (.mapColumns f)
      = (outputOf ⟨selection, config'⟩ kept).mapTables (.mapColumns f) := by
  refine outputOf_congr h.sameDefinitions.typeFallback fun t => ?_
  rw [mapColumns_model hf h.sameDefinitions t (hcolumns t.name)]
  obtain ⟨dialect, coerce, dates, json, emptyArray, undefined, rfl⟩ := h
  rfl

theorem withoutExpressions_outputOf (h : config.DifferInExpressions config') :
    (outputOf ⟨selection, config⟩ kept).withoutExpressions
      = (outputOf ⟨selection, config'⟩ kept).withoutExpressions := by
  refine mapColumns_outputOf ⟨fun _ => rfl, fun _ => rfl, fun _ => rfl, fun _ => rfl⟩ h ?_
  obtain ⟨dialect, coerce, dates, json, emptyArray, undefined, rfl⟩ := h
  exact fun _ _ => rfl

/-- A write expression does not tell how dates are read. -/
theorem withoutReads_outputOf (h : config.DifferInCoercion config') :
    (outputOf ⟨selection, config⟩ kept).withoutReads
      = (outputOf ⟨selection, config'⟩ kept).withoutReads := by
  obtain ⟨coerce, rfl⟩ := h
  exact mapColumns_outputOf ⟨fun _ => rfl, fun _ => rfl, fun _ => rfl, fun _ => rfl⟩
    ⟨_, coerce, _, _, _, _, rfl⟩ fun _ _ => rfl

/-- A read expression turns nothing into text. -/
theorem withoutWrites_outputOf (h : config.DifferInStringify config') :
    (outputOf ⟨selection, config⟩ kept).withoutWrites
      = (outputOf ⟨selection, config'⟩ kept).withoutWrites := by
  obtain ⟨dates, json, rfl⟩ := h
  exact mapColumns_outputOf ⟨fun _ => rfl, fun _ => rfl, fun _ => rfl, fun _ => rfl⟩
    ⟨_, _, dates, json, _, _, rfl⟩ fun _ _ => rfl

/-- Without renaming no transform function has a name. -/
theorem withoutTransforms_of_mem (h : config.caseTransform = false) {t : TableModel}
    (ht : t ∈ (outputOf ⟨selection, config⟩ kept).tables) :
    t.identifiers.transformBase = none ∧ t.identifiers.transformInsert = none ∧
      t.identifiers.transformUpdate = none := by
  obtain ⟨raw, -, rfl⟩ := mem_tables_outputOf.mp ht
  generalize tableOf selection.schemaName config kept (raw.key selection.schemaName) = t
  have hname : ∀ operation, Naming.transformName? t config operation = none := by
    intro operation
    rw [Naming.transformName?, h]
    rfl
  have hwritable : ∀ operation,
      Naming.ifWritable t (Naming.transformName? t config operation) = none := by
    intro operation
    rw [hname, Naming.ifWritable, ite_self]
  exact ⟨hname _, hwritable _, hwritable _⟩

/-! ## Runs -/

/-- The rows that are taken, or why there are none; the configuration has no part in it. -/
def takenRows [PatternEngine] (rows : List RawColumn) (selection : Selection) :
    Except Error (List RawColumn) :=
  if Text.trim selection.schemaName.toList = [] then .error (.configuration .blankSchemaName)
  else (filterColumns rows selection.included selection.excluded).mapError .configuration

theorem result_generate_takenRows [PatternEngine] (label : String) (rows : List RawColumn)
    (selection : Selection) (config : Configuration) (elapsed : Nat) :
    (generate ⟨label, .ok rows⟩ ⟨selection, config⟩ {} elapsed).result
      = (takenRows rows selection).map (outputOf ⟨selection, config⟩) := by
  rw [takenRows]
  by_cases hname : Text.trim selection.schemaName.toList = []
  · rw [if_pos hname, result_generate]
    have hblank := @normalize_blank _ rows ⟨selection, config⟩ config hname
    simp only [hblank, Except.map]
  · rw [if_neg hname]
    cases hkept : filterColumns rows selection.included selection.excluded with
    | ok kept => exact generate_ok label elapsed hname hkept
    | error fault =>
      have hfault := @normalize_filter_error _ rows ⟨selection, config⟩ fault config hname hkept
      simp only [result_generate, hfault, Except.map, Except.mapError]

end

/-- **Options touch their own part of the output only.** Whatever the configurations, runs without
extensions fail alike. Outputs under configurations that differ in the renaming of properties are
the same but for the names of properties and of transform functions, of which there are none
without renaming; under configurations that differ in what only expressions are made of, they are
the same but for the expressions. How dates are read does not touch a write expression, and what is
turned into text when it is written does not touch a read expression. -/
theorem generate_confines_options [PatternEngine] (label : String) (rows : List RawColumn)
    (selection : Selection)
    (config config' : Configuration) (elapsed : Nat) :
    (∀ e, (generate ⟨label, .ok rows⟩ ⟨selection, config⟩ {} elapsed).result = .error e ↔
      (generate ⟨label, .ok rows⟩ ⟨selection, config'⟩ {} elapsed).result = .error e) ∧
    ∀ output output',
      (generate ⟨label, .ok rows⟩ ⟨selection, config⟩ {} elapsed).result = .ok output →
      (generate ⟨label, .ok rows⟩ ⟨selection, config'⟩ {} elapsed).result = .ok output' →
      (config.DifferInFieldNames config' →
        output.withoutFieldNames = output'.withoutFieldNames) ∧
      (config.DifferInExpressions config' →
        output.withoutExpressions = output'.withoutExpressions) ∧
      (config.DifferInCoercion config' → output.withoutReads = output'.withoutReads) ∧
      (config.DifferInStringify config' → output.withoutWrites = output'.withoutWrites) ∧
      (config.caseTransform = false → ∀ t ∈ output.tables,
        t.identifiers.transformBase = none ∧ t.identifiers.transformInsert = none ∧
          t.identifiers.transformUpdate = none) := by
  have hrun := result_generate_takenRows label rows selection config elapsed
  have hrun' := result_generate_takenRows label rows selection config' elapsed
  cases htaken : takenRows rows selection with
  | error fault =>
    rw [htaken, Except.map] at hrun hrun'
    rw [hrun, hrun']
    refine ⟨fun e => Iff.rfl, fun output output' h => ?_⟩
    cases h
  | ok kept =>
    rw [htaken, Except.map] at hrun hrun'
    rw [hrun, hrun']
    refine ⟨fun e => ⟨nofun, nofun⟩, fun output output' h h' => ?_⟩
    obtain rfl := Except.ok.inj h
    obtain rfl := Except.ok.inj h'
    exact ⟨withoutFieldNames_outputOf, withoutExpressions_outputOf, withoutReads_outputOf,
      withoutWrites_outputOf, fun hoff t => withoutTransforms_of_mem hoff⟩

/-- Properties are renamed. -/
def renamingConfiguration : Configuration := { caseTransform := true, fieldCasing := .pascalCase }

/-- Another dialect, in which dates are written as text. -/
def stringifyingConfiguration : Configuration := { dialect := .v2Lite, stringifyDatesOnWrite := true }

theorem generate_confines_options_sampleRows :
    ∃ plain renamed stringified strict texts : Output,
      (generate ⟨"static", .ok sampleRows⟩ {} {} 0).result = .ok plain ∧
      (generate ⟨"static", .ok sampleRows⟩ ⟨{}, renamingConfiguration⟩ {} 0).result = .ok renamed ∧
      (generate ⟨"static", .ok sampleRows⟩ ⟨{}, stringifyingConfiguration⟩ {} 0).result
        = .ok stringified ∧
      (generate ⟨"static", .ok sampleRows⟩ ⟨{}, { coerceDatesOnRead := false }⟩ {} 0).result
        = .ok strict ∧
      (generate ⟨"static", .ok sampleRows⟩ ⟨{}, { stringifyDatesOnWrite := true }⟩ {} 0).result
        = .ok texts ∧
      plain.withoutFieldNames = renamed.withoutFieldNames ∧
      plain.withoutExpressions = stringified.withoutExpressions ∧
      plain.withoutReads = strict.withoutReads ∧ plain.withoutWrites = texts.withoutWrites ∧
      ∀ t ∈ plain.tables, t.identifiers.transformBase = none ∧
        t.identifiers.transformInsert = none ∧ t.identifiers.transformUpdate = none := by
  have hname : Text.trim ({} : Selection).schemaName.toList ≠ [] := by decide
  have hok : ∀ c : Configuration, (generate ⟨"static", .ok sampleRows⟩ ⟨{}, c⟩ {} 0).result
      = .ok (outputOf ⟨{}, c⟩ sampleRows) := fun c =>
    @generate_ok _ sampleRows sampleRows ⟨{}, c⟩ "static" 0 hname rfl
  have hconfined := fun c => (generate_confines_options "static" sampleRows {} {} c 0).2 _ _
    (hok {}) (hok c)
  refine ⟨_, _, _, _, _, hok {}, hok _, hok _, hok _, hok _, ?_, ?_, ?_, ?_, ?_⟩
  · exact (hconfined renamingConfiguration).1 ⟨true, .pascalCase, rfl⟩
  · exact (hconfined stringifyingConfiguration).2.1 ⟨.v2Lite, true, true, false, false, false, rfl⟩
  · exact (hconfined { coerceDatesOnRead := false }).2.2.1 ⟨false, rfl⟩
  · exact (hconfined { stringifyDatesOnWrite := true }).2.2.2.1 ⟨true, false, rfl⟩
  · exact (hconfined {}).2.2.2.2 rfl

end ValidatorGen
