/-
What a whole run asks its extensions, and in which order. `Replies` give an answer to every
question, also where an extension fails; they tell how a run would go on, and so which calls it
would make (`Replies.script`): for every table its columns and then the table, and for every
table that came back, in order, the models of its columns and then its own. **A run makes these
calls up to the first that fails, whatever the extensions do** (`generate_asks`). Every stage of
the run follows its part of the list (`Run.Follows`).
-/
import ValidatorGen.Generate
import ValidatorGen.Proofs.Normalize.Schema
import ValidatorGen.Proofs.Normalize.Tables
import ValidatorGen.Proofs.Run

namespace ValidatorGen

/-- The failure of an answer. -/
def failureOf {α : Type} : Except Error α → Option Error
  | .error e => some e
  | .ok _ => none

/-- The failure of the extensions on a call. -/
def Call.failure? (n : NormalizeHooks) (r : RenderHooks) : Call → Option Error
  | .column name c => failureOf (n.onColumn name c)
  | .table t => failureOf (n.onTable t)
  | .columnModel name m => failureOf (r.onColumn name m)
  | .tableModel m => failureOf (r.onTable m)

/-- An answer to everything that extensions may be asked. -/
structure Replies where
  column : String → Column → Column
  table : Table → Table
  columnModel : String → ColumnModel → ColumnModel
  tableModel : TableModel → TableModel

namespace Replies

/-- The answers are those of the extensions wherever they do not fail. -/
structure Of (replies : Replies) (n : NormalizeHooks) (r : RenderHooks) : Prop where
  column : ∀ table c v, n.onColumn table c = .ok v → v = replies.column table c
  table : ∀ t v, n.onTable t = .ok v → v = replies.table t
  columnModel : ∀ table m v, r.onColumn table m = .ok v → v = replies.columnModel table m
  tableModel : ∀ m v, r.onTable m = .ok v → v = replies.tableModel m

variable (replies : Replies) (config : Configuration)

/-- A table with the columns that came back. -/
def shownTable (t : Table) : Table := { t with columns := t.columns.map (replies.column t.name) }

/-- The table that came back. -/
def returnedTable (t : Table) : Table := replies.table (replies.shownTable t)

/-- The columns of a table, and then the table. -/
def tableCalls (t : Table) : List Call :=
  t.columns.map (.column t.name) ++ [.table (replies.shownTable t)]

/-- The models of a table's columns. -/
def shownColumns (t : Table) : List ColumnModel :=
  t.columns.map fun c => .ofColumn t.name c config

/-- The model of a table, from the models of its columns that came back. -/
def shownModel (t : Table) : TableModel :=
  .ofColumns t config ((shownColumns config t).map fun m =>
    m.rerender (replies.columnModel t.name m) config)

/-- The model of a table that came back. -/
def returnedModel (t : Table) : TableModel := replies.tableModel (replies.shownModel config t)

/-- The models of a table's columns, and then that of the table. -/
def modelCalls (t : Table) : List Call :=
  (shownColumns config t).map (.columnModel t.name) ++ [.tableModel (replies.shownModel config t)]

/-- All calls of a run over some tables, which are in order once they came back. -/
def script (tables sorted : List Table) : List Call :=
  tables.flatMap replies.tableCalls ++ sorted.flatMap (replies.modelCalls config)

/-- A run over some tables keeps to the script. -/
structure Governs (n : NormalizeHooks) (r : RenderHooks) (tables sorted : List Table)
    (run : Run Output) : Prop where
  /-- Calls are made in order, each once, and none is passed over. -/
  order : run.calls <+: replies.script config tables sorted
  /-- All are made, and the run comes to an output, just if none of them fails. -/
  complete : (run.calls = replies.script config tables sorted ∧
      ∃ output, run.result = .ok output) ↔
    ∀ call ∈ replies.script config tables sorted, call.failure? n r = none
  /-- A run that fails made no call after the first that failed, and fails in its way. -/
  broken : ∀ e, run.result = .error e → ∃ done call, run.calls = done ++ [call] ∧
    (∀ d ∈ done, d.failure? n r = none) ∧ call.failure? n r = some e
  /-- A run that comes to an output made all calls, and hands on what came back last. -/
  output : ∀ output, run.result = .ok output →
    run.calls = replies.script config tables sorted ∧
      output.tables = sorted.map (replies.returnedModel config)

end Replies

section

variable {n : NormalizeHooks} {r : RenderHooks} {replies : Replies} {α : Type} {a : α}

/-- One call to an extension whose answers are known. -/
theorem follows_ask {call : Call} {answer : Except Error α}
    (hfailure : call.failure? n r = failureOf answer) (hvalue : ∀ v, answer = .ok v → v = a) :
    (Run.ask call answer).Follows (Call.failure? n r) [call] a := by
  refine .ask (fun e he => ?_) fun v hv => ⟨?_, hvalue v hv⟩
  · rw [hfailure, he, failureOf]
  · rw [hfailure, hv, failureOf]

/-- The extension is asked about the columns of a table, and then about the table. -/
theorem follows_run (h : replies.Of n r) (t : Table) :
    (n.run t).Follows (Call.failure? n r) (replies.tableCalls t) (replies.returnedTable t) := by
  have hcolumns : (t.columns.mapM fun c => Run.ask (.column t.name c) (n.onColumn t.name c)).Follows
      (Call.failure? n r) (t.columns.flatMap fun c => [.column t.name c])
      (t.columns.map (replies.column t.name)) :=
    .mapM fun c _ => follows_ask rfl (h.column t.name c)
  rw [← List.map_eq_flatMap] at hcolumns
  exact hcolumns.bind (follows_ask rfl (h.table _))

/-- The extension is asked about one column model, and what it left is rendered again. -/
theorem follows_runColumn (h : replies.Of n r) (table : String) (config : Configuration)
    (m : ColumnModel) :
    (r.runColumn table config m).Follows (Call.failure? n r) [.columnModel table m]
      (m.rerender (replies.columnModel table m) config) :=
  (follows_ask rfl (h.columnModel table m)).bind_quiet rfl rfl

/-- The extension is asked about the models of a table's columns, and then about that of the
table. -/
theorem follows_tableModel (h : replies.Of n r) (config : Configuration) (t : Table) :
    (tableModel t config (some r)).Follows (Call.failure? n r) (replies.modelCalls config t)
      (replies.returnedModel config t) := by
  have hcolumns : (columnModels t config (some r)).Follows (Call.failure? n r)
      ((Replies.shownColumns config t).flatMap fun m => [.columnModel t.name m])
      ((Replies.shownColumns config t).map fun m =>
        m.rerender (replies.columnModel t.name m) config) :=
    .mapM fun m _ => follows_runColumn h t.name config m
  rw [← List.map_eq_flatMap] at hcolumns
  have htable : (hookTableModel (some r) (replies.shownModel config t)).Follows (Call.failure? n r)
      [.tableModel (replies.shownModel config t)] (replies.returnedModel config t) :=
    follows_ask rfl (h.tableModel _)
  exact hcolumns.bind (htable.bind_quiet rfl rfl)

theorem follows_hookTables (h : replies.Of n r) (tables : List Table) :
    (hookTables (some n) tables).Follows (Call.failure? n r) (tables.flatMap replies.tableCalls)
      (tables.map replies.returnedTable) :=
  .mapM fun t _ => follows_run h t

theorem follows_renderSchema (h : replies.Of n r) (schema : Schema) (config : Configuration) :
    (renderSchema schema config (some r)).Follows (Call.failure? n r)
      (schema.tables.flatMap (replies.modelCalls config))
      ⟨contractVersion, .ofSchema schema, schema.tables.map (replies.returnedModel config)⟩ := by
  have htables : (schema.tables.mapM fun t => tableModel t config (some r)).Follows
      (Call.failure? n r) (schema.tables.flatMap (replies.modelCalls config))
      (schema.tables.map (replies.returnedModel config)) :=
    .mapM fun t _ => follows_tableModel h config t
  exact htables.bind_quiet rfl rfl

theorem follows_normalize [PatternEngine] (h : replies.Of n r) {rows kept : List RawColumn}
    {selection : Selection} (config : Configuration)
    (hname : Text.trim selection.schemaName.toList ≠ [])
    (hkept : filterColumns rows selection.included selection.excluded = .ok kept) :
    (normalize rows selection config (some n)).Follows (Call.failure? n r)
      ((tablesOf selection.schemaName config kept).flatMap replies.tableCalls)
      ⟨selection.schemaName,
        sortTables ((tablesOf selection.schemaName config kept).map replies.returnedTable)⟩ := by
  have htables := follows_hookTables h (groupIntoTables kept selection.schemaName config)
  rw [normalize, if_neg hname, hkept, ← groupIntoTables_eq]
  refine .quiet_bind rfl rfl ?_
  have hfiltered : (reportFiltered kept.length rows.length).calls = []
      ∧ (reportFiltered kept.length rows.length).result = .ok () := by
    rw [reportFiltered]
    split <;> exact ⟨rfl, rfl⟩
  refine .quiet_bind hfiltered.1 hfiltered.2 (.quiet_bind ?_ rfl (htables.bind_quiet rfl rfl))
  -- what is reported is not asked
  simp [Run.calls, Run.reportAll]

/-- A run asks about the schema, then about the models, and last about the output. -/
theorem follows_generate [PatternEngine] (h : replies.Of n r) {rows kept : List RawColumn}
    {request : Request} (label : String) (elapsed : Nat)
    (hname : Text.trim request.selection.schemaName.toList ≠ [])
    (hkept : filterColumns rows request.selection.included request.selection.excluded
      = .ok kept) :
    let tables := tablesOf request.selection.schemaName request.config kept
    let sorted := sortTables (tables.map replies.returnedTable)
    (generate ⟨label, .ok rows⟩ request ⟨some n, some r⟩ elapsed).Follows (Call.failure? n r)
      (replies.script request.config tables sorted)
      ⟨contractVersion, .ofSchema ⟨request.selection.schemaName, sorted⟩,
        sorted.map (replies.returnedModel request.config)⟩ := by
  intro tables sorted
  have hnormalize := follows_normalize h request.config hname hkept
  have hrender := follows_renderSchema h ⟨request.selection.schemaName, sorted⟩ request.config
  have hproduce : (produce ⟨label, .ok rows⟩ request ⟨some n, some r⟩).Follows
      (Call.failure? n r) (replies.script request.config tables sorted) _ :=
    .quiet_bind rfl rfl (.quiet_bind rfl rfl (hnormalize.bind hrender))
  exact hproduce.bind_quiet rfl rfl

/-- A run that follows its script keeps to it. -/
theorem governs_of_follows {config : Configuration} {tables sorted : List Table} {run : Run Output}
    {output : Output} (htables : output.tables = sorted.map (replies.returnedModel config))
    (h : run.Follows (Call.failure? n r) (replies.script config tables sorted) output) :
    replies.Governs config n r tables sorted run where
  order := h.calls_isPrefix
  complete := by
    rw [← h.complete_iff]
    refine and_congr_right fun _ => ⟨?_, fun h => ⟨_, h⟩⟩
    rintro ⟨output', hresult⟩
    rw [hresult, (h.of_ok hresult).2]
  broken e he := h.of_error he
  output output' hresult := by
    obtain ⟨hcalls, rfl⟩ := h.of_ok hresult
    exact ⟨hcalls, htables⟩

end

/-- **A run asks its extensions about every table's columns and then the table, and about the
models of every table that came back and then its own, until one of them fails.** Tables are
shown as they first appear among the rows that are taken, and models in the order of the tables
that came back. -/
theorem generate_asks [PatternEngine] (label : String) (rows : List RawColumn) (request : Request)
    (n : NormalizeHooks) (r : RenderHooks) (elapsed : Nat) (replies : Replies)
    {included excluded : Option TableFilter.Ready}
    (hname : Text.trim request.selection.schemaName.toList ≠ [])
    (hincluded : TableFilter.compileOption "include" request.selection.included = .ok included)
    (hexcluded : TableFilter.compileOption "exclude" request.selection.excluded = .ok excluded)
    (hreplies : replies.Of n r) :
    let tables := tablesOf request.selection.schemaName request.config
      (rows.filter fun raw => takesTable included excluded raw.table)
    ∃ sorted, Table.StablySorted (tables.map replies.returnedTable) sorted ∧
      replies.Governs request.config n r tables sorted
        (generate ⟨label, .ok rows⟩ request ⟨some n, some r⟩ elapsed) := by
  have hkept : filterColumns rows request.selection.included request.selection.excluded
      = .ok (rows.filter fun raw => takesTable included excluded raw.table) :=
    filterColumns_ok hincluded hexcluded
  exact ⟨_, stablySorted_sortTables _,
    governs_of_follows rfl (follows_generate hreplies label elapsed hname hkept)⟩

/-- An extension that gives tables of one namespace another name, and thus another place. -/
def sampleNormalizeHooks : NormalizeHooks where
  onTable t := .ok (if t.schema = "audit" then { t with name := "accounts" } else t)

/-- An extension that fails on the model of a table. -/
def sampleRenderHooks : RenderHooks where
  onTable m := if m.name = "users" then .error (.hook m.name "refused") else .ok m

/-- The answers of both, and the model of that table as it was shown. -/
def sampleReplies : Replies where
  column _ c := c
  table t := if t.schema = "audit" then { t with name := "accounts" } else t
  columnModel _ m := m
  tableModel m := m

theorem sampleReplies_of : sampleReplies.Of sampleNormalizeHooks sampleRenderHooks where
  column _ _ _ h := (Except.ok.inj h).symm
  table _ _ h := (Except.ok.inj h).symm
  columnModel _ _ _ h := (Except.ok.inj h).symm
  tableModel m v h := by
    simp only [sampleRenderHooks] at h
    split at h
    · cases h
    · exact (Except.ok.inj h).symm

theorem generate_asks_sampleRows :
    Text.trim "public".toList ≠ [] ∧ sampleReplies.Of sampleNormalizeHooks sampleRenderHooks ∧
      ∃ sorted,
        Table.StablySorted ((tablesOf "public" {} (sampleRows.filter fun raw =>
          takesTable none (some (.names ["log"])) raw.table)).map sampleReplies.returnedTable)
          sorted ∧
        sampleReplies.Governs {} sampleNormalizeHooks sampleRenderHooks
          (tablesOf "public" {} (sampleRows.filter fun raw =>
            takesTable none (some (.names ["log"])) raw.table)) sorted
          (generate ⟨"static", .ok sampleRows⟩ { selection := { excluded := some (.names ["log"]) } }
            ⟨some sampleNormalizeHooks, some sampleRenderHooks⟩ 0) :=
  ⟨by decide, sampleReplies_of,
    generate_asks "static" sampleRows { selection := { excluded := some (.names ["log"]) } }
      sampleNormalizeHooks sampleRenderHooks 0 sampleReplies (by decide) rfl rfl sampleReplies_of⟩

end ValidatorGen
