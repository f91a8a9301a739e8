/-
Which tables offer columns to write. The names for inserts and updates follow the kind of the
table, which is that of its first row; whether a column is writable follows the kind of its own
row. The two part ways when a table is mixed (`RowsMixed`): its first row is not one of a base
table, and a later one is. **A table without names for inserts and updates offers no column just if
its rows are not mixed** (`generate_offersNone_iff`).
-/
import ValidatorGen.Proofs.Generate.Columns

namespace ValidatorGen

/-- There are no names for inserts and updates. -/
structure TableIdentifiers.ReadOnly (ids : TableIdentifiers) : Prop where
  insertSchema : ids.insertSchema = none
  updateSchema : ids.updateSchema = none
  insertType : ids.insertType = none
  updateType : ids.updateType = none
  transformInsert : ids.transformInsert = none
  transformUpdate : ids.transformUpdate = none

/-- No column is to be written. -/
structure TableModel.OffersNone (t : TableModel) : Prop where
  columns : ∀ m ∈ t.columns, m.column.isWritable = false
  writeColumns : t.writeColumns = []

/-- The rows of a table that is not taken for a base table, but holds a column of one. -/
def RowsMixed (config : Configuration) (rows : List RawColumn) : Prop :=
  ∃ first rest, rows = first :: rest ∧ first.tableKind ≠ .table ∧
    ∃ raw ∈ rest, raw.IsWritten config

section

variable {config : Configuration} {rows : List RawColumn} {t : Table}

/-- **Names for inserts and updates are those of base tables.** -/
theorem readOnly_tableIdentifiers :
    (Naming.tableIdentifiers t config).ReadOnly ↔ t.kind ≠ .table := by
  have hnone : ∀ name, t.kind ≠ .table → Naming.ifWritable t name = none := fun name h =>
    if_neg h
  constructor
  · intro h hkind
    have hschema := h.insertSchema
    rw [Naming.tableIdentifiers, Naming.ifWritable, if_pos hkind] at hschema
    cases hschema
  · intro h
    exact ⟨hnone _ h, hnone _ h, hnone _ h, hnone _ h, hnone _ h, hnone _ h⟩

/-- Columns are offered by the rows that they are made of, one by one. -/
theorem offersNone_model (h : t.columns = rows.map (·.column config)) :
    (t.model config).OffersNone ↔ ∀ raw ∈ rows, ¬ raw.IsWritten config := by
  have hcolumns : (t.model config).columns
      = rows.map fun raw => .ofColumn t.name (raw.column config) config := by
    show t.columns.map _ = _
    rw [h, List.map_map]
    rfl
  have hwritable : ∀ raw : RawColumn,
      (ColumnModel.ofColumn t.name (raw.column config) config).column.isWritable = true ↔
        raw.IsWritten config := fun raw => RawColumn.isWritable_column_iff
  constructor
  · intro hnone raw hraw
    have hfalse := hnone.columns (.ofColumn t.name (raw.column config) config)
      (hcolumns ▸ List.mem_map_of_mem hraw)
    rw [← hwritable, hfalse]
    exact Bool.false_ne_true
  · intro hnone
    have hall : ∀ m ∈ (t.model config).columns, m.column.isWritable = false := by
      intro m hm
      rw [hcolumns] at hm
      obtain ⟨raw, hraw, rfl⟩ := List.mem_map.mp hm
      exact Bool.eq_false_iff.mpr fun htrue => hnone raw hraw ((hwritable raw).mp htrue)
    refine ⟨hall, List.filter_eq_nil_iff.mpr fun m hm => ?_⟩
    rw [hall m hm]
    exact Bool.false_ne_true

/-- A row of a table that is no base table is not the first one, if its column is to be
written. -/
theorem rowsMixed_iff (hkind : rows.head?.map RawColumn.tableKind = some t.kind)
    (hne : t.kind ≠ .table) : RowsMixed config rows ↔ ∃ raw ∈ rows, raw.IsWritten config := by
  cases rows with
  | nil => cases hkind
  | cons first rest =>
    have hfirst : first.tableKind = t.kind := Option.some.inj hkind
    have hnot : ¬ first.IsWritten config := fun h => hne (hfirst ▸ h.1)
    constructor
    · rintro ⟨first', rest', heq, -, raw, hraw, hwritten⟩
      cases heq
      exact ⟨raw, List.mem_cons_of_mem _ hraw, hwritten⟩
    · rintro ⟨raw, hraw, hwritten⟩
      rcases List.mem_cons.mp hraw with rfl | hraw
      · exact absurd hwritten hnot
      · exact ⟨first, rest, rfl, hfirst ▸ hne, raw, hraw, hwritten⟩

/-- The rows of a base table are not mixed. -/
theorem not_rowsMixed_of_kind (hkind : rows.head?.map RawColumn.tableKind = some .table) :
    ¬ RowsMixed config rows := by
  rintro ⟨first, rest, rfl, hne, -⟩
  exact hne (Option.some.inj hkind)

/-- Rows that agree about the kind of their table are not mixed. -/
theorem not_rowsMixed_of_forall {kind : TableKind} (h : ∀ raw ∈ rows, raw.tableKind = kind) :
    ¬ RowsMixed config rows := by
  rintro ⟨first, rest, rfl, hne, raw, hraw, hwritten⟩
  have hfirst := h first List.mem_cons_self
  have hlater := h raw (List.mem_cons_of_mem _ hraw)
  exact hne (hfirst.trans (hlater.symm.trans hwritten.1))

/-- **The model of a table keeps to its names just if the rows are not mixed.** -/
theorem readOnly_offersNone_iff (hcolumns : t.columns = rows.map (·.column config))
    (hkind : rows.head?.map RawColumn.tableKind = some t.kind) :
    ((t.model config).identifiers.ReadOnly → (t.model config).OffersNone) ↔
      ¬ RowsMixed config rows := by
  have hreadOnly : (t.model config).identifiers.ReadOnly ↔ t.kind ≠ .table :=
    readOnly_tableIdentifiers
  by_cases htable : t.kind = .table
  · have hnot : ¬ (t.model config).identifiers.ReadOnly := fun h => hreadOnly.mp h htable
    exact iff_of_true (fun h => absurd h hnot) (not_rowsMixed_of_kind (htable ▸ hkind))
  · rw [imp_iff_right (hreadOnly.mpr htable), offersNone_model hcolumns,
      rowsMixed_iff hkind htable]
    push Not
    exact Iff.rfl

/-- The kind of a table is that of its first row. -/
theorem head?_rowsOf {kept : List RawColumn} {raw : RawColumn} (schemaName : String)
    (config : Configuration) (hraw : raw ∈ kept) :
    (rowsOf schemaName (raw.key schemaName) kept).head?.map RawColumn.tableKind
      = some (tableOf schemaName config kept (raw.key schemaName)).kind := by
  have hmem : raw ∈ rowsOf schemaName (raw.key schemaName) kept :=
    List.mem_filter.mpr ⟨hraw, beq_self_eq_true _⟩
  rw [tableOf]
  cases hrows : rowsOf schemaName (raw.key schemaName) kept with
  | nil =>
    rw [hrows] at hmem
    cases hmem
  | cons first rest => rfl

end

/-- **In a run without extensions that comes to an output, a table that is no base table, and so
has no names for inserts and updates, offers no column to write just if its rows are not mixed**; it
offers none if all of its rows are of its own kind. -/
theorem generate_offersNone_iff [PatternEngine] (label : String) (rows : List RawColumn)
    (request : Request) (elapsed : Nat) {output : Output}
    (h : (generate ⟨label, .ok rows⟩ request {} elapsed).result = .ok output) :
    ∃ kept, filterColumns rows request.selection.included request.selection.excluded = .ok kept ∧
      ∀ t ∈ output.tables, (t.identifiers.ReadOnly ↔ t.kind ≠ .table) ∧
        ((t.identifiers.ReadOnly → t.OffersNone) ↔ ¬ RowsMixed request.config
          (rowsOf request.selection.schemaName (t.schema, t.name) kept)) ∧
        ((∀ raw ∈ rowsOf request.selection.schemaName (t.schema, t.name) kept,
          raw.tableKind = t.kind) → t.identifiers.ReadOnly → t.OffersNone) := by
  obtain ⟨kept, hkept, rfl⟩ := generate_hookless h
  refine ⟨kept, hkept, fun t ht => ?_⟩
  obtain ⟨raw, hraw, rfl⟩ := mem_tables_outputOf.mp ht
  have hmixed := readOnly_offersNone_iff (t := tableOf request.selection.schemaName request.config
    kept (raw.key request.selection.schemaName)) rfl (head?_rowsOf _ request.config hraw)
  exact ⟨readOnly_tableIdentifiers, hmixed, fun hall => hmixed.mpr (not_rowsMixed_of_forall hall)⟩

theorem generate_offersNone_iff_sampleRows :
    ∃ output, (generate ⟨"static", .ok sampleRows⟩ sampleRequest {} 0).result = .ok output ∧
      ∃ kept, filterColumns sampleRows none (some (.names ["log"])) = .ok kept ∧
        ∀ t ∈ output.tables, (t.identifiers.ReadOnly ↔ t.kind ≠ .table) ∧
          ((t.identifiers.ReadOnly → t.OffersNone) ↔
            ¬ RowsMixed {} (rowsOf "public" (t.schema, t.name) kept)) ∧
          ((∀ raw ∈ rowsOf "public" (t.schema, t.name) kept, raw.tableKind = t.kind) →
            t.identifiers.ReadOnly → t.OffersNone) := by
  have hkept : filterColumns sampleRows sampleRequest.selection.included
      sampleRequest.selection.excluded = .ok (sampleRows.filter fun raw =>
        takesTable none (some (.names ["log"])) raw.table) :=
    filterColumns_ok rfl rfl
  have hok : (generate ⟨"static", .ok sampleRows⟩ sampleRequest {} 0).result
      = .ok (outputOf sampleRequest _) := generate_ok "static" 0 (by decide) hkept
  exact ⟨_, hok, generate_offersNone_iff "static" sampleRows sampleRequest 0 hok⟩

/-- The rows of a view, of which the second does not say that it is one. -/
def mixedRows : List RawColumn :=
  [{ table := "active_users", name := "id", dataType := "bigint", isNullable := false,
     tableKind := .view },
    { table := "active_users", name := "email", dataType := "text", isNullable := false }]

theorem not_offersNone_mixedRows :
    ∃ output, (generate ⟨"static", .ok mixedRows⟩ {} {} 0).result = .ok output ∧
      ∃ t ∈ output.tables, t.kind = .view ∧ t.identifiers.ReadOnly ∧
        t.writeColumns.map (·.column.name) = ["email"] := by
  have hok : (generate ⟨"static", .ok mixedRows⟩ {} {} 0).result = .ok (outputOf {} mixedRows) :=
    generate_ok "static" 0 (by decide) rfl
  refine ⟨_, hok, _, mem_tables_outputOf.mpr ⟨_, List.mem_cons_self, rfl⟩, rfl, ?_, ?_⟩
  · exact readOnly_tableIdentifiers.mpr (by decide)
  · decide

end ValidatorGen
