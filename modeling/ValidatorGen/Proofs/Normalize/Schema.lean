/-
What rows come to without an extension (`Schema.MadeOf`): one table for every namespace and
name among the rows that are taken, with the columns of exactly its own rows, and the tables
in order. **Every run with a name and filters that can be made ready comes to such a schema**
(`normalize_ok`). The pass over the rows gives the tables (`grouped_foldl`), and the sort only
moves them (`sortTables_pairwise`).
-/
import ValidatorGen.Normalize.Schema
import ValidatorGen.Pattern.Reading
import ValidatorGen.Proofs.Normalize.Grouping
import ValidatorGen.Proofs.Relation.Table

namespace ValidatorGen

/-- A schema is made up of the given rows. -/
structure Schema.MadeOf (config : Configuration) (rows : List RawColumn) (s : Schema) : Prop where
  /-- The tables are those of the rows. -/
  keys : ∀ key, key ∈ s.tables.map Table.key ↔ key ∈ rows.map (RawColumn.key s.name)
  /-- Each table is there once. -/
  nodup : (s.tables.map Table.key).Nodup
  tables : ∀ t ∈ s.tables, t.MadeOf config (rowsOf s.name t.key rows)
  /-- Kind and name decide the order, and at last which table came first. -/
  order : s.tables.Pairwise (Table.Precedes fun t => firstRow s.name t.key rows)

/-- The pass over some rows, sorted, is a schema that is made of them. -/
theorem schema_madeOf (schemaName : String) (config : Configuration) (rows : List RawColumn) :
    Schema.MadeOf config rows
      ⟨schemaName, sortTables (groupIntoTables rows schemaName config)⟩ := by
  have hgrouped := grouped_foldl schemaName config rows
  have hperm : (sortTables (groupIntoTables rows schemaName config)).Perm
      (groupIntoTables rows schemaName config) := List.mergeSort_perm _ _
  have hkeys := hperm.map Table.key
  constructor
  case keys =>
    intro key
    rw [hkeys.mem_iff]
    exact hgrouped.keys key
  case nodup =>
    refine hkeys.nodup_iff.mpr (hgrouped.order.imp fun hab => ?_)
    exact ne_of_apply_ne (firstRow schemaName · rows) (Nat.ne_of_lt hab)
  case tables => exact fun t ht => hgrouped.tables t (hperm.mem_iff.mp ht)
  case order =>
    have horder := hgrouped.order
    rw [List.pairwise_map] at horder
    exact sortTables_pairwise horder

section

variable [PatternEngine] {rows : List RawColumn} {selection : Selection}
  {included excluded : Option TableFilter.Ready}

/-- The rows that are taken, once both filters are ready. -/
theorem filterColumns_ok
    (hincluded : TableFilter.compileOption "include" selection.included = .ok included)
    (hexcluded : TableFilter.compileOption "exclude" selection.excluded = .ok excluded) :
    filterColumns rows selection.included selection.excluded
      = .ok (rows.filter fun raw => takesTable included excluded raw.table) := by
  rw [filterColumns, hincluded, hexcluded]
  rfl

/-- What a run without an extension comes to. -/
theorem normalize_result {kept : List RawColumn} (config : Configuration)
    (hname : Text.trim selection.schemaName.toList ≠ [])
    (hkept : filterColumns rows selection.included selection.excluded = .ok kept) :
    (normalize rows selection config none).result
      = .ok ⟨selection.schemaName,
          sortTables (groupIntoTables kept selection.schemaName config)⟩ := by
  have hfiltered : ∃ events, reportFiltered kept.length rows.length = ⟨events, .ok ()⟩ := by
    rw [reportFiltered]
    split
    · exact ⟨_, rfl⟩
    · exact ⟨[], rfl⟩
  obtain ⟨events, hfiltered⟩ := hfiltered
  rw [normalize, if_neg hname, hkept]
  simp only [Except.mapError, Run.ofExcept, Run.bind_ok, hfiltered, Run.reportAll, hookTables,
    Run.pure_eq, Run.report]

/-- **A run without an extension comes to the schema of the rows that are taken.** -/
theorem normalize_ok (rows : List RawColumn) (selection : Selection) (config : Configuration)
    {included excluded : Option TableFilter.Ready}
    (hname : Text.trim selection.schemaName.toList ≠ [])
    (hincluded : TableFilter.compileOption "include" selection.included = .ok included)
    (hexcluded : TableFilter.compileOption "exclude" selection.excluded = .ok excluded) :
    ∃ s, (normalize rows selection config none).result = .ok s ∧
      s.name = selection.schemaName ∧
      s.MadeOf config (rows.filter fun raw => takesTable included excluded raw.table) :=
  ⟨_, normalize_result config hname (filterColumns_ok hincluded hexcluded), rfl,
    schema_madeOf selection.schemaName config _⟩

end

/-- Rows of two tables of one name in turn, and one of a table that is left out. -/
def sampleRows : List RawColumn :=
  [{ table := "users", name := "id", dataType := "bigint", isNullable := false },
    { table := "users", name := "id", dataType := "text", isNullable := false
      schema := some "audit", tableKind := .view },
    { table := "log", name := "at", dataType := "date", isNullable := true },
    { table := "users", name := "role", dataType := "text", isNullable := true
      checks := ["role IN ('admin', 'guest')"] }]

theorem normalize_ok_sampleRows :
    Text.trim "public".toList ≠ [] ∧
      ∃ s, (normalize sampleRows { excluded := some (.names ["log"]) } {} none).result = .ok s ∧
        s.name = "public" ∧
        s.MadeOf {} (sampleRows.filter fun raw =>
          takesTable none (some (.names ["log"])) raw.table) :=
  ⟨by decide, normalize_ok sampleRows { excluded := some (.names ["log"]) } {} (by decide) rfl rfl⟩

end ValidatorGen
