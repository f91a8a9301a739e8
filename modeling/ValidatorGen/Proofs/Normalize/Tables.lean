/-
The tables of some rows, said without the pass over them (`tablesOf`): a table for every
namespace and name in the order of their first rows, each with the kind of its first row and
the columns of its own rows in their order. **The pass comes to exactly these**
(`groupIntoTables_eq`).
-/
import Mathlib.Data.List.Induction
import ValidatorGen.Proofs.Normalize.Grouping

namespace ValidatorGen

/-- The table of a namespace and a name. -/
def tableOf (schemaName : String) (config : Configuration) (rows : List RawColumn)
    (key : String × String) : Table where
  name := key.2
  schema := key.1
  kind := ((rowsOf schemaName key rows).head?.map RawColumn.tableKind).getD .table
  columns := (rowsOf schemaName key rows).map (·.column config)

/-- The tables of some rows, in the order of first appearance. -/
def tablesOf (schemaName : String) (config : Configuration) (rows : List RawColumn) :
    List Table :=
  (rows.map (RawColumn.key schemaName)).eraseDups.map (tableOf schemaName config rows)

section

variable {schemaName : String} {config : Configuration} {seen : List RawColumn} {g : Grouping}

/-- A row adds the key of its table at the end, unless it is there. -/
theorem Grouped.keys_add (h : Grouped schemaName config seen g) (raw : RawColumn) :
    (g.add schemaName config raw).tables.map Table.key
      = if raw.key schemaName ∈ g.tables.map Table.key then g.tables.map Table.key
        else g.tables.map Table.key ++ [raw.key schemaName] := by
  rw [Grouping.add, Grouping.place]
  cases hi : g.index.lookup (raw.key schemaName) with
  | some i =>
    have hmem := List.mem_of_getElem? ((h.index _ _).mp hi)
    rw [if_pos hmem]
    exact map_key_modify g.tables i (raw.column config)
  | none =>
    have hnot : raw.key schemaName ∉ g.tables.map Table.key := by
      intro hmem
      obtain ⟨j, hj⟩ := List.mem_iff_getElem?.mp hmem
      rw [(h.index _ _).mpr hj] at hi
      cases hi
    rw [if_neg hnot]
    simp only [modify_concat, List.map_append]
    rfl

theorem eraseDups_concat {α : Type} [BEq α] [LawfulBEq α] (l : List α) (a : α) :
    (l ++ [a]).eraseDups = if a ∈ l then l.eraseDups else l.eraseDups ++ [a] := by
  rw [List.eraseDups_append]
  by_cases h : a ∈ l <;> simp [List.removeAll, List.eraseDups_cons, h]

/-- Tables stand in the order of first appearance. -/
theorem map_key_groupIntoTables (schemaName : String) (config : Configuration)
    (rows : List RawColumn) : (groupIntoTables rows schemaName config).map Table.key
      = (rows.map (RawColumn.key schemaName)).eraseDups := by
  induction rows using List.reverseRecOn with
  | nil => rfl
  | append_singleton rows raw ih =>
    rw [groupIntoTables] at ih ⊢
    rw [List.foldl_append, List.foldl_cons, List.foldl_nil,
      (grouped_foldl schemaName config rows).keys_add raw, ih, List.map_append,
      List.map_singleton, eraseDups_concat]
    simp only [List.mem_eraseDups]

theorem Table.MadeOf.eq_tableOf {rows : List RawColumn} {t : Table}
    (h : t.MadeOf config (rowsOf schemaName t.key rows)) :
    t = tableOf schemaName config rows t.key := by
  obtain ⟨name, schema, kind, columns⟩ := t
  have hcolumns := h.columns
  have hkind := h.kind
  simp only [Table.key] at hcolumns hkind
  simp only [tableOf, Table.key, hkind, Option.getD_some, hcolumns]

/-- **The pass over the rows comes to their tables.** -/
theorem groupIntoTables_eq (schemaName : String) (config : Configuration)
    (rows : List RawColumn) :
    groupIntoTables rows schemaName config = tablesOf schemaName config rows := by
  have hgrouped := grouped_foldl schemaName config rows
  rw [tablesOf, ← map_key_groupIntoTables schemaName config rows, List.map_map]
  refine (List.map_id _).symm.trans (List.map_congr_left fun t ht => ?_)
  exact (hgrouped.tables t ht).eq_tableOf

end

end ValidatorGen
