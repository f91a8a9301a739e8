/-
What the pass over the rows keeps (`Grouped`): the index sends every key to the place of its
own table, that table holds the columns of exactly the rows of its key seen so far, in their
order, and tables stand in the order in which their keys first appeared. **One row keeps it**
(`Grouped.add`), and so it holds after all of them (`grouped_foldl`).
-/
import ValidatorGen.Normalize.Grouping

namespace ValidatorGen

/-- The rows of a table. -/
def rowsOf (schemaName : String) (key : String × String) (rows : List RawColumn) :
    List RawColumn :=
  rows.filter fun raw => raw.key schemaName == key

/-- The place of the first row of a table. -/
def firstRow (schemaName : String) (key : String × String) (rows : List RawColumn) : Nat :=
  rows.findIdx fun raw => raw.key schemaName == key

/-- A table is made up of the given rows: its columns are theirs, its kind is that of the
first of them. -/
structure Table.MadeOf (config : Configuration) (rows : List RawColumn) (t : Table) : Prop where
  columns : t.columns = rows.map (·.column config)
  kind : rows.head?.map RawColumn.tableKind = some t.kind

/-- The state of the pass after some rows. -/
structure Grouped (schemaName : String) (config : Configuration) (seen : List RawColumn)
    (g : Grouping) : Prop where
  /-- The index leads to every key's own table and to no other place. -/
  index : ∀ key i, g.index.lookup key = some i ↔ (g.tables.map Table.key)[i]? = some key
  /-- The table of a key holds the rows of the key and nothing else. -/
  tables : ∀ t ∈ g.tables, t.MadeOf config (rowsOf schemaName t.key seen)
  /-- There is a table for every key that was seen. -/
  keys : ∀ key, key ∈ g.tables.map Table.key ↔ key ∈ seen.map (RawColumn.key schemaName)
  /-- Tables stand in the order of first appearance. -/
  order : (g.tables.map Table.key).Pairwise fun a b =>
    firstRow schemaName a seen < firstRow schemaName b seen

section

variable {schemaName : String} {config : Configuration} {seen : List RawColumn} {g : Grouping}

theorem grouped_nil : Grouped schemaName config [] {} where
  index key i := by simp
  tables t ht := absurd ht (by simp)
  keys key := by simp
  order := .nil

theorem rowsOf_concat (schemaName : String) (seen : List RawColumn) (key : String × String)
    (raw : RawColumn) : rowsOf schemaName key (seen ++ [raw])
      = rowsOf schemaName key seen ++ if raw.key schemaName = key then [raw] else [] := by
  rw [rowsOf, rowsOf, List.filter_append]
  congr 1
  by_cases h : raw.key schemaName = key <;> simp [h]

/-- A table that was not seen has no rows. -/
theorem rowsOf_eq_nil {key : String × String}
    (h : key ∉ seen.map (RawColumn.key schemaName)) : rowsOf schemaName key seen = [] := by
  refine List.filter_eq_nil_iff.mpr fun row hrow he => h ?_
  rw [← beq_iff_eq.mp he]
  exact List.mem_map_of_mem hrow

theorem firstRow_lt {key : String × String} (h : key ∈ seen.map (RawColumn.key schemaName)) :
    firstRow schemaName key seen < seen.length := by
  obtain ⟨raw, hraw, hkey⟩ := List.mem_map.mp h
  exact List.findIdx_lt_length.mpr ⟨raw, hraw, by simpa using hkey⟩

/-- The first row of a table that was seen stays the first. -/
theorem firstRow_concat {key : String × String}
    (h : key ∈ seen.map (RawColumn.key schemaName)) (raw : RawColumn) :
    firstRow schemaName key (seen ++ [raw]) = firstRow schemaName key seen := by
  have hlt := firstRow_lt h
  rw [firstRow] at hlt ⊢
  rw [List.findIdx_append, if_pos hlt]
  rfl

/-- A table without rows so far starts at the end. -/
theorem firstRow_concat_self {raw : RawColumn}
    (h : raw.key schemaName ∉ seen.map (RawColumn.key schemaName)) :
    firstRow schemaName (raw.key schemaName) (seen ++ [raw]) = seen.length := by
  have hnot : ∀ row ∈ seen, (row.key schemaName == raw.key schemaName) = false := by
    intro row hrow
    rw [beq_eq_false_iff_ne]
    exact fun he => h (List.mem_map.mpr ⟨row, hrow, he⟩)
  have hlast : seen.findIdx (fun row => row.key schemaName == raw.key schemaName) = seen.length :=
    List.findIdx_eq_length_of_false hnot
  rw [firstRow, List.findIdx_append, hlast, if_neg (Nat.lt_irrefl _)]
  simp

/-! ## One more row -/

theorem map_key_modify (tables : List Table) (i : Nat) (c : Column) :
    (tables.modify i (Table.addColumn c)).map Table.key = tables.map Table.key := by
  refine List.ext_getElem? fun j => ?_
  rw [List.getElem?_map, List.getElem?_map, List.getElem?_modify]
  cases tables[j]? with
  | none => rfl
  | some t => by_cases h : i = j <;> simp [h, Table.addColumn, Table.key]

theorem modify_concat (tables : List Table) (t : Table) (f : Table → Table) :
    (tables ++ [t]).modify tables.length f = tables ++ [f t] := by
  induction tables with
  | nil => rfl
  | cons u tables ih => simp [ih]

/-- A table has one column more for one row more. -/
theorem Table.MadeOf.addColumn {rows : List RawColumn} {t : Table} (h : t.MadeOf config rows)
    (raw : RawColumn) : (t.addColumn (raw.column config)).MadeOf config (rows ++ [raw]) where
  columns := by rw [Table.addColumn, h.columns, List.map_append, List.map_singleton]
  kind := by
    have hkind := h.kind
    cases rows with
    | nil => cases hkind
    | cons first rows => exact hkind

variable {raw : RawColumn}

theorem Table.MadeOf.concat_self {t : Table}
    (h : t.MadeOf config (rowsOf schemaName t.key seen)) (hkey : raw.key schemaName = t.key) :
    (t.addColumn (raw.column config)).MadeOf config (rowsOf schemaName t.key (seen ++ [raw])) := by
  rw [rowsOf_concat, if_pos hkey]
  exact h.addColumn raw

/-- A table stays the same with a row of another one. -/
theorem Table.MadeOf.concat_other {t : Table}
    (h : t.MadeOf config (rowsOf schemaName t.key seen)) (hkey : raw.key schemaName ≠ t.key) :
    t.MadeOf config (rowsOf schemaName t.key (seen ++ [raw])) := by
  rw [rowsOf_concat, if_neg hkey, List.append_nil]
  exact h

/-- An index of places stays one when a key that is not there gets the place at the end. -/
theorem lookup_concat {keys : List (String × String)} {index : List ((String × String) × Nat)}
    (h : ∀ key i, index.lookup key = some i ↔ keys[i]? = some key) {last : String × String}
    (hlast : last ∉ keys) (key : String × String) (i : Nat) :
    ((last, keys.length) :: index).lookup key = some i ↔ (keys ++ [last])[i]? = some key := by
  rw [List.lookup_cons, List.getElem?_append]
  by_cases hk : key = last
  · subst hk
    rw [beq_self_eq_true, Option.some.injEq]
    constructor
    · rintro rfl
      simp
    · intro hi
      split at hi
      · exact absurd (List.mem_of_getElem? hi) hlast
      · have hlt := (List.getElem?_eq_some_iff.mp hi).1
        simp only [List.length_singleton] at hlt
        omega
  · rw [beq_eq_false_iff_ne.mpr hk]
    refine (h key i).trans ?_
    split
    · exact Iff.rfl
    · next hi =>
      rw [List.getElem?_eq_none (by omega)]
      refine ⟨nofun, fun he => absurd (List.mem_of_getElem? he) ?_⟩
      simpa using hk

/-- The order of first appearance does not change for tables that were seen. -/
theorem order_concat {keys : List (String × String)}
    (hkeys : ∀ key ∈ keys, key ∈ seen.map (RawColumn.key schemaName))
    (h : keys.Pairwise fun a b => firstRow schemaName a seen < firstRow schemaName b seen)
    (raw : RawColumn) : keys.Pairwise fun a b =>
      firstRow schemaName a (seen ++ [raw]) < firstRow schemaName b (seen ++ [raw]) := by
  refine h.imp_of_mem fun {a b} ha hb hab => ?_
  rw [firstRow_concat (hkeys a ha), firstRow_concat (hkeys b hb)]
  exact hab

/-- A row of a table that has a place. -/
theorem Grouped.add_seen (h : Grouped schemaName config seen g) {i : Nat}
    (hi : g.index.lookup (raw.key schemaName) = some i) :
    Grouped schemaName config (seen ++ [raw])
      { g with tables := g.tables.modify i (Table.addColumn (raw.column config)) } := by
  have hplace := (h.index _ _).mp hi
  have hmem : raw.key schemaName ∈ seen.map (RawColumn.key schemaName) :=
    (h.keys _).mp (List.mem_of_getElem? hplace)
  constructor
  case index =>
    intro key j
    rw [map_key_modify]
    exact h.index key j
  case tables =>
    intro t ht
    obtain ⟨j, hj⟩ := List.mem_iff_getElem?.mp ht
    rw [List.getElem?_modify, Option.map_eq_map, Option.map_eq_some_iff] at hj
    obtain ⟨t₀, ht₀, rfl⟩ := hj
    have hold := h.tables t₀ (List.mem_of_getElem? ht₀)
    have hkey : (g.tables.map Table.key)[j]? = some t₀.key := by
      rw [List.getElem?_map, ht₀, Option.map_some]
    -- the index has one place for a key, so only the row's own table is changed
    by_cases hij : i = j
    · subst hij
      rw [if_pos rfl]
      exact hold.concat_self (Option.some.inj (hplace.symm.trans hkey))
    · have hne : raw.key schemaName ≠ t₀.key := by
        intro heq
        have hj := (h.index _ _).mpr (heq ▸ hkey)
        exact hij (Option.some.inj (hi.symm.trans hj))
      rw [if_neg hij]
      exact hold.concat_other hne
  case keys =>
    intro key
    rw [map_key_modify, h.keys, List.map_append, List.mem_append]
    refine ⟨.inl, fun hk => hk.elim id fun hk => ?_⟩
    rw [List.mem_singleton.mp hk]
    exact hmem
  case order =>
    rw [map_key_modify]
    exact order_concat (fun key hk => (h.keys key).mp hk) h.order raw

/-- A row that starts a table. -/
theorem Grouped.add_new (h : Grouped schemaName config seen g)
    (hi : g.index.lookup (raw.key schemaName) = none) (t : Table)
    (hkey : t.key = raw.key schemaName) (hkind : t.kind = raw.tableKind)
    (hcolumns : t.columns = [raw.column config]) :
    Grouped schemaName config (seen ++ [raw])
      { tables := g.tables ++ [t], index := (raw.key schemaName, g.tables.length) :: g.index } := by
  have hnot : raw.key schemaName ∉ g.tables.map Table.key := by
    intro hmem
    obtain ⟨j, hj⟩ := List.mem_iff_getElem?.mp hmem
    rw [(h.index _ _).mpr hj] at hi
    cases hi
  have hunseen : raw.key schemaName ∉ seen.map (RawColumn.key schemaName) := fun hmem =>
    hnot ((h.keys _).mpr hmem)
  have hkeys : (g.tables ++ [t]).map Table.key
      = g.tables.map Table.key ++ [raw.key schemaName] := by
    rw [List.map_append, List.map_singleton, hkey]
  constructor
  case index =>
    intro key j
    have h := lookup_concat h.index hnot key j
    rwa [List.length_map, ← hkeys] at h
  case tables =>
    intro u hu
    rcases List.mem_append.mp hu with hu | hu
    · have hne : raw.key schemaName ≠ u.key := fun heq =>
        hnot (heq ▸ List.mem_map_of_mem hu)
      exact (h.tables u hu).concat_other hne
    · obtain rfl := List.mem_singleton.mp hu
      rw [rowsOf_concat, rowsOf_eq_nil (hkey ▸ hunseen), if_pos hkey.symm]
      exact ⟨hcolumns, by rw [hkind]; rfl⟩
  case keys =>
    intro key
    rw [hkeys, List.mem_append, h.keys, List.map_append, List.mem_append, List.map_singleton]
  case order =>
    rw [hkeys, List.pairwise_append]
    refine ⟨order_concat (fun key hk => (h.keys key).mp hk) h.order raw, by simp, ?_⟩
    intro a ha b hb
    have hseen := (h.keys a).mp ha
    rw [List.mem_singleton.mp hb, firstRow_concat hseen, firstRow_concat_self hunseen]
    exact firstRow_lt hseen

/-- **Rows that are grouped stay so with one row more.** -/
theorem Grouped.add (h : Grouped schemaName config seen g) (raw : RawColumn) :
    Grouped schemaName config (seen ++ [raw]) (g.add schemaName config raw) := by
  rw [Grouping.add, Grouping.place]
  cases hi : g.index.lookup (raw.key schemaName) with
  | some i => exact h.add_seen hi
  | none =>
    simp only [modify_concat]
    exact h.add_new hi _ rfl rfl rfl

/-- **Rows that are grouped stay so with any rows more.** -/
theorem Grouped.foldl (h : Grouped schemaName config seen g) (rows : List RawColumn) :
    Grouped schemaName config (seen ++ rows) (rows.foldl (Grouping.add schemaName config) g) := by
  induction rows generalizing seen g with
  | nil => simpa using h
  | cons raw rows ih =>
    have hrest := ih (h.add raw)
    rw [List.append_assoc, List.singleton_append] at hrest
    exact hrest

/-- The pass over some rows from the start groups them. -/
theorem grouped_foldl (schemaName : String) (config : Configuration) (rows : List RawColumn) :
    Grouped schemaName config rows (rows.foldl (Grouping.add schemaName config) {}) :=
  grouped_nil.foldl rows

end

end ValidatorGen
