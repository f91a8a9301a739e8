/-
Tables do not see each other. The model of a table is made of the rows of its own namespace and
name, in their order, and of nothing else, wherever these rows stand among those of other tables
(`modelsOf_outputOf`). So two runs agree on every table whose rows they share, **and the order in
which the rows of different tables come does not show at all**, as long as the order of the tables
never has to fall back on which of them came first (`generate_tables_independent`).
-/
import ValidatorGen.Proofs.Generate.Writable

namespace ValidatorGen

/-- The table models of a namespace and a name. -/
def Output.modelsOf (key : String × String) (o : Output) : List TableModel :=
  o.tables.filter fun t => (t.schema, t.name) == key

/-- The second list has the rows of the first one in another order, which is the same within
every table. -/
structure Reorders (schemaName : String) (rows rows' : List RawColumn) : Prop where
  perm : rows.Perm rows'
  within : ∀ key, rowsOf schemaName key rows = rowsOf schemaName key rows'

/-- No two tables of some rows share both their kind, which is that of their first row, and their
name. -/
def TablesDiffer (schemaName : String) (rows : List RawColumn) : Prop :=
  ∀ a ∈ rows, ∀ b ∈ rows,
    (rowsOf schemaName (a.key schemaName) rows).head?.map RawColumn.tableKind
      = (rowsOf schemaName (b.key schemaName) rows).head?.map RawColumn.tableKind →
    a.table = b.table → a.key schemaName = b.key schemaName

section

variable {schemaName : String} {config : Configuration} {rows rows' kept kept' : List RawColumn}
  {request : Request} {key : String × String}

/-! ## One table -/

theorem tableOf_congr (h : rowsOf schemaName key rows = rowsOf schemaName key rows') :
    tableOf schemaName config rows key = tableOf schemaName config rows' key := by
  simp only [tableOf, h]

/-- A row that is there has a table, and so has every key with a row. -/
theorem exists_key_of_rowsOf_ne_nil (h : rowsOf schemaName key rows ≠ []) :
    ∃ raw ∈ rows, raw.key schemaName = key := by
  obtain ⟨raw, hraw⟩ := List.exists_mem_of_ne_nil _ h
  obtain ⟨hmem, hkey⟩ := List.mem_filter.mp hraw
  exact ⟨raw, hmem, by simpa using hkey⟩

theorem filter_key_eq_singleton {α κ : Type} [BEq κ] [LawfulBEq κ] {f : α → κ} {l : List α} {a : α}
    (hnodup : (l.map f).Nodup) (ha : a ∈ l) : l.filter (fun b => f b == f a) = [a] := by
  induction l with
  | nil => cases ha
  | cons b l ih =>
    rw [List.map_cons, List.nodup_cons] at hnodup
    obtain ⟨hb, hnodup⟩ := hnodup
    by_cases hab : f b = f a
    · have hrest : ∀ c ∈ l, ¬ (f c == f a) = true := by
        intro c hc heq
        rw [beq_iff_eq] at heq
        exact hb (by rw [hab, ← heq]; exact List.mem_map_of_mem hc)
      have hba : a = b := by
        rcases List.mem_cons.mp ha with h | h
        · exact h
        · exact absurd (beq_self_eq_true (f a)) (hrest a h)
      subst hba
      rw [List.filter_cons_of_pos (by simp), List.filter_eq_nil_iff.mpr hrest]
    · have hmem : a ∈ l := by
        rcases List.mem_cons.mp ha with h | h
        · exact absurd (h ▸ rfl) hab
        · exact h
      rw [List.filter_cons_of_neg (by simpa using hab)]
      exact ih hnodup hmem

theorem nodup_key_sortedTablesOf (schemaName : String) (config : Configuration)
    (rows : List RawColumn) : ((sortedTablesOf schemaName config rows).map Table.key).Nodup := by
  have hnodup := (schema_madeOf schemaName config rows).nodup
  rwa [groupIntoTables_eq] at hnodup

/-- **A key with a row has one table model, which is that of the rows of the key.** -/
theorem modelsOf_outputOf (h : rowsOf request.selection.schemaName key kept ≠ []) :
    (outputOf request kept).modelsOf key
      = [(tableOf request.selection.schemaName request.config kept key).model request.config] := by
  obtain ⟨raw, hraw, rfl⟩ := exists_key_of_rowsOf_ne_nil h
  have hmem : tableOf request.selection.schemaName request.config kept
      (raw.key request.selection.schemaName)
        ∈ sortedTablesOf request.selection.schemaName request.config kept :=
    mem_sortedTablesOf.mpr ⟨raw, hraw, rfl⟩
  have hone := filter_key_eq_singleton
    (nodup_key_sortedTablesOf request.selection.schemaName request.config kept) hmem
  rw [Output.modelsOf, outputOf, List.filter_map]
  exact congrArg (List.map (Table.model request.config)) hone

/-! ## Rows in another order -/

/-- Filters look at the name of the table only. -/
theorem exists_takes [PatternEngine] {included excluded : Option TableFilter}
    (h : filterColumns rows included excluded = .ok kept) : ∃ takes : String → Bool,
      ∀ rows, filterColumns rows included excluded
        = .ok (rows.filter fun raw => takes raw.table) := by
  cases hincluded : TableFilter.compileOption "include" included with
  | error e =>
    rw [filterColumns, hincluded] at h
    cases h
  | ok readyIncluded =>
    cases hexcluded : TableFilter.compileOption "exclude" excluded with
    | error e =>
      rw [filterColumns, hincluded, hexcluded] at h
      cases h
    | ok readyExcluded =>
      refine ⟨takesTable readyIncluded readyExcluded, fun rows => ?_⟩
      rw [filterColumns, hincluded, hexcluded]
      rfl

theorem rowsOf_filter (p : RawColumn → Bool) :
    rowsOf schemaName key (rows.filter p) = (rowsOf schemaName key rows).filter p :=
  List.filter_comm _ _ rows

/-- Rows in another order stay so when some of them are left out. -/
theorem Reorders.filter (h : Reorders schemaName rows rows') (p : RawColumn → Bool) :
    Reorders schemaName (rows.filter p) (rows'.filter p) where
  perm := h.perm.filter p
  within key := by rw [rowsOf_filter, rowsOf_filter, h.within key]

theorem Reorders.perm_sortedTablesOf (h : Reorders schemaName rows rows')
    (config : Configuration) :
    (sortedTablesOf schemaName config rows).Perm (sortedTablesOf schemaName config rows') := by
  have hnodup : ∀ rows, (sortedTablesOf schemaName config rows).Nodup := fun rows =>
    (nodup_key_sortedTablesOf schemaName config rows).of_map
  refine (List.perm_ext_iff_of_nodup (hnodup rows) (hnodup rows')).mpr fun t => ?_
  rw [mem_sortedTablesOf, mem_sortedTablesOf]
  refine exists_congr fun raw => and_congr h.perm.mem_iff ?_
  rw [tableOf_congr (h.within _)]

/-- Tables that compare both ways are one. -/
theorem eq_of_before_of_before (hdiffer : TablesDiffer schemaName rows) {s t : Table}
    (hs : s ∈ sortedTablesOf schemaName config rows)
    (ht : t ∈ sortedTablesOf schemaName config rows) (hst : s.before t = true)
    (hts : t.before s = true) : s = t := by
  obtain ⟨a, ha, rfl⟩ := mem_sortedTablesOf.mp hs
  obtain ⟨b, hb, rfl⟩ := mem_sortedTablesOf.mp ht
  obtain ⟨hkind, hname⟩ := Table.eq_of_before hst hts
  have hkey : a.key schemaName = b.key schemaName := by
    refine hdiffer a ha b hb ?_ hname
    rw [head?_rowsOf schemaName config ha, head?_rowsOf schemaName config hb, hkind]
  rw [hkey]

/-- **The order of the rows of different tables does not show.** -/
theorem Reorders.outputOf_eq (h : Reorders request.selection.schemaName kept kept')
    (hdiffer : TablesDiffer request.selection.schemaName kept) :
    outputOf request kept = outputOf request kept' := by
  have hordered : ∀ rows, (sortedTablesOf request.selection.schemaName request.config
      rows).Pairwise fun s t => s.before t = true := fun rows =>
    List.pairwise_mergeSort Table.before_trans Table.before_total _
  have hperm := h.perm_sortedTablesOf request.config
  have htables := hperm.eq_of_pairwise
    (fun s t hs ht => eq_of_before_of_before hdiffer hs (hperm.mem_iff.mpr ht))
    (hordered kept) (hordered kept')
  simp only [outputOf, htables]

end

/-- **Two runs without extensions come to one table model for every table that has the same rows
in both, whatever rows of other tables stand between them; and to one output, if the rows are the
same up to an order that keeps that within every table, and no two tables share kind and name.** -/
theorem generate_tables_independent [PatternEngine] (label label' : String)
    (rows rows' : List RawColumn)
    (request : Request) (elapsed elapsed' : Nat) {output output' : Output}
    (h : (generate ⟨label, .ok rows⟩ request {} elapsed).result = .ok output)
    (h' : (generate ⟨label', .ok rows'⟩ request {} elapsed').result = .ok output') :
    ∃ kept kept',
      filterColumns rows request.selection.included request.selection.excluded = .ok kept ∧
      filterColumns rows' request.selection.included request.selection.excluded = .ok kept' ∧
      (∀ key, rowsOf request.selection.schemaName key kept ≠ [] →
        rowsOf request.selection.schemaName key kept
          = rowsOf request.selection.schemaName key kept' →
        ∃ t, output.modelsOf key = [t] ∧ output'.modelsOf key = [t]) ∧
      (Reorders request.selection.schemaName rows rows' →
        TablesDiffer request.selection.schemaName kept → output = output') := by
  obtain ⟨kept, hkept, rfl⟩ := generate_hookless h
  obtain ⟨kept', hkept', rfl⟩ := generate_hookless h'
  refine ⟨kept, kept', hkept, hkept', ?_, ?_⟩
  · intro key hne hsame
    refine ⟨_, modelsOf_outputOf hne, ?_⟩
    rw [modelsOf_outputOf (hsame ▸ hne), tableOf_congr hsame]
  · intro hreorders hdiffer
    obtain ⟨takes, htakes⟩ := exists_takes hkept
    obtain rfl : rows.filter _ = kept := Except.ok.inj ((htakes rows).symm.trans hkept)
    obtain rfl : rows'.filter _ = kept' := Except.ok.inj ((htakes rows').symm.trans hkept')
    exact (hreorders.filter _).outputOf_eq hdiffer

/-- The rows of `sampleRows`, with those of each table in one place. -/
def shuffledRows : List RawColumn :=
  [{ table := "users", name := "id", dataType := "text", isNullable := false
     schema := some "audit", tableKind := .view },
    { table := "log", name := "at", dataType := "date", isNullable := true },
    { table := "users", name := "id", dataType := "bigint", isNullable := false },
    { table := "users", name := "role", dataType := "text", isNullable := true
      checks := ["role IN ('admin', 'guest')"] }]

theorem reorders_shuffledRows : Reorders "public" sampleRows shuffledRows where
  perm := by decide
  within key := by
    by_cases hpublic : ("public", "users") = key
    · subst hpublic
      decide
    · -- only the rows of that table have changed their places
      simp [rowsOf, sampleRows, shuffledRows, List.filter_cons, RawColumn.key, hpublic]

theorem generate_tables_independent_shuffledRows :
    Reorders "public" sampleRows shuffledRows ∧ ∃ output output',
      (generate ⟨"static", .ok sampleRows⟩ sampleRequest {} 0).result = .ok output ∧
      (generate ⟨"static", .ok shuffledRows⟩ sampleRequest {} 0).result = .ok output' ∧
      (∃ t, output.modelsOf ("public", "users") = [t] ∧
        output'.modelsOf ("public", "users") = [t]) ∧
      output = output' := by
  have hkept : ∀ rows, filterColumns rows sampleRequest.selection.included
      sampleRequest.selection.excluded = .ok (rows.filter fun raw =>
        takesTable none (some (.names ["log"])) raw.table) := fun rows => filterColumns_ok rfl rfl
  have hok : ∀ rows, (generate ⟨"static", .ok rows⟩ sampleRequest {} 0).result
      = .ok (outputOf sampleRequest _) := fun rows =>
    generate_ok "static" 0 (by decide) (hkept rows)
  obtain ⟨kept, kept', h, h', hone, hall⟩ := generate_tables_independent "static" "static" sampleRows
    shuffledRows sampleRequest 0 0 (hok sampleRows) (hok shuffledRows)
  obtain rfl := Except.ok.inj ((hkept sampleRows).symm.trans h)
  obtain rfl := Except.ok.inj ((hkept shuffledRows).symm.trans h')
  refine ⟨reorders_shuffledRows, _, _, hok sampleRows, hok shuffledRows, ?_, ?_⟩
  · exact hone _ (by decide) (by decide)
  · exact hall reorders_shuffledRows (by unfold TablesDiffer; decide)

end ValidatorGen
