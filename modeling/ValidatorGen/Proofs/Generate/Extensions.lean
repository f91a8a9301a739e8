/-
The two places at which an extension can change a column: when it is normalized, and when its
model is made. **A function that keeps what names are made of comes to the same in either place**
(`generate_mapping_agrees`): a column that is changed early is rendered once, and of one that is
changed late both expressions are rendered again, under names that are the same. An extension
that changes nothing might as well not be there.
-/
import ValidatorGen.Generate
import ValidatorGen.Proofs.Normalize.Schema
import ValidatorGen.Proofs.Run

namespace ValidatorGen

/-- The extension that puts every column through a function when it is normalized. -/
def NormalizeHooks.mapping (f : String → Column → Column) : NormalizeHooks where
  onColumn table c := .ok (f table c)

/-- The extension that puts the column of every model through a function, and leaves the rest of
the model as it is. -/
def RenderHooks.mapping (f : String → Column → Column) : RenderHooks where
  onColumn table m := .ok { m with column := f table m.column }

/-- A function on columns that changes nothing that their names are made of. -/
structure KeepsNaming (f : String → Column → Column) : Prop where
  name : ∀ table c, (f table c).name = c.name
  isEnum : ∀ table c, (f table c).isEnum = c.isEnum
  semanticType : ∀ table c, (f table c).semanticType = c.semanticType

/-- The table with every column put through a function. -/
def Table.mapColumns (f : String → Column → Column) (t : Table) : Table :=
  { t with columns := t.columns.map (f t.name) }

/-- The schema with every column put through a function. -/
def Schema.mapColumns (f : String → Column → Column) (s : Schema) : Schema :=
  { s with tables := s.tables.map (Table.mapColumns f) }

section

variable {f : String → Column → Column} {config : Configuration}

/-! ## One column -/

theorem columnIdentifiers_of_keepsNaming (hf : KeepsNaming f) (table : String) (c : Column)
    (config : Configuration) : Naming.columnIdentifiers table (f table c) config
      = Naming.columnIdentifiers table c config := by
  simp only [Naming.columnIdentifiers, hf.name, hf.isEnum, hf.semanticType]

/-- **A column that is changed before its model is made has the model that is changed after it
was made.** -/
theorem ofColumn_eq_rerender (hf : KeepsNaming f) (table : String) (c : Column)
    (config : Configuration) : ColumnModel.ofColumn table (f table c) config
      = (ColumnModel.ofColumn table c config).rerender
          { ColumnModel.ofColumn table c config with column := f table c } config := by
  have hids := columnIdentifiers_of_keepsNaming hf table c config
  simp only [ColumnModel.rerender, ColumnModel.ofColumn, ColumnModel.identifiers, hids, hf.name,
    hf.isEnum, if_true]

/-! ## One table -/

/-- The columns of a table go through the function, and the table stays as it is. -/
theorem agrees_run_mapping (f : String → Column → Column) (t : Table) :
    ((NormalizeHooks.mapping f).run t).Agrees (pure (t.mapColumns f)) := by
  have hcolumns : (t.columns.mapM fun c =>
      Run.ask (.column t.name c) ((NormalizeHooks.mapping f).onColumn t.name c)).Agrees
        (pure (t.columns.map (f t.name))) :=
    .mapM_pure fun c _ => .ask _ _
  exact hcolumns.bind fun columns => .ask _ _

/-- The models of a table's columns are the same, changed before or after they were made. -/
theorem agrees_columnModels (hf : KeepsNaming f) (t : Table) (config : Configuration) :
    (columnModels (t.mapColumns f) config none).Agrees
      (columnModels t config (some (.mapping f))) := by
  have hmodels : ((t.columns.map fun c => ColumnModel.ofColumn t.name c config).mapM
      ((RenderHooks.mapping f).runColumn t.name config)).Agrees
        (pure (t.columns.map fun c => ColumnModel.ofColumn t.name (f t.name c) config)) := by
    rw [List.mapM_map]
    refine .mapM_pure fun c _ => ?_
    rw [ofColumn_eq_rerender hf]
    exact (Run.Agrees.ask _ _).bind fun m => .refl _
  have hcolumns : (t.mapColumns f).columns.map (fun c => ColumnModel.ofColumn t.name c config)
      = t.columns.map fun c => ColumnModel.ofColumn t.name (f t.name c) config := by
    rw [Table.mapColumns, List.map_map]
    rfl
  simp only [columnModels]
  rw [show (t.mapColumns f).name = t.name from rfl, hcolumns]
  exact hmodels.symm

theorem agrees_tableModel (hf : KeepsNaming f) (t : Table) (config : Configuration) :
    (tableModel (t.mapColumns f) config none).Agrees
      (tableModel t config (some (.mapping f))) := by
  refine (agrees_columnModels hf t config).bind fun columns => ?_
  -- the names and the kind of the table are the same, and so is its model
  exact (Run.Agrees.ask _ _).symm.bind fun m => .refl _

/-! ## A whole run -/

/-- The order of tables does not look at their columns. -/
theorem sortTables_mapColumns (f : String → Column → Column) (tables : List Table) :
    sortTables (tables.map (Table.mapColumns f)) = (sortTables tables).map (Table.mapColumns f) := by
  have hbefore : ∀ a ∈ tables, ∀ b ∈ tables,
      a.before b = (a.mapColumns f).before (b.mapColumns f) := fun _ _ _ _ => rfl
  exact (List.map_mergeSort hbefore).symm

theorem agrees_normalize [PatternEngine] (f : String → Column → Column) (rows : List RawColumn)
    (selection : Selection) (config : Configuration) :
    (normalize rows selection config (some (.mapping f))).Agrees
      (normalize rows selection config none >>= fun s => pure (s.mapColumns f)) := by
  simp only [normalize]
  split
  · exact .refl _
  simp only [bind_assoc]
  refine (Run.Agrees.refl _).bind fun kept => ?_
  refine (Run.Agrees.refl _).bind fun _ => ?_
  refine (Run.Agrees.refl _).bind fun _ => ?_
  have htables : (hookTables (some (.mapping f))
      (groupIntoTables kept selection.schemaName config)).Agrees
        (pure ((groupIntoTables kept selection.schemaName config).map (Table.mapColumns f))) :=
    .mapM_pure fun t _ => agrees_run_mapping f t
  refine (htables.bind fun _ => .refl _).trans ?_
  simp only [hookTables, pure_bind, sortTables_mapColumns, List.length_map]
  exact .refl _

theorem agrees_renderSchema (hf : KeepsNaming f) (s : Schema) (config : Configuration) :
    (renderSchema (s.mapColumns f) config none).Agrees
      (renderSchema s config (some (.mapping f))) := by
  have htables : ((s.mapColumns f).tables.mapM fun t => tableModel t config none).Agrees
      (s.tables.mapM fun t => tableModel t config (some (.mapping f))) := by
    rw [Schema.mapColumns, List.mapM_map]
    exact .mapM fun t _ => agrees_tableModel hf t config
  have hsummary : Summary.ofSchema (s.mapColumns f) = Summary.ofSchema s := by
    simp only [Summary.ofSchema, Summary.grouped, Schema.mapColumns, List.foldl_map]
    rfl
  rw [renderSchema, renderSchema, hsummary]
  exact htables.bind fun _ => .refl _

/-- What follows a schema does not tell runs apart that agree on it. -/
theorem agrees_generate [PatternEngine] {source : Source} {request : Request}
    {hooks hooks' : Hooks} (elapsed : Nat)
    (h : ∀ rows, (normalize rows request.selection request.config hooks.normalize >>= fun s =>
        renderSchema s request.config hooks.render).Agrees
      (normalize rows request.selection request.config hooks'.normalize >>= fun s =>
        renderSchema s request.config hooks'.render)) :
    (generate source request hooks elapsed).Agrees (generate source request hooks' elapsed) := by
  have hproduce : (produce source request hooks).Agrees (produce source request hooks') :=
    (Run.Agrees.refl _).bind fun rows => (Run.Agrees.refl _).bind fun _ => h rows
  exact hproduce.bind fun _ => .refl _

/-- A function that is applied early comes to the same as one that is applied late. -/
theorem agrees_mapping [PatternEngine] (hf : KeepsNaming f) (source : Source) (request : Request)
    (elapsed : Nat) :
    (generate source request ⟨some (.mapping f), none⟩ elapsed).Agrees
      (generate source request ⟨none, some (.mapping f)⟩ elapsed) := by
  refine agrees_generate elapsed fun rows => ?_
  refine ((agrees_normalize f rows request.selection request.config).bind fun _ => .refl _).trans ?_
  simp only [bind_assoc, pure_bind]
  exact (Run.Agrees.refl _).bind fun s => agrees_renderSchema hf s request.config

/-! ## Extensions that change nothing -/

theorem mapColumns_id (s : Schema) : s.mapColumns (fun _ c => c) = s := by
  have htable : Table.mapColumns (fun _ c => c) = id := by
    funext t
    simp only [Table.mapColumns, List.map_id']
    rfl
  simp only [Schema.mapColumns, htable, List.map_id]

theorem keepsNaming_id : KeepsNaming fun _ c => c := ⟨fun _ _ => rfl, fun _ _ => rfl, fun _ _ => rfl⟩

/-- An extension that keeps every default, if there is one, changes nothing in the schema. -/
theorem agrees_normalize_default [PatternEngine] {hooks : Option NormalizeHooks}
    (h : ∀ n ∈ hooks, n = {})
    (rows : List RawColumn) (selection : Selection) (config : Configuration) :
    (normalize rows selection config hooks).Agrees (normalize rows selection config none) := by
  cases hooks with
  | none => exact .refl _
  | some n =>
    obtain rfl : n = {} := h n rfl
    have hmapping := agrees_normalize (fun _ c => c) rows selection config
    simp only [mapColumns_id, bind_pure] at hmapping
    exact hmapping

/-- An extension that keeps every default, if there is one, changes nothing in the models. -/
theorem agrees_renderSchema_default {hooks : Option RenderHooks} (h : ∀ r ∈ hooks, r = {})
    (s : Schema) (config : Configuration) :
    (renderSchema s config hooks).Agrees (renderSchema s config none) := by
  cases hooks with
  | none => exact .refl _
  | some r =>
    obtain rfl : r = {} := h r rfl
    have hmapping := agrees_renderSchema keepsNaming_id s config
    rw [mapColumns_id] at hmapping
    exact hmapping.symm

theorem agrees_default [PatternEngine] {hooks : Hooks} (hn : ∀ n ∈ hooks.normalize, n = {})
    (hr : ∀ r ∈ hooks.render, r = {}) (source : Source) (request : Request) (elapsed : Nat) :
    (generate source request hooks elapsed).Agrees (generate source request {} elapsed) :=
  agrees_generate elapsed fun rows =>
    (agrees_normalize_default hn rows request.selection request.config).bind fun s =>
      agrees_renderSchema_default hr s request.config

end

/-- **It does not matter at which of the two places columns are changed**, by a function that
keeps what names are made of; and one that changes nothing, or an extension that keeps every
default, leaves the whole run as it is. -/
theorem generate_mapping_agrees [PatternEngine] (source : Source) (request : Request)
    (elapsed : Nat) :
    (∀ f, KeepsNaming f →
      (generate source request ⟨some (.mapping f), none⟩ elapsed).Agrees
        (generate source request ⟨none, some (.mapping f)⟩ elapsed)) ∧
    (generate source request ⟨some (.mapping fun _ c => c), none⟩ elapsed).Agrees
      (generate source request {} elapsed) ∧
    (generate source request ⟨none, some (.mapping fun _ c => c)⟩ elapsed).Agrees
      (generate source request {} elapsed) ∧
    ∀ hooks : Hooks, (∀ n ∈ hooks.normalize, n = {}) → (∀ r ∈ hooks.render, r = {}) →
      (generate source request hooks elapsed).Agrees (generate source request {} elapsed) := by
  refine ⟨fun f hf => agrees_mapping hf source request elapsed, ?_, ?_, fun hooks hn hr =>
    agrees_default hn hr source request elapsed⟩
  · refine agrees_default (fun n hn => ?_) (fun r hr => by cases hr) source request elapsed
    cases hn
    rfl
  · refine agrees_default (fun n hn => by cases hn) (fun r hr => ?_) source request elapsed
    cases hr
    rfl

/-- A function that lets every column be absent. -/
def relaxColumn (_ : String) (c : Column) : Column :=
  Column.syncOptionality { c with isNullable := true }

theorem generate_mapping_agrees_relaxColumn :
    KeepsNaming relaxColumn ∧
    (generate ⟨"static", .ok sampleRows⟩ {} ⟨some (.mapping relaxColumn), none⟩ 0).Agrees
      (generate ⟨"static", .ok sampleRows⟩ {} ⟨none, some (.mapping relaxColumn)⟩ 0) ∧
    (generate ⟨"static", .ok sampleRows⟩ {} ⟨some {}, some {}⟩ 0).Agrees
      (generate ⟨"static", .ok sampleRows⟩ {} {} 0) := by
  have hkeeps : KeepsNaming relaxColumn := ⟨fun _ _ => rfl, fun _ _ => rfl, fun _ _ => rfl⟩
  obtain ⟨hmapping, -, -, hdefault⟩ := generate_mapping_agrees ⟨"static", .ok sampleRows⟩ {} 0
  refine ⟨hkeeps, hmapping relaxColumn hkeeps, hdefault ⟨some {}, some {}⟩ ?_ ?_⟩
  · intro n hn
    cases hn
    rfl
  · intro r hr
    cases hr
    rfl

end ValidatorGen
