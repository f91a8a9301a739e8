/-
What the model of a table defines: a constant for every enumeration that has a name, and an import
for every schema written by hand, each name once. `distinctBy` keeps the first member of every key
(`mem_distinctBy`, `map_distinctBy`). An extension may change every field of a column's model that
definitions and references are made of. **Even so the definitions are those of the models that came
back, and every expression that was left as it was refers to one of them** (`tableModel_defines`).
-/
import Mathlib.Data.List.Forall2
import ValidatorGen.Model.OfTable
import ValidatorGen.Proofs.Run

namespace ValidatorGen

open Validator

/-! ## The first of every key -/

section

variable {α κ : Type} [BEq κ] [LawfulBEq κ] {key : α → κ} {a : α} {as : List α}

/-- A member is kept if its key was not seen before and it is the first one with it. -/
theorem mem_distinctFrom {seen : List κ} : a ∈ distinctFrom key seen as ↔
    key a ∉ seen ∧ as.find? (fun b => key b == key a) = some a := by
  induction as generalizing seen with
  | nil => simp [distinctFrom]
  | cons b as ih =>
    rw [distinctFrom]
    by_cases hb : key b ∈ seen
    · rw [if_pos (List.contains_iff_mem.mpr hb), ih]
      refine and_congr_right fun ha => ?_
      have hne : key b ≠ key a := fun h => ha (h ▸ hb)
      rw [List.find?_cons_of_neg (by simpa using hne)]
    · rw [if_neg (by simpa using hb), List.mem_cons, ih]
      by_cases heq : key b = key a
      · rw [List.find?_cons_of_pos (by simpa using heq), Option.some.injEq, eq_comm (a := b)]
        simp [heq, heq ▸ hb]
      · have hne : a ≠ b := fun h => heq (by rw [h])
        rw [List.find?_cons_of_neg (by simpa using heq)]
        simp [hne, Ne.symm heq]

theorem mem_distinctBy : a ∈ distinctBy key as ↔
    as.find? (fun b => key b == key a) = some a := by
  simp [distinctBy, mem_distinctFrom]

theorem nodup_map_distinctFrom {seen : List κ} :
    ((distinctFrom key seen as).map key).Nodup := by
  induction as generalizing seen with
  | nil => exact .nil
  | cons b as ih =>
    rw [distinctFrom]
    split
    · exact ih
    · refine List.nodup_cons.mpr ⟨fun hmem => ?_, ih⟩
      obtain ⟨a, ha, hkey⟩ := List.mem_map.mp hmem
      have hnew := (mem_distinctFrom.mp ha).1
      exact hnew (hkey ▸ List.mem_cons_self)

theorem nodup_map_distinctBy : ((distinctBy key as).map key).Nodup := nodup_map_distinctFrom

theorem map_distinctFrom {seen : List κ} : (distinctFrom key seen as).map key
    = ((as.map key).filter fun k => !seen.contains k).eraseDups := by
  induction as generalizing seen with
  | nil => rfl
  | cons b as ih =>
    rw [distinctFrom, List.map_cons]
    by_cases hb : key b ∈ seen
    · rw [if_pos (List.contains_iff_mem.mpr hb), List.filter_cons_of_neg (by simpa using hb), ih]
    · rw [if_neg (by simpa using hb), List.filter_cons_of_pos (by simpa using hb),
        List.eraseDups_cons, List.map_cons, ih, List.filter_filter]
      congr 3
      funext k
      simp

/-- The keys that are kept are all keys, in the order in which they first appear. -/
theorem map_distinctBy : (distinctBy key as).map key = (as.map key).eraseDups := by
  have hall : (as.map key).filter (fun k => !([] : List κ).contains k) = as.map key :=
    List.filter_eq_self.mpr fun _ _ => rfl
  rw [distinctBy, map_distinctFrom, hall]

omit [LawfulBEq κ] in
theorem distinctFrom_map {β : Type} (f : β → α) (bs : List β) (seen : List κ) :
    distinctFrom key seen (bs.map f) = (distinctFrom (fun b => key (f b)) seen bs).map f := by
  induction bs generalizing seen with
  | nil => rfl
  | cons b bs ih =>
    simp only [List.map_cons, distinctFrom, ih]
    split <;> rfl

/-- Of a list that is told from its keys, the keys that are kept are all there is to say. -/
theorem distinctBy_map {f : κ → α} (h : ∀ k, key (f k) = k) (ks : List κ) :
    distinctBy key (ks.map f) = ks.eraseDups.map f := by
  have hkeys : (distinctBy id ks).map id = (ks.map id).eraseDups := map_distinctBy
  rw [List.map_id, List.map_id] at hkeys
  rw [distinctBy, distinctFrom_map, ← hkeys]
  simp only [h]
  rfl

end

/-! ## What is defined, and what is referred to -/

namespace ColumnModel

/-- The expression of a mode. -/
def expression (m : ColumnModel) : Mode → String
  | .read => m.readExpression
  | .write => m.writeExpression

end ColumnModel

/-- A model of a table defines what a validator starts with, if that is to be defined. -/
def TableModel.Defines (t : TableModel) : Base → Prop
  | .enumeration (.constant name) => name ∈ t.enums.map (·.constantName)
  | .reference name => name ∈ t.jsonImports.map (·.name)
  | _ => True

/-- The definitions in the model of a table are those of the given models of its columns. -/
structure TableModel.DefinesFor (config : Configuration) (answers : List ColumnModel)
    (t : TableModel) : Prop where
  enumNames : t.enums.map (·.constantName)
    = ((answers.filter (·.column.isEnum)).filterMap (·.enumName)).eraseDups
  enumNames_nodup : (t.enums.map (·.constantName)).Nodup
  /-- A constant lists the values of the first column that names it. -/
  enumValues : ∀ d ∈ t.enums, ∃ a,
    answers.find? (fun a => a.column.isEnum && a.enumName == some d.constantName) = some a ∧
      d.values = a.column.enumValues
  imports : ∀ location ∈ config.jsonImport, t.jsonImports
    = (answers.filterMap (·.jsonSchemaName)).eraseDups.map (⟨·, location⟩)
  importNames_nodup : (t.jsonImports.map (·.name)).Nodup
  noImports : config.jsonImport = none → t.jsonImports = []

/-- A model of a column as it stands in the model of its table, by what it was before an extension
saw it and by what came back. -/
structure ColumnModel.Settled (config : Configuration) (t : TableModel)
    (m before answer : ColumnModel) : Prop where
  column : m.column = answer.column
  propertyName : m.propertyName = answer.propertyName
  enumTypeName : m.enumTypeName = answer.enumTypeName
  identifiers : m.identifiers = answer.identifiers
  /-- An expression that was left is that of the column that came back. -/
  rendered : ∀ mode, answer.expression mode = before.expression mode →
    m.expression mode = m.column.render config m.identifiers mode
  /-- An expression that was left refers to what the table defines. -/
  defined : ∀ mode, answer.expression mode = before.expression mode →
    t.Defines (m.column.validator config m.identifiers mode).base
  /-- An expression that was changed is kept. -/
  kept : ∀ mode, answer.expression mode ≠ before.expression mode →
    m.expression mode = answer.expression mode

section

variable {config : Configuration} {t : Table} {m : ColumnModel} {ms : List ColumnModel}

theorem enumDefinition?_eq_some {table : String} {d : EnumDefinition} :
    m.enumDefinition? table config = some d ↔ m.column.isEnum = true ∧
      m.enumName = some d.constantName ∧ d.values = m.column.enumValues ∧
      d.typeName = m.enumTypeName.getD (Naming.enumTypeName table m.column.name config) := by
  obtain ⟨constantName, typeName, values⟩ := d
  rw [ColumnModel.enumDefinition?]
  split
  · next h =>
    simp only [h, Option.map_eq_some_iff, EnumDefinition.mk.injEq, true_and]
    constructor
    · rintro ⟨name, hname, rfl, rfl, rfl⟩
      exact ⟨hname, rfl, rfl⟩
    · rintro ⟨hname, rfl, rfl⟩
      exact ⟨constantName, hname, rfl, rfl, rfl⟩
  · next h => simp [h]

/-- The names of constants, before repetitions are left out. -/
theorem map_constantName_filterMap (table : String) (config : Configuration)
    (ms : List ColumnModel) :
    (ms.filterMap (·.enumDefinition? table config)).map (·.constantName)
      = (ms.filter (·.column.isEnum)).filterMap (·.enumName) := by
  rw [List.map_filterMap, List.filterMap_filter]
  congr 1
  funext m
  rw [ColumnModel.enumDefinition?]
  split
  · cases m.enumName <;> rfl
  · rfl

theorem map_jsonImport? {location : String} (h : config.jsonImport = some location)
    (ms : List ColumnModel) : ms.filterMap (·.jsonImport? config)
      = (ms.filterMap (·.jsonSchemaName)).map (⟨·, location⟩) := by
  rw [List.map_filterMap]
  congr 1
  funext m
  rw [ColumnModel.jsonImport?, h]
  cases m.jsonSchemaName <;> rfl

/-- A model of a table with the models of some columns defines what models of the same definitions
ask for. -/
theorem definesFor_ofColumns {answers : List ColumnModel}
    (henums : ms.filterMap (·.enumDefinition? t.name config)
      = answers.filterMap (·.enumDefinition? t.name config))
    (himports : ms.filterMap (·.jsonImport? config) = answers.filterMap (·.jsonImport? config)) :
    (TableModel.ofColumns t config ms).DefinesFor config answers := by
  constructor
  case enumNames =>
    rw [TableModel.ofColumns, map_distinctBy, henums, map_constantName_filterMap]
  case enumNames_nodup => exact nodup_map_distinctBy
  case enumValues =>
    intro d hd
    rw [TableModel.ofColumns, mem_distinctBy, henums, List.find?_filterMap,
      Option.bind_eq_some_iff] at hd
    obtain ⟨a, hfind, hdef⟩ := hd
    refine ⟨a, ?_, (enumDefinition?_eq_some.mp hdef).2.2.1⟩
    rw [← hfind]
    congr 1
    funext a
    rw [ColumnModel.enumDefinition?]
    cases a.column.isEnum with
    | false => rfl
    | true => cases a.enumName <;> simp
  case imports =>
    intro location hlocation
    rw [TableModel.ofColumns, himports, map_jsonImport? hlocation]
    exact distinctBy_map (fun _ => rfl) _
  case importNames_nodup => exact nodup_map_distinctBy
  case noImports =>
    intro hnone
    have hno : answers.filterMap (·.jsonImport? config) = [] := by
      refine List.filterMap_eq_nil_iff.mpr fun a _ => ?_
      rw [ColumnModel.jsonImport?, hnone]
      split <;> simp_all
    rw [TableModel.ofColumns, himports, hno]
    rfl

/-- What the validators of a table's columns start with is defined. -/
theorem defines_base (t : Table) (config : Configuration) (hm : m ∈ ms) (mode : Mode) :
    (TableModel.ofColumns t config ms).Defines
      (m.column.validator config m.identifiers mode).base := by
  have hleaf : (TableModel.ofColumns t config ms).Defines (m.column.leaf config mode) := by
    cases mode <;> trivial
  simp only [Column.validator, Column.base]
  split
  · next henum =>
    rw [Column.members?]
    cases hname : m.identifiers.enumConstant with
    | some name =>
      show name ∈ (TableModel.ofColumns t config ms).enums.map (·.constantName)
      rw [TableModel.ofColumns, map_distinctBy, List.mem_eraseDups, map_constantName_filterMap]
      exact List.mem_filterMap.mpr ⟨m, List.mem_filter.mpr ⟨hm, henum⟩, hname⟩
    | none =>
      simp only
      split
      · next members hmembers =>
        split at hmembers
        · cases hmembers
        · cases hmembers
          trivial
      · exact hleaf
  · rw [Column.reference?]
    split
    · next name hname =>
      split at hname
      · next hjson =>
        obtain ⟨-, hsome⟩ := Bool.and_eq_true_iff.mp hjson
        obtain ⟨location, hlocation⟩ := Option.isSome_iff_exists.mp hsome
        show name ∈ (TableModel.ofColumns t config ms).jsonImports.map (·.name)
        rw [TableModel.ofColumns, map_distinctBy, List.mem_eraseDups, map_jsonImport? hlocation,
          List.map_map]
        exact List.mem_map.mpr ⟨name, List.mem_filterMap.mpr ⟨m, hm, hname⟩, rfl⟩
      · cases hname
    · exact hleaf

/-! ## Extensions -/

/-- What becomes of a model that came back. -/
theorem settled_rerender (t : Table) {before answer : ColumnModel}
    (hmem : before.rerender answer config ∈ ms) :
    (before.rerender answer config).Settled config (.ofColumns t config ms) before answer where
  column := rfl
  propertyName := rfl
  enumTypeName := rfl
  identifiers := rfl
  rendered mode h := by
    cases mode <;> exact if_pos h
  defined mode _ := defines_base t config hmem mode
  kept mode h := by
    cases mode <;> exact if_neg h

/-- The models of a table's columns, before an extension sees them. -/
def Table.columnModels (config : Configuration) (t : Table) : List ColumnModel :=
  t.columns.map fun c => .ofColumn t.name c config

/-- An extension that never fails on columns sees all models of columns, and then the model of the
table that is made of what it answered. -/
theorem calls_tableModel (t : Table) (config : Configuration)
    (answer : String → ColumnModel → ColumnModel) (onTable : TableModel → Except Error TableModel) :
    (tableModel t config (some ⟨fun table m => .ok (answer table m), onTable⟩)).calls
      = (t.columnModels config).map (.columnModel t.name) ++
        [.tableModel (.ofColumns t config ((t.columnModels config).map fun before =>
          before.rerender (answer t.name before) config))] := by
  have hcolumns : (columnModels t config
      (some ⟨fun table m => .ok (answer table m), onTable⟩)).Follows (fun _ => none)
        ((t.columnModels config).flatMap fun m => [.columnModel t.name m])
        ((t.columnModels config).map fun before =>
          before.rerender (answer t.name before) config) :=
    .mapM fun before _ => .complete (fun _ _ => rfl) rfl rfl
  rw [← List.map_eq_flatMap] at hcolumns
  obtain ⟨hcalls, hresult⟩ := hcolumns.complete_iff.mpr fun _ _ => rfl
  rw [tableModel, Run.calls_bind_of_ok hresult, hcalls]
  congr 1
  -- the model of the table is shown whether or not the extension fails on it
  rw [hookTableModel]
  cases hanswer : onTable (.ofColumns t config ((t.columnModels config).map fun before =>
    before.rerender (answer t.name before) config)) with
  | error e => exact (Run.bind_of_error hanswer).1
  | ok m => exact Run.calls_bind_of_ok hanswer

end

/-- **Whatever an extension makes of columns, the model of their table defines what they refer
to.** -/
theorem tableModel_defines (t : Table) (config : Configuration)
    (answer : String → ColumnModel → ColumnModel) (onTable : TableModel → Except Error TableModel) :
    ∃ m : TableModel,
      (tableModel t config (some ⟨fun table m => .ok (answer table m), onTable⟩)).calls
        = (t.columnModels config).map (.columnModel t.name) ++ [.tableModel m] ∧
      m.DefinesFor config ((t.columnModels config).map (answer t.name)) ∧
      List.Forall₂ (fun before final => final.Settled config m before (answer t.name before))
        (t.columnModels config) m.columns := by
  refine ⟨_, calls_tableModel t config answer onTable, ?_, ?_⟩
  · refine definesFor_ofColumns ?_ ?_
    · rw [List.filterMap_map, List.filterMap_map]
      rfl
    · rw [List.filterMap_map, List.filterMap_map]
      rfl
  · rw [TableModel.ofColumns, List.forall₂_map_right_iff, List.forall₂_same]
    exact fun before hbefore => settled_rerender t (List.mem_map_of_mem hbefore)

end ValidatorGen
