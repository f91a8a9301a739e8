/-
Names within a table. All names of a column are told from its own name, and two columns clash when
casing gives their names one form: `SameProperty`, `SameConstant` and `SameType` say when it does.
**The names in the model of a table are distinct just if no two columns are the same to the casing;
an enumeration refers to a constant that the model defines, and the constant lists its own values
if the columns that are the same to it list no others** (`tableModel_keepsApart`). Names in ASCII do
not clash as long as their forms in pascal case differ. Distinct names alone are not enough
(`not_noClash_orders`).
-/
import ValidatorGen.Proofs.Generate.Hookless
import ValidatorGen.Proofs.Identifier.Casing
import ValidatorGen.Proofs.Model.Definitions
import ValidatorGen.Proofs.Validator.Dialects

namespace ValidatorGen

open Identifier Text Validator

namespace Naming

/-- Two columns of these names get one property. -/
def SameProperty (config : Configuration) (a b : String) : Prop :=
  if config.caseTransform then config.fieldCasing.Merges true a.toList b.toList else a = b

/-- Two enumerations of these names get one constant, whatever the table. -/
def SameConstant (a b : String) : Prop := constantWords a.toList = constantWords b.toList

/-- Two enumerations of these names get one type; the names lead if that of the entity has no
words. -/
def SameType (table : String) (config : Configuration) (a b : String) : Prop :=
  config.objectCasing.Merges (splitWords (entityName table config).toList).isEmpty
    a.toList b.toList

variable {config : Configuration} {table a b : String}

theorem propertyName_inj :
    propertyName a config = propertyName b config ↔ SameProperty config a b := by
  unfold propertyName SameProperty
  split
  · exact String.ofList_inj.trans apply_inj
  · exact Iff.rfl

theorem enumConstantName_inj :
    enumConstantName table a config = enumConstantName table b config ↔ SameConstant a b := by
  rw [enumConstantName, enumConstantName, constantCase, constantCase, String.ofList_inj, compose,
    compose, String.toList_ofList, String.toList_ofList]
  exact constant_compose_inj

theorem enumTypeName_inj :
    enumTypeName table a config = enumTypeName table b config ↔ SameType table config a b :=
  String.ofList_inj.trans composeChars_inj

/-! ## ASCII names -/

section

variable (ha : ∀ x ∈ a.toList, isAscii x = true) (hb : ∀ x ∈ b.toList, isAscii x = true)

include ha hb

theorem SameProperty.pascal_eq (h : SameProperty config a b) : pascalCase a = pascalCase b := by
  unfold SameProperty at h
  split at h
  · exact String.ofList_inj.mpr (h.pascal_eq ha hb)
  · exact congrArg pascalCase h

theorem SameConstant.pascal_eq (h : SameConstant a b) : pascalCase a = pascalCase b :=
  String.ofList_inj.mpr (pascal_eq_of_constantWords ha hb h)

theorem SameType.pascal_eq (h : SameType table config a b) : pascalCase a = pascalCase b :=
  String.ofList_inj.mpr (Casing.Merges.pascal_eq h ha hb)

end

end Naming

open Naming

/-! ## Names in the model of a table -/

/-- What the expressions of an enumeration's column refer to is defined. The texts say so: what is
read in them starts from the constant. -/
structure TableModel.Lists (config : Configuration) (t : TableModel) (m : ColumnModel)
    (d : EnumDefinition) : Prop where
  mem : d ∈ t.enums
  name : m.enumName = some d.constantName
  expression : ∀ mode, m.expression mode
    = config.dialect.spell ⟨.enumeration (.constant d.constantName), m.column.steps config mode⟩
  refers : ∀ mode, ∃ reading, config.dialect.Says m.identifiers (m.expression mode) reading ∧
    reading.head = .enumeration (.constant d.constantName)

/-- No names of columns clash, and every enumeration is defined by its own values. -/
structure TableModel.NoClash (config : Configuration) (t : TableModel) : Prop where
  properties : (t.columns.map (·.propertyName)).Nodup
  constants : (t.columns.filterMap (·.enumName)).Nodup
  types : (t.columns.filterMap (·.enumTypeName)).Nodup
  ownValues : ∀ m ∈ t.columns, m.column.isEnum = true →
    ∃ d, t.Lists config m d ∧ d.values = m.column.enumValues

/-- Which names of columns are kept apart by the model of their table, and what its definitions
hold. -/
structure TableModel.KeepsApart (config : Configuration) (t : Table) (m : TableModel) : Prop where
  properties : (m.columns.map (·.propertyName)).Nodup ↔
    (t.columns.map (·.name)).Pairwise fun a b => ¬ SameProperty config a b
  constants : (m.columns.filterMap (·.enumName)).Nodup ↔
    ((t.columns.filter (·.isEnum)).map (·.name)).Pairwise fun a b => ¬ SameConstant a b
  types : (m.columns.filterMap (·.enumTypeName)).Nodup ↔
    ((t.columns.filter (·.isEnum)).map (·.name)).Pairwise fun a b => ¬ SameType t.name config a b
  definitions : ∀ cm ∈ m.columns, cm.column.isEnum = true → ∃ d, m.Lists config cm d ∧
    ((∀ c ∈ t.columns, c.isEnum = true → SameConstant c.name cm.column.name →
      c.enumValues = cm.column.enumValues) → d.values = cm.column.enumValues)
  /-- Whatever the configuration, names in ASCII do not clash if they differ in pascal case. -/
  ascii : (∀ c ∈ t.columns, ∀ x ∈ c.name.toList, isAscii x = true) →
    (t.columns.map fun c => pascalCase c.name).Nodup → m.NoClash config

section

variable {config : Configuration} {t : Table}

/-- Keys are distinct if no two names are the same to them. -/
theorem nodup_map_iff {α : Type} {key name : α → String} {Same : String → String → Prop}
    (h : ∀ a b, key a = key b ↔ Same (name a) (name b)) (as : List α) :
    (as.map key).Nodup ↔ (as.map name).Pairwise fun a b => ¬ Same a b := by
  rw [List.Nodup, List.pairwise_map, List.pairwise_map]
  exact List.Pairwise.iff fun a b => not_congr (h a b)

theorem properties_model : ((t.model config).columns.map (·.propertyName)).Nodup ↔
    (t.columns.map (·.name)).Pairwise fun a b => ¬ SameProperty config a b := by
  show ((t.columns.map _).map _).Nodup ↔ _
  rw [List.map_map]
  exact nodup_map_iff (fun _ _ => propertyName_inj) _

/-- Names that enumerations alone have. -/
theorem nodup_enumNames_iff (field : ColumnModel → Option String) (name : String → String)
    {Same : String → String → Prop} (hfield : ∀ c, field (.ofColumn t.name c config)
      = if c.isEnum then some (name c.name) else none)
    (h : ∀ a b, name a = name b ↔ Same a b) : ((t.model config).columns.filterMap field).Nodup ↔
      ((t.columns.filter (·.isEnum)).map (·.name)).Pairwise fun a b => ¬ Same a b := by
  have hnames : (t.model config).columns.filterMap field
      = (t.columns.filter (·.isEnum)).map fun c => name c.name := by
    show (t.columns.map _).filterMap field = _
    rw [List.filterMap_map, ← List.filterMap_eq_map, List.filterMap_filter]
    exact congrArg (List.filterMap · t.columns) (funext hfield)
  rw [hnames]
  exact nodup_map_iff (fun _ _ => h _ _) _

theorem constants_model : ((t.model config).columns.filterMap (·.enumName)).Nodup ↔
    ((t.columns.filter (·.isEnum)).map (·.name)).Pairwise fun a b => ¬ SameConstant a b :=
  nodup_enumNames_iff _ (enumConstantName t.name · config) (fun _ => rfl) fun _ _ =>
    enumConstantName_inj

theorem types_model : ((t.model config).columns.filterMap (·.enumTypeName)).Nodup ↔
    ((t.columns.filter (·.isEnum)).map (·.name)).Pairwise fun a b =>
      ¬ SameType t.name config a b :=
  nodup_enumNames_iff _ (enumTypeName t.name · config) (fun _ => rfl) fun _ _ => enumTypeName_inj

theorem base_of_isEnum {c : Column} (henum : c.isEnum = true) (mode : Mode) :
    c.base config (columnIdentifiers t.name c config) mode
      = .enumeration (.constant (enumConstantName t.name c.name config)) := by
  have hconstant : (columnIdentifiers t.name c config).enumConstant
      = some (enumConstantName t.name c.name config) := if_pos henum
  rw [Column.base, if_pos henum, Column.members?, hconstant]

theorem expression_eq_render {c : Column} (mode : Mode) :
    (ColumnModel.ofColumn t.name c config).expression mode
      = c.render config (columnIdentifiers t.name c config) mode := by
  cases mode <;> rfl

/-- An enumeration's expressions start with its constant. -/
theorem expression_ofColumn {c : Column} (henum : c.isEnum = true) (mode : Mode) :
    (ColumnModel.ofColumn t.name c config).expression mode = config.dialect.spell
      ⟨.enumeration (.constant (enumConstantName t.name c.name config)), c.steps config mode⟩ := by
  rw [expression_eq_render, Column.render, Column.validator, base_of_isEnum henum]

/-- The constant is what is read first in an enumeration's expressions. -/
theorem refers_ofColumn {c : Column} (henum : c.isEnum = true) (mode : Mode) : ∃ reading,
    config.dialect.Says (columnIdentifiers t.name c config)
        ((ColumnModel.ofColumn t.name c config).expression mode) reading ∧
      reading.head = .enumeration (.constant (enumConstantName t.name c.name config)) := by
  refine ⟨_, expression_eq_render (t := t) mode ▸ c.says_render config _ mode, ?_⟩
  rw [Column.reading, base_of_isEnum henum]
  rfl

/-- The definitions in the model of a table are those of its enumerations. -/
theorem mem_enums_model {d : EnumDefinition} (h : d ∈ (t.model config).enums) :
    ∃ c ∈ t.columns, c.isEnum = true ∧
      d.constantName = enumConstantName t.name c.name config ∧ d.values = c.enumValues := by
  have hmem := List.mem_of_find?_eq_some (mem_distinctBy.mp h)
  obtain ⟨m, hm, hdef⟩ := List.mem_filterMap.mp hmem
  obtain ⟨c, hc, rfl⟩ := List.mem_map.mp hm
  obtain ⟨henum, hname, hvalues, -⟩ := enumDefinition?_eq_some.mp hdef
  have hconstant : some (enumConstantName t.name c.name config) = some d.constantName :=
    (if_pos henum).symm.trans hname
  exact ⟨c, hc, henum, (Option.some.inj hconstant).symm, hvalues⟩

/-- **The constant of an enumeration is defined**; it lists the values of a column that is the same
to it. -/
theorem exists_lists_model {c : Column} (hc : c ∈ t.columns) (henum : c.isEnum = true) :
    ∃ d, (t.model config).Lists config (.ofColumn t.name c config) d ∧
      ∃ c' ∈ t.columns, c'.isEnum = true ∧ SameConstant c'.name c.name ∧
        d.values = c'.enumValues := by
  have hname : (ColumnModel.ofColumn t.name c config).enumName
      = some (enumConstantName t.name c.name config) := if_pos henum
  have hdefined : enumConstantName t.name c.name config
      ∈ (t.model config).enums.map (·.constantName) := by
    rw [Table.model, TableModel.ofColumns, map_distinctBy, List.mem_eraseDups,
      map_constantName_filterMap]
    exact List.mem_filterMap.mpr
      ⟨_, List.mem_filter.mpr ⟨List.mem_map_of_mem hc, henum⟩, hname⟩
  obtain ⟨d, hd, hconstant⟩ := List.mem_map.mp hdefined
  obtain ⟨c', hc', henum', hconstant', hvalues⟩ := mem_enums_model hd
  refine ⟨d, ⟨hd, hconstant ▸ hname, fun mode => ?_, fun mode => ?_⟩, c', hc', henum', ?_, hvalues⟩
  · rw [hconstant]
    exact expression_ofColumn henum mode
  · rw [hconstant]
    exact refers_ofColumn henum mode
  · exact enumConstantName_inj.mp (hconstant'.symm.trans hconstant)

/-- Names that differ in pascal case are not the same to what goes by it. -/
theorem pairwise_of_pascal {Same : String → String → Prop} {cs : List Column}
    (hascii : ∀ c ∈ cs, ∀ x ∈ c.name.toList, isAscii x = true)
    (hpascal : (cs.map fun c => pascalCase c.name).Nodup)
    (hsame : ∀ {a b : String}, (∀ x ∈ a.toList, isAscii x = true) →
      (∀ x ∈ b.toList, isAscii x = true) → Same a b → pascalCase a = pascalCase b) :
    (cs.map (·.name)).Pairwise fun a b => ¬ Same a b := by
  rw [List.Nodup, List.pairwise_map] at hpascal
  rw [List.pairwise_map]
  exact hpascal.imp_of_mem fun ha hb hne h => hne (hsame (hascii _ ha) (hascii _ hb) h)

/-- **ASCII names that differ in pascal case do not clash.** -/
theorem noClash_model (hascii : ∀ c ∈ t.columns, ∀ x ∈ c.name.toList, isAscii x = true)
    (hpascal : (t.columns.map fun c => pascalCase c.name).Nodup) :
    (t.model config).NoClash config := by
  have hascii' : ∀ c ∈ t.columns.filter (·.isEnum), ∀ x ∈ c.name.toList, isAscii x = true :=
    fun c hc => hascii c (List.mem_of_mem_filter hc)
  have hpascal' : ((t.columns.filter (·.isEnum)).map fun c => pascalCase c.name).Nodup :=
    hpascal.sublist (List.filter_sublist.map _)
  constructor
  case properties =>
    exact properties_model.mpr (pairwise_of_pascal hascii hpascal SameProperty.pascal_eq)
  case constants =>
    exact constants_model.mpr (pairwise_of_pascal hascii' hpascal' SameConstant.pascal_eq)
  case types =>
    exact types_model.mpr (pairwise_of_pascal hascii' hpascal' SameType.pascal_eq)
  case ownValues =>
    intro m hm henum
    obtain ⟨c, hc, rfl⟩ := List.mem_map.mp hm
    obtain ⟨d, hlists, c', hc', -, hsame, hvalues⟩ := exists_lists_model hc henum
    have hform := hsame.pascal_eq (hascii c' hc') (hascii c hc)
    obtain rfl : c' = c := List.inj_on_of_nodup_map hpascal hc' hc hform
    exact ⟨d, hlists, hvalues⟩

end

/-- **Without an extension, the names in the model of a table are distinct just if casing keeps the
names of its columns apart, and enumerations that are kept apart are defined by their own
values.** -/
theorem tableModel_keepsApart (t : Table) (config : Configuration) :
    ∃ m, (tableModel t config none).result = .ok m ∧ m.columns.map (·.column) = t.columns ∧
      m.KeepsApart config t := by
  refine ⟨t.model config, rfl, ?_, properties_model, constants_model, types_model, ?_,
    noClash_model⟩
  · show (t.columns.map _).map _ = _
    rw [List.map_map]
    exact List.map_id _
  · intro cm hcm henum
    obtain ⟨c, hc, rfl⟩ := List.mem_map.mp hcm
    obtain ⟨d, hlists, c', hc', henum', hsame, hvalues⟩ := exists_lists_model hc henum
    exact ⟨d, hlists, fun hall => hvalues.trans (hall c' hc' henum' hsame)⟩

/-- A table with two enumerations that differ in every casing. -/
def parcels : Table where
  name := "parcels"
  schema := "public"
  kind := .table
  columns :=
    [{ Column.ofType "shipState" .string with isEnum := true, enumValues := ["sent", "lost"] },
      .ofType "paid_at" .date,
      { Column.ofType "ship_class" .string with isEnum := true, enumValues := ["air", "sea"] }]

theorem tableModel_keepsApart_parcels : ∃ m,
    (tableModel parcels { caseTransform := true } none).result = .ok m ∧
      m.NoClash { caseTransform := true } := by
  obtain ⟨m, hm, -, h⟩ := tableModel_keepsApart parcels { caseTransform := true }
  have hascii : parcels.columns.all (fun c => c.name.toList.all isAscii) = true := by decide
  refine ⟨m, hm, h.ascii (fun c hc => ?_) (by decide)⟩
  exact List.all_eq_true.mp (List.all_eq_true.mp hascii c hc)

/-- A table with two enumerations that no casing but the source spelling tells apart. -/
def orders : Table where
  name := "orders"
  schema := "public"
  kind := .table
  columns :=
    [{ Column.ofType "ship_state" .string with isEnum := true, enumValues := ["sent"] },
      { Column.ofType "shipState" .string with isEnum := true, enumValues := ["lost"] }]

theorem not_noClash_orders : (orders.columns.map (·.name)).Nodup ∧
    ∃ m, (tableModel orders { caseTransform := true } none).result = .ok m ∧
      ¬ (m.columns.map (·.propertyName)).Nodup ∧
      ¬ (m.columns.filterMap (·.enumName)).Nodup ∧
      ¬ (m.columns.filterMap (·.enumTypeName)).Nodup ∧
      m.columns.map (·.column.enumValues) = [["sent"], ["lost"]] ∧
      m.enums.map (·.values) = [["sent"]] := by
  refine ⟨by decide, orders.model { caseTransform := true }, rfl, ?_, ?_, ?_, rfl, ?_⟩
  all_goals decide +kernel

end ValidatorGen
