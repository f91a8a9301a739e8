/-
Settings written down, as variables and as options of a command line. Each setting is read back from
its variable (`readVariable_text`) and from its options (`says?_argument`), if its texts can be
written down at all (`Setting.IsPlain`). **So a layer is read back from its variables, in any order
and among any others, and from its options, in any order that leaves the names of tables in theirs**
(`reads_back`).
-/
import Mathlib.Data.List.Nodup
import ValidatorGen.CommandLine.Command
import ValidatorGen.Proofs.CommandLine.Options
import ValidatorGen.Proofs.Settings.Variables
import ValidatorGen.Proofs.Text.Blank

namespace ValidatorGen

open CommandLine

/-! ## Writing settings down -/

/-- A text that says something, without white space at either end. -/
def IsBare (s : String) : Prop := s ≠ "" ∧ Text.Tight s.toList

/-- A filter that can be written down: a bare pattern, or bare names without commas. -/
def TableFilter.IsPlain : TableFilter → Prop
  | .pattern p => IsBare p
  | .names list => list ≠ [] ∧ ∀ name ∈ list, IsBare name ∧ ',' ∉ name.toList

/-- A filter by pattern. -/
def TableFilter.isPattern : TableFilter → Bool
  | .pattern _ => true
  | .names _ => false

namespace Setting

/-- A setting that can be written down. -/
def IsPlain : Setting → Prop
  | .jsonImport v => IsBare v
  | .schemaName v => IsBare v
  | .included f => f.IsPlain
  | .excluded f => f.IsPlain
  | _ => True

/-- The value of a setting as one text, in which names stand between commas. -/
def text : Setting → String
  | .dialect v => v.label
  | .fieldCasing v => v.label
  | .objectCasing v => v.label
  | .caseTransform v => toString v
  | .singularize v => toString v
  | .coerceDatesOnRead v => toString v
  | .stringifyDatesOnWrite v => toString v
  | .stringifyJsonOnWrite v => toString v
  | .emptyArrayDefault v => toString v
  | .undefinedDefault v => toString v
  | .typeFallback v => v.label
  | .jsonImport v => v
  | .schemaName v => v
  | .included (.pattern p) => p
  | .included (.names list) => ",".intercalate list
  | .excluded (.pattern p) => p
  | .excluded (.names list) => ",".intercalate list

/-- The name of the option of a setting on a command line. -/
def optionName : Setting → String
  | .dialect _ => "dialect"
  | .fieldCasing _ => "field-casing"
  | .objectCasing _ => "object-casing"
  | .caseTransform _ => "case-transform"
  | .singularize _ => "singularize"
  | .coerceDatesOnRead _ => "coerce-dates-on-read"
  | .stringifyDatesOnWrite _ => "stringify-dates"
  | .stringifyJsonOnWrite _ => "stringify-json"
  | .emptyArrayDefault _ => "default-empty-array"
  | .undefinedDefault _ => "default-undefined"
  | .typeFallback _ => "unknown-type-fallback"
  | .jsonImport _ => "json-schema-import"
  | .schemaName _ => "schema"
  | .included (.pattern _) => "include"
  | .included (.names _) => "include-table"
  | .excluded (.pattern _) => "exclude"
  | .excluded (.names _) => "exclude-table"

/-- The values of the options of a setting: each name has an option of its own. -/
def texts : Setting → List String
  | .included (.names list) => list
  | .excluded (.names list) => list
  | s => [s.text]

/-- What an option of a setting says. -/
def argument : Setting → String → Argument
  | .included (.names _), name => .includedTable name
  | .excluded (.names _), name => .excludedTable name
  | s, _ => .set s

/-- One option makes the setting; a filter of names is made by the options of all its names. -/
def isAlone : Setting → Bool
  | .included (.names _) => false
  | .excluded (.names _) => false
  | _ => true

/-- The options of a setting, with their values. -/
def options (s : Setting) : List (String × String) := s.texts.map (s.optionName, ·)

end Setting

namespace Overrides

/-- All settings of a layer can be written down. -/
def IsPlain (o : Overrides) : Prop := ∀ s ∈ o.settings, s.IsPlain

/-- The variables of a layer, with their values. -/
def environment (o : Overrides) : List (String × String) :=
  o.settings.map fun s => (s.variableName, s.text)

/-- The options of a layer on a command line, with their values. -/
def options (o : Overrides) : List (String × String) := o.settings.flatMap Setting.options

end Overrides

section

variable {o : Overrides} {s : Setting} {pairs others : List (String × String)} {input : String}
  {words : List (String × String)}

/-! ## Variables -/

theorem IsBare.toList_ne_nil {v : String} (h : IsBare v) : v.toList ≠ [] := fun hnil =>
  h.1 (String.toList_inj.mp hnil)

/-- Bare text is left as it is. -/
theorem IsBare.trim_eq {v : String} (h : IsBare v) : String.ofList (Text.trim v.toList) = v := by
  rw [h.2.trim_eq, String.ofList_toList]

/-- Names between commas are cut at the commas alone. -/
theorem splitNames_intercalate {list : List String} (h : (TableFilter.names list).IsPlain) :
    Environment.splitNames (String.ofList (Text.trim (",".intercalate list).toList)) = list := by
  obtain ⟨hne, hlist⟩ := h
  have hpieces : ∀ w ∈ list.map String.toList, Text.Tight w ∧ w ≠ [] ∧ ',' ∉ w := by
    intro w hw
    obtain ⟨name, hname, rfl⟩ := List.mem_map.mp hw
    obtain ⟨hbare, hcomma⟩ := hlist name hname
    exact ⟨hbare.2, hbare.toList_ne_nil, hcomma⟩
  have hchars : (",".intercalate list).toList = [','].intercalate (list.map String.toList) :=
    String.toList_intercalate
  have hvalue : Text.trim (",".intercalate list).toList = (",".intercalate list).toList := by
    rw [hchars]
    exact (Text.tight_intercalate (fun w hw => ⟨(hpieces w hw).1, (hpieces w hw).2.1⟩) _).trim_eq
  have hfields : Text.fields (· == ',') (",".intercalate list).toList = list.map String.toList := by
    rw [hchars]
    exact Text.fields_intercalate (by simpa using hne) fun w hw => (hpieces w hw).2.2
  have htrim : (list.map String.toList).map Text.trim = list.map String.toList :=
    (List.map_congr_left fun w hw => (hpieces w hw).1.trim_eq).trans (List.map_id _)
  have hkeep : (list.map String.toList).filter (· ≠ []) = list.map String.toList :=
    List.filter_eq_self.mpr fun w hw => decide_eq_true (hpieces w hw).2.1
  rw [hvalue, Environment.splitNames, String.toList_ofList, hfields, htrim, hkeep, List.map_map]
  exact (List.map_congr_left fun name _ => String.ofList_toList).trans (List.map_id list)

theorem readVariable_bare {wrap : String → Setting} {name v : String}
    (hname : Environment.reader? name = some (.text wrap)) (hv : IsBare v) :
    Environment.readVariable name v = .ok (some (wrap v)) := by
  rw [Environment.readVariable_of_text hname, hv.trim_eq]

theorem readVariable_names (wrap : List String → Setting) {name : String} {list : List String}
    (hname : Environment.reader? name = some (.text fun v => wrap (Environment.splitNames v)))
    (hlist : (TableFilter.names list).IsPlain) :
    Environment.readVariable name (",".intercalate list) = .ok (some (wrap list)) := by
  rw [Environment.readVariable_of_text hname, splitNames_intercalate hlist]

theorem Dialect.parse_label (v : Dialect) :
    parse (String.ofList (Text.trim v.label.toList)) = .ok v := by
  cases v <;> with_unfolding_all rfl

theorem Casing.parse_label (v : Casing) :
    parse (String.ofList (Text.trim v.label.toList)) = .ok v := by
  cases v <;> with_unfolding_all rfl

theorem TypeFallback.parse_label (v : TypeFallback) :
    parse (String.ofList (Text.trim v.label.toList)) = .ok v := by
  cases v <;> with_unfolding_all rfl

/-- A choice is read from its variable by its label. -/
theorem readVariable_label {β : Type} (parse : String → Except ConfigurationFault β)
    {wrap : β → Setting} {name label : String}
    (hname : Environment.reader? name = some (.choice parse wrap)) {v : β}
    (hv : parse (String.ofList (Text.trim label.toList)) = .ok v) :
    Environment.readVariable name label = .ok (some (wrap v)) := by
  refine Environment.readVariable_eq_ok hname ?_
  rw [Reader.choice, hv]
  rfl

/-- A truth value is read from its variable. -/
theorem readVariable_truth {wrap : Bool → Setting} {name : String}
    (hname : Environment.reader? name = some (.truth Environment.readBoolean wrap)) (v : Bool) :
    Environment.readVariable name (toString v) = .ok (some (wrap v)) := by
  have hv : Environment.readBoolean (String.ofList (Text.trim (toString v).toList)) = .ok v := by
    cases v <;> with_unfolding_all rfl
  refine Environment.readVariable_eq_ok hname ?_
  rw [Reader.truth, hv]
  rfl

/-- **A setting is read back from its variable.** -/
theorem readVariable_text (h : s.IsPlain) :
    Environment.readVariable s.variableName s.text = .ok (some s) := by
  cases s with
  | dialect v =>
    rw [Setting.variableName, Setting.text]
    exact readVariable_label Dialect.parse rfl v.parse_label
  | fieldCasing v | objectCasing v =>
    rw [Setting.variableName, Setting.text]
    exact readVariable_label Casing.parse rfl v.parse_label
  | typeFallback v =>
    rw [Setting.variableName, Setting.text]
    exact readVariable_label TypeFallback.parse rfl v.parse_label
  | caseTransform v | singularize v | coerceDatesOnRead v | stringifyDatesOnWrite v
  | stringifyJsonOnWrite v | emptyArrayDefault v | undefinedDefault v =>
    rw [Setting.variableName, Setting.text]
    exact readVariable_truth rfl v
  | jsonImport v =>
    have hreader : Environment.reader? "SCHEMAFORGE_JSON_SCHEMA_IMPORT_LOCATION"
        = some (.text .jsonImport) := rfl
    exact readVariable_bare hreader h
  | schemaName v =>
    have hreader : Environment.reader? "SCHEMAFORGE_SCHEMA_NAME" = some (.text .schemaName) := rfl
    exact readVariable_bare hreader h
  | included f =>
    cases f with
    | pattern p =>
      have hreader : Environment.reader? "SCHEMAFORGE_INCLUDE"
          = some (.text fun value => .included (.pattern value)) := rfl
      exact readVariable_bare hreader h
    | names list =>
      have hreader : Environment.reader? "SCHEMAFORGE_INCLUDE_TABLES"
          = some (.text fun value => .included (.names (Environment.splitNames value))) := rfl
      exact readVariable_names (fun list => .included (.names list)) hreader h
  | excluded f =>
    cases f with
    | pattern p =>
      have hreader : Environment.reader? "SCHEMAFORGE_EXCLUDE"
          = some (.text fun value => .excluded (.pattern value)) := rfl
      exact readVariable_bare hreader h
    | names list =>
      have hreader : Environment.reader? "SCHEMAFORGE_EXCLUDE_TABLES"
          = some (.text fun value => .excluded (.names (Environment.splitNames value))) := rfl
      exact readVariable_names (fun list => .excluded (.names list)) hreader h

/-- Other variables are passed over. -/
theorem reader?_eq_none {name : String} (h : name ∉ Environment.names) :
    Environment.reader? name = none := by
  by_contra hreader
  obtain ⟨read, hread⟩ := Option.ne_none_iff_exists'.mp hreader
  obtain ⟨p, hp, -, rfl⟩ := Environment.exists_of_reader? hread
  exact h (List.mem_map_of_mem (f := fun p : String × Reader Setting => Environment.mark ++ p.1) hp)

/-- **A layer is read back from its variables**, in any order and among any others. -/
theorem overrides_environment (ho : o.IsPlain) (hothers : ∀ p ∈ others, p.1 ∉ Environment.names)
    (hperm : pairs.Perm (o.environment ++ others)) : Environment.overrides pairs = .ok o := by
  have hown : ∀ s ∈ o.settings, Environment.readVariable s.variableName s.text = .ok (some s) :=
    fun s hs => readVariable_text (ho s hs)
  have hother : ∀ p ∈ others, Environment.readVariable p.1 p.2 = .ok none := fun p hp => by
    rw [Environment.readVariable, reader?_eq_none (hothers p hp)]
  have hreadable : pairs.all Environment.isReadable = true := by
    rw [hperm.all_eq, List.all_append, Bool.and_eq_true, List.all_eq_true, List.all_eq_true]
    constructor
    · intro p hp
      obtain ⟨s, hs, rfl⟩ := List.mem_map.mp hp
      rw [Environment.isReadable, hown s hs]
      rfl
    · intro p hp
      rw [Environment.isReadable, hother p hp]
      rfl
  have hsettings : (o.environment ++ others).filterMap Environment.setting? = o.settings := by
    have hown : o.environment.filterMap Environment.setting? = o.settings := by
      rw [Overrides.environment, List.filterMap_map]
      refine (List.filterMap_congr fun s hs => ?_).trans List.filterMap_some
      rw [Function.comp_apply, Environment.setting?, hown s hs]
      rfl
    have hother : others.filterMap Environment.setting? = [] :=
      List.filterMap_eq_nil_iff.mpr fun p hp => by
        rw [Environment.setting?, hother p hp]
        rfl
    rw [List.filterMap_append, hown, hother, List.append_nil]
  have hlayer := Environment.toOption_overrides pairs
  rw [if_pos hreadable,
    Overrides.ofSettings_of_perm ((hperm.filterMap _).trans (.of_eq hsettings))] at hlayer
  cases hresult : Environment.overrides pairs with
  | error e =>
    rw [hresult] at hlayer
    cases hlayer
  | ok o' =>
    rw [hresult] at hlayer
    rw [Option.some.inj hlayer]

/-! ## Options -/

/-- **A setting is read back from its options.** -/
theorem says?_argument {v : String} (hv : v ∈ s.texts) :
    says? generateRules (s.optionName, v) = some (s.argument v) := by
  cases s with
  | included f | excluded f =>
    cases f with
    | pattern p =>
      obtain rfl := List.mem_singleton.mp hv
      rfl
    | names list => rfl
  | dialect w | fieldCasing w | objectCasing w | typeFallback w | caseTransform w | singularize w
  | coerceDatesOnRead w | stringifyDatesOnWrite w | stringifyJsonOnWrite w | emptyArrayDefault w
  | undefinedDefault w =>
    obtain rfl := List.mem_singleton.mp hv
    cases w <;> rfl
  | jsonImport w | schemaName w =>
    obtain rfl := List.mem_singleton.mp hv
    rfl

/-- An option of a setting says the setting itself, or one of its names. -/
theorem argument_cases (s : Setting) (v : String) :
    s.argument v = .set s ∨ s.argument v = .includedTable v ∨ s.argument v = .excludedTable v := by
  cases s with
  | included f =>
    cases f with
    | pattern p => exact .inl rfl
    | names list => exact .inr (.inl rfl)
  | excluded f =>
    cases f with
    | pattern p => exact .inl rfl
    | names list => exact .inr (.inr rfl)
  | _ => exact .inl rfl

theorem namesOptions_generateRules : NamesOptions generateRules := by
  unfold NamesOptions
  decide

theorem mem_options {p : String × String} :
    p ∈ o.options ↔ ∃ s ∈ o.settings, ∃ v ∈ s.texts, (s.optionName, v) = p := by
  simp only [Overrides.options, Setting.options, List.mem_flatMap, List.mem_map]

/-- Settings that share the name of an option are of one option. -/
theorem ctorIdx_of_optionName {t : Setting} (h : s.optionName = t.optionName) :
    s.ctorIdx = t.ctorIdx := by
  have hlookup : ∀ s : Setting, [("dialect", 0), ("field-casing", 1), ("object-casing", 2),
      ("case-transform", 3), ("singularize", 4), ("coerce-dates-on-read", 5),
      ("stringify-dates", 6), ("stringify-json", 7), ("default-empty-array", 8),
      ("default-undefined", 9), ("unknown-type-fallback", 10), ("json-schema-import", 11),
      ("schema", 12), ("include", 13), ("include-table", 13), ("exclude", 14),
      ("exclude-table", 14)].lookup s.optionName = some s.ctorIdx := fun s => by
    cases s with
    | included f | excluded f => cases f <;> rfl
    | _ => rfl
  rw [← Option.some_inj, ← hlookup, ← hlookup, h]

theorem eq_of_optionName {t : Setting} (hs : s ∈ o.settings) (ht : t ∈ o.settings)
    (h : s.optionName = t.optionName) : s = t :=
  List.inj_on_of_nodup_map (Overrides.nodup_settings o) hs ht (ctorIdx_of_optionName h)

theorem optionName_ne_input : s.optionName ≠ "input" := by
  cases s with
  | included f | excluded f => cases f <;> exact ne_of_beq_false rfl
  | _ => exact ne_of_beq_false rfl

/-- A layer gives no option more often than once, but for those of names. -/
theorem count_options {name : String} (hincluded : name ≠ "include-table")
    (hexcluded : name ≠ "exclude-table") :
    (("input" :: o.options.map Prod.fst).count name) ≤ 1 := by
  have hnodup : ("input" :: o.settings.map Setting.optionName).Nodup := by
    rw [List.nodup_cons]
    refine ⟨fun hinput => ?_, .map_on (fun s hs t ht => eq_of_optionName hs ht)
      (.of_map _ (Overrides.nodup_settings o))⟩
    obtain ⟨s, -, hs⟩ := List.mem_map.mp hinput
    exact optionName_ne_input hs
  have hone : ∀ s : Setting, (s.options.map Prod.fst).count name = [s.optionName].count name := by
    intro s
    have hnone : ∀ (option : String) (list : List String), name ≠ option →
        ((list.map (option, ·)).map Prod.fst).count name = [option].count name :=
      fun option list hne => by
        rw [List.map_map, List.count_singleton, if_neg (by simpa using hne.symm)]
        refine List.count_eq_zero.mpr fun hmem => ?_
        obtain ⟨v, -, hv⟩ := List.mem_map.mp hmem
        exact hne hv.symm
    cases s with
    | included f =>
      cases f with
      | pattern p => rfl
      | names list => exact hnone _ list hincluded
    | excluded f =>
      cases f with
      | pattern p => rfl
      | names list => exact hnone _ list hexcluded
    | _ => rfl
  have hcount : (o.options.map Prod.fst).count name
      = (o.settings.map Setting.optionName).count name := by
    have hnames := List.map_eq_flatMap (f := Setting.optionName) (l := o.settings)
    rw [Overrides.options, List.map_flatMap, List.count_flatMap, hnames, List.count_flatMap]
    exact congrArg List.sum (List.map_congr_left fun s _ => hone s)
  rw [List.count_cons, hcount, ← List.count_cons]
  exact List.nodup_iff_count_le_one.mp hnodup name

/-! ## What all options say -/

/-- A part of the arguments of a layer is told setting by setting. -/
theorem filterMap_options {β : Type} (g : Argument → Option β) :
    o.options.filterMap (fun p => (says? generateRules p).bind g)
      = o.settings.flatMap fun s => s.texts.filterMap fun v => g (s.argument v) := by
  rw [Overrides.options, List.filterMap_flatMap]
  refine List.flatMap_congr fun s _ => ?_
  rw [Setting.options, List.filterMap_map]
  refine List.filterMap_congr fun v hv => ?_
  rw [Function.comp_apply, says?_argument hv]
  rfl

section

variable (hinput : input ≠ "") (hwords : Shuffled (("input", input) :: o.options) words)

include hinput

theorem says?_input : says? generateRules ("input", input) = some (.input input) := by
  have hpath : path Argument.input input = .ok (.input input) := by
    rw [path, if_neg (by simpa using hinput)]
  exact congrArg Except.toOption hpath

include hwords

/-- What a part of the arguments is, but for the order. -/
theorem perm_filterMap_words {β : Type} (g : Argument → Option β) :
    ((words.filterMap (says? generateRules)).filterMap g).Perm
      ((g (.input input)).toList
        ++ o.settings.flatMap fun s => s.texts.filterMap fun v => g (s.argument v)) := by
  rw [List.filterMap_filterMap, ← filterMap_options]
  refine (hwords.perm.symm.filterMap _).trans (.of_eq ?_)
  rw [List.filterMap_cons, says?_input hinput]
  cases h : g (.input input) <;> simp [h]

/-- What no setting says, the options of a layer do not say. -/
theorem findSome?_words {β : Type} {g : Argument → Option β}
    (hg : ∀ (s : Setting) v, g (s.argument v) = none) :
    (words.filterMap (says? generateRules)).findSome? g = g (.input input) := by
  have hnil : (o.settings.flatMap fun s => s.texts.filterMap fun v => g (s.argument v)) = [] :=
    List.flatMap_eq_nil_iff.mpr fun s _ => List.filterMap_eq_nil_iff.mpr fun v _ => hg s v
  have hperm := perm_filterMap_words hinput hwords g
  rw [hnil, List.append_nil] at hperm
  rw [← List.head?_filterMap]
  cases h : g (.input input) with
  | none =>
    rw [h] at hperm
    rw [hperm.eq_nil]
    rfl
  | some b =>
    rw [h] at hperm
    rw [List.perm_singleton.mp hperm]
    rfl

theorem readOptions_words : readOptions "generate" generateRules {} (words.map joined)
    = .ok (words.filterMap fun p => (says? generateRules p).map (p.1, ·)) := by
  refine readOptions_joined namesOptions_generateRules words (fun p hp => ?_)
    fun rule hrule hrepeat => ?_
  · rcases List.mem_cons.mp (hwords.perm.mem_iff.mpr hp) with rfl | hp
    · rw [says?_input hinput]
      rfl
    · obtain ⟨s, -, v, hv, rfl⟩ := mem_options.mp hp
      rw [says?_argument hv]
      rfl
  · have hname : ∀ rule ∈ generateRules, rule.repeatable = false →
        rule.name ≠ "include-table" ∧ rule.name ≠ "exclude-table" := by decide
    obtain ⟨hincluded, hexcluded⟩ := hname rule hrule hrepeat
    have hcount := count_options (o := o) hincluded hexcluded
    exact Nat.le_trans (Nat.le_of_eq ((hwords.perm.map Prod.fst).count_eq rule.name).symm) hcount

/-- The settings that options make one by one are those of the layer, without the filters of
names. -/
theorem ofSettings_words :
    Overrides.ofSettings ((words.filterMap (says? generateRules)).filterMap Argument.setting?)
      = { o with
          included := o.included.filter TableFilter.isPattern
          excluded := o.excluded.filter TableFilter.isPattern } := by
  have hsetting : ∀ s : Setting, s.texts.filterMap (fun v => (s.argument v).setting?)
      = (Option.guard Setting.isAlone s).toList := fun s => by
    cases s with
    | included f | excluded f =>
      cases f with
      | pattern p => rfl
      | names list => exact List.filterMap_eq_nil_iff.mpr fun _ _ => rfl
    | _ => rfl
  have hperm := perm_filterMap_words hinput hwords Argument.setting?
  simp only [hsetting] at hperm
  rw [← List.filterMap_eq_flatMap_toList, List.filterMap_eq_filter] at hperm
  have hnodup : ((o.settings.filter Setting.isAlone).map Setting.ctorIdx).Nodup :=
    (Overrides.nodup_settings o).sublist (List.filter_sublist.map _)
  refine Overrides.ofSettings_eq ((hperm.map _).nodup_iff.mpr hnodup) fun t => ?_
  rw [hperm.mem_iff]
  simp only [Argument.setting?, Option.toList_none, List.nil_append, List.mem_filter,
    Overrides.mem_settings]
  cases t with
  | included f | excluded f =>
    cases f <;> simp [Overrides.Sets, Setting.isAlone, TableFilter.isPattern,
      Option.filter_eq_some_iff]
  | _ => simp [Overrides.Sets, Setting.isAlone]

/-- What the options of one name alone say, they say in the order of the layer. -/
theorem filterMap_words {β : Type} {g : Argument → Option β} (name : String)
    (hg : ∀ (s : Setting) v, s.optionName ≠ name → g (s.argument v) = none)
    (hgi : g (.input input) = none) :
    (words.filterMap (says? generateRules)).filterMap g
      = o.settings.flatMap fun s => s.texts.filterMap fun v => g (s.argument v) := by
  have hhead : (says? generateRules ("input", input)).bind g = none := by
    rw [says?_input hinput]
    exact hgi
  have hnamed : ∀ p ∈ ("input", input) :: o.options, p.1 ≠ name →
      (says? generateRules p).bind g = none := fun p hp hne => by
    rcases List.mem_cons.mp hp with rfl | hp
    · exact hhead
    · obtain ⟨s, -, v, hv, rfl⟩ := mem_options.mp hp
      rw [says?_argument hv]
      exact hg s v hne
  rw [List.filterMap_filterMap, hwords.filterMap_eq name hnamed, List.filterMap_cons, hhead,
    filterMap_options]

/-- A filter is made by its pattern, or by its names in their order. -/
theorem or_namesFilter_words {f? : Option TableFilter} (wrap : TableFilter → Setting)
    (table? : Argument → Option String) (name : String)
    (hplain : ∀ list, f? = some (.names list) → list ≠ [])
    (hsets : ∀ f, o.Sets (wrap f) ↔ f? = some f)
    (hidx : ∀ f f', (wrap f).ctorIdx = (wrap f').ctorIdx)
    (hpattern : ∀ p v, table? ((wrap (.pattern p)).argument v) = none)
    (hnames : ∀ list, (wrap (.names list)).optionName = name ∧ (wrap (.names list)).texts = list ∧
      ∀ v, table? ((wrap (.names list)).argument v) = some v)
    (hother : ∀ s, (∀ f, s ≠ wrap f) → ∀ v, table? (s.argument v) = none)
    (hinput' : table? (.input input) = none) :
    (f?.filter TableFilter.isPattern).or (Argument.namesFilter
      ((words.filterMap (says? generateRules)).filterMap table?)) = f? := by
  have hname : ∀ (s : Setting) v, s.optionName ≠ name → table? (s.argument v) = none := by
    intro s v hne
    by_cases hs : ∃ f, s = wrap f
    · obtain ⟨f, rfl⟩ := hs
      cases f with
      | pattern p => exact hpattern p v
      | names list => exact absurd (hnames list).1 hne
    · exact hother s (not_exists.mp hs) v
  rw [filterMap_words hinput hwords name hname hinput']
  cases f? with
  | none =>
    have hnil : (o.settings.flatMap fun s => s.texts.filterMap fun v => table? (s.argument v))
        = [] := by
      refine List.flatMap_eq_nil_iff.mpr fun s hs => List.filterMap_eq_nil_iff.mpr fun v _ => ?_
      refine hother s (fun f hf => ?_) v
      exact nomatch (hsets f).mp (hf ▸ Overrides.mem_settings.mp hs)
    rw [hnil]
    rfl
  | some f =>
    rw [Overrides.flatMap_settings ((hsets f).mpr rfl) fun t ht =>
      List.filterMap_eq_nil_iff.mpr fun v _ => hother t (fun f' hf => ht (hf ▸ hidx f' f)) v]
    cases f with
    | pattern p => rfl
    | names list =>
      obtain ⟨-, htexts, htable⟩ := hnames list
      simp only [htexts, htable, List.filterMap_some]
      cases list with
      | nil => exact absurd rfl (hplain [] rfl)
      | cons n list => rfl

omit hinput in
/-- Options that do not go together are not given together. -/
theorem find?_conflicts {given : Given Argument} (hgiven : ∀ q ∈ given, q.1 ∈ words.map Prod.fst) :
    conflicts.find? (fun (a, b) => given.has a && given.has b) = none := by
  have hhas : ∀ {s : Setting}, given.has s.optionName = true →
      ∃ t ∈ o.settings, t.optionName = s.optionName := by
    intro s hs
    obtain ⟨q, hq, hname⟩ := List.any_eq_true.mp hs
    obtain ⟨p, hp, hpq⟩ := List.mem_map.mp (hgiven q hq)
    have hpname : p.1 = s.optionName := hpq.trans (beq_iff_eq.mp hname)
    rcases List.mem_cons.mp (hwords.perm.mem_iff.mpr hp) with rfl | hp
    · exact absurd hpname.symm optionName_ne_input
    · obtain ⟨t, ht, v, -, rfl⟩ := mem_options.mp hp
      exact ⟨t, ht, hpname⟩
  have hboth : ∀ s t : Setting, s.ctorIdx = t.ctorIdx → s.optionName ≠ t.optionName →
      ¬ ((given.has s.optionName && given.has t.optionName) = true) := by
    intro s t hidx hne h
    rw [Bool.and_eq_true] at h
    obtain ⟨s', hs', hs⟩ := hhas h.1
    obtain ⟨t', ht', ht⟩ := hhas h.2
    have hidx' : s'.ctorIdx = t'.ctorIdx :=
      (ctorIdx_of_optionName hs).trans (hidx.trans (ctorIdx_of_optionName ht).symm)
    obtain rfl := List.inj_on_of_nodup_map (Overrides.nodup_settings o) hs' ht' hidx'
    exact hne (hs.symm.trans ht)
  rw [List.find?_eq_none]
  simp only [conflicts, List.forall_mem_cons]
  exact ⟨hboth (.included (.pattern "")) (.included (.names [])) rfl (ne_of_beq_false rfl),
    hboth (.excluded (.pattern "")) (.excluded (.names [])) rfl (ne_of_beq_false rfl), nofun⟩

end

/-- The layer that options make up is the one that they were written for. -/
theorem overrides_words (ho : o.IsPlain) (hinput : input ≠ "")
    (hwords : Shuffled (("input", input) :: o.options) words) :
    Argument.overrides (words.filterMap (says? generateRules)) = o := by
  have hincluded : ∀ list, o.included = some (.names list) → list ≠ [] := fun list hlist =>
    (ho (.included (.names list)) (Overrides.mem_settings.mpr hlist)).1
  have hexcluded : ∀ list, o.excluded = some (.names list) → list ≠ [] := fun list hlist =>
    (ho (.excluded (.names list)) (Overrides.mem_settings.mpr hlist)).1
  have hnotTaken : ∀ s : Setting, (∀ f, s ≠ .included f) →
      ∀ v, (s.argument v).includedTable? = none := fun s hs v => by
    cases s with
    | included f => exact absurd rfl (hs f)
    | excluded f => cases f <;> rfl
    | _ => rfl
  have hnotLeft : ∀ s : Setting, (∀ f, s ≠ .excluded f) →
      ∀ v, (s.argument v).excludedTable? = none := fun s hs v => by
    cases s with
    | excluded f => exact absurd rfl (hs f)
    | included f => cases f <;> rfl
    | _ => rfl
  have htaken := or_namesFilter_words hinput hwords .included Argument.includedTable?
    "include-table" hincluded (fun _ => .rfl) (fun _ _ => rfl) (fun _ _ => rfl)
    (fun _ => ⟨rfl, rfl, fun _ => rfl⟩) hnotTaken rfl
  have hleft := or_namesFilter_words hinput hwords .excluded Argument.excludedTable?
    "exclude-table" hexcluded (fun _ => .rfl) (fun _ _ => rfl) (fun _ _ => rfl)
    (fun _ => ⟨rfl, rfl, fun _ => rfl⟩) hnotLeft rfl
  rw [Argument.overrides, ofSettings_words hinput hwords]
  simp only [htaken, hleft]

/-- **A layer is read back from its options**, in any order that leaves names in theirs. -/
theorem parse_words (ho : o.IsPlain) (hinput : input ≠ "")
    (hwords : Shuffled (("input", input) :: o.options) words) :
    Command.parse ("generate" :: words.map joined)
      = .ok (.generate { input := input, overrides := o }) := by
  let given : Given Argument := words.filterMap fun p => (says? generateRules p).map (p.1, ·)
  have hsaid : given.map (·.2) = words.filterMap (says? generateRules) := by
    rw [List.map_filterMap]
    refine List.filterMap_congr fun p _ => ?_
    rw [Option.map_map]
    exact Option.map_id'
  have hconflicts : conflicts.find? (fun (a, b) => given.has a && given.has b) = none := by
    refine find?_conflicts hwords fun q hq => ?_
    obtain ⟨p, hp, hpq⟩ := List.mem_filterMap.mp hq
    obtain ⟨a, -, rfl⟩ := Option.map_eq_some_iff.mp hpq
    exact List.mem_map_of_mem hp
  have hargument : ∀ {β : Type} {g : Argument → Option β}, (∀ s, g (.set s) = none) →
      (∀ name, g (.includedTable name) = none) → (∀ name, g (.excludedTable name) = none) →
        (words.filterMap (says? generateRules)).findSome? g = g (.input input) := by
    refine fun hset hincluded hexcluded => findSome?_words hinput hwords fun s v => ?_
    rcases argument_cases s v with h | h | h
    · rw [h, hset]
    · rw [h, hincluded]
    · rw [h, hexcluded]
  have hgiven : GenerateCommand.ofGiven given = .ok { input := input, overrides := o } := by
    rw [GenerateCommand.ofGiven, hconflicts]
    simp only [hsaid, overrides_words ho hinput hwords]
    rw [hargument, hargument, hargument, hargument]
    · rfl
    all_goals exact fun _ => rfl
  have hname : Word.ofText "generate" = .plain "generate" := rfl
  unfold Command.parse
  simp only [hname, Command.ofName, readOptions_words hinput hwords]
  exact congrArg (Except.map Command.generate) hgiven

end

/-- **A layer is read back from what is written for it**: from its variables, in any order and mixed
with any that no option has, and from the options of a command line, in any order that leaves the
names of tables in theirs. -/
theorem Overrides.reads_back {o : Overrides} (ho : o.IsPlain) :
    (∀ pairs others, (∀ p ∈ others, p.1 ∉ Environment.names) →
      pairs.Perm (o.environment ++ others) → Environment.overrides pairs = .ok o) ∧
    (∀ input words, input ≠ "" → Shuffled (("input", input) :: o.options) words →
      Command.parse ("generate" :: words.map joined)
        = .ok (.generate { input := input, overrides := o })) :=
  ⟨fun _ _ => overrides_environment ho, fun _ _ => parse_words ho⟩

/-- A layer with a choice, a truth value, a text and a filter of each kind. -/
def sampleLayer : Overrides where
  dialect := some .v2
  singularize := some false
  schemaName := some "public"
  included := some (.names ["users", "order lines"])
  excluded := some (.pattern "^tmp=")

theorem reads_back_sampleLayer :
    sampleLayer.IsPlain ∧
    Environment.overrides [("SCHEMAFORGE_EXCLUDE", "^tmp="), ("PATH", "/usr/bin"),
      ("SCHEMAFORGE_INCLUDE_TABLES", "users,order lines"), ("SCHEMAFORGE_SCHEMA_NAME", "public"),
      ("SCHEMAFORGE_DIALECT_VARIANT", "v2"), ("SCHEMAFORGE_SINGULARIZATION_ENABLED", "false")]
      = .ok sampleLayer ∧
    Command.parse ["generate", "--exclude=^tmp=", "--include-table=users", "--input=rows.json",
      "--singularize=false", "--include-table=order lines", "--dialect=v2", "--schema=public"]
      = .ok (.generate { input := "rows.json", overrides := sampleLayer }) := by
  have hbare : ∀ v ∈ ["public", "users", "order lines", "^tmp="], IsBare v := by
    simp only [List.forall_mem_cons]
    refine ⟨?_, ?_, ?_, ?_, nofun⟩
    all_goals exact ⟨by decide, by rintro c ⟨⟩; rfl, by rintro c ⟨⟩; rfl⟩
  have hplain : sampleLayer.IsPlain := by
    have hsettings : sampleLayer.settings = [.dialect .v2, .singularize false, .schemaName "public",
      .included (.names ["users", "order lines"]), .excluded (.pattern "^tmp=")] := rfl
    rw [Overrides.IsPlain, hsettings]
    simp only [List.forall_mem_cons]
    refine ⟨trivial, trivial, hbare _ (by decide), ⟨by decide, ?_⟩, hbare _ (by decide), nofun⟩
    simp only [List.forall_mem_cons]
    exact ⟨⟨hbare _ (by decide), by decide⟩, ⟨hbare _ (by decide), by decide⟩, nofun⟩
  have hread := Overrides.reads_back hplain
  refine ⟨hplain, hread.1 _ [("PATH", "/usr/bin")] (by decide) (by decide), ?_⟩
  exact hread.2 "rows.json" [("exclude", "^tmp="), ("include-table", "users"),
    ("input", "rows.json"), ("singularize", "false"), ("include-table", "order lines"),
    ("dialect", "v2"), ("schema", "public")] (by decide) (.of_names (by decide) (by decide))

end ValidatorGen
