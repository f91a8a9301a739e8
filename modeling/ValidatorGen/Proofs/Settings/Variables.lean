/-
The environment as a set of variables. A variable sets one option, and is told by the setting that
it makes (`variableName_of_readVariable`); only the two variables of a filter set the same option.
**So the order of variables does not show, unless they set a filter both by its pattern and by its
names, and then it does** (`overrides_orderless_iff`): the last one of the two counts.
-/
import Mathlib.Data.List.Perm.Basic
import ValidatorGen.Proofs.Settings.Setting
import ValidatorGen.Settings.Resolve

namespace ValidatorGen

/-- The name of the variable that makes a setting. -/
def Setting.variableName : Setting → String
  | .dialect _ => "SCHEMAFORGE_DIALECT_VARIANT"
  | .fieldCasing _ => "SCHEMAFORGE_FIELD_NAME_CASING"
  | .objectCasing _ => "SCHEMAFORGE_OBJECT_NAME_CASING"
  | .caseTransform _ => "SCHEMAFORGE_CASE_TRANSFORM_ENABLED"
  | .singularize _ => "SCHEMAFORGE_SINGULARIZATION_ENABLED"
  | .coerceDatesOnRead _ => "SCHEMAFORGE_COERCE_DATES_ON_READ"
  | .stringifyDatesOnWrite _ => "SCHEMAFORGE_STRINGIFY_DATES_ON_WRITE"
  | .stringifyJsonOnWrite _ => "SCHEMAFORGE_STRINGIFY_JSON_ON_WRITE"
  | .emptyArrayDefault _ => "SCHEMAFORGE_DEFAULT_EMPTY_ARRAY_ON_NULLABLE_ARRAY"
  | .undefinedDefault _ => "SCHEMAFORGE_DEFAULT_UNDEFINED_ON_NULLABLE"
  | .typeFallback _ => "SCHEMAFORGE_UNKNOWN_TYPE_FALLBACK"
  | .jsonImport _ => "SCHEMAFORGE_JSON_SCHEMA_IMPORT_LOCATION"
  | .schemaName _ => "SCHEMAFORGE_SCHEMA_NAME"
  | .included (.pattern _) => "SCHEMAFORGE_INCLUDE"
  | .included (.names _) => "SCHEMAFORGE_INCLUDE_TABLES"
  | .excluded (.pattern _) => "SCHEMAFORGE_EXCLUDE"
  | .excluded (.names _) => "SCHEMAFORGE_EXCLUDE_TABLES"

/-- What is read is a setting that the variable of the name makes. -/
def Reader.Makes (read : Reader Setting) (name : String) : Prop :=
  ∀ value s, read value = .ok s → s.variableName = name

namespace Reader

variable {β : Type} {name : String}

theorem makes_map {read : String → Except ValueFault β} {wrap : β → Setting}
    (h : ∀ v, (wrap v).variableName = name) : Makes (fun value => (read value).map wrap) name := by
  intro value s hs
  simp only at hs
  cases hv : read value with
  | error e =>
    rw [hv] at hs
    cases hs
  | ok v =>
    rw [hv] at hs
    cases hs
    exact h v

theorem makes_choice {parse : String → Except ConfigurationFault β} {wrap : β → Setting}
    (h : ∀ v, (wrap v).variableName = name) : (choice parse wrap).Makes name :=
  makes_map h

theorem makes_truth {parse : Reader Bool} {wrap : Bool → Setting}
    (h : ∀ v, (wrap v).variableName = name) : (truth parse wrap).Makes name :=
  makes_map h

theorem makes_text {wrap : String → Setting} (h : ∀ v, (wrap v).variableName = name) :
    (text wrap).Makes name := by
  intro value s hs
  cases hs
  exact h value

end Reader

namespace Environment

/-- A filter is set both by its pattern and by its names. -/
def SetsFilterTwice (pairs : List (String × String)) : Prop :=
  ("SCHEMAFORGE_INCLUDE" ∈ pairs.map Prod.fst ∧ "SCHEMAFORGE_INCLUDE_TABLES" ∈ pairs.map Prod.fst) ∨
  ("SCHEMAFORGE_EXCLUDE" ∈ pairs.map Prod.fst ∧ "SCHEMAFORGE_EXCLUDE_TABLES" ∈ pairs.map Prod.fst)

section

variable {name value : String} {s t : Setting} {pairs pairs' rest : List (String × String)}

/-! ## One variable -/

theorem makes_readers : ∀ p ∈ readers, p.2.Makes (mark ++ p.1) := by
  simp only [readers, List.forall_mem_cons]
  refine ⟨?_, ?_, ?_, ?_, ?_, ?_, ?_, ?_, ?_, ?_, ?_, ?_, ?_, ?_, ?_, ?_, ?_, ?_⟩
  case refine_1 | refine_2 | refine_3 | refine_11 => exact Reader.makes_choice fun _ => rfl
  case refine_12 | refine_13 | refine_14 | refine_15 | refine_16 | refine_17 =>
    exact Reader.makes_text fun _ => rfl
  case refine_18 => exact nofun
  all_goals exact Reader.makes_truth fun _ => rfl

/-- A variable of an option has the mark and the name of a reader. -/
theorem exists_of_reader? {read : Reader Setting} (h : reader? name = some read) :
    ∃ p ∈ readers, p.2 = read ∧ name = mark ++ p.1 := by
  rw [reader?] at h
  split at h
  · next hmark =>
    obtain ⟨before, after, hreaders, -⟩ := List.lookup_eq_some_iff.mp h
    have hmem : (String.ofList (name.toList.drop mark.toList.length), read) ∈ readers := by
      rw [hreaders]
      exact List.mem_append_right _ List.mem_cons_self
    refine ⟨_, hmem, rfl, String.toList_inj.mp ?_⟩
    rw [String.toList_append, String.toList_ofList]
    exact (List.prefix_iff_eq_append.mp (List.isPrefixOf_iff_prefix.mp hmark)).symm
  · cases h

/-- A variable makes the setting that is read from its value, less the white space around it. -/
theorem readVariable_eq_ok {read : Reader Setting} (h : reader? name = some read)
    (hread : read (String.ofList (Text.trim value.toList)) = .ok s) :
    readVariable name value = .ok (some s) := by
  rw [readVariable, h]
  simp only
  rw [hread]
  rfl

/-- A variable that is read as text makes a setting, whatever its value is. -/
theorem readVariable_of_text {wrap : String → Setting} (h : reader? name = some (.text wrap))
    (value : String) :
    readVariable name value = .ok (some (wrap (String.ofList (Text.trim value.toList)))) :=
  readVariable_eq_ok h rfl

/-- **A setting tells the variable that makes it.** -/
theorem variableName_of_readVariable (h : readVariable name value = .ok (some s)) :
    s.variableName = name := by
  rw [readVariable] at h
  cases hread : reader? name with
  | none =>
    rw [hread] at h
    cases h
  | some read =>
    rw [hread] at h
    simp only at h
    obtain ⟨p, hp, rfl, rfl⟩ := exists_of_reader? hread
    cases hs : p.2 (String.ofList (Text.trim value.toList)) with
    | error e =>
      rw [hs] at h
      cases h
    | ok s' =>
      rw [hs] at h
      cases h
      exact makes_readers p hp _ _ hs

/-- Variables that set one option are the same, or the two of a filter. -/
theorem variableName_of_ctorIdx (h : s.ctorIdx = t.ctorIdx) :
    s.variableName = t.variableName ∨ [s.variableName, t.variableName].Perm
      ["SCHEMAFORGE_INCLUDE", "SCHEMAFORGE_INCLUDE_TABLES"] ∨
      [s.variableName, t.variableName].Perm
        ["SCHEMAFORGE_EXCLUDE", "SCHEMAFORGE_EXCLUDE_TABLES"] := by
  cases s <;> cases t
  case included.included f g =>
    cases f <;> cases g
    case pattern.names => exact .inr (.inl (.refl _))
    case names.pattern => exact .inr (.inl (.swap ..))
    all_goals exact .inl rfl
  case excluded.excluded f g =>
    cases f <;> cases g
    case pattern.names => exact .inr (.inr (.refl _))
    case names.pattern => exact .inr (.inr (.swap ..))
    all_goals exact .inl rfl
  all_goals first
    | exact .inl rfl
    | nomatch h

/-! ## All variables -/

/-- The setting that a variable makes, if it can be read and makes one. -/
def setting? (p : String × String) : Option Setting := (readVariable p.1 p.2).toOption.join

theorem setting?_of_text {wrap : String → Setting} (h : reader? name = some (.text wrap))
    (value : String) :
    setting? (name, value) = some (wrap (String.ofList (Text.trim value.toList))) := by
  rw [setting?, readVariable_of_text h]
  rfl

/-- Nothing is wrong with the value of a variable. -/
def isReadable (p : String × String) : Bool := (readVariable p.1 p.2).toBool

theorem toOption_map {ε α β : Type} (f : α → β) (x : Except ε α) :
    (x.map f).toOption = x.toOption.map f := by
  cases x <;> rfl

theorem toOption_settings (pairs : List (String × String)) : (settings pairs).toOption
    = if pairs.all isReadable then some (pairs.filterMap setting?) else none := by
  induction pairs with
  | nil => rfl
  | cons p pairs ih =>
    obtain ⟨name, value⟩ := p
    rw [settings, List.all_cons, List.filterMap_cons, isReadable, setting?]
    cases hread : readVariable name value with
    | error e => rfl
    | ok s? =>
      cases s? with
      | none => exact ih
      | some s =>
        simp only [toOption_map, ih, Except.toBool, Bool.true_and]
        split <;> rfl

/-- **The layer of variables is that of the settings that they make, if all of them can be
read.** -/
theorem toOption_overrides (pairs : List (String × String)) : (overrides pairs).toOption
    = if pairs.all isReadable then some (.ofSettings (pairs.filterMap setting?)) else none := by
  rw [overrides, toOption_map, toOption_settings]
  split <;> rfl

theorem variableName_of_setting? {p : String × String} (h : setting? p = some s) :
    s.variableName = p.1 := by
  rw [setting?] at h
  cases hread : readVariable p.1 p.2 with
  | error e =>
    rw [hread] at h
    cases h
  | ok s? =>
    rw [hread] at h
    exact variableName_of_readVariable (hread.trans (congrArg _ h))

/-- Different variables make settings of different options, but for those of a filter. -/
theorem nodup_settings (hkeys : (pairs.map Prod.fst).Nodup) (htwice : ¬ SetsFilterTwice pairs) :
    ((pairs.filterMap setting?).map Setting.ctorIdx).Nodup := by
  rw [List.Nodup, List.pairwise_map, List.pairwise_filterMap]
  rw [List.Nodup, List.pairwise_map] at hkeys
  refine hkeys.imp_of_mem fun {p q} hp hq hne s hs t ht hoption => ?_
  have hmem : ∀ name ∈ [s.variableName, t.variableName], name ∈ pairs.map Prod.fst := by
    rw [variableName_of_setting? hs, variableName_of_setting? ht]
    simp only [List.mem_cons, List.not_mem_nil, or_false, forall_eq_or_imp, forall_eq]
    exact ⟨List.mem_map_of_mem hp, List.mem_map_of_mem hq⟩
  rcases variableName_of_ctorIdx hoption with hname | hperm | hperm
  · exact hne (by rwa [variableName_of_setting? hs, variableName_of_setting? ht] at hname)
  · exact htwice (.inl ⟨hmem _ (hperm.mem_iff.mpr (by decide)),
      hmem _ (hperm.mem_iff.mpr (by decide))⟩)
  · exact htwice (.inr ⟨hmem _ (hperm.mem_iff.mpr (by decide)),
      hmem _ (hperm.mem_iff.mpr (by decide))⟩)

/-! ## Variables in another order -/

theorem toOption_overrides_perm (hkeys : (pairs.map Prod.fst).Nodup)
    (h : (overrides pairs).toOption = none ∨ ¬ SetsFilterTwice pairs) (hperm : pairs.Perm pairs') :
    (overrides pairs').toOption = (overrides pairs).toOption := by
  have hall : pairs'.all isReadable = pairs.all isReadable := hperm.all_eq.symm
  rw [toOption_overrides, toOption_overrides, hall]
  split
  · next hreadable =>
    have htwice : ¬ SetsFilterTwice pairs := by
      rw [toOption_overrides, if_pos hreadable] at h
      exact h.resolve_left nofun
    rw [Overrides.ofSettings_perm (nodup_settings hkeys htwice) (hperm.filterMap _)]
  · rfl

/-- A request is resolved from the layer of the variables, however that came about. -/
theorem toOption_resolve (file : Option SettingsText) (pairs : List (String × String))
    (flags : Overrides) : (resolve file pairs flags).toOption
      = (fileRequest file).toOption.bind fun request =>
        (overrides pairs).toOption.map fun layer => flags.apply (layer.apply request) := by
  rw [resolve]
  cases fileRequest file with
  | error e => rfl
  | ok request =>
    cases overrides pairs with
    | error e => rfl
    | ok layer => rfl

/-- Every variable that makes a setting can come last, and then its setting counts. -/
theorem exists_perm_set {p : String × String} (hread : (overrides pairs).toOption ≠ none)
    (hp : p ∈ pairs) (hs : setting? p = some s) :
    ∃ pairs' o, pairs.Perm pairs' ∧ (overrides pairs').toOption = some (Overrides.set o s) := by
  have hperm : pairs.Perm (pairs.erase p ++ [p]) :=
    (List.perm_cons_erase hp).trans (List.perm_append_singleton p _).symm
  have hall : (pairs.erase p ++ [p]).all isReadable = true := by
    by_contra hnot
    rw [← hperm.all_eq] at hnot
    rw [toOption_overrides, if_neg hnot] at hread
    exact hread rfl
  refine ⟨_, .ofSettings ((pairs.erase p).filterMap setting?), hperm, ?_⟩
  rw [toOption_overrides, if_pos hall, List.filterMap_append, ← Overrides.ofSettings_concat,
    List.filterMap_cons, hs]
  rfl

/-- **Where a filter is set twice, the order of the variables shows in the request.** -/
theorem exists_perm_resolve_ne (hread : (overrides pairs).toOption ≠ none)
    (htwice : SetsFilterTwice pairs) : ∃ pairs', pairs.Perm pairs' ∧
      (resolve none pairs' {}).toOption ≠ (resolve none pairs {}).toOption := by
  have hresolve : ∀ {pairs o}, (overrides pairs).toOption = some o →
      (resolve none pairs {}).toOption = some (o.apply {}) := fun {pairs o} h => by
    rw [toOption_resolve, h]
    rfl
  have hlast : ∀ {p q s t}, p ∈ pairs → q ∈ pairs → setting? p = some s → setting? q = some t →
      (∀ o o' : Overrides, (o.set s).apply {} ≠ (o'.set t).apply {}) →
      ∃ pairs', pairs.Perm pairs' ∧
        (resolve none pairs' {}).toOption ≠ (resolve none pairs {}).toOption := by
    intro p q s t hp hq hs ht hne
    obtain ⟨pairs₁, o₁, hperm₁, h₁⟩ := exists_perm_set hread hp hs
    obtain ⟨pairs₂, o₂, hperm₂, h₂⟩ := exists_perm_set hread hq ht
    by_contra hsame
    have hsame : ∀ pairs', pairs.Perm pairs' →
        (resolve none pairs' {}).toOption = (resolve none pairs {}).toOption := by
      simpa using hsame
    have heq := (hsame pairs₁ hperm₁).trans (hsame pairs₂ hperm₂).symm
    rw [hresolve h₁, hresolve h₂] at heq
    exact hne o₁ o₂ (Option.some.inj heq)
  rcases htwice with ⟨hpattern, hnames⟩ | ⟨hpattern, hnames⟩
  all_goals
    obtain ⟨⟨_, pattern⟩, hp, rfl⟩ := List.mem_map.mp hpattern
    obtain ⟨⟨_, names⟩, hq, rfl⟩ := List.mem_map.mp hnames
  · have hs : setting? ("SCHEMAFORGE_INCLUDE", pattern) = _ := setting?_of_text rfl pattern
    have ht : setting? ("SCHEMAFORGE_INCLUDE_TABLES", names) = _ := setting?_of_text rfl names
    refine hlast hp hq hs ht fun o o' heq => ?_
    cases congrArg (·.selection.included) heq
  · have hs : setting? ("SCHEMAFORGE_EXCLUDE", pattern) = _ := setting?_of_text rfl pattern
    have ht : setting? ("SCHEMAFORGE_EXCLUDE_TABLES", names) = _ := setting?_of_text rfl names
    refine hlast hp hq hs ht fun o o' heq => ?_
    cases congrArg (·.selection.excluded) heq

end

/-- **The order of variables does not show, neither in their layer nor in any request that is
resolved from it, just if one of them cannot be read or none of the filters is set both by its
pattern and by its names.** -/
theorem overrides_orderless_iff {pairs : List (String × String)}
    (hkeys : (pairs.map Prod.fst).Nodup) :
    ((∀ pairs', pairs.Perm pairs' → (overrides pairs').toOption = (overrides pairs).toOption) ↔
      (overrides pairs).toOption = none ∨ ¬ SetsFilterTwice pairs) ∧
    ((∀ pairs', pairs.Perm pairs' → ∀ file flags,
        (resolve file pairs' flags).toOption = (resolve file pairs flags).toOption) ↔
      (overrides pairs).toOption = none ∨ ¬ SetsFilterTwice pairs) := by
  have hlayer : (overrides pairs).toOption = none ∨ ¬ SetsFilterTwice pairs →
      ∀ pairs', pairs.Perm pairs' → (overrides pairs').toOption = (overrides pairs).toOption :=
    fun h _ hperm => toOption_overrides_perm hkeys h hperm
  have hresolve : (∀ pairs', pairs.Perm pairs' →
      (overrides pairs').toOption = (overrides pairs).toOption) →
      ∀ pairs', pairs.Perm pairs' → ∀ file flags,
        (resolve file pairs' flags).toOption = (resolve file pairs flags).toOption := by
    intro h pairs' hperm file flags
    rw [toOption_resolve, toOption_resolve, h pairs' hperm]
  have hcause : (∀ pairs', pairs.Perm pairs' → ∀ file flags,
      (resolve file pairs' flags).toOption = (resolve file pairs flags).toOption) →
        (overrides pairs).toOption = none ∨ ¬ SetsFilterTwice pairs := by
    intro h
    by_contra hnot
    obtain ⟨hread, htwice⟩ := not_or.mp hnot
    obtain ⟨pairs', hperm, hne⟩ := exists_perm_resolve_ne hread (not_not.mp htwice)
    exact hne (h pairs' hperm none {})
  exact ⟨⟨fun h => hcause (hresolve h), hlayer⟩, ⟨hcause, fun h => hresolve (hlayer h)⟩⟩

/-- Variables that take tables by a pattern, and leave some out by name. -/
def sampleFilters : List (String × String) :=
  [("SCHEMAFORGE_INCLUDE", "^app_"), ("PATH", "/usr/bin"),
    ("SCHEMAFORGE_EXCLUDE_TABLES", "app_log, app_tmp")]

theorem overrides_orderless_iff_sampleFilters :
    (sampleFilters.map Prod.fst).Nodup ∧ ¬ SetsFilterTwice sampleFilters ∧
    ∀ pairs', sampleFilters.Perm pairs' →
      (overrides pairs').toOption = (overrides sampleFilters).toOption := by
  have hkeys : (sampleFilters.map Prod.fst).Nodup := by decide
  have htwice : ¬ SetsFilterTwice sampleFilters := by
    unfold SetsFilterTwice
    decide
  exact ⟨hkeys, htwice, (overrides_orderless_iff hkeys).1.mpr (.inr htwice)⟩

/-- Variables that take tables both by a pattern and by name. -/
def rivalFilters : List (String × String) :=
  [("SCHEMAFORGE_INCLUDE", "^app_"), ("SCHEMAFORGE_INCLUDE_TABLES", "users")]

/-- The order of the two variables of a filter shows: of `rivalFilters` the names count, and in the
other order the pattern. -/
theorem not_orderless_rivalFilters :
    ¬ ∀ pairs pairs' : List (String × String), (pairs.map Prod.fst).Nodup → pairs.Perm pairs' →
      (overrides pairs').toOption = (overrides pairs).toOption := by
  intro h
  have heq := h rivalFilters rivalFilters.reverse (by decide) (List.reverse_perm _).symm
  have hnames : (overrides rivalFilters).toOption
      = some { included := some (.names ["users"]) } := by
    with_unfolding_all rfl
  have hpattern : (overrides rivalFilters.reverse).toOption
      = some { included := some (.pattern "^app_") } := by
    with_unfolding_all rfl
  rw [hnames, hpattern] at heq
  cases heq

end Environment

end ValidatorGen
