/-
Layers as collections of settings. A layer is told by the settings that hold in it (`eq_of_sets`),
and setting an option anew bears on the settings of that option only (`sets_set`). **So settings of
which no two are of one option all hold in the layer that they make up, and nothing else does, in
whatever order they come** (`sets_ofSettings`, `ofSettings_eq`). Of which option a setting is says
its constructor, `Setting.ctorIdx`.
-/
import Mathlib.Data.List.Induction
import Mathlib.Data.List.ReduceOption
import Mathlib.Data.Option.Basic
import ValidatorGen.Settings.Overrides

namespace ValidatorGen.Overrides

/-- A layer sets the option of a setting to its value. -/
def Sets (o : Overrides) : Setting → Prop
  | .dialect v => o.dialect = some v
  | .fieldCasing v => o.fieldCasing = some v
  | .objectCasing v => o.objectCasing = some v
  | .caseTransform v => o.caseTransform = some v
  | .singularize v => o.singularize = some v
  | .coerceDatesOnRead v => o.coerceDatesOnRead = some v
  | .stringifyDatesOnWrite v => o.stringifyDatesOnWrite = some v
  | .stringifyJsonOnWrite v => o.stringifyJsonOnWrite = some v
  | .emptyArrayDefault v => o.emptyArrayDefault = some v
  | .undefinedDefault v => o.undefinedDefault = some v
  | .typeFallback v => o.typeFallback = some v
  | .jsonImport v => o.jsonImport = some v
  | .schemaName v => o.schemaName = some v
  | .included v => o.included = some v
  | .excluded v => o.excluded = some v

/-- The settings of the options that a layer sets. -/
def settings (o : Overrides) : List Setting := List.reduceOption [
  o.dialect.map .dialect,
  o.fieldCasing.map .fieldCasing,
  o.objectCasing.map .objectCasing,
  o.caseTransform.map .caseTransform,
  o.singularize.map .singularize,
  o.coerceDatesOnRead.map .coerceDatesOnRead,
  o.stringifyDatesOnWrite.map .stringifyDatesOnWrite,
  o.stringifyJsonOnWrite.map .stringifyJsonOnWrite,
  o.emptyArrayDefault.map .emptyArrayDefault,
  o.undefinedDefault.map .undefinedDefault,
  o.typeFallback.map .typeFallback,
  o.jsonImport.map .jsonImport,
  o.schemaName.map .schemaName,
  o.included.map .included,
  o.excluded.map .excluded]

section

variable {o o' : Overrides} {s t : Setting} {l : List Setting}

theorem mem_settings : s ∈ o.settings ↔ o.Sets s := by
  cases s <;> simp [settings, Sets, List.reduceOption, -Bool.exists_bool]

theorem map_ctorIdx_sublist {α : Type} {f : α → Setting} {n : Nat} (hf : ∀ a, (f a).ctorIdx = n)
    {options : List (Option Setting)} {numbers : List Nat}
    (h : (options.reduceOption.map Setting.ctorIdx).Sublist numbers) (v : Option α) :
    ((v.map f :: options).reduceOption.map Setting.ctorIdx).Sublist (n :: numbers) := by
  cases v with
  | none => exact h.cons n
  | some a => exact hf a ▸ h.cons_cons _

/-- No two settings of a layer are of one option. -/
theorem nodup_settings (o : Overrides) : (o.settings.map Setting.ctorIdx).Nodup := by
  have hsublist : (o.settings.map Setting.ctorIdx).Sublist
      [0, 1, 2, 3, 4, 5, 6, 7, 8, 9, 10, 11, 12, 13, 14] := by
    unfold settings
    iterate 15
      apply map_ctorIdx_sublist
      · exact fun _ => rfl
    exact .slnil
  exact hsublist.nodup (by decide)

/-- Layers that set the same options to the same values are one. -/
theorem eq_of_sets (h : ∀ s, o.Sets s ↔ o'.Sets s) : o = o' := by
  cases o
  cases o'
  rw [mk.injEq]
  exact ⟨Option.ext fun v => h (.dialect v), Option.ext fun v => h (.fieldCasing v),
    Option.ext fun v => h (.objectCasing v), Option.ext fun v => h (.caseTransform v),
    Option.ext fun v => h (.singularize v), Option.ext fun v => h (.coerceDatesOnRead v),
    Option.ext fun v => h (.stringifyDatesOnWrite v),
    Option.ext fun v => h (.stringifyJsonOnWrite v),
    Option.ext fun v => h (.emptyArrayDefault v), Option.ext fun v => h (.undefinedDefault v),
    Option.ext fun v => h (.typeFallback v), Option.ext fun v => h (.jsonImport v),
    Option.ext fun v => h (.schemaName v), Option.ext fun v => h (.included v),
    Option.ext fun v => h (.excluded v)⟩

/-- What only the settings of one option can make up is made up by the setting of that option. -/
theorem flatMap_settings {β : Type} {g : Setting → List β} (hs : o.Sets s)
    (hg : ∀ t, t.ctorIdx ≠ s.ctorIdx → g t = []) : o.settings.flatMap g = g s := by
  obtain ⟨before, after, hsettings⟩ := List.append_of_mem (mem_settings.mpr hs)
  have hnodup := nodup_settings o
  rw [hsettings, (List.perm_middle.map _).nodup_iff, List.map_cons, List.nodup_cons] at hnodup
  have hnone : ∀ t ∈ before ++ after, g t = [] := fun t ht =>
    hg t fun hidx => hnodup.1 (hidx ▸ List.mem_map_of_mem ht)
  have hbefore := List.flatMap_eq_nil_iff.mpr fun t ht => hnone t (List.mem_append_left _ ht)
  have hafter := List.flatMap_eq_nil_iff.mpr fun t ht => hnone t (List.mem_append_right _ ht)
  rw [hsettings, List.flatMap_append, List.flatMap_cons, hbefore, hafter, List.nil_append,
    List.append_nil]

theorem not_sets_empty (s : Setting) : ¬ ({} : Overrides).Sets s := by
  cases s <;> simp [Sets]

/-- **Setting an option decides about the settings of that option, and about no others.** -/
theorem sets_set : (o.set s).Sets t ↔ if s.ctorIdx = t.ctorIdx then s = t else o.Sets t := by
  cases s <;> cases t <;> simp [set, Sets, Setting.ctorIdx]

theorem ofSettings_concat (l : List Setting) (s : Setting) :
    ofSettings (l ++ [s]) = (ofSettings l).set s := by
  rw [ofSettings, List.foldl_append]
  rfl

/-- **Settings of different options all hold in the layer that they make up, and no others do.** -/
theorem sets_ofSettings (h : (l.map Setting.ctorIdx).Nodup) :
    (ofSettings l).Sets s ↔ s ∈ l := by
  induction l using List.reverseRecOn with
  | nil => exact iff_of_false (not_sets_empty s) List.not_mem_nil
  | append_singleton l t ih =>
    rw [List.map_append, List.nodup_append] at h
    obtain ⟨hnodup, -, hne⟩ := h
    rw [ofSettings_concat, sets_set, List.mem_append, List.mem_singleton]
    split
    · next heq =>
      have hs : s ∉ l := fun hs => hne _ (List.mem_map_of_mem hs) _ List.mem_cons_self heq.symm
      rw [or_iff_right hs, eq_comm]
    · next hst =>
      have hst : s ≠ t := by
        rintro rfl
        exact hst rfl
      rw [ih hnodup, or_iff_left hst]

/-- Settings of different options make up the layer in which they, and no others, hold. -/
theorem ofSettings_eq (h : (l.map Setting.ctorIdx).Nodup) (hmem : ∀ t, t ∈ l ↔ o.Sets t) :
    ofSettings l = o :=
  eq_of_sets fun t => (sets_ofSettings h).trans (hmem t)

/-- **Settings of different options make up one layer in every order.** -/
theorem ofSettings_perm {l' : List Setting} (h : (l.map Setting.ctorIdx).Nodup)
    (hperm : l.Perm l') : ofSettings l' = ofSettings l :=
  ofSettings_eq ((hperm.map _).nodup_iff.mp h) fun _ =>
    hperm.mem_iff.symm.trans (sets_ofSettings h).symm

/-- The settings of a layer make it up, in every order. -/
theorem ofSettings_of_perm (hperm : l.Perm o.settings) : ofSettings l = o :=
  ofSettings_eq ((hperm.map _).nodup_iff.mpr (nodup_settings o)) fun _ =>
    hperm.mem_iff.trans mem_settings

end

end ValidatorGen.Overrides
