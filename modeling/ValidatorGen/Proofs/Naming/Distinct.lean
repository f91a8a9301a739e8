/-
The names of one table. All of them put words of their own after the same stem (`objectName`,
`transformName?`). Whatever the stem is, **plain words that come after it are told apart in every
casing** (`composeChars_append_inj`), and so no two of the names are one
(`tableIdentifiers_nodup`).
-/
import Mathlib.Data.List.Nodup
import ValidatorGen.Proofs.Identifier.SnakeForm

namespace ValidatorGen

open Identifier Text

namespace Identifier

variable {stem u v : List (List Char)} {w : List Char} {casing : Casing}

/-! ## Parts that are joined -/

theorem intercalate_append {sep : List Char} (hu : u ≠ []) (hv : v ≠ []) :
    sep.intercalate (u ++ v) = sep.intercalate u ++ sep ++ sep.intercalate v := by
  induction u with
  | nil => exact absurd rfl hu
  | cons w u ih =>
    by_cases h : u = []
    · rw [h, List.singleton_append, List.intercalate_cons_of_ne_nil hv, List.intercalate_singleton]
    · have hrest : u ++ v ≠ [] := fun hnil => h (List.append_eq_nil_iff.mp hnil).1
      rw [List.cons_append, List.intercalate_cons_of_ne_nil hrest,
        List.intercalate_cons_of_ne_nil h, ih h]
      simp only [List.append_assoc]

theorem mem_intercalate {sep : List Char} {c : Char} (h : c ∈ sep.intercalate u) :
    c ∈ sep ∨ ∃ w ∈ u, c ∈ w := by
  induction u with
  | nil => cases h
  | cons w u ih =>
    by_cases hu : u = []
    · rw [hu, List.intercalate_singleton] at h
      exact .inr ⟨w, List.mem_cons_self, h⟩
    · rw [List.intercalate_cons_of_ne_nil hu, List.append_assoc, List.mem_append,
        List.mem_append] at h
      rcases h with h | h | h
      · exact .inr ⟨w, List.mem_cons_self, h⟩
      · exact .inl h
      · exact (ih h).imp_right fun ⟨x, hx, hc⟩ => ⟨x, List.mem_cons_of_mem w hx, hc⟩

theorem joined_eq_nil_iff {parts : List (List Char)} :
    joined parts = [] ↔ parts.filter (· ≠ []) = [] := by
  refine ⟨fun h => ?_, fun h => by rw [joined, h, List.intercalate_nil]⟩
  rw [joined] at h
  cases hparts : parts.filter (· ≠ []) with
  | nil => rfl
  | cons p ps =>
    have hp : p ≠ [] := by
      have hmem : p ∈ parts.filter (· ≠ []) := hparts ▸ List.mem_cons_self
      simpa using (List.mem_filter.mp hmem).2
    obtain ⟨c, p, rfl⟩ := List.exists_cons_of_ne_nil hp
    rw [hparts, List.intercalate_cons_cons_left] at h
    cases h

theorem joined_pair (s t : List Char) :
    joined [s, t] = if s = [] then t else if t = [] then s else s ++ ['_'] ++ t := by
  by_cases hs : s = [] <;> by_cases ht : t = [] <;>
    simp [joined, hs, ht, List.intercalate_cons_cons]

/-- Parts may be joined in two goes. -/
theorem joined_append (stem u : List (List Char)) :
    joined (stem ++ u) = joined [joined stem, joined u] := by
  rw [joined_pair]
  split
  case isTrue hstem => rw [joined, List.filter_append, joined_eq_nil_iff.mp hstem]; rfl
  case isFalse hstem =>
    rw [joined_eq_nil_iff] at hstem
    split
    case isTrue hu =>
      rw [joined, List.filter_append, joined_eq_nil_iff.mp hu, List.append_nil, joined]
    case isFalse hu =>
      rw [joined_eq_nil_iff] at hu
      rw [joined, List.filter_append, intercalate_append hstem hu, joined, joined]

/-! ## Plain words after a stem -/

theorem isPlainWord_of_lower (hlength : 2 ≤ w.length) (h : ∀ c ∈ w, c.isLower = true) :
    IsPlainWord w :=
  ⟨w, [], (List.append_nil w).symm, hlength, h, nofun⟩

theorem IsPlainWord.joinable (h : IsPlainWord w) : Joinable w where
  ne_nil := by
    obtain ⟨c, d, t, rfl, -⟩ := h.exists_cons
    exact List.cons_ne_nil c (d :: t)
  underscore hc := Bool.false_ne_true (h.notSeparator '_' hc).symm

theorem joined_plain (hu : ∀ w ∈ u, IsPlainWord w) : joined u = ['_'].intercalate u := by
  rw [joined, List.filter_eq_self.mpr fun w hw => by simpa using (hu w hw).joinable.ne_nil]

/-- **Plain words after a stem are told apart in every casing.** -/
theorem composeChars_append_inj (hu : ∀ w ∈ u, IsPlainWord w) (hv : ∀ w ∈ v, IsPlainWord w) :
    composeChars (stem ++ u) casing = composeChars (stem ++ v) casing ↔ u = v := by
  refine ⟨fun h => ?_, fun h => h ▸ rfl⟩
  have htwo : ∀ u, composeChars (stem ++ u) casing = composeChars [joined stem, joined u] casing :=
    fun u => congrArg casing.apply (joined_append stem u)
  rw [htwo, htwo, composeChars_inj, joined_plain hu, joined_plain hv] at h
  have hascii : ∀ {u : List (List Char)}, (∀ w ∈ u, IsPlainWord w) →
      ∀ c ∈ ['_'].intercalate u, isAscii c = true := by
    intro u hu c hc
    rcases mem_intercalate hc with hc | ⟨w, hw, hc⟩
    · rw [List.mem_singleton.mp hc]
      rfl
    · exact (hu w hw).ascii c hc
  have hpascal := congrArg snake (h.pascal_eq (hascii hu) (hascii hv))
  rw [snake_pascal_plain hu, snake_pascal_plain hv] at hpascal
  exact (intercalate_inj (fun w hw => (hu w hw).joinable) fun w hw => (hv w hw).joinable).mp hpascal

theorem compose_append_inj {stem u v : List String} (hu : ∀ w ∈ u, IsPlainWord w.toList)
    (hv : ∀ w ∈ v, IsPlainWord w.toList) :
    compose (stem ++ u) casing = compose (stem ++ v) casing ↔ u = v := by
  rw [compose, compose, String.ofList_inj, List.map_append, List.map_append,
    composeChars_append_inj (List.forall_mem_map.mpr hu) (List.forall_mem_map.mpr hv),
    List.map_inj_right fun _ _ => String.toList_injective]

end Identifier

/-! ## The names of a table -/

namespace TableIdentifiers

/-- The names of types and schemas that there are. -/
def objectNames (ids : TableIdentifiers) : List String :=
  [ids.recordType, ids.baseType, ids.readSchema] ++
    [ids.insertSchema, ids.updateSchema, ids.insertType, ids.updateType].filterMap id

/-- The names of transform functions that there are. -/
def transformNames (ids : TableIdentifiers) : List String :=
  [ids.transformBase, ids.transformInsert, ids.transformUpdate].filterMap id

end TableIdentifiers

namespace Naming

/-- What the names of types and schemas start with. -/
def stem (t : Table) (config : Configuration) : List String :=
  [(kindToken? t.kind t.name).getD "", entityName t.name config]

/-- What the names of types and schemas end in. -/
def objectSuffixes (t : Table) : List (List String) :=
  [[], ["base"], ["schema"]] ++
    if t.kind = .table then [["insert", "schema"], ["update", "schema"], ["insert"], ["update"]]
    else []

/-- What the names of transform functions end in. -/
def transformSuffixes (t : Table) (config : Configuration) : List (List String) :=
  if config.caseTransform then
    ["base", "record"] ::
      if t.kind = .table then [["insert", "record"], ["update", "record"]] else []
  else []

section

variable (t : Table) (config : Configuration)

theorem objectNames_eq : (tableIdentifiers t config).objectNames
    = (objectSuffixes t).map fun suffix =>
        compose (stem t config ++ suffix) config.objectCasing := by
  rw [TableIdentifiers.objectNames, objectSuffixes, tableIdentifiers]
  by_cases h : t.kind = .table <;> simp [ifWritable, h, objectName, stem]

theorem transformNames_eq : (tableIdentifiers t config).transformNames
    = (transformSuffixes t config).map fun suffix =>
        compose (("transform" :: stem t config) ++ suffix) config.fieldCasing := by
  rw [TableIdentifiers.transformNames, transformSuffixes, tableIdentifiers]
  by_cases h : t.kind = .table <;> by_cases hcase : config.caseTransform = true <;>
    simp [ifWritable, transformName?, h, hcase, stem]

/-- The words that names end in. -/
def suffixWords : List String := ["base", "schema", "insert", "update", "record"]

theorem mem_objectSuffixes : ∀ suffix ∈ objectSuffixes t, ∀ w ∈ suffix, w ∈ suffixWords := by
  rw [objectSuffixes]
  split <;> decide

theorem mem_transformSuffixes :
    ∀ suffix ∈ transformSuffixes t config, ∀ w ∈ suffix, w ∈ suffixWords := by
  rw [transformSuffixes]
  split
  · split <;> decide
  · exact nofun

theorem objectSuffixes_nodup : (objectSuffixes t).Nodup := by
  rw [objectSuffixes]
  split <;> decide

theorem transformSuffixes_nodup : (transformSuffixes t config).Nodup := by
  rw [transformSuffixes]
  split
  · split <;> decide
  · exact List.nodup_nil

end

theorem isPlainWord_of_mem {w : String} (h : w ∈ suffixWords) : IsPlainWord w.toList := by
  have hlower : ∀ w ∈ suffixWords, 2 ≤ w.toList.length ∧ w.toList.all Char.isLower = true := by
    decide
  exact isPlainWord_of_lower (hlower w h).1 (List.all_eq_true.mp (hlower w h).2)

/-- **Names with one stem are distinct if their endings are.** -/
theorem nodup_compose {suffixes : List (List String)} (stem : List String) (casing : Casing)
    (hwords : ∀ suffix ∈ suffixes, ∀ w ∈ suffix, w ∈ suffixWords) (hnodup : suffixes.Nodup) :
    (suffixes.map fun suffix => compose (stem ++ suffix) casing).Nodup := by
  refine hnodup.map_on fun u hu v hv h => ?_
  have hplain : ∀ suffix ∈ suffixes, ∀ w ∈ suffix, IsPlainWord w.toList :=
    fun suffix hsuffix w hw => isPlainWord_of_mem (hwords suffix hsuffix w hw)
  exact (compose_append_inj (hplain u hu) (hplain v hv)).mp h

/-- **No two types or schemas of a table have one name, and no two of its transform functions
do**, whatever its own name is. -/
theorem tableIdentifiers_nodup (t : Table) (config : Configuration) :
    (tableIdentifiers t config).objectNames.Nodup ∧
      (tableIdentifiers t config).transformNames.Nodup := by
  rw [objectNames_eq, transformNames_eq]
  exact ⟨nodup_compose _ _ (mem_objectSuffixes t) (objectSuffixes_nodup t),
    nodup_compose _ _ (mem_transformSuffixes t config) (transformSuffixes_nodup t config)⟩

example : (tableIdentifiers ⟨"_", "public", .unknown, []⟩ {}).objectNames
    = ["", "Base", "Schema"] := by decide

end Naming

end ValidatorGen
