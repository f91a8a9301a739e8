/-
Which wrappers the expressions of a column have (`filter_isWrapper_layers`), and what follows the
wrapper for a value that is left out: **what stands in for it, if anything does**
(`default_infix_layers`).
-/
import Mathlib.Data.List.Basic
import ValidatorGen.Proofs.Validator.Dialects

namespace ValidatorGen

open Expression Validator

namespace Expression.Layer

/-- A layer that lets more values through. -/
def IsWrapper : Layer → Prop
  | .transform _ => False
  | .array | .nullable | .optional => True

instance : DecidablePred IsWrapper
  | .transform _ => .isFalse id
  | .array | .nullable | .optional => .isTrue trivial

end Expression.Layer

/-- A transform for absent values. -/
def Validator.Transform.IsDefault : Transform → Prop
  | .emptyArrayDefault | .undefinedDefault => True
  | .stringify _ _ => False

namespace Column

variable {c : Column} {config : Configuration} {mode : Mode} {layer : Layer}

theorem mem_stringifyLayers (h : layer ∈ c.stringifyLayers config mode) :
    ∃ guarded how, layer = .transform (.stringify guarded how) := by
  rw [stringifyLayers] at h
  split at h
  · rw [Option.mem_toList, Option.map_eq_some_iff] at h
    obtain ⟨how, -, rfl⟩ := h
    exact ⟨_, _, rfl⟩
  · cases h

/-- **A column's expression has the wrappers that the column asks for**, from the inside. -/
theorem filter_isWrapper_layers : (c.layers config mode).filter (·.IsWrapper)
    = (if c.isArray then [.array] else []) ++ (if c.isNullable then [.nullable] else [])
      ++ (if c.isOptional mode then [.optional] else []) := by
  have hoptional : (c.optionalLayers config mode).filter (·.IsWrapper)
      = if c.isOptional mode then [.optional] else [] := by
    rw [optionalLayers]
    split
    · cases c.default? config <;> rfl
    · rfl
  have hstringify : (c.stringifyLayers config mode).filter (·.IsWrapper) = [] :=
    List.filter_eq_nil_iff.mpr fun layer hlayer => by
      obtain ⟨_, _, rfl⟩ := mem_stringifyLayers hlayer
      exact Bool.false_ne_true
  rw [layers, List.filter_append, List.filter_append, List.filter_append, hoptional, hstringify,
    List.append_nil]
  cases c.isArray <;> cases c.isNullable <;> rfl

/-- The wrappers are put on in one order, and each of them once. -/
theorem filter_isWrapper_sublist :
    ((c.layers config mode).filter (·.IsWrapper)).Sublist [.array, .nullable, .optional] := by
  have hif : ∀ (b : Bool) (layer : Layer), (if b then [layer] else []).Sublist [layer] :=
    fun b layer => by cases b <;> simp
  rw [filter_isWrapper_layers]
  exact ((hif c.isArray .array).append (hif c.isNullable .nullable)).append
    (hif (c.isOptional mode) .optional)

theorem mem_layers_iff (h : layer.IsWrapper) : layer ∈ c.layers config mode ↔
    c.isArray = true ∧ layer = .array ∨ c.isNullable = true ∧ layer = .nullable ∨
      c.isOptional mode = true ∧ layer = .optional := by
  have hfilter : layer ∈ c.layers config mode
      ↔ layer ∈ (c.layers config mode).filter (·.IsWrapper) := by
    simp [h]
  rw [hfilter, filter_isWrapper_layers]
  simp only [List.mem_append, List.mem_ite_nil_right, List.mem_singleton, or_assoc]

theorem array_mem_layers : Layer.array ∈ c.layers config mode ↔ c.isArray = true := by
  have hwrapper : Layer.IsWrapper .array := trivial
  simp [mem_layers_iff hwrapper]

theorem nullable_mem_layers : Layer.nullable ∈ c.layers config mode ↔ c.isNullable = true := by
  have hwrapper : Layer.IsWrapper .nullable := trivial
  simp [mem_layers_iff hwrapper]

theorem optional_mem_layers :
    Layer.optional ∈ c.layers config mode ↔ c.isOptional mode = true := by
  have hwrapper : Layer.IsWrapper .optional := trivial
  simp [mem_layers_iff hwrapper]

/-- What follows an element that is there once. -/
theorem pair_infix_iff {α : Type} {a b : α} {before after : List α} (hbefore : a ∉ before)
    (hafter : a ∉ after) : [a, b] <:+: before ++ a :: after ↔ after.head? = some b := by
  rw [List.head?_eq_some_iff]
  constructor
  · rintro ⟨left, right, h⟩
    rw [List.append_assoc, List.cons_append, List.singleton_append] at h
    obtain ⟨-, -, h⟩ := (List.append_cons_inj_of_notMem hbefore hafter).mp h.symm
    exact ⟨right, h⟩
  · rintro ⟨rest, rfl⟩
    exact ⟨before, rest, by simp⟩

/-- **What stands in for an absent value comes right after the wrapper for it**, and nothing
that stands in for one comes there otherwise. -/
theorem default_infix_layers {d : Transform} (hd : d.IsDefault) :
    [.optional, .transform d] <:+: c.layers config mode ↔
      c.isOptional mode = true ∧ c.default? config = some d := by
  have hstringify : Layer.optional ∉ c.stringifyLayers config mode := fun h => by
    obtain ⟨_, _, h⟩ := mem_stringifyLayers h
    cases h
  have hhead : (c.stringifyLayers config mode).head? ≠ some (.transform d) := fun h => by
    obtain ⟨_, _, h⟩ := mem_stringifyLayers (List.mem_of_head? h)
    cases h
    exact hd
  by_cases hoptional : c.isOptional mode = true
  · have hbefore : Layer.optional ∉ (if c.isArray then [Layer.array] else [])
        ++ (if c.isNullable then [.nullable] else []) := by
      simp
    have hlayers : c.layers config mode = ((if c.isArray then [Layer.array] else [])
        ++ (if c.isNullable then [.nullable] else []))
        ++ .optional :: (((c.default? config).map Layer.transform).toList
          ++ c.stringifyLayers config mode) := by
      rw [layers, optionalLayers, if_pos hoptional, List.append_assoc _ (Layer.optional :: _) _,
        List.cons_append]
    rw [hlayers, pair_infix_iff hbefore]
    · cases hdefault : c.default? config with
      | none => simp [hhead]
      | some d' => simp [hoptional]
    · cases hdefault : c.default? config <;> simp [hstringify]
  · refine iff_of_false (fun h => hoptional ?_) fun h => hoptional h.1
    exact optional_mem_layers.mp (h.subset List.mem_cons_self)

theorem default?_eq_emptyArray : c.default? config = some .emptyArrayDefault ↔
    c.isNullable = true ∧ c.isArray = true ∧ config.emptyArrayDefault = true := by
  cases hnull : c.isNullable <;> cases harray : c.isArray <;> cases hflag : config.emptyArrayDefault
    <;> simp [default?, hnull, harray, hflag]

theorem default?_eq_undefined : c.default? config = some .undefinedDefault ↔
    c.isNullable = true ∧ config.undefinedDefault = true ∧
      ¬ (c.isArray = true ∧ config.emptyArrayDefault = true) := by
  cases hnull : c.isNullable <;> cases harray : c.isArray <;> cases hflag : config.emptyArrayDefault
    <;> simp [default?, hnull, harray, hflag]

end Column

end ValidatorGen
