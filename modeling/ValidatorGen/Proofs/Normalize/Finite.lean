/-
Which bounds of a row are written as numbers. A plain bound is whatever its word is read as, and
some words are read as what is not finite: names for it, and numbers that are too great. **All bounds
of a row are numbers just if no such word follows the last tag of a plain bound, or the bound is not
one on values** (`finite_bounds`).
-/
import ValidatorGen.Proofs.Annotation.Argument
import ValidatorGen.Proofs.Decimal.Figure
import ValidatorGen.Proofs.Decimal.Written
import ValidatorGen.Proofs.Normalize.Bounds

namespace ValidatorGen

open Annotations (Bound) in
/-- The description bounds the values by what is not finite. -/
def RawColumn.IsBoundless (raw : RawColumn) : Prop :=
  ∃ b ∈ [Bound.min, Bound.max], ∃ w,
    b.IsArgumentIn w (raw.description.getD "").toList ∧ Decimal.IsBoundless w

open Expression Validator

/-- The checks that have a number in them. -/
def Expression.CheckKind.isBound : CheckKind → Bool
  | .minLength | .maxLength | .minimum | .maximum => true
  | .trim | .lowerCase | .upperCase | .normalize | .nonnegative => false

/-- The bounds among some checks are decimal numerals. -/
def Expression.AreDecimal (checks : List Refinement) : Prop :=
  ∀ check ∈ checks, check.kind.isBound = true → Decimal.IsDecimal check.argument.toList

namespace RawColumn

variable {raw : RawColumn} {config : Configuration}

/-- A bound is finite unless it is read from a boundless word. -/
theorem finite_iff {bound : Option Float} {argument : List Char → Prop}
    (h : ∀ f, bound = some f ↔ ∃ w, argument w ∧ Decimal.readFloat? w = some f) :
    (∀ f ∈ bound, f.isFinite = true) ↔ ¬ ∃ w, argument w ∧ Decimal.IsBoundless w := by
  simp only [← Decimal.exists_readFloat?_iff, Option.mem_def, h]
  constructor
  · rintro hfinite ⟨w, hw, f, hread, hf⟩
    rw [hfinite f ⟨w, hw, hread⟩] at hf
    cases hf
  · rintro hnone f ⟨w, hw, hread⟩
    by_contra hf
    exact hnone ⟨w, hw, f, hread, Bool.not_eq_true _ ▸ hf⟩

open Annotations (Bound) in
theorem finite_annotations : ((∀ f ∈ raw.annotations.min, f.isFinite = true) ∧
    ∀ f ∈ raw.annotations.max, f.isFinite = true) ↔ ¬ raw.IsBoundless := by
  have hmin : (∀ f ∈ raw.annotations.min, f.isFinite = true) ↔ ¬ ∃ w,
      Bound.min.IsArgumentIn w (raw.description.getD "").toList ∧ Decimal.IsBoundless w :=
    finite_iff fun _ => Annotations.min_eq_some_iff
  have hmax : (∀ f ∈ raw.annotations.max, f.isFinite = true) ↔ ¬ ∃ w,
      Bound.max.IsArgumentIn w (raw.description.getD "").toList ∧ Decimal.IsBoundless w :=
    finite_iff fun _ => Annotations.max_eq_some_iff
  rw [hmin, hmax, IsBoundless]
  simp

/-! ## The column -/

/-- **The bounds on the values of a column are finite** unless the description says otherwise of a
column that is no text. -/
theorem finite_column : ((∀ f ∈ (raw.column config).minValue, f.isFinite = true) ∧
    ∀ f ∈ (raw.column config).maxValue, f.isFinite = true) ↔
      (raw.mapped config).semanticType.isTextual = true ∨ ¬ raw.IsBoundless := by
  rw [minValue_column, maxValue_column, bounds, ← finite_annotations]
  cases (raw.mapped config).semanticType.isTextual <;> simp

/-! ## The expressions -/

variable {checks checks' : List Refinement}

theorem areDecimal_append :
    AreDecimal (checks ++ checks') ↔ AreDecimal checks ∧ AreDecimal checks' :=
  List.forall_mem_append

theorem areDecimal_textChecks (hints : WriteHints) : AreDecimal (textChecks hints) := by
  rintro check hcheck hbound
  simp only [textChecks, List.mem_append, List.mem_ite_nil_right, List.mem_singleton] at hcheck
  rcases hcheck with ((⟨-, rfl⟩ | ⟨-, rfl⟩) | ⟨-, rfl⟩) | ⟨-, rfl⟩ <;> cases hbound

theorem areDecimal_nonnegative (set : Bool) :
    AreDecimal (if set then [⟨.nonnegative, ""⟩] else []) := by
  rintro check hcheck hbound
  rw [List.mem_ite_nil_right, List.mem_singleton] at hcheck
  obtain ⟨-, rfl⟩ := hcheck
  cases hbound

/-- Lengths are numbers. -/
theorem areDecimal_lengthChecks (low high : Option UInt32) :
    AreDecimal (lengthChecks low high) := by
  rintro check hcheck -
  simp only [lengthChecks, List.mem_append, Option.mem_toList, Option.map_eq_some_iff] at hcheck
  rcases hcheck with ⟨n, -, rfl⟩ | ⟨n, -, rfl⟩ <;> exact Decimal.isDecimal_toString n.toNat

/-- Values are numbers if they are finite. -/
theorem areDecimal_valueChecks (low high : Option Float) : AreDecimal (valueChecks low high) ↔
    (∀ f ∈ low, f.isFinite = true) ∧ ∀ f ∈ high, f.isFinite = true := by
  rw [valueChecks, areDecimal_append]
  refine and_congr ?_ ?_
  · cases low <;> simp [AreDecimal, CheckKind.isBound, Decimal.isDecimal_plainText_iff]
  · cases high <;> simp [AreDecimal, CheckKind.isBound, Decimal.isDecimal_plainText_iff]

theorem areDecimal_checksFor (a : Annotations) (low high : Option UInt32) (type : SemanticType) :
    AreDecimal (checksFor a low high type) ↔ type.isNumeric = false ∨
      (∀ f ∈ a.min, f.isFinite = true) ∧ ∀ f ∈ a.max, f.isFinite = true := by
  have hlengths := areDecimal_lengthChecks low high
  cases type with
  | string =>
    exact iff_of_true (areDecimal_append.mpr ⟨areDecimal_textChecks _, hlengths⟩) (.inl rfl)
  | uuid | email | url => exact iff_of_true hlengths (.inl rfl)
  | int | number =>
    rw [checksFor, areDecimal_append, and_iff_right (areDecimal_nonnegative _),
      areDecimal_valueChecks]
    exact (or_iff_right (by decide)).symm
  | boolean | date | json | unknown | any => exact iff_of_true (List.forall_mem_nil _) (.inl rfl)

/-- **When the bounds of a row are numbers.** The bounds on the values of its column are finite just
if the column is a text, which has no such bounds, or the description gives them no boundless word.
The bounds in its expressions are decimal numerals just if none stand there, or only lengths, or
again the description gives no boundless word. -/
theorem finite_bounds (raw : RawColumn) (config : Configuration) (ids : ColumnIdentifiers) :
    (((∀ f ∈ (raw.column config).minValue, f.isFinite = true) ∧
        ∀ f ∈ (raw.column config).maxValue, f.isFinite = true) ↔
      (raw.mapped config).semanticType.isTextual = true ∨ ¬ raw.IsBoundless) ∧
    ∃ reading, (raw.column config).Says config ids .write reading ∧
      (AreDecimal reading.checks ↔ raw.enumValues ≠ [] ∨
        (raw.mapped config).semanticType.isNumeric = false ∨ ¬ raw.IsBoundless) := by
  refine ⟨finite_column, _, Column.says_reading _ _ _ _, ?_⟩
  rw [checks_reading]
  by_cases henum : raw.enumValues = []
  · rw [if_pos ⟨rfl, henum⟩, writeChecks_column, areDecimal_checksFor, finite_annotations]
    exact (or_iff_right (not_not_intro henum)).symm
  · rw [if_neg fun hboth => henum hboth.2]
    exact iff_of_true (List.forall_mem_nil _) (.inl henum)

/-- A price without an end. -/
def price : RawColumn :=
  { table := "items", name := "price", dataType := "numeric", isNullable := false,
    description := some "@min 0.01 @max inf" }

theorem isBoundless_price : price.IsBoundless := by
  refine ⟨.max, by decide, "inf".toList,
    ⟨[], "@min 0.01 @max inf".toList, [], by decide, ?_, nofun⟩, .inl (by decide)⟩
  exact ⟨["@min".toList, "0.01".toList], "max".toList, [], by decide, by decide, by decide⟩

theorem finite_bounds_price :
    ∃ reading, (price.column {}).Says {} {} .write reading ∧ ¬ AreDecimal reading.checks := by
  obtain ⟨-, reading, hsays, hdecimal⟩ := finite_bounds price {} {}
  refine ⟨reading, hsays, fun h => ?_⟩
  rcases hdecimal.mp h with henum | htype | hbounded
  · exact henum rfl
  · exact absurd htype (by decide)
  · exact hbounded isBoundless_price

/-- The bound reaches the expression under its name, which is none of the language's numbers. -/
theorem not_finite_price : (price.column {}).maxValue.any (!·.isFinite) = true ∧
    (price.column {}).render {} {} .write = "z.number().min(0.01).max(inf)" := by
  decide

end RawColumn

end ValidatorGen
