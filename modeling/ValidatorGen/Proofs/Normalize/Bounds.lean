/-
The bounds of a row, on their way from its description into the expressions that are written for it.
Where a bound on a length comes from is a matter of three places in turn (`LengthBound`), and what
becomes of a bound is a matter of the type (`checksFor`). **The expressions of a row carry just
these checks, in the order of the table, in every dialect** (`checks_render`).
-/
import ValidatorGen.Normalize.Row
import ValidatorGen.Proofs.Decimal.Value
import ValidatorGen.Proofs.Validator.Dialects

namespace ValidatorGen

open Expression Validator

namespace Column

/-- What the expressions of a column say: one and the same reading in every dialect. The two chained
dialects differ in what is checked first only. -/
structure Says (c : Column) (config : Configuration) (ids : ColumnIdentifiers) (mode : Mode)
    (reading : Reading) : Prop where
  dialects : ∀ d : Dialect, d.Says ids (c.render { config with dialect := d } ids mode) reading
  remainder : ∃ remainder,
    c.render { config with dialect := .v1 } ids mode
        = Dialect.v1.base (c.base config ids mode) ++ remainder ∧
      c.render { config with dialect := .v2 } ids mode
        = Dialect.v2.base (c.base config ids mode) ++ remainder

theorem says_reading (c : Column) (config : Configuration) (ids : ColumnIdentifiers) (mode : Mode) :
    c.Says config ids mode (c.reading config ids mode) where
  dialects d := c.says_render { config with dialect := d } ids mode
  remainder := spell_eq_append (c.validator config ids mode)

end Column

namespace RawColumn

/-! ## What is asked for -/

/-- Where a bound on a length comes from: the tag for lengths, or else the tag for values, if its
argument stands for a whole number of 32 bits, or else what the engine reports. -/
inductive LengthBound (tag : Option UInt32) (plain : Option Float) (declared : Option UInt32) :
    Option UInt32 → Prop
  | tag {n : UInt32} (htag : tag = some n) : LengthBound tag plain declared (some n)
  | plain {f : Float} {n : UInt32} (htag : tag = none) (hplain : plain = some f)
      (hwhole : Decimal.value? f = some (n.toNat : ℚ)) : LengthBound tag plain declared (some n)
  | declared (htag : tag = none)
      (hplain : ∀ f ∈ plain, ∀ n : UInt32, Decimal.value? f ≠ some (n.toNat : ℚ)) :
      LengthBound tag plain declared declared

/-- The least and the greatest length of a text, as far as they are bounded. -/
def lengthChecks (low high : Option UInt32) : List Refinement :=
  (low.map fun n => ⟨.minLength, toString n.toNat⟩).toList
    ++ (high.map fun n => ⟨.maxLength, toString n.toNat⟩).toList

/-- The least and the greatest value of a number, as far as they are bounded. -/
def valueChecks (low high : Option Float) : List Refinement :=
  (low.map fun f => ⟨.minimum, Decimal.plainText f⟩).toList
    ++ (high.map fun f => ⟨.maximum, Decimal.plainText f⟩).toList

/-- What is asked of a text before it is written. -/
def textChecks (hints : WriteHints) : List Refinement :=
  (if hints.trim then [⟨.trim, ""⟩] else []) ++ (if hints.lowercase then [⟨.lowerCase, ""⟩] else [])
    ++ (if hints.uppercase then [⟨.upperCase, ""⟩] else [])
    ++ (if hints.normalize then [⟨.normalize, ""⟩] else [])

/-- The checks on values of a type, given what the description says and the bounds on the length. -/
def checksFor (a : Annotations) (low high : Option UInt32) : SemanticType → List Refinement
  | .string => textChecks a.hints ++ lengthChecks low high
  | .uuid | .email | .url => lengthChecks low high
  | .int | .number =>
    (if a.hints.nonnegative then [⟨.nonnegative, ""⟩] else []) ++ valueChecks a.min a.max
  | .boolean | .date | .json | .unknown | .any => []

section

variable {raw : RawColumn} {config : Configuration} {tag declared low low' : Option UInt32}
  {plain : Option Float}

/-- The three places settle on one bound at most. -/
theorem LengthBound.unique (h : LengthBound tag plain declared low)
    (h' : LengthBound tag plain declared low') : low = low' := by
  cases h with
  | tag htag =>
    cases h' with
    | tag htag' => exact htag.symm.trans htag'
    | plain htag' | declared htag' => simp [htag] at htag'
  | plain htag hplain hwhole =>
    cases h' with
    | tag htag' => simp [htag] at htag'
    | plain _ hplain' hwhole' =>
      cases hplain.symm.trans hplain'
      have hnat := Option.some.inj (hwhole.symm.trans hwhole')
      exact congrArg some (UInt32.toNat_inj.mp (by exact_mod_cast hnat))
    | declared _ hplain' => exact absurd hwhole (hplain' _ hplain _)
  | declared htag hplain =>
    cases h' with
    | tag htag' => simp [htag] at htag'
    | plain _ hplain' hwhole' => exact absurd hwhole' (hplain _ hplain' _)
    | declared => rfl

/-- The bound that is found is one that the three places settle on. -/
theorem lengthBound (tag : Option UInt32) (plain : Option Float) (declared : Option UInt32) :
    LengthBound tag plain declared
      ((tag.or (plain.bind Decimal.wholeUInt32?)).or declared) := by
  cases tag with
  | some n => exact .tag rfl
  | none =>
    cases hwhole : plain.bind Decimal.wholeUInt32? with
    | some n =>
      obtain ⟨f, hplain, hf⟩ := Option.bind_eq_some_iff.mp hwhole
      exact .plain rfl hplain (Decimal.wholeUInt32?_eq_some_iff.mp hf)
    | none =>
      refine .declared rfl fun f hf n hn => ?_
      rw [show plain = some f from hf, Option.bind_some,
        Decimal.wholeUInt32?_eq_some_iff.mpr hn] at hwhole
      cases hwhole

/-! ## What is written -/

theorem semanticType_column :
    (raw.column config).semanticType = (raw.mapped config).semanticType := by
  rw [column, Column.syncOptionality]

theorem writeHints_column : (raw.column config).writeHints = raw.annotations.hints := by
  rw [column, Column.syncOptionality]

theorem minLength_column : (raw.column config).minLength
    = (raw.bounds (raw.mapped config).semanticType).minLength := by
  rw [column, Column.syncOptionality]

theorem maxLength_column : (raw.column config).maxLength
    = (raw.bounds (raw.mapped config).semanticType).maxLength := by
  rw [column, Column.syncOptionality]

theorem minValue_column : (raw.column config).minValue
    = (raw.bounds (raw.mapped config).semanticType).minValue := by
  rw [column, Column.syncOptionality]

theorem maxValue_column : (raw.column config).maxValue
    = (raw.bounds (raw.mapped config).semanticType).maxValue := by
  rw [column, Column.syncOptionality]

theorem isEnum_column : (raw.column config).isEnum = !raw.enumValues.isEmpty := by
  rw [column, Column.syncOptionality]

theorem map_if (b : Bool) (check : Check) :
    (if b then [check] else []).map Check.refinement = if b then [check.refinement] else [] := by
  cases b <;> rfl

/-- The column that a row becomes has the checks of the table. -/
theorem writeChecks_column : (raw.column config).writeChecks.map Check.refinement
    = checksFor raw.annotations
        ((raw.annotations.minLength.or (raw.annotations.min.bind Decimal.wholeUInt32?)).or none)
        ((raw.annotations.maxLength.or (raw.annotations.max.bind Decimal.wholeUInt32?)).or
          raw.maxLength)
        (raw.mapped config).semanticType := by
  simp only [Column.writeChecks, Column.textHints, Column.bounds, semanticType_column,
    writeHints_column, minLength_column, maxLength_column, minValue_column, maxValue_column, bounds,
    Option.or_none]
  generalize raw.annotations = a
  cases (raw.mapped config).semanticType with
  | string =>
    simp [checksFor, textChecks, lengthChecks, SemanticType.isTextual, SemanticType.isNumeric,
      map_if, Option.toList_map, Check.refinement, Check.kind, Check.argument, Function.comp_def]
  | uuid | email | url =>
    simp [checksFor, lengthChecks, SemanticType.isTextual, SemanticType.isNumeric,
      Option.toList_map, Check.refinement, Check.kind, Check.argument, Function.comp_def]
  | int | number =>
    simp [checksFor, valueChecks, SemanticType.isTextual, SemanticType.isNumeric, map_if,
      Option.toList_map, Check.refinement, Check.kind, Check.argument, Function.comp_def]
  | boolean | date | json | unknown | any => rfl

/-- The expressions of the column that a row becomes have its checks just if they are for writing
and the row lists no values. -/
theorem checks_reading (ids : ColumnIdentifiers) (mode : Mode) :
    ((raw.column config).reading config ids mode).checks
      = if mode = .write ∧ raw.enumValues = [] then
          (raw.column config).writeChecks.map Check.refinement else [] := by
  have hchecks : ∀ c : Column, (c.reading config ids mode).checks
      = (c.valueChecks mode).map Check.refinement := fun _ => rfl
  rw [hchecks, Column.valueChecks, isEnum_column, Bool.not_not]
  generalize (raw.column config).writeChecks = checks
  cases raw.enumValues <;> cases mode <;> rfl

end

/-- **The checks in the expressions of a row.** Those that are written for values have the checks of
the table, unless the row lists its values; those that are read with have none. -/
theorem checks_render (raw : RawColumn) (config : Configuration) (ids : ColumnIdentifiers)
    (mode : Mode) :
    ∃ low high,
      LengthBound raw.annotations.minLength raw.annotations.min none low ∧
      LengthBound raw.annotations.maxLength raw.annotations.max raw.maxLength high ∧
      ∃ reading, (raw.column config).Says config ids mode reading ∧
        reading.checks = if mode = .write ∧ raw.enumValues = [] then
          checksFor raw.annotations low high (raw.mapped config).semanticType else [] := by
  refine ⟨_, _, lengthBound _ _ _, lengthBound _ _ _, _, Column.says_reading _ _ _ _, ?_⟩
  rw [checks_reading, writeChecks_column]

/-- A name whose description has one plain bound that is whole and one that is not. -/
def nickname : RawColumn :=
  { table := "users", name := "nickname", dataType := "varchar(80)", isNullable := false,
    maxLength := some 80, description := some "@trim @min 2.0 @max 20.5" }

theorem checks_render_nickname : ∃ reading, (nickname.column {}).Says {} {} .write reading ∧
    reading.checks = [⟨.trim, ""⟩, ⟨.minLength, "2"⟩, ⟨.maxLength, "80"⟩] := by
  obtain ⟨low, high, hlow, hhigh, reading, hsays, hchecks⟩ := checks_render nickname {} {} .write
  have htype : (nickname.mapped {}).semanticType = .string := by decide
  have hhints : nickname.annotations.hints = { trim := true } := by decide
  obtain rfl : low = some 2 := (hlow.unique (lengthBound _ _ _)).trans (by decide)
  obtain rfl : high = some 80 := (hhigh.unique (lengthBound _ _ _)).trans (by decide)
  rw [if_pos ⟨rfl, rfl⟩, htype, checksFor, hhints] at hchecks
  exact ⟨reading, hsays, hchecks⟩

end RawColumn

end ValidatorGen
