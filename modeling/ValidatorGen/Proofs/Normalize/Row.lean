/-
What a row says about its column, in the terms of the row alone: whether it has a default,
whether the engine generates its values, and whether it may be written. The column that is made
of the row agrees (`isWriteOptional_column`, `isWritable_column_iff`).
-/
import ValidatorGen.Normalize.Row

namespace ValidatorGen

theorem Text.occursIn_iff {needle text : List Char} :
    Text.occursIn needle text = true ↔ needle <:+: text := by
  induction text with
  | nil => rw [occursIn, List.isEmpty_iff, List.infix_nil]
  | cons c rest ih => rw [occursIn, Bool.or_eq_true, List.isPrefixOf_iff_prefix, ih, List.infix_cons_iff]

/-- A default that the engine counts up, told from its text in lower case. -/
theorem isGeneratedDefault_iff {text : String} : isGeneratedDefault text = true ↔
    "nextval(".toList <+: Text.asciiLowercase text.toList ∨
      "auto_increment".toList <:+: Text.asciiLowercase text.toList := by
  simp only [isGeneratedDefault, Bool.or_eq_true, List.isPrefixOf_iff_prefix, Text.occursIn_iff]

namespace RawColumn

/-- The row has a default that is more than white space. -/
def HasDefault (raw : RawColumn) : Prop :=
  ∃ text, raw.defaultValue = some text ∧ Text.trim text.toList ≠ []

/-- The default of a row, trimmed, is one that the engine counts up, in any letter case. -/
def HasGeneratedDefault (raw : RawColumn) : Prop :=
  ∃ text, raw.defaultValue = some text ∧
    ("nextval(".toList <+: Text.asciiLowercase (Text.trim text.toList) ∨
      "auto_increment".toList <:+: Text.asciiLowercase (Text.trim text.toList))

/-- The engine generates the values: by identity, by the type or by default. -/
def IsGenerated (config : Configuration) (raw : RawColumn) : Prop :=
  raw.isIdentity = true ∨ (ColumnType.map raw.dataType config.typeFallback).isSerial = true ∨
    raw.HasGeneratedDefault

/-- The row is one of a base table, and its values are not generated. -/
def IsWritten (config : Configuration) (raw : RawColumn) : Prop :=
  raw.tableKind = .table ∧ ¬ raw.IsGenerated config

/-- The declared type of the row is that of an array. -/
def IsArray (config : Configuration) (raw : RawColumn) : Prop :=
  (ColumnType.map raw.dataType config.typeFallback).isArray = true

section

variable {raw : RawColumn} {config : Configuration}

theorem default?_eq_some_iff {d : String} : raw.default? = some d ↔
    ∃ text, raw.defaultValue = some text ∧ Text.trim text.toList ≠ [] ∧
      d = String.ofList (Text.trim text.toList) := by
  simp only [default?, Option.filter_eq_some_iff, Option.map_eq_some_iff, decide_eq_true_eq]
  constructor
  · rintro ⟨⟨text, htext, rfl⟩, hne⟩
    refine ⟨text, htext, fun hnil => hne ?_, rfl⟩
    rw [hnil, String.ofList_nil]
  · rintro ⟨text, htext, hne, rfl⟩
    refine ⟨⟨text, htext, rfl⟩, fun hempty => hne ?_⟩
    rw [← String.toList_ofList (l := Text.trim text.toList), hempty, String.toList_empty]

theorem isSome_default?_iff : raw.default?.isSome = true ↔ raw.HasDefault := by
  rw [Option.isSome_iff_exists]
  constructor
  · rintro ⟨d, hd⟩
    obtain ⟨text, htext, hne, -⟩ := default?_eq_some_iff.mp hd
    exact ⟨text, htext, hne⟩
  · rintro ⟨text, htext, hne⟩
    exact ⟨_, default?_eq_some_iff.mpr ⟨text, htext, hne, rfl⟩⟩

/-- A default that counts up is more than white space. -/
theorem any_isGeneratedDefault_iff :
    raw.default?.any isGeneratedDefault = true ↔ raw.HasGeneratedDefault := by
  rw [Option.any_eq_true]
  constructor
  · rintro ⟨d, hd, hgen⟩
    obtain ⟨text, htext, -, rfl⟩ := default?_eq_some_iff.mp hd
    rw [isGeneratedDefault_iff, String.toList_ofList (l := Text.trim text.toList)] at hgen
    exact ⟨text, htext, hgen⟩
  · rintro ⟨text, htext, hgen⟩
    refine ⟨_, default?_eq_some_iff.mpr ⟨text, htext, ?_, rfl⟩, ?_⟩
    · intro hnil
      rw [hnil] at hgen
      revert hgen
      decide
    · rwa [isGeneratedDefault_iff, String.toList_ofList (l := Text.trim text.toList)]

theorem isGenerated_iff : raw.isGenerated config = true ↔ raw.IsGenerated config := by
  rw [isGenerated, Bool.or_eq_true, Bool.or_eq_true, any_isGeneratedDefault_iff, mapped,
    IsGenerated, or_assoc, or_left_comm]

instance : DecidablePred (IsGenerated config) := fun _ => decidable_of_iff _ isGenerated_iff

instance : DecidablePred (IsWritten config) := fun _ =>
  inferInstanceAs (Decidable (_ ∧ ¬ _))

/-! ## The column of a row -/

theorem isNullable_column : (raw.column config).isNullable = raw.isNullable := by
  rw [column, Column.syncOptionality]

theorem isArray_column : (raw.column config).isArray = true ↔ raw.IsArray config := by
  rw [column, Column.syncOptionality, IsArray, mapped]

theorem isReadOptional_column : (raw.column config).isReadOptional = raw.isNullable := by
  rw [column, Column.syncOptionality]

theorem isWriteOptional_column : (raw.column config).isWriteOptional = true ↔
    raw.isNullable = true ∨ raw.HasDefault := by
  rw [column, Column.syncOptionality, ← isSome_default?_iff, ← Bool.or_eq_true, Column.hasDefault]

theorem isWritable_column_iff :
    (raw.column config).isWritable = true ↔ raw.IsWritten config := by
  rw [IsWritten, ← isGenerated_iff, column, Column.syncOptionality]
  simp [and_comm]

end

end RawColumn

end ValidatorGen
