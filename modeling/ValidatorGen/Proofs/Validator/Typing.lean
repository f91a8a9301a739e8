/-
Types of the values that a validator hands on from step to step. Checks ask for a text or a
number; wrappers add to what may come; the function of a transform is typed as the expression
that it is (`Body`), in which nothing that may be absent is called upon. **A column's validator
is well typed, unless it turns the members of an enumeration into text as if they were dates**
(`isWellTyped_iff`): then its last step calls a date's method on a string
(`not_isWellTyped_holidays`).
-/
import ValidatorGen.Validator.OfColumn

namespace ValidatorGen

namespace Validator

/-- What a value is. -/
inductive ValueType
  | string
  | number
  | boolean
  | date
  /-- Anything at all. -/
  | any
  | array (item : ValueType)
  | orNull (t : ValueType)
  | orUndefined (t : ValueType)
  deriving DecidableEq, Repr

namespace ValueType

/-- The type of a value that is not absent. -/
def present : ValueType → ValueType
  | .orNull t => t.present
  | .orUndefined t => t.present
  | t => t

/-- The type of a value that may be absent as before, and is of the type `u` when it is not. -/
def withPresent (u : ValueType) : ValueType → ValueType
  | .orNull t => .orNull (withPresent u t)
  | .orUndefined t => .orUndefined (withPresent u t)
  | _ => u

end ValueType

/-! ## Functions of transforms -/

/-- The body of a function of `value`. -/
inductive Body
  | value
  /-- The element that a function over an array is given. -/
  | item
  /-- An empty array, if the expression is absent. -/
  | orEmptyArray (e : Body)
  /-- `undefined`, if the expression is absent. -/
  | orUndefined (e : Body)
  /-- The value itself, if it is absent. -/
  | unlessAbsent (e : Body)
  | isoString (e : Body)
  /-- The array with an expression in place of each element. -/
  | mapItems (e body : Body)
  | jsonText (e : Body)

namespace Body

/-- How an expression is written. -/
def text : Body → String
  | .value => "value"
  | .item => "item"
  | .orEmptyArray e => e.text ++ " ?? []"
  | .orUndefined e => e.text ++ " ?? undefined"
  | .unlessAbsent e => "value == null ? value : " ++ e.text
  | .isoString e => e.text ++ ".toISOString()"
  | .mapItems e body => e.text ++ ".map((item) => " ++ body.text ++ ")"
  | .jsonText e => "JSON.stringify(" ++ e.text ++ ")"

/-- The type of an expression, for the types of `value` and of `item`. A method is called on a
date or an array that is surely there, and on nothing else. -/
def type? (value : ValueType) (item : Option ValueType) : Body → Option ValueType
  | .value => some value
  | .item => item
  | .orEmptyArray e =>
    match (e.type? value item).map ValueType.present with
    | some (.array t) => some (.array t)
    | _ => none
  | .orUndefined e => (e.type? value item).map fun t => .orUndefined t.present
  | .unlessAbsent e => (e.type? value.present item).map value.withPresent
  | .isoString e => if e.type? value item = some .date then some .string else none
  | .mapItems e body =>
    match e.type? value item with
    | some (.array t) => (body.type? value (some t)).map .array
    | _ => none
  | .jsonText e => (e.type? value item).map fun _ => .string

end Body

/-- What turns `value` into text, as an expression. -/
def Stringify.body : Stringify → Body
  | .json => .jsonText .value
  | .date => .isoString .value
  | .dates => .mapItems .value (.isoString .item)

/-- The body of the function of a transform. -/
def Transform.body : Transform → Body
  | .emptyArrayDefault => .orEmptyArray .value
  | .undefinedDefault => .orUndefined .value
  | .stringify true how => .unlessAbsent how.body
  | .stringify false how => how.body

/-- What is typed is what is written. -/
theorem text_body (t : Transform) : t.text = "(value) => " ++ t.body.text := by
  rcases t with _ | _ | ⟨_ | _, _ | _ | _⟩ <;> decide

/-! ## Steps -/

/-- What a check is about. -/
def Check.subject : Check → ValueType
  | .trim | .lowerCase | .upperCase | .normalize | .minLength _ | .maxLength _ => .string
  | .nonnegative | .minimum _ | .maximum _ => .number

/-- What a value of a column's type is to a validator. -/
def valueType : SemanticType → ValueType
  | .string | .uuid | .email | .url => .string
  | .int | .number => .number
  | .boolean => .boolean
  | .date => .date
  | .json | .unknown | .any => .any

/-- What comes out of what is checked first. -/
def Base.type : Base → ValueType
  | .readLeaf t _ | .writeLeaf t => valueType t
  | .enumeration _ => .string
  | .reference _ => .any

/-- What comes out of a step, if it fits what comes out of the step before it. -/
def Step.type? (t : ValueType) : Step → Option ValueType
  | .checks list => if list.all fun c => c.subject = t then some t else none
  | .array => some (.array t)
  | .nullable => some (.orNull t)
  | .optional => some (.orUndefined t)
  | .transform f => f.body.type? t none

end Validator

open Validator

/-- What comes out of a validator, if every step fits. -/
def Validator.type? (v : Validator) : Option ValueType := v.steps.foldlM Step.type? v.base.type

/-- Every step of the validator fits what comes out of the step before it. -/
def Validator.IsWellTyped (v : Validator) : Prop := v.type?.isSome

instance (v : Validator) : Decidable v.IsWellTyped :=
  inferInstanceAs (Decidable (v.type?.isSome = true))

namespace Column

/-! ## The steps of a column -/

section

variable {c : Column} {config : Configuration} {ids : ColumnIdentifiers} {mode : Mode}
  {t u : ValueType}

/-- What is checked first is neither an array nor absent. -/
theorem present_base (b : Base) : b.type.present = b.type := by
  rcases b with ⟨t, _⟩ | t | _ | _
  · cases t <;> rfl
  · cases t <;> rfl
  · rfl
  · rfl

theorem valueType_of_isTextual {t : SemanticType} (h : t.isTextual = true) :
    valueType t = .string := by
  cases t <;> simp [SemanticType.isTextual] at h <;> rfl

theorem valueType_of_isNumeric {t : SemanticType} (h : t.isNumeric = true) :
    valueType t = .number := by
  cases t <;> simp [SemanticType.isNumeric] at h <;> rfl

theorem subject_of_mem_textHints {check : Check} (h : check ∈ c.textHints) :
    check.subject = valueType c.semanticType := by
  simp only [textHints] at h
  split at h
  · next htype =>
    rw [htype]
    simp only [List.mem_append, List.mem_ite_nil_right, List.mem_singleton] at h
    rcases h with ((⟨-, rfl⟩ | ⟨-, rfl⟩) | ⟨-, rfl⟩) | ⟨-, rfl⟩ <;> rfl
  · cases h

theorem subject_of_mem_bounds {check : Check} (h : check ∈ c.bounds) :
    check.subject = valueType c.semanticType := by
  simp only [bounds] at h
  split at h
  · next htype =>
    rw [valueType_of_isTextual htype]
    simp only [List.mem_append, Option.mem_toList, Option.map_eq_some_iff] at h
    rcases h with ⟨n, -, rfl⟩ | ⟨n, -, rfl⟩ <;> rfl
  · split at h
    · next htype =>
      rw [valueType_of_isNumeric htype]
      simp only [List.mem_append, Option.mem_toList, Option.map_eq_some_iff] at h
      rcases h with ⟨f, -, rfl⟩ | ⟨f, -, rfl⟩ <;> rfl
    · cases h

/-- Checks are about the values of the column's type. -/
theorem subject_of_mem_writeChecks {check : Check} (h : check ∈ c.writeChecks) :
    check.subject = valueType c.semanticType := by
  simp only [writeChecks, List.mem_append] at h
  rcases h with (h | h) | h
  · exact subject_of_mem_textHints h
  · simp only [List.mem_ite_nil_right, List.mem_singleton, Bool.and_eq_true] at h
    obtain ⟨⟨htype, -⟩, rfl⟩ := h
    exact (valueType_of_isNumeric htype).symm
  · exact subject_of_mem_bounds h

/-- Only values of one type are left to a schema written by hand. -/
theorem reference?_eq_some {name : String} (h : c.reference? config ids = some name) :
    c.semanticType = .json ∧ ids.jsonSchema = some name := by
  rw [reference?, Option.ite_none_right_eq_some, Bool.and_eq_true, decide_eq_true_iff] at h
  exact ⟨h.1.1, h.2⟩

/-- What is checked first is a string where the members of an enumeration are known, and else
a value of the column's type. -/
theorem type_base : (c.base config ids mode).type
    = if c.isEnum && (c.members? ids).isSome then .string else valueType c.semanticType := by
  have hleaf : (c.leaf config mode).type = valueType c.semanticType := by cases mode <;> rfl
  cases henum : c.isEnum
  · cases href : c.reference? config ids with
    | none => simpa [base, henum, href] using hleaf
    | some name =>
      have hjson : c.semanticType = .json := (reference?_eq_some href).1
      simp [base, henum, href, hjson, Base.type, valueType]
  · cases hmembers : c.members? ids with
    | none => simpa [base, henum, hmembers] using hleaf
    | some members => simp [base, henum, hmembers, Base.type]

/-- The checks of a column fit what is checked first. -/
theorem type?_checkSteps : (c.checkSteps mode).foldlM Step.type? (c.base config ids mode).type
    = some (c.base config ids mode).type := by
  rw [checkSteps]
  split
  · next h =>
    simp only [Bool.and_eq_true, Bool.not_eq_true'] at h
    have hbase : (c.base config ids mode).type = valueType c.semanticType := by
      rw [type_base, h.1.2, Bool.false_and]
      rfl
    have hall : (c.writeChecks.all fun check => check.subject = valueType c.semanticType) = true :=
      List.all_eq_true.mpr fun check hcheck => decide_eq_true (subject_of_mem_writeChecks hcheck)
    simp [Step.type?, hbase, hall]
  · rfl

/-- What comes out below the wrappers for absent values. -/
def itemType (c : Column) (config : Configuration) (ids : ColumnIdentifiers) (mode : Mode) :
    ValueType :=
  if c.isArray then .array (c.base config ids mode).type else (c.base config ids mode).type

theorem present_itemType : (c.itemType config ids mode).present = c.itemType config ids mode := by
  rw [itemType]
  split
  · rfl
  · exact present_base _

/-- What stands in for an absent value fits, and leaves a value that is there as it is. -/
theorem type?_default {d : Transform} (hd : c.default? config = some d)
    (hpresent : t.present = c.itemType config ids mode) :
    ∃ u, d.body.type? t none = some u ∧ u.present = c.itemType config ids mode := by
  simp only [default?] at hd
  split at hd
  · cases hd
  · split at hd
    · next harray =>
      cases hd
      simp only [Bool.and_eq_true] at harray
      have hitem : c.itemType config ids mode = .array (c.base config ids mode).type := by
        rw [itemType, if_pos harray.1]
      refine ⟨.array (c.base config ids mode).type, ?_, hitem.symm⟩
      simp only [Transform.body, Body.type?, Option.map_some, hpresent, hitem]
    · split at hd
      · cases hd
        refine ⟨.orUndefined t.present, rfl, ?_⟩
        rw [ValueType.present, hpresent, present_itemType]
      · cases hd

/-- The wrapper for a value that is left out, with what stands in for it. -/
theorem type?_optionalSteps (hpresent : t.present = c.itemType config ids mode) :
    ∃ u, (c.optionalSteps config mode).foldlM Step.type? t = some u ∧
      u.present = c.itemType config ids mode ∧ (c.isOptional mode = false → u = t) := by
  rw [optionalSteps]
  split
  · next h =>
    simp only [h, Bool.true_eq_false, false_implies, and_true]
    cases hd : c.default? config with
    | none => exact ⟨.orUndefined t, rfl, hpresent⟩
    | some d =>
      obtain ⟨u, hu, hup⟩ := type?_default hd (t := .orUndefined t) hpresent
      refine ⟨u, ?_, hup⟩
      simp [Step.type?, hu]
  · exact ⟨t, rfl, hpresent, fun _ => rfl⟩

/-- All steps but the last fit; what comes out is the item, or absent if it may be. -/
theorem type?_validator (c : Column) (config : Configuration) (ids : ColumnIdentifiers)
    (mode : Mode) : ∃ t, t.present = c.itemType config ids mode ∧
      (c.isNullable = false → c.isOptional mode = false → t = c.itemType config ids mode) ∧
      (c.validator config ids mode).type? = (c.stringifySteps config mode).foldlM Step.type? t := by
  have harray : (if c.isArray then [Step.array] else []).foldlM Step.type?
      (c.base config ids mode).type = some (c.itemType config ids mode) := by
    rw [itemType]
    split <;> rfl
  obtain ⟨t, ht, hpresent, hsame⟩ : ∃ t, (if c.isNullable then [Step.nullable] else []).foldlM
      Step.type? (c.itemType config ids mode) = some t ∧ t.present = c.itemType config ids mode ∧
      (c.isNullable = false → t = c.itemType config ids mode) := by
    cases c.isNullable
    · exact ⟨_, rfl, present_itemType, fun _ => rfl⟩
    · exact ⟨_, rfl, present_itemType, nofun⟩
  obtain ⟨u, hu, hupresent, husame⟩ := type?_optionalSteps hpresent
  refine ⟨u, hupresent, fun hnull hopt => (husame hopt).trans (hsame hnull), ?_⟩
  rw [Validator.type?, validator, steps, List.foldlM_append, List.foldlM_append,
    List.foldlM_append, List.foldlM_append, type?_checkSteps]
  simp only [Option.bind_eq_bind, Option.bind_some, harray, ht, hu]

/-- What turns a value into text fits just if it fits a value that is there. -/
theorem isSome_type?_stringify {guarded : Bool} {how : Stringify}
    (hsure : guarded = false → t = t.present) :
    ((Transform.stringify guarded how).body.type? t none).isSome
      = (how.body.type? t.present none).isSome := by
  cases guarded
  · rw [Transform.body, ← hsure rfl]
  · rw [Transform.body, Body.type?, Option.isSome_map]

/-- Values of dates, alone or in an array, become text just if they are dates. -/
theorem isSome_type?_stringifyDate :
    ((if c.isArray then Stringify.dates else Stringify.date).body.type?
      (c.itemType config ids mode) none).isSome = true ↔ (c.base config ids mode).type = .date := by
  rw [itemType]
  cases c.isArray
  · simp [Stringify.body, Body.type?]
  · simp [Stringify.body, Body.type?]

/-- What the type of a column says about its values becoming text. -/
theorem stringify?_eq_some {how : Stringify} (h : c.stringify? config = some how) :
    c.semanticType = .json ∧ how = .json ∨
      c.semanticType = .date ∧ config.stringifyDatesOnWrite = true ∧
        how = if c.isArray then .dates else .date := by
  rw [stringify?] at h
  split at h
  · next htype =>
    rw [Option.ite_none_right_eq_some] at h
    exact .inl ⟨htype, (Option.some.inj h.2).symm⟩
  · next htype =>
    rw [Option.ite_none_right_eq_some] at h
    exact .inr ⟨htype, h.1, (Option.some.inj h.2).symm⟩
  · cases h

/-- The base of a column of dates is no date just if it is an enumeration. -/
theorem type_base_eq_date (htype : c.semanticType = .date) :
    (c.base config ids mode).type = .date ↔ ¬ (c.isEnum = true ∧ (c.members? ids).isSome = true) := by
  rw [type_base, htype, ← Bool.and_eq_true]
  split
  · next h => simp [h]
  · next h => simp [h, valueType]

/-- **A column's validator is well typed, unless dates are to become text and the column is an
enumeration**: the members of an enumeration are strings, whatever the type of the column. -/
theorem isWellTyped_iff (c : Column) (config : Configuration) (ids : ColumnIdentifiers)
    (mode : Mode) : (c.validator config ids mode).IsWellTyped ↔
      ¬ (mode = .write ∧ c.semanticType = .date ∧ config.stringifyDatesOnWrite = true ∧
        c.isEnum = true ∧ (c.members? ids).isSome = true) := by
  obtain ⟨t, hpresent, hsure, htype⟩ := c.type?_validator config ids mode
  rw [Validator.IsWellTyped, htype, stringifySteps]
  split
  · next hwrite =>
    simp only [hwrite, true_and]
    cases hs : c.stringify? config with
    | none =>
      refine iff_of_true rfl ?_
      rintro ⟨hdate, hflag, -⟩
      simp [stringify?, hdate, hflag] at hs
    | some how =>
      have hguard : (c.isNullable || c.isOptional mode) = false → t = t.present := by
        intro h
        rw [Bool.or_eq_false_iff] at h
        rw [hpresent, hsure h.1 h.2]
      have hstep : ([Step.transform (.stringify (c.isNullable || c.isOptional mode) how)].foldlM
          Step.type? t).isSome = (how.body.type? (c.itemType config ids mode) none).isSome := by
        rw [← hpresent, ← isSome_type?_stringify hguard]
        simp [Step.type?]
      rw [hwrite] at hstep
      simp only [Option.map_some, Option.toList_some, hstep]
      rcases stringify?_eq_some hs with ⟨hjson, rfl⟩ | ⟨hdate, hflag, rfl⟩
      · refine iff_of_true rfl ?_
        rintro ⟨hdate, -⟩
        rw [hjson] at hdate
        cases hdate
      · rw [isSome_type?_stringifyDate, type_base_eq_date hdate]
        simp [hdate, hflag]
  · next hread => exact iff_of_true rfl fun h => hread h.1

end

/-- Days that are listed in a check clause. -/
def holidays : Column :=
  { name := "day", semanticType := .date, isEnum := true, enumValues := ["2024-01-01"] }

/-- The members are strings, and the method is one of dates. -/
theorem not_isWellTyped_holidays :
    holidays.syncOptionality = holidays ∧
      holidays.render { stringifyDatesOnWrite := true } {} .write
        = "z.enum([\"2024-01-01\"]).transform((value) => value.toISOString())" ∧
      ¬ (holidays.validator { stringifyDatesOnWrite := true } {} .write).IsWellTyped :=
  ⟨rfl, by decide, by decide⟩

end Column

end ValidatorGen
