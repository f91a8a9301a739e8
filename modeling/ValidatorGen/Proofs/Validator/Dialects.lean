/-
What the expressions of a column say is the same in every dialect: a column has one reading in each
mode (`Column.reading`), its expression is that reading written out (`Column.says_render`), and the
reader of the dialect finds it again. **So the texts of the chained dialect tell columns apart just
as those of the composed one do** (`Column.readings_render`). The two chained dialects differ in the
leaf only (`Validator.spell_eq_append`).
-/
import ValidatorGen.Proofs.Decimal.Plain
import ValidatorGen.Proofs.Validator.Refined
import ValidatorGen.Proofs.Validator.Typing

namespace ValidatorGen

open Expression

namespace Validator

/-! ## The reading of a base and of a check -/

/-- The type that rows are checked for when they are read. -/
def readType : SemanticType → SemanticType
  | .string | .uuid | .email | .url => .string
  | .int | .number => .number
  | .boolean => .boolean
  | .date => .date
  | .json | .unknown => .unknown
  | .any => .any

/-- What a base says. -/
def Base.head : Base → Head
  | .readLeaf .date true => .coercedDate
  | .readLeaf type _ => .leaf (readType type)
  | .writeLeaf type => .leaf type
  | .enumeration members => .enumeration members
  | .reference name => .reference name

/-- What a check asks for. -/
def Check.kind : Check → CheckKind
  | .trim => .trim
  | .lowerCase => .lowerCase
  | .upperCase => .upperCase
  | .normalize => .normalize
  | .nonnegative => .nonnegative
  | .minLength _ => .minLength
  | .maxLength _ => .maxLength
  | .minimum _ => .minimum
  | .maximum _ => .maximum

/-- The bound of a check, written out. -/
def Check.argument : Check → String
  | .trim | .lowerCase | .upperCase | .normalize | .nonnegative => ""
  | .minLength n | .maxLength n => toString n.toNat
  | .minimum f | .maximum f => Decimal.plainText f

/-- What a check says. -/
def Check.refinement (check : Check) : Refinement := ⟨check.kind, check.argument⟩

/-- The step that puts a layer on. -/
def layerStep : Layer → Step
  | .array => .array
  | .nullable => .nullable
  | .optional => .optional
  | .transform t => .transform t

/-- The step of some checks, unless there are none. -/
def checkStep (list : List Check) : List Step := if list.isEmpty then [] else [.checks list]

/-- A validator with checks on the value itself and layers around it. -/
def layered (base : Base) (list : List Check) (layers : List Layer) : Validator :=
  ⟨base, checkStep list ++ layers.map layerStep⟩

/-! ## What the dialects write -/

section

variable (base : Base) (list : List Check) (layers : List Layer)

theorem chain_concat {tokens : List Token} (h : tokens ≠ []) (t : Token) :
    chain (tokens ++ [t]) = chain tokens ++ "." ++ t.text := by
  rw [chain, List.map_append, String.intercalate_append_of_ne_nil (by simpa using h) (by simp)]
  simp [chain]

theorem chain_member (name argument : String) :
    chain (member name argument) = "z." ++ call name argument := by
  simp [chain, member, namespaceToken, Token.text, String.intercalate_cons_cons]

/-- What stands before a name that is called stands before the call. -/
theorem call_append (qualifier name argument : String) :
    call (qualifier ++ name) argument = qualifier ++ call name argument := by
  simp [call, String.append_assoc]

theorem formatLeaf_eq (type : SemanticType) :
    formatLeaf type = chain (Head.leaf type).tokens := by
  cases type <;> rfl

theorem base_chained : Dialect.v2.base base = chain base.head.tokens := by
  cases base with
  | readLeaf type coerceDates =>
    cases type <;> cases coerceDates <;> rfl
  | writeLeaf type => exact formatLeaf_eq type
  | enumeration members => exact (chain_member "enum" members.text).symm
  | reference name => simp [Dialect.base, Base.head, Head.tokens, chain, Token.text]

theorem chained_eq (check : Check) : check.chained = check.refinement.chained.text := by
  cases check <;> rfl

/-- Formats refine a plain leaf in the first dialect, where they are strict. -/
theorem base_refined : Dialect.v1.base base = chain base.head.refined := by
  cases base with
  | readLeaf type coerceDates =>
    cases type <;> cases coerceDates <;> rfl
  | writeLeaf type => cases type <;> rfl
  | enumeration members => exact (chain_member "enum" members.text).symm
  | reference name => exact (String.intercalate_singleton ..).symm

theorem composed_eq (check : Check) : check.composed = chain check.refinement.composed := by
  rw [Refinement.composed, chain_member]
  cases check <;> rfl

/-- The chained dialect adds one token for every check. -/
theorem checks_chained {tokens : List Token} (h : tokens ≠ []) :
    Dialect.v2.checks (chain tokens) list
      = chain (tokens ++ (list.map Check.refinement).map Refinement.chained) := by
  rw [Dialect.checks]
  induction list generalizing tokens with
  | nil => simp
  | cons check list ih =>
    rw [List.foldl_cons, chained_eq, ← chain_concat h, ih (by simp)]
    simp

/-- The chained dialect adds one token for a layer. -/
theorem layer_chained (expr : String) (layer : Layer) :
    Dialect.v2.step expr (layerStep layer) = expr ++ "." ++ layer.chained.text := by
  rw [String.append_assoc]
  cases layer with
  | transform t =>
    have hcall : call ".transform" t.text = "." ++ call "transform" t.text :=
      call_append "." "transform" t.text
    show expr ++ call ".transform" t.text = _
    rw [hcall]
    rfl
  | array | nullable | optional => rfl

/-- Layers lengthen a chain at its end, so the chain so far is any. -/
theorem layers_chained {tokens : List Token} (h : tokens ≠ []) :
    (layers.map layerStep).foldl Dialect.v2.step (chain tokens)
      = chain (tokens ++ layers.map Layer.chained) := by
  induction layers generalizing tokens with
  | nil => simp
  | cons layer layers ih =>
    rw [List.map_cons, List.foldl_cons, layer_chained, ← chain_concat h, ih (by simp)]
    simp

/-- The step of no checks leaves an expression as it is. -/
theorem foldl_checkStep (d : Dialect) (expr : String) :
    (checkStep list).foldl d.step expr = d.checks expr list := by
  cases list with
  | nil => cases d <;> rfl
  | cons check list => rfl

/-- The steps of a validator lengthen a chain by the links of its reading. -/
theorem steps_chained (head : Head) {tokens : List Token} (h : tokens ≠ []) :
    (checkStep list ++ layers.map layerStep).foldl Dialect.v2.step (chain tokens)
      = chain (tokens ++ (Reading.links ⟨head, list.map Check.refinement, layers⟩)) := by
  rw [List.foldl_append, foldl_checkStep, checks_chained list h,
    layers_chained layers (List.append_ne_nil_of_left_ne_nil h _), List.append_assoc]
  rfl

/-- **In the chained dialect a validator is the chain of its reading.** -/
theorem spell_chained : Dialect.v2.spell (layered base list layers)
    = chain (Reading.chained ⟨base.head, list.map Check.refinement, layers⟩) := by
  rw [Dialect.spell, layered, base_chained]
  exact steps_chained list layers base.head base.head.tokens_ne_nil

/-- Steps are put on alike in the two chained dialects. -/
theorem step_refined : Dialect.v1.step = Dialect.v2.step := by
  funext expr s
  cases s <;> rfl

/-- **In the first dialect a validator is the chain of its reading, from a head of its own.** -/
theorem spell_refined : Dialect.v1.spell (layered base list layers)
    = chain (Reading.refined ⟨base.head, list.map Check.refinement, layers⟩) := by
  rw [Dialect.spell, layered, base_refined, step_refined]
  exact steps_chained list layers base.head base.head.refined_ne_nil

/-- The composed dialect makes one call of all checks. -/
theorem checks_composed {tokens : List Token} (h : tokens ≠ []) :
    Dialect.v2Lite.checks (chain tokens) list
      = chain (tokens ++ checkCall (list.map Check.refinement)) := by
  rw [Dialect.checks]
  cases list with
  | nil => simp [checkCall]
  | cons check list =>
    have hcall : ∀ argument, call ".check" argument = "." ++ call "check" argument :=
      call_append "." "check"
    have hlist : (check :: list).map Check.composed
        = ((check :: list).map Check.refinement).map fun r => chain r.composed := by
      rw [List.map_map]
      exact List.map_congr_left fun check _ => composed_eq check
    rw [checkCall, if_neg (by simp), if_neg (by simp), chain_concat h, String.append_assoc, hlist, hcall]
    rfl

/-- The composed dialect makes one call of a layer, around what the layer is put on. -/
theorem layer_composed (expr : String) (layer : Layer) :
    Dialect.v2Lite.step expr (layerStep layer) = chain (layer.composed expr) := by
  have hcall : ∀ name argument, call ("z." ++ name) argument = "z." ++ call name argument :=
    call_append "z."
  rw [Layer.composed, chain_member]
  cases layer with
  | transform t =>
    rw [← hcall]
    simp only [Layer.wrapped, chain_member, String.intercalate_cons_cons,
      String.intercalate_singleton, ← hcall]
    simp [Dialect.step, Dialect.transform, layerStep, call, Layer.wrapper, String.append_assoc]
  | array => exact hcall "array" expr
  | nullable => exact hcall "nullable" expr
  | optional => exact hcall "optional" expr

/-- **In the composed dialect a validator is the composition of its reading.** -/
theorem spell_composed : Dialect.v2Lite.spell (layered base list layers)
    = chain (Reading.composed ⟨base.head, list.map Check.refinement, layers⟩) := by
  have hlayers : ∀ tokens, (layers.map layerStep).foldl Dialect.v2Lite.step (chain tokens)
      = chain (layers.foldl (fun tokens layer => layer.composed (chain tokens)) tokens) := by
    induction layers with
    | nil => exact fun _ => rfl
    | cons layer layers ih =>
      intro tokens
      rw [List.map_cons, List.foldl_cons, layer_composed, ih]
      rfl
  have hbase : Dialect.v2Lite.base base = chain base.head.tokens := base_chained base
  rw [Dialect.spell, layered, List.foldl_append, hbase, foldl_checkStep,
    checks_composed list base.head.tokens_ne_nil, hlayers]
  rfl

end

/-- What a step adds in the chained dialects. -/
theorem step_eq_append (s : Step) : ∃ added, ∀ expr,
    Dialect.v1.step expr s = expr ++ added ∧ Dialect.v2.step expr s = expr ++ added := by
  cases s with
  | checks list =>
    have hfoldl : ∃ added, ∀ expr : String,
        list.foldl (fun out check => out ++ "." ++ check.chained) expr = expr ++ added := by
      induction list with
      | nil => exact ⟨"", fun expr => String.append_empty.symm⟩
      | cons check list ih =>
        obtain ⟨added, hadded⟩ := ih
        refine ⟨"." ++ check.chained ++ added, fun expr => ?_⟩
        rw [List.foldl_cons, hadded]
        simp only [String.append_assoc]
    obtain ⟨added, hadded⟩ := hfoldl
    exact ⟨added, fun expr => ⟨hadded expr, hadded expr⟩⟩
  | array => exact ⟨".array()", fun _ => ⟨rfl, rfl⟩⟩
  | nullable => exact ⟨".nullable()", fun _ => ⟨rfl, rfl⟩⟩
  | optional => exact ⟨".optional()", fun _ => ⟨rfl, rfl⟩⟩
  | transform t => exact ⟨call ".transform" t.text, fun _ => ⟨rfl, rfl⟩⟩

/-- **The chained dialects write the same after what is checked first.** -/
theorem spell_eq_append (v : Validator) : ∃ remainder,
    Dialect.v1.spell v = Dialect.v1.base v.base ++ remainder ∧
      Dialect.v2.spell v = Dialect.v2.base v.base ++ remainder := by
  have hsteps : ∀ steps : List Step, ∃ remainder, ∀ expr,
      steps.foldl Dialect.v1.step expr = expr ++ remainder ∧
        steps.foldl Dialect.v2.step expr = expr ++ remainder := by
    intro steps
    induction steps with
    | nil => exact ⟨"", fun expr => ⟨String.append_empty.symm, String.append_empty.symm⟩⟩
    | cons s steps ih =>
      obtain ⟨added, hadded⟩ := step_eq_append s
      obtain ⟨remainder, hremainder⟩ := ih
      refine ⟨added ++ remainder, fun expr => ?_⟩
      rw [List.foldl_cons, List.foldl_cons, (hadded expr).1, (hadded expr).2,
        (hremainder _).1, (hremainder _).2, String.append_assoc]
      exact ⟨rfl, rfl⟩
  obtain ⟨remainder, hremainder⟩ := hsteps v.steps
  exact ⟨remainder, (hremainder _).1, (hremainder _).2⟩

/-- The bound of a check can stand in brackets. -/
theorem balanced_argument (check : Check) : Balanced check.argument.toList := by
  have hplain : ∀ c, Decimal.IsNumeral c → IsPlain [] c := by
    intro c hc
    rcases hc with hdigit | hother
    · simp only [IsPlain, List.mem_cons, List.not_mem_nil, or_false, not_or]
      refine ⟨?_, ?_, ?_⟩ <;> (rintro rfl; revert hdigit; decide)
    · have hall : ∀ c ∈ ['.', '-', 'i', 'n', 'f', 'N', 'a'], IsPlain [] c := by simp [IsPlain]
      exact hall c hother
  have hnumeral : ∀ {text : List Char}, (∀ c ∈ text, Decimal.IsNumeral c) → Balanced text :=
    fun h => leads_of_isPlain (fun c hc => hplain c (h c hc)) (List.mem_singleton.mpr rfl)
  have hnat : ∀ n : Nat, Balanced (toString n).toList := fun n =>
    hnumeral (by simpa using Decimal.isNumeral_toDigits n)
  cases check with
  | trim | lowerCase | upperCase | normalize | nonnegative => decide
  | minLength n | maxLength n => exact hnat n.toNat
  | minimum f | maximum f => exact hnumeral (Decimal.isNumeral_plainText f)

end Validator

/-! ## Columns -/

/-- The names that a column's validators may refer to are names. -/
def ColumnIdentifiers.AreNames (ids : ColumnIdentifiers) : Prop :=
  (∀ name ∈ ids.enumConstant, IsName name) ∧ ∀ name ∈ ids.jsonSchema, IsName name

/-- What a text says as an expression of a dialect: it is the reading written out, and if the names
that it may refer to are names, the reader of the dialect finds just this reading in it. -/
structure Dialect.Says (d : Dialect) (ids : ColumnIdentifiers) (text : String) (reading : Reading) :
    Prop where
  written : text = reading.text d
  read : ids.AreNames → d.read? text = some reading

namespace Column

open Validator

variable {c : Column} {config : Configuration} {ids : ColumnIdentifiers} {mode : Mode}

/-- The checks on the values of a column. -/
def valueChecks (c : Column) (mode : Mode) : List Check :=
  if mode = .write && !c.isEnum then c.writeChecks else []

/-- The layer for absent values, and the function that puts something in their place. -/
def optionalLayers (c : Column) (config : Configuration) (mode : Mode) : List Layer :=
  if c.isOptional mode then .optional :: ((c.default? config).map Layer.transform).toList else []

/-- The function that turns the value into text. -/
def stringifyLayers (c : Column) (config : Configuration) (mode : Mode) : List Layer :=
  if mode = .write then
    ((c.stringify? config).map fun how =>
      Layer.transform (.stringify (c.isNullable || c.isOptional mode) how)).toList
  else []

/-- The layers around the values of a column. -/
def layers (c : Column) (config : Configuration) (mode : Mode) : List Layer :=
  (if c.isArray then [.array] else []) ++ (if c.isNullable then [.nullable] else [])
    ++ c.optionalLayers config mode ++ c.stringifyLayers config mode

/-- **What a column's validator says.** -/
def reading (c : Column) (config : Configuration) (ids : ColumnIdentifiers) (mode : Mode) :
    Reading :=
  ⟨(c.base config ids mode).head, (c.valueChecks mode).map Check.refinement, c.layers config mode⟩

theorem checkSteps_eq : c.checkSteps mode = checkStep (c.valueChecks mode) := by
  rw [checkSteps, valueChecks]
  cases (mode = .write && !c.isEnum : Bool) <;> cases c.writeChecks <;> rfl

theorem map_layers : (c.layers config mode).map layerStep
    = (if c.isArray then [Step.array] else []) ++ (if c.isNullable then [.nullable] else [])
      ++ c.optionalSteps config mode ++ c.stringifySteps config mode := by
  have hif : ∀ (b : Bool) (layer : Layer), (if b then [layer] else []).map layerStep
      = if b then [layerStep layer] else [] := fun b layer => by cases b <;> rfl
  have hoptional : (c.optionalLayers config mode).map layerStep = c.optionalSteps config mode := by
    rw [optionalLayers, optionalSteps]
    split
    · cases c.default? config <;> rfl
    · rfl
  have hstringify : (c.stringifyLayers config mode).map layerStep
      = c.stringifySteps config mode := by
    rw [stringifyLayers, stringifySteps]
    split
    · cases c.stringify? config <;> rfl
    · rfl
  simp only [layers, List.map_append, hif, hoptional, hstringify, layerStep]

theorem validator_eq : c.validator config ids mode
    = layered (c.base config ids mode) (c.valueChecks mode) (c.layers config mode) := by
  rw [validator, layered, steps, checkSteps_eq, map_layers]
  simp only [List.append_assoc]

theorem isNamed_base (h : ids.AreNames) : (c.base config ids mode).head.IsNamed := by
  have hleaf : (c.leaf config mode).head.IsNamed := by
    cases mode with
    | read =>
      show (Base.readLeaf c.semanticType config.coerceDatesOnRead).head.IsNamed
      cases c.semanticType <;> cases config.coerceDatesOnRead <;> trivial
    | write => trivial
  rw [base]
  split
  · split
    · next members hmembers =>
      rw [members?] at hmembers
      split at hmembers
      · next name hname =>
        cases hmembers
        exact h.1 name hname
      · rw [Option.ite_none_left_eq_some] at hmembers
        obtain ⟨-, hmembers⟩ := hmembers
        cases hmembers
        trivial
    · exact hleaf
  · split
    · next name hname => exact h.2 name (reference?_eq_some hname).2
    · exact hleaf

/-- Lengths are bounded only where what is checked first is a text. -/
theorem fits_valueChecks {check : Check} (h : check ∈ c.valueChecks mode) :
    check.kind.fits (c.base config ids mode).head.isTextual = true := by
  rw [valueChecks, List.mem_ite_nil_right, Bool.and_eq_true, decide_eq_true_iff,
    Bool.not_eq_true'] at h
  obtain ⟨⟨rfl, henum⟩, hcheck⟩ := h
  have hsubject := subject_of_mem_writeChecks hcheck
  have htextual : ∀ type, Head.isTextual (.leaf type) = decide (valueType type = .string) :=
    fun type => by cases type <;> rfl
  rw [base, henum]
  simp only [Bool.false_eq_true, if_false]
  split
  · next name hname =>
    -- no check is about the values of a schema written by hand
    rw [(reference?_eq_some hname).1] at hsubject
    cases check <;> cases hsubject
  · show check.kind.fits (Head.isTextual (.leaf c.semanticType)) = true
    rw [htextual, ← hsubject]
    cases check <;> rfl

theorem isProper_reading (c : Column) (config : Configuration) (mode : Mode) (h : ids.AreNames) :
    (c.reading config ids mode).IsProper := by
  constructor
  case head => exact isNamed_base h
  case fits =>
    intro r hr
    obtain ⟨check, hcheck, rfl⟩ := List.mem_map.mp hr
    exact fits_valueChecks hcheck
  case balanced =>
    intro r hr
    obtain ⟨check, -, rfl⟩ := List.mem_map.mp hr
    exact balanced_argument check

/-- A column's validator is its reading written out, in every dialect. -/
theorem spell_validator (d : Dialect) : d.spell (c.validator config ids mode)
    = (c.reading config ids mode).text d := by
  rw [validator_eq]
  cases d with
  | v1 => exact spell_refined _ _ _
  | v2 => exact spell_chained _ _ _
  | v2Lite => exact spell_composed _ _ _

/-- **The expression of a column says its reading.** -/
theorem says_render (c : Column) (config : Configuration) (ids : ColumnIdentifiers) (mode : Mode) :
    config.dialect.Says ids (c.render config ids mode) (c.reading config ids mode) where
  written := spell_validator config.dialect
  read h := by
    rw [render, spell_validator]
    exact config.dialect.read?_text (isProper_reading c config mode h)

/-- **The readers of the chained and of the composed dialect find one and the same reading in
the expressions of a column.** So columns that one of the dialects gives the same text have the
same text in the other. The two chained dialects differ in what is checked first only. -/
theorem readings_render (c : Column) (config : Configuration) (ids : ColumnIdentifiers)
    (mode : Mode) (h : ids.AreNames) :
    let reading := c.reading config ids mode
    readChained? (c.render { config with dialect := .v2 } ids mode) = some reading ∧
      readComposed? (c.render { config with dialect := .v2Lite } ids mode) = some reading ∧
      (∀ (c' : Column) (config' : Configuration) (ids' : ColumnIdentifiers) (mode' : Mode),
        ids'.AreNames →
          (c.render { config with dialect := .v2 } ids mode
              = c'.render { config' with dialect := .v2 } ids' mode' ↔
            c.render { config with dialect := .v2Lite } ids mode
              = c'.render { config' with dialect := .v2Lite } ids' mode')) ∧
      ∃ remainder,
        c.render { config with dialect := .v1 } ids mode
          = Dialect.v1.base (c.base config ids mode) ++ remainder ∧
        c.render { config with dialect := .v2 } ids mode
          = Dialect.v2.base (c.base config ids mode) ++ remainder := by
  have hchained : ∀ (c : Column) (config : Configuration) (ids : ColumnIdentifiers) (mode : Mode),
      c.render { config with dialect := .v2 } ids mode
        = chain (c.reading config ids mode).chained := fun _ _ _ _ => spell_validator .v2
  have hcomposed : ∀ (c : Column) (config : Configuration) (ids : ColumnIdentifiers) (mode : Mode),
      c.render { config with dialect := .v2Lite } ids mode
        = chain (c.reading config ids mode).composed := fun _ _ _ _ => spell_validator .v2Lite
  have hproper := isProper_reading c config mode h
  refine ⟨?_, ?_, ?_, ?_⟩
  · rw [hchained]
    exact readChained?_chain hproper
  · rw [hcomposed]
    exact readComposed?_chain hproper
  · intro c' config' ids' mode' h'
    have hproper' := isProper_reading c' config' mode' h'
    rw [hchained, hchained, hcomposed, hcomposed]
    constructor
    · intro heq
      have hreading := readChained?_chain hproper
      rw [heq, readChained?_chain hproper'] at hreading
      rw [Option.some.inj hreading]
    · intro heq
      have hreading := readComposed?_chain hproper
      rw [heq, readComposed?_chain hproper'] at hreading
      rw [Option.some.inj hreading]
  · exact spell_eq_append (c.validator config ids mode)

/-- Values that are left to a schema written by hand, and may be absent. -/
def profiles : Column :=
  { name := "profiles", semanticType := .json, isArray := true, isNullable := true,
    isReadOptional := true, isWriteOptional := true }

/-- Every function that there can be for them is asked for. -/
def profilesConfig : Configuration :=
  { emptyArrayDefault := true, stringifyJsonOnWrite := true, jsonImport := some "./schemas" }

/-- The names that go with them. -/
def profilesIdentifiers : ColumnIdentifiers :=
  { enumConstant := some "USERS_PROFILES", jsonSchema := some "UsersProfilesSchema" }

theorem profilesIdentifiers_areNames : profilesIdentifiers.AreNames :=
  ⟨fun _ h => Option.some.inj h ▸ by decide, fun _ h => Option.some.inj h ▸ by decide⟩

theorem readings_render_profiles :
    profilesIdentifiers.AreNames ∧
      let reading : Reading :=
        ⟨.reference "UsersProfilesSchema", [],
          [.array, .nullable, .optional, .transform .emptyArrayDefault,
            .transform (.stringify true .json)]⟩
      readChained? (profiles.render { profilesConfig with dialect := .v2 } profilesIdentifiers .write)
          = some reading ∧
        readComposed? (profiles.render { profilesConfig with dialect := .v2Lite }
          profilesIdentifiers .write) = some reading := by
  have h := readings_render profiles profilesConfig profilesIdentifiers .write
    profilesIdentifiers_areNames
  exact ⟨profilesIdentifiers_areNames, h.1, h.2.1⟩

end Column

end ValidatorGen
