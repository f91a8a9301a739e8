/-
The request of a run, option by option. A settings file is a layer too: it sets an option if the
table of the option gives a value for it (`DocumentLayer`), and what is read from the file follows
that layer (`followsLayers_request`). A layer on top of a request decides the options that it sets
and no others (`FollowsLayers.apply`). **So every option of a run has the value of the highest
layer that sets it, of the command line, the environment and the settings file, or else the one
built in** (`resolve_followsLayers`).
-/
import ValidatorGen.Proofs.Json.Record
import ValidatorGen.Settings.Resolve

namespace ValidatorGen

open Json

/-- Every option has the value of the first layer that sets it, or else the one built in. -/
structure Request.FollowsLayers (layers : List Overrides) (r : Request) : Prop where
  dialect : r.config.dialect = (layers.findSome? (·.dialect)).getD .v2
  fieldCasing : r.config.fieldCasing = (layers.findSome? (·.fieldCasing)).getD .camelCase
  objectCasing : r.config.objectCasing = (layers.findSome? (·.objectCasing)).getD .pascalCase
  caseTransform : r.config.caseTransform = (layers.findSome? (·.caseTransform)).getD false
  singularize : r.config.singularize = (layers.findSome? (·.singularize)).getD true
  coerceDatesOnRead :
    r.config.coerceDatesOnRead = (layers.findSome? (·.coerceDatesOnRead)).getD true
  stringifyDatesOnWrite :
    r.config.stringifyDatesOnWrite = (layers.findSome? (·.stringifyDatesOnWrite)).getD false
  stringifyJsonOnWrite :
    r.config.stringifyJsonOnWrite = (layers.findSome? (·.stringifyJsonOnWrite)).getD false
  emptyArrayDefault :
    r.config.emptyArrayDefault = (layers.findSome? (·.emptyArrayDefault)).getD false
  undefinedDefault :
    r.config.undefinedDefault = (layers.findSome? (·.undefinedDefault)).getD false
  typeFallback : r.config.typeFallback = layers.findSome? (·.typeFallback)
  jsonImport : r.config.jsonImport = layers.findSome? (·.jsonImport)
  schemaName : r.selection.schemaName = (layers.findSome? (·.schemaName)).getD "public"
  included : r.selection.included = layers.findSome? (·.included)
  excluded : r.selection.excluded = layers.findSome? (·.excluded)

/-! ## The layer of a settings file -/

/-- The fields of the table of options. -/
def Configuration.slots : List (Slot Configuration) := fields.map Member.toSlot

/-- What a settings document gives for an option in the table of options. -/
def generatorGives (d : Document) (name : String) : Option Document :=
  (d.given? (FileSettings.slots.map Slot.name) "generator").bind
    (·.given? (Configuration.slots.map Slot.name) name)

/-- What a settings document gives in the table of the namespace and the filters. -/
def filtersGive (d : Document) (name : String) : Option Document :=
  (d.given? (FileSettings.slots.map Slot.name) "filters").bind
    (·.given? (FilterTable.slots.map Slot.name) name)

/-- A setting is what is decoded from the value that is given; nothing is set where nothing is
given or a null. -/
def SetBy {α : Type} (dec : Decoder α) (given : Option Document) (setting : Option α) : Prop :=
  Fills (nullable dec Reading.tables.inside.inside) none setting given

/-- A settings document sets the options of a layer. -/
structure DocumentLayer (d : Document) (o : Overrides) : Prop where
  dialect : SetBy Dialect.codec.decode (generatorGives d "dialect_variant") o.dialect
  fieldCasing : SetBy Casing.codec.decode (generatorGives d "field_name_casing") o.fieldCasing
  objectCasing : SetBy Casing.codec.decode (generatorGives d "object_name_casing") o.objectCasing
  caseTransform : SetBy boolean (generatorGives d "case_transform_enabled") o.caseTransform
  singularize : SetBy boolean (generatorGives d "singularization_enabled") o.singularize
  coerceDatesOnRead : SetBy boolean (generatorGives d "coerce_dates_on_read") o.coerceDatesOnRead
  stringifyDatesOnWrite :
    SetBy boolean (generatorGives d "stringify_dates_on_write") o.stringifyDatesOnWrite
  stringifyJsonOnWrite :
    SetBy boolean (generatorGives d "stringify_json_on_write") o.stringifyJsonOnWrite
  emptyArrayDefault :
    SetBy boolean (generatorGives d "default_empty_array_on_nullable_array") o.emptyArrayDefault
  undefinedDefault :
    SetBy boolean (generatorGives d "default_undefined_on_nullable") o.undefinedDefault
  typeFallback :
    SetBy TypeFallback.codec.decode (generatorGives d "unknown_type_fallback") o.typeFallback
  jsonImport : SetBy string (generatorGives d "json_schema_import_location") o.jsonImport
  schemaName : SetBy string (filtersGive d "schema_name") o.schemaName
  included : SetBy TableFilter.codec.decode (filtersGive d "include") o.included
  excluded : SetBy TableFilter.codec.decode (filtersGive d "exclude") o.excluded

/-- The layer of a settings file, if there is one; no file sets nothing. -/
inductive FileLayer : Option SettingsText → Overrides → Prop
  | none : FileLayer none {}
  | file {path text : String} {d : Document} {layer : Overrides}
      (parsed : Toml.parse? text = some d) (sets : DocumentLayer d layer) :
      FileLayer (some ⟨path, .ok text⟩) layer

/-! ## Layer over layer -/

section

variable {α : Type} {get : Overrides → Option α} {o : Overrides} {layers : List Overrides}
  {r : Request}

theorem getD_eq_findSome? {lower builtin : α} (h : lower = (layers.findSome? get).getD builtin) :
    (get o).getD lower = ((o :: layers).findSome? get).getD builtin := by
  rw [List.findSome?_cons]
  cases get o with
  | none => exact h
  | some _ => rfl

theorem or_eq_findSome? {lower : Option α} (h : lower = layers.findSome? get) :
    (get o).or lower = (o :: layers).findSome? get := by
  rw [List.findSome?_cons]
  cases get o with
  | none => exact h
  | some _ => rfl

/-- What is built in follows no layer. -/
theorem followsLayers_nil : ({} : Request).FollowsLayers [] := by
  constructor <;> rfl

/-- **A layer goes over those that a request follows.** -/
theorem Request.FollowsLayers.apply (h : r.FollowsLayers layers) (o : Overrides) :
    (o.apply r).FollowsLayers (o :: layers) where
  dialect := getD_eq_findSome? h.dialect
  fieldCasing := getD_eq_findSome? h.fieldCasing
  objectCasing := getD_eq_findSome? h.objectCasing
  caseTransform := getD_eq_findSome? h.caseTransform
  singularize := getD_eq_findSome? h.singularize
  coerceDatesOnRead := getD_eq_findSome? h.coerceDatesOnRead
  stringifyDatesOnWrite := getD_eq_findSome? h.stringifyDatesOnWrite
  stringifyJsonOnWrite := getD_eq_findSome? h.stringifyJsonOnWrite
  emptyArrayDefault := getD_eq_findSome? h.emptyArrayDefault
  undefinedDefault := getD_eq_findSome? h.undefinedDefault
  typeFallback := or_eq_findSome? h.typeFallback
  jsonImport := or_eq_findSome? h.jsonImport
  schemaName := getD_eq_findSome? h.schemaName
  included := or_eq_findSome? h.included
  excluded := or_eq_findSome? h.excluded

/-- Two layers, one after the other, are the upper over the lower. -/
theorem Overrides.apply_apply (upper lower : Overrides) (r : Request) :
    upper.apply (lower.apply r) = (upper.above lower).apply r := by
  simp only [apply, above, Option.or_assoc, Option.getD_or]

end

/-! ## The fields of a settings file -/

namespace Configuration

/-- Every slot of a configuration bears on an option of its own. -/
theorem owns_slots :
    Owns slots "dialect_variant" Dialect.codec.decode dialect ∧
    Owns slots "field_name_casing" Casing.codec.decode fieldCasing ∧
    Owns slots "object_name_casing" Casing.codec.decode objectCasing ∧
    Owns slots "case_transform_enabled" Codec.bool.decode caseTransform ∧
    Owns slots "singularization_enabled" Codec.bool.decode singularize ∧
    Owns slots "coerce_dates_on_read" Codec.bool.decode coerceDatesOnRead ∧
    Owns slots "stringify_dates_on_write" Codec.bool.decode stringifyDatesOnWrite ∧
    Owns slots "stringify_json_on_write" Codec.bool.decode stringifyJsonOnWrite ∧
    Owns slots "default_empty_array_on_nullable_array" Codec.bool.decode emptyArrayDefault ∧
    Owns slots "default_undefined_on_nullable" Codec.bool.decode undefinedDefault ∧
    Owns slots "unknown_type_fallback" TypeFallback.codec.nullable.decode typeFallback ∧
    Owns slots "json_schema_import_location" Codec.text.nullable.decode jsonImport := by
  refine ⟨?_, ?_, ?_, ?_, ?_, ?_, ?_, ?_, ?_, ?_, ?_, ?_⟩ <;>
    simp [owns_iff, slots, fields, Slot.puts_of, Slot.keeps_of]

end Configuration

namespace FilterTable

theorem owns_slots :
    Owns slots "schema_name" (nullable Json.string) schemaName ∧
    Owns slots "include" (nullable TableFilter.codec.decode) included ∧
    Owns slots "exclude" (nullable TableFilter.codec.decode) excluded := by
  refine ⟨?_, ?_, ?_⟩ <;> simp [owns_iff, slots, Slot.puts_of, Slot.keeps_of]

end FilterTable

section

variable {α : Type} {dec : Decoder α} {given : Option Document} {before after : α} {r : Reading}

/-- An option that cannot be null is set where it is given. -/
theorem setBy_map (hnull : ∀ r v, dec r .null ≠ .ok v)
    (h : Fills (dec Reading.tables.inside.inside) before after given) :
    SetBy dec given (given.map fun _ => after) := by
  cases given with
  | none => exact rfl
  | some d =>
    have hdec : dec Reading.tables.inside.inside d = .ok after := h
    show nullable dec _ d = .ok (some after)
    rw [nullable, hdec]
    · rfl
    · rintro rfl
      exact hnull _ _ hdec

/-- The value of a field is the one that the layer gives it, or the one that it has otherwise. -/
theorem eq_getD_findSome? (h : Fills (dec r) before after given) {get : Overrides → Option α}
    {layer : Overrides} (hget : get layer = given.map fun _ => after) :
    after = ([layer].findSome? get).getD before := by
  rw [List.findSome?_singleton, hget]
  cases given with
  | none => exact h
  | some _ => rfl

theorem variant_null (known : List (String × α)) (r : Reading) (v : α) :
    variant known r .null ≠ .ok v := by
  have hnull : variant known r .null = if r.manner = .stream then .error (.text .malformed)
      else refuse "string or map" .null := rfl
  rw [hnull]
  split <;> exact nofun

theorem boolean_null (r : Reading) (v : Bool) : boolean r .null ≠ .ok v := nofun

end

namespace FileSettings

theorem owns_slots : Owns slots "generator" Configuration.codec.decode generator ∧
    Owns slots "filters" (recordOf "FilterSettings" FilterTable.slots {}) filters := by
  constructor <;> simp [owns_iff, slots, Slot.puts_of, Slot.keeps_of]

variable {α : Type} {dec : Decoder α} {name : String} {d : Document} {s : FileSettings}

/-- The options are filled from their table. -/
theorem generator_fills (h : recordOf "FileSettings" slots {} .tables d = .ok s)
    {get : Configuration → α} (howns : Owns Configuration.slots name dec get) :
    Fills (dec Reading.tables.inside.inside) (get {}) (get s.generator) (generatorGives d name) :=
  (recordOf_fills owns_slots.1 (by decide) h).field howns (by decide)

/-- The namespace and the filters are filled from theirs. -/
theorem filters_fill (h : recordOf "FileSettings" slots {} .tables d = .ok s)
    {get : FilterTable → α} (howns : Owns FilterTable.slots name dec get) :
    Fills (dec Reading.tables.inside.inside) (get {}) (get s.filters) (filtersGive d name) :=
  (recordOf_fills owns_slots.2 (by decide) h).field howns (by decide)

/-- The options that a settings document gives, with the values that were read. -/
def layer (d : Document) (s : FileSettings) : Overrides where
  dialect := (generatorGives d "dialect_variant").map fun _ => s.generator.dialect
  fieldCasing := (generatorGives d "field_name_casing").map fun _ => s.generator.fieldCasing
  objectCasing := (generatorGives d "object_name_casing").map fun _ => s.generator.objectCasing
  caseTransform :=
    (generatorGives d "case_transform_enabled").map fun _ => s.generator.caseTransform
  singularize := (generatorGives d "singularization_enabled").map fun _ => s.generator.singularize
  coerceDatesOnRead :=
    (generatorGives d "coerce_dates_on_read").map fun _ => s.generator.coerceDatesOnRead
  stringifyDatesOnWrite :=
    (generatorGives d "stringify_dates_on_write").map fun _ => s.generator.stringifyDatesOnWrite
  stringifyJsonOnWrite :=
    (generatorGives d "stringify_json_on_write").map fun _ => s.generator.stringifyJsonOnWrite
  emptyArrayDefault :=
    (generatorGives d "default_empty_array_on_nullable_array").map fun _ =>
      s.generator.emptyArrayDefault
  undefinedDefault :=
    (generatorGives d "default_undefined_on_nullable").map fun _ => s.generator.undefinedDefault
  typeFallback := s.generator.typeFallback
  jsonImport := s.generator.jsonImport
  schemaName := s.filters.schemaName
  included := s.filters.included
  excluded := s.filters.excluded

/-- **What is read from a settings document is a layer that it sets.** -/
theorem documentLayer_layer (h : recordOf "FileSettings" slots {} .tables d = .ok s) :
    DocumentLayer d (s.layer d) := by
  obtain ⟨dialect, fieldCasing, objectCasing, caseTransform, singularize, coerceDatesOnRead,
    stringifyDatesOnWrite, stringifyJsonOnWrite, emptyArrayDefault, undefinedDefault,
    typeFallback, jsonImport⟩ := Configuration.owns_slots
  obtain ⟨schemaName, included, excluded⟩ := FilterTable.owns_slots
  exact {
    dialect := setBy_map (variant_null Dialect.labels) (generator_fills h dialect)
    fieldCasing := setBy_map (variant_null Casing.labels) (generator_fills h fieldCasing)
    objectCasing := setBy_map (variant_null Casing.labels) (generator_fills h objectCasing)
    caseTransform := setBy_map boolean_null (generator_fills h caseTransform)
    singularize := setBy_map boolean_null (generator_fills h singularize)
    coerceDatesOnRead := setBy_map boolean_null (generator_fills h coerceDatesOnRead)
    stringifyDatesOnWrite := setBy_map boolean_null (generator_fills h stringifyDatesOnWrite)
    stringifyJsonOnWrite := setBy_map boolean_null (generator_fills h stringifyJsonOnWrite)
    emptyArrayDefault := setBy_map boolean_null (generator_fills h emptyArrayDefault)
    undefinedDefault := setBy_map boolean_null (generator_fills h undefinedDefault)
    typeFallback := generator_fills h typeFallback
    jsonImport := generator_fills h jsonImport
    schemaName := filters_fill h schemaName
    included := filters_fill h included
    excluded := filters_fill h excluded }

/-- **The request of a settings file follows that layer.** -/
theorem followsLayers_request (h : recordOf "FileSettings" slots {} .tables d = .ok s) :
    s.request.FollowsLayers [s.layer d] := by
  obtain ⟨dialect, fieldCasing, objectCasing, caseTransform, singularize, coerceDatesOnRead,
    stringifyDatesOnWrite, stringifyJsonOnWrite, emptyArrayDefault, undefinedDefault,
    -, -⟩ := Configuration.owns_slots
  exact {
    dialect := eq_getD_findSome? (generator_fills h dialect) rfl
    fieldCasing := eq_getD_findSome? (generator_fills h fieldCasing) rfl
    objectCasing := eq_getD_findSome? (generator_fills h objectCasing) rfl
    caseTransform := eq_getD_findSome? (generator_fills h caseTransform) rfl
    singularize := eq_getD_findSome? (generator_fills h singularize) rfl
    coerceDatesOnRead := eq_getD_findSome? (generator_fills h coerceDatesOnRead) rfl
    stringifyDatesOnWrite := eq_getD_findSome? (generator_fills h stringifyDatesOnWrite) rfl
    stringifyJsonOnWrite := eq_getD_findSome? (generator_fills h stringifyJsonOnWrite) rfl
    emptyArrayDefault := eq_getD_findSome? (generator_fills h emptyArrayDefault) rfl
    undefinedDefault := eq_getD_findSome? (generator_fills h undefinedDefault) rfl
    typeFallback := List.findSome?_singleton.symm
    jsonImport := List.findSome?_singleton.symm
    schemaName := congrArg (Option.getD · "public") List.findSome?_singleton.symm
    included := List.findSome?_singleton.symm
    excluded := List.findSome?_singleton.symm }

end FileSettings

/-- The request of a settings file, if there is one, follows the file's layer. -/
theorem exists_fileLayer {file : Option SettingsText}
    (h : ∀ f ∈ file, ∃ text, f.content = .ok text ∧ ∃ s, FileSettings.parse text = .ok s) :
    ∃ layer r, FileLayer file layer ∧ fileRequest file = .ok r ∧ r.FollowsLayers [layer] := by
  cases file with
  | none => exact ⟨{}, {}, .none, rfl, followsLayers_nil.apply {}⟩
  | some f =>
    obtain ⟨path, content⟩ := f
    obtain ⟨text, rfl, s, hs⟩ := h _ rfl
    have hrequest : fileRequest (some ⟨path, .ok text⟩) = .ok s.request := by
      rw [fileRequest, hs]
      rfl
    rw [FileSettings.parse] at hs
    split at hs
    · cases hs
    · next d hd =>
      have hread : recordOf "FileSettings" FileSettings.slots {} .tables d = .ok s := by
        cases hrecord : recordOf "FileSettings" FileSettings.slots {} .tables d with
        | error e =>
          rw [hrecord] at hs
          cases hs
        | ok s' =>
          rw [hrecord] at hs
          cases hs
          rfl
      exact ⟨s.layer d, s.request, .file hd (FileSettings.documentLayer_layer hread), hrequest,
        FileSettings.followsLayers_request hread⟩

/-- **Every option of a run has the value of the highest layer that sets it**, whatever becomes of
the other options; so an empty layer changes nothing, and two layers one after the other are one. -/
theorem resolve_followsLayers (file : Option SettingsText) (environment : List (String × String))
    (flags : Overrides) {env : Overrides}
    (hfile : ∀ f ∈ file, ∃ text, f.content = .ok text ∧ ∃ s, FileSettings.parse text = .ok s)
    (henv : Environment.overrides environment = .ok env) :
    (∃ layer r, FileLayer file layer ∧ resolve file environment flags = .ok r ∧
      r.FollowsLayers [flags, env, layer]) ∧
    (∀ r, ({} : Overrides).apply r = r) ∧
    ∀ (lower upper : Overrides) (r : Request),
      upper.apply (lower.apply r) = (upper.above lower).apply r := by
  refine ⟨?_, Overrides.empty_apply, fun lower upper => upper.apply_apply lower⟩
  obtain ⟨layer, r, hlayer, hr, hfollows⟩ := exists_fileLayer hfile
  refine ⟨layer, flags.apply (env.apply r), hlayer, ?_, (hfollows.apply _).apply _⟩
  rw [resolve, hr, henv]
  rfl

/-- A settings file that takes one table and sets an option. -/
def sampleSettings : String :=
  "[generator]\nsingularization_enabled = false\n[filters]\ninclude = [\"users\"]\n"

/-- Variables of which one replaces the filter of that file. -/
def sampleVariables : List (String × String) :=
  [("SCHEMAFORGE_INCLUDE", " ^app_ "), ("PATH", "/usr/bin")]

theorem resolve_followsLayers_sampleSettings :
    (∃ s, FileSettings.parse sampleSettings = .ok s) ∧
    Environment.overrides sampleVariables = .ok { included := some (.pattern "^app_") } ∧
    ∃ layer r, FileLayer (some ⟨"settings.toml", .ok sampleSettings⟩) layer ∧
      resolve (some ⟨"settings.toml", .ok sampleSettings⟩) sampleVariables
        { schemaName := some "app" } = .ok r ∧
      r.FollowsLayers
        [{ schemaName := some "app" }, { included := some (.pattern "^app_") }, layer] := by
  have hparses : (FileSettings.parse sampleSettings).toBool = true := by decide +kernel
  have hs : ∃ s, FileSettings.parse sampleSettings = .ok s := by
    cases h : FileSettings.parse sampleSettings with
    | ok s => exact ⟨s, rfl⟩
    | error e =>
      rw [h] at hparses
      cases hparses
  have henv : Environment.overrides sampleVariables
      = .ok { included := some (.pattern "^app_") } := by with_unfolding_all rfl
  have hfile : ∀ f ∈ some (⟨"settings.toml", .ok sampleSettings⟩ : SettingsText),
      ∃ text, f.content = .ok text ∧ ∃ s, FileSettings.parse text = .ok s := by
    rintro f hf
    cases hf
    exact ⟨sampleSettings, rfl, hs⟩
  exact ⟨hs, henv, (resolve_followsLayers _ sampleVariables { schemaName := some "app" } hfile
    henv).1⟩

end ValidatorGen
