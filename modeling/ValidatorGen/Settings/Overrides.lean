/-
Layers of settings. A layer sets some options and leaves the others as they are in the
layers below it; laying one layer over another is associative, and the empty layer changes
nothing (`above_assoc`, `empty_above`, `above_empty`).
-/
import ValidatorGen.Request

namespace ValidatorGen

/-- One option and the value that it is set to. -/
inductive Setting
  | dialect (v : Dialect)
  | fieldCasing (v : Casing)
  | objectCasing (v : Casing)
  | caseTransform (v : Bool)
  | singularize (v : Bool)
  | coerceDatesOnRead (v : Bool)
  | stringifyDatesOnWrite (v : Bool)
  | stringifyJsonOnWrite (v : Bool)
  | emptyArrayDefault (v : Bool)
  | undefinedDefault (v : Bool)
  | typeFallback (v : TypeFallback)
  | jsonImport (v : String)
  | schemaName (v : String)
  | included (v : TableFilter)
  | excluded (v : TableFilter)
  deriving DecidableEq, Repr

/-- The options that a layer sets. -/
structure Overrides where
  dialect : Option Dialect := none
  fieldCasing : Option Casing := none
  objectCasing : Option Casing := none
  caseTransform : Option Bool := none
  singularize : Option Bool := none
  coerceDatesOnRead : Option Bool := none
  stringifyDatesOnWrite : Option Bool := none
  stringifyJsonOnWrite : Option Bool := none
  emptyArrayDefault : Option Bool := none
  undefinedDefault : Option Bool := none
  typeFallback : Option TypeFallback := none
  jsonImport : Option String := none
  schemaName : Option String := none
  included : Option TableFilter := none
  excluded : Option TableFilter := none
  deriving DecidableEq, Repr

namespace Overrides

/-- The layer with one option set anew. -/
def set (o : Overrides) : Setting → Overrides
  | .dialect v => { o with dialect := some v }
  | .fieldCasing v => { o with fieldCasing := some v }
  | .objectCasing v => { o with objectCasing := some v }
  | .caseTransform v => { o with caseTransform := some v }
  | .singularize v => { o with singularize := some v }
  | .coerceDatesOnRead v => { o with coerceDatesOnRead := some v }
  | .stringifyDatesOnWrite v => { o with stringifyDatesOnWrite := some v }
  | .stringifyJsonOnWrite v => { o with stringifyJsonOnWrite := some v }
  | .emptyArrayDefault v => { o with emptyArrayDefault := some v }
  | .undefinedDefault v => { o with undefinedDefault := some v }
  | .typeFallback v => { o with typeFallback := some v }
  | .jsonImport v => { o with jsonImport := some v }
  | .schemaName v => { o with schemaName := some v }
  | .included v => { o with included := some v }
  | .excluded v => { o with excluded := some v }

/-- The layer that sets the given options, of which the last one of a kind counts. -/
def ofSettings (list : List Setting) : Overrides := list.foldl set {}

/-- One layer over another. -/
def above (upper lower : Overrides) : Overrides where
  dialect := upper.dialect.or lower.dialect
  fieldCasing := upper.fieldCasing.or lower.fieldCasing
  objectCasing := upper.objectCasing.or lower.objectCasing
  caseTransform := upper.caseTransform.or lower.caseTransform
  singularize := upper.singularize.or lower.singularize
  coerceDatesOnRead := upper.coerceDatesOnRead.or lower.coerceDatesOnRead
  stringifyDatesOnWrite := upper.stringifyDatesOnWrite.or lower.stringifyDatesOnWrite
  stringifyJsonOnWrite := upper.stringifyJsonOnWrite.or lower.stringifyJsonOnWrite
  emptyArrayDefault := upper.emptyArrayDefault.or lower.emptyArrayDefault
  undefinedDefault := upper.undefinedDefault.or lower.undefinedDefault
  typeFallback := upper.typeFallback.or lower.typeFallback
  jsonImport := upper.jsonImport.or lower.jsonImport
  schemaName := upper.schemaName.or lower.schemaName
  included := upper.included.or lower.included
  excluded := upper.excluded.or lower.excluded

/-- The request with the options of a layer in place of its own. -/
def apply (o : Overrides) (r : Request) : Request where
  config := {
    dialect := o.dialect.getD r.config.dialect
    fieldCasing := o.fieldCasing.getD r.config.fieldCasing
    objectCasing := o.objectCasing.getD r.config.objectCasing
    caseTransform := o.caseTransform.getD r.config.caseTransform
    singularize := o.singularize.getD r.config.singularize
    coerceDatesOnRead := o.coerceDatesOnRead.getD r.config.coerceDatesOnRead
    stringifyDatesOnWrite := o.stringifyDatesOnWrite.getD r.config.stringifyDatesOnWrite
    stringifyJsonOnWrite := o.stringifyJsonOnWrite.getD r.config.stringifyJsonOnWrite
    emptyArrayDefault := o.emptyArrayDefault.getD r.config.emptyArrayDefault
    undefinedDefault := o.undefinedDefault.getD r.config.undefinedDefault
    typeFallback := o.typeFallback.or r.config.typeFallback
    jsonImport := o.jsonImport.or r.config.jsonImport }
  selection := {
    schemaName := o.schemaName.getD r.selection.schemaName
    included := o.included.or r.selection.included
    excluded := o.excluded.or r.selection.excluded }

theorem above_empty (o : Overrides) : o.above {} = o := by
  simp [above]

theorem empty_above (o : Overrides) : ({} : Overrides).above o = o := by
  simp [above]

theorem above_assoc (a b c : Overrides) : (a.above b).above c = a.above (b.above c) := by
  simp [above, Option.or_assoc]

theorem empty_apply (r : Request) : ({} : Overrides).apply r = r := by
  simp [apply]

end Overrides

end ValidatorGen
