/-
Tables and schemas. The tables of a schema are sorted by the label of their kind and then
by name, both compared by code point; tables that agree in both keep their order.
-/
import ValidatorGen.Relation.Column

namespace ValidatorGen

/-- A relation with its columns in source order. -/
structure Table where
  name : String
  schema : String
  kind : TableKind
  columns : List Column

/-- Whether one table may stand before another. -/
def Table.before (a b : Table) : Bool :=
  if a.kind.label = b.kind.label then decide (a.name ≤ b.name)
  else decide (a.kind.label < b.kind.label)

/-- The tables in order. -/
def sortTables (tables : List Table) : List Table := tables.mergeSort Table.before

/-- The root of a run: every table, in order. -/
structure Schema where
  name : String
  tables : List Table

namespace Schema

/-- The schema of some tables, which it puts in order. -/
def ofTables (name : String) (tables : List Table) : Schema := ⟨name, sortTables tables⟩

/-- The first table of the name. -/
def table? (name : String) (s : Schema) : Option Table := s.tables.find? (·.name == name)

end Schema

end ValidatorGen
