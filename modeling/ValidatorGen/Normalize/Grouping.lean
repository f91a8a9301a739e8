/-
From rows to tables. Filters decide by the name of the table which rows are taken. The rows
are then gone through once: a row of a namespace and a table name not seen before starts a
table, which is given a place, and every row adds its column at the place of its table.
-/
import ValidatorGen.Normalize.Row
import ValidatorGen.Relation.Table
import ValidatorGen.Request

namespace ValidatorGen

/-- Whether a table is taken: it is included, if that is asked, and not excluded. -/
def takesTable (included excluded : Option TableFilter.Ready) (table : String) : Bool :=
  included.all (·.accepts table) && !excluded.any (·.accepts table)

/-- The rows that are taken. Both filters are made ready first, and a pattern that is none
is refused even if there are no rows. -/
def filterColumns [PatternEngine] (rows : List RawColumn) (included excluded : Option TableFilter) :
    Except ConfigurationFault (List RawColumn) := do
  let included ← TableFilter.compileOption "include" included
  let excluded ← TableFilter.compileOption "exclude" excluded
  .ok (rows.filter fun raw => takesTable included excluded raw.table)

/-- The namespace and the name of a row's table. -/
def RawColumn.key (schemaName : String) (raw : RawColumn) : String × String :=
  (raw.schema.getD schemaName, raw.table)

/-- The namespace and the name of a table. -/
def Table.key (t : Table) : String × String := (t.schema, t.name)

/-- The table with one more column. -/
def Table.addColumn (c : Column) (t : Table) : Table := { t with columns := t.columns ++ [c] }

/-- The tables so far, and at which place the table of every key is. -/
structure Grouping where
  tables : List Table := []
  index : List ((String × String) × Nat) := []

namespace Grouping

/-- The place of the table of a key; a table of the given kind without columns is added if
there is none. -/
def place (key : String × String) (kind : TableKind) (g : Grouping) : Nat × Grouping :=
  match g.index.lookup key with
  | some slot => (slot, g)
  | none =>
    (g.tables.length,
      { tables := g.tables ++ [⟨key.2, key.1, kind, []⟩]
        index := (key, g.tables.length) :: g.index })

/-- Adds the column of a row to its table. -/
def add (schemaName : String) (config : Configuration) (g : Grouping) (raw : RawColumn) :
    Grouping :=
  let (slot, g) := g.place (raw.key schemaName) raw.tableKind
  { g with tables := g.tables.modify slot (Table.addColumn (raw.column config)) }

end Grouping

/-- The tables that rows make up, in the order in which they first appear. -/
def groupIntoTables (rows : List RawColumn) (schemaName : String) (config : Configuration) :
    List Table :=
  (rows.foldl (Grouping.add schemaName config) {}).tables

end ValidatorGen
