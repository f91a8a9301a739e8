/-
What a run hands on: the models of all tables, and a summary of the schema, in which the
names of its tables are listed under the label of their kind, labels in ascending order.
-/
import ValidatorGen.Model.Basic

namespace ValidatorGen

/-- The names of the tables of a schema, by kind. -/
structure Summary where
  name : String
  /-- Labels in ascending order, each with at least one name. -/
  tables : List (String × List String)
  deriving DecidableEq, Repr

namespace Summary

/-- Puts a name last under a label, which is put in order if it is new. -/
def addName (label name : String) : List (String × List String) → List (String × List String)
  | [] => [(label, [name])]
  | (l, names) :: groups =>
    if label = l then (l, names ++ [name]) :: groups
    else if label < l then (label, [name]) :: (l, names) :: groups
    else (l, names) :: addName label name groups

/-- The names of tables under the labels of their kinds. -/
def grouped (tables : List Table) : List (String × List String) :=
  tables.foldl (fun groups t => addName t.kind.label t.name groups) []

/-- The summary of a schema. -/
def ofSchema (s : Schema) : Summary := ⟨s.name, grouped s.tables⟩

/-- How many names are listed. -/
def tableCount (s : Summary) : Nat := s.tables.foldl (fun n group => n + group.2.length) 0

/-- Puts the list of a label, which is put in order if it is new. -/
def setNames (label : String) (names : List String) :
    List (String × List String) → List (String × List String)
  | [] => [(label, names)]
  | (l, old) :: groups =>
    if label = l then (l, names) :: groups
    else if label < l then (label, names) :: (l, old) :: groups
    else (l, old) :: setNames label names groups

/-- Lists by label, the last one of a label counting. -/
def ofEntries (entries : List (String × List String)) : List (String × List String) :=
  entries.foldl (fun groups entry => setNames entry.1 entry.2 groups) []

end Summary

/-- The version of what is handed on. -/
def contractVersion : String := "0.1"

/-- What a run hands on. -/
structure Output where
  contractVersion : String
  summary : Summary
  tables : List TableModel

/-- The first table of the name. -/
def Output.table? (name : String) (o : Output) : Option TableModel :=
  o.tables.find? (·.name == name)

end ValidatorGen
