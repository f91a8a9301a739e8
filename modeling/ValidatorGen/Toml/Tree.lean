/-
Tables of TOML while they are put together. A table knows how it came about, for that
decides what may still be added to it: a table that dotted keys or the header of a table
inside it brought about can be given its own header once, or further dotted keys; one
whose header was seen cannot, and neither can a value.
-/
import ValidatorGen.Json.Document

namespace ValidatorGen.Toml

open Json

/-- How a table came about. -/
inductive Origin
  /-- By its own header. -/
  | header
  /-- By the header of a table inside it. -/
  | inner
  /-- By a dotted key. -/
  | dotted
  deriving DecidableEq, Repr

/-- What a key stands for. -/
inductive Node
  | value (d : Document)
  | table (origin : Origin) (entries : List (String × Node))
  | tables (list : List (List (String × Node)))

/-- The entries of a table. -/
abbrev Entries := List (String × Node)

/-- What a key stands for, if it is there. -/
def Entries.find? (key : String) (entries : Entries) : Option Node := entries.lookup key

/-- The entries with what a key stands for replaced, or put last. -/
def Entries.put (key : String) (node : Node) : Entries → Entries
  | [] => [(key, node)]
  | (k, old) :: entries =>
    if k = key then (k, node) :: entries else (k, old) :: Entries.put key node entries

/-- Changes the last of some tables. -/
def changeLast (f : Entries → Option Entries) : List Entries → Option (List Entries)
  | [] => none
  | [entries] => (f entries).map ([·])
  | entries :: more => (changeLast f more).map (entries :: ·)

/-- Changes the table at the end of a path of headers. Tables that are missing are brought
about, and of several tables the last one is meant. -/
def changeAt (f : Entries → Option Entries) : List String → Entries → Option Entries
  | [], entries => f entries
  | key :: path, entries =>
    match entries.find? key with
    | none => (changeAt f path []).map fun new => entries.put key (.table .inner new)
    | some (.value _) => none
    | some (.table origin old) =>
      (changeAt f path old).map fun new => entries.put key (.table origin new)
    | some (.tables list) =>
      (changeLast (changeAt f path) list).map fun new => entries.put key (.tables new)

/-- Gives a value to a dotted key inside a table. -/
def putValue (d : Document) : List String → Entries → Option Entries
  | [], _ => none
  | [key], entries =>
    match entries.find? key with
    | none => some (entries.put key (.value d))
    | some _ => none
  | key :: path, entries =>
    match entries.find? key with
    | none => (putValue d path []).map fun new => entries.put key (.table .dotted new)
    | some (.table .dotted old) =>
      (putValue d path old).map fun new => entries.put key (.table .dotted new)
    -- the value itself goes into a table that dotted keys brought about, not into these
    | some (.table .inner old) =>
      if path.length < 2 then none
      else (putValue d path old).map fun new => entries.put key (.table .inner new)
    | some (.tables list) =>
      if path.length < 2 then none
      else (changeLast (putValue d path) list).map fun new => entries.put key (.tables new)
    | some _ => none

/-- Opens the table of a header. -/
def openTable (key : String) (entries : Entries) : Option Entries :=
  match entries.find? key with
  | none => some (entries.put key (.table .header []))
  | some (.table .inner old) => some (entries.put key (.table .header old))
  | some _ => none

/-- Opens one more of several tables. -/
def openNext (key : String) (entries : Entries) : Option Entries :=
  match entries.find? key with
  | none => some (entries.put key (.tables [[]]))
  | some (.tables list) => some (entries.put key (.tables (list ++ [[]])))
  | some _ => none

mutual

/-- What a key stands for, as a document. -/
def Node.document : Node → Document
  | .value d => d
  | .table _ entries => .record (entriesDocument entries) .closed
  | .tables list => .list (tablesDocument list) .closed

/-- The fields of a table. -/
def entriesDocument : Entries → List (Option String × Document)
  | [] => []
  | (key, node) :: entries => (some key, node.document) :: entriesDocument entries

/-- Several tables as documents. -/
def tablesDocument : List Entries → List Document
  | [] => []
  | entries :: list => .record (entriesDocument entries) .closed :: tablesDocument list

end

/-- A table as a document. -/
def Entries.document (entries : Entries) : Document := .record (entriesDocument entries) .closed

end ValidatorGen.Toml
