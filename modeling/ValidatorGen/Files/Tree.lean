/-
Trees of files. A tree says for every place what is there, and an operation on a path
changes it only at the places that the path leads to: writing puts one file, making
directories puts directories where nothing was.
-/
import ValidatorGen.Files.Fault
import ValidatorGen.Files.Path

namespace ValidatorGen

/-- A place: the names on the way to it, without detours. The working directory is the
empty place, and the root has a name of its own. -/
abbrev Place := List String

/-- The name of the root. -/
def Place.root : Place := ["/"]

/-- The place of the directory that a directory is in. -/
def Place.outer (p : Place) : Place :=
  if p = root then root
  else
    match p.getLast? with
    | none | some ".." => p ++ [".."]
    | some _ => p.dropLast

/-- The place that one more name leads to. -/
def Place.next (here : Place) (name : String) : Place :=
  if name = ".." then here.outer else here ++ [name]

/-- What is at a place. -/
inductive Node
  | directory
  | file (text : String)
  deriving DecidableEq, Repr

/-- What is at every place. -/
structure FileTree where
  at? : Place → Option Node

namespace FileTree

/-- A working directory with nothing in it. -/
def empty : FileTree :=
  ⟨fun p => if p = [] ∨ p = [".."] ∨ p = Place.root then some .directory else none⟩

/-- The tree with something else at one place. -/
def put (t : FileTree) (p : Place) (n : Node) : FileTree :=
  ⟨fun q => if q = p then some n else t.at? q⟩

@[simp] theorem at_put_self (t : FileTree) (p : Place) (n : Node) :
    (t.put p n).at? p = some n := by
  simp [put]

theorem at_put_other (t : FileTree) {p q : Place} (h : q ≠ p) (n : Node) :
    (t.put p n).at? q = t.at? q := by
  simp [put, h]

/-- The text of the file at a place. -/
def text? (t : FileTree) (p : Place) : Option String :=
  match t.at? p with
  | some (.file text) => some text
  | _ => none

/-- The place that names lead to; every name but the last has to lead to a directory. -/
def locate (t : FileTree) : Place → List String → Except FileFault Place
  | here, [] => .ok here
  | here, name :: names =>
    match t.at? here with
    | some .directory => t.locate (here.next name) names
    | some (.file _) => .error .notDirectory
    | none => .error .notFound

/-- Where a path starts. -/
def start (p : Path) : Place := if p.absolute then Place.root else []

/-- Where a path leads. -/
def find (t : FileTree) (p : Path) : Except FileFault Place := t.locate (start p) p.names

/-- The text of the file that a path leads to. -/
def readText (t : FileTree) (p : Path) : Except FileFault String :=
  match t.find p with
  | .error fault => .error fault
  | .ok place =>
    match t.at? place with
    | none => .error .notFound
    | some .directory => .error .isDirectory
    | some (.file text) => if p.slashed then .error .notDirectory else .ok text

/-- Puts a file where a path leads; `change` makes its text of the text that was there, if
there was a file. -/
def change (t : FileTree) (p : Path) (change : Option String → String) :
    Except FileFault FileTree :=
  match t.find p with
  | .error fault => .error fault
  | .ok place =>
    match t.at? place with
    | some .directory => .error .isDirectory
    | some (.file text) =>
      if p.slashed then .error .notDirectory else .ok (t.put place (.file (change (some text))))
    | none =>
      if p.slashed then .error .isDirectory else .ok (t.put place (.file (change none)))

/-- Writes a file. -/
def write (t : FileTree) (p : Path) (text : String) : Except FileFault FileTree :=
  t.change p fun _ => text

/-- Writes at the end of a file. -/
def append (t : FileTree) (p : Path) (text : String) : Except FileFault FileTree :=
  t.change p fun old => old.getD "" ++ text

/-- Makes the directories on the way that are missing. -/
def makeDirsFrom (t : FileTree) : Place → List String → FileTree × Except FileFault Unit
  | _, [] => (t, .ok ())
  | here, name :: names =>
    match t.at? (here.next name) with
    | none => (t.put (here.next name) .directory).makeDirsFrom (here.next name) names
    | some .directory => t.makeDirsFrom (here.next name) names
    | some (.file _) => (t, .error (if names.isEmpty then .occupied else .notDirectory))

/-- Makes the directory that a path leads to, and those on the way. -/
def makeDirs (t : FileTree) (p : Path) : FileTree × Except FileFault Unit :=
  t.makeDirsFrom (start p) p.names

/-- Making directories keeps what is there. -/
theorem at_makeDirsFrom {q : Place} {n : Node} (names : List String) :
    ∀ (t : FileTree) (here : Place), t.at? q = some n →
      (t.makeDirsFrom here names).1.at? q = some n := by
  induction names with
  | nil => intro t here h; exact h
  | cons name names ih =>
    intro t here h
    simp only [makeDirsFrom]
    split
    · next hnone =>
      apply ih
      rw [at_put_other]
      · exact h
      · rintro rfl
        simp [h] at hnone
    · exact ih t _ h
    · exact h

/-- Making directories makes no files. -/
theorem text_makeDirsFrom (q : Place) (names : List String) :
    ∀ (t : FileTree) (here : Place), (t.makeDirsFrom here names).1.text? q = t.text? q := by
  induction names with
  | nil => intro t here; rfl
  | cons name names ih =>
    intro t here
    simp only [makeDirsFrom]
    split
    · next hnone =>
      rw [ih]
      by_cases h : q = here.next name
      · subst h
        simp [text?, hnone]
      · simp [text?, at_put_other t h]
    · exact ih t _
    · rfl

end FileTree

end ValidatorGen
