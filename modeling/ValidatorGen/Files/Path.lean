/-
Paths, as the names on the way. Slashes that follow one another count as one, and a single
point says to stay.
-/
import ValidatorGen.Text.Blank

namespace ValidatorGen

/-- A path. -/
structure Path where
  /-- It starts at the root, not at the working directory. -/
  absolute : Bool
  /-- The names on the way; two points lead back to where the directory is. -/
  names : List String
  /-- It can only lead to a directory. -/
  slashed : Bool
  deriving DecidableEq, Repr

namespace Path

/-- The pieces of a text between slashes. -/
def pieces (text : String) : List String :=
  (Text.fields (· == '/') text.toList).map String.ofList

/-- The path that a text spells. -/
def ofText (text : String) : Path where
  absolute := text.toList.head? == some '/'
  names := (pieces text).filter fun name => name ≠ "" && name ≠ "."
  slashed := match (pieces text).getLast? with
    | some name => name == "" || name == "."
    | none => true

/-- The path to an entry of the directory. -/
def child (p : Path) (name : String) : Path := ⟨p.absolute, p.names ++ [name], false⟩

/-- The path to the directory of the entry, if the path says more than the entry's name. -/
def parent? (p : Path) : Option Path :=
  match p.names, p.absolute with
  | [], _ => none
  | [_], false => none
  | names, absolute => some ⟨absolute, names.dropLast, false⟩

/-- A text that spells the path. -/
def text (p : Path) : String :=
  let names := "/".intercalate p.names
  if p.absolute then "/" ++ names
  else if p.names.isEmpty then "."
  else names ++ (if p.slashed then "/" else "")

end Path

end ValidatorGen
