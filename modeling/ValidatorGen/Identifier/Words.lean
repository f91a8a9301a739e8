/-
The words of an identifier. A word ends at an underscore, a hyphen or white space, and
before a capital that opens a new hump: one that follows a lower-case letter or a digit,
or the last of a run of capitals when a lower-case letter comes next (`HTTPServer` is
`HTTP`, `Server`).

Cutting is done in two steps, at the separators (`fields`) and then at the humps
(`humps`), each of which only looks at neighbouring characters.
-/
import ValidatorGen.Text.Blank
import ValidatorGen.Text.Case

namespace ValidatorGen.Identifier

open Text

/-- An underscore, a hyphen or white space. -/
def isSeparator (c : Char) : Bool := c == '_' || c == '-' || isBlank c

/-- Whether a hump starts at `c`, given the character before it and the one after it. -/
def opensHump (before c : Char) (after : Option Char) : Bool :=
  isUpper c && (isLower before || before.isDigit || (isUpper before && after.any isLower))

/-- Cuts a text without separators before every character that opens a hump. -/
def humps : List Char → List (List Char)
  | [] => []
  | [c] => [[c]]
  | c :: d :: rest =>
    if opensHump c d rest.head? then [c] :: humps (d :: rest)
    else
      match humps (d :: rest) with
      | [] => [[c]]
      | word :: words => (c :: word) :: words

/-- The words of an identifier, in order. -/
def splitWords (text : List Char) : List (List Char) :=
  (fields isSeparator text).flatMap humps

/-- The words of an identifier, in order. -/
def words (text : String) : List String := (splitWords text.toList).map String.ofList

theorem humps_ne_nil {c : Char} {rest : List Char} : humps (c :: rest) ≠ [] := by
  cases rest with
  | nil => simp [humps]
  | cons d rest =>
    simp only [humps]
    split
    · simp
    · split <;> simp

/-- Cutting at humps loses nothing. -/
theorem flatten_humps (text : List Char) : (humps text).flatten = text := by
  induction text with
  | nil => rfl
  | cons c rest ih =>
    cases rest with
    | nil => rfl
    | cons d rest =>
      simp only [humps]
      split
      · simp [ih]
      · split
        · rename_i h; exact absurd h humps_ne_nil
        · rename_i w ws h
          rw [h] at ih
          simpa using ih

/-- No piece between humps is empty. -/
theorem ne_nil_of_mem_humps {text w : List Char} (h : w ∈ humps text) : w ≠ [] := by
  induction text generalizing w with
  | nil => simp [humps] at h
  | cons c rest ih =>
    cases rest with
    | nil => simp [humps] at h; simp [h]
    | cons d rest =>
      simp only [humps] at h
      split at h
      · rcases List.mem_cons.1 h with rfl | h
        · simp
        · exact ih h
      · split at h
        · simp at h; simp [h]
        · rename_i v vs hv
          rcases List.mem_cons.1 h with rfl | h
          · simp
          · exact ih (hv ▸ List.mem_cons_of_mem _ h)

end ValidatorGen.Identifier
