/-
White space, and cutting text at it: the Unicode property White_Space decides what is
trimmed and where words end; the five ASCII blanks decide where a keyword ends.
`fields` cuts at every separator: there is always a piece (`fields_ne_nil`), a text
without separators is one (`fields_of_all_not`), and a separator ends a piece, so that the
text on either side of it is cut on its own (`fields_append_sep`).
-/
namespace ValidatorGen.Text

/-- A character with the Unicode property White_Space. -/
def isBlank (c : Char) : Bool :=
  let n := c.toNat
  (9 ≤ n && n ≤ 13) || n == 0x20 || n == 0x85 || n == 0xA0 || n == 0x1680
    || (0x2000 ≤ n && n ≤ 0x200A) || n == 0x2028 || n == 0x2029 || n == 0x202F || n == 0x205F
    || n == 0x3000

/-- Space, tab, line feed, form feed or carriage return. -/
def isAsciiBlank (c : Char) : Bool :=
  c == ' ' || c == '\t' || c == '\n' || c == '\x0c' || c == '\r'

/-- The text without the characters at its end that pass `p`. -/
def dropEndWhile (p : Char → Bool) (text : List Char) : List Char :=
  (text.reverse.dropWhile p).reverse

/-- The text without the characters at either end that pass `p`. -/
def stripWhile (p : Char → Bool) (text : List Char) : List Char :=
  dropEndWhile p (text.dropWhile p)

/-- The text without white space at its start. -/
def trimStart (text : List Char) : List Char := text.dropWhile isBlank

/-- The text without white space at its end. -/
def trimEnd (text : List Char) : List Char := dropEndWhile isBlank text

/-- The text without white space at either end. -/
def trim (text : List Char) : List Char := stripWhile isBlank text

/-- The pieces of the text between the characters that pass `sep`, empty ones included:
one more than there are separators. -/
def fields (sep : Char → Bool) : List Char → List (List Char)
  | [] => [[]]
  | c :: rest =>
    if sep c then [] :: fields sep rest
    else
      match fields sep rest with
      | [] => [[c]]
      | piece :: pieces => (c :: piece) :: pieces

/-- The longest pieces of the text without white space in them. -/
def blankWords (text : List Char) : List (List Char) :=
  (fields isBlank text).filter (· ≠ [])

/-- The lines of the text, without their line feeds. -/
def lines (text : List Char) : List (List Char) := fields (· == '\n') text

theorem fields_ne_nil (sep : Char → Bool) (text : List Char) : fields sep text ≠ [] := by
  cases text with
  | nil => simp [fields]
  | cons c rest =>
    simp only [fields]
    split
    · simp
    · split <;> simp

/-- A separator ends a piece: the text on either side of it is cut on its own. -/
theorem fields_append_sep (sep : Char → Bool) {x : Char} (hx : sep x = true) (a b : List Char) :
    fields sep (a ++ x :: b) = fields sep a ++ fields sep b := by
  induction a with
  | nil => simp [fields, hx]
  | cons c a ih =>
    simp only [List.cons_append, fields, ih]
    split
    · simp
    · split
      · rename_i h
        simp [fields_ne_nil] at h
      · rename_i p ps h
        cases hf : fields sep a with
        | nil => exact absurd hf (fields_ne_nil sep a)
        | cons q qs =>
          rw [hf, List.cons_append, List.cons.injEq] at h
          simp [h.1, h.2]

/-- Text without a separator is one piece. -/
theorem fields_of_all_not (sep : Char → Bool) {text : List Char}
    (h : ∀ c ∈ text, sep c = false) : fields sep text = [text] := by
  induction text with
  | nil => rfl
  | cons c rest ih =>
    have hc : sep c = false := h c (by simp)
    rw [fields, if_neg (by simp [hc]), ih fun d hd => h d (by simp [hd])]

end ValidatorGen.Text
