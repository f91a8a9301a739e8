/-
Literals as they are written: a value between quotes, every quote in it doubled (`quoted`).
Reading a literal gives its value back (`quotedInside?_quoted`, `unescape?_escape`), and
what is done to a clause outside of its literals (`mapPlain`) works on the text before a
literal and on the text after it, each on its own (`mapPlain_append`, `mapPlain_quoted`).
-/
import ValidatorGen.Check.Literal

namespace ValidatorGen.Check

/-- A value as a literal. -/
def quoted (value : List Char) : List Char := quote :: (escape value ++ [quote])

/-! ## Reading a literal -/

theorem escape_cons_quote (v : List Char) : escape (quote :: v) = quote :: quote :: escape v := rfl

theorem escape_cons_of_ne {c : Char} (h : c ≠ quote) (v : List Char) :
    escape (c :: v) = c :: escape v := by
  simp [escape, h]

theorem unescape?_cons_of_ne {c : Char} (h : c ≠ quote) (t : List Char) :
    unescape? (c :: t) = (unescape? t).map (c :: ·) := by
  cases t <;> simp [unescape?, h]

theorem unescape?_escape (v : List Char) : unescape? (escape v) = some v := by
  induction v with
  | nil => rfl
  | cons c v ih =>
    by_cases h : c = quote
    · subst h
      simp [escape_cons_quote, unescape?, ih]
    · simp [escape_cons_of_ne h, unescape?_cons_of_ne h, ih]

theorem quotedInside?_quoted (v : List Char) : quotedInside? (quoted v) = some (escape v) := by
  simp [quoted, quotedInside?]

/-! ## Pieces of a clause -/

theorem literalPieces_cons_of_ne {c : Char} (h : c ≠ quote) (t : List Char) :
    literalPieces (c :: t) = consText c (literalPieces t) := by
  cases t <;> simp [literalPieces, h, consText]

theorem literalPieces_quote {rest : List Char} (h : rest.head? ≠ some quote) :
    literalPieces (quote :: rest) = .literal [quote] :: pieces rest := by
  cases rest with
  | nil => simp [literalPieces]
  | cons d rest =>
    have hd : d ≠ quote := by simpa using h
    simp [literalPieces, hd]

theorem literalPieces_escape {rest : List Char} (h : rest.head? ≠ some quote) (v : List Char) :
    literalPieces (escape v ++ quote :: rest) = .literal (escape v ++ [quote]) :: pieces rest := by
  induction v with
  | nil => exact literalPieces_quote h
  | cons c v ih =>
    by_cases hc : c = quote
    · subst hc
      simp [escape_cons_quote, literalPieces, ih, consText]
    · simp [escape_cons_of_ne hc, literalPieces_cons_of_ne hc, ih, consText]

theorem pieces_quoted {rest : List Char} (h : rest.head? ≠ some quote) (v : List Char) :
    pieces (quoted v ++ rest) = .plain [] :: .literal (quoted v) :: pieces rest := by
  simp [quoted, pieces, literalPieces_escape h, consText]

theorem pieces_append {p tail : List Char} {ps : List Piece} (hp : quote ∉ p)
    (h : pieces tail = .plain [] :: ps) : pieces (p ++ tail) = .plain p :: ps := by
  induction p with
  | nil => exact h
  | cons c p ih =>
    simp only [List.mem_cons, not_or] at hp
    simp [pieces, Ne.symm hp.1, ih hp.2, consText]

/-! ## What is done outside of literals -/

theorem mapPlain_quoted {f : List Char → List Char} (hf : f [] = []) {rest : List Char}
    (h : rest.head? ≠ some quote) (v : List Char) :
    mapPlain f (quoted v ++ rest) = quoted v ++ mapPlain f rest := by
  simp [mapPlain, pieces_quoted h, hf]

/-- Text up to a literal, or to the end, is changed on its own. -/
theorem mapPlain_append {f : List Char → List Char} (hf : f [] = []) {p tail : List Char}
    (hp : quote ∉ p) (ht : ∀ c, tail.head? = some c → c = quote) :
    mapPlain f (p ++ tail) = f p ++ mapPlain f tail := by
  obtain ⟨ps, hps⟩ : ∃ ps, pieces tail = .plain [] :: ps := by
    cases tail with
    | nil => exact ⟨[], by simp [pieces]⟩
    | cons c tail =>
      obtain rfl : c = quote := ht c rfl
      exact ⟨_, by simp [pieces]; rfl⟩
  simp [mapPlain, pieces_append hp hps, hps, hf]

theorem mapPlain_of_not_mem {f : List Char → List Char} (hf : f [] = []) {p : List Char}
    (hp : quote ∉ p) : mapPlain f p = f p := by
  have h := mapPlain_append hf hp (show ∀ c, [].head? = some c → c = quote by simp)
  simpa [mapPlain, pieces, hf] using h

/-- What `f` does to the start of every stretch it does to the start of a text. -/
theorem mapPlain_append_of_stretch {f : List Char → List Char} (hf : f [] = [])
    {s u rest : List Char} (hs : quote ∉ s)
    (h : ∀ p, p <+: rest → quote ∉ p → f (s ++ p) = u ++ f p) :
    mapPlain f (s ++ rest) = u ++ mapPlain f rest := by
  have hp : quote ∉ rest.takeWhile (· ≠ quote) := by
    intro hmem
    have hne := List.all_eq_true.mp List.all_takeWhile _ hmem
    simp at hne
  have htail : ∀ c, (rest.dropWhile (· ≠ quote)).head? = some c → c = quote := by
    intro c hc
    have hne := List.head?_dropWhile_not (· ≠ quote) rest
    rw [hc] at hne
    simpa using hne
  have hrest : rest.takeWhile (· ≠ quote) ++ rest.dropWhile (· ≠ quote) = rest :=
    List.takeWhile_append_dropWhile
  have hfirst := h _ (List.takeWhile_prefix _) hp
  have hboth : quote ∉ s ++ rest.takeWhile (· ≠ quote) := fun hmem =>
    (List.mem_append.mp hmem).elim hs hp
  rw [← hrest, ← List.append_assoc, mapPlain_append hf hboth htail, hfirst,
    mapPlain_append hf hp htail, List.append_assoc]

/-- What comes before the first literal is changed, and the literal is not. -/
theorem mapPlain_append_quoted {f : List Char → List Char} (hf : f [] = []) {p rest : List Char}
    (hp : quote ∉ p) (h : rest.head? ≠ some quote) (v : List Char) :
    mapPlain f (p ++ (quoted v ++ rest)) = f p ++ (quoted v ++ mapPlain f rest) := by
  rw [mapPlain_append hf hp (by simp [quoted]), mapPlain_quoted hf h]

end ValidatorGen.Check
