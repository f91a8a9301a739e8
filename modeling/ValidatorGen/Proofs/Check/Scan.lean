/-
Names at the start of a text, whatever the text. A name is enclosed or bare
(`scanName?_cons`). With what comes after it, it is the text (`scanName?_eq_append`), and it is
found as well when the text goes on (`scanName?_append_right`).
-/
import ValidatorGen.Proofs.Check.Name
import ValidatorGen.Proofs.Text.Case

namespace ValidatorGen.Check

open Text

/-- What closes a name that the character opens. -/
def closingMark? (c : Char) : Option Char :=
  if c = '"' then some '"' else if c = backtick then some backtick
  else if c = '[' then some ']' else none

/-- A name is enclosed, or it goes on while there are name characters. -/
theorem scanName?_cons (start : Char → Bool) (c : Char) (t : List Char) :
    scanName? start (c :: t) = match closingMark? c with
      | some closing => scanQuotedName? c closing t
      | none =>
        if start c then some (c :: t.takeWhile isNameChar, t.dropWhile isNameChar) else none := by
  rw [scanName?, closingMark?]
  split
  · next h => rw [h]
  split
  · next h => rw [h]
  split
  · next h => rw [h]
  · rfl

/-! ## Enclosed names -/

section

variable {opening closing : Char} {t name rest : List Char}
  (h : scanQuotedName? opening closing t = some (name, rest))
include h

/-- An enclosed name has something between its marks, up to the first that closes it. -/
theorem exists_of_scanQuotedName? :
    ∃ body, body ≠ [] ∧ closing ∉ body ∧ name = opening :: (body ++ [closing])
      ∧ t = body ++ closing :: rest := by
  unfold scanQuotedName? at h
  split at h
  next c body d after htake hdrop =>
    simp only [Option.some.injEq, Prod.mk.injEq] at h
    obtain ⟨rfl, rfl⟩ := h
    obtain rfl : d = closing := by
      have hstop := List.head?_dropWhile_not (· ≠ closing) t
      rw [hdrop] at hstop
      simpa using hstop
    refine ⟨c :: body, List.cons_ne_nil _ _, fun hmem => ?_, rfl, ?_⟩
    · rw [← htake] at hmem
      simpa using List.all_eq_true.mp List.all_takeWhile _ hmem
    · rw [← htake, ← hdrop, List.takeWhile_append_dropWhile]
  · cases h

theorem scanQuotedName?_append_right (z : List Char) :
    scanQuotedName? opening closing (t ++ z) = some (name, rest ++ z) := by
  obtain ⟨body, hne, hbody, rfl, rfl⟩ := exists_of_scanQuotedName? h
  rw [List.append_assoc, List.cons_append]
  exact scanQuotedName?_of_not_mem opening hne hbody (rest ++ z)

end

/-! ## All names -/

section

variable {start : Char → Bool} {t name rest : List Char}
  (h : scanName? start t = some (name, rest))
include h

/-- A name and what comes after it are the text. -/
theorem scanName?_eq_append : t = name ++ rest := by
  cases t with
  | nil => cases h
  | cons c t =>
    rw [scanName?_cons] at h
    split at h
    · obtain ⟨body, -, -, rfl, rfl⟩ := exists_of_scanQuotedName? h
      simp
    · split at h
      · simp only [Option.some.injEq, Prod.mk.injEq] at h
        obtain ⟨rfl, rfl⟩ := h
        rw [List.cons_append, List.takeWhile_append_dropWhile]
      · cases h

theorem ne_nil_of_scanName? : name ≠ [] := by
  cases t with
  | nil => cases h
  | cons c t =>
    rw [scanName?_cons] at h
    split at h
    · obtain ⟨body, -, -, rfl, -⟩ := exists_of_scanQuotedName? h
      exact List.cons_ne_nil _ _
    · obtain ⟨-, h⟩ := Option.ite_none_right_eq_some.mp h
      obtain ⟨rfl, -⟩ := Prod.mk.inj (Option.some.inj h)
      exact List.cons_ne_nil _ _

/-- A name is found as well when the text goes on, unless it takes the whole text. -/
theorem scanName?_append_right (hne : rest ≠ []) (z : List Char) :
    scanName? start (t ++ z) = some (name, rest ++ z) := by
  cases t with
  | nil => cases h
  | cons c t =>
    rw [scanName?_cons] at h
    rw [List.cons_append, scanName?_cons]
    cases hc : closingMark? c with
    | some closing =>
      rw [hc] at h
      exact scanQuotedName?_append_right h z
    | none =>
      rw [hc] at h
      obtain ⟨hs, h⟩ := Option.ite_none_right_eq_some.mp h
      simp only [Option.some.injEq, Prod.mk.injEq] at h
      obtain ⟨rfl, rfl⟩ := h
      have hall : ∀ d ∈ t.takeWhile isNameChar, isNameChar d = true := fun d hd =>
        List.all_eq_true.mp List.all_takeWhile d hd
      have hstop : ∀ d, (t.dropWhile isNameChar ++ z).head? = some d → isNameChar d = false := by
        intro d hd
        have hstop := List.head?_dropWhile_not isNameChar t
        obtain ⟨e, more, he⟩ := List.exists_cons_of_ne_nil hne
        rw [he, List.head?_cons] at hstop
        rw [he, List.cons_append, List.head?_cons, Option.some.injEq] at hd
        subst hd
        simpa using hstop
      have hform : t ++ z = t.takeWhile isNameChar ++ (t.dropWhile isNameChar ++ z) := by
        rw [← List.append_assoc, List.takeWhile_append_dropWhile]
      dsimp only
      rw [if_pos hs, hform, takeWhile_append_of_stop hall hstop,
        dropWhile_append_of_stop hall hstop]

end

/-- A name that ends before `z` is found without `z` as well. -/
theorem scanName?_of_append {start : Char → Bool} {t name rest z : List Char}
    (h : scanName? start (t ++ z) = some (name, rest ++ z)) :
    scanName? start t = some (name, rest) := by
  have hform : t = name ++ rest := by
    have hall := scanName?_eq_append h
    rwa [← List.append_assoc, List.append_left_inj] at hall
  obtain ⟨c, name, rfl⟩ := List.exists_cons_of_ne_nil (ne_nil_of_scanName? h)
  subst hform
  simp only [List.cons_append] at h ⊢
  rw [scanName?_cons] at h ⊢
  cases hc : closingMark? c with
  | some closing =>
    rw [hc] at h
    obtain ⟨body, hne, hbody, hname, -⟩ := exists_of_scanQuotedName? h
    obtain rfl := (List.cons.inj hname).2
    dsimp only
    rw [List.append_assoc]
    exact scanQuotedName?_of_not_mem c hne hbody rest
  | none =>
    rw [hc] at h
    obtain ⟨hs, h⟩ := Option.ite_none_right_eq_some.mp h
    obtain ⟨hname, hrest⟩ := Prod.mk.inj (Option.some.inj h)
    have htake := (List.cons.inj hname).2
    have hall : ∀ d ∈ name, isNameChar d = true := fun d hd =>
      List.all_eq_true.mp List.all_takeWhile d (htake ▸ hd)
    have hstop : ∀ d, rest.head? = some d → isNameChar d = false := by
      intro d hd
      have hfirst := List.head?_dropWhile_not isNameChar (name ++ rest ++ z)
      obtain ⟨e, more, rfl⟩ := List.exists_cons_of_ne_nil (l := rest) (by rintro rfl; cases hd)
      rw [hrest, List.cons_append, List.head?_cons] at hfirst
      obtain rfl := Option.some.inj hd
      simpa using hfirst
    dsimp only
    rw [if_pos hs, takeWhile_append_of_stop hall hstop, dropWhile_append_of_stop hall hstop]

/-! ## Columns -/

/-- The name of a column has the quotes that are written. -/
theorem count_canonicalName (t : List Char) :
    (canonicalName t).count quote = t.count quote := by
  have strip : ∀ {p : Char → Bool}, p quote = false → ∀ t : List Char,
      (stripWhile p t).count quote = t.count quote := by
    intro p hp t
    obtain ⟨a, b, hab, ha, hb⟩ := exists_append_stripWhile p t
    have hzero : ∀ {s : List Char}, (∀ c ∈ s, p c = true) → s.count quote = 0 := fun hs =>
      List.count_eq_zero.mpr fun hmem => absurd (hs _ hmem) (by simp [hp])
    conv_rhs => rw [hab]
    rw [List.count_append, List.count_append, hzero ha, hzero hb, Nat.zero_add, Nat.add_zero]
  rw [canonicalName, quote, caseless_apostrophe.count_lowercase, ← quote, strip rfl, trim,
    strip rfl]


/-- The code points of white space. -/
def blankPoints : List Nat :=
  [9, 10, 11, 12, 13, 0x20, 0x85, 0xA0, 0x1680, 0x2000, 0x2001, 0x2002, 0x2003, 0x2004, 0x2005,
    0x2006, 0x2007, 0x2008, 0x2009, 0x200A, 0x2028, 0x2029, 0x202F, 0x205F, 0x3000]

theorem mem_blankPoints {c : Char} (h : isBlank c = true) : c.toNat ∈ blankPoints := by
  simp only [isBlank, Bool.or_eq_true, Bool.and_eq_true, decide_eq_true_eq, beq_iff_eq] at h
  simp only [blankPoints, List.mem_cons, List.not_mem_nil, or_false]
  omega

theorem isBlank_of_isFoldedNameStart {c : Char} (h : isFoldedNameStart c = true) :
    isBlank c = false := by
  have hfold : ∀ n ∈ blankPoints, foldPoint 's'.toNat ≠ foldPoint n ∧
      foldPoint 'k'.toNat ≠ foldPoint n := by decide +kernel
  simp only [isFoldedNameStart, Bool.or_eq_true] at h
  refine Bool.eq_false_iff.mpr fun hb => ?_
  rcases h with (h | h) | h
  · exact absurd hb (by simp [(nameCharFacts (isIdentifierChar_of_isNameStart h)).blank])
  · exact (hfold _ (mem_blankPoints hb)).1 (beq_iff_eq.mp h)
  · exact (hfold _ (mem_blankPoints hb)).2 (beq_iff_eq.mp h)

/-- A column starts with neither white space nor a parenthesis. -/
theorem head_of_scanColumn? {t column rest : List Char}
    (h : scanColumn? t = some (column, rest)) :
    ∃ c t', t = c :: t' ∧ isBlank c = false ∧ c ≠ '(' := by
  cases t with
  | nil => cases h
  | cons c t =>
    refine ⟨c, t, rfl, ?_⟩
    rw [scanColumn?, scanName?_cons] at h
    by_cases hs : isFoldedNameStart c = true
    · refine ⟨isBlank_of_isFoldedNameStart hs, ?_⟩
      rintro rfl
      exact absurd hs (by decide +kernel)
    · unfold closingMark? at h
      split at h
      next closing hc =>
        split at hc
        · next heq => subst heq; decide
        split at hc
        · next heq => subst heq; decide
        split at hc
        · next heq => subst heq; decide
        · cases hc
      · rw [if_neg hs] at h
        cases h

end ValidatorGen.Check
