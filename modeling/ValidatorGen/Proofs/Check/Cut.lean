/-
Where a text is cut at its separators. The splitter passes over literals, over pairs of
brackets and over words other than `or` (`Uncut`), so texts between commas are its pieces
(`splitTopLevel_commas`), and so are, but for blanks, texts between the word `or`
(`splitTopLevel_orWords`).
-/
import ValidatorGen.Proofs.Check.Nesting
import ValidatorGen.Proofs.Text.Ascii

namespace ValidatorGen.Check

open Text

/-- The splitter passes over `t` when `rest` comes after it. -/
def Uncut (sep : Separator) (t rest : List Char) : Prop :=
  ∀ before, ∃ after, splitFrom sep 0 0 false before (t ++ rest)
    = t.foldr consHead (splitFrom sep 0 0 false after rest)

/-- A character that no separator, literal or bracket starts with. -/
def startsNothing (c : Char) : Bool := isPlain c && c != ',' && c != 'o' && c != 'O'

theorem splitTopLevel_of_uncut {sep : Separator} {t : List Char} (h : Uncut sep t []) :
    splitTopLevel sep t = [t] := by
  obtain ⟨after, h⟩ := h none
  rw [List.append_nil] at h
  rw [splitTopLevel, h, splitFrom, foldr_consHead, List.append_nil]

namespace Uncut

variable {sep : Separator} {s t rest : List Char}

theorem nil : Uncut sep [] rest := fun before => ⟨before, rfl⟩

theorem append (hs : Uncut sep s (t ++ rest)) (ht : Uncut sep t rest) :
    Uncut sep (s ++ t) rest := by
  intro before
  obtain ⟨middle, h₁⟩ := hs before
  obtain ⟨after, h₂⟩ := ht middle
  exact ⟨after, by rw [List.append_assoc, h₁, h₂, List.foldr_append]⟩

theorem quoted (v : List Char) : Uncut sep (quoted v) rest := fun before =>
  ⟨some quote, splitFrom_quoted sep 0 before v rest⟩

theorem cons {c : Char} (hc : startsNothing c = true) (h : Uncut sep t rest) :
    Uncut sep (c :: t) rest := by
  intro before
  simp only [startsNothing, Bool.and_eq_true, bne_iff_ne] at hc
  obtain ⟨⟨⟨hp, hcomma⟩, ho⟩, hO⟩ := hc
  obtain ⟨after, h⟩ := h (some c)
  have hsplit := splitFrom_cons sep (isPlain_iff.mp hp).1 0 before (t ++ rest)
    fun _ => length?_of_ne sep hcomma ho hO before (t ++ rest)
  rw [bracketStep_of_plain hp, Int.add_zero] at hsplit
  exact ⟨after, by rw [List.cons_append, hsplit, h, List.foldr_cons]⟩

theorem parens (hs : Nested s) : Uncut sep ('(' :: (s ++ [')'])) rest := by
  intro before
  have h₁ := splitFrom_cons sep (c := '(') (by decide) 0 before (s ++ (')' :: rest))
    (absurd · (by decide))
  have h₂ := hs.splitFrom_append sep (')' :: rest) (show (0 : Int) < 1 by decide) (some '(') none
  have h₃ := splitFrom_cons sep (c := ')') (by decide) 1 none rest
    fun _ => length?_of_ne sep (by decide) (by decide) (by decide) none rest
  refine ⟨some ')', ?_⟩
  rw [List.cons_append, List.append_assoc, List.singleton_append, h₁]
  change consHead '(' (splitFrom sep 0 1 false (some '(') _) = _
  rw [h₂, h₃, List.foldr_cons, List.foldr_append]
  rfl

theorem brackets (hs : Nested s) : Uncut sep ('[' :: (s ++ [']'])) rest := by
  intro before
  have h₁ := splitFrom_cons sep (c := '[') (by decide) 0 before (s ++ (']' :: rest))
    (absurd · (by decide))
  have h₂ := hs.splitFrom_append sep (']' :: rest) (show (0 : Int) < 1 by decide) (some '[') none
  have h₃ := splitFrom_cons sep (c := ']') (by decide) 1 none rest
    fun _ => length?_of_ne sep (by decide) (by decide) (by decide) none rest
  refine ⟨some ']', ?_⟩
  rw [List.cons_append, List.append_assoc, List.singleton_append, h₁]
  change consHead '[' (splitFrom sep 0 1 false (some '[') _) = _
  rw [h₂, h₃, List.foldr_cons, List.foldr_append]
  rfl

theorem inParens (ht : Nested t) (h : Uncut sep t rest) (n : Nat) :
    Uncut sep (inParens n t) rest := by
  cases n with
  | zero => exact h
  | succ n => exact parens (ht.inParens n)

end Uncut

/-! ## Words -/

/-- A character inside of a word: it neither borders the word `or` nor ends an item. -/
def isInner (c : Char) : Bool := isPlain c && !bordersWord c && c != ','

theorem isInner_iff {c : Char} :
    isInner c = true ↔ isPlain c = true ∧ bordersWord c = false ∧ c ≠ ',' := by
  simp [isInner, and_assoc]

theorem splitFrom_word (sep : Separator) {w : List Char} (hw : ∀ c ∈ w, isInner c = true)
    {before : Option Char} (hb : before.any bordersWord = false) (rest : List Char) :
    ∃ after, splitFrom sep 0 0 false before (w ++ rest)
      = w.foldr consHead (splitFrom sep 0 0 false after rest) := by
  induction w generalizing before with
  | nil => exact ⟨before, rfl⟩
  | cons c w ih =>
    obtain ⟨hp, hc, hcomma⟩ := isInner_iff.mp (hw c (by simp))
    have hb' : (some c).any bordersWord = false := by simpa using hc
    obtain ⟨after, ih⟩ := ih (fun d hd => hw d (by simp [hd])) hb'
    refine ⟨after, ?_⟩
    have hn : sep.length? before (c :: (w ++ rest)) = none := by
      cases sep with
      | comma => simp [Separator.length?, hcomma]
      | orWord => cases w ++ rest <;> simp [Separator.length?, startsWithOr, hb]
    rw [List.cons_append,
      splitFrom_cons sep (isPlain_iff.mp hp).1 0 before _ (fun _ => hn), bracketStep_of_plain hp,
      Int.add_zero, ih, List.foldr_cons]

/-- A word other than `or` is passed over, if it does not go on with an `r`. -/
theorem Uncut.word {sep : Separator} {w rest : List Char} (hw : ∀ c ∈ w, isInner c = true)
    (hne : w.map Char.toLower ≠ ['o', 'r'])
    (hr : ∀ c, rest.head? = some c → c.toLower ≠ 'r') : Uncut sep w rest := by
  intro before
  cases w with
  | nil => exact ⟨before, rfl⟩
  | cons c w =>
    obtain ⟨hp, hc, hcomma⟩ := isInner_iff.mp (hw c (by simp))
    have hb : (some c).any bordersWord = false := by simpa using hc
    have hw' : ∀ d ∈ w, isInner d = true := fun d hd => hw d (by simp [hd])
    obtain ⟨after, h⟩ := splitFrom_word sep hw' hb rest
    have hn : sep.length? before (c :: (w ++ rest)) = none := by
      cases sep with
      | comma => simp [Separator.length?, hcomma]
      | orWord =>
        have hs : startsWithOr before (c :: (w ++ rest)) = false := by
          refine Bool.eq_false_iff.mpr fun hs => ?_
          -- `or` would be the whole word, or end in what follows, or go on
          cases w with
          | nil =>
            cases rest with
            | nil => simp [startsWithOr] at hs
            | cons d rest =>
              simp only [List.nil_append, startsWithOr, Bool.and_eq_true, Bool.or_eq_true,
                beq_iff_eq] at hs
              have hd : d.toLower = 'r' := by rcases hs.1.1.2 with rfl | rfl <;> rfl
              exact hr d rfl hd
          | cons d w =>
            cases w with
            | nil =>
              simp only [List.cons_append, startsWithOr, Bool.and_eq_true, Bool.or_eq_true,
                beq_iff_eq] at hs
              apply hne
              rcases hs.1.1.1 with rfl | rfl <;> rcases hs.1.1.2 with rfl | rfl <;> rfl
            | cons e w =>
              have he := (isInner_iff.mp (hw e (by simp))).2.1
              simp [startsWithOr, he] at hs
        simp [Separator.length?, hs]
    refine ⟨after, ?_⟩
    rw [List.cons_append,
      splitFrom_cons sep (isPlain_iff.mp hp).1 0 before _ (fun _ => hn), bracketStep_of_plain hp,
      Int.add_zero, h, List.foldr_cons]

/-! ## Cuts -/

theorem splitFrom_comma (before : Option Char) (rest : List Char) :
    splitFrom .comma 0 0 false before (',' :: rest)
      = [] :: splitFrom .comma 0 0 false (some ',') rest := by
  simp [splitFrom, bracketStep, Separator.length?, show (',' : Char) ≠ quote by decide]

theorem splitFrom_blank (sep : Separator) (before : Option Char) (rest : List Char) :
    splitFrom sep 0 0 false before (' ' :: rest)
      = consHead ' ' (splitFrom sep 0 0 false (some ' ') rest) :=
  splitFrom_cons sep (c := ' ') (by decide) 0 before rest
    fun _ => length?_of_ne sep (by decide) (by decide) (by decide) before rest

/-- Texts with a comma and a blank between them. -/
def commaList (items : List (List Char)) : List Char := [',', ' '].intercalate items

theorem commaList_singleton (t : List Char) : commaList [t] = t := by
  simp [commaList, List.intercalate]

theorem commaList_cons_cons (t u : List Char) (ts : List (List Char)) :
    commaList (t :: u :: ts) = t ++ ',' :: ' ' :: commaList (u :: ts) := by
  simp [commaList, List.intercalate]

theorem splitFrom_commas {t : List Char} {ts : List (List Char)}
    (h : ∀ u ∈ t :: ts, ∀ rest, Uncut .comma u rest) (before : Option Char) :
    splitFrom .comma 0 0 false before (commaList (t :: ts)) = t :: ts.map (' ' :: ·) := by
  induction ts generalizing t before with
  | nil =>
    obtain ⟨after, ht⟩ := h t (by simp) [] before
    rw [commaList_singleton, ← List.append_nil t, ht, splitFrom, foldr_consHead]
    simp
  | cons u ts ih =>
    obtain ⟨after, ht⟩ := h t (by simp) (',' :: ' ' :: commaList (u :: ts)) before
    have ih := ih (t := u) (fun v hv => h v (List.mem_cons_of_mem _ hv)) (some ' ')
    rw [commaList_cons_cons, ht, splitFrom_comma, splitFrom_blank, ih, foldr_consHead]
    simp [consHead]

/-- A list of items is cut into its items. -/
theorem splitTopLevel_commas {t : List Char} {ts : List (List Char)}
    (h : ∀ u ∈ t :: ts, ∀ rest, Uncut .comma u rest) :
    splitTopLevel .comma (commaList (t :: ts)) = t :: ts.map (' ' :: ·) :=
  splitFrom_commas h none

theorem splitFrom_skip (sep : Separator) (skip : Nat) (depth : Int) (inQuote : Bool)
    (before : Option Char) (c : Char) (rest : List Char) :
    splitFrom sep (skip + 1) depth inQuote before (c :: rest)
      = splitFrom sep skip depth inQuote (some c) rest := by
  rw [splitFrom]

theorem splitFrom_orWord {w : List Char} (hw : w.map Char.toLower = ['o', 'r'])
    (rest : List Char) :
    splitFrom .orWord 0 0 false (some ' ') (w ++ ' ' :: rest)
      = [] :: consHead ' ' (splitFrom .orWord 0 0 false (some ' ') rest) := by
  obtain ⟨c, w, rfl, hc, hw⟩ := List.map_eq_cons_iff.mp hw
  obtain ⟨d, w, rfl, hd, hw⟩ := List.map_eq_cons_iff.mp hw
  obtain rfl : w = [] := List.map_eq_nil_iff.mp hw
  have hc : c = 'o' ∨ c = 'O' := eq_or_eq_of_toLower hc
  have hd : d = 'r' ∨ d = 'R' := eq_or_eq_of_toLower hd
  have hor : startsWithOr (some ' ') (c :: d :: ' ' :: rest) = true := by
    rcases hc with rfl | rfl <;> rcases hd with rfl | rfl <;> rfl
  have hp : isPlain c = true := by rcases hc with rfl | rfl <;> rfl
  rw [List.cons_append, List.cons_append, List.nil_append, splitFrom,
    if_neg (isPlain_iff.mp hp).1, if_neg Bool.false_ne_true, bracketStep_of_plain hp,
    if_pos (Int.add_zero 0), Separator.length?, if_pos hor]
  change [] :: splitFrom .orWord 1 0 false (some c) (d :: ' ' :: rest) = _
  rw [splitFrom_skip, splitFrom_blank]

/-- Texts with the word `or` between them, each with the spelling of the word before it. -/
def orList (t : List Char) (ts : List (List Char × List Char)) : List Char :=
  t ++ ts.flatMap fun (w, u) => ' ' :: (w ++ ' ' :: u)

theorem orList_nil (t : List Char) : orList t [] = t := by
  simp [orList]

theorem orList_cons (t w u : List Char) (ts : List (List Char × List Char)) :
    orList t ((w, u) :: ts) = t ++ ' ' :: (w ++ ' ' :: orList u ts) := by
  simp [orList]

theorem orList_ne_nil {t : List Char} (h : t ≠ []) (ts : List (List Char × List Char)) :
    orList t ts ≠ [] := by
  simp [orList, h]

theorem tight_orList {t : List Char} {ts : List (List Char × List Char)}
    (h : ∀ u ∈ t :: ts.map Prod.snd, Tight u ∧ u ≠ []) : Tight (orList t ts) := by
  induction ts generalizing t with
  | nil =>
    rw [orList_nil]
    exact (h t (by simp)).1
  | cons p ts ih =>
    obtain ⟨w, u⟩ := p
    have ht := h t (by simp)
    have hu := h u (by simp)
    have ih := ih (t := u) fun v hv => h v (List.mem_cons_of_mem _ hv)
    have hform : orList t ((w, u) :: ts) = t ++ ((' ' :: (w ++ [' '])) ++ orList u ts) := by
      simp [orList_cons]
    rw [hform]
    exact ht.1.between ht.2 ih (orList_ne_nil hu.2 ts) _

theorem nested_orList {t : List Char} {ts : List (List Char × List Char)}
    (hw : ∀ p ∈ ts, Nested p.1) (h : ∀ u ∈ t :: ts.map Prod.snd, Nested u) :
    Nested (orList t ts) := by
  induction ts generalizing t with
  | nil =>
    rw [orList_nil]
    exact h t (by simp)
  | cons p ts ih =>
    obtain ⟨w, u⟩ := p
    have ih := ih (t := u) (fun q hq => hw q (List.mem_cons_of_mem _ hq))
      fun v hv => h v (List.mem_cons_of_mem _ hv)
    rw [orList_cons]
    exact (h t (by simp)).append (.plain rfl ((hw (w, u) (by simp)).append (.plain rfl ih)))

theorem splitFrom_ne_nil (sep : Separator) (skip : Nat) (depth : Int) (inQuote : Bool)
    (before : Option Char) (t : List Char) : splitFrom sep skip depth inQuote before t ≠ [] := by
  have hcons : ∀ (c : Char) (ps : List (List Char)), consHead c ps ≠ [] := by
    intro c ps
    cases ps <;> simp [consHead]
  induction t generalizing skip depth inQuote before with
  | nil => cases skip <;> simp [splitFrom]
  | cons c t ih =>
    cases skip with
    | succ skip => exact ih skip depth inQuote (some c)
    | zero =>
      unfold splitFrom
      split
      · exact hcons c _
      · split
        · exact hcons c _
        · split
          · simp
          · exact hcons c _

/-- Alternatives are cut apart, but for blanks around them. -/
theorem splitFrom_orWords {t : List Char} {ts : List (List Char × List Char)}
    (hw : ∀ p ∈ ts, p.1.map Char.toLower = ['o', 'r'])
    (h : ∀ u ∈ t :: ts.map Prod.snd, ∀ rest, rest = [] ∨ rest.head? = some ' ' →
      Uncut .orWord u rest) (before : Option Char) :
    (splitFrom .orWord 0 0 false before (orList t ts)).map stripOuterParens
      = (t :: ts.map Prod.snd).map stripOuterParens := by
  induction ts generalizing t before with
  | nil =>
    obtain ⟨after, ht⟩ := h t (by simp) [] (.inl rfl) before
    rw [orList_nil, ← List.append_nil t, ht, splitFrom, foldr_consHead]
    simp
  | cons p ts ih =>
    obtain ⟨w, u⟩ := p
    obtain ⟨after, ht⟩ := h t (by simp) (' ' :: (w ++ ' ' :: orList u ts)) (.inr rfl) before
    have ih := ih (t := u) (fun q hq => hw q (List.mem_cons_of_mem _ hq))
      (fun v hv => h v (List.mem_cons_of_mem _ hv)) (some ' ')
    rw [orList_cons, ht, splitFrom_blank, splitFrom_orWord (w := w) (hw (w, u) (by simp))]
    obtain ⟨p, ps, hps⟩ := List.exists_cons_of_ne_nil
      (splitFrom_ne_nil .orWord 0 0 false (some ' ') (orList u ts))
    rw [hps] at ih ⊢
    simp only [consHead, foldr_consHead, List.map_cons] at ih ⊢
    rw [stripOuterParens_concat_blank (by decide), stripOuterParens_cons_blank (by decide), ih]

theorem splitTopLevel_orWords {t : List Char} {ts : List (List Char × List Char)}
    (hw : ∀ p ∈ ts, p.1.map Char.toLower = ['o', 'r'])
    (h : ∀ u ∈ t :: ts.map Prod.snd, ∀ rest, rest = [] ∨ rest.head? = some ' ' →
      Uncut .orWord u rest) :
    (splitTopLevel .orWord (orList t ts)).map stripOuterParens
      = (t :: ts.map Prod.snd).map stripOuterParens :=
  splitFrom_orWords hw h none

end ValidatorGen.Check
