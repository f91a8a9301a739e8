/-
How deep in parentheses a text ends (`depthAfter?`). A text without quotes and square brackets
closes its parentheses in order when it ends at depth zero and never below
(`nested_of_depthAfter?`). A text that leaves some of them open (`Climbs`) keeps a pair around it
from being the outer one and separators in the pair from counting, so that a clause in such a pair
has no shape (`Climbs.values?_eq_none`); a text that closes one too many ends the pair before it
(`closesLast_of_depthAfter?_eq_none`).
-/
import ValidatorGen.Proofs.Check.Values

namespace ValidatorGen.Check

open Text

/-- The depth in parentheses at the end of a text, unless one closes that is not open. -/
def depthAfter? : Nat → List Char → Option Nat
  | depth, [] => some depth
  | depth, c :: t =>
    if c = '(' then depthAfter? (depth + 1) t
    else if c = ')' then
      match depth with
      | 0 => none
      | depth + 1 => depthAfter? depth t
    else depthAfter? depth t

/-- What has neither quotes nor square brackets, so that all its brackets are parentheses. -/
def OnlyParens (t : List Char) : Prop := ∀ c ∈ t, c ≠ quote ∧ c ≠ '[' ∧ c ≠ ']'

section

variable {c : Char} {t : List Char}

theorem OnlyParens.tail (h : OnlyParens (c :: t)) : OnlyParens t :=
  fun d hd => h d (List.mem_cons_of_mem _ hd)

theorem OnlyParens.isPlain (h : OnlyParens (c :: t)) (ho : c ≠ '(') (hc : c ≠ ')') :
    isPlain c = true :=
  have ⟨hq, hs, he⟩ := h c List.mem_cons_self
  isPlain_iff.mpr ⟨hq, ho, hc, hs, he⟩

theorem depthAfter?_open (depth : Nat) (t : List Char) :
    depthAfter? depth ('(' :: t) = depthAfter? (depth + 1) t := by
  simp [depthAfter?]

theorem depthAfter?_close (depth : Nat) (t : List Char) :
    depthAfter? (depth + 1) (')' :: t) = depthAfter? depth t := by
  simp [depthAfter?]

theorem depthAfter?_cons_of_ne (ho : c ≠ '(') (hc : c ≠ ')') (depth : Nat) (t : List Char) :
    depthAfter? depth (c :: t) = depthAfter? depth t := by
  simp [depthAfter?, ho, hc]

end

theorem depthFrom_of_depthAfter? {t : List Char} {j k : Nat} (ht : OnlyParens t)
    (h : depthAfter? j t = some k) : depthFrom j t = k := by
  induction t generalizing j with
  | nil =>
    obtain rfl := Option.some.inj h
    rfl
  | cons c t ih =>
    rw [depthFrom_cons]
    by_cases ho : c = '('
    · subst ho
      rw [depthAfter?_open] at h
      exact ih ht.tail h
    by_cases hc : c = ')'
    · subst hc
      cases j with
      | zero => simp [depthAfter?] at h
      | succ j =>
        rw [depthAfter?_close] at h
        rw [show bracketStep ')' = -1 from rfl, show ((j + 1 : Nat) : Int) + -1 = j by omega]
        exact ih ht.tail h
    · rw [depthAfter?_cons_of_ne ho hc] at h
      rw [bracketStep_of_plain (ht.isPlain ho hc), Int.add_zero]
      exact ih ht.tail h

/-! ## Texts that close their parentheses in order -/

/-- Up to where the text goes below the depth that it starts at, it is nested. -/
theorem exists_nested_of_depthAfter? {t : List Char} {depth : Nat} (ht : OnlyParens t)
    (h : depthAfter? depth t = some 0) :
    ∃ s u, t = s ++ u ∧ Nested s ∧ (depth = 0 ∧ u = [] ∨
      ∃ below rest, depth = below + 1 ∧ u = ')' :: rest ∧ depthAfter? below rest = some 0) := by
  induction hlen : t.length using Nat.strongRecOn generalizing t depth with
  | ind n ih =>
    subst hlen
    cases t with
    | nil => exact ⟨[], [], rfl, .nil, .inl ⟨Option.some.inj h, rfl⟩⟩
    | cons c t =>
      by_cases ho : c = '('
      · subst ho
        rw [depthAfter?_open] at h
        obtain ⟨s, _, rfl, hs, hrest⟩ := ih t.length (by simp) ht.tail h rfl
        rcases hrest with ⟨hzero, -⟩ | ⟨below, rest, hbelow, rfl, hrest⟩
        · cases hzero
        obtain rfl : depth = below := by omega
        have hmild : OnlyParens rest := fun d hd => ht d (by simp [hd])
        obtain ⟨s', u, rfl, hs', hu⟩ := ih rest.length (by simp; omega) hmild hrest rfl
        exact ⟨'(' :: (s ++ ')' :: s'), u, by simp, .parens hs hs', hu⟩
      by_cases hc : c = ')'
      · subst hc
        cases depth with
        | zero => simp [depthAfter?] at h
        | succ below =>
          rw [depthAfter?_close] at h
          exact ⟨[], ')' :: t, rfl, .nil, .inr ⟨below, t, rfl, rfl, h⟩⟩
      · rw [depthAfter?_cons_of_ne ho hc] at h
        obtain ⟨s, u, rfl, hs, hu⟩ := ih t.length (by simp) ht.tail h rfl
        exact ⟨c :: s, u, rfl, .plain (ht.isPlain ho hc) hs, hu⟩

theorem nested_of_depthAfter? {t : List Char} (ht : OnlyParens t)
    (h : depthAfter? 0 t = some 0) : Nested t := by
  obtain ⟨s, u, rfl, hs, ⟨-, rfl⟩ | ⟨below, rest, hbelow, -⟩⟩ := exists_nested_of_depthAfter? ht h
  · rwa [List.append_nil]
  · cases hbelow

/-! ## Texts that close too many -/

/-- A text that closes a parenthesis it did not open ends the pair before it. -/
theorem closesLast_of_depthAfter?_eq_none {t : List Char} {depth : Nat} (ht : OnlyParens t)
    (h : depthAfter? depth t = none) {rest : List Char} (hr : rest ≠ []) :
    closesLast (depth + 1) false (t ++ rest) = false := by
  induction t generalizing depth with
  | nil => cases h
  | cons c t ih =>
    by_cases ho : c = '('
    · subst ho
      rw [depthAfter?_open] at h
      rw [List.cons_append, closesLast_open]
      exact ih ht.tail h
    by_cases hc : c = ')'
    · subst hc
      cases depth with
      | zero => simp [closesLast, hr, show (')' : Char) ≠ quote by decide]
      | succ depth =>
        rw [depthAfter?_close] at h
        have hstep : ((depth + 1 : Nat) : Int) + 1 - 1 = depth + 1 := by omega
        rw [List.cons_append, closesLast_close _ (.inl (by omega)), hstep]
        exact ih ht.tail h
    · rw [depthAfter?_cons_of_ne ho hc] at h
      rw [List.cons_append, closesLast_cons_of_ne (ht c List.mem_cons_self).1 ho hc]
      exact ih ht.tail h

theorem outerParens?_of_depthAfter?_eq_none {t : List Char} (ht : OnlyParens t)
    (h : depthAfter? 0 t = none) {rest : List Char} (hr : rest ≠ []) :
    outerParens? ('(' :: (t ++ rest)) = none := by
  have hlast : closesLast 0 false ('(' :: (t ++ rest)) = false := by
    rw [closesLast_open]
    exact closesLast_of_depthAfter?_eq_none ht h hr
  simp [outerParens?, hlast]

/-! ## Texts that leave some open -/

/-- In parentheses, a text closes none of them and leaves `k` more open. -/
structure Climbs (t : List Char) (k : Nat) : Prop where
  closesLast : ∀ {depth : Int}, 0 < depth → ∀ rest,
    closesLast depth false (t ++ rest) = closesLast (depth + k) false rest
  splitFrom : ∀ (sep : Separator) {depth : Int}, 0 < depth → ∀ before before' rest,
    splitFrom sep 0 depth false before (t ++ rest)
      = t.foldr consHead (splitFrom sep 0 (depth + k) false before' rest)

theorem Nested.climbs {t : List Char} (h : Nested t) : Climbs t 0 where
  closesLast hd rest := by simpa using h.closesLast_append rest hd
  splitFrom sep depth hd before before' rest := by
    simpa using h.splitFrom_append sep rest hd before before'

theorem Climbs.append {s t : List Char} {k l : Nat} (hs : Climbs s k) (ht : Climbs t l) :
    Climbs (s ++ t) (k + l) where
  closesLast {depth} hd rest := by
    have hsum : depth + k + l = depth + (k + l : Nat) := by omega
    rw [List.append_assoc, hs.closesLast hd, ht.closesLast (by omega), hsum]
  splitFrom sep depth hd before before' rest := by
    have hsum : depth + k + l = depth + (k + l : Nat) := by omega
    rw [List.append_assoc, hs.splitFrom sep hd before before,
      ht.splitFrom sep (by omega) before before', List.foldr_append, hsum]

theorem splitFrom_bracket (sep : Separator) {c : Char} (hc : c = '(' ∨ c = ')') (depth : Int)
    (before : Option Char) (rest : List Char) :
    splitFrom sep 0 depth false before (c :: rest)
      = consHead c (splitFrom sep 0 (depth + bracketStep c) false (some c) rest) := by
  rcases hc with rfl | rfl <;>
  exact splitFrom_cons sep (by decide) depth before rest fun _ =>
    length?_of_ne sep (by decide) (by decide) (by decide) before rest

section

variable {t : List Char} {j k : Nat} (ht : OnlyParens t) (h : depthAfter? j t = some k)
  {depth : Int} (hd : 0 < depth)
include ht h hd

theorem closesLast_of_depthAfter? (rest : List Char) :
    closesLast (depth + j) false (t ++ rest) = closesLast (depth + k) false rest := by
  induction t generalizing j with
  | nil => rw [Option.some.inj h, List.nil_append]
  | cons c t ih =>
    by_cases ho : c = '('
    · subst ho
      rw [depthAfter?_open] at h
      have hstep : depth + j + 1 = depth + (j + 1 : Nat) := by omega
      rw [List.cons_append, closesLast_open, hstep, ih ht.tail h]
    by_cases hc : c = ')'
    · subst hc
      cases j with
      | zero => simp [depthAfter?] at h
      | succ j =>
        rw [depthAfter?_close] at h
        have hstep : depth + (j + 1 : Nat) - 1 = depth + j := by omega
        rw [List.cons_append, closesLast_close _ (.inl (by omega)), hstep, ih ht.tail h]
    · rw [depthAfter?_cons_of_ne ho hc] at h
      rw [List.cons_append, closesLast_cons_of_ne (ht c List.mem_cons_self).1 ho hc,
        ih ht.tail h]

theorem splitFrom_of_depthAfter? (sep : Separator) (before before' : Option Char)
    (rest : List Char) :
    splitFrom sep 0 (depth + j) false before (t ++ rest)
      = t.foldr consHead (splitFrom sep 0 (depth + k) false before' rest) := by
  induction t generalizing j before with
  | nil =>
    rw [Option.some.inj h, List.nil_append, List.foldr_nil]
    exact splitFrom_before sep (by omega) before before' rest
  | cons c t ih =>
    by_cases ho : c = '('
    · subst ho
      rw [depthAfter?_open] at h
      have hstep : depth + j + bracketStep '(' = depth + (j + 1 : Nat) := by
        rw [show bracketStep '(' = 1 from rfl]
        omega
      rw [List.cons_append, splitFrom_bracket sep (.inl rfl), hstep, ih ht.tail h,
        List.foldr_cons]
    by_cases hc : c = ')'
    · subst hc
      cases j with
      | zero => simp [depthAfter?] at h
      | succ j =>
        rw [depthAfter?_close] at h
        have hstep : depth + (j + 1 : Nat) + bracketStep ')' = depth + j := by
          rw [show bracketStep ')' = -1 from rfl]
          omega
        rw [List.cons_append, splitFrom_bracket sep (.inr rfl), hstep, ih ht.tail h,
          List.foldr_cons]
    · rw [depthAfter?_cons_of_ne ho hc] at h
      have hstep := bracketStep_of_plain (ht.isPlain ho hc)
      rw [List.cons_append, splitFrom_cons sep (ht c List.mem_cons_self).1 _ _ _ (by omega),
        hstep, Int.add_zero, ih ht.tail h, List.foldr_cons]

end

theorem climbs_of_depthAfter? {t : List Char} {k : Nat} (ht : OnlyParens t)
    (h : depthAfter? 0 t = some k) : Climbs t k where
  closesLast hd rest := by simpa using closesLast_of_depthAfter? ht h hd rest
  splitFrom sep depth hd before before' rest := by
    simpa using splitFrom_of_depthAfter? ht h hd sep before before' rest

/-- Alternatives leave no fewer open than the first of them. -/
theorem climbs_orList {t : List Char} {ts : List (List Char × List Char)} {k : Nat}
    (ht : Climbs t k) (h : ∀ p ∈ ts, Nested p.1 ∧ ∃ l, Climbs p.2 l) :
    ∃ l, k ≤ l ∧ Climbs (orList t ts) l := by
  induction ts generalizing t k with
  | nil => exact ⟨k, Nat.le_refl k, by rwa [orList_nil]⟩
  | cons p ts ih =>
    obtain ⟨w, u⟩ := p
    obtain ⟨hw, l, hu⟩ := h (w, u) List.mem_cons_self
    obtain ⟨m, -, hrest⟩ := ih hu fun p hp => h p (List.mem_cons_of_mem _ hp)
    have hword : Nested (' ' :: (w ++ [' '])) := .plain rfl (hw.append (.plain rfl .nil))
    have hall := ht.append (hword.climbs.append hrest)
    refine ⟨k + (0 + m), Nat.le_add_right _ _, ?_⟩
    simpa [orList_cons] using hall

/-- A pair that is not the outer one, for a parenthesis in it stays open. -/
theorem Climbs.outerParens?_eq_none {t : List Char} {k : Nat} (h : Climbs t k) (hk : 0 < k) :
    outerParens? ('(' :: (t ++ [')'])) = none := by
  have hlast : Check.closesLast 0 false ('(' :: (t ++ [')'])) = false := by
    rw [closesLast_open, h.closesLast (by decide), closesLast_close _ (.inr rfl)]
    have hne : (0 : Int) + 1 + k - 1 ≠ 0 := by omega
    simpa [Check.closesLast] using hne
  simp [outerParens?, hlast]

theorem Climbs.splitTopLevel_eq {t : List Char} {k : Nat} (h : Climbs t k) (sep : Separator) :
    splitTopLevel sep ('(' :: (t ++ [')'])) = ['(' :: (t ++ [')'])] := by
  rw [splitTopLevel, splitFrom_bracket sep (.inl rfl), h.splitFrom sep (by decide) _ none,
    splitFrom_bracket sep (.inr rfl), Check.splitFrom, consHead, foldr_consHead, consHead]

/-- **A clause in a pair that is not the outer one has no shape.** -/
theorem Climbs.values?_eq_none {t : List Char} {k : Nat} (h : Climbs t k) (hk : 0 < k)
    (target : List Char) (g : Grammar) :
    g.values? target (stripOuterParens ('(' :: (t ++ [')']))) = none := by
  have hstrip := stripOuterParens_of_tight (tight_inPair t) (h.outerParens?_eq_none hk)
  rw [hstrip]
  by_cases hg : g = .orChain
  · subst hg
    have hvalue : equalityValue? target ('(' :: (t ++ [')'])) = none := by
      rw [equalityValue?, hstrip]
      rfl
    rw [Grammar.values?, h.splitTopLevel_eq, List.mapM_cons, hvalue]
    rfl
  · exact values?_open target _ hg

end ValidatorGen.Check
