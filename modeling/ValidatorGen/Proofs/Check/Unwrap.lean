/-
Taking a name out of its parentheses (`unwrapNames`). One pass takes off one pair
(`unwrapPass_wrapped`), and so repeated passes take off all of them and nothing else
(`unwrapNames_wrapped`). A text in which no parenthesis that opens comes before one that
closes stays as it is (`unwrapNames_of_calm`).
-/
import Mathlib.Logic.Function.Iterate
import ValidatorGen.Proofs.Check.Scan

namespace ValidatorGen.Check

open Text

/-! ## Names in parentheses -/

theorem wrappedName?_eq_some {t name after : List Char} :
    wrappedName? t = some (name, after) ↔ ∃ text rest, t = '(' :: text
      ∧ scanName? isNameStart (trimStart text) = some (name, rest)
      ∧ trimStart rest = ')' :: after := by
  unfold wrappedName?
  split
  next text =>
    constructor
    · intro h
      split at h
      next name' rest hscan =>
        split at h
        next after' hclose =>
          obtain ⟨rfl, rfl⟩ := Prod.mk.inj (Option.some.inj h)
          exact ⟨text, rest, rfl, hscan, hclose⟩
        · cases h
      · cases h
    · rintro ⟨text', rest, htext, hscan, hclose⟩
      obtain rfl := (List.cons.inj htext).2
      simp only [hscan, hclose]
  next hne =>
    constructor
    · exact nofun
    · rintro ⟨text, rest, rfl, -, -⟩
      exact absurd rfl (hne text)

/-- What is a name in parentheses has only blanks around the name. -/
theorem exists_of_wrappedName? {t name after : List Char}
    (h : wrappedName? t = some (name, after)) :
    ∃ a b, t = '(' :: (a ++ (name ++ (b ++ ')' :: after))) ∧ name ≠ [] := by
  obtain ⟨text, rest, rfl, hscan, hclose⟩ := wrappedName?_eq_some.mp h
  refine ⟨text.takeWhile isBlank, rest.takeWhile isBlank, ?_, ne_nil_of_scanName? hscan⟩
  rw [← hclose, trimStart, List.takeWhile_append_dropWhile, ← scanName?_eq_append hscan,
    trimStart, List.takeWhile_append_dropWhile]

theorem wrappedName?_of_head {t : List Char} (h : t.head? ≠ some '(') : wrappedName? t = none := by
  unfold wrappedName?
  split
  · simp at h
  · rfl

theorem wrappedName?_open_open (t : List Char) : wrappedName? ('(' :: '(' :: t) = none := by
  rfl

/-- A name in parentheses needs one that closes. -/
theorem wrappedName?_of_not_mem {t : List Char} (h : ')' ∉ t) : wrappedName? t = none := by
  refine Option.eq_none_iff_forall_ne_some.mpr fun (name, after) hsome => h ?_
  obtain ⟨a, b, rfl, -⟩ := exists_of_wrappedName? hsome
  simp

section

variable {name : List Char} (hn : isIdentifier name = true)
include hn

theorem wrappedName?_write (style : NameStyle) (rest : List Char) :
    wrappedName? ('(' :: (style.write name ++ ')' :: rest)) = some (style.write name, rest) := by
  have hstart : trimStart (style.write name ++ ')' :: rest) = style.write name ++ ')' :: rest := by
    refine trimStart_of_head fun c hc => ?_
    obtain ⟨d, more, hw, -⟩ := head?_write hn style
    rw [hw, List.cons_append, List.head?_cons, Option.some.injEq] at hc
    exact (tight_write hn style).head c (by rw [hw, List.head?_cons, hc])
  have hr : ∀ c, (')' :: rest).head? = some c → isNameChar c = false := by
    intro c hc
    obtain rfl : ')' = c := by simpa using hc
    rfl
  have hscan := scanName?_write hn (fun _ hc => hc) style hr
  rw [wrappedName?, hstart, hscan]
  rfl

end

/-! ## One pass -/

theorem unwrapFrom_skip (atStart : Bool) (s rest : List Char) :
    s ≠ [] → unwrapFrom atStart s.length (s ++ rest) = unwrapFrom false 0 rest := by
  induction s generalizing atStart with
  | nil => exact fun h => absurd rfl h
  | cons c s ih =>
    intro _
    rw [List.cons_append, List.length_cons, unwrapFrom]
    cases s with
    | nil => rfl
    | cons d s => exact ih false (by simp)

theorem unwrapFrom_keep {atStart : Bool} {c : Char} {rest : List Char}
    (h₁ : wrappedName? (c :: rest) = none)
    (h₂ : isNameChar c = true ∨ wrappedName? rest = none) :
    unwrapFrom atStart 0 (c :: rest) = c :: unwrapFrom false 0 rest := by
  have hs : (if atStart then wrappedName? (c :: rest) else none) = none := by
    cases atStart <;> simp [h₁]
  have hb : (if isNameChar c then none else wrappedName? rest) = none := by
    rcases h₂ with h₂ | h₂ <;> simp [h₂]
  rw [unwrapFrom, hs]
  simp only [hb]

/-- A text is calm when no parenthesis that opens is before one that closes. -/
def Calm (t : List Char) : Prop := ∃ s u, t = s ++ u ∧ '(' ∉ s ∧ ')' ∉ u

theorem Calm.tail {c : Char} {t : List Char} (h : Calm (c :: t)) : Calm t := by
  obtain ⟨s, u, ht, hs, hu⟩ := h
  cases s with
  | nil =>
    rw [List.nil_append] at ht
    subst ht
    exact ⟨[], t, rfl, by simp, fun hc => hu (List.mem_cons_of_mem _ hc)⟩
  | cons d s =>
    rw [List.cons_append, List.cons.injEq] at ht
    exact ⟨s, u, ht.2, fun hc => hs (List.mem_cons_of_mem _ hc), hu⟩

theorem Calm.wrappedName?_eq {t : List Char} (h : Calm t) : wrappedName? t = none := by
  obtain ⟨s, u, rfl, hs, hu⟩ := h
  cases s with
  | nil => exact wrappedName?_of_not_mem hu
  | cons c s =>
    refine wrappedName?_of_head fun hc => hs ?_
    rw [List.cons_append, List.head?_cons, Option.some.injEq] at hc
    simp [hc]

theorem unwrapFrom_of_calm {t : List Char} (h : Calm t) (atStart : Bool) :
    unwrapFrom atStart 0 t = t := by
  induction t generalizing atStart with
  | nil => rfl
  | cons c t ih =>
    rw [unwrapFrom_keep h.wrappedName?_eq (.inr h.tail.wrappedName?_eq), ih h.tail]

section

variable {name : List Char} (hn : isIdentifier name = true)
include hn

/-- A pair around a name is dropped at the start of a text. -/
theorem unwrapFrom_start (style : NameStyle) {tail : List Char} (ht : Calm tail) :
    unwrapFrom true 0 ('(' :: (style.write name ++ ')' :: tail)) = style.write name ++ tail := by
  have hsplit : style.write name ++ ')' :: tail = (style.write name ++ [')']) ++ tail := by simp
  have hlen : (style.write name ++ ')' :: tail).length - tail.length
      = (style.write name ++ [')']).length := by
    rw [hsplit, List.length_append]
    omega
  rw [unwrapFrom, if_pos rfl, wrappedName?_write hn style]
  simp only
  rw [hlen, hsplit, unwrapFrom_skip false _ tail (by simp), unwrapFrom_of_calm ht]

/-- A pair around a name is dropped after a character that is no name character. -/
theorem unwrapFrom_border (atStart : Bool) {c : Char} (hc : isNameChar c = false)
    (style : NameStyle) {tail : List Char} (ht : Calm tail) :
    unwrapFrom atStart 0 (c :: '(' :: (style.write name ++ ')' :: tail))
      = c :: (style.write name ++ tail) := by
  have hnone : wrappedName? (c :: '(' :: (style.write name ++ ')' :: tail)) = none := by
    by_cases h : c = '('
    · subst h
      exact wrappedName?_open_open _
    · exact wrappedName?_of_head (by simpa using h)
  have hs : (if atStart then wrappedName? (c :: '(' :: (style.write name ++ ')' :: tail))
      else none) = none := by
    cases atStart <;> simp [hnone]
  have hsplit : '(' :: (style.write name ++ ')' :: tail)
      = ('(' :: (style.write name ++ [')'])) ++ tail := by simp
  have hlen : ('(' :: (style.write name ++ ')' :: tail)).length - tail.length
      = ('(' :: (style.write name ++ [')'])).length := by
    rw [hsplit, List.length_append]
    omega
  rw [unwrapFrom, hs]
  simp only [hc, Bool.false_eq_true, if_false, wrappedName?_write hn style]
  rw [hlen, hsplit, unwrapFrom_skip false _ tail (by simp), unwrapFrom_of_calm ht]

/-- Of several pairs around a name, the innermost is dropped. -/
theorem unwrapFrom_opens (atStart : Bool) (j : Nat) (style : NameStyle) {tail : List Char}
    (ht : Calm tail) :
    unwrapFrom atStart 0 (List.replicate (j + 2) '(' ++ (style.write name ++ ')' :: tail))
      = List.replicate (j + 1) '(' ++ (style.write name ++ tail) := by
  induction j generalizing atStart with
  | zero => exact unwrapFrom_border hn atStart rfl style ht
  | succ j ih =>
    have hkeep : unwrapFrom atStart 0
        ('(' :: '(' :: '(' :: (List.replicate j '(' ++ (style.write name ++ ')' :: tail)))
          = '(' :: unwrapFrom false 0
            ('(' :: '(' :: (List.replicate j '(' ++ (style.write name ++ ')' :: tail))) :=
      unwrapFrom_keep (wrappedName?_open_open _) (.inr (wrappedName?_open_open _))
    have ih := ih false
    simp only [List.replicate_succ, List.cons_append] at ih ⊢
    rw [hkeep, ih]

/-- Text that has no parenthesis to open and does not end in a name is passed over. -/
theorem unwrapFrom_append {s : List Char} (hs : '(' ∉ s) (hne : s ≠ [])
    (hl : ∀ c, s.getLast? = some c → isNameChar c = false) (atStart : Bool) (j : Nat)
    (style : NameStyle) {tail : List Char} (ht : Calm tail) :
    unwrapFrom atStart 0 (s ++ (List.replicate (j + 1) '(' ++ (style.write name ++ ')' :: tail)))
      = s ++ (List.replicate j '(' ++ (style.write name ++ tail)) := by
  induction s generalizing atStart with
  | nil => exact absurd rfl hne
  | cons c s ih =>
    simp only [List.mem_cons, not_or] at hs
    have hnone : ∀ rest, wrappedName? (c :: rest) = none := fun rest =>
      wrappedName?_of_head (by simpa using Ne.symm hs.1)
    cases s with
    | nil =>
      have hc : isNameChar c = false := hl c rfl
      cases j with
      | zero => exact unwrapFrom_border hn atStart hc style ht
      | succ j =>
        have h := unwrapFrom_opens hn false j style ht
        simp only [List.replicate_succ, List.cons_append, List.nil_append] at h ⊢
        rw [unwrapFrom_keep (hnone _) (.inr (wrappedName?_open_open _)), h]
    | cons d s =>
      simp only [List.mem_cons, not_or] at hs
      have hrest : wrappedName? ((d :: s) ++ (List.replicate (j + 1) '('
          ++ (style.write name ++ ')' :: tail))) = none :=
        wrappedName?_of_head (by simpa using Ne.symm hs.2.1)
      have hd : '(' ∉ d :: s := by simp [hs.2]
      rw [List.cons_append, unwrapFrom_keep (hnone _) (.inr hrest),
        ih hd (by simp) (fun c hc => hl c (by simpa using hc)) false]
      rfl

/-- One pass takes off one pair. -/
theorem unwrapPass_wrapped {s : List Char} (hs : '(' ∉ s)
    (hl : ∀ c, s.getLast? = some c → isNameChar c = false) (j : Nat) (style : NameStyle)
    {tail : List Char} (ht : Calm tail) :
    unwrapPass (s ++ (List.replicate (j + 1) '(' ++ (style.write name ++ ')' :: tail)))
      = s ++ (List.replicate j '(' ++ (style.write name ++ tail)) := by
  by_cases hne : s = []
  · subst hne
    cases j with
    | zero => exact unwrapFrom_start hn style ht
    | succ j => exact unwrapFrom_opens hn true j style ht
  · exact unwrapFrom_append hn hs hne hl true j style ht

end

/-! ## All passes -/

/-- A fixed point that some passes reach is reached by more of them. -/
theorem settle_of_iterate {f : List Char → List Char} {k n : Nat} {t u : List Char}
    (h : f^[k] t = u) (hu : f u = u) (hk : k ≤ n) : settle f n t = u := by
  induction k generalizing n t with
  | zero =>
    obtain rfl : t = u := h
    cases n with
    | zero => rfl
    | succ n => rw [settle, if_pos hu]
  | succ k ih =>
    obtain ⟨n, rfl⟩ : ∃ m, n = m + 1 := ⟨n - 1, by omega⟩
    rw [Function.iterate_succ_apply] at h
    rw [settle]
    -- the passes may end early, but then none of those left out would change anything
    split
    · next hf =>
      rw [hf] at h
      have hfix : f^[k] t = t := Function.iterate_fixed hf k
      rw [← h, hfix]
    · exact ih h (by omega)

theorem unwrapNames_of_calm {t : List Char} (h : Calm t) : unwrapNames t = t :=
  settle_of_iterate (k := 0) rfl (unwrapFrom_of_calm h true) (Nat.zero_le _)

/-- A name is taken out of all its pairs, whatever pairs are open around them. -/
theorem unwrapNames_wrapped {name : List Char} (hn : isIdentifier name = true) {s : List Char}
    (hs : '(' ∉ s) (hl : ∀ c, s.getLast? = some c → isNameChar c = false) (m n : Nat)
    (style : NameStyle) {u : List Char} (hu : ')' ∉ u) :
    unwrapNames (s ++ (List.replicate m '(' ++ (inParens n (style.write name) ++ u)))
      = s ++ (List.replicate m '(' ++ (style.write name ++ u)) := by
  have hname : ')' ∉ style.write name := not_mem_write hn rfl rfl style
  have hcalm : Calm (s ++ (List.replicate m '(' ++ (style.write name ++ u))) :=
    ⟨s, _, rfl, hs, by simp [hname, hu]⟩
  have hpass : ∀ k, unwrapPass^[k] (s ++ (List.replicate m '('
      ++ (inParens k (style.write name) ++ u)))
        = s ++ (List.replicate m '(' ++ (style.write name ++ u)) := by
    intro k
    induction k with
    | zero => rfl
    | succ k ih =>
      have htail : Calm (List.replicate k ')' ++ u) := ⟨_, u, rfl, by simp, hu⟩
      have hone := unwrapPass_wrapped hn hs hl (m + k) style htail
      rw [Function.iterate_succ_apply, ← ih]
      congr 1
      have hform : ∀ i, s ++ (List.replicate m '(' ++ (inParens i (style.write name) ++ u))
          = s ++ (List.replicate (m + i) '(' ++
            (style.write name ++ (List.replicate i ')' ++ u))) := by
        intro i
        rw [inParens_eq, ← List.replicate_append_replicate]
        simp only [List.append_assoc]
      rw [hform, hform, ← hone, List.replicate_succ (n := k) (a := ')'), List.cons_append]
      rfl
  have hlen : n ≤ (s ++ (List.replicate m '(' ++ (inParens n (style.write name) ++ u))).length := by
    rw [inParens_eq]
    simp only [List.length_append, List.length_replicate]
    omega
  exact settle_of_iterate (hpass n) (unwrapFrom_of_calm hcalm true) hlen

end ValidatorGen.Check
