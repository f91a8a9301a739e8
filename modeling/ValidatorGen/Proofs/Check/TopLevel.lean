/-
Where a text is cut, whatever the text. A separator cuts a text where it stands outside of quotes
and where as many brackets have been closed as opened, both counted from the start of the text
(`CutAt`). The splitter stops at every such place and at no other (`splitAfter_cut`,
`splitAfter_keep`). So the parts, with the separators between them, are the text, and no part
holds a place to be cut at (`exists_isSplit`).
-/
import Mathlib.Algebra.Ring.Parity
import ValidatorGen.Proofs.Check.Cut

namespace ValidatorGen.Check

open Text

/-! ## Quotes and brackets -/

/-- The characters outside of quotes, of a text that starts inside of quotes or outside. -/
def unquoted : Bool → List Char → List Char
  | _, [] => []
  | inQuote, c :: t =>
    if c = quote then unquoted (!inQuote) t
    else if inQuote then unquoted inQuote t
    else c :: unquoted inQuote t

/-- How many more characters of the text open than close. -/
def surplus (opening closing t : List Char) : Int :=
  t.countP (· ∈ opening) - t.countP (· ∈ closing)

/-- The depth in brackets at the end of a text: how many outside of quotes are still open. -/
def bracketDepth (t : List Char) : Int := surplus ['(', '['] [')', ']'] (unquoted false t)

/-- Whether a text ends inside of quotes. -/
def quoteOpen (t : List Char) : Bool := decide (Odd (t.count quote))

theorem surplus_append (opening closing s t : List Char) :
    surplus opening closing (s ++ t) = surplus opening closing s + surplus opening closing t := by
  simp only [surplus, List.countP_append]
  omega

theorem surplus_of_not_mem {opening closing t : List Char}
    (h : ∀ c ∈ t, c ∉ opening ∧ c ∉ closing) : surplus opening closing t = 0 := by
  have ho : t.countP (· ∈ opening) = 0 :=
    List.countP_eq_zero.mpr fun c hc => by simpa using (h c hc).1
  have hc : t.countP (· ∈ closing) = 0 :=
    List.countP_eq_zero.mpr fun c hc => by simpa using (h c hc).2
  rw [surplus, ho, hc]
  rfl

theorem surplus_singleton (c : Char) : surplus ['(', '['] [')', ']'] [c] = bracketStep c := by
  by_cases h : isPlain c = true
  · rw [bracketStep_of_plain h]
    obtain ⟨-, h₁, h₂, h₃, h₄⟩ := isPlain_iff.mp h
    exact surplus_of_not_mem (by simp [h₁, h₂, h₃, h₄])
  · rw [isPlain_iff] at h
    by_cases hq : c = quote
    · subst hq; rfl
    by_cases h₁ : c = '('
    · subst h₁; rfl
    by_cases h₂ : c = ')'
    · subst h₂; rfl
    by_cases h₃ : c = '['
    · subst h₃; rfl
    by_cases h₄ : c = ']'
    · subst h₄; rfl
    exact absurd ⟨hq, h₁, h₂, h₃, h₄⟩ h

theorem quoteOpen_append (s t : List Char) :
    quoteOpen (s ++ t) = (quoteOpen s != quoteOpen t) := by
  rw [quoteOpen, quoteOpen, quoteOpen, List.count_append]
  by_cases hs : Odd (s.count quote) <;> by_cases ht : Odd (t.count quote) <;>
  simp [Nat.odd_add, ← Nat.not_odd_iff_even, hs, ht]

theorem quoteOpen_singleton (c : Char) : quoteOpen [c] = (c == quote) := by
  by_cases hc : c = quote
  · subst hc
    rfl
  · simp [quoteOpen, hc]

theorem quoteOpen_cons (c : Char) (t : List Char) :
    quoteOpen (c :: t) = ((c == quote) != quoteOpen t) := by
  rw [← List.singleton_append, quoteOpen_append, quoteOpen_singleton]

theorem quoteOpen_eq_false_iff {t : List Char} : quoteOpen t = false ↔ Even (t.count quote) := by
  rw [quoteOpen, decide_eq_false_iff_not, Nat.not_odd_iff_even]

theorem unquoted_append (inQuote : Bool) (s t : List Char) :
    unquoted inQuote (s ++ t) = unquoted inQuote s ++ unquoted (inQuote != quoteOpen s) t := by
  induction s generalizing inQuote with
  | nil => simp [unquoted, quoteOpen]
  | cons c s ih =>
    rw [quoteOpen_cons, ← Bool.bne_assoc, List.cons_append, unquoted, unquoted]
    by_cases hc : c = quote
    · simp [hc, ih]
    · have hbeq : (c == quote) = false := by simpa using hc
      cases inQuote <;> simp [hc, hbeq, ih]

theorem unquoted_sublist (inQuote : Bool) (t : List Char) : (unquoted inQuote t).Sublist t := by
  induction t generalizing inQuote with
  | nil => exact .slnil
  | cons c t ih =>
    rw [unquoted]
    split
    · exact (ih _).cons c
    split
    · exact (ih _).cons c
    · exact (ih _).cons_cons c

/-- No text opens more outside of quotes than it has characters, or closes more. -/
theorem natAbs_surplus_unquoted_le (opening closing : List Char) (inQuote : Bool) (t : List Char) :
    (surplus opening closing (unquoted inQuote t)).natAbs ≤ t.length := by
  have hlength := (unquoted_sublist inQuote t).length_le
  have hopen : (unquoted inQuote t).countP (· ∈ opening) ≤ (unquoted inQuote t).length :=
    List.countP_le_length
  have hclose : (unquoted inQuote t).countP (· ∈ closing) ≤ (unquoted inQuote t).length :=
    List.countP_le_length
  rw [surplus]
  omega

theorem bracketDepth_append (s t : List Char) :
    bracketDepth (s ++ t)
      = bracketDepth s + surplus ['(', '['] [')', ']'] (unquoted (quoteOpen s) t) := by
  rw [bracketDepth, unquoted_append, surplus_append, Bool.false_bne, ← bracketDepth]

theorem bracketDepth_concat (t : List Char) (c : Char) :
    bracketDepth (t ++ [c])
      = bracketDepth t + if c = quote ∨ quoteOpen t = true then 0 else bracketStep c := by
  rw [bracketDepth_append, unquoted, unquoted, unquoted]
  by_cases hc : c = quote
  · simp [hc, surplus]
  · cases quoteOpen t with
    | true => simp [hc, surplus]
    | false => simp [hc, surplus_singleton]

theorem bracketDepth_append_of_plain {s : List Char} (h : ∀ c ∈ s, isPlain c = true)
    (t : List Char) : bracketDepth (t ++ s) = bracketDepth t := by
  rw [bracketDepth_append, surplus_of_not_mem, Int.add_zero]
  intro c hc
  have hplain := isPlain_iff.mp (h c ((unquoted_sublist _ s).subset hc))
  simp [hplain]

theorem quoteOpen_of_plain {s : List Char} (h : ∀ c ∈ s, isPlain c = true) :
    quoteOpen s = false := by
  have hquote : quote ∉ s := fun hmem => (isPlain_iff.mp (h quote hmem)).1 rfl
  rw [quoteOpen, List.count_eq_zero_of_not_mem hquote]
  rfl

/-- What ends outside of quotes and of brackets. -/
structure AtTopLevel (t : List Char) : Prop where
  outside : Even (t.count quote)
  depth : bracketDepth t = 0

theorem AtTopLevel.nil : AtTopLevel [] := ⟨by simp, rfl⟩

theorem AtTopLevel.append {s t : List Char} (hs : AtTopLevel s) (ht : AtTopLevel t) :
    AtTopLevel (s ++ t) where
  outside := by
    rw [List.count_append]
    exact hs.outside.add ht.outside
  depth := by
    rw [bracketDepth_append, quoteOpen_eq_false_iff.mpr hs.outside, ← bracketDepth, hs.depth,
      ht.depth, Int.add_zero]

theorem AtTopLevel.append_of_plain {s t : List Char} (ht : AtTopLevel t)
    (hs : ∀ c ∈ s, isPlain c = true) : AtTopLevel (t ++ s) where
  outside := by
    rw [List.count_append]
    exact ht.outside.add (quoteOpen_eq_false_iff.mp (quoteOpen_of_plain hs))
  depth := by rw [bracketDepth_append_of_plain hs, ht.depth]

/-! ## Separators -/

/-- `s` is the separator, between the characters `before` and `after` it: a comma, or the word `or`
in any letter case with a border on either side. -/
inductive Separates : Separator → Option Char → List Char → Option Char → Prop
  | comma (before after : Option Char) : Separates .comma before [','] after
  | orWord {w : List Char} {before after : Char} : w.map Char.toLower = ['o', 'r'] →
    bordersWord before = true → bordersWord after = true →
    Separates .orWord (some before) w (some after)

/-- The separator `s` cuts what comes before it off from what comes after it. -/
structure CutAt (sep : Separator) (a s b : List Char) : Prop where
  topLevel : AtTopLevel a
  separates : Separates sep a.getLast? s b.head?

section

variable {sep : Separator} {before after : Option Char} {s : List Char}
  (h : Separates sep before s after)
include h

theorem Separates.ne_nil : s ≠ [] := by
  cases h with
  | comma => simp
  | orWord hw =>
    rintro rfl
    cases hw

theorem Separates.isPlain : ∀ c ∈ s, Check.isPlain c = true := by
  cases h with
  | comma => exact forall_mem_of_all (by decide)
  | orWord hw =>
    intro c hc
    have hlower : c.toLower ∈ ['o', 'r'] := hw ▸ List.mem_map_of_mem hc
    simp only [List.mem_cons, List.not_mem_nil, or_false] at hlower
    rcases hlower with hlower | hlower <;> rcases eq_or_eq_of_toLower hlower with rfl | rfl <;> rfl

/-- What is around a separator counts only where it is a border. -/
theorem Separates.of_borders {before' after' : Option Char}
    (hb : ∀ c, bordersWord c = true → before = some c → before' = some c)
    (ha : ∀ c, bordersWord c = true → after = some c → after' = some c) :
    Separates sep before' s after' := by
  cases h with
  | comma => exact .comma before' after'
  | orWord hw hbefore hafter =>
    rw [hb _ hbefore rfl, ha _ hafter rfl]
    exact .orWord hw hbefore hafter

end

theorem exists_of_startsWithOr {before : Option Char} {t : List Char}
    (h : startsWithOr before t = true) :
    ∃ s b, t = s ++ b ∧ s.length = 2 ∧ Separates .orWord before s b.head? := by
  unfold startsWithOr at h
  split at h
  next c d rest =>
    simp only [Bool.and_eq_true, Bool.or_eq_true, beq_iff_eq, Option.any_eq_true] at h
    obtain ⟨⟨⟨hc, hd⟩, e, rfl, he⟩, f, hf, hborder⟩ := h
    refine ⟨[c, d], rest, rfl, rfl, ?_⟩
    rw [hf]
    refine .orWord ?_ he hborder
    rcases hc with rfl | rfl <;> rcases hd with rfl | rfl <;> rfl
  · cases h

/-- The splitter finds a separator where there is one. -/
theorem length?_eq_some_iff {sep : Separator} {before : Option Char} {t : List Char} {n : Nat} :
    sep.length? before t = some n ↔
      ∃ s b, t = s ++ b ∧ s.length = n ∧ Separates sep before s b.head? := by
  constructor
  · intro h
    cases sep with
    | comma =>
      obtain ⟨hhead, hn⟩ := Option.ite_none_right_eq_some.mp h
      obtain ⟨rest, rfl⟩ := List.head?_eq_some_iff.mp hhead
      exact ⟨[','], rest, rfl, Option.some.inj hn, .comma before rest.head?⟩
    | orWord =>
      obtain ⟨hor, hn⟩ := Option.ite_none_right_eq_some.mp h
      obtain rfl := Option.some.inj hn
      exact exists_of_startsWithOr hor
  · rintro ⟨s, b, rfl, rfl, hs⟩
    generalize hafter : b.head? = after at hs
    cases hs with
    | comma => rfl
    | orWord hw hbefore hborder =>
      obtain ⟨c, w, rfl, hc, hw⟩ := List.map_eq_cons_iff.mp hw
      obtain ⟨d, w, rfl, hd, hw⟩ := List.map_eq_cons_iff.mp hw
      obtain rfl : w = [] := List.map_eq_nil_iff.mp hw
      rw [Separator.length?, if_pos]
      · rfl
      · have hc : c = 'o' ∨ c = 'O' := eq_or_eq_of_toLower hc
        have hd : d = 'r' ∨ d = 'R' := eq_or_eq_of_toLower hd
        simp [startsWithOr, hc, hd, hafter, hbefore, hborder]

section

variable {sep : Separator} {a s b : List Char}

/-- A cut stays one when there is more text around it, what is before being cut off itself. -/
theorem CutAt.within (h : CutAt sep a s b) {x : List Char} (hx : AtTopLevel x) (y : List Char) :
    CutAt sep (x ++ a) s (b ++ y) where
  topLevel := hx.append h.topLevel
  separates := h.separates.of_borders
    (fun c _ hc => by rw [List.getLast?_append, hc, Option.some_or])
    fun c _ hc => by rw [List.head?_append, hc, Option.some_or]

/-- What ends in a separator ends at the top level as well. -/
theorem CutAt.topLevel_append (h : CutAt sep a s b) : AtTopLevel (a ++ s) :=
  h.topLevel.append_of_plain h.separates.isPlain

end

/-! ## One step -/

/-- The parts of what comes after `a`, the first of them from there on. -/
def splitAfter (sep : Separator) (a t : List Char) : List (List Char) :=
  splitFrom sep 0 (bracketDepth a) (quoteOpen a) a.getLast? t

theorem splitAfter_nil (sep : Separator) (t : List Char) :
    splitAfter sep [] t = splitTopLevel sep t := rfl

/-- The rest of a separator is passed over. -/
theorem splitFrom_skip_all (sep : Separator) (depth : Int) (inQuote : Bool)
    (before : Option Char) (s rest : List Char) :
    splitFrom sep s.length depth inQuote before (s ++ rest)
      = splitFrom sep 0 depth inQuote (s.getLast?.or before) rest := by
  induction s generalizing before with
  | nil => rfl
  | cons c s ih =>
    have hlast : s.getLast?.or (some c) = (c :: s).getLast?.or before := by
      rw [List.getLast?_cons]
      cases s.getLast? <;> rfl
    rw [List.length_cons, List.cons_append, splitFrom_skip, ih, hlast]

/-- A separator that cuts ends a part. -/
theorem splitAfter_cut {sep : Separator} {a s b : List Char} (h : CutAt sep a s b) :
    splitAfter sep a (s ++ b) = [] :: splitAfter sep (a ++ s) b := by
  have htop := h.topLevel_append
  have hopen := quoteOpen_eq_false_iff.mpr h.topLevel.outside
  obtain ⟨c, s, rfl⟩ := List.exists_cons_of_ne_nil h.separates.ne_nil
  have hplain := h.separates.isPlain c List.mem_cons_self
  have hlength : sep.length? a.getLast? (c :: (s ++ b)) = some (s.length + 1) :=
    length?_eq_some_iff.mpr ⟨c :: s, b, rfl, rfl, h.separates⟩
  have hlast : (a ++ c :: s).getLast? = s.getLast?.or (some c) := by
    rw [List.getLast?_append, List.getLast?_cons, Option.some_or]
    cases s.getLast? <;> rfl
  rw [splitAfter, h.topLevel.depth, hopen, List.cons_append, splitFrom,
    if_neg (isPlain_iff.mp hplain).1, if_neg Bool.false_ne_true, bracketStep_of_plain hplain,
    if_pos (Int.add_zero 0), hlength, splitAfter, htop.depth,
    quoteOpen_eq_false_iff.mpr htop.outside, hlast]
  exact congrArg _ (splitFrom_skip_all sep 0 false (some c) s b)

/-- A character that no separator starts with stays in its part. -/
theorem splitAfter_keep {sep : Separator} {a t : List Char} {c : Char}
    (h : ∀ s b, c :: t = s ++ b → ¬ CutAt sep a s b) :
    splitAfter sep a (c :: t) = consHead c (splitAfter sep (a ++ [c]) t) := by
  rw [splitAfter, splitAfter, bracketDepth_concat, quoteOpen_append, quoteOpen_singleton,
    List.getLast?_concat]
  by_cases hc : c = quote
  · rw [splitFrom, if_pos hc, if_pos (.inl hc), Int.add_zero]
    simp [hc]
  have hbeq : (c == quote) = false := by simpa using hc
  rw [hbeq, Bool.bne_false]
  cases hopen : quoteOpen a with
  | true =>
    rw [splitFrom, if_neg hc, if_pos rfl, if_pos (.inr rfl), Int.add_zero]
  | false =>
    rw [splitFrom_cons sep hc, if_neg (by simp [hc])]
    intro hdepth
    refine Option.eq_none_iff_forall_ne_some.mpr fun n hn => ?_
    obtain ⟨s, b, hform, -, hs⟩ := length?_eq_some_iff.mp hn
    obtain ⟨d, s, rfl⟩ := List.exists_cons_of_ne_nil hs.ne_nil
    obtain rfl := (List.cons.inj hform).1
    have hplain := hs.isPlain c List.mem_cons_self
    rw [bracketStep_of_plain hplain, Int.add_zero] at hdepth
    exact h _ b hform ⟨⟨quoteOpen_eq_false_iff.mp hopen, hdepth⟩, hs⟩

/-! ## All parts -/

/-- Parts, each after the first with the separator before it. -/
def joinedParts (others : List (List Char × List Char)) : List Char :=
  others.flatMap fun (s, p) => s ++ p

/-- Between `a` and `z`, no separator in `p` cuts. -/
def NoCut (sep : Separator) (a p z : List Char) : Prop :=
  ∀ x s y, p = x ++ (s ++ y) → ¬ CutAt sep (a ++ x) s (y ++ z)

/-- `first` and `others`, after `a`, are the parts of a text: it is cut between two of them, and
nowhere else. -/
structure IsSplit (sep : Separator) (a first : List Char) (others : List (List Char × List Char)) :
    Prop where
  cut : ∀ {ws zs s p}, others = ws ++ (s, p) :: zs →
    CutAt sep (a ++ (first ++ joinedParts ws)) s (p ++ joinedParts zs)
  first_noCut : NoCut sep a first (joinedParts others)
  others_noCut : ∀ {s p}, (s, p) ∈ others → NoCut sep [] p []

section

variable {sep : Separator} {a first : List Char} {others : List (List Char × List Char)}

theorem noCut_nil (sep : Separator) (a z : List Char) : NoCut sep a [] z := by
  intro x s y hnil hcut
  obtain ⟨-, hrest⟩ := List.append_eq_nil_iff.mp hnil.symm
  exact hcut.separates.ne_nil (List.append_eq_nil_iff.mp hrest).1

/-- A part that starts at the top level is not cut when it is by itself. -/
theorem NoCut.alone {p z : List Char} (h : NoCut sep a p z) (ha : AtTopLevel a) :
    NoCut sep [] p [] := by
  intro x s y hform hcut
  rw [List.nil_append, List.append_nil] at hcut
  exact h x s y hform (hcut.within ha z)

theorem isSplit_nil (sep : Separator) (a : List Char) : IsSplit sep a [] [] where
  cut h := absurd h.symm (by simp)
  first_noCut := noCut_nil sep a _
  others_noCut h := absurd h (by simp)

/-- A character in front of the first part belongs to it, if no separator starts there. -/
theorem IsSplit.cons {c : Char} (h : IsSplit sep (a ++ [c]) first others)
    (hc : ∀ s b, c :: (first ++ joinedParts others) = s ++ b → ¬ CutAt sep a s b) :
    IsSplit sep a (c :: first) others where
  cut hform := by
    have hcut := h.cut hform
    rwa [List.append_assoc] at hcut
  first_noCut x s y hform := by
    cases x with
    | nil =>
      rw [List.append_nil]
      exact hc s _ (by rw [← List.cons_append, hform, List.nil_append, List.append_assoc])
    | cons d x =>
      obtain ⟨rfl, htail⟩ := List.cons.inj hform
      have hnone := h.first_noCut x s y htail
      rwa [List.append_assoc] at hnone
  others_noCut := h.others_noCut

/-- A separator in front of the first part ends an empty one. -/
theorem IsSplit.cut_cons {s : List Char} (h : IsSplit sep (a ++ s) first others)
    (hs : CutAt sep a s (first ++ joinedParts others)) :
    IsSplit sep a [] ((s, first) :: others) where
  cut {ws zs w p} hform := by
    cases ws with
    | nil =>
      obtain ⟨hpair, rfl⟩ := List.cons.inj hform
      obtain ⟨rfl, rfl⟩ := Prod.mk.inj hpair
      simpa [joinedParts] using hs
    | cons v ws =>
      obtain ⟨rfl, htail⟩ := List.cons.inj hform
      simpa [joinedParts] using h.cut htail
  first_noCut := noCut_nil sep a _
  others_noCut hmem := by
    rcases List.mem_cons.mp hmem with hpair | hmem
    · obtain ⟨rfl, rfl⟩ := Prod.mk.inj hpair
      exact h.first_noCut.alone hs.topLevel_append
    · exact h.others_noCut hmem

end

/-- **The parts make up the text**, with the separators between them. -/
theorem exists_isSplit (sep : Separator) (a t : List Char) :
    ∃ first others, splitAfter sep a t = first :: others.map Prod.snd
      ∧ t = first ++ joinedParts others ∧ IsSplit sep a first others := by
  induction hlen : t.length using Nat.strongRecOn generalizing a t with
  | ind n ih =>
    subst hlen
    by_cases hcut : ∃ s b, t = s ++ b ∧ CutAt sep a s b
    · obtain ⟨s, b, rfl, hcut⟩ := hcut
      have hpos := List.length_pos_iff.mpr hcut.separates.ne_nil
      obtain ⟨first, others, hsplit, rfl, hparts⟩ :=
        ih b.length (by rw [List.length_append]; omega) (a ++ s) b rfl
      refine ⟨[], (s, first) :: others, ?_, ?_, hparts.cut_cons hcut⟩
      · rw [splitAfter_cut hcut, hsplit, List.map_cons]
      · simp [joinedParts]
    · have hnone : ∀ s b, t = s ++ b → ¬ CutAt sep a s b := fun s b hform h =>
        hcut ⟨s, b, hform, h⟩
      cases t with
      | nil => exact ⟨[], [], rfl, rfl, isSplit_nil sep a⟩
      | cons c t =>
        obtain ⟨first, others, hsplit, rfl, hparts⟩ := ih t.length (by simp) (a ++ [c]) t rfl
        refine ⟨c :: first, others, ?_, rfl, hparts.cons hnone⟩
        rw [splitAfter_keep hnone, hsplit, consHead]

/-- What no separator cuts is one part. -/
theorem splitAfter_of_noCut {sep : Separator} {a p : List Char} (h : NoCut sep a p []) :
    splitAfter sep a p = [p] := by
  induction p generalizing a with
  | nil => rfl
  | cons c p ih =>
    have hfirst : ∀ s b, c :: p = s ++ b → ¬ CutAt sep a s b := fun s b hform hcut =>
      h [] s b hform (by rwa [List.append_nil, List.append_nil])
    have hrest : NoCut sep (a ++ [c]) p [] := fun x s y hform hcut =>
      h (c :: x) s y (by rw [hform, List.cons_append]) (by rwa [List.append_assoc] at hcut)
    rw [splitAfter_keep hfirst, ih hrest, consHead]

/-- **A text is one part just if no separator cuts it.** -/
theorem splitTopLevel_eq_singleton_iff {sep : Separator} {p : List Char} :
    splitTopLevel sep p = [p] ↔ NoCut sep [] p [] := by
  constructor
  · intro h
    obtain ⟨first, others, hsplit, hform, hparts⟩ := exists_isSplit sep [] p
    rw [splitAfter_nil, h] at hsplit
    obtain ⟨rfl, hnil⟩ := List.cons.inj hsplit
    obtain rfl := List.map_eq_nil_iff.mp hnil.symm
    exact hparts.first_noCut
  · exact splitAfter_of_noCut

end ValidatorGen.Check
