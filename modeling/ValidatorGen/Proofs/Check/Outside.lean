/-
What a change outside of literals makes of a clause, told from its result. Every quote, a
doubled one too, ends a literal or the text before one (`mapFrom_append_quote`), and so every
quote of the changed clause comes from one of the clause that has as many before it
(`exists_of_mapFrom`). What reads as a literal there after quotes in pairs comes from a single
literal, or from several with nothing between them but text that the change takes away
(`exists_joined_of_mapPlain`); after one quote more it comes from text between quotes that the
change is made to (`exists_mapStretches_of_mapPlain`).
-/
import Mathlib.Data.List.Basic
import ValidatorGen.Proofs.Check.Split

namespace ValidatorGen.Check

open Text

/-! ## From quote to quote -/

/-- A clause with `f` applied to every stretch outside of literals, when it starts outside of
literals or inside of one. -/
def mapFrom (f : List Char → List Char) (inLiteral : Bool) (text : List Char) : List Char :=
  (if inLiteral then literalPieces text else pieces text).flatMap fun
    | .plain t => f t
    | .literal t => t

/-- What becomes of the text up to a quote. -/
def changed (f : List Char → List Char) (inLiteral : Bool) (text : List Char) : List Char :=
  if inLiteral then text else f text

/-- A change that makes no quote and no text of none. -/
structure Quoteless (f : List Char → List Char) : Prop where
  nil : f [] = []
  quote : ∀ {p : List Char}, quote ∉ p → quote ∉ f p

theorem mapFrom_false (f : List Char → List Char) (t : List Char) :
    mapFrom f false t = mapPlain f t := rfl

theorem exists_literalPieces (t : List Char) : ∃ s ps, literalPieces t = .literal s :: ps := by
  induction t using literalPieces.induct (motive_1 := fun _ => True) with
  | case1 | case2 | case3 => trivial
  | case4 => exact ⟨[], _, by rw [literalPieces]⟩
  | case5 => exact ⟨[quote], _, by simp [literalPieces]; rfl⟩
  | case6 c hc => exact ⟨[c], _, by simp [literalPieces, hc]; rfl⟩
  | case7 rest ih =>
    obtain ⟨s, ps, h⟩ := ih
    exact ⟨quote :: quote :: s, ps, by simp [literalPieces, h, consText]⟩
  | case8 d rest hd => exact ⟨[quote], _, by simp [literalPieces, hd]; rfl⟩
  | case9 c d rest hc ih =>
    obtain ⟨s, ps, h⟩ := ih
    exact ⟨c :: s, ps, by simp [literalPieces, hc, h, consText]⟩

section

variable {f : List Char → List Char} (hf : Quoteless f)
include hf

/-- Inside of a literal, the next quote ends it; what would be a second quote of a pair then
starts another one. -/
theorem mapFrom_true_cons (c : Char) (t : List Char) :
    mapFrom f true (c :: t) = c :: mapFrom f (c != quote) t := by
  have put : ∀ t, (consText c (literalPieces t)).flatMap (fun
      | .plain t => f t
      | .literal t => t) = c :: mapFrom f true t := by
    intro t
    obtain ⟨s, ps, h⟩ := exists_literalPieces t
    simp [mapFrom, h, consText]
  by_cases hc : c = quote
  · subst hc
    cases t with
    | nil => simp [mapFrom, literalPieces, pieces]
    | cons d t =>
      by_cases hd : d = quote
      · subst hd
        obtain ⟨s, ps, h⟩ := exists_literalPieces t
        simp [mapFrom, literalPieces, pieces, h, consText, hf.nil]
      · simp [mapFrom, literalPieces, hd]
  · have hne : (c != quote) = true := by simpa using hc
    rw [hne, ← put, mapFrom, if_pos rfl, literalPieces_cons_of_ne hc]

theorem mapFrom_append_quote {p : List Char} (hp : quote ∉ p) (inLiteral : Bool) (t : List Char) :
    mapFrom f inLiteral (p ++ quote :: t)
      = changed f inLiteral p ++ quote :: mapFrom f (!inLiteral) t := by
  cases inLiteral with
  | false =>
    have hstart : mapFrom f false (quote :: t) = quote :: mapFrom f true t := by
      obtain ⟨s, ps, h⟩ := exists_literalPieces t
      simp [mapFrom, pieces, h, consText, hf.nil]
    rw [mapFrom_false, mapPlain_append hf.nil hp (by simp), ← mapFrom_false, hstart]
    rfl
  | true =>
    induction p with
    | nil => exact mapFrom_true_cons hf quote t
    | cons c p ih =>
      simp only [List.mem_cons, not_or] at hp
      have hne : (c != quote) = true := by simpa using Ne.symm hp.1
      rw [List.cons_append, mapFrom_true_cons hf, hne, ih hp.2]
      rfl

theorem mapFrom_of_not_mem {p : List Char} (hp : quote ∉ p) (inLiteral : Bool) :
    mapFrom f inLiteral p = changed f inLiteral p := by
  cases inLiteral with
  | false => exact mapPlain_of_not_mem hf.nil hp
  | true =>
    induction p with
    | nil => simp [mapFrom, literalPieces, hf.nil, changed]
    | cons c p ih =>
      simp only [List.mem_cons, not_or] at hp
      have hne : (c != quote) = true := by simpa using Ne.symm hp.1
      rw [mapFrom_true_cons hf, hne, ih hp.2]
      rfl

theorem quote_not_mem_changed {p : List Char} (hp : quote ∉ p) (inLiteral : Bool) :
    quote ∉ changed f inLiteral p := by
  cases inLiteral with
  | true => exact hp
  | false => exact hf.quote hp

/-! ## Back to the clause -/

omit hf in
/-- The first of its kind in a text is where it is. -/
theorem append_cons_inj {α : Type} {d : α} {p q s t : List α} (hp : d ∉ p) (hq : d ∉ q)
    (h : p ++ d :: s = q ++ d :: t) : p = q ∧ s = t := by
  induction p generalizing q with
  | nil =>
    cases q with
    | nil => exact ⟨rfl, (List.cons.inj h).2⟩
    | cons e q => exact absurd ((List.cons.inj h).1 ▸ List.mem_cons_self) hq
  | cons c p ih =>
    cases q with
    | nil => exact absurd ((List.cons.inj h).1 ▸ List.mem_cons_self) hp
    | cons e q =>
      obtain ⟨rfl, htail⟩ := List.cons.inj h
      obtain ⟨rfl, rfl⟩ := ih (fun hc => hp (List.mem_cons_of_mem _ hc))
        (fun hc => hq (List.mem_cons_of_mem _ hc)) htail
      exact ⟨rfl, rfl⟩

omit hf in
/-- A text with quotes is cut at the first of them. -/
theorem exists_of_count_quote {t : List Char} {n : Nat} (h : t.count quote = n + 1) :
    ∃ p s, t = p ++ quote :: s ∧ quote ∉ p ∧ s.count quote = n := by
  have hmem : quote ∈ t := List.count_pos_iff.mp (by omega)
  obtain ⟨p, s, rfl, hp⟩ := List.eq_append_cons_of_mem hmem
  refine ⟨p, s, rfl, hp, ?_⟩
  rw [List.count_append, List.count_eq_zero.mpr hp, List.count_cons_self] at h
  omega

/-- A change that makes no stretch longer makes no text longer. -/
theorem length_mapFrom_le (hshort : ∀ p, (f p).length ≤ p.length) (inLiteral : Bool)
    (t : List Char) : (mapFrom f inLiteral t).length ≤ t.length := by
  have hchanged : ∀ (inLiteral : Bool) (p : List Char),
      (changed f inLiteral p).length ≤ p.length := by
    rintro (_ | _) p
    · exact hshort p
    · exact Nat.le_refl _
  induction hn : t.count quote generalizing inLiteral t with
  | zero =>
    rw [mapFrom_of_not_mem hf (List.count_eq_zero.mp hn)]
    exact hchanged inLiteral t
  | succ n ih =>
    obtain ⟨p, s, rfl, hp, hs⟩ := exists_of_count_quote hn
    have hfirst := hchanged inLiteral p
    have hrest := ih (!inLiteral) s hs
    rw [mapFrom_append_quote hf hp]
    simp only [List.length_append, List.length_cons]
    omega

/-- The first quote of a changed text comes from the first quote of the text. -/
theorem exists_of_mapFrom_quote {inLiteral : Bool} {t p rest : List Char} (hp : quote ∉ p)
    (h : mapFrom f inLiteral t = p ++ quote :: rest) :
    ∃ q more, t = q ++ quote :: more ∧ quote ∉ q ∧ changed f inLiteral q = p
      ∧ mapFrom f (!inLiteral) more = rest := by
  by_cases ht : quote ∈ t
  · obtain ⟨q, more, rfl, hq⟩ := List.eq_append_cons_of_mem ht
    rw [mapFrom_append_quote hf hq] at h
    obtain ⟨hfirst, hrest⟩ := append_cons_inj (quote_not_mem_changed hf hq inLiteral) hp h
    exact ⟨q, more, rfl, hq, hfirst, hrest⟩
  · rw [mapFrom_of_not_mem hf ht] at h
    have hmem : quote ∈ changed f inLiteral t := h ▸ List.mem_append_right p List.mem_cons_self
    exact absurd hmem (quote_not_mem_changed hf ht inLiteral)

/-- Every quote of a changed text comes from a quote with as many of them before it. -/
theorem exists_of_mapFrom {inLiteral : Bool} {t a rest : List Char}
    (h : mapFrom f inLiteral t = a ++ quote :: rest) :
    ∃ b more, t = b ++ quote :: more ∧ b.count quote = a.count quote
      ∧ mapFrom f (inLiteral == decide (Odd (a.count quote))) more = rest := by
  induction hn : a.count quote generalizing inLiteral t a with
  | zero =>
    obtain ⟨q, more, rfl, hq, -, hmore⟩ :=
      exists_of_mapFrom_quote hf (List.count_eq_zero.mp hn) h
    refine ⟨q, more, rfl, List.count_eq_zero.mpr hq, ?_⟩
    cases inLiteral <;> exact hmore
  | succ n ih =>
    obtain ⟨p, a, rfl, hp, hcount⟩ := exists_of_count_quote hn
    rw [List.append_assoc, List.cons_append] at h
    obtain ⟨q, more, rfl, hq, -, hmore⟩ := exists_of_mapFrom_quote hf hp h
    obtain ⟨b, rest', rfl, hb, hrest⟩ := ih hmore hcount
    refine ⟨q ++ quote :: b, rest', by simp, ?_, ?_⟩
    · rw [List.count_append, List.count_eq_zero.mpr hq, List.count_cons_self, hb]
      omega
    · have hparity : decide (Odd (n + 1)) = !decide (Odd n) := by
        rw [← decide_not, decide_eq_decide, Nat.odd_add_one]
      rw [hparity, ← hrest]
      cases inLiteral <;> cases decide (Odd n) <;> rfl

/-- The quote that a literal starts with in a changed text. -/
theorem exists_of_mapPlain_quoted {t v a b : List Char}
    (h : mapPlain f t = a ++ (quoted v ++ b)) :
    ∃ c y, t = c ++ quote :: y ∧ c.count quote = a.count quote
      ∧ mapFrom f (!decide (Odd (a.count quote))) y = escape v ++ quote :: b := by
  have hform : mapFrom f false t = a ++ quote :: (escape v ++ quote :: b) := by
    rw [mapFrom_false, h, quoted]
    simp
  obtain ⟨c, y, rfl, hcount, hy⟩ := exists_of_mapFrom hf hform
  refine ⟨c, y, rfl, hcount, ?_⟩
  rw [← hy]
  cases decide (Odd (a.count quote)) <;> rfl

end

/-! ## Literals -/

/-- Literals with text between them that `f` takes away, and the value as which they are
read then: the quote that ends a literal and the one that starts the next are a doubled
quote. -/
inductive Joined (f : List Char → List Char) : List Char → List Char → Prop
  | single (v : List Char) : Joined f v (quoted v)
  | join (u : List Char) {p v t : List Char} : p ≠ [] → quote ∉ p → f p = [] → Joined f v t →
    Joined f (u ++ quote :: v) (quoted u ++ (p ++ t))

theorem escape_append (u v : List Char) : escape (u ++ v) = escape u ++ escape v :=
  List.flatMap_append

theorem quoted_append_quote (u v : List Char) :
    quoted (u ++ quote :: v) = quoted u ++ quoted v := by
  simp [quoted, escape_append, escape_cons_quote]

theorem escape_of_not_mem {v : List Char} (h : quote ∉ v) : escape v = v := by
  induction v with
  | nil => rfl
  | cons c v ih =>
    simp only [List.mem_cons, not_or] at h
    rw [escape_cons_of_ne (Ne.symm h.1), ih h.2]

section

variable {f : List Char → List Char}

/-- A literal right before others makes its last quote and their first one a pair. -/
theorem Joined.after {v t : List Char} (h : Joined f v t) (u : List Char) :
    Joined f (u ++ quote :: v) (quoted u ++ t) := by
  cases h with
  | single =>
    rw [← quoted_append_quote]
    exact .single _
  | join w hne hq hp h =>
    have hjoin := Joined.join (u ++ quote :: w) hne hq hp h
    rwa [quoted_append_quote, List.append_assoc, List.append_assoc, List.cons_append] at hjoin

/-- Joined literals start with a literal. -/
theorem Joined.exists_prefix {v t : List Char} (h : Joined f v t) :
    ∃ w more, t = quoted w ++ more := by
  cases h with
  | single => exact ⟨v, [], by simp⟩
  | join u _ _ _ _ => exact ⟨u, _, rfl⟩

/-- When `f` takes no text away, it is one literal that is read. -/
theorem Joined.eq_quoted (hf : ∀ p, f p = [] → p = []) {v t : List Char} (h : Joined f v t) :
    t = quoted v := by
  cases h with
  | single => rfl
  | join _ hne _ hp _ => exact absurd (hf _ hp) hne

variable (hf : Quoteless f)
include hf

/-- The inside of a literal of the changed text comes from literals. -/
theorem exists_joined_of_mapFrom {y v rest : List Char}
    (h : mapFrom f true y = escape v ++ quote :: rest) :
    ∃ run more, quote :: y = run ++ more ∧ Joined f v run := by
  induction hn : v.count quote generalizing y v with
  | zero =>
    have hv : quote ∉ v := List.count_eq_zero.mp hn
    rw [escape_of_not_mem hv] at h
    obtain ⟨q, more, rfl, hq, rfl, -⟩ := exists_of_mapFrom_quote hf hv h
    refine ⟨quoted q, more, ?_, .single q⟩
    simp [quoted, escape_of_not_mem hq]
  | succ n ih =>
    obtain ⟨u, w, rfl, hu, hcount⟩ := exists_of_count_quote hn
    rw [escape_append, escape_of_not_mem hu, escape_cons_quote, List.append_assoc] at h
    obtain ⟨q, more, rfl, hq, rfl, hmore⟩ := exists_of_mapFrom_quote hf hu h
    -- the second quote of the pair starts a literal, after text that `f` takes away
    obtain ⟨p, more, rfl, hp, hnil, hrest⟩ :=
      exists_of_mapFrom_quote hf (p := []) (by simp) hmore
    obtain ⟨run, after, hrun, hjoin⟩ := ih hrest hcount
    have hq' : quoted q = quote :: (q ++ [quote]) := by rw [quoted, escape_of_not_mem hq]
    by_cases hne : p = []
    · subst hne
      refine ⟨quoted q ++ run, after, ?_, hjoin.after q⟩
      rw [List.append_assoc, ← hrun, hq']
      simp
    · refine ⟨quoted q ++ (p ++ run), after, ?_, .join q hne hp hnil hjoin⟩
      rw [List.append_assoc, List.append_assoc, ← hrun, hq']
      simp

/-- **A literal outside of quotes in a changed clause comes from literals** that stand
outside of quotes in the clause. -/
theorem exists_joined_of_mapPlain {t v : List Char} (h : StandsIn (quoted v) (mapPlain f t)) :
    ∃ run, Joined f v run ∧ StandsIn run t := by
  obtain ⟨a, b, hab, heven⟩ := h
  obtain ⟨c, y, rfl, hcount, hy⟩ := exists_of_mapPlain_quoted hf hab
  rw [decide_eq_false (by rwa [Nat.not_odd_iff_even])] at hy
  obtain ⟨run, more, hrun, hjoin⟩ := exists_joined_of_mapFrom hf hy
  exact ⟨run, hjoin, c, more, by rw [← hrun], by rw [hcount]; exact heven⟩

end

/-! ## Text between quotes -/

/-- Text with `f` applied to every stretch of it without quotes. -/
def mapStretches (f : List Char → List Char) (t : List Char) : List Char :=
  [quote].intercalate ((fields (· == quote) t).map f)

theorem fields_of_not_mem {p : List Char} (hp : quote ∉ p) : fields (· == quote) p = [p] :=
  fields_of_all_not _ fun _ hc => beq_eq_false_iff_ne.mpr fun h => hp (h ▸ hc)

theorem mapStretches_of_not_mem (f : List Char → List Char) {p : List Char} (hp : quote ∉ p) :
    mapStretches f p = f p := by
  rw [mapStretches, fields_of_not_mem hp, List.map_singleton, List.intercalate_singleton]

theorem mapStretches_append_quote (f : List Char → List Char) {p : List Char} (hp : quote ∉ p)
    (t : List Char) : mapStretches f (p ++ quote :: t) = f p ++ quote :: mapStretches f t := by
  obtain ⟨u, us, hu⟩ := List.exists_cons_of_ne_nil (fields_ne_nil (· == quote) t)
  rw [mapStretches, mapStretches, fields_append_sep (· == quote) (beq_self_eq_true quote),
    fields_of_not_mem hp, hu]
  simp [List.intercalate_cons_cons]

section

variable {f : List Char → List Char} (hf : Quoteless f)
include hf

/-- Text up to a quote that is not doubled, outside of literals. -/
theorem exists_mapStretches_of_mapFrom {y v rest : List Char}
    (h : mapFrom f false y = escape v ++ quote :: rest) :
    ∃ w more, y = escape w ++ quote :: more ∧ v = mapStretches f w := by
  induction hn : v.count quote generalizing y v with
  | zero =>
    have hv : quote ∉ v := List.count_eq_zero.mp hn
    rw [escape_of_not_mem hv] at h
    obtain ⟨q, more, rfl, hq, hv, -⟩ := exists_of_mapFrom_quote hf hv h
    exact ⟨q, more, by rw [escape_of_not_mem hq],
      hv.symm.trans (mapStretches_of_not_mem f hq).symm⟩
  | succ n ih =>
    obtain ⟨u, w, rfl, hu, hcount⟩ := exists_of_count_quote hn
    rw [escape_append, escape_of_not_mem hu, escape_cons_quote, List.append_assoc] at h
    obtain ⟨q, more, rfl, hq, rfl, hmore⟩ := exists_of_mapFrom_quote hf hu h
    -- the second quote of the pair is right behind the first, for no text in a literal goes
    obtain ⟨p, more, rfl, -, hnil, hrest⟩ :=
      exists_of_mapFrom_quote hf (p := []) (by simp) hmore
    obtain rfl : p = [] := hnil
    obtain ⟨w', after, rfl, rfl⟩ := ih hrest hcount
    refine ⟨q ++ quote :: w', after, ?_, (mapStretches_append_quote f hq w').symm⟩
    simp [escape_append, escape_cons_quote, escape_of_not_mem hq]

/-- **What reads as a literal after a quote that is alone** comes from what reads so in the
clause, with the change made to it. -/
theorem exists_mapStretches_of_mapPlain {n : Nat} (hn : Odd n) {t v : List Char}
    (h : StandsAfter n (quoted v) (mapPlain f t)) :
    ∃ w, StandsAfter n (quoted w) t ∧ v = mapStretches f w := by
  obtain ⟨a, b, hab, hodd⟩ := h
  obtain ⟨c, y, rfl, hcount, hy⟩ := exists_of_mapPlain_quoted hf hab
  rw [decide_eq_true (hodd.mpr hn)] at hy
  obtain ⟨w, more, rfl, hv⟩ := exists_mapStretches_of_mapFrom hf hy
  exact ⟨w, ⟨c, more, by simp [quoted], hcount ▸ hodd⟩, hv⟩

end

end ValidatorGen.Check
