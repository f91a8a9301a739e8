/-
Both loops of preparing a clause end, whatever the clause. Passes over a stretch of text outside
of literals go on as long as one changes something, and such a pass makes the text shorter; so
does taking a pair of parentheses off that is around the whole text (`mem_eval_rounds`). What is
left has nothing more to take away: a stretch holds no name to take out of a pair, and the whole
is in no pair of its own, where a pair around a text is told by counting parentheses
(`outerParens?_eq_some_iff`). The count is never more than the text is long
(`natAbs_surplus_unquoted_le`). Main statement: `prepare_settles`.
-/
import Mathlib.Computability.StateTransition
import ValidatorGen.Proofs.Check.TopLevel
import ValidatorGen.Proofs.Check.Wrapped

namespace ValidatorGen.Check

open Text StateTransition

/-- Rounds of a step that makes a text shorter run to completion, if they are no fewer than the
text has characters. -/
theorem mem_eval_rounds {step : List Char → Option (List Char)}
    (hshort : ∀ {t u}, step t = some u → u.length < t.length)
    {rounds : Nat → List Char → List Char} (hzero : ∀ t, rounds 0 t = t)
    (hsucc : ∀ n t, rounds (n + 1) t = (step t).elim t (rounds n))
    {n : Nat} {t : List Char} (hn : t.length ≤ n) : rounds n t ∈ eval step t := by
  induction n generalizing t with
  | zero =>
    -- no round is left, but none is needed: nothing is shorter than the empty text
    have hstop : step t = none := Option.eq_none_iff_forall_ne_some.mpr fun u hu => by
      have hlt := hshort hu
      omega
    rw [hzero]
    exact mem_eval.mpr ⟨.refl, hstop⟩
  | succ n ih =>
    rw [hsucc]
    cases hstep : step t with
    | none => exact mem_eval.mpr ⟨.refl, hstep⟩
    | some u =>
      have hlt := hshort hstep
      rw [reaches_eval (.single hstep)]
      exact ih (by omega)

/-! ## Taking names out of their parentheses -/

/-- A pass, if it changes the text. -/
def pass? (t : List Char) : Option (List Char) :=
  if unwrapPass t = t then none else some (unwrapPass t)

theorem length_pass? {t u : List Char} (h : pass? t = some u) : u.length < t.length := by
  obtain ⟨hne, hu⟩ := Option.ite_none_left_eq_some.mp h
  obtain rfl := Option.some.inj hu
  exact length_unwrapPass_lt hne

theorem pass?_eq_none_iff {t : List Char} : pass? t = none ↔ ∀ u, ¬ TakesOut t u := by
  rw [← unwrapPass_eq_self_iff, pass?]
  simp

/-- Passes over a text end where another one changes nothing. -/
theorem unwrapNames_mem_eval (t : List Char) : unwrapNames t ∈ eval pass? t := by
  refine mem_eval_rounds length_pass? (fun t => rfl) (fun n t => ?_) (Nat.le_refl t.length)
  rw [settle, pass?]
  split <;> rfl

/-- No name is left in parentheses when the passes have ended. -/
theorem not_takesOut_unwrapNames (t u : List Char) : ¬ TakesOut (unwrapNames t) u :=
  pass?_eq_none_iff.mp (mem_eval.mp (unwrapNames_mem_eval t)).2 u

/-! ## One pair around the whole text -/

/-- How much deeper in parentheses a text ends than it starts, inside of quotes or outside. -/
def parenSurplus (inQuote : Bool) (t : List Char) : Int :=
  surplus ['('] [')'] (unquoted inQuote t)

/-- What closes just the parentheses that it opens, none before it is open, and all quotes. -/
structure Closes (t : List Char) : Prop where
  outside : Even (t.count quote)
  level : parenSurplus false t = 0
  above : ∀ u, u <+: t → 0 ≤ parenSurplus false u

/-- The last character of the text closes what the first one opens. -/
def IsWrapped (t : List Char) : Prop := ∃ inner, t = '(' :: (inner ++ [')']) ∧ Closes inner

theorem parenSurplus_nil (inQuote : Bool) : parenSurplus inQuote [] = 0 := by
  cases inQuote <;> rfl

theorem parenSurplus_cons (inQuote : Bool) (c : Char) (t : List Char) :
    parenSurplus inQuote (c :: t)
      = parenSurplus inQuote [c] + parenSurplus (inQuote != (c == quote)) t := by
  rw [← List.singleton_append, parenSurplus, unquoted_append, surplus_append, quoteOpen_singleton]
  rfl

/-- Before the last character, one goes on as long as the first parenthesis is not closed. -/
theorem closesLast_step {depth : Int} (hd : 0 < depth) (inQuote : Bool) (c : Char)
    {rest : List Char} (hr : rest ≠ []) :
    closesLast depth inQuote (c :: rest) = (decide (0 < depth + parenSurplus inQuote [c]) &&
      closesLast (depth + parenSurplus inQuote [c]) (inQuote != (c == quote)) rest) := by
  by_cases hc : c = quote
  · subst hc
    have hzero : parenSurplus inQuote [quote] = 0 := by cases inQuote <;> rfl
    rw [hzero, Int.add_zero, decide_eq_true hd, Bool.true_and, closesLast, if_pos rfl]
    simp
  have hbeq : (c == quote) = false := by simpa using hc
  rw [hbeq, Bool.bne_false]
  cases inQuote with
  | true =>
    have hzero : parenSurplus true [c] = 0 := by simp [parenSurplus, unquoted, hc, surplus]
    rw [hzero, Int.add_zero, decide_eq_true hd, Bool.true_and, closesLast, if_neg hc, if_pos rfl]
  | false =>
    by_cases ho : c = '('
    · subst ho
      have hone : parenSurplus false ['('] = 1 := rfl
      rw [hone, closesLast_open, decide_eq_true (by omega), Bool.true_and]
    by_cases hp : c = ')'
    · subst hp
      have hone : parenSurplus false [')'] = -1 := rfl
      rw [hone, ← Int.sub_eq_add_neg]
      by_cases hlast : depth = 1
      · subst hlast
        simp [closesLast, hr, show (')' : Char) ≠ quote by decide]
      · rw [closesLast_close _ (.inl hlast), decide_eq_true (by omega), Bool.true_and]
    · have hzero : parenSurplus false [c] = 0 := by
        simp [parenSurplus, unquoted, hc, surplus, ho, hp]
      rw [hzero, Int.add_zero, decide_eq_true hd, Bool.true_and, closesLast_cons_of_ne hc ho hp]

theorem closesLast_concat_iff {depth : Int} (hd : 0 < depth) {inQuote : Bool} {s : List Char} :
    closesLast depth inQuote (s ++ [')']) = true ↔
      (inQuote != quoteOpen s) = false ∧ depth + parenSurplus inQuote s = 1
        ∧ ∀ u, u <+: s → 0 < depth + parenSurplus inQuote u := by
  induction s generalizing depth inQuote with
  | nil =>
    have habove : ∀ u : List Char, u <+: [] → 0 < depth + parenSurplus inQuote u := by
      intro u hu
      rwa [List.prefix_nil.mp hu, parenSurplus_nil, Int.add_zero]
    have hquote : quoteOpen [] = false := rfl
    rw [List.nil_append, parenSurplus_nil, Int.add_zero, hquote, Bool.bne_false,
      and_iff_left habove]
    cases inQuote with
    | true => simp [closesLast, show (')' : Char) ≠ quote by decide, hd.ne']
    | false =>
      rw [closesLast_close _ (.inr rfl), closesLast, beq_iff_eq, and_iff_right rfl]
      omega
  | cons c s ih =>
    rw [List.cons_append, closesLast_step hd inQuote c (by simp), Bool.and_eq_true,
      decide_eq_true_eq, parenSurplus_cons inQuote c s, quoteOpen_cons, ← Bool.bne_assoc,
      ← Int.add_assoc]
    constructor
    · rintro ⟨hpos, hrest⟩
      obtain ⟨houtside, hlevel, habove⟩ := (ih hpos).mp hrest
      refine ⟨houtside, hlevel, fun u hu => ?_⟩
      rcases List.prefix_cons_iff.mp hu with rfl | ⟨v, rfl, hv⟩
      · rwa [parenSurplus_nil, Int.add_zero]
      · rw [parenSurplus_cons, ← Int.add_assoc]
        exact habove v hv
    · rintro ⟨houtside, hlevel, habove⟩
      have hpos := habove [c] (by simp)
      refine ⟨hpos, (ih hpos).mpr ⟨houtside, hlevel, fun v hv => ?_⟩⟩
      have hcons := habove (c :: v) (List.cons_prefix_cons.mpr ⟨rfl, hv⟩)
      rwa [parenSurplus_cons, ← Int.add_assoc] at hcons

theorem closesLast_pair_iff {inner : List Char} :
    closesLast 0 false ('(' :: (inner ++ [')'])) = true ↔ Closes inner := by
  rw [closesLast_open, closesLast_concat_iff (by decide), Bool.false_bne, quoteOpen_eq_false_iff]
  constructor
  · rintro ⟨houtside, hlevel, habove⟩
    exact ⟨houtside, by omega, fun u hu => by have hu := habove u hu; omega⟩
  · rintro ⟨houtside, hlevel, habove⟩
    exact ⟨houtside, by omega, fun u hu => by have hu := habove u hu; omega⟩

/-- **The pair that is taken off a text closes with it.** -/
theorem outerParens?_eq_some_iff {t u : List Char} :
    outerParens? t = some u ↔
      ∃ inner, t = '(' :: (inner ++ [')']) ∧ Closes inner ∧ u = trim inner := by
  constructor
  · intro h
    unfold outerParens? at h
    split at h
    next rest =>
      obtain ⟨hcond, hu⟩ := Option.ite_none_right_eq_some.mp h
      rw [Bool.and_eq_true, decide_eq_true_eq] at hcond
      obtain ⟨inner, rfl⟩ := List.getLast?_eq_some_iff.mp hcond.1
      rw [List.dropLast_concat, Option.some.injEq] at hu
      exact ⟨inner, rfl, closesLast_pair_iff.mp hcond.2, hu.symm⟩
    · cases h
  · rintro ⟨inner, rfl, hinner, rfl⟩
    rw [outerParens?, closesLast_pair_iff.mpr hinner, List.getLast?_concat, List.dropLast_concat]
    rfl

theorem outerParens?_eq_none_iff {t : List Char} : outerParens? t = none ↔ ¬ IsWrapped t := by
  rw [Option.eq_none_iff_forall_ne_some]
  constructor
  · rintro h ⟨inner, ht, hinner⟩
    exact h (trim inner) (outerParens?_eq_some_iff.mpr ⟨inner, ht, hinner, rfl⟩)
  · intro h u hu
    obtain ⟨inner, ht, hinner, -⟩ := outerParens?_eq_some_iff.mp hu
    exact h ⟨inner, ht, hinner⟩

/-- Rounds of taking a pair off end where there is no pair left to take off. -/
theorem stripOuterParens_mem_eval (t : List Char) :
    stripOuterParens t ∈ eval outerParens? (trim t) := by
  refine mem_eval_rounds length_outerParens? (fun t => rfl) (fun n t => ?_) (length_trim_le t)
  rw [stripPairs]
  cases outerParens? t <;> rfl

/-- What is left when all pairs are off has no white space around it. -/
theorem tight_stripOuterParens (t : List Char) : Tight (stripOuterParens t) := by
  obtain ⟨hreach, -⟩ := mem_eval.mp (stripOuterParens_mem_eval t)
  rcases hreach.cases_tail with heq | ⟨u, -, hu⟩
  · rw [heq]
    exact tight_trim t
  · obtain ⟨inner, -, -, heq⟩ := outerParens?_eq_some_iff.mp hu
    rw [heq]
    exact tight_trim inner

theorem length_le_of_reaches {t u : List Char} (h : Reaches outerParens? t u) :
    u.length ≤ t.length := by
  induction h with
  | refl => exact Nat.le_refl _
  | tail _ hstep ih =>
    have hlt := length_outerParens? hstep
    omega

/-! ## The whole clause -/

/-- A clause without its keyword and its casts. -/
def withoutCasts (clause : List Char) : List Char := mapPlain dropCasts (dropCheck (trim clause))

theorem length_dropCheck_le (t : List Char) : (dropCheck t).length ≤ t.length := by
  unfold dropCheck
  split
  next a b c d e f rest =>
    split
    · have hrest := (List.dropWhile_suffix (l := f :: rest) isBlank).length_le
      simp only [trimStart, List.length_cons] at hrest ⊢
      omega
    · exact Nat.le_refl _
  · exact Nat.le_refl _

/-- Nothing that is made of a clause before pairs around it are taken off is longer than it. -/
theorem length_passes_le (clause : List Char) :
    (trim (mapPlain unwrapNames (withoutCasts clause))).length ≤ clause.length := by
  calc (trim (mapPlain unwrapNames (withoutCasts clause))).length
      ≤ (mapPlain unwrapNames (withoutCasts clause)).length := length_trim_le _
    _ ≤ (withoutCasts clause).length :=
        length_mapFrom_le quoteless_unwrapNames (fun p => (unwrapNames_sublist p).length_le) false _
    _ ≤ (dropCheck (trim clause)).length :=
        length_mapFrom_le quoteless_dropCasts (fun p => (dropCasts_sublist p).length_le) false _
    _ ≤ (trim clause).length := length_dropCheck_le _
    _ ≤ clause.length := length_trim_le clause

/-- **Preparing a clause ends where there is nothing more to take away.** In each of its stretches
outside of literals, passes that change something make the text shorter, and they end at a text
with no name to take out of parentheses; all that it has lost are parentheses and white space next
to them. Then pairs of parentheses around the whole are taken off, which ends as well, at a text
that is in no pair of its own and has no white space around it; for a clause of less than 2^31
characters, the parentheses counted on the way to tell such a pair stay among the numbers of 32
bits. -/
theorem prepare_settles (clause : List Char) :
    (∀ t, unwrapPass t ≠ t → (unwrapPass t).length < t.length) ∧
    (∀ segment, .plain segment ∈ pieces (withoutCasts clause) →
      unwrapNames segment ∈ eval pass? segment ∧ (∀ u, ¬ TakesOut (unwrapNames segment) u) ∧
      Relation.ReflTransGen TakesOut segment (unwrapNames segment) ∧
      Sheds segment (unwrapNames segment)) ∧
    prepare clause ∈ eval outerParens? (trim (mapPlain unwrapNames (withoutCasts clause))) ∧
    ¬ IsWrapped (prepare clause) ∧ Tight (prepare clause) ∧
    (clause.length < 2 ^ 31 → ∀ t,
      Reaches outerParens? (trim (mapPlain unwrapNames (withoutCasts clause))) t →
      ∀ u, u <+: t → -2 ^ 31 ≤ parenSurplus false u ∧ parenSurplus false u < 2 ^ 31) := by
  refine ⟨fun t => length_unwrapPass_lt, fun segment _ => ?_, ?_, ?_, ?_,
    fun hclause t ht u hu => ?_⟩
  · have htaken := takesOut_unwrapNames segment
    exact ⟨unwrapNames_mem_eval segment, not_takesOut_unwrapNames segment, htaken,
      sheds_of_takesOut htaken⟩
  · exact stripOuterParens_mem_eval (mapPlain unwrapNames (withoutCasts clause))
  · exact outerParens?_eq_none_iff.mp (mem_eval.mp (stripOuterParens_mem_eval _)).2
  · exact tight_stripOuterParens _
  · have hcount : (parenSurplus false u).natAbs ≤ u.length :=
      natAbs_surplus_unquoted_le ['('] [')'] false u
    have hprefix := hu.length_le
    have hreached := length_le_of_reaches ht
    have hpassed := length_passes_le clause
    omega

theorem prepare_settles_status :
    .plain "(((status)) IN (".toList ∈ pieces (withoutCasts "CHECK (((status)) IN ('a'))".toList) ∧
    unwrapPass "(((status)) IN (".toList ≠ "(((status)) IN (".toList ∧
    (unwrapPass "(((status)) IN (".toList).length < "(((status)) IN (".toList.length ∧
    unwrapNames "(((status)) IN (".toList ∈ eval pass? "(((status)) IN (".toList ∧
    unwrapNames "(((status)) IN (".toList = "(status IN (".toList ∧
    prepare "CHECK (((status)) IN ('a'))".toList = "status IN ('a')".toList ∧
    "CHECK (((status)) IN ('a'))".toList.length < 2 ^ 31 ∧
    parenSurplus false "(status IN ('a'".toList = 2 ∧
    parenSurplus false "(status IN ('a'".toList < 2 ^ 31 := by
  have h := prepare_settles "CHECK (((status)) IN ('a'))".toList
  have hpass : unwrapPass "(((status)) IN (".toList ≠ "(((status)) IN (".toList := by decide +kernel
  have hpiece : .plain "(((status)) IN (".toList
      ∈ pieces (withoutCasts "CHECK (((status)) IN ('a'))".toList) := by decide +kernel
  have hpassed : trim (mapPlain unwrapNames (withoutCasts "CHECK (((status)) IN ('a'))".toList))
      = "(status IN ('a'))".toList := by decide +kernel
  have hlength : "CHECK (((status)) IN ('a'))".toList.length < 2 ^ 31 := by decide
  have hcount := h.2.2.2.2.2 hlength _ .refl "(status IN ('a'".toList
    (by rw [hpassed]; exact ⟨"))".toList, rfl⟩)
  exact ⟨hpiece, hpass, h.1 _ hpass, (h.2.1 _ hpiece).1, by decide +kernel, by decide +kernel,
    hlength, by decide +kernel, hcount.2⟩

end ValidatorGen.Check
