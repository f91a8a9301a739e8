/-
The shapes of a clause exclude one another. What comes after the column at the start of a
text decides on the one shape that the text can have (`shapeOf`), and a text has values under
no other (`shapeOf_of_values?`). So **at most one shape matches a clause**, the values of
the clause are those of that shape, and the order in which shapes are tried does not matter
(`matchingGrammars_exclusive`).
-/
import Mathlib.Data.List.DropRight
import ValidatorGen.Proofs.Check.Scan
import ValidatorGen.Proofs.Check.Split
import ValidatorGen.Proofs.Check.Union

namespace ValidatorGen.Check

open Text

/-- The only shape under which a text can have values, told by what comes after its column;
a text that starts with no column can only be a chain. -/
def shapeOf (t : List Char) : Grammar :=
  match scanColumn? t with
  | none => .orChain
  | some (_, rest) =>
    match trimStart rest with
    | [] => .orChain
    | c :: more =>
      if c = '=' then
        if (trimStart more).head?.any (sameLetter 'a') then .anyArray else .orChain
      else if c = '<' then .containedIn
      else .inList

/-! ## What is found at the start of a text -/

theorem stripToken?_eq_some {token : Char} {t rest : List Char} :
    stripToken? token t = some rest ↔ trimStart t = token :: rest := by
  unfold stripToken?
  split
  · next h => simp [h]
  · next c more h =>
    rw [h]
    by_cases hc : c = token <;> simp [hc]

theorem stripWord?_cons_eq_some {w : Char} {word t rest : List Char}
    (h : stripWord? (w :: word) t = some rest) :
    ∃ c t', t = c :: t' ∧ sameLetter w c = true ∧ stripWord? word t' = some rest := by
  cases t with
  | nil => cases h
  | cons c t =>
    obtain ⟨hc, h⟩ := Option.ite_none_right_eq_some.mp h
    exact ⟨c, t, rfl, hc, h⟩

theorem stripWordAndBlanks?_nil_eq_some {t rest : List Char}
    (h : stripWordAndBlanks? [] t = some rest) : t ≠ [] ∧ rest = trimStart t := by
  unfold stripWordAndBlanks? stripWord? at h
  split at h
  next c more heq =>
    obtain ⟨hc, h⟩ := Option.ite_none_right_eq_some.mp h
    obtain rfl : t = c :: more := Option.some.inj heq
    exact ⟨List.cons_ne_nil _ _, by rw [trimStart_cons hc, Option.some.inj h]⟩
  · cases h

theorem trimStart_append {t : List Char} (h : trimStart t ≠ []) (z : List Char) :
    trimStart (t ++ z) = trimStart t ++ z := by
  unfold trimStart at h ⊢
  rw [List.dropWhile_append, if_neg (by simpa using h)]

/-- A text that is one literal starts with a quote, an introducer or a parenthesis. -/
theorem head_of_literalValue? {t v : List Char} (h : literalValue? t = some v) :
    ∃ c rest, trimStart t = c :: rest ∧ c ∈ ['(', quote, 'N', 'n', '_'] := by
  obtain ⟨inside, hinside, -⟩ := Option.bind_eq_some_iff.mp h
  cases ht : trimStart t with
  | nil =>
    have hnil : stripOuterParens t = [] := by
      rw [stripOuterParens, trim, stripWhile, ← trimStart, ht]
      cases t.length <;> rfl
    rw [hnil] at hinside
    cases hinside
  | cons c rest =>
    refine ⟨c, rest, rfl, ?_⟩
    by_contra hc
    simp only [List.mem_cons, List.not_mem_nil, or_false, not_or] at hc
    obtain ⟨hparen, hquote, hN, hn, hu⟩ := hc
    have hblank : isBlank c = false := by
      have hstop := List.head?_dropWhile_not isBlank t
      rw [← trimStart, ht] at hstop
      simpa using hstop
    have hstrip : stripOuterParens t = c :: trimEnd rest := by
      rw [← stripOuterParens_trimStart, ht, stripOuterParens_of_start hblank hparen]
    have hdrop : dropIntroducer (c :: trimEnd rest) = c :: trimEnd rest := by
      cases trimEnd rest <;> simp [dropIntroducer, hN, hn, hu]
    rw [hstrip, hdrop] at hinside
    simp [quotedInside?, hquote] at hinside

theorem sameLetter_of_literalValue? {t v : List Char} (h : literalValue? t = some v) :
    ∃ c rest, trimStart t = c :: rest ∧ sameLetter 'a' c = false := by
  obtain ⟨c, rest, ht, hc⟩ := head_of_literalValue? h
  have hall : ∀ c ∈ ['(', quote, 'N', 'n', '_'], sameLetter 'a' c = false :=
    forall_mem_of_all (by decide)
  exact ⟨c, rest, ht, hall c hc⟩

/-! ## What a text with values looks like -/

/-- The first piece of a chain is an equality of the column. -/
theorem exists_first_of_orChain {target t : List Char} {vs : List (List Char)}
    (h : Grammar.orChain.values? target t = some vs) :
    ∃ first v, first <+: t ∧ equalityValue? target first = some v := by
  obtain ⟨first, others, hsplit, hprefix⟩ := exists_prefix_splitTopLevel .orWord t
  rw [Grammar.values?, hsplit, List.mapM_cons] at h
  obtain ⟨v, hv, -⟩ := Option.bind_eq_some_iff.mp h
  exact ⟨first, v, hprefix, hv⟩

theorem exists_of_equalityValue? {target t v : List Char}
    (h : equalityValue? target t = some v) :
    ∃ column rest more, scanColumn? (stripOuterParens t) = some (column, rest)
      ∧ trimStart rest = '=' :: more ∧ canonicalName column = target
      ∧ literalValue? (trimStart more) = some v := by
  simp only [equalityValue?, matchEquality?, Option.bind_eq_bind, Option.bind_eq_some_iff,
    Prod.exists, stripToken?_eq_some, Option.some.injEq, Prod.mk.injEq,
    Option.ite_none_right_eq_some] at h
  obtain ⟨_, _, ⟨column, rest, hscan, more, hsign, rfl, rfl⟩, hname, hvalue⟩ := h
  exact ⟨column, rest, more, hscan, hsign, hname, hvalue⟩

theorem exists_of_listValues? {target : List Char} {matched : Option (List Char × List Char)}
    {vs : List (List Char)} (h : listValues? target matched = some vs) :
    ∃ column list, matched = some (column, list) ∧ canonicalName column = target
      ∧ literalList? list = some vs := by
  simp only [listValues?, Option.bind_eq_bind, Option.bind_eq_some_iff, Prod.exists,
    Option.ite_none_right_eq_some] at h
  exact h

theorem exists_of_matchAnyArray? {t column list : List Char}
    (h : matchAnyArray? t = some (column, list)) :
    ∃ rest more after, scanColumn? t = some (column, rest) ∧ trimStart rest = '=' :: more
      ∧ stripWord? ['a', 'n', 'y'] (trimStart more) = some after
      ∧ arrayList? after = some list := by
  simp only [matchAnyArray?, Option.bind_eq_bind, Option.bind_eq_some_iff, Prod.exists,
    stripToken?_eq_some, Option.some.injEq, Prod.mk.injEq] at h
  obtain ⟨column, rest, hscan, more, hsign, after, hword, list, hlist, rfl, rfl⟩ := h
  exact ⟨rest, more, after, hscan, hsign, hword, hlist⟩

theorem exists_of_matchInList? {t column list : List Char}
    (h : matchInList? t = some (column, list)) :
    ∃ rest after, scanColumn? t = some (column, rest)
      ∧ stripWord? ['i', 'n'] (trimStart rest) = some after
      ∧ trimStart after = '(' :: (list ++ [')']) := by
  simp only [matchInList?, Option.bind_eq_bind, Option.bind_eq_some_iff, Prod.exists,
    stripToken?_eq_some, Option.ite_none_right_eq_some, Option.some.injEq, Prod.mk.injEq] at h
  obtain ⟨column, rest, hscan, _, hblanks, after, hword, more, hopen, hlast, rfl, rfl⟩ := h
  obtain ⟨-, rfl⟩ := stripWordAndBlanks?_nil_eq_some hblanks
  obtain ⟨list, rfl⟩ := List.getLast?_eq_some_iff.mp hlast
  exact ⟨rest, after, hscan, hword, by rw [hopen, List.dropLast_concat]⟩

theorem exists_of_matchContainedIn? {t column list : List Char}
    (h : matchContainedIn? t = some (column, list)) :
    ∃ rest more after, scanColumn? t = some (column, rest) ∧ trimStart rest = '<' :: more
      ∧ stripWord? ['@'] more = some after ∧ arrayList? after = some list := by
  simp only [matchContainedIn?, Option.bind_eq_bind, Option.bind_eq_some_iff, Prod.exists,
    stripToken?_eq_some, Option.some.injEq, Prod.mk.injEq] at h
  obtain ⟨column, rest, hscan, more, hsign, after, hword, list, hlist, rfl, rfl⟩ := h
  exact ⟨rest, more, after, hscan, hsign, hword, hlist⟩

/-! ## The only shape of a text -/

/-- A chain that starts with a column goes on with an equality, and not with `any`. -/
theorem shapeOf_of_orChain {target t : List Char} {vs : List (List Char)}
    (h : Grammar.orChain.values? target t = some vs) : shapeOf t = .orChain := by
  obtain ⟨first, v, ⟨z, rfl⟩, hv⟩ := exists_first_of_orChain h
  obtain ⟨column, rest, more, hscan, hsign, -, hvalue⟩ := exists_of_equalityValue? hv
  unfold shapeOf
  split
  · rfl
  next column' rest' hscan' =>
  obtain ⟨c, t, ht, hb, hp⟩ := head_of_scanColumn? hscan'
  cases first with
  | nil => cases hscan
  | cons d first =>
    obtain ⟨rfl, -⟩ := List.cons.inj ht
    obtain ⟨b, hsplit, -⟩ := exists_append_dropEndWhile isBlank first
    rw [stripOuterParens_of_start hb hp] at hscan
    have hne : rest ≠ [] := by
      rintro rfl
      cases hsign
    have hwhole := scanName?_append_right hscan hne (b ++ z)
    have hform : d :: trimEnd first ++ (b ++ z) = d :: first ++ z := by
      rw [trimEnd, List.cons_append, ← List.append_assoc, ← hsplit, List.cons_append]
    rw [hform, ← scanColumn?, hscan', Option.some.injEq, Prod.mk.injEq] at hwhole
    obtain ⟨e, literal, hliteral, he⟩ := sameLetter_of_literalValue? hvalue
    have hidem : trimStart (trimStart more) = trimStart more := List.dropWhile_idempotent _ _
    rw [hidem] at hliteral
    have hmore : trimStart (more ++ (b ++ z)) = e :: (literal ++ (b ++ z)) := by
      rw [trimStart_append (by simp [hliteral]), hliteral, List.cons_append]
    rw [hwhole.2, trimStart_append (by simp [hsign]), hsign]
    simp [hmore, he]

/-- **The text after the column decides**: there are values under one shape only. -/
theorem shapeOf_of_values? {target t : List Char} {g : Grammar} {vs : List (List Char)}
    (h : g.values? target t = some vs) : shapeOf t = g := by
  cases g with
  | anyArray =>
    obtain ⟨column, list, hmatch, -⟩ := exists_of_listValues? h
    obtain ⟨rest, more, after, hscan, hsign, hword, -⟩ := exists_of_matchAnyArray? hmatch
    obtain ⟨c, t', ht, hc, -⟩ := stripWord?_cons_eq_some hword
    simp [shapeOf, hscan, hsign, ht, hc]
  | inList =>
    obtain ⟨column, list, hmatch, -⟩ := exists_of_listValues? h
    obtain ⟨rest, after, hscan, hword, -⟩ := exists_of_matchInList? hmatch
    obtain ⟨c, t', ht, hc, -⟩ := stripWord?_cons_eq_some hword
    have heq : c ≠ '=' := by
      rintro rfl
      exact absurd hc (by decide)
    have hlt : c ≠ '<' := by
      rintro rfl
      exact absurd hc (by decide)
    simp [shapeOf, hscan, ht, heq, hlt]
  | orChain => exact shapeOf_of_orChain h
  | containedIn =>
    obtain ⟨column, list, hmatch, -⟩ := exists_of_listValues? h
    obtain ⟨rest, more, after, hscan, hsign, -, -⟩ := exists_of_matchContainedIn? hmatch
    simp [shapeOf, hscan, hsign]

/-! ## The shapes of a clause -/

theorem mapM_ne_nil {α β : Type} {f : α → Option β} {l : List α} {vs : List β}
    (hl : l ≠ []) (h : l.mapM f = some vs) : vs ≠ [] := by
  obtain ⟨a, l, rfl⟩ := List.exists_cons_of_ne_nil hl
  simp only [List.mapM_cons, Option.bind_eq_bind, Option.bind_eq_some_iff, Option.pure_def,
    Option.some.injEq] at h
  obtain ⟨b, -, bs, -, rfl⟩ := h
  exact List.cons_ne_nil _ _

/-- A clause lists at least one value under a shape that it has. -/
theorem values_ne_nil {target t : List Char} {g : Grammar} {vs : List (List Char)}
    (h : g.values? target t = some vs) : vs ≠ [] := by
  have lists : ∀ {matched}, listValues? target matched = some vs → vs ≠ [] := by
    intro matched h
    obtain ⟨column, list, -, -, hlist⟩ := exists_of_listValues? h
    unfold literalList? at hlist
    exact mapM_ne_nil (splitFrom_ne_nil _ _ _ _ _ _) (Option.ite_none_left_eq_some.mp hlist).2
  cases g with
  | anyArray | inList | containedIn => exact lists h
  | orChain => exact mapM_ne_nil (splitFrom_ne_nil _ _ _ _ _ _) h

/-- The shapes of those given under which a clause lists values for a column. -/
def matchingIn (order : List Grammar) (column clause : String) : List Grammar :=
  order.filter fun g => (g.values? (canonicalName column.toList) (prepare clause.toList)).isSome

/-- The values that clauses list for a column when the shapes are tried in the given order. -/
def enumValuesIn (order : List Grammar) (column : String) (clauses : List String) :
    List String :=
  let target := canonicalName column.toList
  ((clauses.flatMap fun clause => order.flatMap fun g =>
    (g.values? target (prepare clause.toList)).getD []).eraseDups).map String.ofList

theorem matchingIn_all (column clause : String) :
    matchingIn Grammar.all column clause = matchingGrammars column clause := rfl

theorem enumValuesIn_all (column : String) (clauses : List String) :
    enumValuesIn Grammar.all column clauses = enumValues column clauses := rfl

section

variable {order : List Grammar} (ho : order.Perm Grammar.all) {column clause : String}
include ho

/-- Of the shapes in any order, only the one that the text has is left. -/
theorem matchingIn_of_values? {g : Grammar} {vs : List (List Char)}
    (h : g.values? (canonicalName column.toList) (prepare clause.toList) = some vs) :
    matchingIn order column clause = [g] := by
  have hcount : order.count g = 1 := by
    rw [ho.count_eq]
    cases g <;> decide
  have honly : ∀ g' ∈ order,
      (g'.values? (canonicalName column.toList) (prepare clause.toList)).isSome = (g' == g) := by
    intro g' _
    by_cases hg : g' = g
    · subst hg
      simp [h]
    · rw [beq_eq_false_iff_ne.mpr hg, Option.isSome_eq_false_iff, Option.isNone_iff_eq_none]
      refine Option.eq_none_iff_forall_ne_some.mpr fun ws hw => hg ?_
      rw [← shapeOf_of_values? hw, shapeOf_of_values? h]
  rw [matchingIn, List.filter_congr honly, List.filter_beq, hcount]
  rfl

theorem matchingIn_perm : matchingIn order column clause = matchingGrammars column clause := by
  by_cases h : ∃ g vs, Grammar.values? (canonicalName column.toList) (prepare clause.toList) g
      = some vs
  · obtain ⟨g, vs, h⟩ := h
    rw [matchingIn_of_values? ho h, ← matchingIn_all, matchingIn_of_values? (.refl _) h]
  · have hnone : ∀ order, matchingIn order column clause = [] := by
      intro order
      rw [matchingIn, List.filter_eq_nil_iff]
      intro g _ hg
      exact h ⟨g, Option.isSome_iff_exists.mp hg⟩
    rw [hnone, ← matchingIn_all, hnone]

end

/-- Shapes that do not match add nothing. -/
theorem flatMap_getD (order : List Grammar) (column clause : String) :
    (order.flatMap fun g =>
        (g.values? (canonicalName column.toList) (prepare clause.toList)).getD [])
      = (matchingIn order column clause).flatMap fun g =>
        (g.values? (canonicalName column.toList) (prepare clause.toList)).getD [] := by
  induction order with
  | nil => rfl
  | cons g order ih =>
    rw [matchingIn] at ih ⊢
    cases hg : g.values? (canonicalName column.toList) (prepare clause.toList) with
    | none => rw [List.filter_cons_of_neg (by simp [hg]), List.flatMap_cons, ih, hg]; rfl
    | some vs => rw [List.filter_cons_of_pos (by simp [hg]), List.flatMap_cons, List.flatMap_cons, ih]

theorem enumValuesIn_perm {order : List Grammar} (ho : order.Perm Grammar.all) (column : String)
    (clauses : List String) : enumValuesIn order column clauses = enumValues column clauses := by
  have hclause : ∀ clause : String,
      (order.flatMap fun g =>
          (g.values? (canonicalName column.toList) (prepare clause.toList)).getD [])
        = Grammar.all.flatMap fun g =>
          (g.values? (canonicalName column.toList) (prepare clause.toList)).getD [] := by
    intro clause
    rw [flatMap_getD, matchingIn_perm ho, ← matchingIn_all, ← flatMap_getD]
  rw [← enumValuesIn_all]
  simp only [enumValuesIn, hclause]

/-- A clause lists the values of its shape, each once. -/
theorem enumValues_of_values? {column clause : String} {g : Grammar} {vs : List (List Char)}
    (h : g.values? (canonicalName column.toList) (prepare clause.toList) = some vs) :
    enumValues column [clause] = (vs.map String.ofList).eraseDups := by
  have hall : allValues (canonicalName column.toList) (prepare clause.toList) = vs := by
    rw [allValues, flatMap_getD, matchingIn_of_values? (.refl _) h, List.flatMap_singleton, h,
      Option.getD_some]
  refine enumValues_of_allValues (hall.trans ?_)
  rw [List.map_map]
  exact ((List.map_congr_left fun v _ => String.toList_ofList).trans (List.map_id _)).symm

/-- **The shapes exclude one another**: at most one matches a clause, and one does just if the
clause lists values, which are then the values of that shape, each once. So the order in
which shapes are tried shows in no result. -/
theorem matchingGrammars_exclusive (column clause : String) :
    (matchingGrammars column clause).length ≤ 1
    ∧ (matchingGrammars column clause ≠ [] ↔ enumValues column [clause] ≠ [])
    ∧ (∀ g ∈ matchingGrammars column clause, ∃ vs,
        g.values? (canonicalName column.toList) (prepare clause.toList) = some vs
        ∧ enumValues column [clause] = (vs.map String.ofList).eraseDups)
    ∧ ∀ order : List Grammar, order.Perm Grammar.all →
        matchingIn order column clause = matchingGrammars column clause
        ∧ ∀ clauses, enumValuesIn order column clauses = enumValues column clauses := by
  have horder : ∀ order : List Grammar, order.Perm Grammar.all →
      matchingIn order column clause = matchingGrammars column clause
      ∧ ∀ clauses, enumValuesIn order column clauses = enumValues column clauses :=
    fun order ho => ⟨matchingIn_perm ho, enumValuesIn_perm ho column⟩
  have hvalues : ∀ g ∈ matchingGrammars column clause, ∃ vs,
      g.values? (canonicalName column.toList) (prepare clause.toList) = some vs := fun g hg =>
    Option.isSome_iff_exists.mp (List.mem_filter.mp hg).2
  refine ⟨?_, ⟨fun hne => ?_, fun hne hnil => ?_⟩, fun g hg => ?_, horder⟩
  · cases hmatch : matchingGrammars column clause with
    | nil => exact Nat.zero_le 1
    | cons g gs =>
      obtain ⟨vs, hvs⟩ := hvalues g (by simp [hmatch])
      rw [← hmatch, ← matchingIn_all, matchingIn_of_values? (.refl _) hvs]
      exact Nat.le_refl 1
  · obtain ⟨g, gs, hmatch⟩ := List.exists_cons_of_ne_nil hne
    obtain ⟨vs, hvs⟩ := hvalues g (by simp [hmatch])
    obtain ⟨v, vs, rfl⟩ := List.exists_cons_of_ne_nil (values_ne_nil hvs)
    simp [enumValues_of_values? hvs, List.eraseDups_cons]
  · exact hne (enumValues_of_matchingGrammars hnil)
  · obtain ⟨vs, hvs⟩ := hvalues g hg
    exact ⟨vs, hvs, enumValues_of_values? hvs⟩

theorem matchingGrammars_exclusive_status :
    [Grammar.containedIn, .orChain, .inList, .anyArray].Perm Grammar.all
      ∧ enumValuesIn [.containedIn, .orChain, .inList, .anyArray] "status"
          ["status IN ('a', 'b')", "status = 'b' OR status = 'c'"]
        = enumValues "status" ["status IN ('a', 'b')", "status = 'b' OR status = 'c'"] := by
  have hperm : [Grammar.containedIn, .orChain, .inList, .anyArray].Perm Grammar.all :=
    List.reverse_perm Grammar.all
  exact ⟨hperm, ((matchingGrammars_exclusive "status" "").2.2.2 _ hperm).2 _⟩

end ValidatorGen.Check
