/-
Where the values of a column come from. What is read as a value stands in the prepared clause
as a literal, outside of quotes but for those in the name of the column
(`standsAfter_of_values?`). When these come in pairs, **a value is a literal of the clause, word
for word**, unless a cast stands alone between two literals, which are then read as one
(`enumValues_verbatim`). A quote in the name that is alone shifts what is taken for a literal,
and values may lose casts (`not_verbatim_quotedColumn`).
-/
import ValidatorGen.Proofs.Check.Exclusive
import ValidatorGen.Proofs.Check.Passes
import ValidatorGen.Proofs.Text.Case

namespace ValidatorGen.Check

open Text

/-! ## Parts that stand outside of quotes -/

namespace StandsIn

variable {s t u : List Char}

/-- A text stands between two others, if the first of them has no quotes. -/
theorem between {a : List Char} (ha : quote ∉ a) (t b : List Char) : StandsIn t (a ++ (t ++ b)) :=
  ⟨a, b, rfl, by simp [List.count_eq_zero_of_not_mem ha]⟩

theorem tail {c : Char} (hc : c ≠ quote) (t : List Char) : StandsIn t (c :: t) :=
  append (a := [c]) (by simpa using Ne.symm hc) t

theorem dropWhile {p : Char → Bool} (hp : p quote = false) (t : List Char) :
    StandsIn (t.dropWhile p) t := by
  have hnot : quote ∉ t.takeWhile p := fun hmem => by
    have hq := List.all_eq_true.mp List.all_takeWhile _ hmem
    simp [hp] at hq
  have h := append hnot (t.dropWhile p)
  rwa [List.takeWhile_append_dropWhile] at h

theorem trimStart (t : List Char) : StandsIn (Text.trimStart t) t := dropWhile rfl t

/-- What comes after the first character of a text stands in it, blanks aside. -/
theorem of_trimStart {c : Char} (hc : c ≠ quote) (h : Text.trimStart t = c :: u) : StandsIn u t :=
  (tail hc u).trans (h ▸ trimStart t)

theorem trim (t : List Char) : StandsIn (Text.trim t) t := by
  obtain ⟨a, b, hab, ha, -⟩ := exists_append_stripWhile isBlank t
  have hnot : quote ∉ a := fun hmem => absurd (ha _ hmem) (by decide)
  have h := between hnot (Text.trim t) b
  rwa [Text.trim, ← hab] at h

theorem stripOuterParens (t : List Char) : StandsIn (Check.stripOuterParens t) t := by
  obtain ⟨a, b, hab, ha, -⟩ := exists_append_stripOuterParens t
  have hnot : quote ∉ a := fun hmem => absurd (ha _ hmem) (by decide)
  have h := between hnot (Check.stripOuterParens t) b
  rwa [← hab] at h

theorem stripWord? {word : List Char} (hw : word.all (fun w => !sameLetter w quote) = true)
    (h : Text.stripWord? word t = some u) : StandsIn u t := by
  induction word generalizing t with
  | nil => exact Option.some.inj h ▸ refl t
  | cons w word ih =>
    rw [List.all_cons, Bool.and_eq_true] at hw
    obtain ⟨c, t, rfl, hc, h⟩ := stripWord?_cons_eq_some h
    have hne : c ≠ quote := by
      rintro rfl
      simp [hc] at hw
    exact (ih hw.2 h).trans (tail hne t)

end StandsIn

/-! ## Literals -/

/-- What a literal stands for, written as a literal, is the literal. -/
theorem eq_escape_of_unescape? {t v : List Char} (h : unescape? t = some v) : t = escape v := by
  induction t using unescape?.induct generalizing v with
  | case1 => rw [← Option.some.inj h]; rfl
  | case2 => simp [unescape?] at h
  | case3 c hc =>
    rw [unescape?, if_neg hc] at h
    rw [← Option.some.inj h, escape_cons_of_ne hc]
    rfl
  | case4 rest ih =>
    simp only [unescape?, if_true, Option.map_eq_some_iff] at h
    obtain ⟨w, hw, rfl⟩ := h
    rw [escape_cons_quote, ih hw]
  | case5 d rest hd => simp [unescape?, hd] at h
  | case6 c d rest hc ih =>
    rw [unescape?, if_neg hc, Option.map_eq_some_iff] at h
    obtain ⟨w, hw, rfl⟩ := h
    rw [escape_cons_of_ne hc, ih hw]

theorem eq_of_quotedInside? {t inside : List Char} (h : quotedInside? t = some inside) :
    t = quote :: (inside ++ [quote]) := by
  cases t with
  | nil => cases h
  | cons c rest =>
    obtain ⟨hcond, hinit⟩ := Option.ite_none_right_eq_some.mp h
    rw [Bool.and_eq_true, decide_eq_true_eq, decide_eq_true_eq] at hcond
    obtain ⟨rfl, hlast⟩ := hcond
    obtain ⟨init, rfl⟩ := List.getLast?_eq_some_iff.mp hlast
    rw [List.dropLast_concat, Option.some.injEq] at hinit
    rw [hinit]

theorem StandsIn.dropIntroducer (t : List Char) : StandsIn (Check.dropIntroducer t) t := by
  unfold Check.dropIntroducer
  split
  next c d rest =>
    split
    · next h =>
      rw [Bool.and_eq_true, decide_eq_true_eq] at h
      refine StandsIn.tail ?_ _
      rintro rfl
      exact absurd h.1 (by decide)
    split
    · next h =>
      dsimp only
      split
      · exact (StandsIn.dropWhile (by simp) _).trans (StandsIn.tail (h ▸ by decide) _)
      · exact .refl _
    · exact .refl _
  · exact .refl _

/-- The value of an item is a literal of it. -/
theorem standsIn_of_literalValue? {item v : List Char} (h : literalValue? item = some v) :
    StandsIn (quoted v) item := by
  obtain ⟨inside, hinside, hvalue⟩ := Option.bind_eq_some_iff.mp h
  have hliteral : dropIntroducer (stripOuterParens item) = quoted v := by
    rw [eq_of_quotedInside? hinside, eq_escape_of_unescape? hvalue, quoted]
  rw [← hliteral]
  exact (StandsIn.dropIntroducer _).trans (.stripOuterParens item)

theorem exists_of_mem_mapM {α β : Type} {f : α → Option β} {l : List α} {vs : List β}
    (h : l.mapM f = some vs) {v : β} (hv : v ∈ vs) : ∃ a ∈ l, f a = some v := by
  induction l generalizing vs with
  | nil =>
    obtain rfl := Option.some.inj h
    cases hv
  | cons a l ih =>
    simp only [List.mapM_cons, Option.bind_eq_bind, Option.bind_eq_some_iff, Option.pure_def,
      Option.some.injEq] at h
    obtain ⟨w, hw, ws, hws, rfl⟩ := h
    rcases List.mem_cons.mp hv with rfl | hv
    · exact ⟨a, List.mem_cons_self, hw⟩
    · obtain ⟨b, hb, hfb⟩ := ih hws hv
      exact ⟨b, List.mem_cons_of_mem _ hb, hfb⟩

theorem standsIn_of_literalList? {list v : List Char} {vs : List (List Char)}
    (h : literalList? list = some vs) (hv : v ∈ vs) : StandsIn (quoted v) list := by
  unfold literalList? at h
  obtain ⟨piece, hpiece, hvalue⟩ := exists_of_mem_mapM (Option.ite_none_left_eq_some.mp h).2 hv
  exact ((standsIn_of_literalValue? hvalue).trans (standsIn_of_mem_splitTopLevel hpiece)).trans
    (.stripOuterParens list)

theorem standsIn_of_arrayList? {t list : List Char} (h : arrayList? t = some list) :
    StandsIn list t := by
  simp only [arrayList?, Option.bind_eq_some_iff, stripToken?_eq_some] at h
  obtain ⟨rest, hword, more, hopen, hlist⟩ := h
  have hmore : StandsIn list more := by
    unfold bracketedList? at hlist
    obtain ⟨b, hb, -⟩ := exists_append_dropEndWhile (fun c => c == ')' || isBlank c) more
    split at hlist
    · cases hlist
    · next c inside heq =>
      obtain ⟨-, hlist⟩ := Option.ite_none_right_eq_some.mp hlist
      refine .of_isPrefix ?_
      rw [← Option.some.inj hlist, ← heq]
      exact (List.dropLast_prefix _).trans ⟨b, hb.symm⟩
  exact ((hmore.trans (.of_trimStart (by decide) hopen)).trans
    (.stripWord? (by decide) hword)).trans (.dropWhile rfl t)

/-! ## Columns -/

section

variable {target : List Char}

/-- What comes after the column asked for. -/
theorem standsAfter_of_scanColumn? {t column rest : List Char}
    (h : scanColumn? t = some (column, rest)) (hc : canonicalName column = target) :
    StandsAfter (target.count quote) rest t := by
  rw [scanName?_eq_append h, ← hc, count_canonicalName]
  exact .append column rest

theorem standsAfter_of_equalityValue? {t v : List Char} (h : equalityValue? target t = some v) :
    StandsAfter (target.count quote) (quoted v) t := by
  obtain ⟨column, rest, more, hscan, hsign, hname, hvalue⟩ := exists_of_equalityValue? h
  have hrest : StandsIn (quoted v) rest :=
    ((standsIn_of_literalValue? hvalue).trans (.trimStart more)).trans
      (.of_trimStart (by decide) hsign)
  exact ((standsAfter_of_scanColumn? hscan hname).part hrest).within (.stripOuterParens t)

/-- **A value is a literal of the text** that it is read from, after the quotes in the name of
the column and others in pairs. -/
theorem standsAfter_of_values? {t v : List Char} {g : Grammar} {vs : List (List Char)}
    (h : g.values? target t = some vs) (hv : v ∈ vs) :
    StandsAfter (target.count quote) (quoted v) t := by
  cases g with
  | anyArray =>
    obtain ⟨column, list, hmatch, hname, hlist⟩ := exists_of_listValues? h
    obtain ⟨rest, more, after, hscan, hsign, hword, harray⟩ := exists_of_matchAnyArray? hmatch
    have hafter : StandsIn after rest :=
      ((StandsIn.stripWord? (by decide) hword).trans (.trimStart more)).trans
        (.of_trimStart (by decide) hsign)
    exact (standsAfter_of_scanColumn? hscan hname).part
      (((standsIn_of_literalList? hlist hv).trans (standsIn_of_arrayList? harray)).trans hafter)
  | inList =>
    obtain ⟨column, list, hmatch, hname, hlist⟩ := exists_of_listValues? h
    obtain ⟨rest, after, hscan, hword, hopen⟩ := exists_of_matchInList? hmatch
    have hafter : StandsIn after rest :=
      (StandsIn.stripWord? (by decide) hword).trans (.trimStart rest)
    have hinside : StandsIn list after :=
      (StandsIn.of_isPrefix (List.prefix_append list [')'])).trans (.of_trimStart (by decide) hopen)
    exact (standsAfter_of_scanColumn? hscan hname).part
      (((standsIn_of_literalList? hlist hv).trans hinside).trans hafter)
  | orChain =>
    obtain ⟨piece, hpiece, hvalue⟩ := exists_of_mem_mapM h hv
    exact (standsAfter_of_equalityValue? hvalue).within (standsIn_of_mem_splitTopLevel hpiece)
  | containedIn =>
    obtain ⟨column, list, hmatch, hname, hlist⟩ := exists_of_listValues? h
    obtain ⟨rest, more, after, hscan, hsign, hword, harray⟩ := exists_of_matchContainedIn? hmatch
    have hafter : StandsIn after rest :=
      (StandsIn.stripWord? (by decide) hword).trans (.of_trimStart (by decide) hsign)
    exact (standsAfter_of_scanColumn? hscan hname).part
      (((standsIn_of_literalList? hlist hv).trans (standsIn_of_arrayList? harray)).trans hafter)

end

/-! ## Clauses -/

theorem StandsIn.dropCheck (t : List Char) : StandsIn (Check.dropCheck t) t := by
  unfold Check.dropCheck
  split
  next a b c d e f rest =>
    split
    · next h =>
      rw [Bool.and_eq_true, decide_eq_true_eq] at h
      have hword : quote ∉ [a, b, c, d, e] := by
        intro hmem
        have hlower : quote.toLower ∈ ['c', 'h', 'e', 'c', 'k'] := h.1 ▸ List.mem_map_of_mem hmem
        exact absurd hlower (by decide)
      exact (StandsIn.trimStart _).trans (.append hword (f :: rest))
    · exact .refl _
  · exact .refl _

/-- A literal of a prepared clause comes from literals of the clause. -/
theorem exists_joined_of_prepare {clause v : List Char} (h : StandsIn (quoted v) (prepare clause)) :
    ∃ run, Joined dropCasts v run ∧ StandsIn run clause := by
  obtain ⟨run, hrun, hstands⟩ :=
    exists_joined_of_mapPlain quoteless_unwrapNames (h.trans (.stripOuterParens _))
  rw [hrun.eq_quoted fun _ => eq_nil_of_unwrapNames] at hstands
  obtain ⟨run, hrun, hstands⟩ := exists_joined_of_mapPlain quoteless_dropCasts hstands
  exact ⟨run, hrun, (hstands.trans (.dropCheck _)).trans (.trim clause)⟩

/-- What reads as a literal of a prepared clause after a quote that is alone comes from what
reads as a literal of the clause. -/
theorem exists_mapStretches_of_prepare {n : Nat} (hn : Odd n) {clause v : List Char}
    (h : StandsAfter n (quoted v) (prepare clause)) :
    ∃ w, StandsAfter n (quoted w) clause
      ∧ v = mapStretches unwrapNames (mapStretches dropCasts w) := by
  obtain ⟨u, hu, rfl⟩ :=
    exists_mapStretches_of_mapPlain quoteless_unwrapNames hn (h.within (.stripOuterParens _))
  obtain ⟨w, hw, rfl⟩ := exists_mapStretches_of_mapPlain quoteless_dropCasts hn hu
  exact ⟨w, (hw.within (.dropCheck _)).within (.trim clause), rfl⟩

/-- There is nothing but casts between two literals. -/
def CastBetweenLiterals (t : List Char) : Prop :=
  ∃ u p v, p ≠ [] ∧ quote ∉ p ∧ dropCasts p = [] ∧ StandsIn (quoted u ++ (p ++ quoted v)) t

theorem colon_mem_of_castBetweenLiterals {t : List Char} (h : CastBetweenLiterals t) : ':' ∈ t := by
  obtain ⟨u, p, v, hne, -, hcasts, hstands⟩ := h
  by_contra hmem
  have hp : ':' ∉ p := fun hp => hmem (hstands.isInfix.subset (by simp [hp]))
  have hkeep : dropCasts p = p := by simpa using dropCasts_append hp []
  exact hne (hkeep.symm.trans hcasts)

/-- What is read as one value is one literal, unless there is a cast alone between two. -/
theorem Joined.eq_or_castBetweenLiterals {v run t : List Char} (h : Joined dropCasts v run)
    (ht : StandsIn run t) : run = quoted v ∨ CastBetweenLiterals t := by
  cases h with
  | single => exact .inl rfl
  | join u hne hq hcasts hnext =>
    obtain ⟨w, more, rfl⟩ := hnext.exists_prefix
    refine .inr ⟨u, _, w, hne, hq, hcasts, StandsIn.trans (.of_isPrefix ⟨more, ?_⟩) ht⟩
    simp

/-- A value of a column stands as a literal in one of its clauses, as that is prepared. -/
theorem standsAfter_of_mem_enumValues {column v : String} {clauses : List String}
    (hv : v ∈ enumValues column clauses) : ∃ clause ∈ clauses,
      StandsAfter (column.toList.count quote) (quoted v.toList) (prepare clause.toList) := by
  rw [enumValues, List.mem_map] at hv
  obtain ⟨w, hw, rfl⟩ := hv
  obtain ⟨clause, hclause, hw⟩ := List.mem_flatMap.mp (List.mem_eraseDups.mp hw)
  obtain ⟨g, -, hw⟩ := List.mem_flatMap.mp hw
  refine ⟨clause, hclause, ?_⟩
  cases hvalues : g.values? (canonicalName column.toList) (prepare clause.toList) with
  | none =>
    rw [hvalues] at hw
    cases hw
  | some vs =>
    rw [hvalues, Option.getD_some] at hw
    rw [String.toList_ofList, ← count_canonicalName]
    exact standsAfter_of_values? hvalues hw

/-- **The values of a column are literals of its clauses.** When the quotes in the name of the
column come in pairs, a value is read from literals of a clause with nothing but casts between
them, and so from a single one, word for word, if the clause has no cast alone between two
literals. When one quote in the name is alone, the literals of a clause are taken for the
text between them: a value is read from a single one, but casts in it are dropped and names in
it taken out of parentheses. -/
theorem enumValues_verbatim (column : String) (clauses : List String) :
    ∀ v ∈ enumValues column clauses, ∃ clause ∈ clauses,
      (Even (column.toList.count quote) →
        (∃ run, Joined dropCasts v.toList run ∧ StandsIn run clause.toList)
        ∧ (¬ CastBetweenLiterals clause.toList → StandsIn (quoted v.toList) clause.toList))
      ∧ (Odd (column.toList.count quote) → ∃ w, quoted w <:+: clause.toList
        ∧ v.toList = mapStretches unwrapNames (mapStretches dropCasts w)) := by
  intro v hv
  obtain ⟨clause, hclause, hv⟩ := standsAfter_of_mem_enumValues hv
  refine ⟨clause, hclause, fun heven => ?_, fun hodd => ?_⟩
  · obtain ⟨run, hrun, hstands⟩ := exists_joined_of_prepare (hv.standsIn heven)
    refine ⟨⟨run, hrun, hstands⟩, fun hnone => ?_⟩
    rcases hrun.eq_or_castBetweenLiterals hstands with rfl | hcast
    · exact hstands
    · exact absurd hcast hnone
  · obtain ⟨w, hstands, hw⟩ := exists_mapStretches_of_prepare hodd hv
    exact ⟨w, hstands.isInfix, hw⟩

theorem enumValues_verbatim_status :
    "it's" ∈ enumValues "status" ["CHECK ((status) IN ('a', 'it''s'))"]
      ∧ Even ("status".toList.count quote)
      ∧ ¬ CastBetweenLiterals "CHECK ((status) IN ('a', 'it''s'))".toList
      ∧ StandsIn (quoted "it's".toList) "CHECK ((status) IN ('a', 'it''s'))".toList := by
  have hmem : "it's" ∈ enumValues "status" ["CHECK ((status) IN ('a', 'it''s'))"] := by
    decide +kernel
  have heven : Even ("status".toList.count quote) := by decide
  have hnone : ¬ CastBetweenLiterals "CHECK ((status) IN ('a', 'it''s'))".toList := fun h =>
    absurd (colon_mem_of_castBetweenLiterals h) (by decide)
  obtain ⟨clause, hclause, hread, -⟩ := enumValues_verbatim "status" _ "it's" hmem
  obtain rfl := List.mem_singleton.mp hclause
  exact ⟨hmem, heven, hnone, (hread heven).2 hnone⟩

/-- The quote in the name of this column is taken for the start of a literal, so that the value
of the clause loses its cast; and literals with a cast alone between them are read as one. -/
theorem not_verbatim_quotedColumn :
    (¬ ∀ (column : String) (clauses : List String), ∀ v ∈ enumValues column clauses,
        ∃ clause ∈ clauses, quoted v.toList <:+: clause.toList)
      ∧ enumValues "it's" ["\"it's\" IN ('a::text')"] = ["a"]
      ∧ enumValues "kind" ["kind = 'a'::text'b'"] = ["a'b"] := by
  have hcast : enumValues "it's" ["\"it's\" IN ('a::text')"] = ["a"] := by decide +kernel
  refine ⟨fun h => ?_, hcast, by decide +kernel⟩
  obtain ⟨clause, hclause, hinfix⟩ := h "it's" ["\"it's\" IN ('a::text')"] "a" (by simp [hcast])
  obtain rfl := List.mem_singleton.mp hclause
  revert hinfix
  decide +kernel

end ValidatorGen.Check
