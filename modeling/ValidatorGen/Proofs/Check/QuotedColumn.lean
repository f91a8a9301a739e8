/-
Columns between double quotes. A name may have spaces, parentheses, colons and words there, but
the passes over a clause and the splitter look for single quotes only. So **a printed enumeration
is read back from a quoted column just if nothing in the name is taken for a part of the clause**
(`enumValues_doubleQuoted`): no cast, no name in parentheses, no parenthesis that has no partner
and, among alternatives, no word `or` (`Inert`). Otherwise nothing is read at all.
-/
import ValidatorGen.Proofs.Check.Depth
import ValidatorGen.Proofs.Check.Plain
import ValidatorGen.Proofs.Check.QuotedName

namespace ValidatorGen.Check

open Text

/-- Nothing in the name is taken for a part of a clause of the given shape. -/
structure Inert (g : Grammar) (name : List Char) : Prop where
  casts : dropCasts name = name
  names : unwrapNames name = name
  parens : depthAfter? 0 name = some 0
  uncut : g = .orChain → splitTopLevel .orWord name = [name]

instance (g : Grammar) (name : List Char) : Decidable (Inert g name) :=
  decidable_of_iff (dropCasts name = name ∧ unwrapNames name = name
      ∧ depthAfter? 0 name = some 0 ∧ (g = .orChain → splitTopLevel .orWord name = [name]))
    ⟨fun ⟨casts, names, parens, uncut⟩ => ⟨casts, names, parens, uncut⟩,
      fun ⟨casts, names, parens, uncut⟩ => ⟨casts, names, parens, uncut⟩⟩

/-! ## A column in which nothing is taken for a part of the clause -/

section

variable {name : List Char} (hq : Quotable name)
include hq

theorem Quotable.onlyParens : OnlyParens name := by
  intro c hc
  have hmark : ∀ m : Char, isNameQuote m = true → c ≠ m := by
    rintro m hm rfl
    rw [hq.mark c hc] at hm
    cases hm
  refine ⟨?_, hmark '[' rfl, hmark ']' rfl⟩
  rintro rfl
  exact hq.quote hc

theorem columnText_doubleQuoted (hparens : depthAfter? 0 name = some 0) :
    ColumnText (NameStyle.doubleQuoted.write name) where
  solid := {
    nested := .plain rfl ((nested_of_depthAfter? hq.onlyParens hparens).append (.plain rfl .nil))
    tight := tight_doubleQuoted name
    head := by simp [NameStyle.write]
    ne_nil := by simp [NameStyle.write] }
  scan rest := by
    rw [NameStyle.write, List.cons_append, List.append_assoc]
    exact scanQuotedName?_of_not_mem '"' hq.ne_nil hq.doubleQuote (' ' :: rest)

theorem uncutColumn_doubleQuoted (hparens : depthAfter? 0 name = some 0)
    (hcut : splitTopLevel .orWord name = [name]) :
    UncutColumn .orWord (NameStyle.doubleQuoted.write name) := by
  intro rest before
  have hdepth : depthFrom 0 name = 0 := depthFrom_of_depthAfter? hq.onlyParens hparens
  rcases splitFrom_append_mark hq.quote 0 none (' ' :: rest) with
    ⟨-, after, hall⟩ | ⟨hne, -⟩
  · refine ⟨none, ?_⟩
    rw [NameStyle.write, List.cons_append, List.append_assoc, List.singleton_append,
      splitFrom_mark, hall, hdepth, splitFrom_mark, List.foldr_cons, List.foldr_append]
    rfl
  · exact absurd hcut hne

/-- Before a column whose name has no casts there is none after it either. -/
theorem rewrites_dropCasts_doubleQuoted (hcasts : dropCasts name = name) :
    Rewrites dropCasts (fun _ => NameStyle.doubleQuoted.write name)
      (fun _ => NameStyle.doubleQuoted.write name) := by
  intro s hs _ m _
  constructor
  case quote =>
    simp [hs.quote, NameStyle.write, hq.quote, List.mem_replicate, show quote ≠ '(' by decide,
      show quote ≠ '"' by decide, show quote ≠ ' ' by decide]
  case eq =>
    intro p hp
    have hopen : ':' ∉ s ++ (List.replicate m '(' ++ ['"']) := by
      simp [hs.colon, List.mem_replicate]
    rcases keepsOrLoses_dropCasts hq.doubleQuote hp.colon with ⟨-, hall⟩ | ⟨hlose, -⟩
    · have h := dropCasts_append hopen (name ++ '"' :: ' ' :: p)
      rw [hall] at h
      simpa [NameStyle.write] using h
    · exact absurd hcasts hlose

theorem rewrites_unwrapNames_doubleQuoted (hnames : unwrapNames name = name) :
    Rewrites unwrapNames (fun _ => NameStyle.doubleQuoted.write name)
      (fun _ => NameStyle.doubleQuoted.write name) := by
  intro s hs _ m _
  constructor
  case quote =>
    simp [hs.quote, NameStyle.write, hq.quote, List.mem_replicate, show quote ≠ '(' by decide,
      show quote ≠ '"' by decide, show quote ≠ ' ' by decide]
  case eq =>
    intro p hp
    have hrest : ')' ∉ '"' :: ' ' :: p := by simp [hp.paren]
    have hclosed : ¬ ['"', ')'].Sublist (name ++ '"' :: ' ' :: p) := fun hsub =>
      absurd ((sublist_of_cons_sublist hq.doubleQuote hsub).subset List.mem_cons_self)
        (by simp [hp.paren])
    have hwrapped : KeepsOrLoses (unwrapFrom true 0) name ('"' :: ' ' :: p) :=
      keepsOrLoses_unwrapFrom hrest true
    rcases hwrapped with ⟨-, hall⟩ | ⟨hlose, -⟩
    · have h := unwrapFrom_before hs.paren hclosed m true
      rw [hall] at h
      have hpass : unwrapPass (s ++ (List.replicate m '(' ++ '"' :: (name ++ '"' :: ' ' :: p)))
          = s ++ (List.replicate m '(' ++ '"' :: (name ++ '"' :: ' ' :: p)) := h
      simpa [NameStyle.write] using unwrapNames_of_unwrapPass hpass
    · exact absurd (unwrapPass_of_unwrapNames hnames) hlose

end

/-! ## What the passes leave of a clause -/

/-- What is left of a clause before the parentheses around it are taken off. -/
def passed (clause : List Char) : List Char :=
  mapPlain unwrapNames (mapPlain dropCasts (dropCheck (trim clause)))

theorem prepare_eq (clause : List Char) : prepare clause = stripOuterParens (passed clause) := rfl

section

variable {name : List Char} (hq : Quotable name) (g : Grammar) (first : String)
  (others : List String)
include hq

/-- The text of a plain clause in parentheses is left as it is when the name is. -/
theorem passed_of_kept (hcasts : dropCasts name = name) (hnames : unwrapNames name = name) :
    passed ((Clause.plain g first others).text (NameStyle.doubleQuoted.write name))
      = inParens 1 (plainText g first others (NameStyle.doubleQuoted.write name)) := by
  have hdrop := mapPlain_fill keeps_dropCasts (rewrites_dropCasts_doubleQuoted hq hcasts)
    (.plain first others g) 1
  have hunwrap := mapPlain_fill keeps_unwrapNames (rewrites_unwrapNames_doubleQuoted hq hnames)
    (.plain first others g) 1
  rw [fill_plain] at hdrop hunwrap
  rw [passed, dropCheck_plain, hdrop, hunwrap]

theorem values?_of_inert (h : Inert g name) :
    g.values? (canonicalName name)
        (prepare ((Clause.plain g first others).text (NameStyle.doubleQuoted.write name)))
      = some ((first :: others).map String.toList) := by
  have hcolumn := columnText_doubleQuoted hq h.parens
  have hpassed := passed_of_kept hq g first others h.casts h.names
  have hname : canonicalName (NameStyle.doubleQuoted.write name) = canonicalName name := by
    rw [canonicalName_doubleQuoted hq.ne_nil hq.mark, hq.canonicalName_eq]
  rw [prepare_eq, hpassed, (solid_plainText hcolumn g first others).stripOuterParens_eq, ← hname]
  exact values?_plainText hcolumn
    (fun hg => uncutColumn_doubleQuoted hq h.parens (h.uncut hg)) first others

/-- The text before the first literal is changed by itself. -/
theorem exists_passed : ∃ s more, Opening s ∧ '"' ∉ s ∧
    passed ((Clause.plain g first others).text (NameStyle.doubleQuoted.write name))
      = unwrapNames (dropCasts ('(' :: '"' :: (name ++ '"' :: ' ' :: s))) ++ quote :: more := by
  obtain ⟨s, more, hs, hmark, hlead⟩ :=
    exists_lead g first others (NameStyle.doubleQuoted.write name)
  have hform : inParens 1 (plainText g first others (NameStyle.doubleQuoted.write name))
      = '(' :: '"' :: (name ++ '"' :: ' ' :: s) ++ quote :: more := by
    rw [hlead]
    simp [NameStyle.write]
  have hquote : quote ∉ '(' :: '"' :: (name ++ '"' :: ' ' :: s) := by
    simp [hq.quote, hs.quote, show quote ≠ '(' by decide, show quote ≠ '"' by decide,
      show quote ≠ ' ' by decide]
  have hdrop := mapFrom_append_quote quoteless_dropCasts hquote false more
  have hunwrap := mapFrom_append_quote quoteless_unwrapNames
    (quoteless_dropCasts.quote hquote) false (mapFrom dropCasts true more)
  refine ⟨s, mapFrom unwrapNames true (mapFrom dropCasts true more), hs, hmark, ?_⟩
  rw [passed, dropCheck_plain, hform]
  exact (congrArg (mapPlain unwrapNames) hdrop).trans hunwrap

/-- The column of which something is read stands before the first literal. -/
theorem exists_body_of_values? {g' : Grammar} {t more : List Char} {vs : List (List Char)}
    (h : g'.values? (canonicalName name) (stripOuterParens ('(' :: '"' :: t ++ quote :: more))
      = some vs) :
    ∃ body, body ≠ [] ∧ body ++ ['"'] <+: t
      ∧ canonicalName (NameStyle.doubleQuoted.write body) = canonicalName name := by
  obtain ⟨a, b, u, column, rest, htext, ha, hscan, hname⟩ := exists_column_of_values? h
  obtain ⟨-, body, hne, hbody, rfl, hcolumn⟩ := exists_of_scanColumn?_mark htext ha hscan
  have hcount : (NameStyle.doubleQuoted.write body).count quote = 0 := by
    rw [← count_canonicalName, hname, count_canonicalName]
    exact List.count_eq_zero.mpr hq.quote
  have hinside : quote ∉ body ++ ['"'] := fun hmem =>
    List.count_eq_zero.mp hcount (List.mem_cons_of_mem _ hmem)
  have hform : (body ++ ['"']) ++ (rest ++ b) = t ++ quote :: more := by
    rw [List.append_assoc]
    exact hcolumn.symm
  exact ⟨body, hne, prefix_of_append_cons hinside hform, hname⟩

/-- If anything is read of a clause, the passes have left the name as it is. -/
theorem kept_of_values? {g' : Grammar} {vs : List (List Char)}
    (h : g'.values? (canonicalName name)
      (prepare ((Clause.plain g first others).text (NameStyle.doubleQuoted.write name)))
        = some vs) : dropCasts name = name ∧ unwrapNames name = name := by
  obtain ⟨s, more, hs, hmark, hpassed⟩ := exists_passed hq g first others
  rcases unwrapNames_dropCasts hq.doubleQuote hs.paren hs.colon with
    ⟨hcasts, hnames, -⟩ | ⟨left, t, hleft, hlen, ht, hsub⟩
  · exact ⟨hcasts, hnames⟩
  -- otherwise the column has a shorter name than the one asked for
  rw [prepare_eq, hpassed, ht] at h
  obtain ⟨body, hne, hstart, hname⟩ := exists_body_of_values? hq h
  have hpart : body.Sublist left :=
    sublist_of_sublist_concat (by simp [hmark]) (hstart.sublist.trans hsub)
  rw [canonicalName_doubleQuoted hne fun c hc => hq.mark c ((hpart.trans hleft).subset hc),
    hq.canonicalName_eq] at hname
  obtain rfl := eq_of_sublist_of_lowercase (hpart.trans hleft) hname
  exact absurd hpart.length_le (Nat.not_le_of_lt hlen)

/-! ## Parentheses without a partner, and cuts -/

/-- A name that leaves parentheses open leaves them open in the clause. -/
theorem climbs_plainText {k : Nat} (h : depthAfter? 0 name = some (k + 1)) :
    ∃ l, 0 < l ∧ Climbs (plainText g first others (NameStyle.doubleQuoted.write name)) l := by
  have hmark : Nested ['"'] := .plain rfl .nil
  have hname := climbs_of_depthAfter? hq.onlyParens h
  have hcolumn : Climbs (NameStyle.doubleQuoted.write name) (k + 1) := by
    simpa [NameStyle.write] using hmark.climbs.append (hname.append hmark.climbs)
  have hafter : ∀ {t : List Char}, Nested t →
      Climbs (NameStyle.doubleQuoted.write name ++ t) (k + 1) := fun ht =>
    hcolumn.append ht.climbs
  have hequal : ∀ v, Climbs (plainEquality (NameStyle.doubleQuoted.write name) v) (k + 1) :=
    fun v => hafter (.plain rfl (.plain rfl (.plain rfl (Item.ofValue v).nested_text)))
  have hlist := nested_itemList (.ofValue first) (others.map .ofValue)
  have harray := solid_arrayText capitalArray hlist
  cases g with
  | anyArray =>
    exact ⟨k + 1, Nat.succ_pos k,
      hafter (.plain rfl (.plain rfl (.plain rfl (solid_any capitalAny harray.nested).nested)))⟩
  | inList =>
    exact ⟨k + 1, Nat.succ_pos k,
      hafter (.plain rfl (.plain rfl (.plain rfl (.plain rfl hlist.inPair))))⟩
  | orChain =>
    have hothers : ∀ p ∈ others.map fun v =>
        (['O', 'R'], plainEquality (NameStyle.doubleQuoted.write name) v),
        Nested p.1 ∧ ∃ l, Climbs p.2 l := by
      intro p hp
      obtain ⟨v, -, rfl⟩ := List.mem_map.mp hp
      exact ⟨.of_all_plain (t := ['O', 'R']) (by decide), k + 1, hequal v⟩
    obtain ⟨l, hl, hclimbs⟩ := climbs_orList (hequal first) hothers
    exact ⟨l, by omega, hclimbs⟩
  | containedIn =>
    exact ⟨k + 1, Nat.succ_pos k,
      hafter (.plain rfl (.plain rfl (.plain rfl (.plain rfl harray.nested))))⟩

/-- A name that closes a parenthesis it did not open ends the pair before it. -/
theorem outerParens?_of_quoted (h : depthAfter? 0 name = none) (rest : List Char) :
    outerParens? ('(' :: '"' :: (name ++ '"' :: rest)) = none := by
  have hmild : OnlyParens ('"' :: name) := by
    intro c hc
    rcases List.mem_cons.mp hc with rfl | hc
    · decide
    · exact hq.onlyParens c hc
  have hdepth : depthAfter? 0 ('"' :: name) = none := by
    rwa [depthAfter?_cons_of_ne (by decide) (by decide)]
  exact outerParens?_of_depthAfter?_eq_none hmild hdepth (List.cons_ne_nil '"' rest)

/-- Nothing that a clause in such a pair starts with is an alternative. -/
theorem equalityValue?_of_quotedStart (h : depthAfter? 0 name = none) {u rest : List Char}
    (hu : u <+: '(' :: '"' :: (name ++ '"' :: rest)) (target : List Char) :
    equalityValue? target u = none := by
  refine Option.eq_none_iff_forall_ne_some.mpr fun v hv => ?_
  obtain ⟨z, hz⟩ := hu
  obtain ⟨column, more, -, hscan, -⟩ := exists_of_equalityValue? hv
  obtain ⟨a, b, hab, ha, -⟩ := exists_append_stripOuterParens u
  have htext : '(' :: '"' :: (name ++ '"' :: rest) = a ++ (stripOuterParens u ++ (b ++ z)) := by
    rw [← hz]
    conv_lhs => rw [hab]
    simp only [List.append_assoc]
  obtain ⟨rfl, body, -, hbody, rfl, hcolumn⟩ := exists_of_scanColumn?_mark htext ha hscan
  obtain ⟨rfl, -⟩ := append_cons_inj hq.doubleQuote hbody hcolumn
  -- it starts like the clause, with the parenthesis, and is in no pair either
  have hstart : u = ('(' :: '"' :: name) ++ '"' :: (more ++ b) := by
    rw [hab, scanName?_eq_append hscan]
    simp [NameStyle.write]
  obtain ⟨w, hw⟩ := exists_trim_eq (s := '(' :: '"' :: name) (d := '"')
    (fun c hc => Option.some.inj hc ▸ rfl) rfl (more ++ b)
  rw [← hstart] at hw
  have hstrip : stripOuterParens u = trim u :=
    stripOuterParens_of_trim (by rw [hw]; exact outerParens?_of_quoted hq h w)
  rw [hstrip, hw] at hscan
  cases hscan

/-- A clause that is in no pair of parentheses as a whole, since one closes in the name. -/
theorem values?_of_depthAfter?_eq_none (h : depthAfter? 0 name = none) (target : List Char)
    (g' : Grammar) : g'.values? target (stripOuterParens
      (inParens 1 (plainText g first others (NameStyle.doubleQuoted.write name)))) = none := by
  obtain ⟨s, more, -, -, hlead⟩ := exists_lead g first others (NameStyle.doubleQuoted.write name)
  have hform : inParens 1 (plainText g first others (NameStyle.doubleQuoted.write name))
      = '(' :: '"' :: (name ++ '"' :: ' ' :: (s ++ quote :: more)) := by
    rw [hlead]
    simp [NameStyle.write]
  have htight : Tight ('(' :: '"' :: (name ++ '"' :: ' ' :: (s ++ quote :: more))) :=
    hform ▸ tight_inPair _
  rw [hform, stripOuterParens_of_tight htight (outerParens?_of_quoted hq h _)]
  by_cases hg : g' = .orChain
  · subst hg
    refine Option.eq_none_iff_forall_ne_some.mpr fun vs hvs => ?_
    obtain ⟨u, v, hu, hv⟩ := exists_first_of_orChain hvs
    rw [equalityValue?_of_quotedStart hq h hu] at hv
    cases hv
  · exact values?_open target _ hg

omit hq in
/-- An equality with a literal is an alternative. -/
theorem shapeOf_equality {column : List Char} (hc : ColumnText column) (rest : List Char) :
    shapeOf (column ++ ' ' :: '=' :: ' ' :: quote :: rest) = .orChain := by
  rw [shapeOf, hc.scan]
  simp [trimStart_blank_cons (show isBlank '=' = false from rfl),
    trimStart_blank_cons (show isBlank quote = false from rfl),
    show sameLetter 'a' quote = false by decide]

/-- A name that is cut at the word `or` is not read from alternatives. -/
theorem values?_of_cut (hparens : depthAfter? 0 name = some 0)
    (hne : splitTopLevel .orWord name ≠ [name]) (target : List Char) (g' : Grammar) :
    g'.values? target (plainText .orChain first others (NameStyle.doubleQuoted.write name))
      = none := by
  obtain ⟨more, hform⟩ := plainText_orChain first others (NameStyle.doubleQuoted.write name)
  refine Option.eq_none_iff_forall_ne_some.mpr fun vs hvs => ?_
  rw [hform] at hvs
  obtain rfl : .orChain = g' :=
    (shapeOf_equality (columnText_doubleQuoted hq hparens) more).symm.trans (shapeOf_of_values? hvs)
  rcases splitFrom_append_mark hq.quote 0 none (' ' :: '=' :: ' ' :: quote :: more) with
    ⟨hwhole, -⟩ | ⟨-, p, ps, hcut, hp⟩
  · exact hne hwhole
  rw [Grammar.values?, splitTopLevel, NameStyle.write, List.cons_append, List.append_assoc,
    List.singleton_append, splitFrom_mark, hcut, consHead, List.mapM_cons] at hvs
  -- the column is enclosed, but its name ends the first piece
  obtain ⟨v, hv, -⟩ := Option.bind_eq_some_iff.mp hvs
  obtain ⟨column, rest, -, hscan, -⟩ := exists_of_equalityValue? hv
  rw [stripOuterParens_of_start rfl (by decide)] at hscan
  obtain ⟨body, -, -, -, hbody⟩ :=
    exists_of_scanQuotedName? (hscan : scanQuotedName? '"' '"' (trimEnd p) = _)
  obtain ⟨blanks, htrim, -⟩ := exists_append_dropEndWhile isBlank p
  refine hq.doubleQuote (hp.subset ?_)
  rw [htrim, ← trimEnd, hbody]
  simp

/-! ## What is read -/

/-- Something is read of a clause only if nothing in the name is taken for a part of it. -/
theorem inert_of_values? {g' : Grammar} {vs : List (List Char)}
    (h : g'.values? (canonicalName name)
      (prepare ((Clause.plain g first others).text (NameStyle.doubleQuoted.write name)))
        = some vs) : Inert g name := by
  obtain ⟨hcasts, hnames⟩ := kept_of_values? hq g first others h
  rw [prepare_eq, passed_of_kept hq g first others hcasts hnames] at h
  cases hdepth : depthAfter? 0 name with
  | none =>
    rw [values?_of_depthAfter?_eq_none hq g first others hdepth] at h
    cases h
  | some k =>
    cases k with
    | succ k =>
      obtain ⟨l, hl, hclimbs⟩ := climbs_plainText hq g first others hdepth
      have hnone := hclimbs.values?_eq_none hl (canonicalName name) g'
      rw [inParens, inParens, hnone] at h
      cases h
    | zero =>
      refine ⟨hcasts, hnames, hdepth, fun hg => ?_⟩
      subst hg
      by_contra hne
      have hsolid := solid_plainText (columnText_doubleQuoted hq hdepth) .orChain first others
      rw [hsolid.stripOuterParens_eq, values?_of_cut hq first others hdepth hne] at h
      cases h

end

/-- **A printed enumeration is read back from a column between double quotes** just if nothing in
its name is taken for a part of the clause; otherwise nothing is read. -/
theorem enumValues_doubleQuoted (g : Grammar) {name : String} (hq : Quotable name.toList)
    {vs : List String} (hne : vs ≠ []) :
    enumValues name [printClause g ("\"" ++ name ++ "\"") vs]
      = if Inert g name.toList then vs.eraseDups else [] := by
  obtain ⟨first, others, rfl⟩ := List.exists_cons_of_ne_nil hne
  have hcolumn : ("\"" ++ name ++ "\"").toList = NameStyle.doubleQuoted.write name.toList := by
    simp [NameStyle.write]
  have htext : (printClause g ("\"" ++ name ++ "\"") (first :: others)).toList
      = (Clause.plain g first others).text (NameStyle.doubleQuoted.write name.toList) := by
    rw [← print_plain, Clause.print, String.toList_ofList, hcolumn]
  split
  · next h =>
    have hvalues := values?_of_inert hq g first others h
    rw [← htext] at hvalues
    rw [enumValues_of_values? hvalues, List.map_map]
    congr 1
    exact (List.map_congr_left fun v _ => String.ofList_toList).trans (List.map_id _)
  · next h =>
    refine enumValues_eq_nil fun g' => Option.eq_none_iff_forall_ne_some.mpr fun vs hvs => h ?_
    rw [htext] at hvs
    exact inert_of_values? hq g first others hvs

example : Inert .inList "ship or bill".toList ∧ ¬ Inert .orChain "ship or bill".toList := by
  decide +kernel

/-- A name with blanks, words, colons and parentheses that are not around a single word. -/
def priceColumn : String := "price (net, in USD): 12:30 or later"

theorem enumValues_doubleQuoted_price :
    Quotable priceColumn.toList ∧ ["it's", "a' OR 'b", "it's"] ≠ [] ∧
      enumValues priceColumn
          [printClause .inList ("\"" ++ priceColumn ++ "\"") ["it's", "a' OR 'b", "it's"]]
        = ["it's", "a' OR 'b", "it's"].eraseDups := by
  have hq : Quotable priceColumn.toList := by decide +kernel
  have hne : ["it's", "a' OR 'b", "it's"] ≠ [] := by simp
  have hread := enumValues_doubleQuoted .inList hq hne
  rw [if_pos (by decide +kernel)] at hread
  exact ⟨hq, hne, hread⟩

/-- The parentheses around a word of this name are taken off, and the column is not found. -/
theorem not_read_price :
    (¬ ∀ (g : Grammar) (name : String), Quotable name.toList → ∀ vs : List String, vs ≠ [] →
        enumValues name [printClause g ("\"" ++ name ++ "\"") vs] = vs.eraseDups)
      ∧ enumValues "price (usd)" ["CHECK (\"price (usd)\" IN ('a', 'b'))"] = []
      ∧ enumValues "a::text" ["CHECK (\"a::text\" IN ('a', 'b'))"] = []
      ∧ enumValues "f(x" ["CHECK (\"f(x\" IN ('a', 'b'))"] = []
      ∧ enumValues "ship or bill"
          ["CHECK (\"ship or bill\" = 'a' OR \"ship or bill\" = 'b')"] = [] := by
  refine ⟨fun h => ?_, by decide +kernel, by decide +kernel, by decide +kernel, by decide +kernel⟩
  have hq : Quotable "price (usd)".toList := by decide +kernel
  have hread := h .inList "price (usd)" hq ["a", "b"] (by simp)
  revert hread
  decide +kernel

end ValidatorGen.Check
