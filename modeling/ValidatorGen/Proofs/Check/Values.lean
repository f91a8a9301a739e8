/-
The values that a prepared text of a shape lists, shape by shape: those of its items when
the column is the one asked for (`listed`), and under no other shape any
(`values?_anyText`, `values?_inText`, `values?_containedText`, `values?_chainText`).
-/
import ValidatorGen.Proofs.Check.Shape

namespace ValidatorGen.Check

open Text

/-- The values, if the column is the one asked for. -/
def listed {α : Type} (target name : List Char) (values : α) : Option α :=
  if name.map Char.toLower = target then some values else none

/-- The values that a prepared clause lists, in all shapes. -/
def allValues (target prepared : List Char) : List (List Char) :=
  Grammar.all.flatMap fun g => (g.values? target prepared).getD []

theorem map_eraseDups {α β : Type} [BEq α] [LawfulBEq α] [BEq β] [LawfulBEq β] {f : α → β}
    (hf : ∀ a b, f a = f b → a = b) (l : List α) : (l.map f).eraseDups = l.eraseDups.map f := by
  match l with
  | [] => rfl
  | a :: l =>
    have hfilter : (l.map f).filter (fun b => !b == f a) = (l.filter fun b => !b == a).map f := by
      rw [List.filter_map]
      congr 2
      funext b
      have hiff : (f b == f a) = (b == a) := by
        rw [Bool.eq_iff_iff, beq_iff_eq, beq_iff_eq]
        exact ⟨hf b a, fun h => h ▸ rfl⟩
      simp only [Function.comp_apply, hiff]
    rw [List.map_cons, List.eraseDups_cons, hfilter, map_eraseDups hf, List.eraseDups_cons,
      List.map_cons]
termination_by l.length
decreasing_by exact Nat.lt_succ_of_le (List.length_filter_le _ _)

/-- What is extracted from one clause. -/
theorem enumValues_of_allValues {column clause : String} {vs : List String}
    (h : allValues (canonicalName column.toList) (prepare clause.toList) = vs.map String.toList) :
    enumValues column [clause] = vs.eraseDups := by
  have hback : (vs.eraseDups.map String.toList).map String.ofList = vs.eraseDups := by
    rw [List.map_map]
    exact (List.map_congr_left fun v _ => String.ofList_toList).trans (List.map_id _)
  have hclause : clauseValues (canonicalName column.toList) clause.toList
      = vs.map String.toList := h
  rw [enumValues, List.flatMap_singleton, hclause,
    map_eraseDups (fun _ _ => String.toList_injective), hback]

theorem allValues_of_grammar {target t : List Char} {g₀ : Grammar}
    {values : Option (List (List Char))}
    (h : ∀ g : Grammar, g.values? target t = if g = g₀ then values else none) :
    allValues target t = values.getD [] := by
  cases g₀ <;> simp [allValues, Grammar.all, h]

theorem allValues_of_none {target t : List Char}
    (h : ∀ g : Grammar, g.values? target t = none) : allValues target t = [] := by
  simp [allValues, Grammar.all, h]

theorem enumValues_eq_nil {column clause : String}
    (h : ∀ g : Grammar, g.values? (canonicalName column.toList) (prepare clause.toList) = none) :
    enumValues column [clause] = [] := by
  have hall : allValues (canonicalName column.toList) (prepare clause.toList)
      = ([] : List String).map String.toList := allValues_of_none h
  rw [enumValues_of_allValues hall, List.eraseDups_nil]

/-- A text that starts like no literal is none. -/
theorem literalValue?_of_head {c : Char} {rest : List Char} (h : Solid (c :: rest))
    (hq : c ≠ quote) (hN : c ≠ 'N') (hn : c ≠ 'n') (hu : c ≠ '_') :
    literalValue? (c :: rest) = none := by
  have hstrip : stripOuterParens (c :: rest) = c :: rest := h.stripOuterParens_eq 0
  have hdrop : dropIntroducer (c :: rest) = c :: rest := by
    cases rest <;> simp [dropIntroducer, hN, hn, hu]
  have hinside : quotedInside? (c :: rest) = none := by simp [quotedInside?, hq]
  rw [literalValue?, hstrip, hdrop, hinside, Option.bind_none]

/-- `ANY (…)` is no literal. -/
theorem literalValue?_any (any : Spelling "any") {array : List Char} (ha : Nested array) :
    literalValue? (any.text ++ ' ' :: '(' :: (array ++ [')'])) = none := by
  have hs := solid_any any ha
  obtain ⟨c, t, ht, hc, -⟩ := List.map_eq_cons_iff.mp
    (any.lower.trans (show "any".toList = 'a' :: ['n', 'y'] from rfl))
  have hne : ∀ d : Char, d.toLower ≠ 'a' → c ≠ d := by
    rintro d hd rfl
    exact hd hc
  rw [ht, List.cons_append] at hs ⊢
  exact literalValue?_of_head hs (hne _ (by decide)) (hne _ (by decide)) (hne _ (by decide))
    (hne _ (by decide))

/-- A text that is not cut and no equality has no values as a chain. -/
theorem orChain_values?_eq_none {target t : List Char} (hu : Uncut .orWord t [])
    (h : equalityValue? target t = none) : Grammar.orChain.values? target t = none := by
  rw [Grammar.values?, splitTopLevel_of_uncut hu, List.mapM_cons, h]
  rfl

theorem equalityValue?_eq_none_of_orChain {target t : List Char} (hu : Uncut .orWord t [])
    (h : Grammar.orChain.values? target t = none) : equalityValue? target t = none := by
  rw [Grammar.values?, splitTopLevel_of_uncut hu, List.mapM_cons] at h
  cases hv : equalityValue? target t with
  | none => rfl
  | some v =>
    rw [hv] at h
    cases h

theorem equalityValue?_of_solid {target t : List Char} (hs : Solid t)
    (h : matchEquality? t = none) : equalityValue? target t = none := by
  have hstrip : stripOuterParens t = t := hs.stripOuterParens_eq 0
  rw [equalityValue?, hstrip, h]
  rfl

/-- Alternatives are looked at one by one. -/
theorem mapM_equalityValue?_orList (target t : List Char) (ts : List (List Char × List Char))
    (hw : ∀ p ∈ ts, p.1.map Char.toLower = ['o', 'r'])
    (h : ∀ u ∈ t :: ts.map Prod.snd, ∀ rest, rest = [] ∨ rest.head? = some ' ' →
      Uncut .orWord u rest) :
    (splitTopLevel .orWord (orList t ts)).mapM (equalityValue? target)
      = (t :: ts.map Prod.snd).mapM (equalityValue? target) := by
  have hfactor : ∃ f, equalityValue? target = f ∘ stripOuterParens :=
    ⟨fun t => (matchEquality? t).bind fun p =>
      if canonicalName p.1 = target then literalValue? p.2 else none, rfl⟩
  obtain ⟨f, hf⟩ := hfactor
  rw [hf, ← List.mapM_map, ← List.mapM_map, splitTopLevel_orWords hw h]

section

variable {name : List Char} (hn : isIdentifier name = true) (style : NameStyle)
  (target : List Char)
include hn

theorem listValues?_itemList (first : Item) (others : List Item) :
    listValues? target (some (style.write name, itemList first others))
      = listed target name (first.value :: others.map Item.value) := by
  simp only [listValues?, Option.bind_eq_bind, Option.bind_some, canonicalName_write hn style,
    literalList?_itemList]
  rfl

/-- An alternative has the value of its item. -/
theorem equalityValue?_inParens (e : Item) (n : Nat) :
    equalityValue? target (inParens n (equalityText (style.write name) e.text))
      = listed target name e.value := by
  have hcol := columnText_write hn style
  have hs := solid_equalityText hcol e.nested_text e.tight_text e.text_ne_nil
  rw [equalityValue?, hs.stripOuterParens_eq n,
    matchEquality?_equalityText hcol e.tight_text.head]
  simp only [Option.bind_eq_bind, Option.bind_some, canonicalName_write hn style,
    e.literalValue?_text]
  rfl

variable (hor : name.map Char.toLower ≠ ['o', 'r'])
include hor

theorem values?_anyText (any : Spelling "any") (array : Spelling "array") (n : Nat)
    (first : Item) (others : List Item) (g : Grammar) :
    g.values? target
        (anyText (style.write name) any (inParens n (arrayText array (itemList first others))))
      = if g = .anyArray then listed target name (first.value :: others.map Item.value)
        else none := by
  have hcol := columnText_write hn style
  have hcut := uncutColumn_write hn style hor .orWord
  have hlist := nested_itemList first others
  have harray : Nested (inParens n (arrayText array (itemList first others))) :=
    (solid_arrayText array hlist).nested.inParens n
  have hany := solid_any any harray
  cases g with
  | anyArray =>
    rw [Grammar.values?, matchAnyArray?_anyText hcol, if_pos rfl]
    exact listValues?_itemList hn style target first others
  | inList =>
    have h := matchInList?_of_ne hcol (c := '=') rfl (by decide)
    rw [Grammar.values?, anyText, equalityText, h]
    rfl
  | containedIn =>
    have h := matchContainedIn?_of_ne hcol (c := '=') rfl (by decide)
    rw [Grammar.values?, anyText, equalityText, h]
    rfl
  | orChain =>
    refine orChain_values?_eq_none (uncut_anyText hcut any harray _) ?_
    have hstrip := (solid_anyText hcol any harray).stripOuterParens_eq 0
    rw [inParens] at hstrip
    rw [equalityValue?, hstrip, anyText, matchEquality?_equalityText hcol hany.tight.head]
    simp only [Option.bind_eq_bind, Option.bind_some,
      literalValue?_any any harray, ite_self]

theorem values?_inText (word : Spelling "in") (first : Item) (others : List Item) (g : Grammar) :
    g.values? target (inText (style.write name) word (itemList first others))
      = if g = .inList then listed target name (first.value :: others.map Item.value)
        else none := by
  have hcol := columnText_write hn style
  have hcut := uncutColumn_write hn style hor .orWord
  have hlist := nested_itemList first others
  obtain ⟨c, t, ht, hc⟩ := exists_cons_of_spelling word 'i' rfl rfl
  have hb : isBlank c = false := (nameCharFacts hc).blank
  have heq : c ≠ '=' := (nameCharFacts hc).ne rfl
  have hlt : c ≠ '<' := (nameCharFacts hc).ne rfl
  have hform : ∀ rest, style.write name ++ ' ' :: (word.text ++ rest)
      = style.write name ++ ' ' :: c :: (t ++ rest) := by simp [ht]
  cases g with
  | anyArray =>
    rw [Grammar.values?, inText, hform, matchAnyArray?_of_ne hcol hb heq]
    rfl
  | inList =>
    rw [Grammar.values?, matchInList?_inText hcol, if_pos rfl]
    exact listValues?_itemList hn style target first others
  | containedIn =>
    rw [Grammar.values?, inText, hform, matchContainedIn?_of_ne hcol hb hlt]
    rfl
  | orChain =>
    refine orChain_values?_eq_none (uncut_inText hcut word hlist _)
      (equalityValue?_of_solid (solid_inText hcol word hlist) ?_)
    rw [inText, hform, matchEquality?_of_ne hcol hb heq]

theorem values?_containedText (array : Spelling "array") (n : Nat) (first : Item)
    (others : List Item) (g : Grammar) :
    g.values? target
        (containedText (style.write name) (inParens n (arrayText array (itemList first others))))
      = if g = .containedIn then listed target name (first.value :: others.map Item.value)
        else none := by
  have hcol := columnText_write hn style
  have hcut := uncutColumn_write hn style hor .orWord
  have hlist := nested_itemList first others
  have harray := solid_arrayText array hlist
  cases g with
  | anyArray =>
    rw [Grammar.values?, containedText, matchAnyArray?_of_ne hcol rfl (by decide)]
    rfl
  | inList =>
    rw [Grammar.values?, containedText, matchInList?_of_ne hcol rfl (by decide)]
    rfl
  | containedIn =>
    rw [Grammar.values?, matchContainedIn?_containedText hcol, if_pos rfl]
    exact listValues?_itemList hn style target first others
  | orChain =>
    have hsolid := solid_containedText hcol (harray.nested.inParens n)
      (harray.tight_inParens n) (harray.inParens_ne_nil n)
    refine orChain_values?_eq_none (uncut_containedText hcut ?_)
      (equalityValue?_of_solid hsolid ?_)
    · exact .inParens harray.nested (uncut_arrayText array hlist _ _) n
    · rw [containedText, matchEquality?_of_ne hcol rfl (by decide)]

omit hor in
/-- A column after which there is no sign or word of any shape has no values. -/
theorem values?_eq_none {c : Char} {rest : List Char}
    (hs : Solid (style.write name ++ ' ' :: c :: rest))
    (hu : Uncut .orWord (style.write name ++ ' ' :: c :: rest) []) (heq : c ≠ '=')
    (hi : sameLetter 'i' c = false) (hb : isBlank c = false)
    (hc : matchContainedIn? (style.write name ++ ' ' :: c :: rest) = none) (g : Grammar) :
    g.values? target (style.write name ++ ' ' :: c :: rest) = none := by
  have hcol := columnText_write hn style
  cases g with
  | anyArray =>
    rw [Grammar.values?, matchAnyArray?_of_ne hcol hb heq]
    rfl
  | inList =>
    rw [Grammar.values?, matchInList?_of_ne hcol hb hi]
    rfl
  | containedIn =>
    rw [Grammar.values?, hc]
    rfl
  | orChain =>
    exact orChain_values?_eq_none hu
      (equalityValue?_of_solid hs (matchEquality?_of_ne hcol hb heq rest))

omit hor in
/-- An equality whose other side does not start like `any` has no list. -/
theorem values?_equalityText {c : Char} (hb : isBlank c = false) (hc : sameLetter 'a' c = false)
    (rest : List Char) {g : Grammar} (hg : g ≠ .orChain) :
    g.values? target (equalityText (style.write name) (c :: rest)) = none := by
  have hcol := columnText_write hn style
  cases g with
  | anyArray =>
    rw [Grammar.values?, matchAnyArray?_equalityText hcol hb hc]
    rfl
  | inList =>
    rw [Grammar.values?, equalityText, matchInList?_of_ne hcol rfl (by decide)]
    rfl
  | containedIn =>
    rw [Grammar.values?, equalityText, matchContainedIn?_of_ne hcol rfl (by decide)]
    rfl
  | orChain => exact absurd rfl hg

end

/-- A text that starts with a parenthesis has no list. -/
theorem values?_open (target rest : List Char) {g : Grammar} (hg : g ≠ .orChain) :
    g.values? target ('(' :: rest) = none := by
  cases g with
  | orChain => exact absurd rfl hg
  | anyArray | inList | containedIn => rfl

/-! ## Alternatives -/

/-- One alternative of a chain, in any number of parentheses. -/
structure Alternative where
  style : NameStyle
  item : Item
  pairs : Nat := 0

/-- An alternative in no parentheses. -/
def Alternative.core (name : List Char) (a : Alternative) : List Char :=
  equalityText (a.style.write name) a.item.text

/-- The text of an alternative. -/
def Alternative.text (name : List Char) (a : Alternative) : List Char :=
  inParens a.pairs (a.core name)

/-- Alternatives with the word `or` between them, in any letter case. -/
def chainText (name : List Char) (first : Alternative)
    (others : List (Spelling "or" × Alternative)) : List Char :=
  orList (first.text name) (others.map fun (word, a) => (word.text, a.text name))

theorem mapM_listed {α β : Type} (target name : List Char) (f : α → β) (a : α) (as : List α) :
    (a :: as).mapM (fun x => listed target name (f x)) = listed target name ((a :: as).map f) := by
  unfold listed
  split
  · have hsome : ∀ l : List α, l.mapM (fun x => some (f x)) = some (l.map f) := by
      intro l
      induction l with
      | nil => rfl
      | cons x l ih =>
        simp only [List.mapM_cons, ih, Option.bind_eq_bind, Option.bind_some, Option.pure_def,
          List.map_cons]
    exact hsome (a :: as)
  · rfl

/-- Every piece of a chain is an alternative. -/
theorem exists_alternative {name u : List Char} {first : Alternative}
    {others : List (Spelling "or" × Alternative)}
    (h : u ∈ first.text name
      :: (others.map fun (word, a) => (word.text, a.text name)).map Prod.snd) :
    ∃ a : Alternative, u = a.text name := by
  simp only [List.map_map, List.mem_cons, List.mem_map, Function.comp_apply] at h
  rcases h with rfl | ⟨⟨w, a⟩, -, rfl⟩
  · exact ⟨first, rfl⟩
  · exact ⟨a, rfl⟩

section

variable {name : List Char} (hn : isIdentifier name = true)
include hn

theorem Alternative.solid_core (a : Alternative) : Solid (a.core name) :=
  solid_equalityText (columnText_write hn a.style) a.item.nested_text a.item.tight_text
    a.item.text_ne_nil

theorem Alternative.nested_text (a : Alternative) : Nested (a.text name) :=
  (a.solid_core hn).nested.inParens _

theorem tight_chainText (first : Alternative) (others : List (Spelling "or" × Alternative)) :
    Tight (chainText name first others) := by
  refine tight_orList fun u hu => ?_
  obtain ⟨a, rfl⟩ := exists_alternative hu
  exact ⟨(a.solid_core hn).tight_inParens _, (a.solid_core hn).inParens_ne_nil _⟩

theorem nested_chainText (first : Alternative) (others : List (Spelling "or" × Alternative)) :
    Nested (chainText name first others) := by
  refine nested_orList (fun p hp => ?_) fun u hu => ?_
  · obtain ⟨⟨w, a⟩, -, rfl⟩ := List.mem_map.mp hp
    exact (solid_spelling w (by decide) (by decide)).nested
  · obtain ⟨a, rfl⟩ := exists_alternative hu
    exact a.nested_text hn

variable (hor : name.map Char.toLower ≠ ['o', 'r'])
include hor

theorem Alternative.uncut_text (a : Alternative) (rest : List Char) :
    Uncut .orWord (a.text name) rest :=
  .inParens (a.solid_core hn).nested
    (uncut_equalityText (uncutColumn_write hn a.style hor _) (a.item.uncut_text .orWord rest)) _

omit hor in
/-- Of the parentheses around a chain only those of its first alternative can be left. -/
theorem stripOuterParens_chainText (first : Alternative)
    (others : List (Spelling "or" × Alternative)) :
    ∃ n, stripOuterParens (chainText name first others)
      = chainText name { first with pairs := n } others := by
  have hs := first.solid_core hn
  cases others with
  | nil =>
    refine ⟨0, ?_⟩
    rw [chainText, chainText, List.map_nil, orList_nil, orList_nil]
    exact hs.stripOuterParens_eq _
  | cons p others =>
    refine ⟨first.pairs, ?_⟩
    have ht := tight_chainText hn first (p :: others)
    exact hs.stripOuterParens_append first.pairs (by simp) ht

omit hor in
/-- A chain has no list. -/
theorem values?_chainText_of_ne (target : List Char) (first : Alternative)
    (others : List (Spelling "or" × Alternative)) {g : Grammar} (hg : g ≠ .orChain) :
    g.values? target (chainText name first others) = none := by
  obtain ⟨style, item, pairs⟩ := first
  obtain ⟨c, t, ht⟩ := List.exists_cons_of_ne_nil item.text_ne_nil
  have hc := Item.head_text (e := item) (c := c) (by rw [ht]; rfl)
  have hb : isBlank c = false := item.tight_text.head c (by rw [ht]; rfl)
  have hall : ∀ c ∈ ['(', quote, 'N', 'n', '_'], sameLetter 'a' c = false :=
    forall_mem_of_all (by decide)
  have ha := hall c hc
  obtain ⟨rest, hrest⟩ : ∃ rest, chainText name ⟨style, item, pairs⟩ others
      = inParens pairs (equalityText (style.write name) (c :: t)) ++ rest :=
    ⟨_, by rw [← ht]; rfl⟩
  rw [hrest]
  cases pairs with
  | zero =>
    have h := values?_equalityText hn style target hb ha (t ++ rest) hg
    rw [equalityText] at h ⊢
    rw [inParens, List.append_assoc]
    exact h
  | succ n => exact values?_open target _ hg

theorem orChain_values?_chainText (target : List Char) (first : Alternative)
    (others : List (Spelling "or" × Alternative)) :
    Grammar.orChain.values? target (chainText name first others)
      = listed target name (first.item.value :: others.map fun (_, a) => a.item.value) := by
  have hone : (equalityValue? target) ∘ Alternative.text name
      = fun a => listed target name a.item.value :=
    funext fun a => equalityValue?_inParens hn a.style target a.item a.pairs
  have hmap : first.text name :: (others.map fun (w, a) => (w.text, a.text name)).map Prod.snd
      = (first :: others.map Prod.snd).map (Alternative.text name) := by
    rw [List.map_map, List.map_cons, List.map_map]
    rfl
  have hword : ∀ p ∈ others.map fun (w, a) => (w.text, a.text name),
      p.1.map Char.toLower = ['o', 'r'] := by
    intro p hp
    obtain ⟨⟨w, a⟩, -, rfl⟩ := List.mem_map.mp hp
    exact w.lower
  have hsplit := mapM_equalityValue?_orList target (first.text name) _ hword fun u hu rest _ => by
    obtain ⟨a, rfl⟩ := exists_alternative hu
    exact a.uncut_text hn hor rest
  rw [Grammar.values?, chainText, hsplit, hmap, List.mapM_map, hone, mapM_listed,
    List.map_cons, List.map_map]
  rfl

/-- A chain without the parentheses around it lists the values of its alternatives. -/
theorem values?_chainText (target : List Char) (first : Alternative)
    (others : List (Spelling "or" × Alternative)) (g : Grammar) :
    g.values? target (stripOuterParens (chainText name first others))
      = if g = .orChain then
          listed target name (first.item.value :: others.map fun (_, a) => a.item.value)
        else none := by
  obtain ⟨n, hn'⟩ := stripOuterParens_chainText hn first others
  rw [hn']
  split
  · next hg =>
    subst hg
    exact orChain_values?_chainText hn hor target { first with pairs := n } others
  · next hg => exact values?_chainText_of_ne hn target { first with pairs := n } others hg

end

end ValidatorGen.Check
