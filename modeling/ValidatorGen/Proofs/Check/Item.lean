/-
Literals as they are listed: after an introducer, in any number of parentheses (`Item`).
An item is read as its value (`Item.literalValue?_text`), and items between commas are read
as their values (`literalList?_itemList`).
-/
import ValidatorGen.Proofs.Check.Name

namespace ValidatorGen.Check

open Text

/-- What may stand right before a literal. -/
inductive Introducer
  | none
  | national (capital : Bool)
  | charset (name : List Char) (alphanumeric : name.all Char.isAlphanum = true)

/-- The text of an introducer. -/
def Introducer.text : Introducer → List Char
  | .none => []
  | .national true => ['N']
  | .national false => ['n']
  | .charset name _ => '_' :: name

/-- A literal as it is listed. -/
structure Item where
  value : List Char
  introducer : Introducer := .none
  pairs : Nat := 0

/-- A literal after its introducer, in no parentheses. -/
def Item.core (e : Item) : List Char := e.introducer.text ++ quoted e.value

/-- The text of an item. -/
def Item.text (e : Item) : List Char := inParens e.pairs e.core

theorem dropIntroducer_quoted (i : Introducer) (v : List Char) :
    dropIntroducer (i.text ++ quoted v) = quoted v := by
  cases i with
  | none =>
    obtain ⟨d, rest, hd⟩ : ∃ d rest, escape v ++ [quote] = d :: rest :=
      List.exists_cons_of_ne_nil (by simp)
    have hletter : ((quote = 'N' || quote = 'n') && d = quote) = false := rfl
    rw [Introducer.text, List.nil_append, quoted, hd, dropIntroducer, hletter,
      if_neg Bool.false_ne_true, if_neg (by decide)]
  | national capital => cases capital <;> simp [Introducer.text, quoted, dropIntroducer]
  | charset name hname =>
    have hne : ∀ c ∈ name, (decide (c ≠ quote)) = true := by
      intro c hc
      have hc := List.all_eq_true.mp hname c hc
      have hq : c ≠ quote := by
        rintro rfl
        exact absurd hc (by decide)
      simpa using hq
    have hstop : ∀ c, (quoted v).head? = some c → decide (c ≠ quote) = false := by
      intro c hc
      obtain rfl : quote = c := by simpa [quoted] using hc
      rfl
    have htake := takeWhile_append_of_stop hne hstop
    have hdrop := dropWhile_append_of_stop hne hstop
    obtain ⟨d, rest, hd⟩ : ∃ d rest, name ++ quoted v = d :: rest :=
      List.exists_cons_of_ne_nil (by simp [quoted])
    rw [Introducer.text, List.cons_append, hd, dropIntroducer, ← hd, htake, hdrop,
      if_neg (by simp), if_pos rfl]
    exact if_pos (by simp only [hname, quoted, ne_eq, reduceCtorEq, not_false_eq_true,
      decide_true, Bool.and_self])

/-- What an introducer is made of. -/
theorem mem_introducer {i : Introducer} {c : Char} (hc : c ∈ i.text) :
    isIdentifierChar c = true := by
  cases i with
  | none => cases hc
  | national capital =>
    cases capital <;>
    · obtain rfl := List.mem_singleton.mp hc
      rfl
  | charset name hname =>
    rcases List.mem_cons.mp hc with rfl | hc
    · rfl
    · simp [isIdentifierChar, List.all_eq_true.mp hname c hc]

namespace Item

/-- A literal with nothing around it. -/
def ofValue (v : String) : Item := { value := v.toList }

theorem head_core {e : Item} {c : Char} (h : e.core.head? = some c) :
    c ∈ [quote, 'N', 'n', '_'] := by
  obtain ⟨value, introducer, pairs⟩ := e
  cases introducer with
  | none =>
    obtain rfl := Option.some.inj h
    decide
  | national capital =>
    cases capital <;>
    · obtain rfl := Option.some.inj h
      decide
  | charset name hname =>
    obtain rfl := Option.some.inj h
    decide

theorem solid_core (e : Item) : Solid e.core where
  nested := by
    have hi : Nested e.introducer.text := .of_all_plain <| List.all_eq_true.mpr fun c hc =>
      (isInner_iff.mp (nameCharFacts (mem_introducer hc)).inner).1
    exact hi.append (.quoted _)
  tight := by
    constructor
    case head =>
      intro c h
      have hblank : ∀ c ∈ [quote, 'N', 'n', '_'], isBlank c = false :=
        forall_mem_of_all (by decide)
      exact hblank c (head_core h)
    case last =>
      intro c h
      have hlast : e.core.getLast? = some quote := by
        rw [core, quoted, ← List.cons_append, ← List.append_assoc, List.getLast?_concat]
      rw [hlast, Option.some.injEq] at h
      subst h
      rfl
  head h := absurd (head_core h) (by decide)
  ne_nil := by simp [core, quoted]

theorem head_text {e : Item} {c : Char} (h : e.text.head? = some c) :
    c ∈ ['(', quote, 'N', 'n', '_'] := by
  unfold text at h
  cases hp : e.pairs with
  | zero =>
    rw [hp] at h
    exact List.mem_cons_of_mem _ (head_core h)
  | succ n =>
    rw [hp, inParens, List.head?_cons, Option.some.injEq] at h
    subst h
    decide

theorem nested_text (e : Item) : Nested e.text := e.solid_core.nested.inParens _

theorem tight_text (e : Item) : Tight e.text := e.solid_core.tight_inParens _

theorem text_ne_nil (e : Item) : e.text ≠ [] := e.solid_core.inParens_ne_nil _

theorem stripOuterParens_text (e : Item) : stripOuterParens e.text = e.core :=
  e.solid_core.stripOuterParens_eq _

/-- An item is read as its value. -/
theorem literalValue?_of_strip {e : Item} {t : List Char} (h : stripOuterParens t = e.core) :
    literalValue? t = some e.value := by
  rw [literalValue?, h, core, dropIntroducer_quoted, quotedInside?_quoted, Option.bind_some,
    unescape?_escape]

theorem literalValue?_text (e : Item) : literalValue? e.text = some e.value :=
  literalValue?_of_strip e.stripOuterParens_text

end Item

/-! ## Lists of literals -/

theorem uncut_word {sep : Separator} {w rest : List Char}
    (hw : w.all isIdentifierChar = true) (hne : w.map Char.toLower ≠ ['o', 'r'])
    (hr : ∀ c, rest.head? = some c → c.toLower ≠ 'r') : Uncut sep w rest :=
  .word (fun c hc => (nameCharFacts (List.all_eq_true.mp hw c hc)).inner) hne hr

namespace Item

theorem uncut_core (e : Item) (sep : Separator) (rest : List Char) : Uncut sep e.core rest := by
  have hword : e.introducer.text.all isIdentifierChar = true :=
    List.all_eq_true.mpr fun c hc => mem_introducer hc
  refine Uncut.append (uncut_word hword ?_ fun c hc => ?_) (.quoted _)
  · cases e.introducer with
    | none => decide
    | national capital => cases capital <;> decide
    | charset name h =>
      intro hor
      exact absurd (List.cons.inj hor).1 (by decide)
  · obtain rfl : quote = c := by simpa [quoted] using hc
    decide

theorem uncut_text (e : Item) (sep : Separator) (rest : List Char) : Uncut sep e.text rest :=
  .inParens e.solid_core.nested (e.uncut_core sep rest) e.pairs

end Item

theorem nested_commaList {ts : List (List Char)} (h : ∀ t ∈ ts, Nested t) :
    Nested (commaList ts) := by
  induction ts with
  | nil => exact .nil
  | cons t ts ih =>
    have ht := h t (by simp)
    have ih := ih fun u hu => h u (by simp [hu])
    cases ts with
    | nil => rwa [commaList_singleton]
    | cons u ts =>
      rw [commaList_cons_cons]
      exact ht.append (.plain rfl (.plain rfl ih))

/-- A list between commas. -/
def itemList (first : Item) (others : List Item) : List Char :=
  commaList (first.text :: others.map Item.text)

theorem nested_itemList (first : Item) (others : List Item) : Nested (itemList first others) := by
  refine nested_commaList fun t ht => ?_
  obtain ⟨e, -, rfl⟩ : ∃ e ∈ first :: others, e.text = t := List.mem_map.mp ht
  exact e.nested_text

theorem itemList_ne_nil (first : Item) (others : List Item) : itemList first others ≠ [] := by
  cases others with
  | nil => simpa [itemList, commaList_singleton] using first.text_ne_nil
  | cons e others => simp [itemList, commaList_cons_cons]

theorem tight_itemList (first : Item) (others : List Item) : Tight (itemList first others) := by
  induction others generalizing first with
  | nil =>
    rw [itemList, List.map_nil, commaList_singleton]
    exact first.tight_text
  | cons e others ih =>
    rw [itemList, List.map_cons, commaList_cons_cons]
    exact first.tight_text.between first.text_ne_nil (ih e) (itemList_ne_nil e others) [',', ' ']

theorem mapM_literalValue? (es : List Item) :
    ((es.map Item.text).map (' ' :: ·)).mapM literalValue? = some (es.map Item.value) := by
  induction es with
  | nil => rfl
  | cons e es ih =>
    have he : literalValue? (' ' :: e.text) = some e.value :=
      Item.literalValue?_of_strip (by rw [stripOuterParens_cons_blank rfl, e.stripOuterParens_text])
    simp only [List.map_cons, List.mapM_cons, he, ih, Option.bind_eq_bind, Option.bind_some,
      Option.pure_def]

/-- Items between commas are read back as their values. -/
theorem literalList?_itemList (first : Item) (others : List Item) :
    literalList? (itemList first others) = some (first.value :: others.map Item.value) := by
  cases others with
  | nil =>
    have hstrip : stripOuterParens (itemList first []) = first.core := by
      rw [itemList, List.map_nil, commaList_singleton, first.stripOuterParens_text]
    have hsplit : splitTopLevel .comma first.core = [first.core] :=
      splitTopLevel_of_uncut (first.uncut_core .comma [])
    have hvalue : literalValue? first.core = some first.value :=
      Item.literalValue?_text { first with pairs := 0 }
    simp [literalList?, hstrip, first.solid_core.ne_nil, hsplit, hvalue]
  | cons e others =>
    have hlist : itemList first (e :: others)
        = inParens first.pairs first.core ++ ',' :: ' ' :: itemList e others :=
      commaList_cons_cons _ _ _
    have hstrip : stripOuterParens (itemList first (e :: others))
        = itemList first (e :: others) := by
      rw [hlist]
      refine first.solid_core.stripOuterParens_append _ (by simp) ?_
      exact hlist ▸ tight_itemList first (e :: others)
    have hsplit : splitTopLevel .comma (itemList first (e :: others))
        = first.text :: ((e :: others).map Item.text).map (' ' :: ·) := by
      refine splitTopLevel_commas fun u hu rest => ?_
      obtain ⟨i, -, rfl⟩ : ∃ i ∈ first :: e :: others, i.text = u := List.mem_map.mp hu
      exact i.uncut_text .comma rest
    rw [literalList?, hstrip]
    simp only [if_neg (itemList_ne_nil first (e :: others)), hsplit, List.mapM_cons,
      first.literalValue?_text, mapM_literalValue?, Option.bind_eq_bind, Option.bind_some,
      Option.pure_def]

end ValidatorGen.Check
