/-
Clauses as database engines write them. Every column may be quoted, every column, literal
and array may be in layers of parentheses and casts, and so on (`Clause`). Dropping casts
leaves the parentheses (`uncast_text`), and taking names out of theirs leaves a text of one
of the four shapes in parentheses (`mapPlain_fill`). Nothing else of a clause is
left once it is prepared (`prepare_text`), and so it lists its values (`allValues_fill`).
-/
import ValidatorGen.Proofs.Check.Layer
import ValidatorGen.Proofs.Check.Stretch
import ValidatorGen.Proofs.Check.Values

namespace ValidatorGen.Check

open Text

/-- A column as it is written in a clause. -/
structure Reference where
  style : NameStyle := .bare
  layers : List Layer := []

/-- A literal as it is written in a clause. -/
structure Entry where
  value : String
  introducer : Introducer := .none
  layers : List Layer := []

/-- An alternative as it is written in a clause. -/
structure Disjunct where
  column : Reference
  entry : Entry
  pairs : Nat := 0

/-- What a clause says of its column, in one of the four shapes. -/
inductive Body
  | anyArray (column : Reference) (any : Spelling "any") (array : Spelling "array")
    (layers : List Layer) (first : Entry) (others : List Entry)
  | inList (column : Reference) (word : Spelling "in") (first : Entry) (others : List Entry)
  | orChain (first : Disjunct) (others : List (Spelling "or" × Disjunct))
  | containedIn (column : Reference) (array : Spelling "array") (layers : List Layer)
    (first : Entry) (others : List Entry)

/-- A clause: perhaps the keyword CHECK, and parentheses around the rest. -/
structure Clause where
  check : Option (Spelling "check")
  pairs : Nat
  body : Body

/-! ## The text of a clause -/

/-- A column in its layers. -/
def Reference.text (name : List Char) (r : Reference) : List Char :=
  wrap r.layers (r.style.write name)

/-- A literal in its layers. -/
def Entry.text (e : Entry) : List Char :=
  wrap e.layers (e.introducer.text ++ quoted e.value.toList)

/-- An alternative in its parentheses. -/
def Disjunct.text (name : List Char) (d : Disjunct) : List Char :=
  inParens d.pairs (equalityText (d.column.text name) d.entry.text)

/-- Literals between commas. -/
def entryList (first : Entry) (others : List Entry) : List Char :=
  commaList ((first :: others).map Entry.text)

/-- The text of what a clause says. -/
def Body.text (name : List Char) : Body → List Char
  | .anyArray r any array layers first others =>
    anyText (r.text name) any (wrap layers (arrayText array (entryList first others)))
  | .inList r word first others => inText (r.text name) word (entryList first others)
  | .orChain first others =>
    orList (first.text name) (others.map fun (word, d) => (word.text, d.text name))
  | .containedIn r array layers first others =>
    containedText (r.text name) (wrap layers (arrayText array (entryList first others)))

/-- The text of a clause about the column of that name. -/
def Clause.text (name : List Char) (d : Clause) : List Char :=
  (d.check.elim [] fun word => word.text ++ [' ']) ++ inParens d.pairs (d.body.text name)

/-! ## What a clause lists -/

/-- The values of a clause. -/
def Body.values : Body → List String
  | .anyArray _ _ _ _ first others | .inList _ _ first others
  | .containedIn _ _ _ first others => (first :: others).map Entry.value
  | .orChain first others => first.entry.value :: others.map fun (_, d) => d.entry.value

/-- The shape of a clause. -/
def Body.grammar : Body → Grammar
  | .anyArray .. => .anyArray
  | .inList .. => .inList
  | .orChain .. => .orChain
  | .containedIn .. => .containedIn

/-! ## Dropping casts -/

/-- What is left of a literal without casts. -/
def Entry.item (e : Entry) : Item where
  value := e.value.toList
  introducer := e.introducer
  pairs := Check.pairs e.layers

/-- What is left of an alternative without casts, its column written as told. -/
def Disjunct.fill (column : Reference → List Char) (d : Disjunct) : List Char :=
  inParens d.pairs (equalityText (column d.column) d.entry.item.text)

/-- What is left without casts, its columns written as told. -/
def Body.fill (column : Reference → List Char) : Body → List Char
  | .anyArray r any array layers first others =>
    anyText (column r) any
      (inParens (pairs layers) (arrayText array (itemList first.item (others.map Entry.item))))
  | .inList r word first others =>
    inText (column r) word (itemList first.item (others.map Entry.item))
  | .orChain first others =>
    orList (first.fill column) (others.map fun (word, d) => (word.text, d.fill column))
  | .containedIn r array layers first others =>
    containedText (column r)
      (inParens (pairs layers) (arrayText array (itemList first.item (others.map Entry.item))))

/-- A column without casts. -/
def Reference.uncast (name : List Char) (r : Reference) : List Char :=
  inParens (pairs r.layers) (r.style.write name)

/-- A column in no parentheses. -/
def Reference.bare (name : List Char) (r : Reference) : List Char := r.style.write name

theorem Entry.uncast_text (e : Entry) : Uncast e.text e.item.text := by
  have hi := Opening.of_identifierChars (t := e.introducer.text) fun c hc => mem_introducer hc
  exact ((Uncast.quoted e.value.toList).before ⟨hi.quote, hi.colon⟩).wrap e.layers

theorem uncast_entryList (first : Entry) (others : List Entry) :
    Uncast (entryList first others) (itemList first.item (others.map Entry.item)) := by
  have h := Uncast.commaList (first :: others) fun e _ => Entry.uncast_text e
  rw [itemList, List.map_map]
  exact h

theorem uncast_array (array : Spelling "array") (layers : List Layer) (first : Entry)
    (others : List Entry) :
    Uncast (wrap layers (arrayText array (entryList first others)))
      (inParens (pairs layers)
        (arrayText array (itemList first.item (others.map Entry.item)))) := by
  have hword := Opening.of_identifierChars (isIdentifierChar_of_spelling array (by decide))
  have hlist := (uncast_entryList first others).enclosed (o := '[') (c := ']')
    (by constructor <;> decide) (by constructor <;> decide) (by decide)
  exact (hlist.before ⟨hword.quote, hword.colon⟩).wrap layers

/-- A keyword between blanks has no casts and ends one. -/
theorem closing_spelling {word : String} (w : Spelling word)
    (hw : word.toList.all isIdentifierChar = true) : Closing (' ' :: (w.text ++ [' '])) := by
  have hne : ∀ c : Char, isNameChar c = false → c ∉ w.text := fun c hc hm =>
    (nameCharFacts (isIdentifierChar_of_spelling w hw c hm)).ne hc rfl
  constructor
  · simp [hne quote (by decide), show quote ≠ ' ' by decide]
  · simp [hne ':' (by decide)]
  · simp [hne '(' (by decide)]

theorem castless_spelling {word : String} (w : Spelling word)
    (hw : word.toList.all isIdentifierChar = true) : Castless (' ' :: (w.text ++ [' '])) :=
  ⟨(closing_spelling w hw).quote, (closing_spelling w hw).colon⟩

theorem endsCast_spelling {word : String} (w : Spelling word) (first : Char) {more : List Char}
    (hw : word.toList = first :: more) (hf : isIdentifierChar first = true) (rest : List Char) :
    EndsCast (' ' :: (w.text ++ rest)) := by
  obtain ⟨c, t, ht, hc⟩ := exists_cons_of_spelling w first hw hf
  rw [ht]
  exact .blank (nameCharFacts hc).blank ((nameCharFacts hc).ne rfl) ((nameCharFacts hc).ne rfl) _

section

variable {name : List Char} (hn : isIdentifier name = true)
include hn

theorem Reference.uncast_text (r : Reference) : Uncast (r.text name) (r.uncast name) := by
  have hname := Opening.write hn r.style
  exact (Uncast.castless ⟨hname.quote, hname.colon⟩).wrap r.layers

theorem Disjunct.uncast_text (d : Disjunct) :
    Uncast (d.text name) (d.fill (Reference.uncast name)) := by
  have h := (d.column.uncast_text hn).between (p := [' ', '=', ' ']) (by constructor <;> decide)
    (fun _ => .blank rfl (by decide) (by decide) _) d.entry.uncast_text
  exact h.inParens d.pairs

theorem uncast_chain (first : Disjunct) (others : List (Spelling "or" × Disjunct)) :
    Uncast (Body.orChain first others |>.text name)
      (Body.orChain first others |>.fill (Reference.uncast name)) := by
  rw [Body.text, Body.fill]
  induction others generalizing first with
  | nil =>
    rw [List.map_nil, List.map_nil, orList_nil, orList_nil]
    exact first.uncast_text hn
  | cons p others ih =>
    obtain ⟨w, d⟩ := p
    have ends : ∀ rest, EndsCast (' ' :: (w.text ++ [' ']) ++ rest) := by
      intro rest
      rw [List.cons_append, List.append_assoc]
      exact endsCast_spelling w 'o' rfl rfl _
    have h := (first.uncast_text hn).between (castless_spelling w (by decide)) ends (ih d)
    simpa [orList_cons] using h

/-- Without its casts, a clause is what is left of it. -/
theorem Body.uncast_text (b : Body) : Uncast (b.text name) (b.fill (Reference.uncast name)) := by
  cases b with
  | anyArray r any array layers first others =>
    have hany := Opening.of_identifierChars (isIdentifierChar_of_spelling any (by decide))
    have hp : Castless (' ' :: '=' :: ' ' :: (any.text ++ [' '])) := by
      constructor
      · simp [hany.quote, show quote ≠ ' ' by decide, show quote ≠ '=' by decide]
      · simp [hany.colon]
    have h := (r.uncast_text hn).between hp (fun _ => .blank rfl (by decide) (by decide) _)
      (uncast_array array layers first others).inPair
    simpa [text, fill, anyText, equalityText] using h
  | inList r word first others =>
    have ends : ∀ rest, EndsCast (' ' :: (word.text ++ [' ']) ++ rest) := by
      intro rest
      rw [List.cons_append, List.append_assoc]
      exact endsCast_spelling word 'i' rfl rfl _
    have h := (r.uncast_text hn).between (castless_spelling word (by decide)) ends
      (uncast_entryList first others).inPair
    simpa [text, fill, inText] using h
  | orChain first others => exact uncast_chain hn first others
  | containedIn r array layers first others =>
    exact (r.uncast_text hn).between (p := [' ', '<', '@', ' ']) (by constructor <;> decide)
      (fun _ => .blank rfl (by decide) (by decide) _) (uncast_array array layers first others)

end

/-! ## Changing the columns of a clause -/

/-- Before a blank, wherever it stands, `f` makes `column' r` of the column `column r`. -/
def Rewrites (f : List Char → List Char) (column column' : Reference → List Char) : Prop :=
  ∀ s, Closing s → (∀ c, s.getLast? = some c → isNameChar c = false) → ∀ m r,
    Leads f (s ++ (List.replicate m '(' ++ (column r ++ [' '])))
      (s ++ (List.replicate m '(' ++ (column' r ++ [' '])))

theorem head?_replicate_ne (n : Nat) : (List.replicate n ')').head? ≠ some quote := by
  cases n <;> simp [List.replicate_succ, show ( ')' : Char) ≠ quote by decide]

section

variable {f : List Char → List Char} (hf : Keeps f) {column column' : Reference → List Char}
  (h : Rewrites f column column')
include hf

theorem after_replicate (n : Nat) : After f (List.replicate n ')') (List.replicate n ')') := by
  have h := (After.nil hf).closing (.replicate n)
  simpa using h

include h

/-- The change is made to a column with a kept text after it, in any number of parentheses. -/
theorem mapPlain_column (r : Reference) {t : List Char} (ht : Kept f t) (n : Nat) :
    mapPlain f (inParens n (column r ++ ' ' :: t)) = inParens n (column' r ++ ' ' :: t) := by
  have hlead := h [] Closing.nil (by simp) n r
  have h := ht _ _ _ _ hlead (head?_replicate_ne n) (after_replicate hf n)
  simpa [inParens_eq] using h

/-- The change is made to every column of a chain. -/
theorem mapPlain_chain (first : Disjunct) (others : List (Spelling "or" × Disjunct))
    {s : List Char} (hs : Closing s) (hl : ∀ c, s.getLast? = some c → isNameChar c = false)
    (m n : Nat) :
    mapPlain f (s ++ (List.replicate m '('
        ++ ((Body.orChain first others).fill column ++ List.replicate n ')')))
      = s ++ (List.replicate m '('
        ++ ((Body.orChain first others).fill column' ++ List.replicate n ')')) := by
  have hkept : ∀ d : Disjunct, Kept f ('=' :: ' ' :: d.entry.item.text) :=
    fun d => .opening (s := ['=', ' ']) (by constructor <;> decide) (.item hf d.entry.item)
  simp only [Body.fill]
  -- what closes before the chain is general: it is where the alternative before left off
  induction others generalizing first s m with
  | nil =>
    have hlead := h s hs hl (m + first.pairs) first.column
    have hafter := (after_replicate hf n).closing (.replicate first.pairs)
    have h := hkept first _ _ _ _ hlead (Closing.replicate first.pairs |>.head?_append
      (head?_replicate_ne n)) hafter
    simpa [orList_nil, Disjunct.fill, inParens_eq, equalityText, ← List.replicate_append_replicate]
      using h
  | cons p others ih =>
    obtain ⟨w, d⟩ := p
    have hclose := closing_spelling w (by decide)
    have hnext : After f
        (' ' :: (w.text ++ ' ' :: (orList (d.fill column)
          (others.map fun (word, d) => (word.text, d.fill column)) ++ List.replicate n ')')))
        (' ' :: (w.text ++ ' ' :: (orList (d.fill column')
          (others.map fun (word, d) => (word.text, d.fill column')) ++ List.replicate n ')'))) := by
      intro s' hs'
      have hlast : ∀ c, (s' ++ ' ' :: (w.text ++ [' '])).getLast? = some c →
          isNameChar c = false := by
        intro c hc
        rw [← List.cons_append, ← List.append_assoc, List.getLast?_concat] at hc
        obtain rfl : ' ' = c := Option.some.inj hc
        rfl
      have ih := ih d (hs'.append hclose) hlast 0
      simpa using ih
    have hlead := h s hs hl (m + first.pairs) first.column
    have hafter := hnext.closing (.replicate first.pairs)
    have h := hkept first _ _ _ _ hlead (Closing.replicate first.pairs |>.head?_append
      (by simp; decide)) hafter
    simpa [orList_cons, Disjunct.fill, inParens_eq, equalityText,
      ← List.replicate_append_replicate] using h

/-- The change is made to every column of a clause without casts, and to nothing else of it. -/
theorem mapPlain_fill (b : Body) (n : Nat) :
    mapPlain f (inParens n (b.fill column)) = inParens n (b.fill column') := by
  have hlist := fun (first : Entry) (others : List Entry) =>
    Kept.itemList hf first.item (others.map Entry.item)
  have hspelling := fun {word : String} (w : Spelling word)
      (hw : word.toList.all isIdentifierChar = true) =>
    Opening.of_identifierChars (isIdentifierChar_of_spelling w hw)
  have hblank : Opening [' '] := by constructor <;> decide
  cases b with
  | anyArray r any array layers first others =>
    have ht := (((hlist first others).arrayText array).inParens (pairs layers)).inParens 1
    have hany := (ht.opening hblank).opening (hspelling any (by decide))
    exact mapPlain_column hf h r (hany.opening (s := ['=', ' ']) (by constructor <;> decide)) n
  | inList r word first others =>
    have ht := ((hlist first others).inParens 1).opening hblank
    exact mapPlain_column hf h r (ht.opening (hspelling word (by decide))) n
  | orChain first others =>
    have h := mapPlain_chain hf h first others Closing.nil (by simp) n n
    simpa [inParens_eq] using h
  | containedIn r array layers first others =>
    have ht := ((hlist first others).arrayText array).inParens (pairs layers)
    exact mapPlain_column hf h r (ht.opening (s := ['<', '@', ' ']) (by constructor <;> decide)) n

end

/-- Every column is taken out of its parentheses. -/
theorem rewrites_unwrapNames {name : List Char} (hn : isIdentifier name = true) :
    Rewrites unwrapNames (Reference.uncast name) (Reference.bare name) := by
  intro s hs hl m r
  have hname := (Opening.write hn r.style).quote
  constructor
  case quote =>
    simp [hs.quote, Reference.uncast, inParens_eq, List.mem_replicate, hname,
      show quote ≠ '(' by decide, show quote ≠ ')' by decide, show quote ≠ ' ' by decide]
  case eq =>
    intro p hp
    have hrest : ')' ∉ ' ' :: p := by simp [hp.paren]
    have h := unwrapNames_wrapped hn hs.paren hl m (pairs r.layers) r.style hrest
    simpa [Reference.uncast, Reference.bare] using h

/-! ## The values of what is left -/

/-- What is left of an alternative. -/
def Disjunct.alternative (d : Disjunct) : Alternative where
  style := d.column.style
  item := d.entry.item
  pairs := d.pairs

theorem fill_orChain (name : List Char) (first : Disjunct)
    (others : List (Spelling "or" × Disjunct)) :
    (Body.orChain first others).fill (Reference.bare name)
      = chainText name first.alternative (others.map fun (w, d) => (w, d.alternative)) := by
  rw [Body.fill, chainText, List.map_map]
  rfl

theorem map_value_item (first : Entry) (others : List Entry) :
    first.item.value :: (others.map Entry.item).map Item.value
      = ((first :: others).map Entry.value).map String.toList := by
  rw [List.map_map, List.map_map]
  rfl

section

variable {name : List Char} (hn : isIdentifier name = true)
include hn

theorem solid_fill {b : Body} (hg : b.grammar ≠ .orChain) :
    Solid (b.fill (Reference.bare name)) := by
  cases b with
  | anyArray r any array layers first others =>
    have harray := solid_arrayText array (nested_itemList first.item (others.map Entry.item))
    exact solid_anyText (columnText_write hn r.style) any (harray.nested.inParens (pairs layers))
  | inList r word first others =>
    exact solid_inText (columnText_write hn r.style) word
      (nested_itemList first.item (others.map Entry.item))
  | orChain first others => exact absurd rfl hg
  | containedIn r array layers first others =>
    have harray := solid_arrayText array (nested_itemList first.item (others.map Entry.item))
    exact solid_containedText (columnText_write hn r.style) (harray.nested.inParens (pairs layers))
      (harray.tight_inParens _) (harray.inParens_ne_nil _)

/-- What is left of a clause lists the values of the clause, whatever parentheses are around
it. -/
theorem allValues_fill (hor : name.map Char.toLower ≠ ['o', 'r']) (target : List Char) (b : Body)
    (n : Nat) :
    allValues target (stripOuterParens (inParens n (b.fill (Reference.bare name))))
      = (listed target name (b.values.map String.toList)).getD [] := by
  cases b with
  | anyArray r any array layers first others =>
    have hs := solid_fill hn (b := .anyArray r any array layers first others) nofun
    have hv := allValues_of_grammar (values?_anyText hn r.style target hor any array (pairs layers)
      first.item (others.map Entry.item))
    rw [map_value_item] at hv
    rw [hs.stripOuterParens_eq]
    exact hv
  | inList r word first others =>
    have hs := solid_fill hn (b := .inList r word first others) nofun
    have hv := allValues_of_grammar (values?_inText hn r.style target hor word
      first.item (others.map Entry.item))
    rw [map_value_item] at hv
    rw [hs.stripOuterParens_eq]
    exact hv
  | orChain first others =>
    have hnested := nested_chainText hn first.alternative
      (others.map fun (w, d) => (w, d.alternative))
    have hv := allValues_of_grammar (values?_chainText hn hor target first.alternative
      (others.map fun (w, d) => (w, d.alternative)))
    rw [fill_orChain, stripOuterParens_inParens hnested, hv, List.map_map, Body.values,
      List.map_cons, List.map_map]
    rfl
  | containedIn r array layers first others =>
    have hs := solid_fill hn (b := .containedIn r array layers first others) nofun
    have hv := allValues_of_grammar (values?_containedText hn r.style target hor array
      (pairs layers) first.item (others.map Entry.item))
    rw [map_value_item] at hv
    rw [hs.stripOuterParens_eq]
    exact hv

end

/-! ## The ends of a clause -/

theorem Entry.tight_text (e : Entry) : Tight e.text :=
  tight_wrap e.item.solid_core.tight e.item.solid_core.ne_nil e.layers

theorem Entry.text_ne_nil (e : Entry) : e.text ≠ [] :=
  wrap_ne_nil e.item.solid_core.ne_nil e.layers

section

variable {name : List Char} (hn : isIdentifier name = true)
include hn

theorem Reference.tight_text (r : Reference) : Tight (r.text name) :=
  tight_wrap (tight_write hn r.style) (solid_write hn r.style).ne_nil r.layers

theorem Reference.text_ne_nil (r : Reference) : r.text name ≠ [] :=
  wrap_ne_nil (solid_write hn r.style).ne_nil r.layers

theorem Disjunct.tight_text (d : Disjunct) : Tight (d.text name) ∧ d.text name ≠ [] := by
  have h : Tight (equalityText (d.column.text name) d.entry.text) :=
    (d.column.tight_text hn).between (d.column.text_ne_nil hn) d.entry.tight_text
      d.entry.text_ne_nil [' ', '=', ' ']
  unfold text
  cases d.pairs with
  | zero => exact ⟨h, by simp [inParens, equalityText]⟩
  | succ n => exact ⟨tight_inPair _, by simp [inParens]⟩

theorem Body.tight_text (b : Body) : Tight (b.text name) := by
  have hcolumn := fun (r : Reference) {u : List Char} (hu : Tight u) (hne : u ≠ []) =>
    (r.tight_text hn).between (r.text_ne_nil hn) hu hne
  cases b with
  | anyArray r any array layers first others =>
    have h := hcolumn r (tight_inPair (wrap layers (arrayText array (entryList first others))))
      (by simp) (' ' :: '=' :: ' ' :: (any.text ++ [' ']))
    simpa [text, anyText, equalityText] using h
  | inList r word first others =>
    have h := hcolumn r (tight_inPair (entryList first others)) (by simp)
      (' ' :: (word.text ++ [' ']))
    simpa [text, inText] using h
  | orChain first others =>
    refine tight_orList fun u hu => ?_
    obtain ⟨d, rfl⟩ : ∃ d : Disjunct, d.text name = u := by
      simp only [List.map_map, List.mem_cons, List.mem_map] at hu
      rcases hu with rfl | ⟨⟨w, d⟩, -, rfl⟩
      · exact ⟨first, rfl⟩
      · exact ⟨d, rfl⟩
    exact d.tight_text hn
  | containedIn r array layers first others =>
    have hword := solid_spelling array (by decide) (by decide)
    have harray : Tight (arrayText array (entryList first others)) :=
      hword.tight.between hword.ne_nil (tight_brackets _) (by simp) []
    have hne : arrayText array (entryList first others) ≠ [] := by simp [arrayText]
    exact hcolumn r (tight_wrap harray hne layers) (wrap_ne_nil hne layers) [' ', '<', '@', ' ']

end

/-! ## The keyword before a clause -/

/-- A text whose first word is not `check`, whatever comes after it that is no word. -/
def Checkless (t : List Char) : Prop :=
  ∀ u, (∀ c, u.head? = some c → isIdentifierChar c = false) → dropCheck (t ++ u) = t ++ u

namespace Checkless

variable {t u : List Char}

theorem word (ht : ∀ c ∈ t, isIdentifierChar c = true)
    (hne : t.map Char.toLower ≠ ['c', 'h', 'e', 'c', 'k']) : Checkless t := by
  intro u hu
  have htake : (t ++ u).takeWhile isIdentifierChar = t := takeWhile_append_of_stop ht hu
  unfold dropCheck
  split
  next a b c d e f rest h =>
    split
    next hcond =>
      exfalso
      rw [Bool.and_eq_true, decide_eq_true_eq, Bool.or_eq_true, beq_iff_eq] at hcond
      obtain ⟨hword, hf⟩ := hcond
      have hletters : ∀ x ∈ [a, b, c, d, e], isIdentifierChar x = true := by
        intro x hx
        have hlower : x.toLower ∈ ['c', 'h', 'e', 'c', 'k'] := hword ▸ List.mem_map_of_mem hx
        have hall : ['c', 'h', 'e', 'c', 'k'].all isIdentifierChar = true := by decide
        exact isIdentifierChar_of_toLower (List.all_eq_true.mp hall _ hlower)
      have hstop : ∀ x, (f :: rest).head? = some x → isIdentifierChar x = false := by
        intro x hx
        obtain rfl : f = x := Option.some.inj hx
        refine Bool.eq_false_iff.mpr fun h => ?_
        rcases hf with hf | rfl
        · rw [(nameCharFacts h).blank] at hf
          cases hf
        · exact absurd h (by decide)
      have htake' : ([a, b, c, d, e] ++ f :: rest).takeWhile isIdentifierChar = [a, b, c, d, e] :=
        takeWhile_append_of_stop hletters hstop
      rw [h] at htake
      exact hne (by rw [← htake]; exact (congrArg _ htake').trans hword)
    · exact h ▸ rfl
  · rfl

theorem of_head {c : Char} (hc : isIdentifierChar c = false) (t : List Char) :
    Checkless (c :: t) := by
  intro u _
  exact word (t := []) (by simp) (by decide) (c :: t ++ u) fun d hd => by
    obtain rfl : c = d := Option.some.inj hd
    exact hc

theorem append (ht : Checkless t) (hne : u ≠ [])
    (hu : ∀ c, u.head? = some c → isIdentifierChar c = false) : Checkless (t ++ u) := by
  intro v _
  rw [List.append_assoc]
  refine ht _ fun c hc => ?_
  obtain ⟨d, u, rfl⟩ := List.exists_cons_of_ne_nil hne
  exact hu c hc

theorem wrap (ht : Checkless t) (layers : List Layer) : Checkless (wrap layers t) := by
  induction layers with
  | nil => exact ht
  | cons layer layers ih =>
    cases layer with
    | parens => exact of_head rfl _
    | cast k =>
      refine ih.append (List.cons_ne_nil _ _) fun c hc => ?_
      obtain rfl : ':' = c := Option.some.inj hc
      rfl

theorem inParens (ht : Checkless t) (n : Nat) : Checkless (inParens n t) := by
  cases n with
  | zero => exact ht
  | succ n => exact of_head rfl _

end Checkless

section

variable {name : List Char} (hn : isIdentifier name = true)
  (hcheck : name.map Char.toLower ≠ ['c', 'h', 'e', 'c', 'k'])
include hn hcheck

theorem NameStyle.checkless_write (style : NameStyle) : Checkless (style.write name) := by
  cases style with
  | bare => exact .word (forall_of_isIdentifier hn) hcheck
  | doubleQuoted | backticked | bracketed => exact .of_head rfl _

/-- A column and what comes after a blank. -/
theorem Reference.checkless_append (r : Reference) (t : List Char) :
    Checkless (r.text name ++ ' ' :: t) := by
  refine ((r.style.checkless_write hn hcheck).wrap r.layers).append (List.cons_ne_nil _ _) ?_
  intro c hc
  obtain rfl : ' ' = c := Option.some.inj hc
  rfl

theorem Body.checkless_text (b : Body) : Checkless (b.text name) := by
  cases b with
  | anyArray r any array layers first others => exact r.checkless_append hn hcheck _
  | inList r word first others => exact r.checkless_append hn hcheck _
  | orChain first others =>
    have hfirst : Checkless (first.text name) :=
      .inParens (first.column.checkless_append hn hcheck _) first.pairs
    cases others with
    | nil => simpa [text, orList_nil] using hfirst
    | cons p others =>
      obtain ⟨w, d⟩ := p
      rw [text, List.map_cons, orList_cons]
      refine hfirst.append (List.cons_ne_nil _ _) fun c hc => ?_
      obtain rfl : ' ' = c := Option.some.inj hc
      rfl
  | containedIn r array layers first others => exact r.checkless_append hn hcheck _

end

theorem dropCheck_check (w : Spelling "check") {t : List Char}
    (ht : ∀ c, t.head? = some c → isBlank c = false) :
    dropCheck (w.text ++ ' ' :: t) = t := by
  have hword : "check".toList = ['c', 'h', 'e', 'c', 'k'] := rfl
  obtain ⟨a, s, hs, ha, hs₁⟩ := List.map_eq_cons_iff.mp (w.lower.trans hword)
  obtain ⟨b, s, rfl, hb, hs₂⟩ := List.map_eq_cons_iff.mp hs₁
  obtain ⟨c, s, rfl, hc, hs₃⟩ := List.map_eq_cons_iff.mp hs₂
  obtain ⟨d, s, rfl, hd, hs₄⟩ := List.map_eq_cons_iff.mp hs₃
  obtain ⟨e, s, rfl, he, hs₅⟩ := List.map_eq_cons_iff.mp hs₄
  obtain rfl : s = [] := List.map_eq_nil_iff.mp hs₅
  have htrim : trimStart (' ' :: t) = t := by rw [trimStart_cons rfl, trimStart_of_head ht]
  rw [hs]
  simp [dropCheck, ha, hb, hc, hd, he, htrim, show isBlank ' ' = true from rfl]

/-! ## What a clause lists -/

section

variable {name : List Char} (hn : isIdentifier name = true)
include hn

theorem Body.text_ne_nil (b : Body) : b.text name ≠ [] := by
  cases b with
  | anyArray r any array layers first others => simp [text, anyText, equalityText]
  | inList r word first others => simp [text, inText]
  | orChain first others => exact orList_ne_nil (first.tight_text hn).2 _
  | containedIn r array layers first others => simp [text, containedText]

/-- What a clause is without its keyword. -/
theorem dropCheck_text (hcheck : name.map Char.toLower ≠ ['c', 'h', 'e', 'c', 'k']) (d : Clause) :
    dropCheck (trim (d.text name)) = inParens d.pairs (d.body.text name) := by
  obtain ⟨check, pairs, body⟩ := d
  have hbody := body.tight_text hn
  have htight : Tight (inParens pairs (body.text name)) ∧ inParens pairs (body.text name) ≠ [] := by
    cases pairs with
    | zero => exact ⟨hbody, body.text_ne_nil hn⟩
    | succ n => exact ⟨tight_inPair _, by simp [inParens]⟩
  cases check with
  | none =>
    have h := (body.checkless_text hn hcheck).inParens pairs [] (by simp)
    have htrim := htight.1.trim_eq
    rw [List.append_nil] at h
    simp only [Clause.text, Option.elim_none, List.nil_append, htrim, h]
  | some w =>
    have hw := solid_spelling w (by decide) (by decide)
    have h := (hw.tight.between hw.ne_nil htight.1 htight.2 [' ']).trim_eq
    simp only [Clause.text, Option.elim_some, List.append_assoc, h]
    exact dropCheck_check w htight.1.head

/-- What a clause is read as. -/
theorem prepare_text (hcheck : name.map Char.toLower ≠ ['c', 'h', 'e', 'c', 'k']) (d : Clause) :
    prepare (d.text name)
      = stripOuterParens (inParens d.pairs (d.body.fill (Reference.bare name))) := by
  have hcasts := (d.body.uncast_text hn).inParens d.pairs [] .nil
  rw [List.append_nil] at hcasts
  have hnil : mapPlain dropCasts [] = [] := rfl
  rw [prepare, dropCheck_text hn hcheck, hcasts, hnil, List.append_nil,
    mapPlain_fill keeps_unwrapNames (rewrites_unwrapNames hn)]

end

end ValidatorGen.Check
