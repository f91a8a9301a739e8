/-
Plain clauses about a column, however it is written: CHECK and one pair of parentheses around one
of the four shapes, with nothing that decorates it (`plainText`). Where the column is scanned
whole, such a clause lists its literals (`values?_plainText`).
-/
import ValidatorGen.Proofs.Check.Enumeration

namespace ValidatorGen.Check

open Text

/-! ## Their text -/

section

variable (g : Grammar) (first : String) (others : List String) (column : List Char)

/-- The literals of a plain clause. -/
def plainList : List Char := itemList (.ofValue first) (others.map .ofValue)

/-- An alternative of a plain clause. -/
def plainEquality (v : String) : List Char := equalityText column (Item.ofValue v).text

/-- What a plain clause says of the column. -/
def plainText : List Char :=
  match g with
  | .anyArray => anyText column capitalAny (arrayText capitalArray (plainList first others))
  | .inList => inText column capitalIn (plainList first others)
  | .orChain =>
    orList (plainEquality column first) (others.map fun v => (['O', 'R'], plainEquality column v))
  | .containedIn => containedText column (arrayText capitalArray (plainList first others))

theorem fill_plain :
    (Body.plain first others g).fill (fun _ => column) = plainText g first others column := by
  cases g <;> simp only [Body.plain, Body.fill, plainText, plainList, List.map_map] <;> rfl

theorem text_plain : (Body.plain first others g).text column = plainText g first others column := by
  have hlist : entryList ⟨first, .none, []⟩ (others.map (⟨·, .none, []⟩))
      = plainList first others := by
    rw [entryList, plainList, itemList, List.map_cons, List.map_map, List.map_map]
    rfl
  cases g <;> simp only [Body.plain, Body.text, plainText, hlist, List.map_map] <;> rfl

theorem dropCheck_plain : dropCheck (trim ((Clause.plain g first others).text column))
    = inParens 1 (plainText g first others column) := by
  have htext : (Clause.plain g first others).text column
      = ['C', 'H', 'E', 'C', 'K'] ++ ' ' :: inParens 1 (plainText g first others column) := by
    rw [← text_plain]
    rfl
  have hcheck : Tight ['C', 'H', 'E', 'C', 'K'] := by
    constructor <;> (intro c hc; cases hc; rfl)
  have htight := hcheck.between (by simp) (tight_inPair (plainText g first others column)) (by simp)
    [' ']
  rw [htext]
  exact (congrArg dropCheck htight.trim_eq).trans
    (dropCheck_check ⟨['C', 'H', 'E', 'C', 'K'], rfl⟩ (tight_inPair _).head)

theorem plainText_orChain : ∃ more, plainText .orChain first others column
    = column ++ ' ' :: '=' :: ' ' :: quote :: more := by
  obtain ⟨value, hvalue⟩ : ∃ value, (Item.ofValue first).text = quote :: value := ⟨_, rfl⟩
  obtain ⟨rest, hrest⟩ : ∃ rest, plainText .orChain first others column
      = plainEquality column first ++ rest := ⟨_, rfl⟩
  exact ⟨value ++ rest, by simp [hrest, plainEquality, equalityText, hvalue]⟩

variable {first others column} in
/-- Every piece of a plain chain is an alternative. -/
theorem exists_plainEquality {u : List Char} (h : u ∈ plainEquality column first
      :: (others.map fun v => (['O', 'R'], plainEquality column v)).map Prod.snd) :
    ∃ v, u = plainEquality column v := by
  simp only [List.map_map, List.mem_cons, List.mem_map] at h
  rcases h with rfl | ⟨v, -, rfl⟩
  · exact ⟨first, rfl⟩
  · exact ⟨v, rfl⟩

/-- Before its first literal, nothing closes in a plain clause. -/
theorem exists_lead : ∃ s more, Opening s ∧ '"' ∉ s ∧ inParens 1 (plainText g first others column)
    = '(' :: (column ++ ' ' :: (s ++ quote :: more)) := by
  obtain ⟨list, hlist⟩ : ∃ list, plainList first others = quote :: list := by
    rw [plainList]
    cases others with
    | nil => exact ⟨_, commaList_singleton _⟩
    | cons e es => exact ⟨_, commaList_cons_cons _ _ _⟩
  cases g with
  | anyArray =>
    refine ⟨['=', ' ', 'A', 'N', 'Y', ' ', '(', 'A', 'R', 'R', 'A', 'Y', '['],
      list ++ [']', ')', ')'], by constructor <;> decide, by decide, ?_⟩
    simp [plainText, anyText, equalityText, arrayText, inParens, hlist, capitalAny, capitalArray]
  | inList =>
    refine ⟨['I', 'N', ' ', '('], list ++ [')', ')'], by constructor <;> decide, by decide, ?_⟩
    simp [plainText, inText, inParens, hlist, capitalIn]
  | orChain =>
    obtain ⟨more, hmore⟩ := plainText_orChain first others column
    refine ⟨['=', ' '], more ++ [')'], by constructor <;> decide, by decide, ?_⟩
    simp [inParens, hmore]
  | containedIn =>
    refine ⟨['<', '@', ' ', 'A', 'R', 'R', 'A', 'Y', '['], list ++ [']', ')'],
      by constructor <;> decide, by decide, ?_⟩
    simp [plainText, containedText, arrayText, inParens, hlist, capitalArray]

end

/-! ## Their values -/

section

variable {column : List Char} (hc : ColumnText column)
include hc

theorem solid_plainEquality (v : String) : Solid (plainEquality column v) :=
  solid_equalityText hc (Item.ofValue v).nested_text (Item.ofValue v).tight_text
    (Item.ofValue v).text_ne_nil

theorem solid_plainText (g : Grammar) (first : String) (others : List String) :
    Solid (plainText g first others column) := by
  have hlist := nested_itemList (.ofValue first) (others.map .ofValue)
  have harray := solid_arrayText capitalArray hlist
  cases g with
  | anyArray => exact solid_anyText hc capitalAny harray.nested
  | inList => exact solid_inText hc capitalIn hlist
  | orChain =>
    have hfirst := solid_plainEquality hc first
    constructor
    case nested =>
      refine nested_orList (fun p hp => ?_) fun u hu => ?_
      · obtain ⟨v, -, rfl⟩ := List.mem_map.mp hp
        exact .of_all_plain (t := ['O', 'R']) (by decide)
      · obtain ⟨v, rfl⟩ := exists_plainEquality hu
        exact (solid_plainEquality hc v).nested
    case tight =>
      refine tight_orList fun u hu => ?_
      obtain ⟨v, rfl⟩ := exists_plainEquality hu
      exact ⟨(solid_plainEquality hc v).tight, (solid_plainEquality hc v).ne_nil⟩
    case head =>
      have hhead := hfirst.head
      obtain ⟨c, t, ht⟩ := List.exists_cons_of_ne_nil hfirst.ne_nil
      rw [ht] at hhead
      rw [plainText, orList, ht]
      exact hhead
    case ne_nil => exact orList_ne_nil hfirst.ne_nil _
  | containedIn => exact solid_containedText hc harray.nested harray.tight harray.ne_nil

theorem equalityValue?_plainEquality (v : String) :
    equalityValue? (canonicalName column) (plainEquality column v) = some v.toList := by
  have hstrip := (solid_plainEquality hc v).stripOuterParens_eq 0
  have hvalue : literalValue? (Item.ofValue v).text = some v.toList :=
    (Item.ofValue v).literalValue?_text
  rw [inParens] at hstrip
  rw [equalityValue?, hstrip, plainEquality,
    matchEquality?_equalityText hc (Item.ofValue v).tight_text.head]
  simp only [Option.bind_eq_bind, Option.bind_some, if_true, hvalue]

omit hc in
theorem listValues?_plainList (column : List Char) (first : String) (others : List String) :
    listValues? (canonicalName column) (some (column, plainList first others))
      = some ((first :: others).map String.toList) := by
  have hvalues : (Item.ofValue first).value :: (others.map Item.ofValue).map Item.value
      = (first :: others).map String.toList := by
    rw [List.map_map]
    rfl
  have hitems := literalList?_itemList (.ofValue first) (others.map .ofValue)
  rw [hvalues, ← plainList] at hitems
  simp only [listValues?, Option.bind_eq_bind, Option.bind_some, if_true, hitems]

theorem orChain_values?_plainText (hcut : UncutColumn .orWord column) (first : String)
    (others : List String) :
    Grammar.orChain.values? (canonicalName column) (plainText .orChain first others column)
      = some ((first :: others).map String.toList) := by
  have hword : ∀ p ∈ others.map fun v => (['O', 'R'], plainEquality column v),
      p.1.map Char.toLower = ['o', 'r'] := by
    intro p hp
    obtain ⟨v, -, rfl⟩ := List.mem_map.mp hp
    rfl
  have hsplit := mapM_equalityValue?_orList (canonicalName column) (plainEquality column first) _
    hword fun u hu rest _ => by
      obtain ⟨v, rfl⟩ := exists_plainEquality hu
      exact uncut_equalityText hcut ((Item.ofValue v).uncut_text .orWord rest)
  have hmap : plainEquality column first
      :: (others.map fun v => (['O', 'R'], plainEquality column v)).map Prod.snd
      = (first :: others).map (plainEquality column) := by
    rw [List.map_map]
    rfl
  have heach : equalityValue? (canonicalName column) ∘ plainEquality column
      = fun v => some v.toList := funext (equalityValue?_plainEquality hc)
  rw [Grammar.values?, plainText, hsplit, hmap, List.mapM_map, heach]
  exact List.mapM_pure

/-- A plain clause lists its literals for its column. -/
theorem values?_plainText {g : Grammar} (hcut : g = .orChain → UncutColumn .orWord column)
    (first : String) (others : List String) :
    g.values? (canonicalName column) (plainText g first others column)
      = some ((first :: others).map String.toList) := by
  have hlist := listValues?_plainList column first others
  cases g with
  | anyArray =>
    have hmatch := matchAnyArray?_anyText hc capitalAny capitalArray (plainList first others) 0
    rw [inParens] at hmatch
    rw [Grammar.values?, plainText, hmatch, hlist]
  | inList => rw [Grammar.values?, plainText, matchInList?_inText hc, hlist]
  | orChain => exact orChain_values?_plainText hc (hcut rfl) first others
  | containedIn =>
    have hmatch := matchContainedIn?_containedText hc capitalArray (plainList first others) 0
    rw [inParens] at hmatch
    rw [Grammar.values?, plainText, hmatch, hlist]

end

end ValidatorGen.Check
