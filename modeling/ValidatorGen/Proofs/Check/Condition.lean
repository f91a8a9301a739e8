/-
Conditions of a row, put together from comparisons of columns with literals by AND, OR and
NOT, and printed with every operand in its own parentheses. What a printed condition lists
for a column is what the condition asks of it: **if values are extracted, then the condition
holds of exactly the rows whose column is one of them** (`holds_iff_mem_enumValues`).
-/
import ValidatorGen.Proofs.Check.Stretch
import ValidatorGen.Proofs.Check.Values

namespace ValidatorGen.Check

open Text

/-- The name of a column: an ASCII identifier that is not the word `or`. -/
structure ColumnName where
  text : String
  identifier : isIdentifier text.toList = true
  not_or : text.toLower ≠ "or"

/-- A comparison of a column with literals; a list of literals is not empty. -/
inductive Atom
  | equal (column : ColumnName) (value : String)
  | unequal (column : ColumnName) (value : String)
  | inList (column : ColumnName) (first : String) (others : List String)
  | notInList (column : ColumnName) (first : String) (others : List String)
  | anyArray (column : ColumnName) (first : String) (others : List String)

/-- What joins conditions. -/
inductive Connective
  | and
  | or
  deriving DecidableEq, Repr

/-- A condition of a row. -/
inductive Condition
  | atom (a : Atom)
  | not (k : Condition)
  | join (c : Connective) (first : Condition) (others : List Condition)

/-! ## What a condition means -/

/-- Whether a comparison holds of a row, which gives every lower-case name its value. -/
def Atom.holds (row : String → String) : Atom → Bool
  | .equal c v => row c.text.toLower == v
  | .unequal c v => row c.text.toLower != v
  | .inList c v vs => (v :: vs).contains (row c.text.toLower)
  | .notInList c v vs => !(v :: vs).contains (row c.text.toLower)
  | .anyArray c v vs => (v :: vs).contains (row c.text.toLower)

/-- All of the operands, or any of them. -/
def Connective.combine : Connective → List Bool → Bool
  | .and, bs => bs.all id
  | .or, bs => bs.any id

mutual

/-- Whether a condition holds of a row. -/
def Condition.holds (row : String → String) : Condition → Bool
  | .atom a => a.holds row
  | .not k => !k.holds row
  | .join c first others => c.combine (first.holds row :: holdsEach row others)

/-- Which of the conditions hold of a row. -/
def holdsEach (row : String → String) : List Condition → List Bool
  | [] => []
  | k :: ks => k.holds row :: holdsEach row ks

end

/-! ## How a condition is printed -/

/-- The text of a comparison. -/
def Atom.print : Atom → List Char
  | .equal c v => equalityText c.text.toList (quoted v.toList)
  | .unequal c v => c.text.toList ++ ' ' :: '<' :: '>' :: ' ' :: quoted v.toList
  | .inList c v vs =>
    inText c.text.toList capitalIn (itemList (.ofValue v) (vs.map .ofValue))
  | .notInList c v vs =>
    c.text.toList ++ ' ' :: 'N' :: 'O' :: 'T' :: ' ' ::
      (capitalIn.text ++ ' ' :: '(' :: (itemList (.ofValue v) (vs.map .ofValue) ++ [')']))
  | .anyArray c v vs =>
    anyText c.text.toList capitalAny
      (arrayText capitalArray (itemList (.ofValue v) (vs.map .ofValue)))

/-- The keyword of a connective. -/
def Connective.word : Connective → List Char
  | .and => ['A', 'N', 'D']
  | .or => ['O', 'R']

mutual

/-- The text of a condition. -/
def Condition.print : Condition → List Char
  | .atom a => a.print
  | .not k => 'N' :: 'O' :: 'T' :: ' ' :: '(' :: (k.print ++ [')'])
  | .join c first others => '(' :: (first.print ++ ')' :: printOthers c others)

/-- The operands after the first, each after its connective. -/
def printOthers (c : Connective) : List Condition → List Char
  | [] => []
  | k :: ks => ' ' :: (c.word ++ ' ' :: '(' :: (k.print ++ ')' :: printOthers c ks))

end

/-- The clause of a condition. -/
def Condition.clause (k : Condition) : String :=
  "CHECK (" ++ String.ofList k.print ++ ")"

/-! ## Induction on conditions -/

mutual

/-- What holds of every comparison and goes over from operands to conditions holds of every
condition. -/
@[elab_as_elim]
theorem Condition.induct {P : Condition → Prop} (atom : ∀ a, P (.atom a))
    (not : ∀ k, P k → P (.not k))
    (join : ∀ c first others, P first → (∀ k ∈ others, P k) → P (.join c first others)) :
    ∀ k, P k
  | .atom a => atom a
  | .not k => not k (Condition.induct atom not join k)
  | .join c first others =>
    join c first others (Condition.induct atom not join first)
      (Condition.induct_others atom not join others)

theorem Condition.induct_others {P : Condition → Prop} (atom : ∀ a, P (.atom a))
    (not : ∀ k, P k → P (.not k))
    (join : ∀ c first others, P first → (∀ k ∈ others, P k) → P (.join c first others)) :
    ∀ ks : List Condition, ∀ k ∈ ks, P k
  | [], _, h => absurd h (by simp)
  | k :: ks, _, h =>
    (List.mem_cons.mp h).elim (fun e => e ▸ Condition.induct atom not join k)
      (Condition.induct_others atom not join ks _)

end

/-! ## The text of a condition -/

theorem ColumnName.lower_ne (c : ColumnName) : c.text.toList.map Char.toLower ≠ ['o', 'r'] := by
  intro h
  refine c.not_or (String.toList_injective ?_)
  rw [toList_toLower, h]
  rfl

theorem ColumnName.columnText (c : ColumnName) : ColumnText c.text.toList :=
  columnText_write c.identifier .bare

theorem ColumnName.uncut (c : ColumnName) : UncutColumn .orWord c.text.toList :=
  uncutColumn_write c.identifier .bare c.lower_ne .orWord

theorem ColumnName.toLower_eq {c : ColumnName} {target : List Char}
    (h : c.text.toList.map Char.toLower = target) : c.text.toLower = String.ofList target :=
  String.toList_injective (by rw [toList_toLower, String.toList_ofList, h])

theorem Connective.opening_word (c : Connective) : Opening c.word := by
  cases c <;> constructor <;> decide

namespace Atom

theorem solid_print (a : Atom) : Solid a.print := by
  have hlist := fun (v : String) (vs : List String) =>
    nested_itemList (.ofValue v) (vs.map .ofValue)
  have hvalue := fun v : String => (Item.ofValue v).solid_core
  cases a with
  | equal c v =>
    have h := hvalue v
    exact solid_equalityText c.columnText h.nested h.tight h.ne_nil
  | unequal c v =>
    have h := hvalue v
    exact (solid_write c.identifier .bare).append (m := [' ', '<', '>', ' '])
      (.of_all_plain (by decide)) h.nested h.tight h.ne_nil
  | inList c v vs => exact solid_inText c.columnText capitalIn (hlist v vs)
  | notInList c v vs =>
    exact (solid_write c.identifier .bare).append (m := [' ', 'N', 'O', 'T', ' ', 'I', 'N', ' '])
      (.of_all_plain (by decide)) (hlist v vs).inPair (tight_inPair _) (by simp)
  | anyArray c v vs =>
    exact solid_anyText c.columnText capitalAny
      (solid_arrayText capitalArray (hlist v vs)).nested

theorem uncut_print (a : Atom) : Uncut .orWord a.print [] := by
  have hlist := fun (v : String) (vs : List String) =>
    nested_itemList (.ofValue v) (vs.map .ofValue)
  cases a with
  | equal c v => exact uncut_equalityText c.uncut (.quoted _)
  | unequal c v =>
    exact uncut_column c.uncut (.cons rfl (.cons rfl (.cons rfl (.quoted _))))
  | inList c v vs => exact uncut_inText c.uncut capitalIn (hlist v vs) _
  | notInList c v vs =>
    refine uncut_column c.uncut ?_
    have hin : Uncut .orWord (capitalIn.text ++ ' ' ::
        '(' :: (itemList (.ofValue v) (vs.map .ofValue) ++ [')'])) [] :=
      .append (uncut_word (by decide) (by decide) (by simp)) (.cons rfl (.parens (hlist v vs)))
    exact .append (s := ['N', 'O', 'T']) (uncut_word (by decide) (by decide) (by simp))
      (.cons rfl hin)
  | anyArray c v vs =>
    exact uncut_anyText c.uncut capitalAny
      (solid_arrayText capitalArray (hlist v vs)).nested _

theorem kept_print {f : List Char → List Char} (hf : Keeps f) (a : Atom) : Kept f a.print := by
  have hname : ∀ c : ColumnName, Opening c.text.toList := fun c => .write c.identifier .bare
  have hvalue : ∀ v : String, Kept f (quoted v.toList) := fun v => .quoted hf _
  have hlist := fun (v : String) (vs : List String) =>
    Kept.itemList hf (.ofValue v) (vs.map .ofValue)
  cases a with
  | equal c v =>
    exact (Kept.opening (s := [' ', '=', ' ']) (by constructor <;> decide) (hvalue v)).opening
      (hname c)
  | unequal c v =>
    exact (Kept.opening (s := [' ', '<', '>', ' ']) (by constructor <;> decide) (hvalue v)).opening
      (hname c)
  | inList c v vs =>
    have h := (hlist v vs).inParens 1
    exact (Kept.opening (s := [' ', 'I', 'N', ' ']) (by constructor <;> decide) h).opening (hname c)
  | notInList c v vs =>
    have h := (hlist v vs).inParens 1
    exact (Kept.opening (s := [' ', 'N', 'O', 'T', ' ', 'I', 'N', ' ']) (by constructor <;> decide)
      h).opening (hname c)
  | anyArray c v vs =>
    have h := ((hlist v vs).arrayText capitalArray).inParens 1
    exact (Kept.opening (s := [' ', '=', ' ', 'A', 'N', 'Y', ' ']) (by constructor <;> decide)
      h).opening (hname c)

/-- The column of a comparison. -/
def column : Atom → ColumnName
  | equal c _ | unequal c _ | inList c _ _ | notInList c _ _ | anyArray c _ _ => c

/-- The literals of a comparison. -/
def values : Atom → List String
  | equal _ v | unequal _ v => [v]
  | inList _ v vs | notInList _ v vs | anyArray _ v vs => v :: vs

/-- The shape of a comparison that allows its literals and nothing else. -/
def grammar? : Atom → Option Grammar
  | equal _ _ => some .orChain
  | inList _ _ _ => some .inList
  | anyArray _ _ _ => some .anyArray
  | unequal _ _ | notInList _ _ _ => none

theorem holds_of_grammar? {a : Atom} {g : Grammar} (h : a.grammar? = some g)
    (row : String → String) : a.holds row = a.values.contains (row a.column.text.toLower) := by
  cases a with
  | equal c v =>
    rw [Bool.eq_iff_iff]
    simp [holds, values, column]
  | inList c v vs | anyArray c v vs => rfl
  | unequal c v | notInList c v vs => cases h

/-- What a printed comparison lists. -/
theorem values?_print (a : Atom) (target : List Char) (g : Grammar) :
    g.values? target a.print = if a.grammar? = some g then
      listed target a.column.text.toList (a.values.map String.toList) else none := by
  have hvalues : ∀ vs : List String, (vs.map Item.ofValue).map Item.value = vs.map String.toList :=
    fun vs => by rw [List.map_map]; rfl
  cases a with
  | equal c v =>
    have hform : (equal c v).print
        = chainText c.text.toList { style := .bare, item := .ofValue v } [] := (orList_nil _).symm
    rw [hform]
    split
    · next hg =>
      obtain rfl : Grammar.orChain = g := Option.some.inj hg
      exact orChain_values?_chainText c.identifier c.lower_ne target _ []
    · next hg =>
      exact values?_chainText_of_ne c.identifier target _ [] fun h => hg (h ▸ rfl)
  | unequal c v =>
    have hc := matchContainedIn?_of_ne_sign c.columnText (c := '>') rfl
      (' ' :: quoted v.toList)
    exact values?_eq_none c.identifier .bare target (solid_print (.unequal c v))
      (uncut_print (.unequal c v)) (by decide) (by decide) rfl hc g
  | inList c v vs =>
    have h := values?_inText c.identifier .bare target c.lower_ne capitalIn (.ofValue v)
      (vs.map .ofValue) g
    rw [hvalues] at h
    exact h.trans (if_congr ⟨fun h => h ▸ rfl, fun h => (Option.some.inj h).symm⟩ rfl rfl)
  | notInList c v vs =>
    have hc := matchContainedIn?_of_ne c.columnText (c := 'N') rfl (by decide)
    exact values?_eq_none c.identifier .bare target (solid_print (.notInList c v vs))
      (uncut_print (.notInList c v vs)) (by decide) (by decide) rfl (hc _) g
  | anyArray c v vs =>
    have h := values?_anyText c.identifier .bare target c.lower_ne capitalAny capitalArray 0
      (.ofValue v) (vs.map .ofValue) g
    rw [hvalues] at h
    exact h.trans (if_congr ⟨fun h => h ▸ rfl, fun h => (Option.some.inj h).symm⟩ rfl rfl)

end Atom

theorem nested_printOthers (c : Connective) {ks : List Condition}
    (h : ∀ k ∈ ks, Nested k.print) : Nested (printOthers c ks) := by
  induction ks with
  | nil => exact .nil
  | cons k ks ih =>
    have hk := h k (by simp)
    have ih := ih fun k hk => h k (by simp [hk])
    have hword : Nested c.word := .of_all_plain (by cases c <;> decide)
    rw [printOthers]
    exact .plain rfl (hword.append (.plain rfl (.parens hk ih)))

theorem nested_print (k : Condition) : Nested k.print := by
  induction k using Condition.induct with
  | atom a => exact a.solid_print.nested
  | not k ih => exact .plain rfl (.plain rfl (.plain rfl (.plain rfl ih.inPair)))
  | join c first others ih ihs => exact .parens ih (nested_printOthers c ihs)

theorem kept_printOthers {f : List Char → List Char} (hf : Keeps f) (c : Connective)
    {k : Condition} {ks : List Condition} (hk : Kept f k.print) (h : ∀ k ∈ ks, Kept f k.print) :
    Kept f ('(' :: (k.print ++ ')' :: printOthers c ks)) := by
  induction ks generalizing k with
  | nil => exact hk.inParens 1
  | cons l ks ih =>
    have ih := ih (h l (by simp)) fun k hk => h k (by simp [hk])
    have hblank : Opening [' '] := by constructor <;> decide
    have hnext : Kept f (' ' :: (c.word ++ ' ' :: '(' :: (l.print ++ ')' :: printOthers c ks))) :=
      .opening hblank (.opening c.opening_word (.opening hblank ih))
    have hform : '(' :: (k.print ++ ')' :: printOthers c (l :: ks))
        = inParens 1 k.print
          ++ ' ' :: (c.word ++ ' ' :: '(' :: (l.print ++ ')' :: printOthers c ks)) := by
      simp [printOthers, inParens]
    rw [hform]
    exact (hk.inParens 1).append hf hnext (by simp) (by simp; decide)

theorem kept_print {f : List Char → List Char} (hf : Keeps f) (k : Condition) : Kept f k.print := by
  induction k using Condition.induct with
  | atom a => exact a.kept_print hf
  | not k ih =>
    exact .opening (s := ['N', 'O', 'T', ' ']) (by constructor <;> decide) (ih.inParens 1)
  | join c first others ih ihs => exact kept_printOthers hf c ih ihs

/-! ## Without the parentheses around it -/

namespace Condition

/-- The condition without connectives that join nothing. -/
def core : Condition → Condition
  | .join _ k [] => k.core
  | k => k

theorem holds_core (row : String → String) (k : Condition) : k.core.holds row = k.holds row := by
  induction k using core.induct with
  | case1 c k ih =>
    rw [core, ih, holds, holdsEach]
    cases c <;> simp [Connective.combine]
  | case2 k h => rw [core]; exact h

theorem core_core (k : Condition) : k.core.core = k.core := by
  induction k using core.induct with
  | case1 c k ih => rw [core, ih]
  | case2 k h => rw [core.eq_2 k h, core.eq_2 k h]

theorem core_ne (k : Condition) (c : Connective) (first : Condition) :
    k.core ≠ .join c first [] := by
  induction k using core.induct with
  | case1 c' k ih => rwa [core]
  | case2 k h =>
    rw [core.eq_2 k h]
    exact h c first

theorem isIdentifier_not : isIdentifier ['N', 'O', 'T'] = true := rfl

theorem solid_not (k : Condition) : Solid (Condition.not k).print :=
  (solid_write isIdentifier_not .bare).append (m := [' ']) (.plain rfl .nil)
    (nested_print k).inPair (tight_inPair k.print) (by simp)

theorem uncut_not (k : Condition) : Uncut .orWord (Condition.not k).print [] :=
  uncut_column (uncutColumn_write isIdentifier_not .bare (by decide) _) (.parens (nested_print k))

theorem tight_join (c : Connective) (first : Condition) (others : List Condition) :
    Tight (Condition.join c first others).print := by
  rw [print]
  induction others generalizing first with
  | nil => exact tight_inPair first.print
  | cons k others ih =>
    have hform : '(' :: (first.print ++ ')' :: printOthers c (k :: others))
        = ('(' :: (first.print ++ [')'])) ++ ((' ' :: (c.word ++ [' ']))
          ++ '(' :: (k.print ++ ')' :: printOthers c others)) := by
      simp [printOthers]
    rw [hform]
    exact (tight_inPair first.print).between (by simp) (ih k) (by simp) _

/-- The parentheses that are taken off a printed condition. -/
theorem stripOuterParens_print (k : Condition) : stripOuterParens k.print = k.core.print := by
  induction k using core.induct with
  | case1 c k ih =>
    rw [core, ← ih, print, printOthers]
    exact stripOuterParens_inPair (nested_print k)
  | case2 k h =>
    rw [core.eq_2 k h]
    cases k with
    | atom a => exact a.solid_print.stripOuterParens_eq 0
    | not k => exact (solid_not k).stripOuterParens_eq 0
    | join c first others =>
      cases others with
      | nil => exact absurd rfl (h c first)
      | cons l others =>
        have ht := tight_join c first (l :: others)
        exact stripOuterParens_group (nested_print first) (by simp [printOthers]) ht

/-- What a clause is read as. -/
theorem prepare_clause (k : Condition) : prepare k.clause.toList = k.core.print := by
  have htext : k.clause.toList
      = 'C' :: 'H' :: 'E' :: 'C' :: 'K' :: ' ' :: '(' :: (k.print ++ [')']) := by
    simp [clause]
  have htight : Tight k.clause.toList := by
    rw [htext]
    have hcheck : Tight ['C', 'H', 'E', 'C', 'K'] := by
      constructor <;> (intro c hc; cases hc; rfl)
    exact hcheck.between (by simp) (tight_inPair k.print) (by simp) [' ']
  have hcheck : dropCheck k.clause.toList = '(' :: (k.print ++ [')']) := by
    rw [htext]
    rfl
  have hcasts := ((kept_print keeps_dropCasts k).inParens 1).mapPlain_eq keeps_dropCasts
  have hnames := ((kept_print keeps_unwrapNames k).inParens 1).mapPlain_eq keeps_unwrapNames
  rw [inParens, inParens] at hcasts hnames
  rw [prepare, htight.trim_eq, hcheck, hcasts, hnames,
    stripOuterParens_inPair (nested_print k), stripOuterParens_print]

/-! ## What a condition lists -/

theorem values?_not (k : Condition) (target : List Char) (g : Grammar) :
    g.values? target (Condition.not k).print = none := by
  have hcontained := matchContainedIn?_of_ne (columnText_write isIdentifier_not .bare) (c := '(')
    rfl (by decide) (k.print ++ [')'])
  exact values?_eq_none isIdentifier_not .bare target (solid_not k) (uncut_not k) (by decide)
    (by decide) rfl hcontained g

theorem uncut_and (first : Condition) (others : List Condition) :
    Uncut .orWord (Condition.join .and first others).print [] := by
  rw [print]
  induction others generalizing first with
  | nil => exact .parens (nested_print first)
  | cons k others ih =>
    have hform : '(' :: (first.print ++ ')' :: printOthers .and (k :: others))
        = ('(' :: (first.print ++ [')'])) ++ ' ' :: (['A', 'N', 'D']
          ++ ' ' :: '(' :: (k.print ++ ')' :: printOthers .and others)) := by
      simp [printOthers, Connective.word]
    have hword : Uncut .orWord ['A', 'N', 'D']
        (' ' :: '(' :: (k.print ++ ')' :: printOthers .and others) ++ []) :=
      uncut_word (by decide) (by decide) (by simp)
    rw [hform]
    exact .append (.parens (nested_print first)) (.cons rfl (.append hword (.cons rfl (ih k))))

/-- A conjunction lists nothing. -/
theorem values?_and (first l : Condition) (others : List Condition) (target : List Char)
    (g : Grammar) : g.values? target (Condition.join .and first (l :: others)).print = none := by
  by_cases hg : g = .orChain
  · subst hg
    have hstrip : stripOuterParens (Condition.join .and first (l :: others)).print
        = (Condition.join .and first (l :: others)).print := stripOuterParens_print _
    refine orChain_values?_eq_none (uncut_and first (l :: others)) ?_
    rw [equalityValue?, hstrip]
    rfl
  · exact values?_open target _ hg

/-- The literal of a condition that is one equality with the column of that name. -/
def equal? (target : List Char) (k : Condition) : Option String :=
  match k.core with
  | .atom (.equal c v) => listed target c.text.toList v
  | _ => none

theorem holds_of_equal? {target : List Char} {k : Condition} {v : String}
    (h : k.equal? target = some v) (row : String → String) :
    k.holds row = (row (String.ofList target) == v) := by
  rw [← holds_core]
  unfold equal? at h
  split at h
  next c w hk =>
    unfold listed at h
    split at h
    next hc =>
      obtain rfl : w = v := Option.some.inj h
      rw [hk, holds, Atom.holds, ColumnName.toLower_eq hc]
    · cases h
  · cases h

theorem equalityValue?_print (target : List Char) (k : Condition) :
    equalityValue? target k.print = (k.equal? target).map String.toList := by
  have hcore : equalityValue? target k.print = equalityValue? target k.core.print := by
    rw [equalityValue?, equalityValue?, stripOuterParens_print, stripOuterParens_print, core_core]
  rw [hcore, equal?]
  cases hk : k.core with
  | atom a =>
    have hvalues := a.values?_print target .orChain
    cases a
    case equal c v =>
      have h := equalityValue?_inParens c.identifier .bare target (.ofValue v) 0
      refine h.trans ?_
      simp only [listed]
      split <;> rfl
    all_goals
      rw [if_neg (by simp [Atom.grammar?])] at hvalues
      exact equalityValue?_eq_none_of_orChain (Atom.uncut_print _) hvalues
  | not k => exact equalityValue?_eq_none_of_orChain (uncut_not k) (values?_not k target .orChain)
  | join c first others =>
    have hstrip := stripOuterParens_print k.core
    rw [core_core, hk] at hstrip
    rw [equalityValue?, hstrip]
    rfl

theorem print_or (first : Condition) (others : List Condition) :
    (Condition.join .or first others).print = orList (inParens 1 first.print)
      (others.map fun k => (['O', 'R'], inParens 1 k.print)) := by
  rw [print]
  induction others generalizing first with
  | nil =>
    rw [List.map_nil, orList_nil]
    rfl
  | cons k others ih =>
    have ih := ih k
    rw [List.map_cons, orList_cons, ← ih]
    simp [printOthers, inParens, Connective.word]

theorem mapM_equalityValue? (target : List Char) (ks : List Condition) :
    (ks.map fun k => inParens 1 k.print).mapM (equalityValue? target)
      = (ks.mapM (equal? target)).map (List.map String.toList) := by
  induction ks with
  | nil => rfl
  | cons k ks ih =>
    have hpair : equalityValue? target (inParens 1 k.print) = equalityValue? target k.print := by
      rw [equalityValue?, equalityValue?, inParens, inParens,
        stripOuterParens_inPair (nested_print k)]
    rw [List.map_cons, List.mapM_cons, List.mapM_cons, hpair, equalityValue?_print, ih]
    cases k.equal? target with
    | none => rfl
    | some v => cases ks.mapM (equal? target) <;> rfl

/-- A disjunction lists the literals of its operands, if all are equalities with the column. -/
theorem values?_or (first l : Condition) (others : List Condition) (target : List Char)
    (g : Grammar) : g.values? target (Condition.join .or first (l :: others)).print
      = if g = .orChain then
          ((first :: l :: others).mapM (equal? target)).map (List.map String.toList)
        else none := by
  split
  · next hg =>
    subst hg
    have hsplit := mapM_equalityValue?_orList target (inParens 1 first.print)
      ((l :: others).map fun k => (['O', 'R'], inParens 1 k.print))
      (fun p hp => by obtain ⟨k, -, rfl⟩ := List.mem_map.mp hp; rfl)
      (fun u hu rest _ => by
        obtain ⟨k, rfl⟩ : ∃ k : Condition, inParens 1 k.print = u := by
          simp only [List.map_map, List.mem_cons, List.mem_map] at hu
          rcases hu with rfl | ⟨k, -, rfl⟩
          · exact ⟨first, rfl⟩
          · exact ⟨k, rfl⟩
        exact .parens (nested_print k))
    rw [Grammar.values?, print_or, hsplit, List.map_map]
    exact mapM_equalityValue? target (first :: l :: others)
  · next hg => exact values?_open target _ hg

theorem any_holds_of_mapM {target : List Char} {ks : List Condition} {vs : List String}
    (h : ks.mapM (equal? target) = some vs) (row : String → String) :
    (holdsEach row ks).any id = vs.contains (row (String.ofList target)) := by
  induction ks generalizing vs with
  | nil =>
    obtain rfl : [] = vs := Option.some.inj h
    rfl
  | cons k ks ih =>
    rw [List.mapM_cons] at h
    cases hk : k.equal? target with
    | none =>
      rw [hk] at h
      cases h
    | some v =>
      cases hks : ks.mapM (equal? target) with
      | none =>
        rw [hk, hks] at h
        cases h
      | some ws =>
        rw [hk, hks] at h
        obtain rfl : v :: ws = vs := Option.some.inj h
        rw [holdsEach, List.any_cons, ih hks, holds_of_equal? hk, List.contains_cons]
        rfl

/-- What is listed for a prepared condition is what the condition asks of the column. -/
theorem holds_core_of_allValues (k : Condition) {target : List Char} {vs : List String}
    (hvs : allValues target k.core.print = vs.map String.toList) (hne : vs ≠ [])
    (row : String → String) : k.core.holds row = vs.contains (row (String.ofList target)) := by
  -- a condition that no grammar reads has no values
  have hnone : ∀ {t : List Char}, (∀ g : Grammar, g.values? target t = none) →
      t = k.core.print → False := by
    intro t h ht
    rw [← ht, allValues_of_none h] at hvs
    exact hne (List.map_eq_nil_iff.mp hvs.symm)
  have hinj : ∀ {ws : List String}, ws.map String.toList = vs.map String.toList → ws = vs :=
    fun h => (List.map_inj_right fun _ _ => String.toList_injective).mp h
  cases hk : k.core with
  | atom a =>
    cases hg : a.grammar? with
    | none =>
      refine (hnone (t := a.print) (fun g => ?_) (by rw [hk, print])).elim
      rw [a.values?_print, hg, if_neg nofun]
    | some g₀ =>
      have hvalues : ∀ g : Grammar, g.values? target a.print = if g = g₀ then
          listed target a.column.text.toList (a.values.map String.toList) else none := by
        intro g
        rw [a.values?_print, hg]
        exact if_congr ⟨fun h => (Option.some.inj h).symm, fun h => h ▸ rfl⟩ rfl rfl
      rw [hk, print, allValues_of_grammar hvalues, listed] at hvs
      split at hvs
      next hc =>
        rw [holds, Atom.holds_of_grammar? hg, ColumnName.toLower_eq hc, hinj hvs]
      · exact absurd (List.map_eq_nil_iff.mp hvs.symm) hne
  | not l => exact (hnone (values?_not l target) (by rw [hk])).elim
  | join c first others =>
    cases others with
    | nil => exact absurd hk (core_ne k c first)
    | cons l others =>
      cases c with
      | and => exact (hnone (values?_and first l others target) (by rw [hk])).elim
      | or =>
        rw [hk, allValues_of_grammar (values?_or first l others target)] at hvs
        cases hws : (first :: l :: others).mapM (equal? target) with
        | none =>
          rw [hws] at hvs
          exact absurd (List.map_eq_nil_iff.mp hvs.symm) hne
        | some ws =>
          rw [hws] at hvs
          rw [← hinj hvs]
          exact any_holds_of_mapM hws row

end Condition

/-- **What is extracted from the clause of a condition is what the condition asks**: if there
are values at all, the condition holds of a row exactly when the value of the column is one
of them. -/
theorem holds_iff_mem_enumValues (k : Condition) (c : ColumnName)
    (h : enumValues c.text [k.clause] ≠ []) (row : String → String) :
    k.holds row = true ↔ row c.text.toLower ∈ enumValues c.text [k.clause] := by
  have hname : canonicalName c.text.toList = c.text.toList.map Char.toLower :=
    canonicalName_write c.identifier .bare
  obtain ⟨vs, hvs⟩ : ∃ vs : List String,
      allValues (c.text.toList.map Char.toLower) k.core.print = vs.map String.toList :=
    ⟨(allValues (c.text.toList.map Char.toLower) k.core.print).map String.ofList, by
      rw [List.map_map]
      exact ((List.map_congr_left fun v _ => String.toList_ofList).trans (List.map_id _)).symm⟩
  have henum : enumValues c.text [k.clause] = vs.eraseDups :=
    enumValues_of_allValues (by rw [hname, k.prepare_clause, hvs])
  have hne : vs ≠ [] := by
    rintro rfl
    exact h henum
  have hcore := k.holds_core_of_allValues hvs hne row
  rw [henum, List.mem_eraseDups, ← k.holds_core, hcore, ColumnName.toLower_eq rfl]
  exact List.contains_iff_mem

/-- A column named in mixed case. -/
def statusColumn : ColumnName where
  text := "Status"
  identifier := by decide
  not_or := by
    rw [← String.toList_inj.ne, toList_toLower]
    decide

/-- A disjunction whose literals look like more of it. -/
def statusCondition : Condition :=
  .join .or (.atom (.equal statusColumn "open")) [.atom (.equal statusColumn "it's OR ')")]

theorem holds_iff_mem_enumValues_status :
    enumValues "Status" [statusCondition.clause] ≠ [] ∧
      (statusCondition.holds (fun _ => "open") = true ↔
        "open" ∈ enumValues "Status" [statusCondition.clause]) := by
  have hne : enumValues "Status" [statusCondition.clause] ≠ [] := by decide +kernel
  exact ⟨hne, holds_iff_mem_enumValues statusCondition statusColumn hne fun _ => "open"⟩

end ValidatorGen.Check
