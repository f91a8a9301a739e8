/-
Enumerations in the clauses of a column. **A printed enumeration is read back**, each value
once (`enumValues_printClause`), and **what decorates a clause does not change what is read**
(`enumValues_decorated`).
-/
import ValidatorGen.Proofs.Check.Clause

namespace ValidatorGen.Check

open Text

/-! ## Printing an enumeration -/

/-- A value as a literal. -/
def literal (v : String) : String := String.ofList (quoted v.toList)

/-- Literals with commas between them. -/
def literals (vs : List String) : String := ", ".intercalate (vs.map literal)

/-- The clause of the given shape that lists the values of a column. -/
def printClause (g : Grammar) (column : String) (vs : List String) : String :=
  match g with
  | .anyArray => "CHECK (" ++ column ++ " = ANY (ARRAY[" ++ literals vs ++ "]))"
  | .inList => "CHECK (" ++ column ++ " IN (" ++ literals vs ++ "))"
  | .orChain =>
    "CHECK (" ++ " OR ".intercalate (vs.map fun v => column ++ " = " ++ literal v) ++ ")"
  | .containedIn => "CHECK (" ++ column ++ " <@ ARRAY[" ++ literals vs ++ "])"

/-- A decorated clause about the column of that name. -/
def Clause.print (d : Clause) (name : String) : String := String.ofList (d.text name.toList)

/-- What the plain clause of the given shape says. -/
def Body.plain (first : String) (others : List String) : Grammar → Body
  | .anyArray =>
    .anyArray {} capitalAny capitalArray [] ⟨first, .none, []⟩ (others.map (⟨·, .none, []⟩))
  | .inList => .inList {} capitalIn ⟨first, .none, []⟩ (others.map (⟨·, .none, []⟩))
  | .orChain =>
    .orChain ⟨{}, ⟨first, .none, []⟩, 0⟩
      (others.map fun v => (⟨['O', 'R'], rfl⟩, ⟨{}, ⟨v, .none, []⟩, 0⟩))
  | .containedIn => .containedIn {} capitalArray [] ⟨first, .none, []⟩ (others.map (⟨·, .none, []⟩))

/-- The plain clause of the given shape. -/
def Clause.plain (g : Grammar) (first : String) (others : List String) : Clause where
  check := some ⟨['C', 'H', 'E', 'C', 'K'], rfl⟩
  pairs := 1
  body := .plain first others g

theorem values_plain (g : Grammar) (first : String) (others : List String) :
    (Body.plain first others g).values = first :: others := by
  have hmap : ∀ {α : Type} (f : α → String) (g : String → α), (∀ v, f (g v) = v) →
      (others.map g).map f = others := by
    intro α f g h
    rw [List.map_map]
    exact (List.map_congr_left fun v _ => h v).trans (List.map_id others)
  cases g <;> exact congrArg (first :: ·) (hmap _ _ fun _ => rfl)

theorem toList_literals (vs : List String) :
    (literals vs).toList = commaList (vs.map fun v => quoted v.toList) := by
  rw [literals, String.toList_intercalate, List.map_map]
  exact congrArg commaList (List.map_congr_left fun v _ => String.toList_ofList)

theorem entryList_plain (first : String) (others : List String) :
    entryList ⟨first, .none, []⟩ (others.map (⟨·, .none, []⟩))
      = commaList ((first :: others).map fun v => quoted v.toList) := by
  rw [entryList, List.map_cons, List.map_map]
  rfl

theorem orList_eq_intercalate (t : List Char) (ts : List (List Char)) :
    orList t (ts.map fun u => (['O', 'R'], u)) = [' ', 'O', 'R', ' '].intercalate (t :: ts) := by
  induction ts generalizing t with
  | nil => simp [orList_nil, List.intercalate]
  | cons u ts ih =>
    have ih := ih u
    rw [List.map_cons, orList_cons, ih]
    simp [List.intercalate]

/-- The plain clause is the printed one. -/
theorem print_plain (g : Grammar) (column first : String) (others : List String) :
    (Clause.plain g first others).print column = printClause g column (first :: others) := by
  have hbody : (printClause g column (first :: others)).toList
      = ['C', 'H', 'E', 'C', 'K', ' ', '(']
        ++ ((Body.plain first others g).text column.toList ++ [')']) := by
    cases g with
    | anyArray =>
      simp [printClause, Body.plain, Body.text, anyText, equalityText, arrayText, wrap,
        Reference.text, NameStyle.write, toList_literals, entryList_plain, capitalAny, capitalArray]
    | inList =>
      simp [printClause, Body.plain, Body.text, inText, wrap, Reference.text, NameStyle.write,
        toList_literals, entryList_plain, capitalIn]
    | orChain =>
      have hitem : ∀ v : String, (column ++ " = " ++ literal v).toList
          = equalityText column.toList (quoted v.toList) := by
        simp [equalityText, literal]
      have hchain : (Body.plain first others .orChain).text column.toList
          = [' ', 'O', 'R', ' '].intercalate
            ((first :: others).map fun v => equalityText column.toList (quoted v.toList)) := by
        rw [List.map_cons, ← orList_eq_intercalate, Body.plain, Body.text, List.map_map,
          List.map_map]
        rfl
      have hlist : ((first :: others).map fun v => column ++ " = " ++ literal v).map String.toList
          = (first :: others).map fun v => equalityText column.toList (quoted v.toList) := by
        rw [List.map_map]
        exact List.map_congr_left fun v _ => hitem v
      rw [hchain, ← hlist, printClause, String.toList_append, String.toList_append,
        String.toList_intercalate]
      rfl
    | containedIn =>
      simp [printClause, Body.plain, Body.text, containedText, arrayText, wrap, Reference.text,
        NameStyle.write, toList_literals, entryList_plain, capitalArray]
  refine String.toList_injective ?_
  rw [hbody, Clause.print, String.toList_ofList]
  rfl

/-! ## Reading it back -/

theorem isIdentifier_of_toLower {s t : List Char} (h : t.map Char.toLower = s.map Char.toLower)
    (hs : isIdentifier s = true) : isIdentifier t = true := by
  have hchar : ∀ {a b : Char}, b.toLower = a.toLower → isIdentifierChar a = true →
      isIdentifierChar b = true := by
    intro a b hb ha
    refine isIdentifierChar_of_toLower (hb ▸ ?_)
    exact forall_ascii (P := fun a => isIdentifierChar a = true → isIdentifierChar a.toLower = true)
      (by decide) (nameCharFacts ha).ascii ha
  have hstart : ∀ {a b : Char}, b.toLower = a.toLower → isNameStart a = true →
      isNameStart b = true := by
    intro a b hb ha
    refine isNameStart_of_toLower (hb ▸ ?_)
    exact forall_ascii (P := fun a => isNameStart a = true → isNameStart a.toLower = true)
      (by decide) (nameCharFacts (isIdentifierChar_of_isNameStart ha)).ascii ha
  obtain ⟨a, s, rfl, ha⟩ := exists_cons_of_isIdentifier hs
  obtain ⟨b, t, rfl, hb, ht⟩ := List.map_eq_cons_iff.mp h
  have hrest : ∀ d ∈ t, isIdentifierChar d = true := by
    intro d hd
    have hmem : d.toLower ∈ s.map Char.toLower := ht ▸ List.mem_map_of_mem hd
    obtain ⟨e, he, hed⟩ := List.mem_map.mp hmem
    exact hchar hed.symm (forall_of_isIdentifier hs e (List.mem_cons_of_mem _ he))
  rw [isIdentifier, hstart hb ha, List.all_eq_true.mpr hrest]
  rfl

/-- The queried column in any letter case has the canonical name of the column. -/
theorem canonicalName_of_toLower {c q : String} (hc : isIdentifier c.toList = true)
    (hq : q.toLower = c.toLower) : canonicalName q.toList = c.toList.map Char.toLower := by
  have hlower : q.toList.map Char.toLower = c.toList.map Char.toLower := by
    rw [← String.toList_map, ← String.toList_map]
    exact congrArg String.toList hq
  have hq' : isIdentifier q.toList = true := isIdentifier_of_toLower hlower hc
  exact (canonicalName_write hq' .bare).trans hlower

section

variable {c : String} (hc : isIdentifier c.toList = true) (hor : c.toLower ≠ "or")
  (hcheck : c.toLower ≠ "check")
include hc hor hcheck

/-- A clause lists its values for its own column and none for another. -/
theorem enumValues_print (q : String) (d : Clause) :
    enumValues q [d.print c]
      = if c.toList.map Char.toLower = canonicalName q.toList then d.body.values.eraseDups
        else [] := by
  have hlower : ∀ w : String, c.toLower ≠ w → c.toList.map Char.toLower ≠ w.toList := by
    intro w hne h
    refine hne (String.toList_injective ?_)
    rw [toList_toLower, h]
  have hvalues : allValues (canonicalName q.toList) (prepare (d.print c).toList)
      = (listed (canonicalName q.toList) c.toList (d.body.values.map String.toList)).getD [] := by
    rw [Clause.print, String.toList_ofList, prepare_text hc (hlower "check" hcheck)]
    exact allValues_fill hc (hlower "or" hor) _ _ _
  unfold listed at hvalues
  split
  · next h =>
    rw [if_pos h] at hvalues
    exact enumValues_of_allValues hvalues
  · next h =>
    rw [if_neg h] at hvalues
    have hnone : allValues (canonicalName q.toList) (prepare (d.print c).toList)
        = ([] : List String).map String.toList := hvalues
    exact enumValues_of_allValues hnone

/-- **A printed enumeration is read back**: its values come out in order, each once. -/
theorem enumValues_printClause (g : Grammar) {q : String} (hq : q.toLower = c.toLower)
    {vs : List String} (hne : vs ≠ []) :
    enumValues q [printClause g c vs] = vs.eraseDups := by
  obtain ⟨first, others, rfl⟩ := List.exists_cons_of_ne_nil hne
  have h := enumValues_print hc hor hcheck q (Clause.plain g first others)
  rw [print_plain, if_pos (canonicalName_of_toLower hc hq).symm] at h
  rw [h, Clause.plain, values_plain]

omit hc hor hcheck in
theorem enumValues_printClause_status :
    "STATUS".toLower = "Status".toLower ∧
      enumValues "STATUS" [printClause .orChain "Status" ["it's", "a' OR 'b", "it's"]]
        = ["it's", "a' OR 'b", "it's"].eraseDups := by
  have hlower : "STATUS".toLower = "Status".toLower := by
    rw [← String.toList_inj, toList_toLower, toList_toLower]
    decide
  have hor : "Status".toLower ≠ "or" := by
    rw [← String.toList_inj.ne, toList_toLower]
    decide
  have hcheck : "Status".toLower ≠ "check" := by
    rw [← String.toList_inj.ne, toList_toLower]
    decide
  exact ⟨hlower, enumValues_printClause (by decide) hor hcheck .orChain hlower (by decide)⟩

/-- **Decoration does not change what is read**: whatever column is asked for, a decorated
clause lists the values that the plain clause of its shape lists. -/
theorem enumValues_decorated (q : String) (d : Clause) :
    enumValues q [d.print c] = enumValues q [printClause d.body.grammar c d.body.values] := by
  obtain ⟨first, others, hvs⟩ : ∃ first others, d.body.values = first :: others := by
    cases d.body <;> exact ⟨_, _, rfl⟩
  rw [hvs, ← print_plain, enumValues_print hc hor hcheck, enumValues_print hc hor hcheck, hvs,
    Clause.plain, values_plain]

end

/-- A clause without CHECK, all in parentheses, casts and quotes. -/
def sampleClause : Clause where
  check := none
  pairs := 2
  body := .inList
    { style := .backticked
      layers := [.cast { type := .text, spelling := ⟨"Text".toList, rfl⟩ }, .parens, .parens] }
    ⟨['i', 'N'], rfl⟩
    { value := "it's"
      introducer := .national true
      layers :=
        [.parens,
          .cast { type := .varchar, spelling := ⟨"varchar".toList, rfl⟩, length := some 20 }] }
    [{ value := "b", introducer := .charset "utf8mb4".toList rfl }]

example : sampleClause.print "status"
    = "((((\x60status\x60))::Text iN ((N'it''s'::varchar(20)), _utf8mb4'b')))" := by decide

theorem enumValues_sampleClause :
    isIdentifier "status".toList = true ∧
      enumValues "status" [sampleClause.print "status"]
        = enumValues "status" [printClause .inList "status" ["it's", "b"]] := by
  have hor : "status".toLower ≠ "or" := by
    rw [← String.toList_inj.ne, toList_toLower]
    decide
  have hcheck : "status".toLower ≠ "check" := by
    rw [← String.toList_inj.ne, toList_toLower]
    decide
  exact ⟨by decide, enumValues_decorated (by decide) hor hcheck "status" sampleClause⟩

end ValidatorGen.Check
