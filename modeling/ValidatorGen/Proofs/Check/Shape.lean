/-
The four shapes of a prepared clause, each written for a column. The matcher of a shape
finds the column and the list or literal (`matchAnyArray?_anyText` and its siblings), and
the other matchers stop at the character after the column (`matchInList?_of_ne` and its
siblings). So a text of one shape has values under that shape only
(`values?_anyText` and its siblings).
-/
import ValidatorGen.Proofs.Check.Item
import ValidatorGen.Proofs.Check.Cast

namespace ValidatorGen.Check

open Text

/-- `col = …`. -/
def equalityText (column literal : List Char) : List Char :=
  column ++ ' ' :: '=' :: ' ' :: literal

/-- `ARRAY[…]`. -/
def arrayText (array : Spelling "array") (list : List Char) : List Char :=
  array.text ++ '[' :: (list ++ [']'])

/-- `col = ANY (…)`. -/
def anyText (column : List Char) (any : Spelling "any") (array : List Char) : List Char :=
  equalityText column (any.text ++ ' ' :: '(' :: (array ++ [')']))

/-- `col IN (…)`. -/
def inText (column : List Char) (word : Spelling "in") (list : List Char) : List Char :=
  column ++ ' ' :: (word.text ++ ' ' :: '(' :: (list ++ [')']))

/-- `col <@ …`. -/
def containedText (column array : List Char) : List Char :=
  column ++ ' ' :: '<' :: '@' :: ' ' :: array

/-- The keyword ANY in capitals. -/
def capitalAny : Spelling "any" := ⟨['A', 'N', 'Y'], rfl⟩

/-- The keyword ARRAY in capitals. -/
def capitalArray : Spelling "array" := ⟨['A', 'R', 'R', 'A', 'Y'], rfl⟩

/-- The keyword IN in capitals. -/
def capitalIn : Spelling "in" := ⟨['I', 'N'], rfl⟩

/-! ## Their brackets and their ends -/

theorem solid_arrayText (array : Spelling "array") {list : List Char} (hl : Nested list) :
    Solid (arrayText array list) :=
  (solid_spelling array (by decide) (by decide)).append (m := []) .nil (.brackets hl .nil)
    (tight_brackets list) (by simp)

theorem uncut_arrayText (array : Spelling "array") {list : List Char} (hl : Nested list)
    (sep : Separator) (rest : List Char) : Uncut sep (arrayText array list) rest := by
  refine .append (uncut_spelling array (by decide) (by decide) sep fun c hc => ?_) (.brackets hl)
  obtain rfl : '[' = c := by simpa using hc
  decide

/-- `ANY (…)` is solid by itself. -/
theorem solid_any (any : Spelling "any") {array : List Char} (ha : Nested array) :
    Solid (any.text ++ ' ' :: '(' :: (array ++ [')'])) :=
  (solid_spelling any (by decide) (by decide)).append (m := [' ']) (.plain rfl .nil) ha.inPair
    (tight_inPair array) (by simp)

/-- A column as it stands in a clause: it is scanned whole before a blank, closes its brackets
and starts with no parenthesis. -/
structure ColumnText (column : List Char) : Prop where
  solid : Solid column
  scan : ∀ rest, scanColumn? (column ++ ' ' :: rest) = some (column, ' ' :: rest)

/-- A column that is not cut before a blank. -/
def UncutColumn (sep : Separator) (column : List Char) : Prop :=
  ∀ rest, Uncut sep column (' ' :: rest)

section

variable {name : List Char} (hn : isIdentifier name = true) (style : NameStyle)
include hn

theorem columnText_write : ColumnText (style.write name) where
  solid := solid_write hn style
  scan rest := scanColumn?_write hn style fun c hc => by
    obtain rfl : ' ' = c := by simpa using hc
    rfl

theorem uncutColumn_write (hor : name.map Char.toLower ≠ ['o', 'r']) (sep : Separator) :
    UncutColumn sep (style.write name) := fun _ =>
  uncut_write hn hor sep style fun c hc => by simpa using hc.symm

end

section

variable {column : List Char} (hc : ColumnText column)
include hc

theorem solid_equalityText {literal : List Char} (hl : Nested literal) (ht : Tight literal)
    (hne : literal ≠ []) : Solid (equalityText column literal) :=
  hc.solid.append (m := [' ', '=', ' ']) (.plain rfl (.plain rfl (.plain rfl .nil))) hl ht hne

theorem solid_anyText (any : Spelling "any") {array : List Char} (ha : Nested array) :
    Solid (anyText column any array) :=
  have h := solid_any any ha
  solid_equalityText hc h.nested h.tight h.ne_nil

theorem solid_inText (word : Spelling "in") {list : List Char} (hl : Nested list) :
    Solid (inText column word list) := by
  have hword := solid_spelling word (by decide) (by decide)
  have hin : Solid (word.text ++ ([' '] ++ '(' :: (list ++ [')']))) :=
    hword.append (.plain rfl .nil) hl.inPair (tight_inPair list) (by simp)
  exact hc.solid.append (m := [' ']) (.plain rfl .nil) hin.nested hin.tight hin.ne_nil

theorem solid_containedText {array : List Char} (ha : Nested array) (ht : Tight array)
    (hne : array ≠ []) : Solid (containedText column array) :=
  hc.solid.append (m := [' ', '<', '@', ' '])
    (.plain rfl (.plain rfl (.plain rfl (.plain rfl .nil)))) ha ht hne

end

section

variable {sep : Separator} {column : List Char} (hc : UncutColumn sep column)
include hc

/-- A column and what comes after a blank is not cut when the rest is not. -/
theorem uncut_column {t rest : List Char} (ht : Uncut sep t rest) :
    Uncut sep (column ++ ' ' :: t) rest :=
  .append (hc (t ++ rest)) (.cons rfl ht)

theorem uncut_equalityText {literal rest : List Char} (hl : Uncut sep literal rest) :
    Uncut sep (equalityText column literal) rest :=
  uncut_column hc (.cons rfl (.cons rfl hl))

theorem uncut_anyText (any : Spelling "any") {array : List Char} (ha : Nested array)
    (rest : List Char) : Uncut sep (anyText column any array) rest := by
  refine uncut_equalityText hc (.append ?_ (.cons rfl (.parens ha)))
  refine uncut_spelling any (by decide) (by decide) sep fun c hc => ?_
  obtain rfl : ' ' = c := by simpa using hc
  decide

theorem uncut_inText (word : Spelling "in") {list : List Char} (hl : Nested list)
    (rest : List Char) : Uncut sep (inText column word list) rest := by
  refine uncut_column hc (.append ?_ (.cons rfl (.parens hl)))
  refine uncut_spelling word (by decide) (by decide) sep fun c hc => ?_
  obtain rfl : ' ' = c := by simpa using hc
  decide

theorem uncut_containedText {array rest : List Char} (ha : Uncut sep array rest) :
    Uncut sep (containedText column array) rest :=
  uncut_column hc (.cons rfl (.cons rfl (.cons rfl ha)))

end

/-! ## What matches them -/

theorem trimStart_blank_cons {c : Char} (hb : isBlank c = false) (rest : List Char) :
    trimStart (' ' :: c :: rest) = c :: rest := by
  rw [trimStart_cons rfl, trimStart_cons_of_not hb]

theorem stripToken?_blank (token : Char) (h : isBlank token = false) (rest : List Char) :
    stripToken? token (' ' :: token :: rest) = some rest := by
  simp [stripToken?, trimStart_blank_cons h]

theorem stripToken?_blank_of_ne {token c : Char} (hb : isBlank c = false) (h : c ≠ token)
    (rest : List Char) : stripToken? token (' ' :: c :: rest) = none := by
  simp [stripToken?, trimStart_blank_cons hb, h]

theorem bracketedList?_append (list : List Char) (n : Nat) :
    bracketedList? (list ++ ']' :: List.replicate n ')') = some list := by
  have hdrop : dropEndWhile (fun c => c == ')' || isBlank c)
      ((list ++ [']']) ++ List.replicate n ')') = list ++ [']'] := by
    refine dropEndWhile_append_of_stop (fun c hc => ?_) fun c hc => ?_
    · rw [List.getLast?_concat, Option.some.injEq] at hc
      subst hc
      rfl
    · rw [List.eq_of_mem_replicate hc]
      rfl
  have hform : list ++ ']' :: List.replicate n ')' = (list ++ [']']) ++ List.replicate n ')' := by
    simp
  obtain ⟨c, rest, hc⟩ : ∃ c rest, list ++ [']'] = c :: rest :=
    List.exists_cons_of_ne_nil (by simp)
  have hlast : (c :: rest).getLast? = some ']' := by rw [← hc, List.getLast?_concat]
  rw [bracketedList?, hform, hdrop, hc]
  simp only [if_pos hlast]
  rw [← hc, List.dropLast_concat]

/-- The list of an array is found in any number of parentheses. -/
theorem arrayList?_arrayText (array : Spelling "array") (list : List Char) (n : Nat) :
    arrayList? (' ' :: inParens n (arrayText array list)) = some list := by
  obtain ⟨c, t, ht, hc⟩ := exists_cons_of_spelling array 'a' rfl rfl
  have hopen : ∀ d ∈ ' ' :: List.replicate n '(', (d == '(' || isBlank d) = true := by
    intro d hd
    rcases List.mem_cons.mp hd with rfl | hd
    · rfl
    · rw [List.eq_of_mem_replicate hd]
      rfl
  have hstop : ∀ d, (arrayText array list ++ List.replicate n ')').head? = some d →
      (d == '(' || isBlank d) = false := by
    intro d hd
    rw [arrayText, ht] at hd
    obtain rfl : c = d := by simpa using hd
    have hp : c ≠ '(' := (nameCharFacts hc).ne rfl
    simp [hp, (nameCharFacts hc).blank]
  have hword := stripWord?_append array.lower (by decide)
    ('[' :: (list ++ ']' :: List.replicate n ')'))
  have hform : ' ' :: inParens n (arrayText array list)
      = (' ' :: List.replicate n '(') ++ (arrayText array list ++ List.replicate n ')') := by
    rw [inParens_eq]
    rfl
  have harray : arrayText array list ++ List.replicate n ')'
      = array.text ++ '[' :: (list ++ ']' :: List.replicate n ')') := by
    simp [arrayText]
  rw [arrayList?, hform, dropWhile_append_of_stop hopen hstop, harray]
  change (stripWord? "array".toList _).bind _ = _
  rw [hword, Option.bind_some, stripToken?_cons rfl, Option.bind_some, bracketedList?_append]

section

variable {column : List Char} (hc : ColumnText column)
include hc

theorem matchEquality?_equalityText {literal : List Char}
    (h : ∀ c, literal.head? = some c → isBlank c = false) :
    matchEquality? (equalityText (column) literal)
      = some (column, literal) := by
  have htrim : trimStart (' ' :: literal) = literal := by
    rw [trimStart_cons rfl, trimStart_of_head h]
  rw [matchEquality?, equalityText, hc.scan]
  simp only [Option.bind_eq_bind, Option.bind_some, stripToken?_blank '=' rfl, htrim]

theorem matchAnyArray?_anyText (any : Spelling "any") (array : Spelling "array")
    (list : List Char) (n : Nat) :
    matchAnyArray? (anyText (column) any (inParens n (arrayText array list)))
      = some (column, list) := by
  obtain ⟨c, t, ht, ha⟩ := exists_cons_of_spelling any 'a' rfl rfl
  have htrim : ∀ rest, trimStart (' ' :: (any.text ++ rest)) = any.text ++ rest := by
    intro rest
    rw [ht]
    exact trimStart_blank_cons (nameCharFacts ha).blank _
  have hword : ∀ rest, stripWord? ['a', 'n', 'y'] (any.text ++ rest) = some rest :=
    stripWord?_append any.lower (by decide)
  have harray := arrayList?_arrayText array list (n + 1)
  rw [inParens_succ] at harray
  rw [matchAnyArray?, anyText, equalityText, hc.scan]
  simp only [Option.bind_eq_bind, Option.bind_some, stripToken?_blank '=' rfl, htrim,
    hword, harray]

theorem matchInList?_inText (word : Spelling "in") (list : List Char) :
    matchInList? (inText (column) word list) = some (column, list) := by
  obtain ⟨c, t, ht, hi⟩ := exists_cons_of_spelling word 'i' rfl rfl
  have htrim : ∀ rest, trimStart (word.text ++ rest) = word.text ++ rest := by
    intro rest
    rw [ht]
    exact trimStart_cons_of_not (nameCharFacts hi).blank _
  have hword : ∀ rest, stripWord? ['i', 'n'] (word.text ++ rest) = some rest :=
    stripWord?_append word.lower (by decide)
  have hblanks : ∀ rest, stripWordAndBlanks? [] (' ' :: (word.text ++ rest))
      = some (word.text ++ rest) := by
    intro rest
    simp [stripWordAndBlanks?, stripWord?, htrim, show isBlank ' ' = true from rfl]
  rw [matchInList?, inText, hc.scan]
  simp only [Option.bind_eq_bind, Option.bind_some, hblanks, hword,
    stripToken?_blank '(' rfl, List.getLast?_concat, if_true, List.dropLast_concat]

theorem matchContainedIn?_containedText (array : Spelling "array") (list : List Char) (n : Nat) :
    matchContainedIn? (containedText (column) (inParens n (arrayText array list)))
      = some (column, list) := by
  have hat : ∀ rest, stripWord? ['@'] (['@'] ++ rest) = some rest :=
    stripWord?_append rfl (by decide)
  simp only [List.cons_append, List.nil_append] at hat
  rw [matchContainedIn?, containedText, hc.scan]
  simp only [Option.bind_eq_bind, Option.bind_some, stripToken?_blank '<' rfl, hat,
    arrayList?_arrayText array list n]

/-! ## What does not match them -/

theorem matchEquality?_of_ne {c : Char} (hb : isBlank c = false) (hne : c ≠ '=')
    (rest : List Char) : matchEquality? (column ++ ' ' :: c :: rest) = none := by
  rw [matchEquality?, hc.scan]
  simp only [Option.bind_eq_bind, Option.bind_some, stripToken?_blank_of_ne hb hne,
    Option.bind_none]

theorem matchAnyArray?_of_ne {c : Char} (hb : isBlank c = false) (hne : c ≠ '=')
    (rest : List Char) : matchAnyArray? (column ++ ' ' :: c :: rest) = none := by
  rw [matchAnyArray?, hc.scan]
  simp only [Option.bind_eq_bind, Option.bind_some, stripToken?_blank_of_ne hb hne,
    Option.bind_none]

theorem matchContainedIn?_of_ne {c : Char} (hb : isBlank c = false) (hne : c ≠ '<')
    (rest : List Char) : matchContainedIn? (column ++ ' ' :: c :: rest) = none := by
  rw [matchContainedIn?, hc.scan]
  simp only [Option.bind_eq_bind, Option.bind_some, stripToken?_blank_of_ne hb hne,
    Option.bind_none]

theorem matchInList?_of_ne {c : Char} (hb : isBlank c = false) (hi : sameLetter 'i' c = false)
    (rest : List Char) : matchInList? (column ++ ' ' :: c :: rest) = none := by
  have hblanks : stripWordAndBlanks? [] (' ' :: c :: rest) = some (c :: rest) := by
    simp [stripWordAndBlanks?, stripWord?, trimStart_cons_of_not hb,
      show isBlank ' ' = true from rfl]
  have hword : stripWord? ['i', 'n'] (c :: rest) = none := by simp [stripWord?, hi]
  rw [matchInList?, hc.scan]
  simp only [Option.bind_eq_bind, Option.bind_some, hblanks, hword, Option.bind_none]

/-- The word `any` is not there. -/
theorem matchAnyArray?_equalityText {c : Char} (hb : isBlank c = false)
    (ha : sameLetter 'a' c = false) (rest : List Char) :
    matchAnyArray? (equalityText (column) (c :: rest)) = none := by
  have hword : stripWord? ['a', 'n', 'y'] (c :: rest) = none := by simp [stripWord?, ha]
  rw [matchAnyArray?, equalityText, hc.scan]
  simp only [Option.bind_eq_bind, Option.bind_some, stripToken?_blank '=' rfl,
    trimStart_blank_cons hb, hword, Option.bind_none]

/-- The sign after `<` is not there. -/
theorem matchContainedIn?_of_ne_sign {c : Char} (hs : sameLetter '@' c = false)
    (rest : List Char) :
    matchContainedIn? (column ++ ' ' :: '<' :: c :: rest) = none := by
  have hsign : stripWord? ['@'] (c :: rest) = none := by simp [stripWord?, hs]
  rw [matchContainedIn?, hc.scan]
  simp only [Option.bind_eq_bind, Option.bind_some, stripToken?_blank '<' rfl, hsign,
    Option.bind_none]

end

end ValidatorGen.Check
