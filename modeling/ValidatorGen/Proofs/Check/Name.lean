/-
Column names in clauses. An ASCII identifier may be written bare, between double quotes or
backticks, or in square brackets (`NameStyle`); however it is written, it is scanned whole
(`scanName?_write`) and has the same canonical name (`canonicalName_write`).
-/
import ValidatorGen.Check.Grammar
import ValidatorGen.Proofs.Check.Cut

namespace ValidatorGen.Check

open Text

/-- A character of an identifier: an ASCII letter, a digit or the underscore. -/
def isIdentifierChar (c : Char) : Bool := c.isAlphanum || c == '_'

/-- An ASCII letter or the underscore, and then letters, digits and underscores. -/
def isIdentifier : List Char → Bool
  | [] => false
  | c :: rest => isNameStart c && rest.all isIdentifierChar

/-- How a name is enclosed. -/
inductive NameStyle
  | bare
  | doubleQuoted
  | backticked
  | bracketed
  deriving DecidableEq, Repr

/-- The name as it is written. -/
def NameStyle.write (name : List Char) : NameStyle → List Char
  | .bare => name
  | .doubleQuoted => '"' :: (name ++ ['"'])
  | .backticked => backtick :: (name ++ [backtick])
  | .bracketed => '[' :: (name ++ [']'])

/-! ## Characters of names -/

/-- What a character of an identifier is and what it is not. -/
structure NameCharFacts (c : Char) : Prop where
  ascii : isAscii c = true
  name : isNameChar c = true
  inner : isInner c = true
  blank : isBlank c = false
  mark : isNameQuote c = false

theorem nameCharFacts {c : Char} (h : isIdentifierChar c = true) : NameCharFacts c := by
  have ha : isAscii c = true := by
    simp only [isIdentifierChar, Bool.or_eq_true, beq_iff_eq] at h
    rcases h with h | rfl
    · exact isAscii_of_isAlphanum h
    · rfl
  have hall := forall_ascii (P := fun c => isIdentifierChar c = true →
    isNameChar c = true ∧ isInner c = true ∧ isBlank c = false ∧ isNameQuote c = false)
    (by decide) ha h
  obtain ⟨h₁, h₂, h₃, h₄⟩ := hall
  exact ⟨ha, h₁, h₂, h₃, h₄⟩

theorem NameCharFacts.ne {c d : Char} (h : NameCharFacts c) (hd : isNameChar d = false) :
    c ≠ d := by
  rintro rfl
  rw [h.name] at hd
  cases hd

theorem isIdentifierChar_of_isNameStart {c : Char} (h : isNameStart c = true) :
    isIdentifierChar c = true := by
  simp only [isNameStart, isIdentifierChar, Char.isAlphanum, Bool.or_eq_true] at h ⊢
  rcases h with h | h
  · exact .inl (.inl h)
  · exact .inr h

theorem forall_of_isIdentifier {name : List Char} (h : isIdentifier name = true) :
    ∀ c ∈ name, isIdentifierChar c = true := by
  cases name with
  | nil => cases h
  | cons c name =>
    simp only [isIdentifier, Bool.and_eq_true, List.all_eq_true] at h
    intro d hd
    rcases List.mem_cons.mp hd with rfl | hd
    · exact isIdentifierChar_of_isNameStart h.1
    · exact h.2 d hd

theorem exists_cons_of_isIdentifier {name : List Char} (h : isIdentifier name = true) :
    ∃ c rest, name = c :: rest ∧ isNameStart c = true := by
  cases name with
  | nil => cases h
  | cons c rest =>
    rw [isIdentifier, Bool.and_eq_true] at h
    exact ⟨c, rest, rfl, h.1⟩

theorem isIdentifierChar_of_toLower {c : Char} (h : isIdentifierChar c.toLower = true) :
    isIdentifierChar c = true := by
  have ha := isAscii_of_toLower (nameCharFacts h).ascii
  exact forall_ascii (P := fun c => isIdentifierChar c.toLower = true → isIdentifierChar c = true)
    (by decide) ha h

theorem isNameStart_of_toLower {c : Char} (h : isNameStart c.toLower = true) :
    isNameStart c = true := by
  have ha := isAscii_of_toLower (nameCharFacts (isIdentifierChar_of_isNameStart h)).ascii
  exact forall_ascii (P := fun c => isNameStart c.toLower = true → isNameStart c = true)
    (by decide) ha h

section

variable {name : List Char} (hn : isIdentifier name = true)
include hn

theorem nameCharFacts_of_mem {c : Char} (hc : c ∈ name) : NameCharFacts c :=
  nameCharFacts (forall_of_isIdentifier hn c hc)

theorem nested_write (style : NameStyle) : Nested (style.write name) := by
  have hname : Nested name := .of_all_plain <| List.all_eq_true.mpr fun c hc =>
    (isInner_iff.mp (nameCharFacts_of_mem hn hc).inner).1
  cases style with
  | bare => exact hname
  | doubleQuoted => exact .plain rfl (hname.append (.plain rfl .nil))
  | backticked => exact .plain rfl (hname.append (.plain rfl .nil))
  | bracketed => exact .brackets hname .nil

/-- A character that no name character is, nor any mark around names, is not in a name. -/
theorem not_mem_write {d : Char} (hd : isNameChar d = false) (hm : isNameQuote d = false)
    (style : NameStyle) : d ∉ style.write name := by
  have hname : d ∉ name := fun h => (nameCharFacts_of_mem hn h).ne hd rfl
  have hmark : ∀ m : Char, isNameQuote m = true → d ≠ m := by
    rintro m hm' rfl
    rw [hm] at hm'
    cases hm'
  cases style with
  | bare => exact hname
  | doubleQuoted => simp [NameStyle.write, hname, hmark '"' rfl]
  | backticked => simp [NameStyle.write, hname, hmark backtick rfl]
  | bracketed => simp [NameStyle.write, hname, hmark '[' rfl, hmark ']' rfl]

/-- What a written name starts with. -/
theorem head?_write (style : NameStyle) : ∃ c rest, style.write name = c :: rest ∧
    (isNameStart c = true ∨ c = '"' ∨ c = backtick ∨ c = '[') := by
  cases style with
  | bare =>
    obtain ⟨c, rest, rfl, hc⟩ := exists_cons_of_isIdentifier hn
    exact ⟨c, rest, rfl, .inl hc⟩
  | doubleQuoted => exact ⟨'"', _, rfl, by simp⟩
  | backticked => exact ⟨backtick, _, rfl, by simp⟩
  | bracketed => exact ⟨'[', _, rfl, by simp⟩

theorem tight_write (style : NameStyle) : Tight (style.write name) where
  head c h := by
    obtain ⟨d, rest, hw, hd⟩ := head?_write hn style
    rw [hw, List.head?_cons, Option.some.injEq] at h
    subst h
    rcases hd with hd | rfl | rfl | rfl
    · exact (nameCharFacts (isIdentifierChar_of_isNameStart hd)).blank
    all_goals rfl
  last c h := by
    cases style
    case bare => exact (nameCharFacts_of_mem hn (List.mem_of_getLast? h)).blank
    all_goals
      rw [NameStyle.write, ← List.cons_append, List.getLast?_concat] at h
      cases h
      rfl

theorem solid_write (style : NameStyle) : Solid (style.write name) where
  nested := nested_write hn style
  tight := tight_write hn style
  head h := by
    have hmem := List.mem_of_head? h
    exact not_mem_write hn rfl rfl style hmem
  ne_nil h := by
    obtain ⟨c, rest, hw, -⟩ := head?_write hn style
    simp [hw] at h

/-- A name other than `or` is not cut. -/
theorem uncut_write (hor : name.map Char.toLower ≠ ['o', 'r']) (sep : Separator)
    (style : NameStyle) {rest : List Char} (hr : ∀ c, rest.head? = some c → c = ' ') :
    Uncut sep (style.write name) rest := by
  have hword : ∀ {rest : List Char}, (∀ c, rest.head? = some c → c.toLower ≠ 'r') →
      Uncut sep name rest := fun h =>
    .word (fun c hc => (nameCharFacts_of_mem hn hc).inner) hor h
  have hclosed : ∀ {m : Char}, startsNothing m = true → m.toLower ≠ 'r' →
      Uncut sep (m :: (name ++ [m])) rest := by
    intro m hm hne
    refine .cons hm (.append (hword fun c hc => ?_) (.cons hm .nil))
    obtain rfl : m = c := by simpa using hc
    exact hne
  cases style with
  | bare =>
    refine hword fun c hc => ?_
    rw [hr c hc]
    decide
  | doubleQuoted => exact hclosed rfl (by decide)
  | backticked => exact hclosed rfl (by decide)
  | bracketed =>
    exact .brackets (.of_all_plain <| List.all_eq_true.mpr fun c hc =>
      (isInner_iff.mp (nameCharFacts_of_mem hn hc).inner).1)

/-! ## Scanning a name -/

omit hn in
/-- A name is scanned up to the first mark that closes it. -/
theorem scanQuotedName?_of_not_mem (opening : Char) {closing : Char} (hne : name ≠ [])
    (hc : closing ∉ name) (rest : List Char) :
    scanQuotedName? opening closing (name ++ closing :: rest)
      = some (opening :: (name ++ [closing]), rest) := by
  have hall : ∀ c ∈ name, decide (c ≠ closing) = true := fun c hmem => by
    simpa using fun heq : c = closing => hc (heq ▸ hmem)
  have hstop : ∀ c, (closing :: rest).head? = some c → decide (c ≠ closing) = false := by simp
  obtain ⟨c, body, rfl⟩ := List.exists_cons_of_ne_nil hne
  rw [scanQuotedName?, takeWhile_append_of_stop hall hstop, dropWhile_append_of_stop hall hstop]
  rfl

theorem scanQuotedName?_append (opening : Char) {closing : Char} (hc : isNameChar closing = false)
    (rest : List Char) : scanQuotedName? opening closing (name ++ closing :: rest)
      = some (opening :: (name ++ [closing]), rest) := by
  obtain ⟨c, body, hbody, -⟩ := exists_cons_of_isIdentifier hn
  exact scanQuotedName?_of_not_mem opening (hbody ▸ List.cons_ne_nil c body)
    (fun hmem => (nameCharFacts_of_mem hn hmem).ne hc rfl) rest

/-- A written name is scanned whole, if no name character comes after it. -/
theorem scanName?_write {start : Char → Bool} (hs : ∀ c, isNameStart c = true → start c = true)
    (style : NameStyle) {rest : List Char}
    (hr : ∀ c, rest.head? = some c → isNameChar c = false) :
    scanName? start (style.write name ++ rest) = some (style.write name, rest) := by
  cases style with
  | bare =>
    obtain ⟨c, body, rfl, hc⟩ := exists_cons_of_isIdentifier hn
    have hne : ∀ d : Char, isNameChar d = false → c ≠ d := fun d hd =>
      (nameCharFacts_of_mem hn (c := c) (by simp)).ne hd
    have hbody : ∀ d ∈ body, isNameChar d = true := fun d hd =>
      (nameCharFacts_of_mem hn (List.mem_cons_of_mem _ hd)).name
    rw [NameStyle.write, List.cons_append, scanName?, if_neg (hne '"' rfl),
      if_neg (hne backtick rfl), if_neg (hne '[' rfl), if_pos (hs c hc),
      takeWhile_append_of_stop hbody hr, dropWhile_append_of_stop hbody hr]
  | doubleQuoted =>
    rw [NameStyle.write, List.cons_append, List.append_assoc, scanName?, if_pos rfl]
    exact scanQuotedName?_append hn '"' rfl rest
  | backticked =>
    rw [NameStyle.write, List.cons_append, List.append_assoc, scanName?, if_neg (by decide),
      if_pos rfl]
    exact scanQuotedName?_append hn backtick rfl rest
  | bracketed =>
    rw [NameStyle.write, List.cons_append, List.append_assoc, scanName?, if_neg (by decide),
      if_neg (by decide), if_pos rfl]
    exact scanQuotedName?_append hn '[' rfl rest

theorem scanColumn?_write (style : NameStyle) {rest : List Char}
    (hr : ∀ c, rest.head? = some c → isNameChar c = false) :
    scanColumn? (style.write name ++ rest) = some (style.write name, rest) :=
  scanName?_write hn (fun c hc => by simp [isFoldedNameStart, hc]) style hr

/-! ## The canonical name -/

omit hn in
/-- Without the marks around it, a name that is not empty and has none is the name. -/
theorem stripWhile_write (hne : name ≠ []) (hm : ∀ c ∈ name, isNameQuote c = false)
    (style : NameStyle) : stripWhile isNameQuote (style.write name) = name := by
  have hlast : ∀ c, name.getLast? = some c → isNameQuote c = false := fun c hc =>
    hm c (List.mem_of_getLast? hc)
  have hstart : ∀ t : List Char, (name ++ t).dropWhile isNameQuote = name ++ t := by
    intro t
    obtain ⟨c, rest, rfl⟩ := List.exists_cons_of_ne_nil hne
    rw [List.cons_append, List.dropWhile_cons_of_neg (by simp [hm c])]
  cases style
  case bare =>
    have h := hstart []
    rw [List.append_nil] at h
    rw [NameStyle.write, stripWhile, h, dropEndWhile_of_last hlast]
  all_goals
    rw [NameStyle.write, stripWhile, List.dropWhile_cons_of_pos rfl, hstart,
      dropEndWhile_concat_of_pos rfl, dropEndWhile_of_last hlast]

/-- However a name is written, its canonical form is its lower case. -/
theorem canonicalName_write (style : NameStyle) :
    canonicalName (style.write name) = name.map Char.toLower := by
  obtain ⟨c, rest, hname, -⟩ := exists_cons_of_isIdentifier hn
  have hne : name ≠ [] := hname ▸ List.cons_ne_nil c rest
  have hm : ∀ c ∈ name, isNameQuote c = false := fun c hc => (nameCharFacts_of_mem hn hc).mark
  rw [canonicalName, (tight_write hn style).trim_eq, stripWhile_write hne hm style]
  exact lowercase_of_ascii fun c hc => (nameCharFacts_of_mem hn hc).ascii

end

/-! ## Keywords -/

theorem isIdentifierChar_of_spelling {word : String} (w : Spelling word)
    (hw : word.toList.all isIdentifierChar = true) :
    ∀ c ∈ w.text, isIdentifierChar c = true := by
  intro c hc
  have hmem : c.toLower ∈ word.toList := w.lower ▸ List.mem_map_of_mem hc
  exact isIdentifierChar_of_toLower (List.all_eq_true.mp hw _ hmem)

theorem exists_cons_of_spelling {word : String} (w : Spelling word) (first : Char)
    {rest : List Char} (hw : word.toList = first :: rest) (hf : isIdentifierChar first = true) :
    ∃ c t, w.text = c :: t ∧ isIdentifierChar c = true := by
  obtain ⟨c, t, ht, hc, -⟩ := List.map_eq_cons_iff.mp (w.lower.trans hw)
  exact ⟨c, t, ht, isIdentifierChar_of_toLower (by rw [hc]; exact hf)⟩

theorem solid_spelling {word : String} (w : Spelling word) (hne : word.toList ≠ [])
    (hw : word.toList.all isIdentifierChar = true) : Solid w.text := by
  have hchar := isIdentifierChar_of_spelling w hw
  constructor
  case nested =>
    refine .of_all_plain (List.all_eq_true.mpr fun c hc => ?_)
    exact (isInner_iff.mp (nameCharFacts (hchar c hc)).inner).1
  case tight =>
    exact ⟨fun c hc => (nameCharFacts (hchar c (List.mem_of_head? hc))).blank,
      fun c hc => (nameCharFacts (hchar c (List.mem_of_getLast? hc))).blank⟩
  case head =>
    intro h
    exact (nameCharFacts (hchar _ (List.mem_of_head? h))).ne rfl rfl
  case ne_nil =>
    intro h
    have hlower := w.lower
    rw [h] at hlower
    exact hne hlower.symm

theorem uncut_spelling {word : String} (w : Spelling word)
    (hw : word.toList.all isIdentifierChar = true) (hor : word.toList ≠ ['o', 'r'])
    (sep : Separator) {rest : List Char} (hr : ∀ c, rest.head? = some c → c.toLower ≠ 'r') :
    Uncut sep w.text rest :=
  .word (fun c hc => (nameCharFacts (isIdentifierChar_of_spelling w hw c hc)).inner)
    (by rw [w.lower]; exact hor) hr

end ValidatorGen.Check
