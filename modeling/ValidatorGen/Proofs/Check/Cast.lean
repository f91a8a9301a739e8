/-
Casts as they are written after columns, literals and arrays. A cast is dropped whole when
what comes after it does not go on with it (`stripCast?_text`), and so a clause without its
casts is put together from its parts (`mapPlain_dropCasts_cast`, `mapPlain_dropCasts_append`).
-/
import ValidatorGen.Proofs.Check.Name

namespace ValidatorGen.Check

open Text

/-- The types that columns and literals are cast to. -/
inductive CastType
  | text
  | varchar
  | bpchar
  | characterVarying
  deriving DecidableEq, Repr

/-- The name of a type, in lower case. -/
def CastType.word : CastType → String
  | .text => "text"
  | .varchar => "varchar"
  | .bpchar => "bpchar"
  | .characterVarying => "character varying"

/-- A cast: a type in some letter case, perhaps a length, and any number of dimensions. -/
structure Cast where
  type : CastType
  spelling : Spelling type.word
  length : Option Nat := none
  dimensions : Nat := 0

/-- So many pairs of square brackets with nothing in them. -/
def emptyBrackets : Nat → List Char
  | 0 => []
  | n + 1 => '[' :: ']' :: emptyBrackets n

/-- A length in parentheses. -/
def lengthText : Option Nat → List Char
  | none => []
  | some n => '(' :: (n.repr.toList ++ [')'])

/-- The text of a cast. -/
def Cast.text (k : Cast) : List Char :=
  ':' :: ':' :: (k.spelling.text ++ (lengthText k.length ++ emptyBrackets k.dimensions))

/-- What ends a type name: none of these goes on with it. -/
def endsTypeName (c : Char) : Bool :=
  c == ' ' || c == ')' || c == ']' || c == ',' || c == ':' || c == '(' || c == '['

/-- What comes after a cast does not go on with it. -/
structure EndsCast (rest : List Char) : Prop where
  head : ∀ c, rest.head? = some c → endsTypeName c = true
  next : ∀ c, (trimStart rest).head? = some c → c ≠ '(' ∧ c ≠ '['

theorem forall_endsTypeName {P : Char → Prop} [DecidablePred P]
    (h : [' ', ')', ']', ',', ':', '(', '['].all (P ·) = true) {c : Char}
    (hc : endsTypeName c = true) : P c := by
  simp only [endsTypeName, Bool.or_eq_true, beq_iff_eq] at hc
  exact forall_mem_of_all h c (by simpa [or_assoc] using hc)

/-! ## Type names -/

theorem stripPhrase?_of_ne {w c : Char} (h : sameLetter w c = false) (word second t : List Char) :
    stripPhrase? (w :: word) second (c :: t) = none := by
  simp [stripPhrase?, stripWordAndBlanks?, stripWord?, h]

theorem stripPhrase?_of_ne_second {w v c d : Char} (h : sameLetter v d = false)
    (word second t : List Char) : stripPhrase? (w :: v :: word) second (c :: d :: t) = none := by
  by_cases hw : sameLetter w c = true <;>
    simp [stripPhrase?, stripWordAndBlanks?, stripWord?, h, hw]

theorem stripTimePhrase?_of_ne {c d : Char}
    (h : sameLetter 't' c = false ∨ sameLetter 'i' d = false) (t : List Char) :
    stripTimePhrase? (c :: d :: t) = none := by
  by_cases hc : sameLetter 't' c = true
  · have hd : sameLetter 'i' d = false := by simpa [hc] using h
    simp [stripTimePhrase?, stripWord?, hc, hd]
  · simp [stripTimePhrase?, stripWord?, hc]

theorem stripTypeWord?_append {c : Char} {t rest : List Char} (hc : isNameStart c = true)
    (ht : ∀ d ∈ t, isIdentifierChar d = true)
    (hr : ∀ d, rest.head? = some d → endsTypeName d = true) :
    stripTypeWord? (c :: (t ++ rest)) = some rest := by
  have hquote : ∀ {d : Char} (more : List Char), isAscii d = true → d.toLower ≠ '"' →
      stripOptional ['"'] (d :: more) = d :: more := by
    intro d more ha hd
    have hs : sameLetter '"' d = false := sameLetter_eq_false rfl rfl
      (forall_ascii (P := fun d => isAscii d.toLower = true) (by decide) ha) (Ne.symm hd)
    simp [stripOptional, stripWord?, hs]
  have hc' := isIdentifierChar_of_isNameStart hc
  have hne : c.toLower ≠ '"' :=
    forall_ascii (P := fun c => isIdentifierChar c = true → c.toLower ≠ '"') (by decide)
      (nameCharFacts hc').ascii hc'
  have hword : ∀ d ∈ t, (isWordChar d || d == '.') = true := by
    intro d hd
    have h := ht d hd
    exact forall_ascii (P := fun d => isIdentifierChar d = true → (isWordChar d || d == '.') = true)
      (by decide) (nameCharFacts h).ascii h
  have hstop : ∀ d, rest.head? = some d → (isWordChar d || d == '.') = false := fun d hd =>
    forall_endsTypeName (P := fun d => (isWordChar d || d == '.') = false) (by decide) (hr d hd)
  have hrest : stripOptional ['"'] rest = rest := by
    cases rest with
    | nil => rfl
    | cons d rest =>
      have h := hr d rfl
      exact hquote rest (forall_endsTypeName (P := fun d => isAscii d = true) (by decide) h)
        (forall_endsTypeName (P := fun d => d.toLower ≠ '"') (by decide) h)
  rw [stripTypeWord?, hquote _ (nameCharFacts hc').ascii hne]
  simp only [isFoldedNameStart, hc, Bool.true_or, if_true]
  rw [dropWhile_append_of_stop hword hstop, hrest]

/-- A type name of one word that starts like none of the phrases is dropped whole. -/
theorem stripTypeName?_word {t word rest : List Char} {c d : Char}
    (ht : t.map Char.toLower = c :: d :: word) (hc : isNameStart c = true)
    (hword : (d :: word).all isIdentifierChar = true)
    (hphrase : 'c' ≠ c ∧ 'd' ≠ c ∧ 'i' ≠ d)
    (hr : ∀ d, rest.head? = some d → endsTypeName d = true) :
    stripTypeName? (t ++ rest) = some rest := by
  obtain ⟨c', t, rfl, rfl, ht'⟩ := List.map_eq_cons_iff.mp ht
  obtain ⟨d', t, rfl, rfl, rfl⟩ := List.map_eq_cons_iff.mp ht'
  have hword := List.all_eq_true.mp hword
  have hca : isAscii c'.toLower = true := (nameCharFacts (isIdentifierChar_of_isNameStart hc)).ascii
  have hda : isAscii d'.toLower = true := (nameCharFacts (hword d'.toLower (by simp))).ascii
  have hcc : sameLetter 'c' c' = false := sameLetter_eq_false rfl rfl hca hphrase.1
  have hcd : sameLetter 'd' c' = false := sameLetter_eq_false rfl rfl hca hphrase.2.1
  have hdi : sameLetter 'i' d' = false := sameLetter_eq_false rfl rfl hda hphrase.2.2
  have hrest : ∀ e ∈ d' :: t, isIdentifierChar e = true := by
    intro e he
    exact isIdentifierChar_of_toLower (hword e.toLower (by simpa using List.mem_map_of_mem he))
  have hlast := stripTypeWord?_append (isNameStart_of_toLower hc) hrest hr
  rw [stripTypeName?, List.cons_append, List.cons_append, stripPhrase?_of_ne hcc,
    stripPhrase?_of_ne hcd, stripPhrase?_of_ne_second hdi, stripTimePhrase?_of_ne (.inr hdi)]
  exact hlast

theorem stripTypeName?_characterVarying {t rest : List Char}
    (ht : t.map Char.toLower = "character varying".toList) :
    stripTypeName? (t ++ rest) = some rest := by
  have hsplit : "character varying".toList
      = ['c', 'h', 'a', 'r', 'a', 'c', 't', 'e', 'r'] ++
        ' ' :: ['v', 'a', 'r', 'y', 'i', 'n', 'g'] := rfl
  rw [hsplit] at ht
  obtain ⟨t₁, t₂, rfl, h₁, h₂⟩ := List.map_eq_append_iff.mp ht
  obtain ⟨c, t₂, rfl, hc, h₃⟩ := List.map_eq_cons_iff.mp h₂
  obtain rfl : c = ' ' := by rcases eq_or_eq_of_toLower hc with rfl | rfl <;> rfl
  have hstart : trimStart (t₂ ++ rest) = t₂ ++ rest := by
    obtain ⟨v, t₂, rfl, hv, -⟩ := List.map_eq_cons_iff.mp h₃
    refine trimStart_of_head fun c hc => ?_
    obtain rfl : v = c := by simpa using hc
    exact (nameCharFacts (isIdentifierChar_of_toLower (c := v) (by rw [hv]; rfl))).blank
  have hfirst := stripWord?_append h₁ (by decide) (' ' :: (t₂ ++ rest))
  have hsecond := stripWord?_append h₃ (by decide) rest
  have hphrase : stripPhrase? ['c', 'h', 'a', 'r', 'a', 'c', 't', 'e', 'r']
      ['v', 'a', 'r', 'y', 'i', 'n', 'g'] (t₁ ++ ' ' :: (t₂ ++ rest)) = some rest := by
    rw [stripPhrase?, stripWordAndBlanks?, hfirst]
    simp only [show isBlank ' ' = true from rfl, if_true, hstart, Option.bind_some, hsecond]
  rw [stripTypeName?, List.append_assoc, List.cons_append, hphrase]
  rfl

/-- The type of a cast in some letter case is dropped whole. -/
theorem stripTypeName?_append {type : CastType} (w : Spelling type.word) {rest : List Char}
    (hr : ∀ d, rest.head? = some d → endsTypeName d = true) :
    stripTypeName? (w.text ++ rest) = some rest := by
  cases type
  case characterVarying => exact stripTypeName?_characterVarying w.lower
  all_goals exact stripTypeName?_word w.lower rfl (by decide) (by decide) hr

/-! ## Lengths and dimensions -/

theorem stripToken?_of_ne {token : Char} {t : List Char}
    (h : ∀ c, (trimStart t).head? = some c → c ≠ token) : stripToken? token t = none := by
  unfold stripToken?
  split
  · rfl
  · next c rest hc => rw [if_neg (h c (by rw [hc]; rfl))]

theorem stripToken?_cons {token : Char} (h : isBlank token = false) (rest : List Char) :
    stripToken? token (token :: rest) = some rest := by
  have hs : trimStart (token :: rest) = token :: rest := trimStart_of_head (by
    intro c hc
    obtain rfl : token = c := by simpa using hc
    exact h)
  simp [stripToken?, hs]

theorem stripNumbers?_lengthText (n : Nat) (rest : List Char) :
    stripNumbers? (lengthText (some n) ++ rest) = some rest := by
  have hdigit : ∀ c ∈ n.repr.toList, c.isDigit = true := by
    intro c hc
    rw [Nat.toList_repr] at hc
    exact Nat.isDigit_of_mem_toDigits (by decide) (by decide) hc
  have hfacts : ∀ c, c.isDigit = true → isDecimalDigit c = true ∧ isBlank c = false := by
    intro c hc
    have ha : isAscii c = true := isAscii_of_isAlphanum (by simp [Char.isAlphanum, hc])
    exact forall_ascii (P := fun c => c.isDigit = true →
      isDecimalDigit c = true ∧ isBlank c = false) (by decide) ha hc
  obtain ⟨d, ds, hds⟩ : ∃ d ds, n.repr.toList = d :: ds :=
    List.exists_cons_of_ne_nil (by rw [Nat.toList_repr]; exact Nat.toDigits_ne_nil)
  have hd := hfacts d (hdigit d (by simp [hds]))
  have hrun : (ds ++ ')' :: rest).dropWhile isDecimalDigit = ')' :: rest := by
    refine dropWhile_append_of_stop (fun c hc => (hfacts c (hdigit c (by simp [hds, hc]))).1) ?_
    intro c hc
    obtain rfl : ')' = c := by simpa using hc
    rfl
  have hcomma : stripSecondNumber? (')' :: rest) = none := by
    rw [stripSecondNumber?, stripToken?_of_ne]
    · rfl
    · intro c hc
      rw [trimStart_cons_of_not rfl] at hc
      obtain rfl : ')' = c := by simpa using hc
      decide
  have hclose : stripToken? ')' (')' :: rest) = some rest := stripToken?_cons rfl rest
  rw [lengthText, List.cons_append, List.append_assoc, stripNumbers?, stripToken?_cons rfl, hds]
  simp only [List.cons_append, List.nil_append, Option.bind_eq_bind, Option.bind_some,
    trimStart_cons_of_not hd.2, stripDigits?, hd.1, if_true, hrun, hcomma, Option.getD_none,
    hclose]

theorem stripNumbers?_of_ne {t : List Char} (h : ∀ c, (trimStart t).head? = some c → c ≠ '(') :
    stripNumbers? t = none := by
  rw [stripNumbers?, stripToken?_of_ne h]
  rfl

theorem stripDimensions_of_ne {t : List Char} (h : ∀ c, (trimStart t).head? = some c → c ≠ '[')
    (n : Nat) : stripDimensions n t = t := by
  cases n with
  | zero => rfl
  | succ n =>
    have hb : stripBrackets? t = none := by rw [stripBrackets?, stripToken?_of_ne h]; rfl
    rw [stripDimensions, hb]

theorem stripDimensions_emptyBrackets {rest : List Char}
    (h : ∀ c, (trimStart rest).head? = some c → c ≠ '[') {d n : Nat} (hn : d ≤ n) :
    stripDimensions n (emptyBrackets d ++ rest) = rest := by
  induction d generalizing n with
  | zero => exact stripDimensions_of_ne h n
  | succ d ih =>
    obtain ⟨n, rfl⟩ : ∃ m, n = m + 1 := ⟨n - 1, by omega⟩
    have hopen : stripToken? '[' ('[' :: ']' :: (emptyBrackets d ++ rest))
        = some (']' :: (emptyBrackets d ++ rest)) := stripToken?_cons rfl _
    have hclose : stripToken? ']' (']' :: (emptyBrackets d ++ rest))
        = some (emptyBrackets d ++ rest) := stripToken?_cons rfl _
    have hb : stripBrackets? ('[' :: ']' :: (emptyBrackets d ++ rest))
        = some (emptyBrackets d ++ rest) := by
      rw [stripBrackets?, hopen, Option.bind_some, hclose]
    rw [emptyBrackets, List.cons_append, List.cons_append, stripDimensions, hb]
    exact ih (by omega)

theorem length_emptyBrackets (n : Nat) : (emptyBrackets n).length = 2 * n := by
  induction n with
  | zero => rfl
  | succ n ih =>
    rw [emptyBrackets, List.length_cons, List.length_cons, ih]
    omega

/-! ## Whole casts -/

theorem head?_emptyBrackets_append {n : Nat} {rest : List Char} {c : Char}
    (h : (emptyBrackets n ++ rest).head? = some c) : c = '[' ∨ rest.head? = some c := by
  cases n with
  | zero => exact .inr h
  | succ n =>
    rw [emptyBrackets, List.cons_append, List.head?_cons, Option.some.injEq] at h
    exact .inl h.symm

/-- What comes after the type name of a cast ends the name. -/
theorem EndsCast.endsTypeName_lengthText {rest : List Char} (h : EndsCast rest)
    (length : Option Nat) (dimensions : Nat) : ∀ c,
      (lengthText length ++ (emptyBrackets dimensions ++ rest)).head? = some c →
        endsTypeName c = true := by
  intro c hc
  cases length with
  | some n =>
    obtain rfl : '(' = c := by simpa [lengthText] using hc
    rfl
  | none =>
    rcases head?_emptyBrackets_append hc with rfl | hc
    · rfl
    · exact h.head c hc

/-- A length is dropped, if there is one. -/
theorem EndsCast.stripNumbers?_getD {rest : List Char} (h : EndsCast rest)
    (length : Option Nat) (dimensions : Nat) :
    (stripNumbers? (lengthText length ++ (emptyBrackets dimensions ++ rest))).getD
        (lengthText length ++ (emptyBrackets dimensions ++ rest))
      = emptyBrackets dimensions ++ rest := by
  cases length with
  | some n => rw [stripNumbers?_lengthText, Option.getD_some]
  | none =>
    rw [lengthText, List.nil_append, stripNumbers?_of_ne, Option.getD_none]
    intro c hc
    cases dimensions with
    | zero => exact (h.next c hc).1
    | succ n =>
      rw [emptyBrackets, List.cons_append, trimStart_cons_of_not rfl, List.head?_cons] at hc
      cases hc
      decide

/-- A cast is dropped whole. -/
theorem stripCast?_text (k : Cast) {rest : List Char} (h : EndsCast rest) :
    stripCast? (k.text ++ rest) = some rest := by
  obtain ⟨type, w, length, dimensions⟩ := k
  have hstart : trimStart (w.text ++ (lengthText length ++ (emptyBrackets dimensions ++ rest)))
      = w.text ++ (lengthText length ++ (emptyBrackets dimensions ++ rest)) := by
    obtain ⟨first, word, hw, hfirst⟩ : ∃ first word, type.word.toList = first :: word ∧
        isIdentifierChar first = true := by
      cases type <;> exact ⟨_, _, rfl, rfl⟩
    obtain ⟨c, t, ht, hc⟩ := exists_cons_of_spelling w first hw hfirst
    rw [ht, List.cons_append]
    exact trimStart_cons_of_not (nameCharFacts hc).blank _
  have hname := stripTypeName?_append w (h.endsTypeName_lengthText length dimensions)
  have hnumbers := h.stripNumbers?_getD length dimensions
  have hdims : stripDimensions (emptyBrackets dimensions ++ rest).length
      (emptyBrackets dimensions ++ rest) = rest := by
    refine stripDimensions_emptyBrackets (fun c hc => (h.next c hc).2) ?_
    rw [List.length_append, length_emptyBrackets]
    omega
  rw [Cast.text]
  simp only [List.cons_append, List.append_assoc]
  rw [stripCast?, hstart, hname]
  simp only [Option.map_some, hnumbers, hdims]

/-! ## A text without its casts -/

theorem stripCast?_of_ne {c : Char} (h : c ≠ ':') (rest : List Char) :
    stripCast? (c :: rest) = none := by
  unfold stripCast?
  split
  · next hc => exact absurd (List.cons.inj hc).1 h
  · rfl

theorem dropCastsFrom_skip (s rest : List Char) :
    dropCastsFrom s.length (s ++ rest) = dropCastsFrom 0 rest := by
  induction s with
  | nil => rfl
  | cons c s ih => rw [List.length_cons, List.cons_append, dropCastsFrom, ih]

theorem dropCasts_append {t : List Char} (ht : ':' ∉ t) (rest : List Char) :
    dropCasts (t ++ rest) = t ++ dropCasts rest := by
  induction t with
  | nil => rfl
  | cons c t ih =>
    simp only [List.mem_cons, not_or] at ht
    have ih := ih ht.2
    rw [dropCasts] at ih ⊢
    rw [List.cons_append, dropCastsFrom, stripCast?_of_ne (Ne.symm ht.1)]
    simp only [ih, List.cons_append]

/-- A cast is dropped where it stands. -/
theorem dropCasts_cast (k : Cast) {rest : List Char} (h : EndsCast rest) :
    dropCasts (k.text ++ rest) = dropCasts rest := by
  have hstrip := stripCast?_text k h
  obtain ⟨more, hk⟩ : ∃ more, k.text = ':' :: more := ⟨_, rfl⟩
  rw [hk, List.cons_append] at hstrip ⊢
  have hlen : (more ++ rest).length - rest.length = more.length := by
    rw [List.length_append]
    omega
  rw [dropCasts, dropCastsFrom, hstrip]
  simp only
  rw [hlen, dropCastsFrom_skip, dropCasts]

@[simp] theorem dropCasts_nil : dropCasts [] = [] := rfl

theorem EndsCast.of_isPrefix {p rest : List Char} (h : EndsCast rest) (hp : p <+: rest) :
    EndsCast p := by
  obtain ⟨tail, rfl⟩ := hp
  constructor
  case head =>
    intro c hc
    exact h.head c (by rw [List.head?_append, hc]; rfl)
  case next =>
    intro c hc
    have hne : (p.dropWhile isBlank).isEmpty = false := by
      rw [trimStart] at hc
      cases hd : p.dropWhile isBlank with
      | nil => rw [hd] at hc; cases hc
      | cons d q => rfl
    refine h.next c ?_
    rw [trimStart, List.dropWhile_append, hne, if_neg Bool.false_ne_true, List.head?_append]
    rw [trimStart] at hc
    rw [hc]
    rfl

theorem mem_lengthText {length : Option Nat} {c : Char} (h : c ∈ lengthText length) :
    c.isDigit = true ∨ c = '(' ∨ c = ')' := by
  cases length with
  | none => cases h
  | some n =>
    simp only [lengthText, List.mem_cons, List.mem_append, List.not_mem_nil, or_false] at h
    rcases h with rfl | h | rfl
    · exact .inr (.inl rfl)
    · rw [Nat.toList_repr] at h
      exact .inl (Nat.isDigit_of_mem_toDigits (by decide) (by decide) h)
    · exact .inr (.inr rfl)

theorem mem_emptyBrackets {n : Nat} {c : Char} (h : c ∈ emptyBrackets n) : c = '[' ∨ c = ']' := by
  induction n with
  | zero => cases h
  | succ n ih =>
    simp only [emptyBrackets, List.mem_cons] at h
    rcases h with rfl | rfl | h
    · exact .inl rfl
    · exact .inr rfl
    · exact ih h

theorem quote_not_mem_text (k : Cast) : quote ∉ k.text := by
  have hspelling : quote ∉ k.spelling.text := by
    intro h
    have hlower : quote.toLower ∈ k.type.word.toList := k.spelling.lower ▸ List.mem_map_of_mem h
    revert hlower
    cases k.type <;> decide
  have hlength : quote ∉ lengthText k.length := fun h =>
    absurd (mem_lengthText h) (by decide)
  have hdims : quote ∉ emptyBrackets k.dimensions := fun h =>
    absurd (mem_emptyBrackets h) (by decide)
  simp [Cast.text, hspelling, hlength, hdims, show quote ≠ ':' by decide]

/-- Text without colons stays when a clause loses its casts. -/
theorem mapPlain_dropCasts_append {t : List Char} (hq : quote ∉ t) (hc : ':' ∉ t)
    (rest : List Char) : mapPlain dropCasts (t ++ rest) = t ++ mapPlain dropCasts rest :=
  mapPlain_append_of_stretch rfl hq fun p _ _ => dropCasts_append hc p

/-- A cast goes when a clause loses its casts. -/
theorem mapPlain_dropCasts_cast (k : Cast) {rest : List Char} (h : EndsCast rest) :
    mapPlain dropCasts (k.text ++ rest) = mapPlain dropCasts rest :=
  mapPlain_append_of_stretch (u := []) rfl (quote_not_mem_text k) fun _ hp _ =>
    dropCasts_cast k (h.of_isPrefix hp)

end ValidatorGen.Check
