/-
Where humps open. A piece between humps is not cut again (`humps_of_mem`), and **pieces that are put
together are cut apart again where a hump opens** (`humps_flatten`). Upper case opens humps after
digits (`splitWords_uppercase_iff`). Camel and pascal case put the humps of an ASCII text together
letter by letter: behind the first, a letter is a capital where a hump opens and small elsewhere
(`putTogether_humps`).
-/
import Mathlib.Data.List.Chain
import ValidatorGen.Proofs.Identifier.Casing

namespace ValidatorGen.Identifier

open Text

variable {t w x y : List Char} {b c d : Char}

/-- What opens a hump at the end of a text opens one wherever the text goes on. -/
theorem opensHump_of_none (h : opensHump c d none = true) (after : Option Char) :
    opensHump c d after = true := by
  simp only [opensHump, Option.any_none, Bool.and_false, Bool.or_false] at h
  simp only [opensHump, Bool.and_eq_true, Bool.or_eq_true] at h ⊢
  exact ⟨h.1, .inl h.2⟩

/-- There is a first piece. -/
theorem exists_humps_cons (c : Char) (t : List Char) :
    ∃ word words, humps (c :: t) = word :: words := List.exists_cons_of_ne_nil humps_ne_nil

/-- **A piece between humps is not cut again.** It may have lost the character behind it, but no
hump opens for want of one. -/
theorem humps_of_mem (h : w ∈ humps t) : humps w = [w] := by
  induction t generalizing w with
  | nil => cases h
  | cons c t ih =>
    cases t with
    | nil =>
      obtain rfl := List.mem_singleton.mp h
      rfl
    | cons d t =>
      rw [humps] at h
      split at h
      · rcases List.mem_cons.mp h with rfl | h
        · rfl
        · exact ih h
      · next hopens =>
        obtain ⟨word, words, hwords⟩ := exists_humps_cons d t
        rw [hwords] at h ih
        rcases List.mem_cons.mp h with rfl | h
        · have hflat := flatten_humps (d :: t)
          rw [hwords, List.flatten_cons] at hflat
          obtain ⟨e, word, rfl⟩ := List.exists_cons_of_ne_nil
            (ne_nil_of_mem_humps (hwords ▸ List.mem_cons_self))
          obtain ⟨rfl, hrest⟩ := List.cons.inj hflat
          have hclosed : opensHump c e word.head? = false := by
            rw [Bool.eq_false_iff]
            intro hopen
            cases word with
            | nil => exact hopens (opensHump_of_none hopen _)
            | cons x word => exact hopens (hrest ▸ hopen)
          rw [humps, hclosed, if_neg Bool.false_ne_true, ih List.mem_cons_self]
        · exact ih (List.mem_cons_of_mem _ h)

/-- What comes after a hump's first letter does not open it unless it is small. -/
theorem opensHump_of_not_lower (hd : isLower d = false) :
    opensHump b c (some d) = opensHump b c none := by
  simp [opensHump, hd]

/-- A hump that opens cuts a text in two. -/
theorem humps_append (hopen : opensHump b c y.head? = true) (hc : isLower c = false) :
    humps (x ++ b :: c :: y) = humps (x ++ [b]) ++ humps (c :: y) := by
  induction x with
  | nil => simp [humps, hopen]
  | cons a x ih =>
    cases x with
    | nil =>
      have hnext : humps (b :: c :: y) = [b] :: humps (c :: y) := ih
      simp only [List.cons_append, List.nil_append]
      rw [humps, hnext]
      simp only [List.head?_cons, opensHump_of_not_lower hc, humps, List.head?_nil]
      by_cases hopens : opensHump a b none = true <;> simp [hopens]
    | cons d x =>
      obtain ⟨word, words, hwords⟩ := exists_humps_cons d (x ++ [b])
      have hhead : (x ++ b :: c :: y).head? = (x ++ [b]).head? := by cases x <;> rfl
      simp only [List.cons_append] at ih ⊢
      rw [humps, ih, hhead, humps, hwords]
      split <;> rfl

/-- A hump opens where a text goes on after another. -/
def OpensAfter (x y : List Char) : Prop :=
  ∃ b ∈ x.getLast?, ∃ c ∈ y.head?, opensHump b c y.tail.head? = true ∧ isLower c = false

/-- **Humps that open one after the other are cut apart again.** -/
theorem humps_flatten {ys : List (List Char)} (hone : ∀ y ∈ ys, humps y = [y])
    (hopen : ys.IsChain OpensAfter) : humps ys.flatten = ys := by
  induction ys with
  | nil => rfl
  | cons x ys ih =>
    have hx := hone x List.mem_cons_self
    cases ys with
    | nil => simpa using hx
    | cons y ys =>
      obtain ⟨⟨b, hb, c, hc, hopens, hlower⟩, hrest⟩ := List.isChain_cons_cons.mp hopen
      obtain ⟨x, rfl⟩ := List.getLast?_eq_some_iff.mp hb
      obtain ⟨y, rfl⟩ := List.head?_eq_some_iff.mp hc
      have hopens' : opensHump b c (y ++ ys.flatten).head? = true := by
        cases y with
        | nil => exact opensHump_of_none hopens _
        | cons d y => exact hopens
      have htail := ih (fun z hz => hone z (List.mem_cons_of_mem _ hz)) hrest
      rw [List.flatten_cons, List.cons_append] at htail
      rw [List.flatten_cons, List.flatten_cons, List.cons_append, List.append_assoc,
        List.singleton_append, humps_append hopens' hlower, hx, htail]
      rfl

/-- Without small letters, a text is one hump if none opens between two letters. -/
theorem humps_eq_singleton_iff (hlower : ∀ d ∈ t, isLower d = false) (hne : t ≠ []) :
    humps t = [t] ↔ t.IsChain fun b c => opensHump b c none = false := by
  induction t with
  | nil => exact absurd rfl hne
  | cons c t ih =>
    cases t with
    | nil => exact iff_of_true rfl (.singleton c)
    | cons d t =>
      have hafter : opensHump c d t.head? = opensHump c d none := by
        cases t with
        | nil => rfl
        | cons e t => exact opensHump_of_not_lower (hlower e (by simp))
      obtain ⟨word, words, hwords⟩ := exists_humps_cons d t
      have ih := ih (fun e he => hlower e (List.mem_cons_of_mem c he)) (List.cons_ne_nil d t)
      rw [hwords] at ih
      rw [List.isChain_cons_cons, humps, hafter, hwords]
      cases opensHump c d none with
      | true => simp
      | false => simpa using ih

/-- An ASCII character in upper case: what it is told by the one it was. -/
structure InUpperCase (c : Char) : Prop where
  isUpper : isUpper c.toUpper = c.isAlpha
  isLower : isLower c.toUpper = false
  isDigit : c.toUpper.isDigit = c.isDigit
  isSeparator : isSeparator c.toUpper = isSeparator c
  ascii : isAscii c.toUpper = true

theorem inUpperCase (h : isAscii c = true) : InUpperCase c where
  isUpper := forall_ascii (P := fun c => Text.isUpper c.toUpper = c.isAlpha) (by decide) h
  isLower := forall_ascii (P := fun c => Text.isLower c.toUpper = false) (by decide) h
  isDigit := forall_ascii (P := fun c => c.toUpper.isDigit = c.isDigit) (by decide) h
  isSeparator :=
    forall_ascii (P := fun c => Identifier.isSeparator c.toUpper = Identifier.isSeparator c)
      (by decide) h
  ascii := forall_ascii (P := fun c => isAscii c.toUpper = true) (by decide) h

/-- An ASCII character in lower case. -/
structure InLowerCase (c : Char) : Prop where
  isUpper : isUpper c.toLower = false
  isLower : isLower c.toLower = c.isAlpha
  isDigit : c.toLower.isDigit = c.isDigit
  isSeparator : isSeparator c.toLower = isSeparator c

theorem inLowerCase (h : isAscii c = true) : InLowerCase c where
  isUpper := forall_ascii (P := fun c => Text.isUpper c.toLower = false) (by decide) h
  isLower := forall_ascii (P := fun c => Text.isLower c.toLower = c.isAlpha) (by decide) h
  isDigit := forall_ascii (P := fun c => c.toLower.isDigit = c.isDigit) (by decide) h
  isSeparator :=
    forall_ascii (P := fun c => Identifier.isSeparator c.toLower = Identifier.isSeparator c)
      (by decide) h

/-- A letter after a digit: it opens a hump when it is a capital. -/
def LetterAfterDigit (b c : Char) : Prop := b.isDigit = true ∧ c.isAlpha = true

instance (b c : Char) : Decidable (LetterAfterDigit b c) := inferInstanceAs (Decidable (_ ∧ _))

theorem opensHump_toUpper (hb : isAscii b = true) (hc : isAscii c = true) :
    opensHump b.toUpper c.toUpper none = true ↔ LetterAfterDigit b c := by
  have hb := inUpperCase hb
  simp [opensHump, LetterAfterDigit, hb.isLower, hb.isDigit, (inUpperCase hc).isUpper, and_comm]

/-- **In upper case a word is still one word if no letter comes after a digit.** -/
theorem splitWords_uppercase_iff (hne : w ≠ []) (hascii : ∀ c ∈ w, isAscii c = true)
    (hsep : ∀ c ∈ w, isSeparator c = false) :
    splitWords (uppercase w) = [uppercase w] ↔ w.IsChain fun b c => ¬ LetterAfterDigit b c := by
  have hupper : uppercase w = w.map Char.toUpper := uppercase_of_ascii hascii
  have hlower : ∀ c ∈ uppercase w, isLower c = false :=
    hupper ▸ List.forall_mem_map.mpr fun c hc => (inUpperCase (hascii c hc)).isLower
  have hsep' : ∀ c ∈ uppercase w, isSeparator c = false :=
    hupper ▸ List.forall_mem_map.mpr fun c hc =>
      (inUpperCase (hascii c hc)).isSeparator.trans (hsep c hc)
  rw [splitWords, fields_of_all_not isSeparator hsep', List.flatMap_singleton,
    humps_eq_singleton_iff hlower (uppercase_ne_nil hne), hupper, List.isChain_map]
  have hopens : ∀ b c, b ∈ w → c ∈ w →
      (opensHump b.toUpper c.toUpper none = false ↔ ¬ LetterAfterDigit b c) := fun b c hb hc => by
    rw [← opensHump_toUpper (hascii b hb) (hascii c hc), Bool.not_eq_true]
  exact ⟨List.IsChain.imp_of_mem_imp fun b c hb hc => (hopens b c hb hc).mp,
    List.IsChain.imp_of_mem_imp fun b c hb hc => (hopens b c hb hc).mpr⟩

/-! ## Letter by letter -/

/-- The ASCII text after the letter `b`, with capitals just where humps open. -/
def recased : Char → List Char → List Char
  | _, [] => []
  | b, c :: t => (if opensHump b c t.head? then c.toUpper else c.toLower) :: recased c t

/-- After its first letter, a text is written letter by letter. -/
theorem exists_humps_recased (ht : ∀ d ∈ c :: t, isAscii d = true) :
    ∃ word words, humps (c :: t) = (c :: word) :: words ∧
      word.map Char.toLower ++ words.flatMap capitalize = recased c t := by
  induction t generalizing c with
  | nil => exact ⟨[], [], rfl, rfl⟩
  | cons d t ih =>
    have htail : ∀ e ∈ d :: t, isAscii e = true := fun e he => ht e (List.mem_cons_of_mem c he)
    obtain ⟨word, words, hwords, hrecased⟩ := ih htail
    rw [humps, hwords, recased]
    split
    · have hword : ∀ e ∈ d :: word, isAscii e = true := fun e he =>
        htail e (mem_of_mem_humps (hwords ▸ List.mem_cons_self) he)
      exact ⟨[], _, rfl, by simp [capitalize_of_ascii hword, ← hrecased]⟩
    · exact ⟨d :: word, words, rfl, by simp [← hrecased]⟩

/-- Words written one after the other, the first in lower case if it leads and all others with a
capital: camel and pascal case. -/
def putTogether (leads : Bool) (ws : List (List Char)) : List Char :=
  if leads then camelWords ws else ws.flatMap capitalize

theorem camel_eq_putTogether (t : List Char) : camel t = putTogether true (splitWords t) :=
  camel_eq t

theorem pascal_eq_putTogether (t : List Char) : pascal t = putTogether false (splitWords t) := rfl

/-- The letter that comes first. -/
def initial (leads : Bool) (c : Char) : Char := if leads then c.toLower else c.toUpper

theorem putTogether_cons {leads : Bool} (hw : ∀ d ∈ c :: w, isAscii d = true)
    (ws : List (List Char)) : putTogether leads ((c :: w) :: ws)
      = initial leads c :: (w.map Char.toLower ++ ws.flatMap capitalize) := by
  cases leads with
  | true =>
    show lowercase (c :: w) ++ ws.flatMap capitalize = _
    rw [lowercase_of_ascii hw]
    rfl
  | false =>
    show capitalize (c :: w) ++ ws.flatMap capitalize = _
    rw [capitalize_of_ascii hw]
    rfl

/-- **The humps of a text are put together letter by letter.** -/
theorem putTogether_humps {leads : Bool} (ht : ∀ d ∈ c :: t, isAscii d = true) :
    putTogether leads (humps (c :: t)) = initial leads c :: recased c t := by
  obtain ⟨word, words, hwords, hrecased⟩ := exists_humps_recased ht
  have hword : ∀ d ∈ c :: word, isAscii d = true := fun d hd =>
    ht d (mem_of_mem_humps (hwords ▸ List.mem_cons_self) hd)
  rw [hwords, putTogether_cons hword, hrecased]

end ValidatorGen.Identifier
