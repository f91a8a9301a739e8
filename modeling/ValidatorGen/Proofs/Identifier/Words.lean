/-
The words of a text and of words that are joined. A word is not empty and holds no separator
(`ne_nil_of_mem_splitWords`, `mem_of_mem_splitWords`), the words of a joined text are those of its
parts (`splitWords_intercalate`), and **words that hold no underscore are told apart once they are
joined by underscores** (`intercalate_inj`).
-/
import ValidatorGen.Identifier.Words
import ValidatorGen.Proofs.Text.Case
import ValidatorGen.Proofs.Text.Words

namespace ValidatorGen.Identifier

open Text

variable {t w : List Char} {c : Char}

theorem ne_nil_of_mem_splitWords (h : w ∈ splitWords t) : w ≠ [] := by
  obtain ⟨piece, -, hw⟩ := List.mem_flatMap.mp h
  exact ne_nil_of_mem_humps hw

theorem mem_of_mem_humps (h : w ∈ humps t) (hc : c ∈ w) : c ∈ t := by
  rw [← flatten_humps t]
  exact List.mem_flatten_of_mem h hc

/-- A word is made of characters of the text that are no separators. -/
theorem mem_of_mem_splitWords (h : w ∈ splitWords t) (hc : c ∈ w) :
    c ∈ t ∧ isSeparator c = false := by
  obtain ⟨piece, hpiece, hw⟩ := List.mem_flatMap.mp h
  exact mem_of_mem_fields hpiece (mem_of_mem_humps hw hc)

/-- Without a capital but the first letter there is one hump. -/
theorem humps_of_no_upper (h : ∀ d ∈ t, isUpper d = false) : humps (c :: t) = [c :: t] := by
  induction t generalizing c with
  | nil => rfl
  | cons d t ih =>
    have hopens : opensHump c d t.head? = false := by simp [opensHump, h d List.mem_cons_self]
    rw [humps, hopens, if_neg Bool.false_ne_true, ih fun e he => h e (List.mem_cons_of_mem d he)]

/-- A text without separators and capitals is a word. -/
theorem splitWords_of_word (hne : t ≠ []) (hsep : ∀ c ∈ t, isSeparator c = false)
    (hupper : ∀ c ∈ t, isUpper c = false) : splitWords t = [t] := by
  obtain ⟨c, t, rfl⟩ := List.exists_cons_of_ne_nil hne
  rw [splitWords, fields_of_all_not isSeparator hsep, List.flatMap_singleton,
    humps_of_no_upper fun d hd => hupper d (List.mem_cons_of_mem c hd)]

/-! ## Joined words -/

theorem splitWords_append_sep (hc : isSeparator c = true) (a b : List Char) :
    splitWords (a ++ c :: b) = splitWords a ++ splitWords b := by
  rw [splitWords, fields_append_sep isSeparator hc, List.flatMap_append]
  rfl

/-- **The words of texts that are joined by a separator are the words of each.** -/
theorem splitWords_intercalate_sep (hc : isSeparator c = true) (ts : List (List Char)) :
    splitWords ([c].intercalate ts) = ts.flatMap splitWords := by
  induction ts with
  | nil => rfl
  | cons t ts ih =>
    cases ts with
    | nil => simp
    | cons u ts =>
      rw [List.intercalate_cons_cons, List.append_assoc, List.singleton_append,
        splitWords_append_sep hc, ih]
      rfl

theorem splitWords_intercalate (ts : List (List Char)) :
    splitWords (['_'].intercalate ts) = ts.flatMap splitWords :=
  splitWords_intercalate_sep (by decide) ts

/-- A part that can be told from its neighbours when it is joined to them by underscores. -/
structure Joinable (w : List Char) : Prop where
  ne_nil : w ≠ []
  underscore : '_' ∉ w

theorem joinable_of_mem_splitWords (h : w ∈ splitWords t) : Joinable w where
  ne_nil := ne_nil_of_mem_splitWords h
  underscore hc := Bool.false_ne_true (mem_of_mem_splitWords h hc).2.symm

theorem Joinable.lowercase (h : Joinable w) : Joinable (lowercase w) where
  ne_nil := lowercase_ne_nil h.ne_nil
  underscore hc := h.underscore (underscore_mem_lowercase hc)

theorem Joinable.uppercase (h : Joinable w) : Joinable (uppercase w) where
  ne_nil := uppercase_ne_nil h.ne_nil
  underscore hc := h.underscore (underscore_mem_uppercase hc)

theorem intercalate_eq_nil {ws : List (List Char)} (h : ∀ w ∈ ws, Joinable w)
    (hnil : ['_'].intercalate ws = []) : ws = [] := by
  cases ws with
  | nil => rfl
  | cons w ws =>
    have hw := (h w List.mem_cons_self).ne_nil
    cases ws with
    | nil => exact absurd (by simpa using hnil) hw
    | cons v ws =>
      rw [List.intercalate_cons_cons, List.append_assoc] at hnil
      exact absurd (List.append_eq_nil_iff.mp hnil).1 hw

/-- **Joining keeps words apart.** -/
theorem intercalate_inj {ws vs : List (List Char)} (hws : ∀ w ∈ ws, Joinable w)
    (hvs : ∀ v ∈ vs, Joinable v) : ['_'].intercalate ws = ['_'].intercalate vs ↔ ws = vs := by
  refine ⟨fun h => ?_, congrArg _⟩
  by_cases hnil : ws = []
  · subst hnil
    exact (intercalate_eq_nil hvs h.symm).symm
  · have hvnil : vs ≠ [] := by
      rintro rfl
      exact hnil (intercalate_eq_nil hws h)
    rw [← List.splitOn_intercalate '_' (fun w hw => (hws w hw).underscore) hnil, h,
      List.splitOn_intercalate '_' (fun v hv => (hvs v hv).underscore) hvnil]

end ValidatorGen.Identifier
