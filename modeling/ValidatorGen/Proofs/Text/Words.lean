/-
The words of a text that is put together from parts. Where a part ends or starts with white space,
or with a separator, the parts are cut on their own (`blankWords_append`); where two parts meet
inside a piece, the last piece of one and the first of the other become one (`fields_append`).
-/
import ValidatorGen.Proofs.Text.Blank

namespace ValidatorGen.Text

/-- A word: something without white space in it. -/
def IsWord (w : List Char) : Prop := w ≠ [] ∧ ∀ c ∈ w, isBlank c = false

instance : DecidablePred IsWord := fun w =>
  @instDecidableAnd _ _ inferInstance (List.decidableBAll (isBlank · = false) w)

theorem IsWord.tight {w : List Char} (h : IsWord w) : Tight w where
  head c hc := h.2 c (List.mem_of_mem_head? (Option.mem_def.mpr hc))
  last c hc := h.2 c (List.mem_of_mem_getLast? (Option.mem_def.mpr hc))

/-- A text starts with white space, if it is not empty. -/
def StartsBlank (t : List Char) : Prop := ∀ c ∈ t.head?, isBlank c = true

instance : DecidablePred StartsBlank := fun t => Option.decidableForallMem t.head?

/-- A text ends with white space, if it is not empty. -/
def EndsBlank (t : List Char) : Prop := ∀ c ∈ t.getLast?, isBlank c = true

instance : DecidablePred EndsBlank := fun t => Option.decidableForallMem t.getLast?

/-- No word runs from one of the texts into the other. -/
def Parted (a b : List Char) : Prop := EndsBlank a ∨ StartsBlank b

/-- A piece between separators holds none. -/
theorem mem_of_mem_fields {sep : Char → Bool} {t w : List Char} {c : Char}
    (hw : w ∈ fields sep t) (hc : c ∈ w) : c ∈ t ∧ sep c = false := by
  induction t generalizing w with
  | nil =>
    rw [fields, List.mem_singleton] at hw
    subst hw
    cases hc
  | cons d t ih =>
    rw [fields] at hw
    split at hw
    · rcases List.mem_cons.mp hw with rfl | hw
      · cases hc
      · exact (ih hw hc).imp_left (List.mem_cons_of_mem d)
    · next hd =>
      split at hw
      · next hnil => exact absurd hnil (fields_ne_nil sep t)
      · next piece pieces hpieces =>
        rw [hpieces] at ih
        rcases List.mem_cons.mp hw with rfl | hw
        · rcases List.mem_cons.mp hc with rfl | hc
          · exact ⟨List.mem_cons_self, by simpa using hd⟩
          · exact (ih List.mem_cons_self hc).imp_left (List.mem_cons_of_mem d)
        · exact (ih (List.mem_cons_of_mem _ hw) hc).imp_left (List.mem_cons_of_mem d)

/-- The pieces are all of the text but the separators. -/
theorem flatten_fields (sep : Char → Bool) (t : List Char) :
    (fields sep t).flatten = t.filter fun c => !sep c := by
  induction t with
  | nil => rfl
  | cons c t ih =>
    rw [fields]
    split
    · next hc => simp [hc, ih]
    · next hc =>
      split
      · next hnil => exact absurd hnil (fields_ne_nil sep t)
      · next piece pieces hpieces =>
        rw [hpieces] at ih
        simp [hc, ← ih]

/-- There is a last piece. -/
theorem exists_last_fields (sep : Char → Bool) (t : List Char) :
    ∃ init last, fields sep t = init ++ [last] :=
  ⟨_, _, (List.dropLast_concat_getLast (fields_ne_nil sep t)).symm⟩

theorem concat_inj {α : Type} {init init' : List α} {x y : α}
    (h : init ++ [x] = init' ++ [y]) : init = init' ∧ x = y := by
  obtain ⟨hinit, hlast⟩ := List.append_inj' h rfl
  exact ⟨hinit, List.singleton_inj.mp hlast⟩

theorem fields_append (sep : Char → Bool) {a b : List Char} {init rest : List (List Char)}
    {last first : List Char} (ha : fields sep a = init ++ [last])
    (hb : fields sep b = first :: rest) :
    fields sep (a ++ b) = init ++ (last ++ first) :: rest := by
  induction a generalizing init last with
  | nil =>
    have hempty : [] ++ [[]] = init ++ [last] := ha
    obtain ⟨rfl, rfl⟩ := concat_inj hempty
    exact hb
  | cons c a ih =>
    obtain ⟨init', last', ha'⟩ := exists_last_fields sep a
    rw [List.cons_append, fields, ih ha']
    rw [fields, ha'] at ha
    by_cases hc : sep c = true
    · rw [if_pos hc] at ha ⊢
      have hpieces : ([] :: init') ++ [last'] = init ++ [last] := ha
      obtain ⟨rfl, rfl⟩ := concat_inj hpieces
      rfl
    rw [if_neg hc] at ha ⊢
    cases init' with
    | nil =>
      have hpieces : [] ++ [c :: last'] = init ++ [last] := ha
      obtain ⟨rfl, rfl⟩ := concat_inj hpieces
      rfl
    | cons piece init' =>
      have hpieces : ((c :: piece) :: init') ++ [last'] = init ++ [last] := ha
      obtain ⟨rfl, rfl⟩ := concat_inj hpieces
      rfl

/-- The last piece ends as the text does. -/
theorem getLast?_of_fields {sep : Char → Bool} {t last : List Char} {init : List (List Char)}
    {c : Char} (h : fields sep t = init ++ [last]) (hc : last.getLast? = some c) :
    t.getLast? = some c := by
  rcases List.eq_nil_or_concat t with rfl | ⟨t, x, rfl⟩
  · have hempty : [] ++ [[]] = init ++ [last] := h
    obtain ⟨-, rfl⟩ := concat_inj hempty
    cases hc
  rw [List.concat_eq_append] at h ⊢
  by_cases hx : sep x = true
  · rw [fields_append_sep sep hx] at h
    obtain ⟨-, rfl⟩ := concat_inj h
    cases hc
  · obtain ⟨init', last', ht⟩ := exists_last_fields sep t
    have hone : fields sep [x] = [[x]] := fields_of_all_not sep (by simpa using hx)
    obtain ⟨-, rfl⟩ := concat_inj ((fields_append sep ht hone).symm.trans h)
    simpa using hc

theorem blankWords_cons {c : Char} (h : isBlank c = true) (t : List Char) :
    blankWords (c :: t) = blankWords t := by
  rw [blankWords, fields, if_pos h]
  rfl

theorem blankWords_concat {c : Char} (h : isBlank c = true) (t : List Char) :
    blankWords (t ++ [c]) = blankWords t := by
  rw [blankWords, fields_append_sep isBlank h, List.filter_append]
  simp [blankWords, fields]

/-- **Texts that no word runs through both of are cut on their own.** -/
theorem blankWords_append {a b : List Char} (h : Parted a b) :
    blankWords (a ++ b) = blankWords a ++ blankWords b := by
  rcases h with ha | hb
  · rcases List.eq_nil_or_concat a with rfl | ⟨a, c, rfl⟩
    · rfl
    · rw [List.concat_eq_append] at ha ⊢
      have hc : isBlank c = true := ha c (by simp)
      rw [blankWords_concat hc, List.append_assoc, List.singleton_append, blankWords,
        fields_append_sep isBlank hc, List.filter_append]
      rfl
  · cases b with
    | nil => simp [blankWords, fields]
    | cons c b =>
      have hc : isBlank c = true := hb c rfl
      rw [blankWords_cons hc, blankWords, fields_append_sep isBlank hc, List.filter_append]
      rfl

theorem blankWords_word {w : List Char} (h : IsWord w) : blankWords w = [w] := by
  rw [blankWords, fields_of_all_not isBlank h.2]
  simp [h.1]

theorem isWord_of_mem_blankWords {t w : List Char} (h : w ∈ blankWords t) : IsWord w := by
  obtain ⟨hmem, hne⟩ := List.mem_filter.mp h
  exact ⟨by simpa using hne, fun c hc => (mem_of_mem_fields hmem hc).2⟩

theorem blankWords_gap {gap : List Char} (h : ∀ c ∈ gap, isBlank c = true) :
    blankWords gap = [] := by
  induction gap with
  | nil => rfl
  | cons c gap ih =>
    rw [blankWords_cons (h c List.mem_cons_self)]
    exact ih fun d hd => h d (List.mem_cons_of_mem _ hd)

end ValidatorGen.Text
