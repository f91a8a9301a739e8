/-
When a casing gives two names one form (`Casing.Merges`). Names in snake case are told apart by
their words in lower case, constants made of them by the words of those in upper case; in the other
casings nothing marks where a word ends. **A stem before both names hides no difference and adds
none, but that of the letter that a name starts with** (`composeChars_inj`, `constant_compose_inj`).
**Of ASCII names no casing merges more than pascal case does** (`Casing.Merges.pascal_eq`,
`pascal_eq_of_constantWords`).
-/
import ValidatorGen.Identifier.Casing
import ValidatorGen.Proofs.Identifier.Words

namespace ValidatorGen

open Text Identifier

namespace Identifier

/-- The words of a name in lower case, which snake case joins. -/
def lowerWords (t : List Char) : List (List Char) := (splitWords t).map lowercase

/-- The words of the constant that is made of a name in snake case. -/
def constantWords (t : List Char) : List (List Char) :=
  ((lowerWords t).flatMap splitWords).map uppercase

/-- The words of a name in camel case, put together. -/
def camelWords : List (List Char) → List Char
  | [] => []
  | w :: ws => lowercase w ++ ws.flatMap capitalize

end Identifier

/-- The names get one form. Unless they lead, words stand before both of them. -/
def Casing.Merges : Casing → (leads : Bool) → List Char → List Char → Prop
  | .passthrough, _, a, b => a = b
  | .snakeCase, _, a, b => lowerWords a = lowerWords b
  | .pascalCase, _, a, b => pascal a = pascal b
  | .camelCase, true, a, b => camel a = camel b
  | .camelCase, false, a, b => pascal a = pascal b

namespace Identifier

variable {t a b stem : List Char} {casing : Casing}

theorem joinable_of_mem_lowerWords {w : List Char} (h : w ∈ lowerWords t) : Joinable w := by
  obtain ⟨v, hv, rfl⟩ := List.mem_map.mp h
  exact (joinable_of_mem_splitWords hv).lowercase

theorem joinable_of_mem_constantWords {w : List Char} (h : w ∈ constantWords t) : Joinable w := by
  obtain ⟨v, hv, rfl⟩ := List.mem_map.mp h
  obtain ⟨u, -, hvu⟩ := List.mem_flatMap.mp hv
  exact (joinable_of_mem_splitWords hvu).uppercase

/-- **Names in snake case are told apart by their words in lower case.** -/
theorem snake_inj : snake a = snake b ↔ lowerWords a = lowerWords b :=
  intercalate_inj (fun _ => joinable_of_mem_lowerWords) (fun _ => joinable_of_mem_lowerWords)

theorem constant_snake (t : List Char) :
    constant (snake t) = ['_'].intercalate (constantWords t) := by
  rw [constant, snake, splitWords_intercalate]
  rfl

/-- **Constants made of names in snake case are told apart by their words.** -/
theorem constant_snake_inj : constant (snake a) = constant (snake b) ↔
    constantWords a = constantWords b := by
  rw [constant_snake, constant_snake]
  exact intercalate_inj (fun _ => joinable_of_mem_constantWords)
    (fun _ => joinable_of_mem_constantWords)

theorem camel_eq (t : List Char) : camel t = camelWords (splitWords t) := by
  rw [camel]
  cases splitWords t <;> rfl

/-! ## Names after a stem -/

/-- The parts of an identifier, joined and not yet cased. -/
def joined (parts : List (List Char)) : List Char := ['_'].intercalate (parts.filter (· ≠ []))

/-- An empty part has no words. -/
theorem splitWords_joined (parts : List (List Char)) :
    splitWords (joined parts) = parts.flatMap splitWords := by
  rw [joined, splitWords_intercalate]
  induction parts with
  | nil => rfl
  | cons part parts ih =>
    by_cases h : part = []
    · rw [List.filter_cons_of_neg (by simpa using h), ih, List.flatMap_cons, h]
      rfl
    · rw [List.filter_cons_of_pos (by simpa using h), List.flatMap_cons, ih, List.flatMap_cons]

theorem splitWords_stem (stem t : List Char) :
    splitWords (joined [stem, t]) = splitWords stem ++ splitWords t := by
  rw [splitWords_joined, List.flatMap_cons, List.flatMap_cons, List.flatMap_nil, List.append_nil]

theorem joined_inj : joined [stem, a] = joined [stem, b] ↔ a = b := by
  refine ⟨fun h => ?_, fun h => h ▸ rfl⟩
  by_cases hs : stem = []
  · have hjoined : ∀ t, joined [stem, t] = t := fun t => by
      cases t <;> simp [joined, hs]
    rwa [hjoined, hjoined] at h
  · -- an underscore stands after the stem unless nothing follows
    have hjoined : ∀ t, joined [stem, t] = stem ++ if t = [] then [] else '_' :: t := fun t => by
      cases t <;> simp [joined, hs, List.intercalate_cons_cons]
    rw [hjoined, hjoined, List.append_cancel_left_eq] at h
    match a, b with
    | [], [] => rfl
    | [], _ :: _ | _ :: _, [] => simp at h
    | _ :: _, _ :: _ => exact (List.cons.inj h).2

/-- What is made of words one after the other tells names apart as well after a stem as without. -/
theorem stem_inj {α : Type} (f : List (List Char) → List α) (hf : ∀ u v, f (u ++ v) = f u ++ f v) :
    f (splitWords (joined [stem, a])) = f (splitWords (joined [stem, b])) ↔
      f (splitWords a) = f (splitWords b) := by
  rw [splitWords_stem, splitWords_stem, hf, hf, List.append_cancel_left_eq]

theorem lowerWords_stem_inj :
    lowerWords (joined [stem, a]) = lowerWords (joined [stem, b]) ↔ lowerWords a = lowerWords b :=
  stem_inj (List.map lowercase) fun _ _ => List.map_append

theorem constantWords_stem_inj :
    constantWords (joined [stem, a]) = constantWords (joined [stem, b]) ↔
      constantWords a = constantWords b :=
  stem_inj (fun ws => ((ws.map lowercase).flatMap splitWords).map uppercase) fun u v => by
    rw [List.map_append, List.flatMap_append, List.map_append]

theorem pascal_stem_inj : pascal (joined [stem, a]) = pascal (joined [stem, b]) ↔
    pascal a = pascal b :=
  stem_inj (List.flatMap capitalize) fun _ _ => List.flatMap_append

/-- After a stem the first word of a name is capitalized like the others; a stem without words is
none. -/
theorem camel_stem_inj : camel (joined [stem, a]) = camel (joined [stem, b]) ↔
    Casing.camelCase.Merges (splitWords stem).isEmpty a b := by
  rw [camel_eq, camel_eq, splitWords_stem, splitWords_stem]
  cases splitWords stem with
  | nil =>
    rw [List.nil_append, List.nil_append, ← camel_eq, ← camel_eq]
    rfl
  | cons w ws =>
    have hstem : ∀ t, camelWords (w :: ws ++ splitWords t)
        = (lowercase w ++ ws.flatMap capitalize) ++ pascal t := fun t => by
      rw [List.cons_append, camelWords, List.flatMap_append, List.append_assoc]
      rfl
    rw [hstem, hstem, List.append_cancel_left_eq]
    rfl

/-- **Casing merges names that lead.** -/
theorem apply_inj : casing.apply a = casing.apply b ↔ casing.Merges true a b := by
  cases casing with
  | snakeCase => exact snake_inj
  | camelCase | pascalCase | passthrough => exact Iff.rfl

/-- **Casing merges names that follow a stem.** -/
theorem composeChars_inj : composeChars [stem, a] casing = composeChars [stem, b] casing ↔
    casing.Merges (splitWords stem).isEmpty a b := by
  cases casing with
  | camelCase => exact camel_stem_inj
  | snakeCase => exact snake_inj.trans lowerWords_stem_inj
  | pascalCase => exact pascal_stem_inj
  | passthrough => exact joined_inj

/-- **Constants merge names that follow a stem.** -/
theorem constant_compose_inj : constant (composeChars [stem, a] .snakeCase)
    = constant (composeChars [stem, b] .snakeCase) ↔ constantWords a = constantWords b :=
  constant_snake_inj.trans constantWords_stem_inj

/-! ## ASCII names -/

theorem capitalize_of_ascii {c : Char} {w : List Char} (h : ∀ d ∈ c :: w, isAscii d = true) :
    capitalize (c :: w) = c.toUpper :: w.map Char.toLower := by
  have hrest : w.flatMap lower = w.map Char.toLower := by
    rw [List.map_eq_flatMap]
    exact List.flatMap_congr fun d hd => lower_of_ascii (h d (List.mem_cons_of_mem c hd))
  rw [capitalize, upper_of_ascii (h c List.mem_cons_self), hrest]
  rfl

/-- Capitalizing an ASCII word, its letters may be in any case. -/
theorem capitalize_map {f : Char → Char} (hf : ∀ c, isAscii c = true →
    isAscii (f c) = true ∧ (f c).toUpper = c.toUpper ∧ (f c).toLower = c.toLower)
    {w : List Char} (h : ∀ c ∈ w, isAscii c = true) : capitalize (w.map f) = capitalize w := by
  cases w with
  | nil => rfl
  | cons c w =>
    obtain ⟨hascii, hupper, -⟩ := hf c (h c List.mem_cons_self)
    have hrest : ∀ d ∈ w, lower (f d) = lower d := fun d hd => by
      have hd := h d (List.mem_cons_of_mem c hd)
      obtain ⟨hascii, -, hlower⟩ := hf d hd
      rw [lower_of_ascii hascii, lower_of_ascii hd, hlower]
    rw [List.map_cons, capitalize, capitalize, upper_of_ascii hascii,
      upper_of_ascii (h c List.mem_cons_self), hupper, List.flatMap_map]
    exact congrArg _ (List.flatMap_congr hrest)

theorem capitalize_lowercase {w : List Char} (h : ∀ c ∈ w, isAscii c = true) :
    capitalize (lowercase w) = capitalize w := by
  rw [lowercase_of_ascii h]
  refine capitalize_map (fun c hc => ⟨isAscii_toLower hc, toUpper_toLower hc, ?_⟩) h
  exact forall_ascii (P := fun c => c.toLower.toLower = c.toLower) (by decide) hc

theorem capitalize_uppercase {w : List Char} (h : ∀ c ∈ w, isAscii c = true) :
    capitalize (uppercase w) = capitalize w := by
  rw [uppercase_of_ascii h]
  refine capitalize_map (fun c hc => ?_) h
  exact forall_ascii (P := fun c => isAscii c.toUpper = true ∧ c.toUpper.toUpper = c.toUpper ∧
    c.toUpper.toLower = c.toLower) (by decide) hc

theorem ascii_of_mem_splitWords (ht : ∀ c ∈ t, isAscii c = true) {w : List Char}
    (h : w ∈ splitWords t) : ∀ c ∈ w, isAscii c = true :=
  fun c hc => ht c (mem_of_mem_splitWords h hc).1

/-- The letters of words in lower case are those of the name. -/
theorem exists_of_mem_lowerWords (ht : ∀ c ∈ t, isAscii c = true) {w : List Char}
    (h : w ∈ lowerWords t) {c : Char} (hc : c ∈ w) :
    ∃ d, isAscii d = true ∧ isSeparator d = false ∧ d.toLower = c := by
  obtain ⟨v, hv, rfl⟩ := List.mem_map.mp h
  have hascii := ascii_of_mem_splitWords ht hv
  rw [lowercase_of_ascii hascii] at hc
  obtain ⟨d, hd, rfl⟩ := List.mem_map.mp hc
  exact ⟨d, hascii d hd, (mem_of_mem_splitWords hv hd).2, rfl⟩

theorem ascii_of_mem_lowerWords (ht : ∀ c ∈ t, isAscii c = true) {w : List Char}
    (h : w ∈ lowerWords t) : ∀ c ∈ w, isAscii c = true := by
  intro c hc
  obtain ⟨d, hascii, -, rfl⟩ := exists_of_mem_lowerWords ht h hc
  exact isAscii_toLower hascii

/-- A word of ASCII letters in lower case is not cut any further. -/
theorem splitWords_of_mem_lowerWords (ht : ∀ c ∈ t, isAscii c = true) {w : List Char}
    (h : w ∈ lowerWords t) : splitWords w = [w] := by
  refine splitWords_of_word (joinable_of_mem_lowerWords h).ne_nil (fun c hc => ?_) fun c hc => ?_
  · obtain ⟨d, hascii, hsep, rfl⟩ := exists_of_mem_lowerWords ht h hc
    exact forall_ascii (P := fun d => isSeparator d = false → isSeparator d.toLower = false)
      (by decide) hascii hsep
  · obtain ⟨d, hascii, -, rfl⟩ := exists_of_mem_lowerWords ht h hc
    exact forall_ascii (P := fun d => isUpper d.toLower = false) (by decide) hascii

theorem constantWords_of_ascii (ht : ∀ c ∈ t, isAscii c = true) :
    constantWords t = (lowerWords t).map uppercase := by
  rw [constantWords, List.flatMap_congr fun w hw => splitWords_of_mem_lowerWords ht hw,
    List.flatMap_singleton']

theorem pascal_of_lowerWords (ht : ∀ c ∈ t, isAscii c = true) :
    pascal t = (lowerWords t).flatMap capitalize := by
  rw [pascal, lowerWords, List.flatMap_map]
  exact List.flatMap_congr fun w hw =>
    (capitalize_lowercase (ascii_of_mem_splitWords ht hw)).symm

theorem pascal_of_constantWords (ht : ∀ c ∈ t, isAscii c = true) :
    pascal t = (constantWords t).flatMap capitalize := by
  rw [pascal_of_lowerWords ht, constantWords_of_ascii ht, List.flatMap_map]
  exact List.flatMap_congr fun w hw =>
    (capitalize_uppercase (ascii_of_mem_lowerWords ht hw)).symm

/-- Only its first letter tells a name in camel case from the name in pascal case. -/
theorem pascal_of_camel (ht : ∀ c ∈ t, isAscii c = true) :
    pascal t = (camel t).modifyHead Char.toUpper := by
  have hne : ∀ w ∈ splitWords t, w ≠ [] := fun w => ne_nil_of_mem_splitWords
  have hascii : ∀ w ∈ splitWords t, ∀ c ∈ w, isAscii c = true := fun w =>
    ascii_of_mem_splitWords ht
  rw [camel_eq, pascal]
  cases hwords : splitWords t with
  | nil => rfl
  | cons w ws =>
    rw [hwords] at hne hascii
    obtain ⟨c, w, rfl⟩ := List.exists_cons_of_ne_nil (hne w List.mem_cons_self)
    have hword := hascii _ List.mem_cons_self
    rw [camelWords, lowercase_of_ascii hword, List.flatMap_cons, capitalize_of_ascii hword,
      List.map_cons, List.cons_append, List.cons_append, List.modifyHead_cons,
      toUpper_toLower (hword c List.mem_cons_self)]

/-- **Constants of ASCII names merge no more than pascal case does.** -/
theorem pascal_eq_of_constantWords (ha : ∀ c ∈ a, isAscii c = true)
    (hb : ∀ c ∈ b, isAscii c = true) (h : constantWords a = constantWords b) :
    pascal a = pascal b := by
  rw [pascal_of_constantWords ha, pascal_of_constantWords hb, h]

end Identifier

open Identifier in
/-- **No casing merges more ASCII names than pascal case does.** -/
theorem Casing.Merges.pascal_eq {casing : Casing} {leads : Bool} {a b : List Char}
    (h : casing.Merges leads a b) (ha : ∀ c ∈ a, isAscii c = true)
    (hb : ∀ c ∈ b, isAscii c = true) : pascal a = pascal b := by
  cases casing with
  | passthrough => exact congrArg pascal h
  | snakeCase => rw [pascal_of_lowerWords ha, pascal_of_lowerWords hb, h]
  | pascalCase => exact h
  | camelCase =>
    cases leads with
    | true => rw [pascal_of_camel ha, pascal_of_camel hb, h]
    | false => exact h

end ValidatorGen
