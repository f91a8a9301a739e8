/-
When casing a text twice changes it. In snake case it never does. In the other casings the second
pass reads the text that the first has put together, where a word may no longer be told from its
neighbour: **in pascal and camel case a word keeps if its capital opens a hump after the word before
it, and in upper case a word keeps if no letter comes after a digit in it**
(`casing_idempotent_iff`). Initials, as in `a_b`, do not keep (`not_idempotent_initials`).
-/
import ValidatorGen.Proofs.Identifier.Composition
import ValidatorGen.Proofs.Identifier.SnakeForm

namespace ValidatorGen.Identifier

open Text

variable {t u v w : List Char} {ws : List (List Char)} {b c : Char} {leads : Bool}

/-! ## Humps -/

/-- Each capital of a text that goes on after `b` opens a hump. -/
def CapitalsOpen : Char → List Char → Prop
  | _, [] => True
  | b, c :: t => (isUpper c = true → opensHump b c t.head? = true) ∧ CapitalsOpen c t

/-- A text keeps its capitals if they open humps. -/
theorem recased_eq_self_iff (ht : ∀ c ∈ t, isAscii c = true) :
    recased b t = t ↔ CapitalsOpen b t := by
  induction t generalizing b with
  | nil => exact iff_of_true rfl trivial
  | cons c t ih =>
    obtain ⟨hc, ht⟩ := List.forall_mem_cons.mp ht
    have hkept : isUpper c = true → c.toUpper = c :=
      forall_ascii (P := fun c => isUpper c = true → c.toUpper = c) (by decide) hc
    have hlowered : c.toLower = c ↔ isUpper c = false :=
      forall_ascii (P := fun c => c.toLower = c ↔ isUpper c = false) (by decide) hc
    rw [recased, List.cons.injEq, CapitalsOpen, ih ht]
    refine and_congr ?_ Iff.rfl
    split
    · next hopen =>
      have hupper : isUpper c = true := (Bool.and_eq_true_iff.mp hopen).1
      exact iff_of_true (hkept hupper) fun _ => hopen
    · next hclosed => simp [hlowered, hclosed]

/-- Small letters are passed over. -/
theorem capitalsOpen_append (hu : ∀ c ∈ u, isUpper c = false) (t : List Char) :
    CapitalsOpen b (u ++ t) ↔ CapitalsOpen ((b :: u).getLast (List.cons_ne_nil b u)) t := by
  induction u generalizing b with
  | nil => exact Iff.rfl
  | cons c u ih =>
    obtain ⟨hc, hu⟩ := List.forall_mem_cons.mp hu
    rw [List.cons_append, CapitalsOpen, ih hu, List.getLast_cons (List.cons_ne_nil c u)]
    simp [hc]

/-! ## Words -/

/-- The capital of `v` opens a hump when it is written after `u`: no letter comes first in `v`, or
`u` ends in a digit, or in a letter that is small or that the second letter of `v` sets off. The
first letter of `u` is small if `u` leads. -/
def Shows (leads : Bool) (u v : List Char) : Prop :=
  ∀ b ∈ u.getLast?, ∀ c ∈ v.head?, c.isAlpha = true →
    b.isDigit = true ∨ b.isAlpha = true ∧
      (leads = true ∨ 1 < u.length ∨ v.tail.head?.any Char.isAlpha = true)

instance (leads : Bool) (u v : List Char) : Decidable (Shows leads u v) :=
  have (b : Char) : Decidable (∀ c ∈ v.head?, c.isAlpha = true → b.isDigit = true ∨
      b.isAlpha = true ∧ (leads = true ∨ 1 < u.length ∨ v.tail.head?.any Char.isAlpha = true)) :=
    Option.decidableForallMem v.head?
  Option.decidableForallMem u.getLast?

/-- Each word shows after the one before it. -/
def AllShow : Bool → List (List Char) → Prop
  | leads, u :: v :: ws => Shows leads u v ∧ AllShow false (v :: ws)
  | _, _ => True

instance decidableAllShow : (leads : Bool) → (ws : List (List Char)) → Decidable (AllShow leads ws)
  | _, [] => isTrue trivial
  | _, [_] => isTrue trivial
  | leads, u :: v :: ws =>
    have := decidableAllShow false (v :: ws)
    inferInstanceAs (Decidable (Shows leads u v ∧ AllShow false (v :: ws)))

/-- The capital of a word opens a hump if the word shows. -/
theorem opensHump_iff_shows {r : List Char} {after : Option Char}
    (hu : ∀ e ∈ b :: t, isAscii e = true) (hc : isAscii c = true)
    (hafter : after.any isLower = r.head?.any Char.isAlpha) :
    (isUpper c.toUpper = true → opensHump ((initial leads b :: t.map Char.toLower).getLast
      (List.cons_ne_nil _ _)) c.toUpper after = true) ↔ Shows leads (b :: t) (c :: r) := by
  have hc := inUpperCase hc
  rcases List.eq_nil_or_concat t with rfl | ⟨t, d, rfl⟩
  · have hcapital := inUpperCase (hu b List.mem_cons_self)
    have hsmall := inLowerCase (hu b List.mem_cons_self)
    simp only [opensHump, Shows, List.map_nil, List.getLast_singleton, List.getLast?_singleton,
      hc.isUpper]
    cases leads with
    | false =>
      simp +contextual [initial, hcapital.isLower, hcapital.isDigit, hcapital.isUpper, hafter]
    | true =>
      simp +contextual [initial, hsmall.isLower, hsmall.isDigit, hsmall.isUpper, or_comm]
  · have hsmall := inLowerCase (hu d (by simp))
    have hlast : (b :: (t ++ [d])).getLast? = some d := by
      rw [← List.cons_append, List.getLast?_concat]
    simp only [List.concat_eq_append, opensHump, Shows, hc.isUpper, hlast]
    simp +contextual [hsmall.isLower, hsmall.isDigit, hsmall.isUpper, or_comm]

/-- Words that are written one after the other open a hump with every capital just if all of them
show. -/
theorem capitalsOpen_words (hu : ∀ c ∈ b :: t, isAscii c = true)
    (hws : ∀ w ∈ ws, w ≠ [] ∧ ∀ c ∈ w, isAscii c = true) :
    CapitalsOpen (initial leads b) (t.map Char.toLower ++ ws.flatMap capitalize) ↔
      AllShow leads ((b :: t) :: ws) := by
  have hsmall : ∀ {b : Char} {t : List Char}, (∀ c ∈ b :: t, isAscii c = true) →
      ∀ d ∈ t.map Char.toLower, isUpper d = false := fun hu =>
    List.forall_mem_map.mpr fun d hd => (inLowerCase (hu d (List.mem_cons_of_mem _ hd))).isUpper
  induction ws generalizing b t leads with
  | nil =>
    have hnone : CapitalsOpen (initial leads b) (t.map Char.toLower ++ []) :=
      (capitalsOpen_append (hsmall hu) []).mpr trivial
    exact iff_of_true hnone trivial
  | cons v ws ih =>
    obtain ⟨⟨hne, hv⟩, hrest⟩ := List.forall_mem_cons.mp hws
    obtain ⟨c, r, rfl⟩ := List.exists_cons_of_ne_nil hne
    have hbehind : CapitalsOpen (initial false c) (r.map Char.toLower ++ ws.flatMap capitalize) ↔
        AllShow false ((c :: r) :: ws) := ih hv hrest
    rw [capitalsOpen_append (hsmall hu), List.flatMap_cons, capitalize_of_ascii hv,
      List.cons_append, CapitalsOpen, AllShow]
    refine and_congr (opensHump_iff_shows hu (hv c List.mem_cons_self) ?_) hbehind
    -- after a single letter comes the capital of another word, or nothing
    cases r with
    | nil =>
      cases ws with
      | nil => rfl
      | cons w ws =>
        obtain ⟨⟨hne, hw⟩, -⟩ := List.forall_mem_cons.mp hrest
        obtain ⟨d, q, rfl⟩ := List.exists_cons_of_ne_nil hne
        rw [List.map_nil, List.nil_append, List.flatMap_cons, capitalize_of_ascii hw]
        exact (inUpperCase (hw d List.mem_cons_self)).isLower
    | cons d r => exact (inLowerCase (hv d (by simp))).isLower

/-! ## Camel and pascal case -/

theorem exists_of_mem_capitalize (hw : ∀ c ∈ w, isAscii c = true) {d : Char}
    (hd : d ∈ capitalize w) : ∃ c ∈ w, d = c.toLower ∨ d = c.toUpper := by
  cases w with
  | nil => cases hd
  | cons c w =>
    rw [capitalize_of_ascii hw] at hd
    rcases List.mem_cons.mp hd with rfl | hd
    · exact ⟨c, List.mem_cons_self, .inr rfl⟩
    · obtain ⟨e, he, rfl⟩ := List.mem_map.mp hd
      exact ⟨e, List.mem_cons_of_mem c he, .inl rfl⟩

/-- The letters of words that are put together are those of the words. -/
theorem exists_of_mem_putTogether (hws : ∀ w ∈ ws, ∀ c ∈ w, isAscii c = true) {d : Char}
    (hd : d ∈ putTogether leads ws) : ∃ w ∈ ws, ∃ c ∈ w, d = c.toLower ∨ d = c.toUpper := by
  have hcapitalized : ∀ vs : List (List Char), (∀ v ∈ vs, v ∈ ws) → d ∈ vs.flatMap capitalize →
      ∃ w ∈ ws, ∃ c ∈ w, d = c.toLower ∨ d = c.toUpper := by
    intro vs hvs hd
    obtain ⟨v, hv, hd⟩ := List.mem_flatMap.mp hd
    exact ⟨v, hvs v hv, exists_of_mem_capitalize (hws v (hvs v hv)) hd⟩
  cases leads with
  | false => exact hcapitalized ws (fun _ => id) hd
  | true =>
    cases ws with
    | nil => cases hd
    | cons w ws =>
      rcases List.mem_append.mp hd with hd | hd
      · rw [lowercase_of_ascii (hws w List.mem_cons_self)] at hd
        obtain ⟨c, hc, rfl⟩ := List.mem_map.mp hd
        exact ⟨w, List.mem_cons_self, c, hc, .inl rfl⟩
      · exact hcapitalized ws (fun v => List.mem_cons_of_mem w) hd

theorem initial_initial (hc : isAscii c = true) :
    initial leads (initial leads c) = initial leads c := by
  cases leads
  · exact forall_ascii (P := fun c => c.toUpper.toUpper = c.toUpper) (by decide) hc
  · exact forall_ascii (P := fun c => c.toLower.toLower = c.toLower) (by decide) hc

/-- **Words that are put together are found again, up to letter case, if each shows after the one
before it.** -/
theorem putTogether_splitWords_iff (hne : ∀ w ∈ ws, w ≠ [])
    (hascii : ∀ w ∈ ws, ∀ c ∈ w, isAscii c = true)
    (hsep : ∀ w ∈ ws, ∀ c ∈ w, isSeparator c = false) :
    putTogether leads (splitWords (putTogether leads ws)) = putTogether leads ws ↔
      AllShow leads ws := by
  have hmem : ∀ d ∈ putTogether leads ws, isAscii d = true ∧ isSeparator d = false := by
    intro d hd
    obtain ⟨w, hw, c, hc, hcase⟩ := exists_of_mem_putTogether hascii hd
    have hc' := hascii w hw c hc
    have hcsep := hsep w hw c hc
    rcases hcase with rfl | rfl
    · exact ⟨isAscii_toLower hc', (inLowerCase hc').isSeparator.trans hcsep⟩
    · exact ⟨(inUpperCase hc').ascii, (inUpperCase hc').isSeparator.trans hcsep⟩
  rw [splitWords, fields_of_all_not isSeparator fun d hd => (hmem d hd).2, List.flatMap_singleton]
  cases ws with
  | nil => cases leads <;> exact iff_of_true rfl trivial
  | cons w ws =>
    obtain ⟨c, w, rfl⟩ := List.exists_cons_of_ne_nil (hne w List.mem_cons_self)
    have hword := hascii _ List.mem_cons_self
    rw [putTogether_cons hword] at hmem ⊢
    have hrest : ∀ d ∈ w.map Char.toLower ++ ws.flatMap capitalize, isAscii d = true := fun d hd =>
      (hmem d (List.mem_cons_of_mem _ hd)).1
    rw [putTogether_humps fun d hd => (hmem d hd).1, initial_initial (hword c List.mem_cons_self),
      List.cons.injEq, recased_eq_self_iff hrest, capitalsOpen_words hword fun v hv =>
        ⟨hne v (List.mem_cons_of_mem _ hv), hascii v (List.mem_cons_of_mem _ hv)⟩]
    exact and_iff_right rfl

/-! ## Upper case -/

/-- Words are found again if none is cut. -/
theorem flatMap_splitWords_eq_self_iff (hsep : ∀ w ∈ ws, ∀ c ∈ w, isSeparator c = false)
    (hne : ∀ w ∈ ws, w ≠ []) :
    ws.flatMap splitWords = ws ↔ ∀ w ∈ ws, splitWords w = [w] := by
  refine ⟨fun h => ?_, fun h => (List.flatMap_congr h).trans (List.flatMap_singleton' ws)⟩
  induction ws with
  | nil => exact fun _ => nofun
  | cons w ws ih =>
    obtain ⟨hw, hws⟩ := List.forall_mem_cons.mp hsep
    have hflat : (splitWords w).flatten = w := by
      rw [flatten_splitWords]
      exact List.filter_eq_self.mpr fun c hc => by simp [hw c hc]
    have hne' : splitWords w ≠ [] := fun hnil => by
      rw [hnil] at hflat
      exact hne w List.mem_cons_self hflat.symm
    obtain ⟨v, vs, hvs⟩ := List.exists_cons_of_ne_nil hne'
    rw [List.flatMap_cons, hvs, List.cons_append] at h
    obtain ⟨rfl, htail⟩ := List.cons.inj h
    -- the first piece is the whole word, so that nothing is left for others
    have hempty : ∀ u ∈ vs, u = [] := by simpa [hvs] using hflat
    have hnone : vs = [] := List.eq_nil_iff_forall_not_mem.mpr fun u hu =>
      ne_nil_of_mem_splitWords (hvs ▸ List.mem_cons_of_mem v hu) (hempty u hu)
    rw [hnone] at hvs htail
    exact List.forall_mem_cons.mpr ⟨hvs, ih hws
      (fun u hu => hne u (List.mem_cons_of_mem v hu)) htail⟩

theorem constant_constant_iff (ht : ∀ c ∈ t, isAscii c = true) :
    constant (constant t) = constant t ↔
      ∀ w ∈ splitWords t, w.IsChain fun b c => ¬ LetterAfterDigit b c := by
  have hascii : ∀ w ∈ splitWords t, ∀ c ∈ w, isAscii c = true := fun w =>
    ascii_of_mem_splitWords ht
  have hsep : ∀ w ∈ splitWords t, ∀ c ∈ w, isSeparator c = false := fun w hw c hc =>
    (mem_of_mem_splitWords hw hc).2
  let words := (splitWords t).map uppercase
  have hupper : ∀ w ∈ words, ∀ d ∈ w, ∃ c, isAscii c = true ∧ isSeparator c = false ∧
      d = c.toUpper := by
    refine List.forall_mem_map.mpr fun w hw d hd => ?_
    rw [uppercase_of_ascii (hascii w hw)] at hd
    obtain ⟨c, hc, rfl⟩ := List.mem_map.mp hd
    exact ⟨c, hascii w hw c hc, hsep w hw c hc, rfl⟩
  have hagain : (words.flatMap splitWords).map uppercase = words.flatMap splitWords := by
    refine map_eq_self fun v hv => ?_
    obtain ⟨w, hw, hv⟩ := List.mem_flatMap.mp hv
    have hletter : ∀ d ∈ v, isAscii d = true ∧ d.toUpper = d := fun d hd => by
      obtain ⟨c, hc, -, rfl⟩ := hupper w hw d (mem_of_mem_splitWords hv hd).1
      exact ⟨(inUpperCase hc).ascii,
        forall_ascii (P := fun c => c.toUpper.toUpper = c.toUpper) (by decide) hc⟩
    rw [uppercase_of_ascii fun d hd => (hletter d hd).1, map_eq_self fun d hd => (hletter d hd).2]
  have hconstant : constant (constant t) = ['_'].intercalate (words.flatMap splitWords) := by
    rw [← hagain, constant, constant, splitWords_intercalate]
  have hjoinable : ∀ w ∈ words, Joinable w := List.forall_mem_map.mpr fun w hw =>
    (joinable_of_mem_splitWords hw).uppercase
  have hpieces : ∀ v ∈ words.flatMap splitWords, Joinable v := fun v hv => by
    obtain ⟨w, -, hv⟩ := List.mem_flatMap.mp hv
    exact joinable_of_mem_splitWords hv
  have hwhole : ∀ w ∈ words, ∀ d ∈ w, isSeparator d = false := fun w hw d hd => by
    obtain ⟨c, hc, hsep, rfl⟩ := hupper w hw d hd
    exact (inUpperCase hc).isSeparator.trans hsep
  rw [hconstant, constant, intercalate_inj hpieces hjoinable,
    flatMap_splitWords_eq_self_iff hwhole fun w hw => (hjoinable w hw).ne_nil, List.forall_mem_map]
  exact forall₂_congr fun w hw =>
    splitWords_uppercase_iff (ne_nil_of_mem_splitWords hw) (hascii w hw) (hsep w hw)

/-! ## All casings -/

/-- **Of an ASCII text, snake case is idempotent; pascal and camel case are if every word that
starts with a letter shows after the word before it; and constants are if no word has a letter
after a digit.** -/
theorem casing_idempotent_iff (text : String) (h : ∀ c ∈ text.toList, isAscii c = true) :
    snakeCase (snakeCase text) = snakeCase text ∧
    (pascalCase (pascalCase text) = pascalCase text ↔ AllShow false (splitWords text.toList)) ∧
    (camelCase (camelCase text) = camelCase text ↔ AllShow true (splitWords text.toList)) ∧
    (constantCase (constantCase text) = constantCase text ↔
      ∀ w ∈ splitWords text.toList, w.IsChain fun b c => ¬ LetterAfterDigit b c) := by
  have hwords : ∀ leads, putTogether leads (splitWords (putTogether leads (splitWords text.toList)))
      = putTogether leads (splitWords text.toList) ↔ AllShow leads (splitWords text.toList) :=
    fun leads => putTogether_splitWords_iff (fun w => ne_nil_of_mem_splitWords)
      (fun w => ascii_of_mem_splitWords h) fun w hw c hc => (mem_of_mem_splitWords hw hc).2
  simp only [snakeCase, pascalCase, camelCase, constantCase, String.toList_ofList,
    String.ofList_inj, pascal_eq_putTogether, camel_eq_putTogether]
  exact ⟨snake_snake h, hwords false, hwords true, constant_constant_iff h⟩

theorem casing_idempotent_iff_lineItem :
    pascalCase (pascalCase "x_line2_item") = pascalCase "x_line2_item" ∧
    camelCase (camelCase "x_line2_item") = camelCase "x_line2_item" ∧
    constantCase (constantCase "x_line2_item") = constantCase "x_line2_item" := by
  obtain ⟨-, hpascal, hcamel, hconstant⟩ :=
    casing_idempotent_iff "x_line2_item" (forall_mem_of_all (by decide))
  exact ⟨hpascal.mpr (by decide), hcamel.mpr (by decide), hconstant.mpr (by decide)⟩

/-- Initials run together, and a letter in upper case is cut off from the digit before it. -/
theorem not_idempotent_initials :
    (∀ c ∈ "a_b_c".toList ++ "v2lite".toList, isAscii c = true) ∧
    pascalCase (pascalCase "a_b_c") ≠ pascalCase "a_b_c" ∧
    camelCase (camelCase "a_b_c") ≠ camelCase "a_b_c" ∧
    constantCase (constantCase "v2lite") ≠ constantCase "v2lite" :=
  ⟨forall_mem_of_all (by decide), by decide, by decide, by decide⟩

end ValidatorGen.Identifier
