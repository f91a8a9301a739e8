/-
Singular forms. Every name falls under one rule, which keeps its beginning and puts at most one
letter in the place of at most three at its end (`singularizes_singular`). No rule finds a plural in
what is left (`SingularRule.isSingular`), and names that are none are left alone
(`singular_eq_self_iff`). Where the last letters are counted as bytes, the cuts are the same, and
none falls inside of a character (`slicedSingular?_eq`). So **a name settles in one step, and only
its end changes** (`singularize_settles`).
-/
import ValidatorGen.Naming
import ValidatorGen.Proofs.Text.Ascii

namespace ValidatorGen

namespace Identifier

open Text

/-! ## Endings -/

section

variable {text ending ending' kept dropped : List Char} {n : Nat}

theorem endsLike_iff_suffix : endsLike ending text = true ↔ ending <:+ text.map Char.toLower :=
  List.isSuffixOf_iff_suffix

theorem length_of_map_toLower (h : text.map Char.toLower = ending) :
    text.length = ending.length := by
  rw [← h, List.length_map]

/-- Of a text that is longer than its ending something is left. -/
theorem ne_nil_of_length_lt (h : dropped.map Char.toLower = ending)
    (hlength : ending.length < (kept ++ dropped).length) : kept ≠ [] := by
  rintro rfl
  rw [List.nil_append, length_of_map_toLower h] at hlength
  exact Nat.lt_irrefl _ hlength

/-- An ending, in some letter case, can be taken off. -/
theorem endsLike_append (ending' : List Char) (h : dropped.map Char.toLower = ending) :
    endsLike (ending' ++ ending) (kept ++ dropped) = endsLike ending' kept := by
  rw [Bool.eq_iff_iff, endsLike_iff_suffix, endsLike_iff_suffix, List.map_append, h]
  constructor
  · rintro ⟨lower, hlower⟩
    rw [← List.append_assoc] at hlower
    exact ⟨lower, List.append_cancel_right hlower⟩
  · rintro ⟨lower, hlower⟩
    exact ⟨lower, by rw [← hlower, List.append_assoc]⟩

theorem endsLike_dropped (kept : List Char) (h : dropped.map Char.toLower = ending) :
    endsLike ending (kept ++ dropped) = true := by
  rw [← List.nil_append ending, endsLike_append [] h]
  exact endsLike_iff_suffix.mpr List.nil_suffix

/-- What a text ends in, in some letter case, and what the text before it ends in. -/
theorem exists_of_endsLike (ending' : List Char)
    (h : endsLike (ending' ++ ending) text = true) :
    ∃ kept dropped, text = kept ++ dropped ∧ dropped.map Char.toLower = ending ∧
      endsLike ending' kept = true := by
  obtain ⟨lower, h⟩ := endsLike_iff_suffix.mp h
  rw [← List.append_assoc] at h
  obtain ⟨kept, dropped, rfl, hkept, hdropped⟩ := List.map_eq_append_iff.mp h.symm
  refine ⟨kept, dropped, rfl, hdropped, ?_⟩
  rw [endsLike_iff_suffix, hkept]
  exact List.suffix_append _ _

/-- Of two endings of a text, one is an ending of the other. -/
theorem endsLike_eq_false (h : endsLike ending text = true) (hnot : ¬ ending <:+ ending')
    (hnot' : ¬ ending' <:+ ending) : endsLike ending' text = false := by
  rw [Bool.eq_false_iff]
  intro h'
  have hone := List.suffix_or_suffix_of_suffix (endsLike_iff_suffix.mp h)
    (endsLike_iff_suffix.mp h')
  exact hone.elim hnot hnot'

theorem endsLike_of_suffix (hsuffix : ending' <:+ ending) (h : endsLike ending text = true) :
    endsLike ending' text = true :=
  endsLike_iff_suffix.mpr (hsuffix.trans (endsLike_iff_suffix.mp h))

/-- A text ends in nothing longer than itself. -/
theorem length_le_of_endsLike (h : endsLike ending text = true) : ending.length ≤ text.length := by
  have hlength := (endsLike_iff_suffix.mp h).length_le
  rwa [List.length_map] at hlength

theorem dropEnd_append (h : dropped.map Char.toLower = ending) :
    dropEnd ending.length (kept ++ dropped) = kept := by
  rw [dropEnd, ← length_of_map_toLower h, List.length_append, Nat.add_sub_cancel, List.take_left]

end

/-! ## Rules -/

/-- No rule takes the text for a plural: it does not end in `s`, or it ends in `ss`, `us` or `is`,
or it is a single letter. -/
def IsSingular (text : List Char) : Prop :=
  endsLike ['s'] text = true → text.length ≤ 1 ∨ endsLike ['s', 's'] text = true ∨
    endsLike ['u', 's'] text = true ∨ endsLike ['i', 's'] text = true

/-- The text ends in a sound after which the plural takes `es`. -/
def IsSibilant (text : List Char) : Prop :=
  endsLike ['s', 's'] text = true ∨ endsLike ['x'] text = true ∨ endsLike ['c', 'h'] text = true ∨
    endsLike ['s', 'h'] text = true

/-- The rule that a name falls under: what is kept of it, what is dropped and what is added. -/
inductive SingularRule (kept dropped added : List Char) : Prop
  | ies (hkept : kept ≠ []) (hdropped : dropped.map Char.toLower = ['i', 'e', 's'])
      (hadded : added.map Char.toLower = ['y'])
  | es (hkept : IsSibilant kept) (hdropped : dropped.map Char.toLower = ['e', 's'])
      (hadded : added = [])
  | stays (hkept : IsSingular kept) (hdropped : dropped = []) (hadded : added = [])
  | s (hkept : kept ≠ []) (hdropped : dropped.map Char.toLower = ['s'])
      (hbefore : ∀ c ∈ ['s', 'u', 'i'], endsLike [c] kept = false) (hadded : added = [])

/-- A rule takes a text to a form. -/
def Singularizes (text form : List Char) : Prop :=
  ∃ kept dropped added, text = kept ++ dropped ∧ form = kept ++ added ∧
    SingularRule kept dropped added

section

variable {text kept dropped added : List Char}

theorem singularizes_ies (hlength : 3 < text.length) (h : endsLike ['i', 'e', 's'] text = true)
    {y : Char} (hy : y.toLower = 'y') : Singularizes text (dropEnd 3 text ++ [y]) := by
  obtain ⟨kept, dropped, rfl, hdropped, -⟩ := exists_of_endsLike [] h
  refine ⟨kept, dropped, [y], rfl, ?_,
    .ies (ne_nil_of_length_lt hdropped hlength) hdropped (by rw [List.map_singleton, hy])⟩
  rw [show 3 = ['i', 'e', 's'].length from rfl, dropEnd_append hdropped]

theorem singularizes_es (sound : List Char) (h : endsLike (sound ++ ['e', 's']) text = true)
    (hsound : ∀ kept, endsLike sound kept = true → IsSibilant kept) :
    Singularizes text (dropEnd 2 text) := by
  obtain ⟨kept, dropped, rfl, hdropped, hkept⟩ := exists_of_endsLike sound h
  refine ⟨kept, dropped, [], rfl, ?_, .es (hsound kept hkept) hdropped rfl⟩
  rw [show 2 = ['e', 's'].length from rfl, dropEnd_append hdropped, List.append_nil]

theorem singularizes_self (h : IsSingular text) : Singularizes text text :=
  ⟨text, [], [], (List.append_nil text).symm, (List.append_nil text).symm, .stays h rfl rfl⟩

theorem singularizes_s (hlength : 1 < text.length) (h : endsLike ['s'] text = true)
    (hnot : ∀ c ∈ ['s', 'u', 'i'], endsLike [c, 's'] text = false) :
    Singularizes text (dropEnd 1 text) := by
  obtain ⟨kept, dropped, rfl, hdropped, -⟩ := exists_of_endsLike [] h
  have hbefore : ∀ c ∈ ['s', 'u', 'i'], endsLike [c] kept = false := by
    intro c hc
    rw [← endsLike_append [c] hdropped]
    exact hnot c hc
  refine ⟨kept, dropped, [], rfl, ?_,
    .s (ne_nil_of_length_lt hdropped hlength) hdropped hbefore rfl⟩
  rw [show 1 = ['s'].length from rfl, dropEnd_append hdropped, List.append_nil]

/-- **Every name falls under a rule.** -/
theorem singularizes_singular (text : List Char) : Singularizes text (singular text) := by
  rw [singular]
  split
  case isTrue h =>
    rw [Bool.and_eq_true, decide_eq_true_eq] at h
    refine singularizes_ies h.1 h.2 ?_
    split <;> rfl
  split
  case isTrue h =>
    simp only [Bool.or_eq_true] at h
    rcases h with ((h | h) | h) | h
    · exact singularizes_es ['s', 's'] h fun _ => .inl
    · exact singularizes_es ['x'] h fun _ hx => .inr (.inl hx)
    · exact singularizes_es ['c', 'h'] h fun _ hch => .inr (.inr (.inl hch))
    · exact singularizes_es ['s', 'h'] h fun _ hsh => .inr (.inr (.inr hsh))
  split
  case isTrue h =>
    simp only [Bool.or_eq_true, or_assoc] at h
    exact singularizes_self fun _ => .inr h
  case isFalse hkept =>
    simp only [Bool.or_eq_true, not_or, Bool.not_eq_true] at hkept
    split
    case isTrue h =>
      rw [Bool.and_eq_true, decide_eq_true_eq] at h
      exact singularizes_s h.1 h.2 (by simpa [and_assoc] using hkept)
    case isFalse h =>
      rw [Bool.and_eq_true, decide_eq_true_eq] at h
      exact singularizes_self fun hs => .inl (Nat.le_of_not_lt fun hlength => h ⟨hlength, hs⟩)

theorem IsSingular.not_es (h : IsSingular text) : endsLike ['e', 's'] text = false := by
  rw [Bool.eq_false_iff]
  intro hes
  rcases h (endsLike_of_suffix (by decide) hes) with hone | h | h | h
  · have htwo : 2 ≤ text.length := length_le_of_endsLike hes
    omega
  all_goals
    rw [endsLike_eq_false h (by decide) (by decide)] at hes
    cases hes

/-- **A text that is no plural falls under the rule that leaves it alone.** -/
theorem SingularRule.stays_of_isSingular (h : SingularRule kept dropped added)
    (hsingular : IsSingular (kept ++ dropped)) : dropped = [] ∧ added = [] := by
  cases h with
  | ies _ hdropped _ =>
    have hes : endsLike ['e', 's'] (kept ++ dropped) = true :=
      endsLike_of_suffix (by decide) (endsLike_dropped kept hdropped)
    rw [hsingular.not_es] at hes
    cases hes
  | es _ hdropped _ =>
    have hes := endsLike_dropped kept hdropped
    rw [hsingular.not_es] at hes
    cases hes
  | stays _ hdropped hadded => exact ⟨hdropped, hadded⟩
  | s hkept hdropped hbefore _ =>
    have hends : ∀ c ∈ ['s', 'u', 'i'], endsLike [c, 's'] (kept ++ dropped) = false := fun c hc =>
      (endsLike_append [c] hdropped).trans (hbefore c hc)
    rcases hsingular (endsLike_dropped kept hdropped) with hone | h | h | h
    · have hpos := List.length_pos_iff.mpr hkept
      rw [List.length_append, length_of_map_toLower hdropped, List.length_singleton] at hone
      omega
    all_goals
      rw [hends _ (by decide)] at h
      cases h

/-- **No rule finds a plural in what another has left.** -/
theorem SingularRule.isSingular (h : SingularRule kept dropped added) :
    IsSingular (kept ++ added) := by
  have hnone : ∀ {text ending}, endsLike ending text = true → ¬ ending <:+ ['s'] →
      ¬ ['s'] <:+ ending → IsSingular text := by
    intro text ending hending hnot hnot' hs
    rw [endsLike_eq_false hending hnot hnot'] at hs
    cases hs
  cases h with
  | ies _ _ hadded => exact hnone (endsLike_dropped kept hadded) (by decide) (by decide)
  | es hkept _ hadded =>
    rw [hadded, List.append_nil]
    rcases hkept with hss | h | h | h
    · exact fun _ => .inr (.inl hss)
    all_goals exact hnone h (by decide) (by decide)
  | stays hkept _ hadded =>
    rw [hadded, List.append_nil]
    exact hkept
  | s _ _ hbefore hadded =>
    rw [hadded, List.append_nil]
    intro hs
    rw [hbefore 's' (by decide)] at hs
    cases hs

theorem isSingular_singular (text : List Char) : IsSingular (singular text) := by
  obtain ⟨kept, dropped, added, -, hform, hrule⟩ := singularizes_singular text
  exact hform ▸ hrule.isSingular

/-- **The rules leave alone just the names that are no plurals.** -/
theorem singular_eq_self_iff : singular text = text ↔ IsSingular text := by
  constructor
  · intro h
    exact h ▸ isSingular_singular text
  · intro h
    obtain ⟨kept, dropped, added, rfl, hform, hrule⟩ := singularizes_singular text
    obtain ⟨rfl, rfl⟩ := hrule.stays_of_isSingular h
    exact hform

/-! ## What a rule changes -/

/-- Something is kept of every name. -/
theorem SingularRule.kept_ne_nil (h : SingularRule kept dropped added)
    (hne : kept ++ dropped ≠ []) : kept ≠ [] := by
  cases h with
  | ies hkept _ _ | s hkept _ _ _ => exact hkept
  | es hkept _ _ =>
    rintro rfl
    have hnot : ∀ sound : List Char, sound ≠ [] → endsLike sound [] = true → False :=
      fun sound hsound h => hsound (List.suffix_nil.mp (endsLike_iff_suffix.mp h))
    rcases hkept with h | h | h | h
    all_goals exact hnot _ (by decide) h
  | stays _ hdropped _ => rwa [hdropped, List.append_nil] at hne

theorem singular_eq_nil_iff : singular text = [] ↔ text = [] := by
  constructor
  · intro h
    obtain ⟨kept, dropped, added, rfl, hform, hrule⟩ := singularizes_singular text
    rw [h] at hform
    by_cases hne : kept ++ dropped = []
    · exact hne
    · exact absurd (List.append_eq_nil_iff.mp hform.symm).1 (hrule.kept_ne_nil hne)
  · rintro rfl
    rfl

/-- The form starts as the name does. -/
theorem exists_singular_cons (c : Char) (rest : List Char) :
    ∃ rest', singular (c :: rest) = c :: rest' := by
  obtain ⟨kept, dropped, added, htext, hform, hrule⟩ := singularizes_singular (c :: rest)
  have hkept : kept ≠ [] := hrule.kept_ne_nil (htext ▸ List.cons_ne_nil c rest)
  obtain ⟨d, kept, rfl⟩ := List.exists_cons_of_ne_nil hkept
  obtain ⟨rfl, -⟩ := List.cons.inj htext
  exact ⟨kept ++ added, hform⟩

/-- No letter of it is new but a final `y`. -/
theorem mem_singular {c : Char} (h : c ∈ singular text) : c ∈ text ∨ c.toLower = 'y' := by
  obtain ⟨kept, dropped, added, rfl, hform, hrule⟩ := singularizes_singular text
  rw [hform] at h
  rcases List.mem_append.mp h with h | h
  · exact .inl (List.mem_append_left dropped h)
  · cases hrule with
    | ies _ _ hadded => exact .inr (List.mem_singleton.mp (hadded ▸ List.mem_map_of_mem h))
    | es _ _ hadded | stays _ _ hadded | s _ _ _ hadded =>
      rw [hadded] at h
      cases h

/-- A rule drops three letters at most and adds one at most. -/
theorem SingularRule.length_le (h : SingularRule kept dropped added) :
    dropped.length ≤ 3 ∧ added.length ≤ 1 := by
  cases h with
  | ies _ hdropped hadded =>
    rw [length_of_map_toLower hdropped, length_of_map_toLower hadded]
    decide
  | es _ hdropped hadded | s _ hdropped _ hadded =>
    rw [length_of_map_toLower hdropped, hadded]
    decide
  | stays _ hdropped hadded =>
    rw [hdropped, hadded]
    decide

theorem ascii_of_map_toLower {ending : List Char} (hending : ∀ c ∈ ending, isAscii c = true)
    (h : text.map Char.toLower = ending) : ∀ c ∈ text, isAscii c = true := fun _ hc =>
  isAscii_of_toLower (hending _ (h ▸ List.mem_map_of_mem hc))

/-- All letters that it drops or adds are ASCII. -/
theorem SingularRule.ascii (h : SingularRule kept dropped added) :
    (∀ c ∈ dropped, isAscii c = true) ∧ ∀ c ∈ added, isAscii c = true := by
  cases h with
  | ies _ hdropped hadded =>
    exact ⟨ascii_of_map_toLower (forall_mem_of_all (by decide)) hdropped,
      ascii_of_map_toLower (forall_mem_of_all (by decide)) hadded⟩
  | es _ hdropped hadded | s _ hdropped _ hadded =>
    subst hadded
    exact ⟨ascii_of_map_toLower (forall_mem_of_all (by decide)) hdropped, nofun⟩
  | stays _ hdropped hadded =>
    subst hdropped hadded
    exact ⟨nofun, nofun⟩

theorem SingularRule.head_ne {c d : Char} {rest rest' : List Char}
    (h : SingularRule kept (c :: rest) (d :: rest')) : c ≠ d := by
  cases h with
  | ies _ hdropped hadded =>
    rintro rfl
    have hi := (List.cons.inj hdropped).1
    have hy := (List.cons.inj hadded).1
    exact absurd (hi.symm.trans hy) (by decide)
  | es _ _ hnil | stays _ _ hnil | s _ _ _ hnil => cases hnil

/-- A rule keeps all that the name and its form begin with. -/
theorem SingularRule.prefix_kept (h : SingularRule kept dropped added) {start : List Char}
    (htext : start <+: kept ++ dropped) (hform : start <+: kept ++ added) : start <+: kept := by
  have hkept : kept <+: kept ++ dropped := List.prefix_append kept dropped
  rcases List.prefix_or_prefix_of_prefix htext hkept with hstart | hstart
  · exact hstart
  · obtain ⟨more, rfl⟩ := hstart
    rw [List.prefix_append_right_inj] at htext hform
    cases more with
    | nil => exact (List.append_nil kept).symm ▸ List.prefix_rfl
    | cons c more =>
      obtain ⟨rest, rfl⟩ := htext
      obtain ⟨rest', rfl⟩ := hform
      exact absurd rfl h.head_ne

end

/-! ## Bytes -/

theorem utf8ByteSize_of_ascii {text : List Char} (h : ∀ c ∈ text, isAscii c = true) :
    (String.ofList text).utf8ByteSize = text.length := by
  induction text with
  | nil => rfl
  | cons c text ih =>
    have hone : c.utf8Size = 1 := by
      rw [Char.utf8Size_eq_one_iff, UInt32.le_iff_toNat_le]
      have hc : c.toNat < 128 := by simpa [isAscii] using h c List.mem_cons_self
      exact Nat.le_of_lt_succ hc
    rw [← List.singleton_append, String.ofList_append, String.utf8ByteSize_append,
      ih fun d hd => h d (List.mem_cons_of_mem c hd), ← String.singleton_eq_ofList,
      String.utf8ByteSize_singleton, hone, List.length_append, List.length_singleton]

/-- The text without its last `n` bytes, unless it has fewer or a character stands across the
cut. -/
def dropBytes? (n : Nat) (text : String) : Option String :=
  if n ≤ text.utf8ByteSize then
    String.fromUTF8? (text.toByteArray.extract 0 (text.utf8ByteSize - n))
  else none

/-- The singular form, with lengths and cuts in bytes. There is none if a cut fails. -/
def slicedSingular? (text : String) : Option String :=
  let ends (ending : List Char) : Bool := endsLike ending text.toList
  if 3 < text.utf8ByteSize && ends ['i', 'e', 's'] then
    (dropBytes? 3 text).map (· ++ if ['I', 'E', 'S'].isSuffixOf text.toList then "Y" else "y")
  else if ends ['s', 's', 'e', 's'] || ends ['x', 'e', 's'] || ends ['c', 'h', 'e', 's']
      || ends ['s', 'h', 'e', 's'] then
    dropBytes? 2 text
  else if ends ['s', 's'] || ends ['u', 's'] || ends ['i', 's'] then some text
  else if 1 < text.utf8ByteSize && ends ['s'] then dropBytes? 1 text
  else some text

theorem dropBytes?_append (kept dropped : String) :
    dropBytes? dropped.utf8ByteSize (kept ++ dropped) = some kept := by
  rw [dropBytes?, String.utf8ByteSize_append, if_pos (Nat.le_add_left _ _), Nat.add_sub_cancel,
    String.toByteArray_append, ByteArray.extract_append_eq_left String.size_toByteArray.symm]
  exact dif_pos kept.isValidUTF8

section

variable {ending : List Char} {text : String}

/-- A text that ends in ASCII letters, as two texts. -/
theorem exists_string_of_endsLike (ending' : List Char) (hascii : ∀ c ∈ ending, isAscii c = true)
    (h : endsLike (ending' ++ ending) text.toList = true) : ∃ kept dropped, text = kept ++ dropped ∧
      dropped.utf8ByteSize = ending.length ∧ dropped.toList.map Char.toLower = ending := by
  obtain ⟨kept, dropped, htext, hdropped, -⟩ := exists_of_endsLike ending' h
  refine ⟨String.ofList kept, String.ofList dropped, ?_, ?_, ?_⟩
  · rw [← String.ofList_append, ← htext, String.ofList_toList]
  · rw [utf8ByteSize_of_ascii (ascii_of_map_toLower hascii hdropped),
      length_of_map_toLower hdropped]
  · rw [String.toList_ofList, hdropped]

/-- An ASCII ending can be cut off as bytes. -/
theorem dropBytes?_of_endsLike (ending' : List Char) (hascii : ∀ c ∈ ending, isAscii c = true)
    (h : endsLike (ending' ++ ending) text.toList = true) :
    dropBytes? ending.length text = some (String.ofList (dropEnd ending.length text.toList)) := by
  obtain ⟨kept, dropped, rfl, hsize, hdropped⟩ := exists_string_of_endsLike ending' hascii h
  rw [String.toList_append, dropEnd_append hdropped, ← hsize, dropBytes?_append,
    String.ofList_toList]

/-- An ASCII ending leaves something of a text in bytes just if it does so in characters. -/
theorem lt_utf8ByteSize_and_endsLike (text : String) (ending : List Char)
    (hascii : ∀ c ∈ ending, isAscii c = true) :
    (decide (ending.length < text.utf8ByteSize) && endsLike ending text.toList)
      = (decide (ending.length < text.toList.length) && endsLike ending text.toList) := by
  cases h : endsLike ending text.toList with
  | false => rw [Bool.and_false, Bool.and_false]
  | true =>
    obtain ⟨kept, dropped, rfl, hsize, hdropped⟩ := exists_string_of_endsLike [] hascii h
    have hkept : kept.utf8ByteSize = 0 ↔ kept.toList.length = 0 := by
      rw [String.utf8ByteSize_eq_zero_iff, List.length_eq_zero_iff, String.toList_eq_nil_iff]
    rw [Bool.and_true, Bool.and_true, decide_eq_decide, String.utf8ByteSize_append, hsize,
      String.toList_append, List.length_append, ← length_of_map_toLower hdropped]
    omega

end

/-- **In bytes the singular form is the same, and no cut fails.** -/
theorem slicedSingular?_eq (text : String) : slicedSingular? text = some (singularize text) := by
  have hthree : (decide (3 < text.utf8ByteSize) && endsLike ['i', 'e', 's'] text.toList)
      = (decide (3 < text.toList.length) && endsLike ['i', 'e', 's'] text.toList) :=
    lt_utf8ByteSize_and_endsLike text ['i', 'e', 's'] (forall_mem_of_all (by decide))
  have hone : (decide (1 < text.utf8ByteSize) && endsLike ['s'] text.toList)
      = (decide (1 < text.toList.length) && endsLike ['s'] text.toList) :=
    lt_utf8ByteSize_and_endsLike text ['s'] (forall_mem_of_all (by decide))
  have hes : ∀ sound : List Char, endsLike (sound ++ ['e', 's']) text.toList = true →
      dropBytes? 2 text = some (String.ofList (dropEnd 2 text.toList)) := fun sound h =>
    dropBytes?_of_endsLike sound (forall_mem_of_all (by decide)) h
  rw [slicedSingular?, singularize, singular]
  simp only [hthree, hone]
  split
  case isTrue h =>
    have hies : endsLike ([] ++ ['i', 'e', 's']) text.toList = true := (Bool.and_eq_true_iff.mp h).2
    have hcut : dropBytes? 3 text = some (String.ofList (dropEnd 3 text.toList)) :=
      dropBytes?_of_endsLike [] (forall_mem_of_all (by decide)) hies
    rw [hcut, String.ofList_append]
    split <;> rfl
  split
  case isTrue h =>
    simp only [Bool.or_eq_true] at h
    rcases h with ((h | h) | h) | h
    · exact hes ['s', 's'] h
    · exact hes ['x'] h
    · exact hes ['c', 'h'] h
    · exact hes ['s', 'h'] h
  split
  case isTrue => rw [String.ofList_toList]
  split
  case isTrue h =>
    have hs : endsLike ([] ++ ['s']) text.toList = true := (Bool.and_eq_true_iff.mp h).2
    exact dropBytes?_of_endsLike [] (forall_mem_of_all (by decide)) hs
  case isFalse => rw [String.ofList_toList]

/-! ## Names -/

/-- Two texts have this beginning in common, and no longer one. -/
structure IsCommonStart (start a b : String) : Prop where
  left : start.toList <+: a.toList
  right : start.toList <+: b.toList
  longest : ∀ t, t <+: a.toList → t <+: b.toList → t <+: start.toList

/-- A name and its singular form differ in so many bytes after what they have in common. -/
structure DiffersAfter (kept dropped added text form : String) : Prop where
  text_eq : text = kept ++ dropped
  form_eq : form = kept ++ added
  common : IsCommonStart kept text form
  dropped_le : dropped.utf8ByteSize ≤ 3
  added_le : added.utf8ByteSize ≤ 1

theorem exists_differsAfter (text : String) :
    ∃ kept dropped added, DiffersAfter kept dropped added text (singularize text) := by
  obtain ⟨kept, dropped, added, htext, hform, hrule⟩ := singularizes_singular text.toList
  have hlength := hrule.length_le
  rw [← utf8ByteSize_of_ascii hrule.ascii.1, ← utf8ByteSize_of_ascii hrule.ascii.2] at hlength
  refine ⟨String.ofList kept, String.ofList dropped, String.ofList added, ?_, ?_, ?_, hlength.1,
    hlength.2⟩
  · rw [← String.ofList_append, ← htext, String.ofList_toList]
  · rw [← String.ofList_append, ← hform, singularize]
  · constructor <;> rw [String.toList_ofList]
    case left => exact htext ▸ List.prefix_append kept dropped
    case right =>
      rw [singularize, String.toList_ofList, hform]
      exact List.prefix_append kept added
    case longest =>
      intro t ht ht'
      rw [singularize, String.toList_ofList, hform] at ht'
      exact hrule.prefix_kept (htext ▸ ht) ht'

theorem singularize_singularize (text : String) :
    singularize (singularize text) = singularize text := by
  rw [singularize, singularize, String.toList_ofList,
    singular_eq_self_iff.mpr (isSingular_singular text.toList)]

/-- **The singular form of a name settles in one step and is empty for no other name than the empty
one; it changes three bytes at the end of the name at most into one at most, which stand after all
that the two have in common; and no cut falls inside of a character.** So the name of an entity is
that of its own entity. -/
theorem singularize_settles (text : String) :
    singularize (singularize text) = singularize text ∧
    (singularize text = "" ↔ text = "") ∧
    (∃ kept dropped added, DiffersAfter kept dropped added text (singularize text)) ∧
    slicedSingular? text = some (singularize text) ∧
    ∀ config, Naming.entityName (Naming.entityName text config) config
      = Naming.entityName text config := by
  refine ⟨singularize_singularize text, ?_, exists_differsAfter text, slicedSingular?_eq text,
    fun config => ?_⟩
  · rw [singularize, String.ofList_eq_empty_iff, singular_eq_nil_iff, String.toList_eq_nil_iff]
  · unfold Naming.entityName
    split
    · exact singularize_singularize text
    · rfl

example : (["users", "Categories", "ADDRESSES", "bus", "ies", "s"].map singularize)
    = ["user", "Category", "ADDRESS", "bus", "ie", "s"] := by decide

end Identifier

end ValidatorGen
