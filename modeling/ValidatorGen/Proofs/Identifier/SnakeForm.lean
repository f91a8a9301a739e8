/-
Snake case as the form that stands for all others. An ASCII text has the words of its snake case up
to letter case, so that every casing makes the same of both. Of a name in snake case whose words
are plain (`IsPlainWord`: two small letters or more and then digits), snake case is got back from
every casing: each word is one hump, and the next hump opens after it (`splitWords_capitalized`,
`splitWords_uppercase`). **Such names, and the properties that are named for them, are told apart
in every casing** (`snake_canonical`).
-/
import ValidatorGen.Naming
import ValidatorGen.Proofs.Identifier.Humps

namespace ValidatorGen

open Identifier Text

namespace Identifier

variable {s t w : List Char} {ws : List (List Char)}

theorem map_eq_self {α : Type} {f : α → α} {as : List α} (h : ∀ a ∈ as, f a = a) :
    as.map f = as := (List.map_congr_left h).trans (List.map_id as)

/-! ## The casings of an ASCII text in snake case -/

theorem ascii_lowercase (h : ∀ c ∈ w, isAscii c = true) : ∀ c ∈ lowercase w, isAscii c = true := by
  rw [lowercase_of_ascii h]
  exact List.forall_mem_map.mpr fun c hc => isAscii_toLower (h c hc)

theorem lowercase_lowercase (h : ∀ c ∈ w, isAscii c = true) :
    lowercase (lowercase w) = lowercase w := by
  rw [lowercase_of_ascii (ascii_lowercase h), lowercase_of_ascii h, List.map_map]
  exact List.map_congr_left fun c hc =>
    forall_ascii (P := fun c => c.toLower.toLower = c.toLower) (by decide) (h c hc)

theorem uppercase_lowercase (h : ∀ c ∈ w, isAscii c = true) :
    uppercase (lowercase w) = uppercase w := by
  rw [uppercase_of_ascii (ascii_lowercase h), lowercase_of_ascii h, uppercase_of_ascii h,
    List.map_map]
  exact List.map_congr_left fun c hc => toUpper_toLower (h c hc)

section

variable (ht : ∀ c ∈ t, isAscii c = true)
include ht

/-- **Snake case has the words of the text, in lower case.** -/
theorem splitWords_snake : splitWords (snake t) = lowerWords t := by
  show splitWords (['_'].intercalate (lowerWords t)) = _
  rw [splitWords_intercalate, List.flatMap_congr fun w hw => splitWords_of_mem_lowerWords ht hw,
    List.flatMap_singleton']

theorem pascal_snake : pascal (snake t) = pascal t := by
  rw [pascal, splitWords_snake ht, pascal_of_lowerWords ht]

theorem snake_snake : snake (snake t) = snake t := by
  rw [snake, splitWords_snake ht, lowerWords, List.map_map]
  exact congrArg _ (List.map_congr_left fun w hw =>
    lowercase_lowercase (ascii_of_mem_splitWords ht hw))

theorem camel_snake : camel (snake t) = camel t := by
  have hascii : ∀ w ∈ splitWords t, ∀ c ∈ w, isAscii c = true := fun w =>
    ascii_of_mem_splitWords ht
  rw [camel_eq, splitWords_snake ht, camel_eq, lowerWords]
  cases hwords : splitWords t with
  | nil => rfl
  | cons w ws =>
    rw [hwords] at hascii
    rw [List.map_cons, camelWords, camelWords, lowercase_lowercase (hascii w List.mem_cons_self),
      List.flatMap_map]
    exact congrArg _ (List.flatMap_congr fun v hv =>
      capitalize_lowercase (hascii v (List.mem_cons_of_mem w hv)))

theorem constant_snake_eq : constant (snake t) = constant t := by
  rw [constant, splitWords_snake ht, lowerWords, List.map_map]
  exact congrArg _ (List.map_congr_left fun w hw =>
    uppercase_lowercase (ascii_of_mem_splitWords ht hw))

end

/-! ## Plain words -/

/-- A small letter or a digit. -/
def isPlainLetter (c : Char) : Bool := c.isLower || c.isDigit

theorem forall_plainLetter {P : Char → Prop}
    (h : ∀ n, n < 128 → isPlainLetter (Char.ofNat n) = true → P (Char.ofNat n)) {c : Char}
    (hc : isPlainLetter c = true) : P c := by
  have halnum : c.isAlphanum = true := by
    rcases Bool.or_eq_true_iff.mp hc with hlower | hdigit
    · exact Bool.or_eq_true_iff.mpr (.inl (Bool.or_eq_true_iff.mpr (.inr hlower)))
    · exact Bool.or_eq_true_iff.mpr (.inr hdigit)
  exact forall_ascii (P := fun c => isPlainLetter c = true → P c) h
    (isAscii_of_isAlphanum halnum) hc

/-- Two small letters or more and then digits. -/
def IsPlainWord (w : List Char) : Prop :=
  ∃ letters digits, w = letters ++ digits ∧ 2 ≤ letters.length ∧
    (∀ c ∈ letters, c.isLower = true) ∧ ∀ c ∈ digits, c.isDigit = true

/-- A plain word as one hump: its letters are those of the word, and one that is small, or a digit,
comes last. -/
structure IsHumpOf (w x : List Char) : Prop where
  humps : humps x = [x]
  notSeparator : ∀ c ∈ x, isSeparator c = false
  lowercase : lowercase x = w
  last : ∃ b ∈ x.getLast?, isPlainLetter b = true

namespace IsPlainWord

variable (h : IsPlainWord w)
include h

theorem plainLetters : ∀ c ∈ w, isPlainLetter c = true := by
  obtain ⟨letters, digits, rfl, -, hletters, hdigits⟩ := h
  intro c hc
  rcases List.mem_append.mp hc with hc | hc
  · simp [isPlainLetter, hletters c hc]
  · simp [isPlainLetter, hdigits c hc]

theorem exists_cons : ∃ c d t, w = c :: d :: t ∧ c.isLower = true := by
  obtain ⟨letters, digits, rfl, hlength, hletters, -⟩ := h
  match letters, hlength with
  | c :: d :: letters, _ => exact ⟨c, d, letters ++ digits, rfl, hletters c List.mem_cons_self⟩

theorem ascii : ∀ c ∈ w, isAscii c = true := fun c hc =>
  forall_plainLetter (P := fun c => isAscii c = true) (by decide) (h.plainLetters c hc)

theorem notUpper : ∀ c ∈ w, isUpper c = false := fun c hc =>
  forall_plainLetter (P := fun c => isUpper c = false) (by decide) (h.plainLetters c hc)

theorem notSeparator : ∀ c ∈ w, isSeparator c = false := fun c hc =>
  forall_plainLetter (P := fun c => isSeparator c = false) (by decide) (h.plainLetters c hc)

theorem map_toLower : w.map Char.toLower = w := map_eq_self fun c hc =>
  forall_plainLetter (P := fun c => c.toLower = c) (by decide) (h.plainLetters c hc)

/-- A word in lower case is a hump of itself. -/
theorem isHumpOf_self : IsHumpOf w w := by
  obtain ⟨c, d, t, rfl, -⟩ := h.exists_cons
  constructor
  case humps => exact humps_of_no_upper fun e he => h.notUpper e (List.mem_cons_of_mem c he)
  case notSeparator => exact h.notSeparator
  case lowercase => rw [lowercase_of_ascii h.ascii, h.map_toLower]
  case last =>
    obtain ⟨b, hb⟩ := Option.isSome_iff_exists.mp
      (List.getLast?_isSome.mpr (List.cons_ne_nil c (d :: t)))
    exact ⟨b, hb, h.plainLetters b (List.mem_of_getLast? hb)⟩

theorem capitalize_eq {c : Char} {t : List Char} (heq : w = c :: t) :
    capitalize w = c.toUpper :: t := by
  subst heq
  rw [capitalize_of_ascii h.ascii, (List.cons.inj h.map_toLower).2]

/-- **A word with a capital is a hump of the word.** -/
theorem isHumpOf_capitalize : IsHumpOf w (capitalize w) := by
  obtain ⟨c, d, t, rfl, hc⟩ := h.exists_cons
  have hupper := inUpperCase (h.ascii c List.mem_cons_self)
  have hself := h.isHumpOf_self
  rw [h.capitalize_eq rfl]
  constructor
  case humps => exact humps_of_no_upper fun e he => h.notUpper e (List.mem_cons_of_mem c he)
  case notSeparator =>
    refine List.forall_mem_cons.mpr ⟨?_, fun e he => h.notSeparator e (List.mem_cons_of_mem c he)⟩
    exact hupper.isSeparator.trans (h.notSeparator c List.mem_cons_self)
  case lowercase =>
    have hascii : ∀ e ∈ c.toUpper :: d :: t, isAscii e = true :=
      List.forall_mem_cons.mpr ⟨hupper.ascii, fun e he => h.ascii e (List.mem_cons_of_mem c he)⟩
    have hback : c.toUpper.toLower = c :=
      forall_plainLetter (P := fun c => c.toUpper.toLower = c) (by decide)
        (h.plainLetters c List.mem_cons_self)
    rw [lowercase_of_ascii hascii, List.map_cons, hback, (List.cons.inj h.map_toLower).2]
  case last => simpa using hself.last

/-- **A word with a capital opens after any hump.** -/
theorem opensAfter_capitalize {v x : List Char} (hx : IsHumpOf v x) :
    OpensAfter x (capitalize w) := by
  obtain ⟨c, d, t, rfl, hc⟩ := h.exists_cons
  obtain ⟨b, hb, hplain⟩ := hx.last
  have hupper := inUpperCase (h.ascii c List.mem_cons_self)
  have hcapital : isUpper c.toUpper = true :=
    hupper.isUpper.trans (Bool.or_eq_true_iff.mpr (.inr hc))
  have hbefore : (isLower b || b.isDigit) = true :=
    forall_plainLetter (P := fun b => (isLower b || b.isDigit) = true) (by decide) hplain
  rw [h.capitalize_eq rfl]
  refine ⟨b, hb, c.toUpper, rfl, ?_, hupper.isLower⟩
  rw [opensHump, hcapital, hbefore]
  rfl

/-- **In upper case it is one word as well**: no letter comes after its digits. -/
theorem splitWords_uppercase : splitWords (uppercase w) = [uppercase w] := by
  have hne : w ≠ [] := by
    obtain ⟨c, d, t, rfl, -⟩ := h.exists_cons
    exact List.cons_ne_nil c (d :: t)
  refine (splitWords_uppercase_iff hne h.ascii h.notSeparator).mpr (List.Pairwise.isChain ?_)
  obtain ⟨letters, digits, rfl, -, hletters, hdigits⟩ := h
  have hnoDigit : ∀ b ∈ letters, b.isDigit = false := fun b hb =>
    forall_plainLetter (P := fun b => b.isLower = true → b.isDigit = false) (by decide)
      (by simp [isPlainLetter, hletters b hb]) (hletters b hb)
  have hnoLetter : ∀ c ∈ digits, c.isAlpha = false := fun c hc =>
    forall_plainLetter (P := fun c => c.isDigit = true → c.isAlpha = false) (by decide)
      (by simp [isPlainLetter, hdigits c hc]) (hdigits c hc)
  refine List.pairwise_append.mpr ⟨?_, ?_, ?_⟩
  · exact List.pairwise_of_forall_mem_list fun b hb c _ => by
      simp [LetterAfterDigit, hnoDigit b hb]
  · exact List.pairwise_of_forall_mem_list fun b _ c hc => by
      simp [LetterAfterDigit, hnoLetter c hc]
  · intro b hb c _
    simp [LetterAfterDigit, hnoDigit b hb]

theorem lowercase_uppercase : Text.lowercase (uppercase w) = w := by
  have hupper : ∀ c ∈ uppercase w, isAscii c = true := by
    rw [uppercase_of_ascii h.ascii]
    exact List.forall_mem_map.mpr fun c hc => (inUpperCase (h.ascii c hc)).ascii
  rw [lowercase_of_ascii hupper, uppercase_of_ascii h.ascii, List.map_map]
  exact map_eq_self fun c hc =>
    forall_plainLetter (P := fun c => c.toUpper.toLower = c) (by decide) (h.plainLetters c hc)

end IsPlainWord

/-- **Words of which all but the first are capitalized are cut apart again.** -/
theorem splitWords_capitalized {x : List Char} (hx : IsHumpOf w x)
    (hws : ∀ v ∈ ws, IsPlainWord v) :
    splitWords (x ++ ws.flatMap capitalize) = x :: ws.map capitalize := by
  have hall : ∀ y ∈ x :: ws.map capitalize, ∃ v, IsHumpOf v y := by
    refine List.forall_mem_cons.mpr ⟨⟨w, hx⟩, List.forall_mem_map.mpr fun v hv => ?_⟩
    exact ⟨v, (hws v hv).isHumpOf_capitalize⟩
  have hopen : (x :: ws.map capitalize).Pairwise OpensAfter := by
    have hafter : ∀ {v y}, IsHumpOf v y → ∀ z ∈ ws.map capitalize, OpensAfter y z := fun hy =>
      List.forall_mem_map.mpr fun u hu => (hws u hu).opensAfter_capitalize hy
    refine List.pairwise_cons.mpr ⟨hafter hx, List.pairwise_of_forall_mem_list fun y hy => ?_⟩
    obtain ⟨v, hv⟩ := hall y (List.mem_cons_of_mem x hy)
    exact hafter hv
  have hflat : x ++ ws.flatMap capitalize = (x :: ws.map capitalize).flatten := by
    rw [List.flatten_cons, List.flatMap_def]
  rw [hflat, splitWords, fields_of_all_not isSeparator, List.flatMap_singleton,
    humps_flatten _ hopen.isChain]
  · intro y hy
    obtain ⟨v, hv⟩ := hall y hy
    exact hv.humps
  · intro c hc
    obtain ⟨y, hy, hc⟩ := List.mem_flatten.mp hc
    obtain ⟨v, hv⟩ := hall y hy
    exact hv.notSeparator c hc

/-! ## Plain names -/

/-- Plain words that are joined by underscores. -/
def IsPlainName (name : String) : Prop :=
  ∃ ws, ws ≠ [] ∧ (∀ w ∈ ws, IsPlainWord w) ∧ name.toList = ['_'].intercalate ws

theorem splitWords_plain (hws : ∀ w ∈ ws, IsPlainWord w) :
    splitWords (['_'].intercalate ws) = ws := by
  have hone : ∀ w ∈ ws, splitWords w = [w] := fun w hw => by
    have hself := (hws w hw).isHumpOf_self
    rw [splitWords, fields_of_all_not isSeparator hself.notSeparator, List.flatMap_singleton,
      hself.humps]
  rw [splitWords_intercalate, List.flatMap_congr hone, List.flatMap_singleton']

/-- Snake case is got back from words of which all but the first are capitalized. -/
theorem snake_capitalized {x : List Char} (hx : IsHumpOf w x) (hws : ∀ v ∈ ws, IsPlainWord v) :
    snake (x ++ ws.flatMap capitalize) = ['_'].intercalate (w :: ws) := by
  have hback : ws.map (lowercase ∘ capitalize) = ws := map_eq_self fun v hv =>
    (hws v hv).isHumpOf_capitalize.lowercase
  rw [snake, splitWords_capitalized hx hws, List.map_cons, hx.lowercase, List.map_map, hback]

section

variable (hws : ∀ w ∈ ws, IsPlainWord w)
include hws

theorem snake_plain : snake (['_'].intercalate ws) = ['_'].intercalate ws := by
  rw [snake, splitWords_plain hws, map_eq_self fun w hw => (hws w hw).isHumpOf_self.lowercase]

theorem snake_constant_plain :
    snake (constant (['_'].intercalate ws)) = ['_'].intercalate ws := by
  have hwords : splitWords (['_'].intercalate (ws.map uppercase)) = ws.map uppercase := by
    rw [splitWords_intercalate, List.flatMap_map,
      List.flatMap_congr fun w hw => (hws w hw).splitWords_uppercase]
    exact List.map_eq_flatMap.symm
  have hback : ws.map (lowercase ∘ uppercase) = ws := map_eq_self fun w hw =>
    (hws w hw).lowercase_uppercase
  rw [constant, splitWords_plain hws, snake, hwords, List.map_map, hback]

theorem snake_pascal_plain :
    snake (pascal (['_'].intercalate ws)) = ['_'].intercalate ws := by
  rw [pascal, splitWords_plain hws]
  cases ws with
  | nil => rfl
  | cons w ws =>
    exact snake_capitalized (hws w List.mem_cons_self).isHumpOf_capitalize fun v hv =>
      hws v (List.mem_cons_of_mem w hv)

theorem snake_camel_plain :
    snake (camel (['_'].intercalate ws)) = ['_'].intercalate ws := by
  rw [camel_eq, splitWords_plain hws]
  cases ws with
  | nil => rfl
  | cons w ws =>
    have hself := (hws w List.mem_cons_self).isHumpOf_self
    rw [camelWords, hself.lowercase]
    exact snake_capitalized hself fun v hv => hws v (List.mem_cons_of_mem w hv)

end

/-- Snake case is what all casings of a text have in common. -/
structure IsCanonical (text : String) : Prop where
  camel : camelCase (snakeCase text) = camelCase text
  pascal : pascalCase (snakeCase text) = pascalCase text
  constant : constantCase (snakeCase text) = constantCase text
  snake : snakeCase (snakeCase text) = snakeCase text

theorem isCanonical {text : String} (h : ∀ c ∈ text.toList, isAscii c = true) :
    IsCanonical text := by
  constructor <;> simp only [snakeCase, camelCase, pascalCase, constantCase, String.toList_ofList]
  case camel => rw [camel_snake h]
  case pascal => rw [pascal_snake h]
  case constant => rw [constant_snake_eq h]
  case snake => rw [snake_snake h]

/-- A name is got back by snake case from its form in every casing, and from that of a property. -/
structure IsGotBack (name : String) : Prop where
  camel : snakeCase (camelCase name) = name
  pascal : snakeCase (pascalCase name) = name
  constant : snakeCase (constantCase name) = name
  property : ∀ config, snakeCase (Naming.propertyName name config) = name

theorem IsPlainName.isGotBack {name : String} (h : IsPlainName name) : IsGotBack name := by
  obtain ⟨ws, -, hws, hname⟩ := h
  have hback : ∀ t, snake t = ['_'].intercalate ws → snakeCase (String.ofList t) = name := by
    intro t ht
    rw [snakeCase, String.toList_ofList, ht, ← hname, String.ofList_toList]
  have hcamel := hback _ (snake_camel_plain hws)
  have hpascal := hback _ (snake_pascal_plain hws)
  have hconstant := hback _ (snake_constant_plain hws)
  have hsnake := hback _ (snake_plain hws)
  rw [← hname] at hcamel hpascal hconstant hsnake
  refine ⟨hcamel, hpascal, hconstant, fun config => ?_⟩
  rw [String.ofList_toList] at hsnake
  rw [Naming.propertyName]
  split
  · cases config.fieldCasing with
    | camelCase => exact hcamel
    | pascalCase => exact hpascal
    | snakeCase =>
      show snakeCase (snakeCase name) = name
      rw [hsnake, hsnake]
    | passthrough =>
      show snakeCase (String.ofList name.toList) = name
      rw [String.ofList_toList, hsnake]
  · exact hsnake

/-- Two names differ in every casing, and so do the properties that are named for them. -/
structure AreApart (a b : String) : Prop where
  camel : camelCase a ≠ camelCase b
  pascal : pascalCase a ≠ pascalCase b
  constant : constantCase a ≠ constantCase b
  property : ∀ config, Naming.propertyName a config ≠ Naming.propertyName b config

theorem IsGotBack.areApart {a b : String} (ha : IsGotBack a) (hb : IsGotBack b) (hne : a ≠ b) :
    AreApart a b where
  camel h := hne (by rw [← ha.camel, h, hb.camel])
  pascal h := hne (by rw [← ha.pascal, h, hb.pascal])
  constant h := hne (by rw [← ha.constant, h, hb.constant])
  property config h := hne (by rw [← ha.property config, h, hb.property config])

/-- **An ASCII text has the casings of its snake case; plain names in snake case are got back from
every casing, so that no two of them get one form.** -/
theorem snake_canonical :
    (∀ text : String, (∀ c ∈ text.toList, isAscii c = true) → IsCanonical text) ∧
    (∀ name, IsPlainName name → IsGotBack name) ∧
    ∀ a b, IsPlainName a → IsPlainName b → a ≠ b → AreApart a b :=
  ⟨fun _ => isCanonical, fun _ => IsPlainName.isGotBack, fun _ _ ha hb =>
    ha.isGotBack.areApart hb.isGotBack⟩

theorem snake_canonical_line : IsCanonical "HTTPServer a1B" ∧ IsGotBack "line2_total" ∧
    AreApart "line2_total" "line_total2" := by
  have hline2 : IsPlainWord "line2".toList :=
    ⟨"line".toList, "2".toList, rfl, by decide,
      forall_mem_of_all (by decide), forall_mem_of_all (by decide)⟩
  have hline : IsPlainWord "line".toList :=
    ⟨"line".toList, [], rfl, by decide,
      forall_mem_of_all (by decide), forall_mem_of_all (by decide)⟩
  have htotal : IsPlainWord "total".toList :=
    ⟨"total".toList, [], rfl, by decide,
      forall_mem_of_all (by decide), forall_mem_of_all (by decide)⟩
  have htotal2 : IsPlainWord "total2".toList :=
    ⟨"total".toList, "2".toList, rfl, by decide,
      forall_mem_of_all (by decide), forall_mem_of_all (by decide)⟩
  have hfirst : IsPlainName "line2_total" :=
    ⟨["line2".toList, "total".toList], by simp, by simpa using ⟨hline2, htotal⟩, rfl⟩
  have hsecond : IsPlainName "line_total2" :=
    ⟨["line".toList, "total2".toList], by simp, by simpa using ⟨hline, htotal2⟩, rfl⟩
  obtain ⟨hcanonical, hback, hapart⟩ := snake_canonical
  exact ⟨hcanonical _ (forall_mem_of_all (by decide)), hback _ hfirst,
    hapart _ _ hfirst hsecond (by decide)⟩

end Identifier

end ValidatorGen
