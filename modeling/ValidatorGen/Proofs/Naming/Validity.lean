/-
Generated names as identifiers. A casing other than the source spelling leaves the separators of a
text out and writes its words again, in some letter case and with nothing but underscores between
them (`rewrites_apply`). So **a name that is composed of letters, digits, underscores and, unless
the source spelling is kept, other separators is an identifier if the first of its parts that is
not empty starts with a letter** (`letterFirst_compose`), and so is every name of a table that
starts with a letter (`tableNames_isIdentifier`).
-/
import ValidatorGen.Proofs.Check.Name
import ValidatorGen.Proofs.Identifier.Composition
import ValidatorGen.Proofs.Identifier.Singular
import ValidatorGen.Proofs.Naming.Distinct

namespace ValidatorGen

open Check Identifier Text

namespace Identifier

variable {c d : Char} {t w v text : List Char} {ws vs : List (List Char)}

/-! ## Words in another letter case -/

theorem exists_of_mem_forall₂ {α β : Type} {R : α → β → Prop} {as : List α} {bs : List β} {b : β}
    (h : List.Forall₂ R as bs) (hb : b ∈ bs) : ∃ a ∈ as, R a b := by
  induction h with
  | nil => cases hb
  | cons hrel _ ih =>
    rcases List.mem_cons.mp hb with rfl | hb
    · exact ⟨_, List.mem_cons_self, hrel⟩
    · obtain ⟨a, ha, hrel⟩ := ih hb
      exact ⟨a, List.mem_cons_of_mem _ ha, hrel⟩

/-- The letters of a word, in some letter case. -/
def SameLetters (w v : List Char) : Prop :=
  List.Forall₂ (fun c d => d = c.toLower ∨ d = c.toUpper) w v

theorem sameLetters_map {f : Char → Char} (hf : ∀ c, f c = c.toLower ∨ f c = c.toUpper)
    (w : List Char) : SameLetters w (w.map f) :=
  List.forall₂_map_right_iff.mpr (List.forall₂_same.mpr fun c _ => hf c)

theorem sameLetters_lowercase (hw : ∀ c ∈ w, isAscii c = true) : SameLetters w (lowercase w) := by
  rw [lowercase_of_ascii hw]
  exact sameLetters_map (fun _ => .inl rfl) w

theorem sameLetters_uppercase (hw : ∀ c ∈ w, isAscii c = true) : SameLetters w (uppercase w) := by
  rw [uppercase_of_ascii hw]
  exact sameLetters_map (fun _ => .inr rfl) w

theorem sameLetters_capitalize (hw : ∀ c ∈ w, isAscii c = true) : SameLetters w (capitalize w) := by
  cases w with
  | nil => exact .nil
  | cons c w =>
    rw [capitalize_of_ascii hw]
    exact .cons (.inr rfl) (sameLetters_map (fun _ => .inl rfl) w)

/-- The words in some letter case, with nothing but underscores between them. -/
def Rewrites (ws : List (List Char)) (text : List Char) : Prop :=
  ∃ glue vs, (∀ c ∈ glue, c = '_') ∧ text = List.intercalate glue vs ∧
    List.Forall₂ SameLetters ws vs

theorem forall₂_map_sameLetters {f : List Char → List Char}
    (hf : ∀ w ∈ ws, SameLetters w (f w)) : List.Forall₂ SameLetters ws (ws.map f) :=
  List.forall₂_map_right_iff.mpr (List.forall₂_same.mpr hf)

theorem intercalate_empty (ws : List (List Char)) : List.intercalate [] ws = ws.flatten := by
  induction ws with
  | nil => rfl
  | cons w ws ih =>
    cases ws with
    | nil => simp
    | cons v ws => rw [List.intercalate_cons_cons, ih, List.append_nil, ← List.flatten_cons]

section

variable (hwords : ∀ w ∈ splitWords t, ∀ c ∈ w, isAscii c = true)
include hwords

theorem rewrites_constant : Rewrites (splitWords t) (constant t) :=
  ⟨['_'], _, fun _ => List.mem_singleton.mp, rfl,
    forall₂_map_sameLetters fun w hw => sameLetters_uppercase (hwords w hw)⟩

/-- **A casing other than the source spelling writes the words of a text again.** -/
theorem rewrites_apply {casing : Casing} (hcasing : casing ≠ .passthrough) :
    Rewrites (splitWords t) (casing.apply t) := by
  cases casing with
  | passthrough => exact absurd rfl hcasing
  | snakeCase =>
    exact ⟨['_'], _, fun _ => List.mem_singleton.mp, rfl,
      forall₂_map_sameLetters fun w hw => sameLetters_lowercase (hwords w hw)⟩
  | pascalCase =>
    refine ⟨[], (splitWords t).map capitalize, nofun, ?_,
      forall₂_map_sameLetters fun w hw => sameLetters_capitalize (hwords w hw)⟩
    rw [intercalate_empty, Casing.apply, pascal, List.flatMap_def]
  | camelCase =>
    rw [Casing.apply, camel_eq]
    cases hcut : splitWords t with
    | nil => exact ⟨[], [], nofun, rfl, .nil⟩
    | cons w ws =>
      rw [hcut] at hwords
      obtain ⟨hw, hws⟩ := List.forall_mem_cons.mp hwords
      refine ⟨[], lowercase w :: ws.map capitalize, nofun, ?_, .cons (sameLetters_lowercase hw)
        (forall₂_map_sameLetters fun v hv => sameLetters_capitalize (hws v hv))⟩
      rw [intercalate_empty, camelWords, List.flatten_cons, List.flatMap_def]

end

/-- The first word starts where the text does. -/
theorem exists_splitWords_cons (hc : isSeparator c = false) (t : List Char) :
    ∃ w ws, splitWords (c :: t) = (c :: w) :: ws := by
  have hflat := flatten_splitWords (c :: t)
  rw [List.filter_cons_of_pos (by simp [hc])] at hflat
  cases hcut : splitWords (c :: t) with
  | nil =>
    rw [hcut] at hflat
    cases hflat
  | cons w ws =>
    have hw : w ≠ [] := ne_nil_of_mem_splitWords (hcut ▸ List.mem_cons_self)
    obtain ⟨d, w, rfl⟩ := List.exists_cons_of_ne_nil hw
    rw [hcut, List.flatten_cons, List.cons_append] at hflat
    obtain ⟨rfl, -⟩ := List.cons.inj hflat
    exact ⟨w, ws, rfl⟩

/-! ## Texts that start with a letter -/

/-- The text starts with a letter, and all its characters are of one kind. -/
structure LetterFirst (kind : Char → Prop) (text : List Char) : Prop where
  head : ∃ c ∈ text.head?, c.isAlpha = true
  all : ∀ c ∈ text, kind c

theorem LetterFirst.isIdentifier (h : LetterFirst (isIdentifierChar · = true) text) :
    isIdentifier text = true := by
  obtain ⟨⟨c, hc, halpha⟩, hall⟩ := h
  obtain ⟨rest, rfl⟩ := List.head?_eq_some_iff.mp hc
  rw [Check.isIdentifier, Bool.and_eq_true, List.all_eq_true]
  exact ⟨Bool.or_eq_true_iff.mpr (.inl halpha), fun d hd => hall d (List.mem_cons_of_mem c hd)⟩

theorem isAscii_of_isAlpha (h : c.isAlpha = true) : isAscii c = true :=
  isAscii_of_isAlphanum (Bool.or_eq_true_iff.mpr (.inl h))

theorem isSeparator_of_isAlpha (h : c.isAlpha = true) : isSeparator c = false :=
  forall_ascii (P := fun c => c.isAlpha = true → isSeparator c = false) (by decide)
    (isAscii_of_isAlpha h) h

/-- What stands in a word is a letter or a digit. -/
theorem isAlphanum_of_mem_splitWords
    (ht : ∀ c ∈ t, isIdentifierChar c = true ∨ isSeparator c = true) (hw : w ∈ splitWords t)
    (hc : c ∈ w) : c.isAlphanum = true := by
  obtain ⟨hmem, hsep⟩ := mem_of_mem_splitWords hw hc
  have hchar : isIdentifierChar c = true := (ht c hmem).resolve_right (by simp [hsep])
  rcases Bool.or_eq_true_iff.mp hchar with halnum | hunderscore
  · exact halnum
  · rw [beq_iff_eq.mp hunderscore] at hsep
    cases hsep

theorem ascii_of_words (ht : ∀ c ∈ t, isIdentifierChar c = true ∨ isSeparator c = true) :
    ∀ w ∈ splitWords t, ∀ c ∈ w, isAscii c = true := fun _ hw _ hc =>
  isAscii_of_isAlphanum (isAlphanum_of_mem_splitWords ht hw hc)

/-- Letters and digits stay such in the other letter case. -/
theorem isAlphanum_of_case (h : c.isAlphanum = true) (hcase : d = c.toLower ∨ d = c.toUpper) :
    d.isAlphanum = true ∧ (c.isAlpha = true → d.isAlpha = true) := by
  have hall := forall_ascii (P := fun c => c.isAlphanum = true →
    (c.toLower.isAlphanum = true ∧ (c.isAlpha = true → c.toLower.isAlpha = true)) ∧
      c.toUpper.isAlphanum = true ∧ (c.isAlpha = true → c.toUpper.isAlpha = true))
    (by decide) (isAscii_of_isAlphanum h) h
  rcases hcase with rfl | rfl
  · exact hall.1
  · exact hall.2

/-- **The words of a text that starts with a letter are written as an identifier.** -/
theorem Rewrites.letterFirst (h : Rewrites (splitWords t) text)
    (ht : LetterFirst (fun c => isIdentifierChar c = true ∨ isSeparator c = true) t) :
    LetterFirst (isIdentifierChar · = true) text := by
  obtain ⟨glue, vs, hglue, rfl, hsame⟩ := h
  have halnum : ∀ w ∈ splitWords t, ∀ c ∈ w, c.isAlphanum = true :=
    fun w hw c hc => isAlphanum_of_mem_splitWords ht.all hw hc
  constructor
  case head =>
    obtain ⟨c, hc, halpha⟩ := ht.head
    obtain ⟨rest, rfl⟩ := List.head?_eq_some_iff.mp hc
    obtain ⟨w, ws, hcut⟩ := exists_splitWords_cons (isSeparator_of_isAlpha halpha) rest
    rw [hcut] at hsame halnum
    cases hsame with
    | cons hfirst hrest =>
      cases hfirst with
      | @cons _ d _ v hcase htail =>
        have hc := halnum (c :: w) List.mem_cons_self c List.mem_cons_self
        rw [List.intercalate_cons_cons_left]
        exact ⟨d, rfl, (isAlphanum_of_case hc hcase).2 halpha⟩
  case all =>
    intro d hd
    rcases mem_intercalate hd with hd | ⟨v, hv, hd⟩
    · rw [hglue d hd]
      rfl
    · obtain ⟨w, hw, hsame⟩ := exists_of_mem_forall₂ hsame hv
      obtain ⟨c, hc, hcase⟩ := exists_of_mem_forall₂ hsame hd
      exact Bool.or_eq_true_iff.mpr (.inl (isAlphanum_of_case (halnum w hw c hc) hcase).1)

end Identifier

/-- A character that the casing writes in identifiers, or leaves out. -/
def Casing.Takes (casing : Casing) (c : Char) : Prop :=
  isIdentifierChar c = true ∨ casing ≠ .passthrough ∧ isSeparator c = true

instance (casing : Casing) : DecidablePred casing.Takes := fun _ =>
  inferInstanceAs (Decidable (_ ∨ _))

theorem Casing.Takes.snake {casing : Casing} {c : Char} (h : casing.Takes c) :
    Casing.snakeCase.Takes c := h.imp_right fun hsep => ⟨nofun, hsep.2⟩

namespace Identifier

variable {casing : Casing} {parts : List (List Char)}

theorem letterFirst_apply (ht : LetterFirst casing.Takes t) :
    LetterFirst (isIdentifierChar · = true) (casing.apply t) := by
  by_cases hcasing : casing = .passthrough
  · subst hcasing
    exact ⟨ht.head, fun c hc => (ht.all c hc).resolve_right fun h => h.1 rfl⟩
  · have ht : LetterFirst (fun c => isIdentifierChar c = true ∨ isSeparator c = true) t :=
      ⟨ht.head, fun c hc => (ht.all c hc).imp_right And.right⟩
    exact (rewrites_apply (ascii_of_words ht.all) hcasing).letterFirst ht

/-! ## Parts -/

theorem head?_joined (parts : List (List Char)) :
    (joined parts).head? = parts.findSome? List.head? := by
  induction parts with
  | nil => rfl
  | cons part parts ih =>
    cases part with
    | nil => exact ih
    | cons c part =>
      rw [joined, List.filter_cons_of_pos (by simp), List.intercalate_cons_cons_left]
      rfl

theorem mem_joined (h : c ∈ joined parts) : c = '_' ∨ ∃ part ∈ parts, c ∈ part := by
  rcases mem_intercalate h with h | ⟨part, hpart, hc⟩
  · exact .inl (List.mem_singleton.mp h)
  · exact .inr ⟨part, List.mem_of_mem_filter hpart, hc⟩

/-- **A name is an identifier if the first of its parts that is not empty starts with a letter.** -/
theorem letterFirst_compose {parts : List String}
    (hhead : ∃ c ∈ parts.findSome? (·.toList.head?), c.isAlpha = true)
    (hall : ∀ part ∈ parts, ∀ c ∈ part.toList, casing.Takes c) :
    LetterFirst (isIdentifierChar · = true) (compose parts casing).toList := by
  rw [compose, String.toList_ofList]
  refine letterFirst_apply (t := joined (parts.map String.toList)) ⟨?_, fun c hc => ?_⟩
  · rwa [head?_joined, List.findSome?_map]
  · rcases mem_joined hc with rfl | ⟨_, hmem, hc⟩
    · exact .inl rfl
    · obtain ⟨part, hpart, rfl⟩ := List.mem_map.mp hmem
      exact hall part hpart c hc

/-- **A constant that is made of an identifier is one, and all its letters are capitals.** -/
theorem letterFirst_constant (ht : LetterFirst (isIdentifierChar · = true) t) :
    LetterFirst (isIdentifierChar · = true) (constant t) ∧ ∀ c ∈ constant t, isLower c = false := by
  have hwords := ascii_of_words fun c hc => .inl (ht.all c hc)
  refine ⟨(rewrites_constant hwords).letterFirst ⟨ht.head, fun c hc => .inl (ht.all c hc)⟩,
    fun d hd => ?_⟩
  rcases mem_intercalate hd with hd | ⟨v, hv, hd⟩
  · rw [List.mem_singleton.mp hd]
    rfl
  · obtain ⟨w, hw, rfl⟩ := List.mem_map.mp hv
    rw [uppercase_of_ascii (hwords w hw)] at hd
    obtain ⟨c, hc, rfl⟩ := List.mem_map.mp hd
    exact (inUpperCase (hwords w hw c hc)).isLower

theorem head?_singular (t : List Char) : (singular t).head? = t.head? := by
  cases t with
  | nil => rfl
  | cons c t =>
    obtain ⟨rest, hform⟩ := exists_singular_cons c t
    rw [hform, List.head?_cons, List.head?_cons]

end Identifier

/-! ## The names of a table -/

/-- A character that names may have: a letter, a digit or an underscore of ASCII, and any other
separator unless names of properties or of types keep their source spelling. -/
def Configuration.Takes (config : Configuration) (c : Char) : Prop :=
  config.fieldCasing.Takes c ∧ config.objectCasing.Takes c

instance (config : Configuration) : DecidablePred config.Takes := fun _ =>
  inferInstanceAs (Decidable (_ ∧ _))

namespace Naming

section

variable {table column : String} {config : Configuration} {casing : Casing} {suffix : List String}

theorem head?_entityName (table : String) (config : Configuration) :
    (entityName table config).toList.head? = table.toList.head? := by
  rw [entityName]
  split
  · rw [singularize, String.toList_ofList, head?_singular]
  · rfl

theorem takes_entityName (htable : ∀ c ∈ table.toList, casing.Takes c) :
    ∀ c ∈ (entityName table config).toList, casing.Takes c := by
  intro c hc
  rw [entityName] at hc
  split at hc
  · rw [singularize, String.toList_ofList] at hc
    rcases mem_singular hc with hc | hy
    · exact htable c hc
    · exact .inl (isIdentifierChar_of_toLower (hy ▸ rfl))
  · exact htable c hc

theorem takes_of_isAlpha {c : Char} (h : c.isAlpha = true) : casing.Takes c :=
  .inl (Bool.or_eq_true_iff.mpr (.inl (Bool.or_eq_true_iff.mpr (.inl h))))

theorem isAlpha_kindToken (kind : TableKind) (name : String) :
    ∀ c ∈ ((kindToken? kind name).getD "").toList, c.isAlpha = true := by
  have hletters : ∀ token ∈ ["", "table", "view", "mv", "foreign"],
      token.toList.all Char.isAlpha = true := by decide
  refine List.all_eq_true.mp (hletters _ ?_)
  unfold kindToken?
  split <;> (try split) <;> simp

theorem isAlpha_suffixWords : ∀ w ∈ suffixWords, ∀ c ∈ w.toList, c.isAlpha = true := by
  have hletters : ∀ w ∈ suffixWords, w.toList.all Char.isAlpha = true := by decide
  exact fun w hw => List.all_eq_true.mp (hletters w hw)

/-! ## Parts of names -/

/-- The parts of a name that come from the table start with a letter if the table does. -/
theorem head_entityName (hstart : ∃ c ∈ table.toList.head?, c.isAlpha = true)
    (rest : List String) : ∃ c ∈ (entityName table config :: rest).findSome? (·.toList.head?),
      c.isAlpha = true := by
  obtain ⟨c, hc, halpha⟩ := hstart
  rw [← head?_entityName table config] at hc
  rw [List.findSome?_cons, hc]
  exact ⟨c, rfl, halpha⟩

/-- The parts of a name start with a letter, whether that of a word for the kind of the table or of
the table itself. -/
theorem head_stem {t : Table} (hstart : ∃ c ∈ t.name.toList.head?, c.isAlpha = true)
    (suffix : List String) :
    ∃ c ∈ (stem t config ++ suffix).findSome? (·.toList.head?), c.isAlpha = true := by
  rw [stem, List.cons_append, List.findSome?_cons]
  split
  case h_1 c hc => exact ⟨c, rfl, isAlpha_kindToken t.kind t.name c (List.mem_of_head? hc)⟩
  case h_2 => exact head_entityName hstart suffix

/-- The parts of a name have no other characters than the table and letters. -/
theorem takes_stem {t : Table} (htable : ∀ c ∈ t.name.toList, casing.Takes c)
    (hsuffix : ∀ w ∈ suffix, w ∈ suffixWords) :
    ∀ part ∈ stem t config ++ suffix, ∀ c ∈ part.toList, casing.Takes c := by
  intro part hpart c hc
  rcases List.mem_append.mp hpart with hpart | hpart
  · rcases List.mem_pair.mp hpart with rfl | rfl
    · exact takes_of_isAlpha (isAlpha_kindToken t.kind t.name c hc)
    · exact takes_entityName htable c hc
  · exact takes_of_isAlpha (isAlpha_suffixWords part (hsuffix part hpart) c hc)

/-- A name for a column is an identifier if the table starts with a letter. -/
theorem letterFirst_columnName (hstart : ∃ c ∈ table.toList.head?, c.isAlpha = true)
    (htable : ∀ c ∈ table.toList, casing.Takes c) (hcolumn : ∀ c ∈ column.toList, casing.Takes c)
    (hsuffix : ∀ w ∈ suffix, w ∈ suffixWords) :
    LetterFirst (isIdentifierChar · = true)
      (compose (entityName table config :: column :: suffix) casing).toList := by
  refine letterFirst_compose (head_entityName hstart _) fun part hpart => ?_
  rcases List.mem_cons.mp hpart with rfl | hpart
  · exact takes_entityName htable
  rcases List.mem_cons.mp hpart with rfl | hpart
  · exact hcolumn
  · exact fun c hc => takes_of_isAlpha (isAlpha_suffixWords part (hsuffix part hpart) c hc)

end

section

variable {t : Table} {config : Configuration} {name : String}
  (htable : ∀ c ∈ t.name.toList, config.Takes c)
include htable

theorem letterFirst_objectName (hstart : ∃ c ∈ t.name.toList.head?, c.isAlpha = true)
    (h : name ∈ (tableIdentifiers t config).objectNames) :
    LetterFirst (isIdentifierChar · = true) name.toList := by
  rw [objectNames_eq] at h
  obtain ⟨suffix, hsuffix, rfl⟩ := List.mem_map.mp h
  exact letterFirst_compose (head_stem hstart suffix) <|
    takes_stem (fun c hc => (htable c hc).2) (mem_objectSuffixes t suffix hsuffix)

theorem letterFirst_transformName (h : name ∈ (tableIdentifiers t config).transformNames) :
    LetterFirst (isIdentifierChar · = true) name.toList := by
  rw [transformNames_eq] at h
  obtain ⟨suffix, hsuffix, rfl⟩ := List.mem_map.mp h
  have hletters : ∀ c ∈ "transform".toList, c.isAlpha = true := forall_mem_of_all (by decide)
  refine letterFirst_compose ⟨'t', rfl, rfl⟩ (List.forall_mem_cons.mpr ⟨?_, ?_⟩)
  · exact fun c hc => takes_of_isAlpha (hletters c hc)
  · exact takes_stem (fun c hc => (htable c hc).1) (mem_transformSuffixes t config suffix hsuffix)

end

/-- **Every name generated for a table that starts with a letter is an identifier**, and the letters
of constants are capitals. -/
theorem tableNames_isIdentifier (t : Table) (column : String) (config : Configuration)
    (hstart : ∃ c ∈ t.name.toList.head?, c.isAlpha = true)
    (htable : ∀ c ∈ t.name.toList, config.Takes c) (hcolumn : ∀ c ∈ column.toList, config.Takes c) :
    (∀ name ∈ (tableIdentifiers t config).objectNames ++ (tableIdentifiers t config).transformNames,
      isIdentifier name.toList = true) ∧
    isIdentifier (enumConstantName t.name column config).toList = true ∧
    (∀ c ∈ (enumConstantName t.name column config).toList, isLower c = false) ∧
    isIdentifier (enumTypeName t.name column config).toList = true ∧
    isIdentifier (jsonSchemaName t.name column config).toList = true := by
  have hobject : ∀ suffix : List String, (∀ w ∈ suffix, w ∈ suffixWords) →
      isIdentifier (compose (entityName t.name config :: column :: suffix)
        config.objectCasing).toList = true := fun suffix hsuffix =>
    (letterFirst_columnName hstart (fun c hc => (htable c hc).2) (fun c hc => (hcolumn c hc).2)
      hsuffix).isIdentifier
  have hsnake : LetterFirst (isIdentifierChar · = true)
      (compose [entityName t.name config, column] .snakeCase).toList :=
    letterFirst_columnName hstart (fun c hc => (htable c hc).2.snake)
      (fun c hc => (hcolumn c hc).2.snake) nofun
  obtain ⟨hconstant, hcapitals⟩ := letterFirst_constant hsnake
  rw [enumConstantName, constantCase, String.toList_ofList]
  refine ⟨fun name hname => ?_, hconstant.isIdentifier, hcapitals, hobject [] nofun,
    hobject ["schema"] (by decide)⟩
  rcases List.mem_append.mp hname with hname | hname
  · exact (letterFirst_objectName htable hstart hname).isIdentifier
  · exact (letterFirst_transformName htable hname).isIdentifier

theorem tableNames_isIdentifier_orderLines :
    let t : Table := ⟨"order lines-v2", "shop", .view, []⟩
    let config : Configuration := { fieldCasing := .snakeCase, caseTransform := true }
    (∀ name ∈ (tableIdentifiers t config).objectNames ++ (tableIdentifiers t config).transformNames,
      isIdentifier name.toList = true) ∧
    isIdentifier (enumConstantName "order lines-v2" "9th-status" config).toList = true ∧
    (∀ c ∈ (enumConstantName "order lines-v2" "9th-status" config).toList, isLower c = false) ∧
    isIdentifier (enumTypeName "order lines-v2" "9th-status" config).toList = true ∧
    isIdentifier (jsonSchemaName "order lines-v2" "9th-status" config).toList = true :=
  tableNames_isIdentifier _ _ _ ⟨'o', rfl, rfl⟩ (forall_mem_of_all (by decide))
    (forall_mem_of_all (by decide))

end Naming

end ValidatorGen
