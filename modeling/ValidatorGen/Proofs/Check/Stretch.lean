/-
The stretches of a clause between its literals. In a stretch that first closes parentheses
and then opens some, and has no colon, there is no cast and no name in parentheses, and so
both passes over a clause leave it as it is (`keeps_dropCasts`, `keeps_unwrapNames`). A text
all of whose stretches are such is `Kept` wherever it stands.
-/
import ValidatorGen.Proofs.Check.Shape
import ValidatorGen.Proofs.Check.Unwrap

namespace ValidatorGen.Check

open Text

/-- Text outside of literals that opens no parenthesis. -/
structure Closing (t : List Char) : Prop where
  quote : quote ∉ t
  colon : ':' ∉ t
  paren : '(' ∉ t

/-- Text outside of literals that closes no parenthesis. -/
structure Opening (t : List Char) : Prop where
  quote : quote ∉ t
  colon : ':' ∉ t
  paren : ')' ∉ t

/-- Text between two literals that closes parentheses and then opens some. -/
def Stretch (t : List Char) : Prop := ∃ s p, t = s ++ p ∧ Closing s ∧ Opening p

/-- A change that leaves stretches as they are. -/
def Keeps (f : List Char → List Char) : Prop := ∀ t, Stretch t → f t = t

section

variable {s t : List Char}

theorem Closing.nil : Closing [] := by constructor <;> simp

theorem Opening.nil : Opening [] := by constructor <;> simp

theorem Closing.append (hs : Closing s) (ht : Closing t) : Closing (s ++ t) := by
  constructor
  · simp [hs.quote, ht.quote]
  · simp [hs.colon, ht.colon]
  · simp [hs.paren, ht.paren]

theorem Opening.append (hs : Opening s) (ht : Opening t) : Opening (s ++ t) := by
  constructor
  · simp [hs.quote, ht.quote]
  · simp [hs.colon, ht.colon]
  · simp [hs.paren, ht.paren]

theorem Closing.replicate (n : Nat) : Closing (List.replicate n ')') := by
  constructor <;> simp [List.mem_replicate, show Check.quote ≠ ')' by decide]

theorem Opening.replicate (n : Nat) : Opening (List.replicate n '(') := by
  constructor <;> simp [List.mem_replicate, show Check.quote ≠ '(' by decide]

theorem Opening.of_identifierChars (h : ∀ c ∈ t, isIdentifierChar c = true) : Opening t := by
  have hne : ∀ d : Char, isNameChar d = false → d ∉ t := fun d hd hm =>
    (nameCharFacts (h d hm)).ne hd rfl
  exact ⟨hne _ (by decide), hne _ (by decide), hne _ (by decide)⟩

theorem Opening.write {name : List Char} (hn : isIdentifier name = true) (style : NameStyle) :
    Opening (style.write name) :=
  ⟨not_mem_write hn (by decide) (by decide) style, not_mem_write hn rfl rfl style,
    not_mem_write hn rfl rfl style⟩

theorem Closing.stretch (hs : Closing s) : Stretch s := ⟨s, [], by simp, hs, .nil⟩

theorem Stretch.append (hs : Stretch s) (ht : Opening t) : Stretch (s ++ t) := by
  obtain ⟨a, b, rfl, ha, hb⟩ := hs
  exact ⟨a, b ++ t, by simp, ha, hb.append ht⟩

theorem Stretch.quote (hs : Stretch s) : quote ∉ s := by
  obtain ⟨a, b, rfl, ha, hb⟩ := hs
  simp [ha.quote, hb.quote]

end

theorem keeps_dropCasts : Keeps dropCasts := by
  rintro t ⟨s, p, rfl, hs, hp⟩
  have h := dropCasts_append (t := s ++ p) (by simp [hs.colon, hp.colon]) []
  simpa using h

theorem keeps_unwrapNames : Keeps unwrapNames := by
  rintro t ⟨s, p, rfl, hs, hp⟩
  exact unwrapNames_of_calm ⟨s, p, rfl, hs.paren, hp.paren⟩

/-! ## Texts that are kept -/

/-- Up to the next literal, `q` becomes `q'` and what opens after it stays. -/
structure Leads (f : List Char → List Char) (q q' : List Char) : Prop where
  quote : quote ∉ q
  eq : ∀ p, Opening p → f (q ++ p) = q' ++ p

/-- After a literal and what closes after it, `t` becomes `t'`. -/
def After (f : List Char → List Char) (t t' : List Char) : Prop :=
  ∀ s, Closing s → mapPlain f (s ++ t) = s ++ t'

/-- A text that is left as it is, whatever stands around it. -/
def Kept (f : List Char → List Char) (t : List Char) : Prop :=
  ∀ q q' rest rest', Leads f q q' → rest.head? ≠ some quote → After f rest rest' →
    mapPlain f (q ++ (t ++ rest)) = q' ++ (t ++ rest')

section

variable {f : List Char → List Char} (hf : Keeps f) {q q' s t u rest rest' : List Char}
include hf

theorem Keeps.nil : f [] = [] := hf [] Closing.nil.stretch

theorem Leads.of_stretch (hq : Stretch q) : Leads f q q :=
  ⟨hq.quote, fun _ hp => hf _ (hq.append hp)⟩

theorem After.nil : After f [] [] := by
  intro s hs
  rw [List.append_nil, mapPlain_of_not_mem hf.nil hs.quote, hf s hs.stretch]

theorem Kept.quoted (v : List Char) : Kept f (quoted v) := by
  intro q q' rest rest' hq hr h
  have hrest : mapPlain f rest = rest' := h [] .nil
  have hlead : f q = q' := by simpa using hq.eq [] .nil
  rw [mapPlain_append_quoted hf.nil hq.quote hr, hlead, hrest]

theorem Kept.after (ht : Kept f t) (hr : rest.head? ≠ some Check.quote) (h : After f rest rest') :
    After f (t ++ rest) (t ++ rest') := by
  intro s hs
  exact ht s s rest rest' (.of_stretch hf hs.stretch) hr h

theorem Kept.append (hs : Kept f s) (ht : Kept f t) (hne : t ≠ [])
    (hh : t.head? ≠ some Check.quote) : Kept f (s ++ t) := by
  intro q q' rest rest' hq hr h
  have hrest : (t ++ rest).head? ≠ some Check.quote := by
    obtain ⟨c, t, rfl⟩ := List.exists_cons_of_ne_nil hne
    exact hh
  rw [List.append_assoc, List.append_assoc]
  exact hs q q' _ _ hq hrest (ht.after hf hr h)

omit hf

theorem Leads.opening (hq : Leads f q q') (hs : Opening s) : Leads f (q ++ s) (q' ++ s) where
  quote := by simp [hq.quote, hs.quote]
  eq p hp := by
    have h := hq.eq (s ++ p) (hs.append hp)
    simpa using h

theorem After.closing (hs : Closing s) (h : After f rest rest') :
    After f (s ++ rest) (s ++ rest') := by
  intro s' hs'
  have h := h (s' ++ s) (hs'.append hs)
  simpa using h

theorem Kept.opening (hs : Opening s) (ht : Kept f t) : Kept f (s ++ t) := by
  intro q q' rest rest' hq hr h
  have h := ht (q ++ s) (q' ++ s) rest rest' (hq.opening hs) hr h
  simpa using h

theorem Closing.head?_append (hs : Closing s) (hr : rest.head? ≠ some Check.quote) :
    (s ++ rest).head? ≠ some Check.quote := by
  cases s with
  | nil => exact hr
  | cons c s =>
    intro hc
    rw [List.cons_append, List.head?_cons, Option.some.injEq] at hc
    exact hs.quote (by simp [hc])

theorem Kept.closing (ht : Kept f t) (hs : Closing s) : Kept f (t ++ s) := by
  intro q q' rest rest' hq hr h
  rw [List.append_assoc, List.append_assoc]
  exact ht q q' _ _ hq (hs.head?_append hr) (h.closing hs)

theorem Kept.inParens (ht : Kept f t) (n : Nat) : Kept f (inParens n t) := by
  rw [inParens_eq]
  exact .opening (.replicate n) (ht.closing (.replicate n))

include hf in
theorem Kept.item (e : Item) : Kept f e.text := by
  have hi : Opening e.introducer.text := .of_identifierChars fun c hc => mem_introducer hc
  exact .inParens (.opening hi (.quoted hf e.value)) e.pairs

include hf in
theorem Kept.itemList (first : Item) (others : List Item) :
    Kept f (itemList first others) := by
  induction others generalizing first with
  | nil =>
    rw [Check.itemList, List.map_nil, commaList_singleton]
    exact .item hf first
  | cons e others ih =>
    rw [Check.itemList, List.map_cons, commaList_cons_cons]
    have hcomma : Opening [',', ' '] := by constructor <;> decide
    exact .append hf (.item hf first) (.opening hcomma (ih e)) (by simp) (by simp; decide)

theorem Kept.arrayText (array : Spelling "array") {list : List Char} (h : Kept f list) :
    Kept f (arrayText array list) := by
  have hword : Opening array.text :=
    .of_identifierChars (isIdentifierChar_of_spelling array (by decide))
  have hopen : Opening ['['] := by constructor <;> decide
  have hclose : Closing [']'] := by constructor <;> decide
  exact .opening hword (.opening hopen (h.closing hclose))

include hf in
/-- A clause all of whose stretches are kept is left as it is. -/
theorem Kept.mapPlain_eq (ht : Kept f t) : mapPlain f t = t := by
  have h := ht [] [] [] [] (.of_stretch hf Closing.nil.stretch) (by simp) (.nil hf)
  simpa using h

end

end ValidatorGen.Check
