/-
Tags of bounds whose argument cannot be read. Such a tag does not count for nothing: it **takes the
bound away that an earlier tag has set** (`apply_malformed`), and the bound stays away unless a
later tag of the same name sets it again (`keptBy_readLines`). So it is passed over like a tag that
is not known just if no bound was there or a later tag follows (`ofChars_malformed`).
-/
import ValidatorGen.Proofs.Annotation.Reading

namespace ValidatorGen.Annotations

open Text Decimal

/-- The bounds that a tag sets. -/
inductive Bound
  | minLength
  | maxLength
  | min
  | max
  deriving DecidableEq, Repr

namespace Bound

/-- The name of the tag of a bound, in lower case. -/
def tagName : Bound → String
  | minLength => "minlength"
  | maxLength => "maxlength"
  | min => "min"
  | max => "max"

/-- Whether a word can be read as the argument of the tag. -/
def reads (w : List Char) : Bound → Bool
  | minLength | maxLength => (readUInt32? w).isSome
  | min | max => (readFloat? w).isSome

/-- Whether there is a bound. -/
def isSet (a : Annotations) : Bound → Bool
  | minLength => a.minLength.isSome
  | maxLength => a.maxLength.isSome
  | min => a.min.isSome
  | max => a.max.isSome

/-- What is said without the bound. -/
def clear (a : Annotations) : Bound → Annotations
  | minLength => { a with minLength := none }
  | maxLength => { a with maxLength := none }
  | min => { a with min := none }
  | max => { a with max := none }

/-- A name stands for the tag of a bound, in any letter case. -/
def IsNamed (b : Bound) (name : List Char) : Prop := String.ofList (asciiLowercase name) = b.tagName

instance (b : Bound) (name : List Char) : Decidable (b.IsNamed name) :=
  inferInstanceAs (Decidable (_ = _))

/-- One of the words is a tag of the bound. -/
def IsAmong (b : Bound) (words : List (List Char)) : Prop :=
  ∃ w ∈ words, isTag w = true ∧ b.IsNamed w.tail

instance (b : Bound) (words : List (List Char)) : Decidable (b.IsAmong words) :=
  inferInstanceAs (Decidable (∃ w ∈ words, _))

/-- A tag of the bound stands in the text. -/
def IsIn (b : Bound) (text : List Char) : Prop := ∃ line ∈ lines text, b.IsAmong (blankWords line)

instance (b : Bound) (text : List Char) : Decidable (b.IsIn text) :=
  inferInstanceAs (Decidable (∃ line ∈ lines text, _))

end Bound

/-- The names of all tags, in lower case. -/
def tagNames : List String :=
  ["deprecated", "trim", "lowercase", "uppercase", "normalize", "nonnegative", "minlength",
    "maxlength", "min", "max"]

/-- A name that stands for no tag, in any letter case. -/
def IsUnknown (name : List Char) : Prop := String.ofList (asciiLowercase name) ∉ tagNames

instance (name : List Char) : Decidable (IsUnknown name) := inferInstanceAs (Decidable (¬ _))

variable {b : Bound} {name : List Char} {words : List (List Char)} {a : Annotations}

/-! ## What a step does with a bound -/

/-- A step that does not look at the bound that is there. -/
def Bound.SetBy (b : Bound) (step : Annotations → Annotations) : Prop :=
  ∀ a, step (b.clear a) = step a

/-- A step that passes the bound on as it is. -/
structure Bound.KeptBy (b : Bound) (step : Annotations → Annotations) : Prop where
  clear : ∀ a, step (b.clear a) = b.clear (step a)
  isSet : ∀ a, b.isSet (step a) = b.isSet a

section

variable {first second : Annotations → Annotations}

theorem Bound.KeptBy.refl (b : Bound) : b.KeptBy id := ⟨fun _ => rfl, fun _ => rfl⟩

theorem Bound.KeptBy.comp (hsecond : b.KeptBy second) (hfirst : b.KeptBy first) :
    b.KeptBy fun a => second (first a) where
  clear a := by rw [hfirst.clear, hsecond.clear]
  isSet a := by rw [hsecond.isSet, hfirst.isSet]

theorem Bound.SetBy.comp (hfirst : b.SetBy first) (second : Annotations → Annotations) :
    b.SetBy fun a => second (first a) := fun a => congrArg second (hfirst a)

theorem Bound.SetBy.after (hsecond : b.SetBy second) (hfirst : b.KeptBy first) :
    b.SetBy fun a => second (first a) :=
  fun a => (congrArg second (hfirst.clear a)).trans (hsecond (first a))

theorem clear_eq_self : b.clear a = a ↔ b.isSet a = false := by
  cases b <;> simp [Bound.clear, Bound.isSet, Annotations.ext_iff, @eq_comm _ none]

end

/-! ## One tag -/

theorem apply_unknown (h : IsUnknown name) (words : List (List Char)) (a : Annotations) :
    apply name words a = a := by
  have hne : ∀ known ∈ tagNames, String.ofList (asciiLowercase name) ≠ known :=
    fun known hknown heq => h (heq ▸ hknown)
  unfold apply
  split <;> rename_i heq
  all_goals first | rfl | exact absurd heq (hne _ (by decide))

/-- **A tag of a bound without an argument that can be read takes the bound away.** -/
theorem apply_malformed (hname : b.IsNamed name) (h : ∀ w, words.head? = some w → b.reads w = false)
    (a : Annotations) : apply name words a = b.clear a := by
  have hnone : ∀ {β : Type} {read? : List Char → Option β},
      (∀ w, words.head? = some w → (read? w).isSome = false) → words.head?.bind read? = none := by
    intro β read? hread
    cases hhead : words.head? with
    | none => rfl
    | some w => simpa using hread w hhead
  cases b with
  | minLength | maxLength | min | max =>
    simp only [apply, show _ = _ from hname, Bound.tagName, Bound.clear, hnone h]

theorem setBy_apply (hname : b.IsNamed name) (words : List (List Char)) :
    b.SetBy (apply name words) := fun a => by
  cases b with
  | minLength | maxLength | min | max =>
    simp only [apply, show _ = _ from hname, Bound.tagName, Bound.clear]

theorem keptBy_apply (hname : ¬ b.IsNamed name) (words : List (List Char)) :
    b.KeptBy (apply name words) := by
  constructor <;> intro a <;> cases b <;> unfold apply <;> split <;> rename_i heq
    <;> first | rfl | exact absurd heq hname

/-! ## All tags -/

theorem isAmong_cons {w : List Char} :
    b.IsAmong (w :: words) ↔ isTag w = true ∧ b.IsNamed w.tail ∨ b.IsAmong words := by
  simp [Bound.IsAmong]

theorem setBy_readWords (h : b.IsAmong words) : b.SetBy (readWords words) := by
  induction words with
  | nil =>
    obtain ⟨w, hw, -⟩ := h
    cases hw
  | cons w words ih =>
    have h := isAmong_cons.mp h
    cases hw : isTag w with
    | false =>
      intro a
      rw [readWords_word hw, readWords_word hw]
      exact ih (h.resolve_left (by simp [hw])) a
    | true =>
      obtain ⟨name, rfl⟩ := isTag_iff.mp hw
      show b.SetBy fun a => readWords words (apply name words a)
      by_cases hname : b.IsNamed name
      · exact (setBy_apply hname words).comp (readWords words)
      · exact (ih (h.resolve_left fun h => hname h.2)).after (keptBy_apply hname words)

theorem keptBy_readWords (h : ¬ b.IsAmong words) : b.KeptBy (readWords words) := by
  induction words with
  | nil => exact .refl b
  | cons w words ih =>
    obtain ⟨hname, hwords⟩ := not_or.mp (mt isAmong_cons.mpr h)
    cases hw : isTag w with
    | false =>
      have hstep : readWords (w :: words) = readWords words := funext (readWords_word hw words)
      rw [hstep]
      exact ih hwords
    | true =>
      obtain ⟨name, rfl⟩ := isTag_iff.mp hw
      exact (ih hwords).comp (keptBy_apply (fun h => hname ⟨hw, h⟩) words)

/-- **A text with a tag of the bound in it sets the bound anew.** -/
theorem setBy_readLines {text : List Char} (h : b.IsIn text) : b.SetBy (readLines text) := by
  unfold Bound.IsIn at h
  unfold readLines
  generalize lines text = ls at h
  induction ls with
  | nil =>
    obtain ⟨line, hline, -⟩ := h
    cases hline
  | cons line ls ih =>
    show b.SetBy fun a => ls.foldl _ (readWords (blankWords line) a)
    by_cases hline : b.IsAmong (blankWords line)
    · exact (setBy_readWords hline).comp fun a => ls.foldl _ a
    · refine Bound.SetBy.after (ih ?_) (keptBy_readWords hline)
      obtain ⟨other, hother, hamong⟩ := h
      rcases List.mem_cons.mp hother with rfl | hother
      · exact absurd hamong hline
      · exact ⟨other, hother, hamong⟩

/-- **A text without a tag of the bound passes the bound on.** -/
theorem keptBy_readLines {text : List Char} (h : ¬ b.IsIn text) : b.KeptBy (readLines text) := by
  unfold Bound.IsIn at h
  unfold readLines
  generalize lines text = ls at h
  induction ls with
  | nil => exact .refl b
  | cons line ls ih =>
    have hline : ¬ b.IsAmong (blankWords line) := fun hline => h ⟨line, List.mem_cons_self, hline⟩
    have hls : ¬ ∃ line ∈ ls, b.IsAmong (blankWords line) := fun ⟨other, hother, hamong⟩ =>
      h ⟨other, List.mem_cons_of_mem _ hother, hamong⟩
    exact (ih hls).comp (keptBy_readWords hline)

/-- **A tag of a bound whose argument cannot be read is passed over, like a tag that is not known,
just if a later tag of the bound follows or no bound was there.** Otherwise the bound that was there
is lost, and all else is as with the tag that is not known. -/
theorem ofChars_malformed {pre note post : List Char} (htag : Stands pre name post)
    (hnote : Stands pre note post) (hname : b.IsNamed name) (hunknown : IsUnknown note)
    (hmalformed : ∀ w, (lineWords post).head? = some w → b.reads w = false) :
    let tagged := ofChars (pre ++ '@' :: name ++ post)
    let spared := ofChars (pre ++ '@' :: note ++ post)
    (tagged = spared ↔ b.IsIn post ∨ b.isSet (ofChars pre) = false) ∧
      (¬ b.IsIn post → tagged = b.clear spared ∧ b.isSet spared = b.isSet (ofChars pre)) := by
  have htagged : ofChars (pre ++ '@' :: name ++ post) = readLines post (b.clear (ofChars pre)) := by
    rw [ofChars_eq, readLines_tag htag, apply_malformed hname hmalformed]
    rfl
  have hspared : ofChars (pre ++ '@' :: note ++ post) = readLines post (ofChars pre) := by
    rw [ofChars_eq, readLines_tag hnote, apply_unknown hunknown]
    rfl
  simp only [htagged, hspared]
  by_cases hlater : b.IsIn post
  · exact ⟨iff_of_true (setBy_readLines hlater _) (.inl hlater), fun h => absurd hlater h⟩
  · have hkept := keptBy_readLines hlater
    refine ⟨?_, fun _ => ⟨hkept.clear _, hkept.isSet _⟩⟩
    rw [hkept.clear, clear_eq_self, hkept.isSet]
    exact (or_iff_right hlater).symm

theorem ofChars_malformed_max :
    Stands "@MAX 5 ".toList "Max".toList " ten @trim".toList ∧
      Stands "@MAX 5 ".toList "note".toList " ten @trim".toList ∧
      Bound.max.IsNamed "Max".toList ∧ IsUnknown "note".toList ∧
      (∀ w, (lineWords " ten @trim".toList).head? = some w → Bound.max.reads w = false) ∧
      ofChars "@MAX 5 @Max ten @trim".toList
        = Bound.max.clear (ofChars "@MAX 5 @note ten @trim".toList) ∧
      ofChars "@MAX 5 @Max ten @trim".toList ≠ ofChars "@MAX 5 @note ten @trim".toList := by
  have htag : Stands "@MAX 5 ".toList "Max".toList " ten @trim".toList := by decide
  have hnote : Stands "@MAX 5 ".toList "note".toList " ten @trim".toList := by decide
  have hmalformed : ∀ w, (lineWords " ten @trim".toList).head? = some w →
      Bound.max.reads w = false := by decide
  have hlater : ¬ Bound.max.IsIn " ten @trim".toList := by decide
  have hname : Bound.max.IsNamed "Max".toList := by decide
  have h := ofChars_malformed htag hnote hname (by decide) hmalformed
  exact ⟨htag, hnote, hname, by decide, hmalformed, (h.2 hlater).1,
    fun heq => (h.1.mp heq).elim hlater (by decide)⟩

/-- A bound that can be read is lost through one that cannot. -/
theorem not_spared_max : Bound.max.reads "ten".toList = false ∧ IsUnknown "note".toList ∧
    ofDescription "@max 5 @max ten" ≠ ofDescription "@max 5 @note ten" := by
  refine ⟨by decide, by decide, fun h => ?_⟩
  have hset := congrArg (fun a => Bound.max.isSet a) h
  revert hset
  decide

end ValidatorGen.Annotations
