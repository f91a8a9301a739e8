/-
Reading a description tag by tag. A tag ends whatever the words before it can say, so the words
before it and the words from it on are read one after the other (`readWords_append`), and so are
the text before a tag and the text after it (`readLines_tag`). **What a description says is
therefore what its tags say in turn**, each of them given the words that follow it on its line.
-/
import ValidatorGen.Annotation
import ValidatorGen.Proofs.Text.Words

namespace ValidatorGen.Annotations

open Text Decimal

attribute [ext] Annotations WriteHints

variable {w name : List Char} {words rest : List (List Char)} {a : Annotations}

/-! ## Words -/

/-- The words go on with a tag, unless there are none. -/
def StartsTag (words : List (List Char)) : Prop := ∀ w, words.head? = some w → isTag w = true

theorem isTag_iff : isTag w = true ↔ ∃ name, w = '@' :: name := by
  cases w <;> simp [isTag]

/-- A tag is no argument of the tag before it. -/
theorem readUInt32?_of_isTag (h : isTag w = true) : readUInt32? w = none := by
  obtain ⟨name, rfl⟩ := isTag_iff.mp h
  simp [readUInt32?]

theorem readFloat?_of_isTag (h : isTag w = true) : readFloat? w = none := by
  obtain ⟨name, rfl⟩ := isTag_iff.mp h
  simp [readFloat?, readMagnitude?, readUnsignedFloat?, spanDigits]

theorem bind_head?_append (h : StartsTag rest) {β : Type} {read? : List Char → Option β}
    (hread : ∀ w, isTag w = true → read? w = none) (words : List (List Char)) :
    (words ++ rest).head?.bind read? = words.head?.bind read? := by
  cases words with
  | nil =>
    cases rest with
    | nil => rfl
    | cons w rest => exact hread w (h w rfl)
  | cons w words => rfl

theorem reasonWords_append (h : StartsTag rest) (words : List (List Char)) :
    reasonWords (words ++ rest) = reasonWords words := by
  induction words with
  | nil =>
    cases rest with
    | nil => rfl
    | cons w rest => simp [reasonWords, h w rfl]
  | cons w words ih =>
    simp only [reasonWords, List.cons_append, List.takeWhile_cons] at ih ⊢
    rw [ih]

/-- What a tag says ends where the next tag starts. -/
theorem apply_append (h : StartsTag rest) (name : List Char) (words : List (List Char))
    (a : Annotations) : apply name (words ++ rest) a = apply name words a := by
  simp only [apply, reasonWords_append h, bind_head?_append h (fun _ => readUInt32?_of_isTag),
    bind_head?_append h fun _ => readFloat?_of_isTag]

theorem readWords_tag (name : List Char) (after : List (List Char)) (a : Annotations) :
    readWords (('@' :: name) :: after) a = readWords after (apply name after a) := rfl

theorem readWords_word (h : isTag w = false) (after : List (List Char)) (a : Annotations) :
    readWords (w :: after) a = readWords after a := by
  rw [readWords]
  rintro name rfl
  cases h

/-- **A tag ends what the words before it can say.** -/
theorem readWords_append (h : StartsTag rest) (words : List (List Char)) (a : Annotations) :
    readWords (words ++ rest) a = readWords rest (readWords words a) := by
  induction words generalizing a with
  | nil => rfl
  | cons w words ih =>
    cases hw : isTag w with
    | true =>
      obtain ⟨name, rfl⟩ := isTag_iff.mp hw
      rw [List.cons_append, readWords_tag, readWords_tag, apply_append h, ih]
    | false => rw [List.cons_append, readWords_word hw, readWords_word hw, ih]

theorem readWords_prose (h : ∀ w ∈ words, isTag w = false) (a : Annotations) :
    readWords words a = a := by
  induction words with
  | nil => rfl
  | cons w words ih =>
    rw [readWords_word (h w List.mem_cons_self)]
    exact ih fun w hw => h w (List.mem_cons_of_mem _ hw)

/-! ## Lines -/

/-- Reads a text line by line. -/
def readLines (text : List Char) (a : Annotations) : Annotations :=
  (lines text).foldl (fun a line => readWords (blankWords line) a) a

theorem ofChars_eq (text : List Char) : ofChars text = readLines text {} := rfl

/-- The words of a text up to the end of its first line. -/
def lineWords (text : List Char) : List (List Char) :=
  blankWords (text.takeWhile (· ≠ '\n'))

theorem exists_lines (text : List Char) :
    ∃ more, lines text = text.takeWhile (· ≠ '\n') :: more := by
  induction text with
  | nil => exact ⟨[], rfl⟩
  | cons c text ih =>
    obtain ⟨more, hmore⟩ := ih
    by_cases hc : c = '\n'
    · exact ⟨lines text, by simp [lines, Text.fields, hc]⟩
    · refine ⟨more, ?_⟩
      rw [lines] at hmore
      simp [lines, Text.fields, hmore, hc]

/-- A tag that is a word of its own between two texts: white space parts it from them. -/
structure Stands (pre name post : List Char) : Prop where
  word : ∀ c ∈ name, isBlank c = false
  before : EndsBlank pre
  after : StartsBlank post

instance (pre name post : List Char) : Decidable (Stands pre name post) :=
  haveI := List.decidableBAll (isBlank · = false) name
  decidable_of_iff ((∀ c ∈ name, isBlank c = false) ∧ EndsBlank pre ∧ StartsBlank post)
    ⟨fun ⟨hword, hbefore, hafter⟩ => ⟨hword, hbefore, hafter⟩,
      fun h => ⟨h.word, h.before, h.after⟩⟩

/-- **What comes before a tag is read first, then the tag with the words after it on its line,
then what comes after.** -/
theorem readLines_tag {pre post : List Char} (h : Stands pre name post) (a : Annotations) :
    readLines (pre ++ '@' :: name ++ post) a
      = readLines post (apply name (lineWords post) (readLines pre a)) := by
  have hword : IsWord ('@' :: name) := ⟨List.cons_ne_nil _ _, by simpa [isBlank] using h.word⟩
  obtain ⟨init, last, hpre⟩ := exists_last_fields (· == '\n') pre
  obtain ⟨more, hpost⟩ := exists_lines post
  have hname : lines ('@' :: name) = [] ++ ['@' :: name] := fields_of_all_not _ fun c hc => by
    rw [beq_eq_false_iff_ne]
    rintro rfl
    exact absurd (hword.2 _ hc) (by decide)
  have hlines : lines (pre ++ '@' :: name ++ post)
      = init ++ (last ++ '@' :: name ++ post.takeWhile (· ≠ '\n')) :: more :=
    fields_append _ (fields_append _ hpre hname) hpost
  have hlast : EndsBlank last := fun c hc => h.before c (getLast?_of_fields hpre hc)
  have hfirst : StartsBlank (post.takeWhile (· ≠ '\n')) := fun c hc => by
    cases post with
    | nil => cases hc
    | cons d post =>
      refine h.after c ?_
      rw [List.takeWhile_cons] at hc
      split at hc
      · exact hc
      · cases hc
  have htag : StartsTag (('@' :: name) :: lineWords post) := fun w hw => by
    obtain rfl : '@' :: name = w := by simpa using hw
    rfl
  rw [readLines, hlines, List.foldl_append, List.foldl_cons, blankWords_append (.inr hfirst),
    blankWords_append (.inl hlast), blankWords_word hword, List.append_assoc,
    List.singleton_append, ← lineWords, readWords_append htag, readLines, hpost, readLines, lines,
    hpre, List.foldl_append]
  rfl

end ValidatorGen.Annotations
