/-
Where the values of plain bounds come from: **the value of a bound is that of the word after its
last tag** (`min_eq_some_iff`, `max_eq_some_iff`), whatever else the description says. A tag sets the
bound to what it is given, and all that is read later leaves it there unless it is such a tag itself.
-/
import ValidatorGen.Proofs.Annotation.Malformed

namespace ValidatorGen.Annotations

open Text Decimal

namespace Bound

/-- A word is the one after the last tag of the bound. -/
def IsArgument (b : Bound) (w : List Char) (words : List (List Char)) : Prop :=
  ∃ before name after, words = before ++ ('@' :: name) :: w :: after ∧ b.IsNamed name ∧
    ¬ b.IsAmong (w :: after)

/-- A word is the one after the last tag of the bound in some lines, and on the line of the tag. -/
def IsArgumentAmong (b : Bound) (w : List Char) (ls : List (List Char)) : Prop :=
  ∃ before line after, ls = before ++ line :: after ∧ b.IsArgument w (blankWords line) ∧
    ∀ l ∈ after, ¬ b.IsAmong (blankWords l)

/-- A word is the one after the last tag of the bound in a text. -/
def IsArgumentIn (b : Bound) (w : List Char) (text : List Char) : Prop :=
  b.IsArgumentAmong w (lines text)

end Bound

variable {b : Bound} {w x line : List Char} {words ls : List (List Char)} {a : Annotations}

theorem isArgument_cons : b.IsArgument w (x :: words) ↔
    (isTag x = true ∧ b.IsNamed x.tail ∧ words.head? = some w ∧ ¬ b.IsAmong words) ∨
      b.IsArgument w words := by
  constructor
  · rintro ⟨before, name, after, hwords, hname, hafter⟩
    cases before with
    | nil =>
      obtain ⟨rfl, rfl⟩ := List.cons.inj hwords
      exact .inl ⟨rfl, hname, rfl, hafter⟩
    | cons y before =>
      obtain ⟨rfl, rfl⟩ := List.cons.inj hwords
      exact .inr ⟨before, name, after, rfl, hname, hafter⟩
  · rintro (⟨htag, hname, hhead, hnot⟩ | ⟨before, name, after, rfl, hname, hafter⟩)
    · obtain ⟨name, rfl⟩ := isTag_iff.mp htag
      obtain ⟨after, rfl⟩ := List.head?_eq_some_iff.mp hhead
      exact ⟨[], name, after, rfl, hname, hnot⟩
    · exact ⟨x :: before, name, after, rfl, hname, hafter⟩

theorem isArgumentAmong_cons : b.IsArgumentAmong w (line :: ls) ↔
    (b.IsArgument w (blankWords line) ∧ ∀ l ∈ ls, ¬ b.IsAmong (blankWords l)) ∨
      b.IsArgumentAmong w ls := by
  constructor
  · rintro ⟨before, other, after, hls, hother, hafter⟩
    cases before with
    | nil =>
      obtain ⟨rfl, rfl⟩ := List.cons.inj hls
      exact .inl ⟨hother, hafter⟩
    | cons y before =>
      obtain ⟨rfl, rfl⟩ := List.cons.inj hls
      exact .inr ⟨before, other, after, rfl, hother, hafter⟩
  · rintro (⟨hline, hls⟩ | ⟨before, other, after, rfl, hother, hafter⟩)
    · exact ⟨[], line, ls, rfl, hline, hls⟩
    · exact ⟨line :: before, other, after, rfl, hother, hafter⟩

/-! ## The value of a bound -/

/-- The part of what is said that a bound on values is kept in. -/
structure Bound.Kept (b : Bound) (get : Annotations → Option Float) : Prop where
  tag : ∀ {name}, b.IsNamed name → ∀ words a, get (apply name words a) = words.head?.bind readFloat?
  other : ∀ {name}, ¬ b.IsNamed name → ∀ words a, get (apply name words a) = get a

theorem kept_min : Bound.min.Kept Annotations.min where
  tag hname words a := by
    simp only [apply, show _ = _ from hname, Bound.tagName]
  other hname words a := by
    unfold apply
    split <;> rename_i heq <;> first | rfl | exact absurd heq hname

theorem kept_max : Bound.max.Kept Annotations.max where
  tag hname words a := by
    simp only [apply, show _ = _ from hname, Bound.tagName]
  other hname words a := by
    unfold apply
    split <;> rename_i heq <;> first | rfl | exact absurd heq hname

variable {get : Annotations → Option Float} {f : Float}

theorem get_readWords (h : b.Kept get) (words : List (List Char)) (a : Annotations) :
    get (readWords words a) = some f ↔
      (∃ w, b.IsArgument w words ∧ readFloat? w = some f) ∨
        ¬ b.IsAmong words ∧ get a = some f := by
  induction words generalizing a with
  | nil => simp [readWords, Bound.IsArgument, Bound.IsAmong]
  | cons x words ih =>
    cases hx : isTag x with
    | false =>
      rw [readWords_word hx, ih]
      simp [isArgument_cons, isAmong_cons, hx]
    | true =>
      obtain ⟨name, rfl⟩ := isTag_iff.mp hx
      rw [readWords_tag, ih]
      by_cases hname : b.IsNamed name
      · rw [h.tag hname]
        simp only [isArgument_cons, isAmong_cons, hx, List.tail_cons, hname, true_and, true_or,
          not_true_eq_false, false_and, or_false, or_and_right, exists_or]
        rw [Option.bind_eq_some_iff, or_comm]
        refine or_congr ⟨?_, ?_⟩ Iff.rfl
        · rintro ⟨hnot, w, hhead, hread⟩
          exact ⟨w, ⟨hhead, hnot⟩, hread⟩
        · rintro ⟨w, ⟨hhead, hnot⟩, hread⟩
          exact ⟨hnot, w, hhead, hread⟩
      · rw [h.other hname]
        simp [isArgument_cons, isAmong_cons, hname]

theorem get_readLines (h : b.Kept get) (ls : List (List Char)) (a : Annotations) :
    get (ls.foldl (fun a line => readWords (blankWords line) a) a) = some f ↔
      (∃ w, b.IsArgumentAmong w ls ∧ readFloat? w = some f) ∨
        (∀ l ∈ ls, ¬ b.IsAmong (blankWords l)) ∧ get a = some f := by
  induction ls generalizing a with
  | nil => simp [Bound.IsArgumentAmong]
  | cons line ls ih =>
    rw [List.foldl_cons, ih, get_readWords h]
    simp only [isArgumentAmong_cons, List.forall_mem_cons]
    constructor
    · rintro (⟨w, hw, hread⟩ | ⟨hls, ⟨w, hw, hread⟩ | ⟨hline, ha⟩⟩)
      · exact .inl ⟨w, .inr hw, hread⟩
      · exact .inl ⟨w, .inl ⟨hw, hls⟩, hread⟩
      · exact .inr ⟨⟨hline, hls⟩, ha⟩
    · rintro (⟨w, ⟨hw, hls⟩ | hw, hread⟩ | ⟨⟨hline, hls⟩, ha⟩)
      · exact .inr ⟨hls, .inl ⟨w, hw, hread⟩⟩
      · exact .inl ⟨w, hw, hread⟩
      · exact .inr ⟨hls, .inr ⟨hline, ha⟩⟩

/-- **The value of a bound is that of the word after its last tag.** -/
theorem get_ofChars (h : b.Kept get) (hnone : get {} = none) (text : List Char) :
    get (ofChars text) = some f ↔ ∃ w, b.IsArgumentIn w text ∧ readFloat? w = some f := by
  rw [ofChars, get_readLines h, hnone]
  simp [Bound.IsArgumentIn]

theorem min_eq_some_iff {text : List Char} : (ofChars text).min = some f ↔
    ∃ w, Bound.min.IsArgumentIn w text ∧ readFloat? w = some f := get_ofChars kept_min rfl text

theorem max_eq_some_iff {text : List Char} : (ofChars text).max = some f ↔
    ∃ w, Bound.max.IsArgumentIn w text ∧ readFloat? w = some f := get_ofChars kept_max rfl text

end ValidatorGen.Annotations
