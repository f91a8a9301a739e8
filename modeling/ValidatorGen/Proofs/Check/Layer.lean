/-
Layers of parentheses and casts around columns, literals and arrays. Once casts are
dropped, of the layers around a text only the parentheses are left (`Uncast.wrap`), wherever
the text stands in a clause.
-/
import ValidatorGen.Proofs.Check.Shape

namespace ValidatorGen.Check

open Text

/-- What is put around a text. -/
inductive Layer
  | parens
  | cast (k : Cast)

/-- A text in layers, the first of them outermost. -/
def wrap : List Layer → List Char → List Char
  | [], t => t
  | .parens :: layers, t => '(' :: (wrap layers t ++ [')'])
  | .cast k :: layers, t => wrap layers t ++ k.text

/-- How many of the layers are parentheses. -/
def pairs : List Layer → Nat
  | [] => 0
  | .parens :: layers => pairs layers + 1
  | .cast _ :: layers => pairs layers

/-! ## The ends of a text in layers -/

/-- The name of a type ends in no blank. -/
theorem isBlank_of_getLast?_word {type : CastType} (w : Spelling type.word) {c : Char}
    (hc : w.text.getLast? = some c) : isBlank c = false := by
  have hlast : type.word.toList.getLast? = some c.toLower := by
    rw [← w.lower, List.getLast?_map, hc, Option.map_some]
  have hchar : isIdentifierChar c.toLower = true := by
    revert hlast
    cases type <;>
    · intro h
      rw [← Option.some.inj h]
      decide
  exact (nameCharFacts (isIdentifierChar_of_toLower hchar)).blank

/-- There is no blank in what comes after the name of a type. -/
theorem isBlank_of_mem_dimensions {length : Option Nat} {dimensions : Nat} {c : Char}
    (hc : c ∈ lengthText length ++ emptyBrackets dimensions) : isBlank c = false := by
  rcases List.mem_append.mp hc with hc | hc
  · rcases mem_lengthText hc with hc | rfl | rfl
    · exact (nameCharFacts (by simp [isIdentifierChar, Char.isAlphanum, hc])).blank
    · rfl
    · rfl
  · rcases mem_emptyBrackets hc with rfl | rfl <;> rfl

theorem Cast.tight_text (k : Cast) : Tight k.text := by
  obtain ⟨type, w, length, dimensions⟩ := k
  constructor
  case head =>
    intro c hc
    obtain rfl : ':' = c := Option.some.inj hc
    rfl
  case last =>
    intro c hc
    have hform : Cast.text ⟨type, w, length, dimensions⟩
        = ([':', ':'] ++ w.text) ++ (lengthText length ++ emptyBrackets dimensions) := by
      simp [Cast.text]
    rw [hform, List.getLast?_append, Option.or_eq_some_iff] at hc
    rcases hc with hc | ⟨-, hc⟩
    · exact isBlank_of_mem_dimensions (List.mem_of_getLast? hc)
    · rw [List.getLast?_append, Option.or_eq_some_iff] at hc
      rcases hc with hc | ⟨-, hc⟩
      · exact isBlank_of_getLast?_word w hc
      · obtain rfl : ':' = c := Option.some.inj hc
        rfl

theorem wrap_ne_nil {t : List Char} (h : t ≠ []) (layers : List Layer) : wrap layers t ≠ [] := by
  induction layers with
  | nil => exact h
  | cons layer layers ih => cases layer <;> simp [wrap, ih]

theorem tight_wrap {t : List Char} (ht : Tight t) (h : t ≠ []) (layers : List Layer) :
    Tight (wrap layers t) := by
  induction layers with
  | nil => exact ht
  | cons layer layers ih =>
    cases layer with
    | parens => exact tight_inPair _
    | cast k =>
      exact ih.between (wrap_ne_nil h layers) k.tight_text (List.cons_ne_nil _ _) []

/-! ## What comes after a cast -/

theorem EndsCast.nil : EndsCast [] := by
  constructor <;> (intro c h; cases h)

theorem EndsCast.cons {c : Char} (hc : c ∈ [')', ']', ',', ':']) (rest : List Char) :
    EndsCast (c :: rest) := by
  have hb : isBlank c = false :=
    (forall_mem_of_all (by decide) : ∀ c ∈ [')', ']', ',', ':'], isBlank c = false) c hc
  constructor
  case head =>
    intro d hd
    obtain rfl : c = d := Option.some.inj hd
    exact (forall_mem_of_all (by decide) : ∀ c ∈ [')', ']', ',', ':'], endsTypeName c = true) c hc
  case next =>
    intro d hd
    rw [trimStart_cons_of_not hb] at hd
    obtain rfl : c = d := Option.some.inj hd
    exact (forall_mem_of_all (by decide) : ∀ c ∈ [')', ']', ',', ':'], c ≠ '(' ∧ c ≠ '[') c hc

theorem EndsCast.blank {c : Char} (hb : isBlank c = false) (hp : c ≠ '(') (hs : c ≠ '[')
    (rest : List Char) : EndsCast (' ' :: c :: rest) where
  head d hd := by
    obtain rfl : ' ' = d := Option.some.inj hd
    rfl
  next d hd := by
    rw [trimStart_blank_cons hb] at hd
    obtain rfl : c = d := Option.some.inj hd
    exact ⟨hp, hs⟩

/-- A literal goes on with a quote only. -/
theorem EndsCast.head_ne {rest : List Char} (h : EndsCast rest) : rest.head? ≠ some quote := by
  intro hq
  exact absurd (h.head _ hq) (by decide)

/-! ## Dropping casts -/

/-- Text outside of literals without colons, in which there is no cast. -/
structure Castless (t : List Char) : Prop where
  quote : quote ∉ t
  colon : ':' ∉ t

/-- Without its casts `t` is `t'`, before whatever ends a cast. -/
def Uncast (t t' : List Char) : Prop :=
  ∀ rest, EndsCast rest → mapPlain dropCasts (t ++ rest) = t' ++ mapPlain dropCasts rest

namespace Uncast

variable {p s s' t t' : List Char}

theorem castless (hp : Castless p) : Uncast p p := fun rest _ =>
  mapPlain_dropCasts_append hp.quote hp.colon rest

theorem quoted (v : List Char) : Uncast (quoted v) (quoted v) := fun _ hr =>
  mapPlain_quoted rfl hr.head_ne v

theorem before (hp : Castless p) (ht : Uncast t t') : Uncast (p ++ t) (p ++ t') := by
  intro rest hr
  rw [List.append_assoc, mapPlain_dropCasts_append hp.quote hp.colon, ht rest hr,
    List.append_assoc]

/-- Two texts lose their casts each on its own if what is between them has none and goes on with
none. -/
theorem between (hs : Uncast s s') (hp : Castless p) (he : ∀ rest, EndsCast (p ++ rest))
    (ht : Uncast t t') : Uncast (s ++ (p ++ t)) (s' ++ (p ++ t')) := by
  intro rest hr
  rw [List.append_assoc, List.append_assoc, hs _ (he _),
    mapPlain_dropCasts_append hp.quote hp.colon, ht rest hr]
  simp

theorem enclosed (ht : Uncast t t') {o c : Char} (ho : Castless [o]) (hc : Castless [c])
    (he : c ∈ [')', ']', ',', ':']) : Uncast (o :: (t ++ [c])) (o :: (t' ++ [c])) := by
  have hnil : Uncast [] [] := fun _ _ => by simp
  have h := (ht.between hc (EndsCast.cons he) hnil).before ho
  simpa using h

theorem inPair (ht : Uncast t t') : Uncast ('(' :: (t ++ [')'])) ('(' :: (t' ++ [')'])) :=
  ht.enclosed (by constructor <;> decide) (by constructor <;> decide) (by decide)

theorem cast (ht : Uncast t t') (k : Cast) : Uncast (t ++ k.text) t' := by
  intro rest hr
  have hk : EndsCast (k.text ++ rest) := .cons (by decide) _
  rw [List.append_assoc, ht _ hk, mapPlain_dropCasts_cast k hr]

/-- Of the layers around a text the parentheses are left. -/
theorem wrap (ht : Uncast t t') (layers : List Layer) :
    Uncast (wrap layers t) (inParens (pairs layers) t') := by
  induction layers with
  | nil => exact ht
  | cons layer layers ih =>
    cases layer with
    | parens => exact ih.inPair
    | cast k => exact ih.cast k

theorem inParens (ht : Uncast t t') (n : Nat) : Uncast (inParens n t) (inParens n t') := by
  induction n with
  | zero => exact ht
  | succ n ih => exact ih.inPair

theorem commaList {α : Type} {f g : α → List Char} (es : List α)
    (h : ∀ e ∈ es, Uncast (f e) (g e)) :
    Uncast (commaList (es.map f)) (commaList (es.map g)) := by
  induction es with
  | nil => exact .castless (p := []) (by constructor <;> simp)
  | cons e es ih =>
    have he := h e (by simp)
    have ih := ih fun e he => h e (by simp [he])
    cases es with
    | nil =>
      rw [List.map_singleton, List.map_singleton, commaList_singleton, commaList_singleton]
      exact he
    | cons d es =>
      rw [List.map_cons, List.map_cons, List.map_cons, List.map_cons, commaList_cons_cons,
        commaList_cons_cons]
      exact he.between (p := [',', ' ']) (by constructor <;> decide)
        (fun _ => .cons (by decide) _) ih

end Uncast

end ValidatorGen.Check
