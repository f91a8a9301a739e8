/-
Decoration of declared types. A declared type may be written in any letter case, with wider gaps
and margins, with double quotes and groups in parentheses anywhere, and with qualifiers before it
(`Decorated`). Each of these leaves the name that is looked up as it was (`lookupName_decorated`),
so **a decorated type is mapped as the bare one is, and with brackets after it to an array of the
same** (`map_decorated`).
-/
import Mathlib.Logic.Relation
import ValidatorGen.Proofs.ColumnType.Letters

namespace ValidatorGen.ColumnType

open Text

variable {s t : List Char}

/-! ## Decoration -/

/-- The second text has more decoration than the first, or other. -/
inductive Decorated : List Char → List Char → Prop
  | letterCase {s t : List Char} : asciiLowercase s = asciiLowercase t → Decorated s t
  | gap {gap gap' : List Char} (s t : List Char) : IsGap gap → IsGap gap' → gap ≠ [] →
      gap' ≠ [] → Decorated (s ++ gap ++ t) (s ++ gap' ++ t)
  | margins {before after : List Char} (t : List Char) : IsGap before → IsGap after →
      Decorated t (before ++ t ++ after)
  | quote (s t : List Char) : Decorated (s ++ t) (s ++ '"' :: t)
  | group {inner : List Char} (s t : List Char) : Balanced inner →
      Decorated (s ++ t) (s ++ '(' :: (inner ++ ')' :: t))
  | qualifier {qualifier : List Char} (t : List Char) : HasNoParens qualifier →
      Decorated t (qualifier ++ '.' :: t)

theorem lookupName_decorated (h : Decorated s t) : lookupName t = lookupName s := by
  have hmarks := keepsMarks_lowered
  cases h with
  | letterCase hcase =>
    rw [lookupName, lookupName, ← flatMap_lowered_asciiLowercase, ← hcase,
      flatMap_lowered_asciiLowercase]
  | gap s t h h' hne hne' =>
    simp only [lookupName, bareName, List.flatMap_append, h.flatMap_lowered, h'.flatMap_lowered]
    rw [nameWords_gap h h' hne hne']
  | margins t h h' =>
    simp only [lookupName, bareName, List.flatMap_append, h.flatMap_lowered, h'.flatMap_lowered]
    rw [nameWords_margins h h']
  | quote s t =>
    simp only [lookupName, bareName, nameWords, List.flatMap_append, List.flatMap_cons,
      hmarks.mark (c := '"') (by decide), List.singleton_append, kept_quote]
  | group s t h =>
    simp only [lookupName, bareName, nameWords, List.flatMap_append, List.flatMap_cons,
      hmarks.mark (c := '(') (by decide), hmarks.mark (c := ')') (by decide),
      List.singleton_append, kept_group _ (hmarks.balanced h)]
  | qualifier t h =>
    simp only [lookupName, bareName, nameWords, List.flatMap_append, List.flatMap_cons,
      hmarks.mark (c := '.') (by decide), List.singleton_append,
      kept_qualifier (hmarks.hasNoParens h)]

/-! ## Brackets at the end -/

theorem flatMap_lowered_dimensions (n : Nat) : (dimensions n).flatMap lowered = dimensions n :=
  flatMap_lowered_of_fixed fun _ hc => by
    rcases mem_dimensions hc with rfl | rfl <;> decide

theorem exists_lookupName_dimensions (h : AllClosed t) {n : Nat} (hn : 0 < n) :
    ∃ gap, IsGap gap ∧ lookupName (t ++ dimensions n) = lookupName t ++ gap ++ dimensions n := by
  rw [lookupName, List.flatMap_append, flatMap_lowered_dimensions]
  refine exists_bareName_dimensions ?_ hn
  rw [keepsMarks_lowered.openAfter_flatMap]
  exact h.openAfter

/-- **A decorated type is mapped as the bare one is, and with brackets after it to an array of the
same.** -/
theorem map_decorated (declared : String) (fallback : Option TypeFallback) :
    (∀ text : String, Relation.ReflTransGen Decorated declared.toList text.toList →
      map text fallback = map declared fallback)
    ∧ (AllClosed declared.toList → (plainName declared.toList).head? ≠ some '_' →
      ∀ n, 0 < n → map (declared ++ String.ofList (dimensions n)) fallback
        = { map declared fallback with isArray := true }) := by
  constructor
  · intro text hsteps
    have hname : lookupName text.toList = lookupName declared.toList := by
      generalize text.toList = decorated at hsteps
      induction hsteps with
      | refl => rfl
      | tail _ hstep ih => exact (lookupName_decorated hstep).trans ih
    rw [map_eq, map_eq, hname]
  · intro hclosed hhead n hn
    obtain ⟨gap, hgap, hname⟩ := exists_lookupName_dimensions hclosed hn
    have hhead : (lookupName declared.toList).head? ≠ some '_' := by
      rwa [← plainName_oneSigma, Ne, head?_oneSigma]
    rw [map_eq, map_eq, String.toList_append, String.toList_ofList, hname]
    exact mapName_dimensions fallback hhead (tight_bareName _).last hgap hn

theorem map_decorated_int :
    map "db.INT(11)" none = map "int" none
      ∧ map "int[][]" none = { map "int" none with isArray := true } := by
  have hcase : Decorated "int".toList "INT".toList := .letterCase (by decide)
  have hgroup : Decorated "INT".toList "INT(11)".toList :=
    .group "INT".toList [] (.other (by decide) (by decide) (.other (by decide) (by decide) .nil))
  have hdb : HasNoParens "db".toList := ⟨by decide, by decide⟩
  have hqualifier : Decorated "INT(11)".toList "db.INT(11)".toList := .qualifier _ hdb
  exact ⟨(map_decorated "int" none).1 "db.INT(11)"
      (.tail (.tail (.single hcase) hgroup) hqualifier),
    (map_decorated "int" none).2 (by decide) (by decide) 2 (by decide)⟩

end ValidatorGen.ColumnType
