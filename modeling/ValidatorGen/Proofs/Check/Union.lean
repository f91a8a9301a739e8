/-
The values of several clauses. Every clause adds those of its values that are new, after
all that came before (`enumValues_append`), and a clause of no known shape adds none. So
**clauses contribute independently** (`enumValues_unites`): a clause that adds nothing may
stand anywhere or nowhere, a repeated clause is as good as one, and the order of the clauses
shows in the order of the values only.
-/
import ValidatorGen.Proofs.Check.Values

namespace ValidatorGen.Check

/-! ## First appearances -/

section

variable {α : Type} [BEq α] [LawfulBEq α]

/-- Leaving values out before or after repetitions are dropped is the same. -/
theorem eraseDups_filter (p : α → Bool) (l : List α) :
    (l.filter p).eraseDups = l.eraseDups.filter p := by
  match l with
  | [] => rfl
  | a :: l =>
    have ih := eraseDups_filter p (l.filter fun b => !b == a)
    have hswap : (l.filter p).filter (fun b => !b == a)
        = (l.filter fun b => !b == a).filter p := by
      rw [List.filter_filter, List.filter_filter]
      simp only [Bool.and_comm]
    cases hp : p a with
    | true =>
      rw [List.filter_cons_of_pos hp, List.eraseDups_cons, hswap, ih, List.eraseDups_cons,
        List.filter_cons_of_pos hp]
    | false =>
      -- the repetitions of `a` are left out by `p` as well
      have hrest : (l.filter fun b => !b == a).filter p = l.filter p := by
        rw [List.filter_filter]
        refine List.filter_congr fun b _ => ?_
        by_cases hb : b = a
        · rw [hb, hp, Bool.false_and]
        · simp [hb]
      rw [List.filter_cons_of_neg (by simp [hp]), List.eraseDups_cons,
        List.filter_cons_of_neg (by simp [hp]), ← ih, hrest]
termination_by l.length
decreasing_by exact Nat.lt_succ_of_le (List.length_filter_le _ _)

theorem nodup_eraseDups (l : List α) : l.eraseDups.Nodup := by
  match l with
  | [] => exact List.nodup_nil
  | a :: l =>
    rw [List.eraseDups_cons, List.nodup_cons, List.mem_eraseDups, List.mem_filter]
    exact ⟨by simp, nodup_eraseDups _⟩
termination_by l.length
decreasing_by exact Nat.lt_succ_of_le (List.length_filter_le _ _)

/-- What a second list adds to the first appearances of a list. -/
theorem eraseDups_append_eq (k l : List α) :
    (k ++ l).eraseDups = k.eraseDups ++ l.eraseDups.filter fun a => !k.eraseDups.contains a := by
  have hmem : ∀ a, k.eraseDups.contains a = List.elem a k := fun a => by
    rw [Bool.eq_iff_iff, List.contains_iff_mem, List.mem_eraseDups, List.elem_iff]
  rw [List.eraseDups_append, List.removeAll, eraseDups_filter]
  simp only [hmem]

end

/-! ## Several clauses -/

/-- What the clauses list, repetitions included. -/
def listedBy (column : String) (clauses : List String) : List String :=
  clauses.flatMap fun clause =>
    (clauseValues (canonicalName column.toList) clause.toList).map String.ofList

theorem enumValues_eq (column : String) (clauses : List String) :
    enumValues column clauses = (listedBy column clauses).eraseDups := by
  rw [enumValues, listedBy, ← List.map_flatMap,
    map_eraseDups fun _ _ h => String.ofList_injective h]

theorem mem_enumValues {column v : String} {clauses : List String} :
    v ∈ enumValues column clauses ↔ ∃ clause ∈ clauses, v ∈ enumValues column [clause] := by
  simp only [enumValues_eq, List.mem_eraseDups, listedBy, List.mem_flatMap, List.mem_singleton,
    exists_eq_left]

theorem nodup_enumValues (column : String) (clauses : List String) :
    (enumValues column clauses).Nodup := by
  rw [enumValues_eq]
  exact nodup_eraseDups _

theorem enumValues_append (column : String) (xs ys : List String) :
    enumValues column (xs ++ ys) = enumValues column xs
      ++ (enumValues column ys).filter fun v => v ∉ enumValues column xs := by
  simp only [enumValues_eq, listedBy, List.flatMap_append, eraseDups_append_eq,
    List.contains_eq_mem, decide_not]

/-- Clauses all of whose values are listed already add nothing. -/
theorem enumValues_append_of_subset {column : String} {xs ys : List String}
    (h : enumValues column ys ⊆ enumValues column xs) :
    enumValues column (xs ++ ys) = enumValues column xs := by
  have hnone : (enumValues column ys).filter (fun v => v ∉ enumValues column xs) = [] := by
    rw [List.filter_eq_nil_iff]
    intro v hv
    simpa using h hv
  rw [enumValues_append, hnone, List.append_nil]

/-- A clause all of whose values are listed before it may as well be left out. -/
theorem enumValues_insert_of_subset {column u : String} {xs : List String}
    (h : enumValues column [u] ⊆ enumValues column xs) (ys : List String) :
    enumValues column (xs ++ u :: ys) = enumValues column (xs ++ ys) := by
  have hu := enumValues_append_of_subset h
  rw [List.append_cons, enumValues_append, hu, ← enumValues_append]

/-- A clause of no known shape lists nothing. -/
theorem enumValues_of_matchingGrammars {column u : String} (h : matchingGrammars column u = []) :
    enumValues column [u] = [] := by
  refine enumValues_eq_nil fun g => ?_
  rw [matchingGrammars, List.filter_eq_nil_iff] at h
  exact Option.not_isSome_iff_eq_none.mp (h g (by cases g <;> decide))

theorem enumValues_perm {column : String} {xs ys : List String} (h : xs.Perm ys) :
    (enumValues column xs).Perm (enumValues column ys) := by
  refine (List.perm_ext_iff_of_nodup (nodup_enumValues column xs)
    (nodup_enumValues column ys)).mpr fun v => ?_
  rw [mem_enumValues, mem_enumValues]
  exact exists_congr fun clause => and_congr_left' h.mem_iff

/-- **Clauses contribute independently**: the values of two lists of clauses are those of the
first and then the new ones of the second, and no value comes twice. A clause of no known
shape changes nothing wherever it stands, nor does a clause that is there before, and
clauses in another order list the same values, perhaps in another order. -/
theorem enumValues_unites (column : String) :
    (∀ xs ys, enumValues column (xs ++ ys) = enumValues column xs
      ++ (enumValues column ys).filter fun v => v ∉ enumValues column xs)
    ∧ (∀ xs, (enumValues column xs).Nodup)
    ∧ (∀ xs u ys, matchingGrammars column u = [] →
        enumValues column (xs ++ u :: ys) = enumValues column (xs ++ ys))
    ∧ (∀ xs u ys, u ∈ xs → enumValues column (xs ++ u :: ys) = enumValues column (xs ++ ys))
    ∧ ∀ xs ys, xs.Perm ys → (enumValues column xs).Perm (enumValues column ys) := by
  refine ⟨enumValues_append column, nodup_enumValues column, fun xs u ys hu => ?_,
    fun xs u ys hu => ?_, fun _ _ => enumValues_perm⟩
  · refine enumValues_insert_of_subset ?_ ys
    rw [enumValues_of_matchingGrammars hu]
    exact List.nil_subset _
  · refine enumValues_insert_of_subset (fun v hv => ?_) ys
    exact mem_enumValues.mpr ⟨u, hu, hv⟩

theorem enumValues_unites_status :
    matchingGrammars "status" "price > 0" = []
      ∧ enumValues "status" (["status IN ('a', 'b')"] ++ "price > 0" :: ["status = 'c'"])
        = enumValues "status" (["status IN ('a', 'b')"] ++ ["status = 'c'"])
      ∧ enumValues "status" (["status IN ('a', 'b')"] ++ "status IN ('a', 'b')" :: ["status = 'c'"])
        = enumValues "status" (["status IN ('a', 'b')"] ++ ["status = 'c'"])
      ∧ (enumValues "status" ["status = 'c'", "status IN ('a', 'b')"]).Perm
        (enumValues "status" ["status IN ('a', 'b')", "status = 'c'"]) := by
  have hforeign : matchingGrammars "status" "price > 0" = [] := by decide +kernel
  obtain ⟨-, -, foreign, repeated, reordered⟩ := enumValues_unites "status"
  exact ⟨hforeign, foreign _ _ _ hforeign, repeated _ _ _ (by simp),
    reordered _ _ (.swap _ _ _)⟩

end ValidatorGen.Check
