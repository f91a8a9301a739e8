/-
The order of tables. `Table.before` compares the label of the kind first and the name then,
and any two tables compare. The sort is stable: **what a rank said about the order of the
tables before, it says about those that agree in label and name after** (`sortTables_pairwise`).
For tables of which some may be equal, no rank is at hand; there the tables of one label and
name are the same list before and after (`stablySorted_sortTables`).
-/
import Mathlib.Data.List.Permutation
import ValidatorGen.Relation.Table

namespace ValidatorGen

/-- A table stands before another by the label of its kind, then by its name, and at last by
a rank. -/
def Table.Precedes (rank : Table → Nat) (a b : Table) : Prop :=
  a.kind.label < b.kind.label ∨ a.kind.label = b.kind.label ∧
    (a.name < b.name ∨ a.name = b.name ∧ rank a < rank b)

/-! ## The comparison -/

theorem Table.before_iff {a b : Table} : a.before b = true ↔
    a.kind.label < b.kind.label ∨ a.kind.label = b.kind.label ∧ a.name ≤ b.name := by
  rw [Table.before]
  split
  · next heq => simp [heq]
  · next hne => simp [hne]

theorem Table.before_trans (a b c : Table) (hab : a.before b = true) (hbc : b.before c = true) :
    a.before c = true := by
  rw [Table.before_iff] at hab hbc ⊢
  rcases hab with hab | ⟨hab, hname⟩
  · refine .inl ?_
    rcases hbc with hbc | ⟨hbc, -⟩
    · exact String.lt_trans hab hbc
    · exact hbc ▸ hab
  · rcases hbc with hbc | ⟨hbc, hnext⟩
    · exact .inl (hab ▸ hbc)
    · exact .inr ⟨hab.trans hbc, String.le_trans hname hnext⟩

theorem Table.before_total (a b : Table) : (a.before b || b.before a) = true := by
  rw [Bool.or_eq_true, Table.before_iff, Table.before_iff]
  by_cases heq : a.kind.label = b.kind.label
  · rcases String.le_total a.name b.name with hle | hle
    · exact .inl (.inr ⟨heq, hle⟩)
    · exact .inr (.inr ⟨heq.symm, hle⟩)
  · by_cases hlt : a.kind.label < b.kind.label
    · exact .inl (.inl hlt)
    · refine .inr (.inl (String.not_le.mp fun hle => heq ?_))
      exact String.le_antisymm hle (String.not_lt.mp hlt)

theorem TableKind.label_inj {k k' : TableKind} (h : k.label = k'.label) : k = k' := by
  cases k <;> cases k' <;> first | rfl | exact absurd h (by decide)

/-- Tables that compare both ways have one kind and one name. -/
theorem Table.eq_of_before {a b : Table} (hab : a.before b = true) (hba : b.before a = true) :
    a.kind = b.kind ∧ a.name = b.name := by
  rw [Table.before_iff] at hab hba
  rcases hab with hlt | ⟨hlabel, hle⟩
  · rcases hba with hgt | ⟨heq, -⟩
    · exact absurd (String.lt_trans hlt hgt) (String.lt_irrefl _)
    · exact absurd (heq ▸ hlt) (String.lt_irrefl _)
  · rcases hba with hgt | ⟨-, hge⟩
    · exact absurd (hlabel ▸ hgt) (String.lt_irrefl _)
    · exact ⟨TableKind.label_inj hlabel, String.le_antisymm hle hge⟩

/-- A table precedes another if it is before that one, and by its rank where both are before the
other. -/
theorem Table.precedes_of_before {rank : Table → Nat} {a b : Table} (hab : a.before b = true)
    (hrank : b.before a = true → rank a < rank b) : a.Precedes rank b := by
  rcases Table.before_iff.mp hab with hlabel | ⟨hlabel, hname⟩
  · exact .inl hlabel
  · refine .inr ⟨hlabel, ?_⟩
    by_cases hlt : a.name < b.name
    · exact .inl hlt
    · have hback : b.name ≤ a.name := String.not_lt.mp hlt
      refine .inr ⟨String.le_antisymm hname hback, hrank ?_⟩
      exact Table.before_iff.mpr (.inr ⟨hlabel.symm, hback⟩)

/-! ## Stable sorting -/

section

variable {α : Type} {le : α → α → Bool} {rank : α → Nat} {a b : α} {l : List α}

/-- Two elements of a list stand in one order or the other. -/
theorem pair_sublist_or_swap (ha : a ∈ l) (hb : b ∈ l) (hne : a ≠ b) :
    [a, b].Sublist l ∨ [b, a].Sublist l := by
  have hpair : [a, b].Subperm l := List.subperm_of_subset (by simpa using hne) (by simp [ha, hb])
  obtain ⟨l', hperm, hsub⟩ := hpair
  rcases List.perm_pair.mp hperm with rfl | rfl
  · exact .inl hsub
  · exact .inr hsub

/-- In a list without repetitions it is one order only. -/
theorem not_sublist_swap (hnodup : l.Nodup) (hab : [a, b].Sublist l) : ¬ [b, a].Sublist l := by
  induction l with
  | nil => cases hab
  | cons x l ih =>
    obtain ⟨hx, hnodup⟩ := List.nodup_cons.mp hnodup
    intro hba
    cases hab with
    | cons _ hab =>
      cases hba with
      | cons _ hba => exact ih hnodup hab hba
      | cons_cons _ _ => exact hx (hab.subset (List.mem_cons_of_mem _ (List.mem_singleton_self _)))
    | cons_cons _ hb =>
      have hb : b ∈ l := List.singleton_sublist.mp hb
      cases hba with
      | cons _ hba => exact hx (hba.subset (List.mem_cons_of_mem _ (List.mem_singleton_self _)))
      | cons_cons _ _ => exact hx hb

/-- A stable sort keeps a rank that goes up, among elements that compare both ways. -/
theorem pairwise_mergeSort_rank (trans : ∀ a b c, le a b = true → le b c = true → le a c = true)
    (total : ∀ a b, (le a b || le b a) = true) (h : l.Pairwise fun a b => rank a < rank b) :
    (l.mergeSort le).Pairwise fun a b => le a b = true ∧ (le b a = true → rank a < rank b) := by
  have hnodup : l.Nodup := h.imp fun hab => ne_of_apply_ne rank (Nat.ne_of_lt hab)
  have hsorted := (List.mergeSort_perm l le).nodup_iff.mpr hnodup
  refine List.pairwise_iff_forall_sublist.mpr fun {a b} hab => ?_
  refine ⟨List.pairwise_iff_forall_sublist.mp (List.pairwise_mergeSort trans total l) hab, ?_⟩
  intro hback
  have ha : a ∈ l := List.mem_mergeSort.mp (hab.subset List.mem_cons_self)
  have hb : b ∈ l := List.mem_mergeSort.mp
    (hab.subset (List.mem_cons_of_mem _ (List.mem_singleton_self b)))
  have hne : a ≠ b := List.pairwise_iff_forall_sublist.mp hsorted hab
  -- a pair that the sort had swapped would not compare back
  rcases pair_sublist_or_swap ha hb hne with hkept | hswapped
  · exact List.pairwise_iff_forall_sublist.mp h hkept
  · have hba := List.pair_sublist_mergeSort trans total hback hswapped
    exact absurd hba (not_sublist_swap hsorted hab)

/-- **A rank that goes up along the tables decides between tables that the order does not
tell apart.** -/
theorem sortTables_pairwise {tables : List Table} {rank : Table → Nat}
    (h : tables.Pairwise fun a b => rank a < rank b) :
    (sortTables tables).Pairwise (Table.Precedes rank) :=
  (pairwise_mergeSort_rank Table.before_trans Table.before_total h).imp fun hab =>
    Table.precedes_of_before hab.1 hab.2

/-- A stable sort keeps the elements of a class in their order, if all of them compare. -/
theorem filter_mergeSort (trans : ∀ a b c, le a b = true → le b c = true → le a c = true)
    (total : ∀ a b, (le a b || le b a) = true) (l : List α) (p : α → Bool)
    (hp : ∀ a b, p a = true → p b = true → le a b = true) :
    (l.mergeSort le).filter p = l.filter p := by
  have hclass : (l.filter p).Pairwise fun a b => le a b = true := by
    refine List.pairwise_of_forall_mem_list fun a ha b hb => ?_
    exact hp a b (List.mem_filter.mp ha).2 (List.mem_filter.mp hb).2
  have hsub := (List.sublist_mergeSort trans total hclass List.filter_sublist).filter p
  rw [List.filter_filter] at hsub
  simp only [Bool.and_self] at hsub
  exact (hsub.eq_of_length ((List.mergeSort_perm l le).filter p).length_eq.symm).symm

/-- A list of tables put in order: by the label of their kind, then by name, and tables that
agree in both as they stood. -/
structure Table.StablySorted (tables sorted : List Table) : Prop where
  perm : sorted.Perm tables
  ordered : sorted.Pairwise fun a b =>
    a.kind.label < b.kind.label ∨ a.kind.label = b.kind.label ∧ a.name ≤ b.name
  stable : ∀ label name,
    sorted.filter (fun t => t.kind.label == label && t.name == name)
      = tables.filter fun t => t.kind.label == label && t.name == name

theorem stablySorted_sortTables (tables : List Table) :
    Table.StablySorted tables (sortTables tables) where
  perm := List.mergeSort_perm _ _
  ordered := (List.pairwise_mergeSort Table.before_trans Table.before_total tables).imp
    Table.before_iff.mp
  stable label name := by
    refine filter_mergeSort Table.before_trans Table.before_total tables _ fun a b ha hb => ?_
    simp only [Bool.and_eq_true, beq_iff_eq] at ha hb
    refine Table.before_iff.mpr (.inr ⟨ha.1.trans hb.1.symm, ?_⟩)
    have hname : a.name = b.name := ha.2.trans hb.2.symm
    exact hname ▸ String.le_refl a.name

end

end ValidatorGen
