/-
The summary of a schema. Whatever the order in which tables come, their names stand under the label
of their kind, labels in ascending order, and a label is there just if it has a name
(`Summary.Groups`); one more table keeps that (`Groups.addName`). **If the tables are in order, the
names under all labels, one label after the other, are those of the tables**
(`flatMap_grouped`), so a summary and the tables of an output can be read side by side
(`agreesWith_ofSchema`).
-/
import Mathlib.Data.List.Forall2
import Mathlib.Data.List.Induction
import ValidatorGen.Model.Summary
import ValidatorGen.Proofs.Relation.Table

namespace ValidatorGen

namespace Summary

/-- The names of the tables of a label, in the order of the tables. -/
def namesOf (label : String) (tables : List Table) : List String :=
  (tables.filter fun t => t.kind.label == label).map Table.name

/-- Names under labels are those of some tables. -/
structure Groups (tables : List Table) (groups : List (String × List String)) : Prop where
  labels : groups.Pairwise fun a b => a.1 < b.1
  names : ∀ group ∈ groups, group.2 = namesOf group.1 tables
  nonempty : ∀ group ∈ groups, group.2 ≠ []
  covered : ∀ t ∈ tables, t.kind.label ∈ groups.map Prod.fst

/-- A summary agrees with the table models of an output. -/
structure AgreesWith (s : Summary) (tables : List TableModel) : Prop where
  /-- Labels are in ascending order. -/
  labels : s.tables.Pairwise fun a b => a.1 < b.1
  /-- Label after label, the names are those of the tables in their order. -/
  names : s.tables.flatMap Prod.snd = tables.map TableModel.name
  /-- Under a label stand the names of exactly the tables of its kind. -/
  kinds : ∀ group ∈ s.tables, group.2
    = (tables.filter fun t => t.kind.label == group.1).map TableModel.name
  /-- The names under a label are in ascending order. -/
  ascending : ∀ group ∈ s.tables, group.2.Pairwise (· ≤ ·)
  /-- There is a name at least under every label. -/
  nonempty : ∀ group ∈ s.tables, group.2 ≠ []
  count : s.tableCount = tables.length

section

variable {tables : List Table} {groups : List (String × List String)} {label name : String}

/-! ## One more name -/

theorem mem_map_fst_addName {l : String} : l ∈ (addName label name groups).map Prod.fst ↔
    l = label ∨ l ∈ groups.map Prod.fst := by
  induction groups with
  | nil => simp [addName]
  | cons group groups ih =>
    obtain ⟨l', names⟩ := group
    rw [addName]
    split
    · next heq =>
      subst heq
      simp
    · split
      · simp
      · rw [List.map_cons, List.mem_cons, ih, List.map_cons, List.mem_cons]
        exact or_left_comm

theorem pairwise_addName (h : groups.Pairwise fun a b => a.1 < b.1) :
    (addName label name groups).Pairwise fun a b => a.1 < b.1 := by
  induction groups with
  | nil => simp [addName]
  | cons group groups ih =>
    obtain ⟨l, names⟩ := group
    obtain ⟨hhead, htail⟩ := List.pairwise_cons.mp h
    rw [addName]
    split
    · exact List.pairwise_cons.mpr ⟨hhead, htail⟩
    · next hne =>
      split
      · next hlt =>
        refine List.pairwise_cons.mpr ⟨fun g hg => ?_, h⟩
        rcases List.mem_cons.mp hg with rfl | hg
        · exact hlt
        · exact String.lt_trans hlt (hhead g hg)
      · next hnot =>
        have hgt : l < label := by
          refine String.not_le.mp fun hle => hne (String.le_antisymm hle ?_)
          exact String.not_lt.mp hnot
        refine List.pairwise_cons.mpr ⟨fun g hg => ?_, ih htail⟩
        rcases mem_map_fst_addName.mp (List.mem_map_of_mem hg) with heq | hmem
        · exact heq ▸ hgt
        · obtain ⟨g', hg', heq⟩ := List.mem_map.mp hmem
          exact heq ▸ hhead g' hg'

/-- A group that was there, the group of the label with the name put last, or a new one. -/
theorem mem_addName {group : String × List String}
    (hlabels : groups.Pairwise fun a b => a.1 < b.1) (h : group ∈ addName label name groups) :
    (group ∈ groups ∧ group.1 ≠ label) ∨
    (∃ names, (label, names) ∈ groups ∧ group = (label, names ++ [name])) ∨
    (label ∉ groups.map Prod.fst ∧ group = (label, [name])) := by
  induction groups with
  | nil => exact .inr (.inr ⟨by simp, by simpa [addName] using h⟩)
  | cons head groups ih =>
    obtain ⟨l, names⟩ := head
    obtain ⟨hhead, htail⟩ := List.pairwise_cons.mp hlabels
    rw [addName] at h
    split at h
    · next heq =>
      subst heq
      rcases List.mem_cons.mp h with rfl | hg
      · exact .inr (.inl ⟨names, List.mem_cons_self, rfl⟩)
      · refine .inl ⟨List.mem_cons_of_mem _ hg, fun heq => ?_⟩
        exact absurd (heq ▸ hhead group hg) (String.lt_irrefl _)
    · next hne =>
      split at h
      · next hlt =>
        have hsmaller : ∀ g ∈ (l, names) :: groups, label < g.1 := by
          intro g hg
          rcases List.mem_cons.mp hg with rfl | hg
          · exact hlt
          · exact String.lt_trans hlt (hhead g hg)
        rcases List.mem_cons.mp h with rfl | hg
        · refine .inr (.inr ⟨fun hmem => ?_, rfl⟩)
          obtain ⟨g, hg, heq⟩ := List.mem_map.mp hmem
          exact absurd (heq ▸ hsmaller g hg) (String.lt_irrefl _)
        · refine .inl ⟨hg, fun heq => ?_⟩
          exact absurd (heq ▸ hsmaller group hg) (String.lt_irrefl _)
      · rcases List.mem_cons.mp h with rfl | hg
        · exact .inl ⟨List.mem_cons_self, fun heq => hne heq.symm⟩
        · rcases ih htail hg with ⟨hg, hl⟩ | ⟨old, hold, rfl⟩ | ⟨hnot, rfl⟩
          · exact .inl ⟨List.mem_cons_of_mem _ hg, hl⟩
          · exact .inr (.inl ⟨old, List.mem_cons_of_mem _ hold, rfl⟩)
          · refine .inr (.inr ⟨?_, rfl⟩)
            rw [List.map_cons, List.mem_cons]
            exact fun hmem => hmem.elim hne hnot

/-! ## One more table -/

theorem namesOf_concat (label : String) (tables : List Table) (t : Table) :
    namesOf label (tables ++ [t])
      = namesOf label tables ++ if t.kind.label = label then [t.name] else [] := by
  rw [namesOf, namesOf, List.filter_append, List.map_append]
  by_cases h : t.kind.label = label <;> simp [h]

theorem groups_nil : Groups [] [] := ⟨.nil, by simp, by simp, by simp⟩

/-- **One more table keeps the groups.** -/
theorem Groups.addName (h : Groups tables groups) (t : Table) :
    Groups (tables ++ [t]) (addName t.kind.label t.name groups) where
  labels := pairwise_addName h.labels
  names group hgroup := by
    rw [namesOf_concat]
    rcases mem_addName h.labels hgroup with ⟨hmem, hne⟩ | ⟨names, hmem, rfl⟩ | ⟨hnot, rfl⟩
    · rw [if_neg hne.symm, List.append_nil]
      exact h.names group hmem
    · rw [if_pos rfl, ← h.names _ hmem]
    · -- no table of the label came before
      have hnone : namesOf t.kind.label tables = [] := by
        rw [namesOf, List.map_eq_nil_iff, List.filter_eq_nil_iff]
        intro u hu heq
        rw [beq_iff_eq] at heq
        exact hnot (heq ▸ h.covered u hu)
      rw [if_pos rfl, hnone]
      rfl
  nonempty group hgroup := by
    rcases mem_addName h.labels hgroup with ⟨hmem, -⟩ | ⟨names, -, rfl⟩ | ⟨-, rfl⟩
    · exact h.nonempty group hmem
    · exact List.append_ne_nil_of_right_ne_nil _ (List.cons_ne_nil _ _)
    · exact List.cons_ne_nil _ _
  covered u hu := by
    rw [mem_map_fst_addName]
    rcases List.mem_append.mp hu with hu | hu
    · exact .inr (h.covered u hu)
    · exact .inl (by rw [List.mem_singleton.mp hu])

theorem grouped_concat (tables : List Table) (t : Table) :
    grouped (tables ++ [t]) = addName t.kind.label t.name (grouped tables) := by
  rw [grouped, List.foldl_append]
  rfl

/-- **The names of any tables are grouped by label.** -/
theorem groups_grouped (tables : List Table) : Groups tables (grouped tables) := by
  induction tables using List.reverseRecOn with
  | nil => exact groups_nil
  | append_singleton tables t ih =>
    rw [grouped_concat]
    exact ih.addName t

/-! ## Tables in order -/

/-- A name under the last label goes to the end. -/
theorem flatMap_addName (hlabels : groups.Pairwise fun a b => a.1 < b.1)
    (hlast : ∀ group ∈ groups, group.1 ≤ label) :
    (addName label name groups).flatMap Prod.snd = groups.flatMap Prod.snd ++ [name] := by
  induction groups with
  | nil => simp [addName]
  | cons group groups ih =>
    obtain ⟨l, names⟩ := group
    obtain ⟨hhead, htail⟩ := List.pairwise_cons.mp hlabels
    have hle : l ≤ label := hlast _ List.mem_cons_self
    rw [addName]
    split
    · next heq =>
      subst heq
      -- nothing can stand behind the last label
      have hnil : groups = [] := by
        refine List.eq_nil_iff_forall_not_mem.mpr fun g hg => ?_
        exact String.not_le.mpr (hhead g hg) (hlast g (List.mem_cons_of_mem _ hg))
      simp [hnil]
    · rw [if_neg (String.not_lt.mpr hle), List.flatMap_cons, List.flatMap_cons,
        ih htail fun g hg => hlast g (List.mem_cons_of_mem _ hg), List.append_assoc]

/-- A label that is there is that of a table. -/
theorem Groups.exists_table (h : Groups tables groups) {group : String × List String}
    (hgroup : group ∈ groups) : ∃ t ∈ tables, t.kind.label = group.1 := by
  have hne := h.nonempty group hgroup
  rw [h.names group hgroup, namesOf] at hne
  obtain ⟨t, ht⟩ := List.exists_mem_of_ne_nil _ (mt List.map_eq_nil_iff.mpr hne)
  obtain ⟨hmem, hlabel⟩ := List.mem_filter.mp ht
  exact ⟨t, hmem, by simpa using hlabel⟩

/-- **If the tables are in order, the names are in the order of the tables.** -/
theorem flatMap_grouped (h : tables.Pairwise fun a b => a.before b = true) :
    (grouped tables).flatMap Prod.snd = tables.map Table.name := by
  induction tables using List.reverseRecOn with
  | nil => rfl
  | append_singleton tables t ih =>
    obtain ⟨hbefore, -, hlast⟩ := List.pairwise_append.mp h
    have hgroups := groups_grouped tables
    have hle : ∀ group ∈ grouped tables, group.1 ≤ t.kind.label := by
      intro group hgroup
      obtain ⟨u, hu, hlabel⟩ := hgroups.exists_table hgroup
      rw [← hlabel]
      rcases Table.before_iff.mp (hlast u hu t (List.mem_singleton_self t)) with hlt | ⟨heq, -⟩
      · exact String.not_lt.mp fun hgt => String.lt_irrefl _ (String.lt_trans hlt hgt)
      · exact heq ▸ String.le_refl _
    rw [grouped_concat, flatMap_addName hgroups.labels hle, ih hbefore, List.map_append,
      List.map_singleton]

/-- The names of one label ascend. -/
theorem pairwise_namesOf (h : tables.Pairwise fun a b => a.before b = true) (label : String) :
    (namesOf label tables).Pairwise (· ≤ ·) := by
  rw [namesOf, List.pairwise_map]
  refine (h.filter _).imp_of_mem fun {a b} ha hb hab => ?_
  have hlabel : a.kind.label = b.kind.label := by
    have hka := (List.mem_filter.mp ha).2
    have hkb := (List.mem_filter.mp hb).2
    rw [beq_iff_eq] at hka hkb
    rw [hka, hkb]
  rcases Table.before_iff.mp hab with hlt | ⟨-, hle⟩
  · exact absurd (hlabel ▸ hlt) (String.lt_irrefl _)
  · exact hle

theorem tableCount_eq (s : Summary) : s.tableCount = (s.tables.flatMap Prod.snd).length := by
  have hcount : ∀ (groups : List (String × List String)) (n : Nat),
      groups.foldl (fun n group => n + group.2.length) n
        = n + (groups.flatMap Prod.snd).length := by
    intro groups
    induction groups with
    | nil => simp
    | cons group groups ih =>
      intro n
      rw [List.foldl_cons, ih, List.flatMap_cons, List.length_append]
      omega
  rw [tableCount, hcount, Nat.zero_add]

/-! ## Models of the tables -/

/-- A model stands for a table if it has its name and its kind. -/
def StandsFor (t : Table) (m : TableModel) : Prop := m.name = t.name ∧ m.kind = t.kind

theorem map_name_of_standFor {models : List TableModel}
    (h : List.Forall₂ StandsFor tables models) :
    models.map TableModel.name = tables.map Table.name := by
  induction h with
  | nil => rfl
  | cons hmodel _ ih => rw [List.map_cons, List.map_cons, hmodel.1, ih]

theorem namesOf_of_standFor {models : List TableModel}
    (h : List.Forall₂ StandsFor tables models) (label : String) :
    (models.filter fun m => m.kind.label == label).map TableModel.name = namesOf label tables := by
  induction h with
  | nil => rfl
  | @cons t m tables models hmodel _ ih =>
    rw [namesOf] at ih ⊢
    obtain ⟨hname, hkind⟩ := hmodel
    by_cases hlabel : t.kind.label = label
    · rw [List.filter_cons_of_pos (by simpa [hkind] using hlabel),
        List.filter_cons_of_pos (by simpa using hlabel), List.map_cons, List.map_cons, hname, ih]
    · rw [List.filter_cons_of_neg (by simpa [hkind] using hlabel),
        List.filter_cons_of_neg (by simpa using hlabel), ih]

/-- **The summary of a schema that is in order agrees with models that stand for its tables.** -/
theorem agreesWith_ofSchema {s : Schema} {models : List TableModel}
    (hsorted : s.tables.Pairwise fun a b => a.before b = true)
    (hmodels : List.Forall₂ StandsFor s.tables models) : (ofSchema s).AgreesWith models := by
  have hgroups := groups_grouped s.tables
  have hnames : (ofSchema s).tables.flatMap Prod.snd = models.map TableModel.name := by
    rw [map_name_of_standFor hmodels]
    exact flatMap_grouped hsorted
  constructor
  case labels => exact hgroups.labels
  case names => exact hnames
  case kinds =>
    intro group hgroup
    rw [namesOf_of_standFor hmodels]
    exact hgroups.names group hgroup
  case ascending =>
    intro group hgroup
    rw [hgroups.names group hgroup]
    exact pairwise_namesOf hsorted group.1
  case nonempty => exact hgroups.nonempty
  case count => rw [tableCount_eq, hnames, List.length_map]

end

end Summary

end ValidatorGen
