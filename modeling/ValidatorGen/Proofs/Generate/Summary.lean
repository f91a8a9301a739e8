/-
A run's summary and its tables. The summary is drawn up from the schema, before an extension sees
a model, while the tables of the output are what extensions returned. Whatever extensions do to
columns and tables, a run that comes to an output has sorted the tables it summarized
(`sorted_of_normalize`). **If the extension that is asked about the models of tables keeps their
names and kinds, every model stands for its table (`standsFor_of_tableModel`), and so the summary
agrees with the output** (`generate_summary_agrees`).
-/
import ValidatorGen.Proofs.Generate.Calls
import ValidatorGen.Proofs.Model.Summary

namespace ValidatorGen

/-- Extensions keep the name and the kind of every table model they are asked about. -/
def RenderHooks.KeepTables (r : RenderHooks) (calls : List Call) : Prop :=
  ∀ m v, .tableModel m ∈ calls → r.onTable m = .ok v → v.name = m.name ∧ v.kind = m.kind

section

variable {rows : List RawColumn} {selection : Selection} {config : Configuration}
  {hooks : Option RenderHooks} {calls : List Call}

/-- A schema that rows come to is in order, whatever extensions did to its tables. -/
theorem sorted_of_normalize [PatternEngine] {n : Option NormalizeHooks} {s : Schema}
    (h : (normalize rows selection config n).result = .ok s) :
    s.tables.Pairwise fun a b => a.before b = true := by
  rw [normalize] at h
  split at h
  · cases h
  · obtain ⟨kept, -, h, -⟩ := Run.bind_eq_ok h
    obtain ⟨_, -, h, -⟩ := Run.bind_eq_ok h
    obtain ⟨_, -, h, -⟩ := Run.bind_eq_ok h
    obtain ⟨tables, -, h, -⟩ := Run.bind_eq_ok h
    obtain ⟨_, -, h, -⟩ := Run.bind_eq_ok h
    cases h
    exact List.pairwise_mergeSort Table.before_trans Table.before_total tables

/-- The model of a table stands for it, if the extension keeps what it is asked about. -/
theorem standsFor_of_tableModel {t : Table} {m : TableModel}
    (h : (tableModel t config hooks).result = .ok m)
    (hsub : (tableModel t config hooks).calls ⊆ calls)
    (hkeep : ∀ r ∈ hooks, r.KeepTables calls) : Summary.StandsFor t m := by
  rw [tableModel] at h hsub
  obtain ⟨columns, -, h, hcalls⟩ := Run.bind_eq_ok h
  obtain ⟨m', hm', h, hmore⟩ := Run.bind_eq_ok h
  obtain ⟨_, -, h, -⟩ := Run.bind_eq_ok h
  cases h
  cases hooks with
  | none =>
    cases hm'
    exact ⟨rfl, rfl⟩
  | some r =>
    refine hkeep r rfl (.ofColumns t config columns) m (hsub ?_) hm'
    rw [hcalls, hmore]
    exact List.mem_append_right _ (List.mem_append_left _ List.mem_cons_self)

/-- **The summary of an output agrees with its tables, once the schema is in order.** -/
theorem agreesWith_of_renderSchema {s : Schema} {output : Output}
    (hsorted : s.tables.Pairwise fun a b => a.before b = true)
    (h : (renderSchema s config hooks).result = .ok output)
    (hsub : (renderSchema s config hooks).calls ⊆ calls)
    (hkeep : ∀ r ∈ hooks, r.KeepTables calls) : output.summary.AgreesWith output.tables := by
  rw [renderSchema] at h hsub
  obtain ⟨models, hmodels, h, hcalls⟩ := Run.bind_eq_ok h
  cases h
  rw [hcalls] at hsub
  refine Summary.agreesWith_ofSchema hsorted ((Run.mapM_eq_ok hmodels).imp fun t m hm => ?_)
  refine standsFor_of_tableModel hm.1 (List.Subset.trans hm.2 ?_) hkeep
  exact List.Subset.trans (List.subset_append_left _ _) hsub

end

/-- **The summary of a run agrees with the tables of its output.** Names stand under the labels of
kinds, both in the order of the output, whatever the extensions do, as long as the models of
tables keep their names and kinds. -/
theorem generate_summary_agrees [PatternEngine] (source : Source) (request : Request)
    (hooks : Hooks)
    (elapsed : Nat) {output : Output}
    (hresult : (generate source request hooks elapsed).result = .ok output)
    (hkeep : ∀ r ∈ hooks.render, r.KeepTables (generate source request hooks elapsed).calls) :
    output.summary.AgreesWith output.tables := by
  rw [generate] at hresult hkeep
  obtain ⟨output', hproduce, hresult, hfinish⟩ := Run.bind_eq_ok hresult
  obtain ⟨_, -, hresult, -⟩ := Run.bind_eq_ok hresult
  cases hresult
  rw [hfinish] at hkeep
  rw [produce] at hproduce hkeep
  obtain ⟨rows, -, hproduce, hrows⟩ := Run.bind_eq_ok hproduce
  obtain ⟨_, -, hproduce, hcollected⟩ := Run.bind_eq_ok hproduce
  obtain ⟨s, hs, hproduce, hschema⟩ := Run.bind_eq_ok hproduce
  refine agreesWith_of_renderSchema (sorted_of_normalize hs) hproduce ?_ hkeep
  rw [hrows, hcollected, hschema]
  exact fun c hc => by simp [hc]

/-- An extension that takes the enumerations out of the models of tables. -/
def enumlessHooks : RenderHooks where
  onTable m := .ok { m with enums := [] }

/-- The answers of this extension and of the one that renames tables. -/
def enumlessReplies : Replies where
  column _ c := c
  table := sampleReplies.table
  columnModel _ m := m
  tableModel m := { m with enums := [] }

theorem enumlessReplies_of : enumlessReplies.Of sampleNormalizeHooks enumlessHooks where
  column := sampleReplies_of.column
  table := sampleReplies_of.table
  columnModel _ _ _ h := (Except.ok.inj h).symm
  tableModel _ _ h := (Except.ok.inj h).symm

theorem generate_summary_agrees_sampleRows : ∃ output,
    (generate ⟨"static", .ok sampleRows⟩ {} ⟨some sampleNormalizeHooks, some enumlessHooks⟩
      0).result = .ok output ∧
    (∀ r ∈ some enumlessHooks, r.KeepTables (generate ⟨"static", .ok sampleRows⟩ {}
      ⟨some sampleNormalizeHooks, some enumlessHooks⟩ 0).calls) ∧
    output.summary.AgreesWith output.tables := by
  have hkept := @filterColumns_ok _ sampleRows {} none none rfl rfl
  have hfollows := @follows_generate _ _ _ _ enumlessReplies_of _ _ {} "static" 0 (by decide) hkept
  have hfine : ∀ call : Call, call.failure? sampleNormalizeHooks enumlessHooks = none := by
    intro call
    cases call <;> rfl
  have hresult := (hfollows.complete_iff.mpr fun call _ => hfine call).2
  have hkeep : ∀ r ∈ some enumlessHooks, r.KeepTables (generate ⟨"static", .ok sampleRows⟩ {}
      ⟨some sampleNormalizeHooks, some enumlessHooks⟩ 0).calls := by
    rintro r hr m v - hv
    cases hr
    cases hv
    exact ⟨rfl, rfl⟩
  exact ⟨_, hresult, hkeep, generate_summary_agrees _ _ _ _ hresult hkeep⟩

end ValidatorGen
