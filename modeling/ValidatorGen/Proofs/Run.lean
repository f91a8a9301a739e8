/-
What a run asks and what comes of it, from its parts. A run *follows* a list of calls
(`Run.Follows`) if it makes every one of them in order and comes to a given value, or makes
them up to the first on which an extension fails and ends with that failure. Runs that follow
their lists one after the other follow the lists one after the other (`Follows.bind`), and so
does a run for every element of a list (`Follows.mapM`).

Of a run that came to a value the parts are had back one by one (`bind_eq_ok`, `mapM_eq_ok`),
with what each of them asked.

Runs *agree* (`Run.Agrees`) if they report the same and come to the same, whatever they ask on
the way; that too goes through `bind` and `mapM`. A run that asks nothing is told by its reports and
its result (`Run.told`).
-/
import Mathlib.Data.List.Forall2
import ValidatorGen.Run

namespace ValidatorGen

namespace Run

variable {α β : Type} {x : Run α} {f : α → Run β} {a : α} {b : β}

theorem result_bind (x : Run α) (f : α → Run β) :
    (x >>= f).result = x.result >>= fun a => (f a).result := by
  rcases x with ⟨events, _ | a⟩ <;> rfl

theorem calls_bind_of_ok (h : x.result = .ok a) : (x >>= f).calls = x.calls ++ (f a).calls := by
  rcases x with ⟨events, _ | a'⟩
  · cases h
  · cases h
    rw [bind_ok, calls, calls, calls, List.filterMap_append]

theorem bind_of_error {e : Error} (h : x.result = .error e) :
    (x >>= f).calls = x.calls ∧ (x >>= f).result = .error e := by
  rcases x with ⟨events, e' | _⟩
  · cases h
    exact ⟨rfl, rfl⟩
  · cases h

/-- Two runs that come to a value, one after the other. -/
theorem bind_eq_ok (h : (x >>= f).result = .ok b) : ∃ a, x.result = .ok a ∧
    (f a).result = .ok b ∧ (x >>= f).calls = x.calls ++ (f a).calls := by
  cases hx : x.result with
  | error e =>
    rw [(bind_of_error hx).2] at h
    cases h
  | ok a =>
    have hcalls : (x >>= f).calls = x.calls ++ (f a).calls := calls_bind_of_ok hx
    rw [result_bind, hx] at h
    exact ⟨a, rfl, h, hcalls⟩

/-- Runs for every element of a list that come to values; all their calls are made. -/
theorem mapM_eq_ok {γ : Type} {l : List γ} {g : γ → Run α} {as : List α}
    (h : (l.mapM g).result = .ok as) :
    List.Forall₂ (fun c a => (g c).result = .ok a ∧ (g c).calls ⊆ (l.mapM g).calls) l as := by
  induction l generalizing as with
  | nil =>
    cases h
    exact .nil
  | cons c l ih =>
    rw [List.mapM_cons] at h ⊢
    obtain ⟨a, ha, hrest, hcalls⟩ := bind_eq_ok h
    obtain ⟨as', has, hpure, hmore⟩ := bind_eq_ok hrest
    cases hpure
    rw [hcalls, hmore]
    refine .cons ⟨ha, List.subset_append_left _ _⟩ ((ih has).imp fun d a' hd => ⟨hd.1, ?_⟩)
    refine List.Subset.trans hd.2 (List.Subset.trans ?_ (List.subset_append_right _ _))
    exact List.subset_append_left _ _

/-- Runs for the elements of a list come to their values if none of them fails. -/
theorem result_mapM {γ : Type} {l : List γ} {g : γ → Run α} {value : γ → α}
    (h : ∀ c, (g c).result = .ok (value c)) : (l.mapM g).result = .ok (l.map value) := by
  induction l with
  | nil => rfl
  | cons c l ih =>
    rw [List.mapM_cons, result_bind, h c]
    show ((l.mapM g) >>= fun bs => pure (value c :: bs)).result = _
    rw [result_bind, ih]
    rfl

/-- A run makes the calls of a list in order, up to the first on which an extension fails. -/
inductive Follows (fault? : Call → Option Error) (script : List Call) (a : α) (x : Run α) : Prop
  /-- No call fails, and the run comes to the value. -/
  | complete (fine : ∀ c ∈ script, fault? c = none) (calls : x.calls = script)
    (result : x.result = .ok a)
  /-- The last call that is made is the first to fail, and the run ends with its failure. -/
  | broken (done : List Call) (c : Call) (rest : List Call) (e : Error)
    (split : script = done ++ c :: rest) (fine : ∀ d ∈ done, fault? d = none)
    (fails : fault? c = some e) (calls : x.calls = done ++ [c]) (result : x.result = .error e)

namespace Follows

variable {fault? : Call → Option Error} {script more : List Call}

/-- A run that asks nothing follows the empty script. -/
theorem quiet (calls : x.calls = []) (result : x.result = .ok a) : Follows fault? [] a x :=
  .complete (by simp) calls result

/-- A run of one call follows it. -/
theorem ask {call : Call} {answer : Except Error α}
    (hfault : ∀ e, answer = .error e → fault? call = some e)
    (hvalue : ∀ v, answer = .ok v → fault? call = none ∧ v = a) :
    Follows fault? [call] a (Run.ask call answer) := by
  cases h : answer with
  | ok v =>
    obtain ⟨hfine, rfl⟩ := hvalue v h
    exact .complete (by simpa using hfine) rfl rfl
  | error e => exact .broken [] call [] e rfl (by simp) (hfault e h) rfl rfl

/-- **Runs one after the other follow their scripts one after the other.** -/
theorem bind (hx : Follows fault? script a x) (hf : Follows fault? more b (f a)) :
    Follows fault? (script ++ more) b (x >>= f) := by
  cases hx with
  | broken done c rest e split fine fails calls result =>
    obtain ⟨hcalls, hresult⟩ := bind_of_error (f := f) result
    refine .broken done c (rest ++ more) e ?_ fine fails (hcalls.trans calls) hresult
    rw [split, List.append_assoc, List.cons_append]
  | complete fine calls result =>
    have hcalls : (x >>= f).calls = script ++ (f a).calls := by
      rw [calls_bind_of_ok result, calls]
    have hresult : (x >>= f).result = (f a).result := by
      rw [result_bind, result]
      rfl
    cases hf with
    | complete fine' calls' result' =>
      refine .complete ?_ (by rw [hcalls, calls']) (hresult.trans result')
      intro c hc
      exact (List.mem_append.mp hc).elim (fine c) (fine' c)
    | broken done c rest e split fine' fails calls' result' =>
      refine .broken (script ++ done) c rest e ?_ ?_ fails ?_ (hresult.trans result')
      · rw [split, List.append_assoc]
      · intro d hd
        exact (List.mem_append.mp hd).elim (fine d) (fine' d)
      · rw [hcalls, calls', List.append_assoc]

/-- A run that asks nothing goes before. -/
theorem quiet_bind (calls : x.calls = []) (result : x.result = .ok a)
    (hf : Follows fault? more b (f a)) : Follows fault? more b (x >>= f) :=
  (quiet calls result).bind hf

/-- A run that asks nothing comes after. -/
theorem bind_quiet (hx : Follows fault? script a x) (calls : (f a).calls = [])
    (result : (f a).result = .ok b) : Follows fault? script b (x >>= f) := by
  have hrest : Follows fault? [] b (f a) := quiet calls result
  have h := hx.bind hrest
  rwa [List.append_nil] at h

/-- **The runs for the elements of a list follow their scripts one after the other.** -/
theorem mapM {γ : Type} {l : List γ} {g : γ → Run α} {scripts : γ → List Call} {value : γ → α}
    (h : ∀ c ∈ l, Follows fault? (scripts c) (value c) (g c)) :
    Follows fault? (l.flatMap scripts) (l.map value) (l.mapM g) := by
  induction l with
  | nil => exact quiet rfl rfl
  | cons c l ih =>
    rw [List.mapM_cons, List.flatMap_cons, List.map_cons]
    have htail := ih fun d hd => h d (List.mem_cons_of_mem c hd)
    exact (h c List.mem_cons_self).bind (htail.bind_quiet rfl rfl)

/-! ## What following a list comes to -/

theorem calls_isPrefix (h : Follows fault? script a x) : x.calls <+: script := by
  cases h with
  | complete _ calls _ => exact calls ▸ List.prefix_refl _
  | broken done c rest e split _ _ calls _ =>
    refine ⟨rest, ?_⟩
    rw [calls, split, List.append_assoc, List.singleton_append]

/-- Every call is made and answered just if no call fails. -/
theorem complete_iff (h : Follows fault? script a x) :
    (x.calls = script ∧ x.result = .ok a) ↔ ∀ c ∈ script, fault? c = none := by
  cases h with
  | complete fine calls result => exact ⟨fun _ => fine, fun _ => ⟨calls, result⟩⟩
  | broken done c rest e split _ fails _ result =>
    constructor
    · rintro ⟨-, hok⟩
      rw [result] at hok
      cases hok
    · intro hfine
      have hmem : c ∈ script := by
        rw [split]
        exact List.mem_append_right _ List.mem_cons_self
      rw [hfine c hmem] at fails
      cases fails

/-- A run that fails ends at the first call that fails. -/
theorem of_error {e : Error} (h : Follows fault? script a x) (hresult : x.result = .error e) :
    ∃ done c, x.calls = done ++ [c] ∧ (∀ d ∈ done, fault? d = none) ∧ fault? c = some e := by
  cases h with
  | complete _ _ result =>
    rw [result] at hresult
    cases hresult
  | broken done c rest e' _ fine fails calls result =>
    rw [result] at hresult
    cases hresult
    exact ⟨done, c, calls, fine, fails⟩

/-- A run that comes to a value has made every call. -/
theorem of_ok {v : α} (h : Follows fault? script a x) (hresult : x.result = .ok v) :
    x.calls = script ∧ v = a := by
  cases h with
  | complete _ calls result =>
    rw [result] at hresult
    cases hresult
    exact ⟨calls, rfl⟩
  | broken _ _ _ _ _ _ _ _ result =>
    rw [result] at hresult
    cases hresult

end Follows

/-! ## Runs that agree -/

/-- Two runs report the same and come to the same. -/
structure Agrees (x y : Run α) : Prop where
  diagnostics : x.diagnostics = y.diagnostics
  result : x.result = y.result

namespace Agrees

variable {y z : Run α} {g : α → Run β}

theorem refl (x : Run α) : Agrees x x := ⟨rfl, rfl⟩

theorem symm (h : Agrees x y) : Agrees y x := ⟨h.diagnostics.symm, h.result.symm⟩

theorem trans (hxy : Agrees x y) (hyz : Agrees y z) : Agrees x z :=
  ⟨hxy.diagnostics.trans hyz.diagnostics, hxy.result.trans hyz.result⟩

/-- A call that is answered agrees with its answer. -/
theorem ask (call : Call) (a : α) : Agrees (Run.ask call (.ok a)) (pure a) := ⟨rfl, rfl⟩

/-- **Runs one after the other agree if they agree each.** -/
theorem bind (hx : Agrees x y) (hf : ∀ a, Agrees (f a) (g a)) : Agrees (x >>= f) (y >>= g) := by
  obtain ⟨events, result⟩ := x
  obtain ⟨events', result'⟩ := y
  obtain ⟨hdiagnostics, hresult⟩ := hx
  simp only at hresult
  subst hresult
  cases result with
  | error e => exact ⟨hdiagnostics, rfl⟩
  | ok a =>
    obtain ⟨hrest, hresult⟩ := hf a
    simp only [Run.diagnostics] at hdiagnostics hrest
    constructor
    · simp only [bind_ok, Run.diagnostics, List.filterMap_append, hdiagnostics, hrest]
    · exact hresult

/-- **Runs for the elements of a list agree if those for each element do.** -/
theorem mapM {γ : Type} {l : List γ} {run run' : γ → Run α}
    (h : ∀ c ∈ l, Agrees (run c) (run' c)) : Agrees (l.mapM run) (l.mapM run') := by
  induction l with
  | nil => exact refl _
  | cons c l ih =>
    rw [List.mapM_cons, List.mapM_cons]
    have htail := ih fun d hd => h d (List.mem_cons_of_mem c hd)
    exact (h c List.mem_cons_self).bind fun a => htail.bind fun as => refl (pure (a :: as))

/-- Runs for the elements of a list agree with their values if each of them does. -/
theorem mapM_pure {γ : Type} {l : List γ} {run : γ → Run α} {value : γ → α}
    (h : ∀ c ∈ l, Agrees (run c) (pure (value c))) :
    Agrees (l.mapM run) (pure (l.map value)) := by
  have hmapM := mapM h
  rwa [List.mapM_pure] at hmapM

end Agrees

/-! ## Runs that only report -/

/-- The run that reports a list and comes to a result. -/
def told (list : List Diagnostic) (result : Except Error α) : Run α := ⟨list.map .reported, result⟩

@[simp] theorem diagnostics_told (list : List Diagnostic) (result : Except Error α) :
    (told list result).diagnostics = list := by
  rw [diagnostics, told, List.filterMap_map]
  exact List.filterMap_some

@[simp] theorem result_told (list : List Diagnostic) (result : Except Error α) :
    (told list result).result = result := rfl

section

variable {list more : List Diagnostic}

/-- **Runs one after the other tell what each of them tells.** -/
theorem told_bind {result : Except Error β} (hx : x = told list (.ok a))
    (hf : f a = told more result) : x >>= f = told (list ++ more) result := by
  rw [hx, told, bind_ok, hf, told, told, List.map_append]

/-- A value that is at hand is passed on. -/
theorem ofExcept_bind (a : α) (f : α → Run β) : ofExcept (.ok a) >>= f = f a := rfl

/-- What a run comes to may be changed in the end. -/
theorem told_bind_pure (hx : x = told list (.ok a)) (g : α → β) :
    (x >>= fun a => pure (g a)) = told list (.ok (g a)) := by
  rw [hx, told, bind_ok, pure_eq, List.append_nil]
  rfl

theorem told_bind_error {e : Error} (hx : x = told list (.error e)) :
    x >>= f = told list (.error e) := by
  rw [hx]
  rfl

/-- **The runs for the elements of a list tell what each of them tells.** -/
theorem mapM_told {γ : Type} {l : List γ} {g : γ → Run α} {lists : γ → List Diagnostic}
    {value : γ → α} (h : ∀ c ∈ l, g c = told (lists c) (.ok (value c))) :
    l.mapM g = told (l.flatMap lists) (.ok (l.map value)) := by
  induction l with
  | nil => rfl
  | cons c l ih =>
    have htail : (l.mapM g >>= fun bs => pure (value c :: bs))
        = told (l.flatMap lists) (.ok (value c :: l.map value)) :=
      told_bind_pure (ih fun d hd => h d (List.mem_cons_of_mem c hd)) (value c :: ·)
    rw [List.mapM_cons, told_bind (h c List.mem_cons_self) htail, List.flatMap_cons, List.map_cons]

end

end Run

end ValidatorGen
