/-
What scripts change. A path leads to one place (`Path.place`), whatever the tree is, if it leads
anywhere; an operation on it puts a file there, or directories where nothing was. **So a script
changes files at the places of its own paths only** (`Script.ChangesAt`, step by step and put
together by `bind`), and what was written stays to be read as long as nothing else is written there
(`ChangesAt.readText_eq`).
-/
import ValidatorGen.Files.Script

namespace ValidatorGen

/-- The place that a path leads to. -/
def Path.place (p : Path) : Place := p.names.foldl Place.next (FileTree.start p)

namespace FileTree

/-- A tree with files put at some places of another one, and directories where nothing was. -/
structure ChangesAt (places : List Place) (t t' : FileTree) : Prop where
  directories : ∀ q, t.at? q = some .directory → t'.at? q = some .directory
  files : ∀ q, (t.text? q).isSome → (t'.text? q).isSome
  others : ∀ q, q ∉ places → t'.text? q = t.text? q

end FileTree

/-! ## Places of paths -/

section

variable {p : Path}

theorem mem_next {here : Place} {name : String} {x : String} (h : x ∈ Place.next here name) :
    x ∈ here ∨ x = name ∨ x = ".." ∨ x = "/" := by
  rw [Place.next] at h
  split at h
  · rw [Place.outer] at h
    split at h
    · simp_all
    · split at h
      · simp_all
      · grind
      · exact .inl (List.dropLast_subset _ h)
  · simp only [List.mem_append, List.mem_singleton] at h
    exact h.imp_right .inl

/-- A place is told by the names of its path, but for the root and ways back. -/
theorem mem_place {x : String} (h : x ∈ p.place) : x ∈ p.names ∨ x = ".." ∨ x = "/" := by
  have hfold : ∀ (names : List String) (here : Place), x ∈ names.foldl Place.next here →
      x ∈ here ∨ x ∈ names ∨ x = ".." ∨ x = "/" := by
    intro names
    induction names with
    | nil => exact fun here h => .inl h
    | cons name names ih =>
      intro here h
      rcases ih _ h with h | h | h
      · rcases mem_next h with h | rfl | h
        · exact .inl h
        · exact .inr (.inl List.mem_cons_self)
        · exact .inr (.inr h)
      · exact .inr (.inl (List.mem_cons_of_mem _ h))
      · exact .inr (.inr h)
  rcases hfold p.names _ h with h | h
  · rw [FileTree.start] at h
    split at h
    · exact .inr (.inr (by simpa [Place.root] using h))
    · cases h
  · exact h

theorem place_child {name : String} (h : name ≠ "..") :
    (p.child name).place = p.place ++ [name] := by
  rw [Path.place, Path.child, List.foldl_append, List.foldl_cons, List.foldl_nil, Place.next,
    if_neg h]
  rfl

end

namespace FileTree

section

variable {t t' t'' : FileTree} {p : Path} {q : Place} {places places' : List Place} {text : String}

/-! ## Reading -/

theorem locate_eq_ok {here : Place} {names : List String} (h : t.locate here names = .ok q) :
    q = names.foldl Place.next here := by
  induction names generalizing here with
  | nil =>
    cases h
    rfl
  | cons name names ih =>
    rw [locate] at h
    split at h
    · exact ih h
    · cases h
    · cases h

/-- A path leads to its place, if it leads anywhere. -/
theorem find_eq_ok (h : t.find p = .ok q) : q = p.place := locate_eq_ok h

theorem locate_of_directories (h : ∀ q, t.at? q = some .directory → t'.at? q = some .directory)
    {here : Place} {names : List String} (hq : t.locate here names = .ok q) :
    t'.locate here names = .ok q := by
  induction names generalizing here with
  | nil => exact hq
  | cons name names ih =>
    rw [locate] at hq ⊢
    split at hq
    · next hhere =>
      rw [h here hhere]
      exact ih hq
    · cases hq
    · cases hq

/-- A file can be read where its path leads to it. -/
theorem readText_eq_ok : t.readText p = .ok text ↔
    t.find p = .ok p.place ∧ t.text? p.place = some text ∧ p.slashed = false := by
  rw [readText]
  cases hfind : t.find p with
  | error fault => simp
  | ok q =>
    obtain rfl := find_eq_ok hfind
    simp only [text?, true_and]
    cases t.at? p.place with
    | none => simp
    | some node => cases node <;> cases p.slashed <;> simp

/-! ## Changes -/

namespace ChangesAt

theorem refl (t : FileTree) : ChangesAt places t t := ⟨fun _ h => h, fun _ h => h, fun _ _ => rfl⟩

/-- **Two changes at given places, one after the other, are a change at these places.** -/
theorem trans (h : ChangesAt places t t') (h' : ChangesAt places t' t'') :
    ChangesAt places t t'' where
  directories q hq := h'.directories q (h.directories q hq)
  files q hq := h'.files q (h.files q hq)
  others q hq := (h'.others q hq).trans (h.others q hq)

theorem mono (h : ChangesAt places t t') (hplaces : places ⊆ places') :
    ChangesAt places' t t' where
  directories := h.directories
  files := h.files
  others q hq := h.others q fun hmem => hq (hplaces hmem)

/-- What is read at a path whose place is not written to stays. -/
theorem readText_eq (h : ChangesAt places t t') (hp : p.place ∉ places)
    (htext : t.readText p = .ok text) : t'.readText p = .ok text := by
  obtain ⟨hfind, hfile, hslashed⟩ := readText_eq_ok.mp htext
  rw [← h.others p.place hp] at hfile
  exact readText_eq_ok.mpr ⟨locate_of_directories h.directories hfind, hfile, hslashed⟩

/-- A file stays a file. -/
theorem exists_readText (h : ChangesAt places t t') (htext : t.readText p = .ok text) :
    ∃ text', t'.readText p = .ok text' := by
  obtain ⟨hfind, hfile, hslashed⟩ := readText_eq_ok.mp htext
  obtain ⟨text', hfile'⟩ := Option.isSome_iff_exists.mp
    (h.files p.place (Option.isSome_iff_exists.mpr ⟨text, hfile⟩))
  exact ⟨text', readText_eq_ok.mpr ⟨locate_of_directories h.directories hfind, hfile', hslashed⟩⟩

end ChangesAt

/-- Making directories changes no file. -/
theorem changesAt_makeDirs (t : FileTree) (p : Path) : ChangesAt places t (t.makeDirs p).1 where
  directories _ hq := at_makeDirsFrom p.names t (start p) hq
  files q hq := by rwa [makeDirs, text_makeDirsFrom]
  others q _ := text_makeDirsFrom q p.names t (start p)

/-- **A file is put at the place of its path**, and can be read there. -/
theorem change_eq_ok {make : Option String → String} (h : t.change p make = .ok t') :
    ChangesAt [p.place] t t' ∧ t'.readText p = .ok (make (t.text? p.place)) := by
  have hput : t.find p = .ok p.place ∧ t.at? p.place ≠ some .directory ∧ p.slashed = false ∧
      t' = t.put p.place (.file (make (t.text? p.place))) := by
    rw [change] at h
    cases hfind : t.find p with
    | error fault => simp [hfind] at h
    | ok q =>
      obtain rfl := find_eq_ok hfind
      simp only [hfind] at h
      rw [text?]
      split at h
      · cases h
      all_goals
        next hnode =>
          split at h
          · cases h
          · next hslashed =>
            cases h
            simp [hnode, hslashed]
  obtain ⟨hfind, hnode, hslashed, rfl⟩ := hput
  have hchanges : ChangesAt [p.place] t (t.put p.place (.file (make (t.text? p.place)))) := by
    refine ⟨fun q hq => ?_, fun q hq => ?_, fun q hq => ?_⟩
    · rwa [at_put_other]
      rintro rfl
      exact hnode hq
    · by_cases heq : q = p.place
      · simp [text?, heq]
      · rwa [text?, at_put_other t heq]
    · rw [text?, at_put_other t (by simpa using hq), text?]
  refine ⟨hchanges, readText_eq_ok.mpr ⟨?_, ?_, hslashed⟩⟩
  · exact locate_of_directories hchanges.directories hfind
  · simp [text?]

end

end FileTree

/-! ## Scripts -/

namespace Script

/-- A script changes files at some places only, and otherwise makes directories. -/
def ChangesAt {ε α : Type} (places : List Place) (s : Script ε α) : Prop :=
  ∀ time t, FileTree.ChangesAt places t (s.run time t).2

section

variable {ε α β : Type} {s : Script ε α} {f : α → Script ε β} {time : Nat} {t t' : FileTree}
  {a : α} {b : β} {e : ε} {places : List Place} {p : Path} {text : String}

theorem run_bind_of_ok (h : s.run time t = (.ok a, t')) :
    (s >>= f).run time t = (f a).run time t' := by
  rw [run_bind, h]

theorem run_bind_of_error (h : s.run time t = (.error e, t')) :
    (s >>= f).run time t = (.error e, t') := by
  rw [run_bind, h]

/-- A script that came to a value did so in both of its parts. -/
theorem exists_of_run_bind (h : (s >>= f).run time t = (.ok b, t')) :
    ∃ a t₁, s.run time t = (.ok a, t₁) ∧ (f a).run time t₁ = (.ok b, t') := by
  rw [run_bind] at h
  split at h
  · cases h
  · next a t₁ hs => exact ⟨a, t₁, hs, h⟩

namespace ChangesAt

theorem done (result : Except ε α) : ChangesAt places (Script.done result) := fun _ t => .refl t

/-- **Scripts that change files at given places do so one after the other as well.** -/
theorem bind (hs : s.ChangesAt places) (hf : ∀ a, (f a).ChangesAt places) :
    (s >>= f).ChangesAt places := by
  intro time t
  have hfirst := hs time t
  rw [run_bind]
  split
  · next e t₁ hrun => rwa [hrun] at hfirst
  · next a t₁ hrun =>
    rw [hrun] at hfirst
    exact hfirst.trans (hf a time t₁)

theorem clock {next : Nat → Script ε α} (h : ∀ n, (next n).ChangesAt places) :
    (Script.clock next).ChangesAt places := fun time t => h time time t

theorem makeDirs {next : Except FileFault Unit → Script ε α}
    (h : ∀ result, (next result).ChangesAt places) : (Script.makeDirs p next).ChangesAt places :=
  fun time t => .trans ((FileTree.changesAt_makeDirs t p).mono (List.nil_subset _)) (h _ time _)

theorem append {next : Except FileFault Unit → Script ε α} (hp : p.place ∈ places)
    (h : ∀ result, (next result).ChangesAt places) :
    (Script.append p text next).ChangesAt places := by
  intro time t
  rw [run]
  split
  · exact h _ time t
  · next t' happend =>
    exact .trans ((FileTree.change_eq_ok happend).1.mono (by simpa using hp)) (h _ time t')

end ChangesAt

end

end Script

end ValidatorGen
