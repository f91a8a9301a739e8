/-
Reading a record field by field. Where just one slot bears on a part of the record (`Owns`), that
part comes out as the document has it (`recordOf_fills`): **decoded from what the document gives
for the field, or as it was before if the document gives nothing**. Other fields of the document
do not matter. An object gives a field by its name (`putFields_fills`), an array by the place of
its slot (`putItems_fills`).
-/
import Mathlib.Data.List.Nodup
import Mathlib.Tactic.MkIffOfInductiveProp
import ValidatorGen.Json.Codec

namespace ValidatorGen.Json

/-- What a document gives for a field: in an object by name, in an array by the place that the name
has among all names. -/
def Document.given? (names : List String) (name : String) : Document → Option Document
  | .record fields _ => fields.lookup (some name)
  | .list items _ => items[names.idxOf name]?
  | _ => none

/-- A value is decoded from what is given, or left as it was if nothing is. -/
def Fills {α : Type} (dec : Document → Except DecodeFault α) (before after : α) :
    Option Document → Prop
  | none => after = before
  | some d => dec d = .ok after

section

variable {ρ α β : Type} {slots : List (Slot ρ)} {s : Slot ρ} {name : String} {dec : Decoder α}
  {get : ρ → α} {record record' : ρ} {r : Reading}

/-- A slot leaves a part of the record as it is. -/
def Slot.Keeps (s : Slot ρ) (get : ρ → α) : Prop :=
  ∀ r d before after, s.put r d before = .ok after → get after = get before

/-- A slot puts what it decodes into a part of the record. -/
def Slot.Puts (s : Slot ρ) (dec : Decoder α) (get : ρ → α) : Prop :=
  ∀ r d before after, s.put r d before = .ok after → dec r d = .ok (get after)

/-- Of all slots, just the one of the name bears on a part of the record. -/
@[mk_iff]
structure Owns (slots : List (Slot ρ)) (name : String) (dec : Decoder α) (get : ρ → α) : Prop where
  mem : name ∈ slots.map Slot.name
  puts : ∀ s ∈ slots, s.name = name → s.Puts dec get
  keeps : ∀ s ∈ slots, s.name ≠ name → s.Keeps get

/-! ## Slots -/

@[simp] theorem Slot.name_of {presence : Presence} {set : α → ρ → ρ} :
    (Slot.of name presence dec set).name = name := rfl

@[simp] theorem Member.toSlot_of {presence : Presence} {codec : Codec α} {set : α → ρ → ρ} :
    (Member.of name presence codec get set).toSlot = Slot.of name presence codec.decode set := rfl

theorem ok_of_bind {ε : Type} {x : Except ε α} {f : α → Except ε β} {b : β}
    (h : (x >>= f) = .ok b) : ∃ a, x = .ok a ∧ f a = .ok b := by
  cases x with
  | error e => cases h
  | ok a => exact ⟨a, rfl, h⟩

theorem Slot.put_of_eq_ok {presence : Presence} {dec : Decoder β} {set : β → ρ → ρ} {d : Document}
    (h : (Slot.of name presence dec set).put r d record = .ok record') :
    ∃ v, dec r d = .ok v ∧ record' = set v record := by
  simp only [Slot.of] at h
  cases hv : dec r d with
  | error e =>
    rw [hv] at h
    cases h
  | ok v =>
    rw [hv] at h
    cases h
    exact ⟨v, rfl, rfl⟩

theorem Slot.keeps_of {presence : Presence} {dec : Decoder β} {set : β → ρ → ρ}
    (h : ∀ v a, get (set v a) = get a) : (Slot.of name presence dec set).Keeps get := by
  intro r d before after hput
  obtain ⟨v, -, rfl⟩ := Slot.put_of_eq_ok hput
  exact h v before

theorem Slot.puts_of {presence : Presence} {set : α → ρ → ρ} (h : ∀ v a, get (set v a) = v) :
    (Slot.of name presence dec set).Puts dec get := by
  intro r d before after hput
  obtain ⟨v, hv, rfl⟩ := Slot.put_of_eq_ok hput
  rw [h]
  exact hv

theorem Owns.tail (h : Owns (s :: slots) name dec get) (hne : s.name ≠ name) :
    Owns slots name dec get where
  mem := by
    rcases List.mem_cons.mp h.mem with heq | hmem
    · exact absurd heq.symm hne
    · exact hmem
  puts s hs := h.puts s (List.mem_cons_of_mem _ hs)
  keeps s hs := h.keeps s (List.mem_cons_of_mem _ hs)

/-- Behind its slot nothing bears on the part. -/
theorem Owns.keeps_tail (h : Owns (s :: slots) name dec get)
    (hnodup : ((s :: slots).map Slot.name).Nodup) (hname : s.name = name) :
    ∀ s' ∈ slots, s'.Keeps get := by
  intro s' hs'
  refine h.keeps s' (List.mem_cons_of_mem _ hs') fun heq => ?_
  have hmem : s.name ∈ slots.map Slot.name := by
    rw [hname, ← heq]
    exact List.mem_map_of_mem hs'
  exact (List.nodup_cons.mp hnodup).1 hmem

/-! ## Objects -/

/-- A field that was put is not put again. -/
theorem putFields_seen (h : Owns slots name dec get) {fields : List (Option String × Document)}
    {seen seen' : List String} (hseen : name ∈ seen)
    (hok : putFields slots r fields seen record = .ok (seen', record')) :
    get record' = get record := by
  fun_induction putFields slots r fields seen record
  case case1 =>
    cases hok
    rfl
  case case2 | case3 | case5 | case6 => cases hok
  case case4 ih => exact ih hseen hok
  case case7 key d fields seen record slot hslot hnot next hput ih =>
    have hname : slot.name = key := by simpa using List.find?_some hslot
    have hne : slot.name ≠ name := by
      rintro rfl
      exact hnot (List.elem_iff.mpr (hname ▸ hseen))
    rw [ih (List.mem_cons_of_mem _ hseen) hok]
    exact h.keeps slot (List.mem_of_find?_eq_some hslot) hne _ _ _ _ hput

/-- **An object fills a part by its name.** -/
theorem putFields_fills (h : Owns slots name dec get) {fields : List (Option String × Document)}
    {seen seen' : List String} (hseen : name ∉ seen)
    (hok : putFields slots r fields seen record = .ok (seen', record')) :
    Fills (dec r) (get record) (get record') (fields.lookup (some name)) := by
  fun_induction putFields slots r fields seen record
  case case1 =>
    cases hok
    exact rfl
  case case2 | case3 | case5 | case6 => cases hok
  case case4 key d fields seen record hnone _ ih =>
    -- a name without a slot is another one
    have hne : some name ≠ some key := by
      intro heq
      obtain ⟨s, hs, hname⟩ := List.mem_map.mp h.mem
      have := List.find?_eq_none.mp hnone s hs
      exact this (by simpa [hname] using heq)
    rw [List.lookup_cons, beq_eq_false_iff_ne.mpr hne]
    exact ih hseen hok
  case case7 key d fields seen record slot hslot hnot next hput ih =>
    have hmem := List.mem_of_find?_eq_some hslot
    have hname : slot.name = key := by simpa using List.find?_some hslot
    by_cases heq : key = name
    · subst heq
      rw [List.lookup_cons, beq_self_eq_true]
      show dec r d = .ok (get record')
      rw [putFields_seen h List.mem_cons_self hok]
      exact h.puts slot hmem hname _ _ _ _ hput
    · have hne : some name ≠ some key := fun h => heq (Option.some.inj h).symm
      have hkept := h.keeps slot hmem (hname ▸ heq) _ _ _ _ hput
      rw [List.lookup_cons, beq_eq_false_iff_ne.mpr hne, ← hkept]
      exact ih (mt List.mem_cons.mp (not_or.mpr ⟨Ne.symm heq, hseen⟩)) hok

/-! ## Arrays -/

section

variable {type : String} {count total index : Nat} {ending : Ending} {items : List Document}

theorem putItems_keeps (h : ∀ s ∈ slots, s.Keeps get)
    (hok : putItems type r count total ending index slots items record = .ok record') :
    get record' = get record := by
  fun_induction putItems type r count total ending index slots items record
  case case1 | case3 | case4 | case6 | case8 | case9 => cases hok
  case case2 | case5 =>
    cases hok
    rfl
  case case7 ih => exact ih (fun s hs => h s (List.mem_cons_of_mem _ hs)) hok
  case case10 slot slots d ds record next hput ih =>
    rw [ih (fun s hs => h s (List.mem_cons_of_mem _ hs)) hok]
    exact h slot List.mem_cons_self _ _ _ _ hput

/-- **An array fills a part by the place of its slot.** -/
theorem putItems_fills (h : Owns slots name dec get) (hnodup : (slots.map Slot.name).Nodup)
    (hok : putItems type r count total ending index slots items record = .ok record') :
    Fills (dec r) (get record) (get record') items[(slots.map Slot.name).idxOf name]? := by
  fun_induction putItems type r count total ending index slots items record
  case case1 | case2 | case3 | case4 | case5 => exact absurd h.mem List.not_mem_nil
  case case6 | case8 | case9 => cases hok
  case case7 slot slots record _ _ ih =>
    rw [List.getElem?_nil]
    by_cases hname : slot.name = name
    · exact putItems_keeps (h.keeps_tail hnodup hname) hok
    · have hrest := ih (h.tail hname) (List.nodup_cons.mp hnodup).2 hok
      rwa [List.getElem?_nil] at hrest
  case case10 slot slots d ds record next hput ih =>
    rw [List.map_cons]
    by_cases hname : slot.name = name
    · rw [hname, List.idxOf_cons_self, List.getElem?_cons_zero]
      show dec r d = .ok (get record')
      rw [putItems_keeps (h.keeps_tail hnodup hname) hok]
      exact h.puts slot List.mem_cons_self hname _ _ _ _ hput
    · have hkept := h.keeps slot List.mem_cons_self hname _ _ _ _ hput
      rw [List.idxOf_cons_ne _ hname, List.getElem?_cons_succ, ← hkept]
      exact ih (h.tail hname) (List.nodup_cons.mp hnodup).2 hok

end

/-- **A record comes out part by part as the document gives its fields**; what the document does
not give is as in the blank record. -/
theorem recordOf_fills {type : String} {blank : ρ} {d : Document} (h : Owns slots name dec get)
    (hnodup : (slots.map Slot.name).Nodup)
    (hok : recordOf type slots blank r d = .ok record) :
    Fills (dec r.inside) (get blank) (get record) (d.given? (slots.map Slot.name) name) := by
  cases d with
  | record fields ending =>
    obtain ⟨⟨seen, record'⟩, hput, hrest⟩ := ok_of_bind hok
    obtain ⟨_, -, hrest⟩ := ok_of_bind hrest
    obtain ⟨_, -, hrest⟩ := ok_of_bind hrest
    cases hrest
    exact putFields_fills h List.not_mem_nil hput
  | list items ending => exact putItems_fills h hnodup hok
  | null | bool _ | cut _ => cases hok
  | number n => cases n <;> cases hok
  | text t => cases t <;> cases hok

/-- A field is filled in where the record is itself a field, or left blank. -/
theorem Fills.field {type : String} {blank : ρ} {given : Option Document}
    (h : Owns slots name dec get) (hnodup : (slots.map Slot.name).Nodup)
    (hfills : Fills (recordOf type slots blank r) blank record given) :
    Fills (dec r.inside) (get blank) (get record)
      (given.bind (·.given? (slots.map Slot.name) name)) := by
  cases given with
  | none => exact congrArg get hfills
  | some d => exact recordOf_fills h hnodup hfills

end

end ValidatorGen.Json
