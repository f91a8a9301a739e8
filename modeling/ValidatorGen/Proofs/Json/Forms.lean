/-
The forms of a stored record. A record may be stored with its fields in another order, without
fields that hold their default, with fields that it does not have, and with other forms of what its
fields hold (`Form`). **Every form of a record is decoded to the record**
(`IsLossless.decode_form`).

Each way of changing a form leaves one that stands for the record (`Form.standsFor`): every member
is given at most once, as it is stored or in another form of that, and one that is not given has its
default. Putting the fields makes each member that is given what it is in the record, and keeps all
others (`putFields_result`). Since the members tell records apart, just one record can come out.
-/
import Mathlib.Data.List.Nodup
import Mathlib.Data.List.Perm.Basic
import ValidatorGen.Proofs.Json.Codecs
import ValidatorGen.Proofs.Json.Record

namespace ValidatorGen.Json

section

variable {ρ α : Type}

/-- The forms that a stored record may have. `nested` says which other forms of its content may
stand for the field of a name. -/
inductive Form (members : List (Member ρ)) (blank : ρ) (nested : ρ → String → Value → Prop)
    (a : ρ) : Value → Prop
  /-- The record as it is stored. -/
  | stored : Form members blank nested a (.record (members.map fun m => (m.name, m.content a)))
  /-- A form with its fields in another order. -/
  | permuted {fs fs' : List (String × Value)} (h : Form members blank nested a (.record fs))
    (hperm : fs.Perm fs') : Form members blank nested a (.record fs')
  /-- A form without a field that has its default. -/
  | leftOut {before after : List (String × Value)} {m : Member ρ} {v : Value}
    (h : Form members blank nested a (.record (before ++ (m.name, v) :: after)))
    (hm : m ∈ members) (hpresence : m.presence = .defaulted)
    (hdefault : m.content a = m.content blank) :
    Form members blank nested a (.record (before ++ after))
  /-- A form with a field of a name that the record does not have. -/
  | added {before after : List (String × Value)} {name : String} (v : Value)
    (h : Form members blank nested a (.record (before ++ after)))
    (hname : name ∉ members.map fun m => m.name) :
    Form members blank nested a (.record (before ++ (name, v) :: after))
  /-- A form with another form of what a field holds. -/
  | within {before after : List (String × Value)} {name : String} {v v' : Value}
    (h : Form members blank nested a (.record (before ++ (name, v) :: after)))
    (hnested : nested a name v') :
    Form members blank nested a (.record (before ++ (name, v') :: after))

/-- No field holds anything that has other forms. -/
def Flat (_ : ρ) (_ : String) (_ : Value) : Prop := False

/-- The content of a member, or another form of it. -/
def Member.Gives (nested : ρ → String → Value → Prop) (a : ρ) (m : Member ρ) (v : Value) : Prop :=
  v = m.content a ∨ nested a m.name v

/-- A value makes the member what it is in the record `a`, and keeps all other members. -/
def Member.Takes (members : List (Member ρ)) (r : Reading) (a : ρ) (m : Member ρ) (v : Value) :
    Prop :=
  ∀ b, ∃ b', m.put r v.reread b = .ok b' ∧ m.content b' = m.content a ∧
    ∀ m' ∈ members, m'.name ≠ m.name → m'.content b' = m'.content b

/-- The members of records that are read back: each is named once and takes all that is given for
it, with room for so many levels, and together they tell records apart. -/
structure IsLossless (members : List (Member ρ)) (nested : ρ → String → Value → Prop)
    (levels : Nat) : Prop where
  names : (members.map fun m => m.name).Nodup
  takes : ∀ m ∈ members, ∀ r a v, r.Fits levels → m.Gives nested a v → m.Takes members r a v
  ext : ∀ a b, (∀ m ∈ members, m.content a = m.content b) → a = b

/-- Some fields give each known name at most once, and what they do not give has its default. -/
structure StandsFor (members : List (Member ρ)) (blank : ρ) (nested : ρ → String → Value → Prop)
    (a : ρ) (fs : List (String × Value)) : Prop where
  once : ((fs.map Prod.fst).filter (· ∈ members.map fun m => m.name)).Nodup
  gives : ∀ f ∈ fs, ∀ m ∈ members, m.name = f.1 → m.Gives nested a f.2
  missing : ∀ m ∈ members, m.name ∉ fs.map Prod.fst →
    m.presence = .defaulted ∧ m.content a = m.content blank

variable {members : List (Member ρ)} {blank a : ρ} {nested : ρ → String → Value → Prop}
  {levels : Nat} {r : Reading} {v : Value} {fs : List (String × Value)}

/-- A form with fields of other names around its own. -/
theorem Form.surrounded {front back : List (String × Value)}
    (h : Form members blank nested a (.record fs))
    (hnames : ∀ f ∈ front ++ back, f.1 ∉ members.map fun m => m.name) :
    Form members blank nested a (.record (front ++ (fs ++ back))) := by
  induction front with
  | nil =>
    induction back with
    | nil => rwa [List.append_nil]
    | cons f back ih =>
      obtain ⟨hf, hback⟩ := List.forall_mem_cons.mp hnames
      exact .added f.2 (ih hback) hf
  | cons f front ih =>
    obtain ⟨hf, hfront⟩ := List.forall_mem_cons.mp hnames
    have hadded : Form members blank nested a (.record ([] ++ f :: (front ++ (fs ++ back)))) :=
      .added f.2 (ih hfront) hf
    exact hadded

/-! ## What the forms have in common -/

namespace StandsFor

theorem stored (hnames : (members.map fun m => m.name).Nodup) :
    StandsFor members blank nested a (members.map fun m => (m.name, m.content a)) where
  once := by
    rw [List.map_map]
    exact hnames.filter _
  gives := by
    intro f hf m hm hname
    obtain ⟨m', hm', rfl⟩ := List.mem_map.mp hf
    rw [List.inj_on_of_nodup_map hnames hm hm' hname]
    exact .inl rfl
  missing m hm hnot := by
    rw [List.map_map] at hnot
    exact absurd (List.mem_map_of_mem hm) hnot

theorem permuted {fs' : List (String × Value)} (h : StandsFor members blank nested a fs)
    (hperm : fs.Perm fs') : StandsFor members blank nested a fs' where
  once := ((hperm.map Prod.fst).filter _).nodup_iff.mp h.once
  gives f hf := h.gives f (hperm.mem_iff.mpr hf)
  missing m hm hnot := h.missing m hm fun hmem => hnot ((hperm.map Prod.fst).mem_iff.mp hmem)

variable {before after : List (String × Value)} {name : String}

theorem leftOut {m : Member ρ} (hnames : (members.map fun m => m.name).Nodup)
    (h : StandsFor members blank nested a (before ++ (m.name, v) :: after)) (hm : m ∈ members)
    (hpresence : m.presence = .defaulted) (hdefault : m.content a = m.content blank) :
    StandsFor members blank nested a (before ++ after) where
  once := by
    have hsub : (before ++ after).Sublist (before ++ (m.name, v) :: after) :=
      (List.Sublist.refl before).append (List.sublist_cons_self _ after)
    exact h.once.sublist ((hsub.map Prod.fst).filter _)
  gives f hf := h.gives f (by
    rcases List.mem_append.mp hf with hf | hf
    · exact List.mem_append_left _ hf
    · exact List.mem_append_right _ (List.mem_cons_of_mem _ hf))
  missing m' hm' hnot := by
    by_cases hname : m'.name = m.name
    · rw [List.inj_on_of_nodup_map hnames hm' hm hname]
      exact ⟨hpresence, hdefault⟩
    · refine h.missing m' hm' fun hmem => hnot ?_
      simpa [hname] using hmem

theorem added (h : StandsFor members blank nested a (before ++ after))
    (hname : name ∉ members.map fun m => m.name) :
    StandsFor members blank nested a (before ++ (name, v) :: after) where
  once := by
    have hmap : ((before ++ (name, v) :: after).map Prod.fst).filter
        (· ∈ members.map fun m => m.name)
        = ((before ++ after).map Prod.fst).filter (· ∈ members.map fun m => m.name) := by
      simp only [List.map_append, List.map_cons, List.filter_append]
      rw [List.filter_cons_of_neg (by simpa using hname)]
    rw [hmap]
    exact h.once
  gives f hf m hm hf' := by
    rcases List.mem_append.mp hf with hf | hf
    · exact h.gives f (List.mem_append_left _ hf) m hm hf'
    rcases List.mem_cons.mp hf with rfl | hf
    · exact absurd (List.mem_map.mpr ⟨m, hm, hf'⟩) hname
    · exact h.gives f (List.mem_append_right _ hf) m hm hf'
  missing m hm hnot := h.missing m hm fun hmem => hnot (by
    simp only [List.map_append, List.map_cons, List.mem_append, List.mem_cons] at hmem ⊢
    exact hmem.imp_right .inr)

theorem within {v' : Value} (h : StandsFor members blank nested a (before ++ (name, v) :: after))
    (hnested : nested a name v') :
    StandsFor members blank nested a (before ++ (name, v') :: after) where
  once := by simpa using h.once
  gives f hf m hm hf' := by
    rcases List.mem_append.mp hf with hf | hf
    · exact h.gives f (List.mem_append_left _ hf) m hm hf'
    rcases List.mem_cons.mp hf with rfl | hf
    · exact .inr (hf' ▸ hnested)
    · exact h.gives f (List.mem_append_right _ (List.mem_cons_of_mem _ hf)) m hm hf'
  missing m hm hnot := h.missing m hm (by simpa using hnot)

end StandsFor

/-- **Every form of a record stands for it.** -/
theorem Form.standsFor (hnames : (members.map fun m => m.name).Nodup)
    (h : Form members blank nested a v) : ∃ fs, v = .record fs ∧
      StandsFor members blank nested a fs := by
  induction h with
  | stored => exact ⟨_, rfl, .stored hnames⟩
  | permuted _ hperm ih =>
    obtain ⟨_, heq, hfs⟩ := ih
    cases heq
    exact ⟨_, rfl, hfs.permuted hperm⟩
  | leftOut _ hm hpresence hdefault ih =>
    obtain ⟨_, heq, hfs⟩ := ih
    cases heq
    exact ⟨_, rfl, hfs.leftOut hnames hm hpresence hdefault⟩
  | added _ _ hname ih =>
    obtain ⟨_, heq, hfs⟩ := ih
    cases heq
    exact ⟨_, rfl, hfs.added hname⟩
  | within _ hnested ih =>
    obtain ⟨_, heq, hfs⟩ := ih
    cases heq
    exact ⟨_, rfl, hfs.within hnested⟩

/-! ## Putting the fields -/

theorem find?_toSlot (hnames : (members.map fun m => m.name).Nodup) {m : Member ρ}
    (hm : m ∈ members) :
    (members.map Member.toSlot).find? (·.name == m.name) = some m.toSlot := by
  cases hfound : (members.map Member.toSlot).find? (·.name == m.name) with
  | none =>
    have := List.find?_eq_none.mp hfound m.toSlot (List.mem_map_of_mem hm)
    simp at this
  | some s =>
    obtain ⟨m', hm', rfl⟩ := List.mem_map.mp (List.mem_of_find?_eq_some hfound)
    have hname : m'.name = m.name := by simpa using List.find?_some hfound
    rw [List.inj_on_of_nodup_map hnames hm' hm hname]

theorem find?_toSlot_of_not_mem {key : String} (hkey : key ∉ members.map fun m => m.name) :
    (members.map Member.toSlot).find? (·.name == key) = none := by
  rw [List.find?_eq_none]
  intro s hs hname
  obtain ⟨m, hm, rfl⟩ := List.mem_map.mp hs
  exact hkey (List.mem_map.mpr ⟨m, hm, by simpa using hname⟩)

/-- Putting some fields into `b` has led to `b'`: what the fields give is as in `a`, all else is as
it was. -/
structure PutResult (members : List (Member ρ)) (a b : ρ) (names : List String)
    (seen seen' : List String) (b' : ρ) : Prop where
  given : ∀ m ∈ members, m.name ∈ names → m.name ∈ seen' ∧ m.content b' = m.content a
  others : ∀ m ∈ members, m.name ∉ names → m.content b' = m.content b
  seen : ∀ name ∈ seen, name ∈ seen'

/-- **The fields are put one after the other**, if no known name comes twice. -/
theorem putFields_result (hnames : (members.map fun m => m.name).Nodup)
    (htakes : ∀ m ∈ members, ∀ v, m.Gives nested a v → m.Takes members r a v)
    (hgives : ∀ f ∈ fs, ∀ m ∈ members, m.name = f.1 → m.Gives nested a f.2)
    (honce : ((fs.map Prod.fst).filter (· ∈ members.map fun m => m.name)).Nodup)
    (seen : List String) (b : ρ)
    (hseen : ∀ name ∈ fs.map Prod.fst, (name ∈ members.map fun m => m.name) → name ∉ seen) :
    ∃ seen' b', putFields (members.map Member.toSlot) r (fieldsReread fs) seen b
      = .ok (seen', b') ∧ PutResult members a b (fs.map Prod.fst) seen seen' b' := by
  induction fs generalizing seen b with
  | nil => exact ⟨seen, b, rfl, nofun, fun _ _ _ => rfl, fun _ h => h⟩
  | cons f fs ih =>
    obtain ⟨key, v⟩ := f
    have hgives' := fun f hf => hgives f (List.mem_cons_of_mem _ hf)
    simp only [List.map_cons, List.forall_mem_cons] at hseen honce
    by_cases hkey : key ∈ members.map fun m => m.name
    · obtain ⟨m, hm, rfl⟩ := List.mem_map.mp hkey
      rw [List.filter_cons_of_pos (by simpa using hkey), List.nodup_cons] at honce
      obtain ⟨b₁, hput, hcontent, hkept⟩ :=
        htakes m hm v (hgives _ List.mem_cons_self m hm rfl) b
      -- the name does not come again
      have hlater : m.name ∉ fs.map Prod.fst := fun hmem =>
        honce.1 (List.mem_filter.mpr ⟨hmem, by simpa using hkey⟩)
      obtain ⟨seen', b', hrest, hresult⟩ := ih hgives' honce.2 (m.name :: seen) b₁ (by
        intro name hname hknown hmem
        rcases List.mem_cons.mp hmem with rfl | hmem
        · exact hlater hname
        · exact hseen.2 name hname hknown hmem)
      refine ⟨seen', b', ?_, ⟨?_, ?_, ?_⟩⟩
      · have hnew : ¬ seen.contains m.name = true := by simpa using hseen.1 hkey
        simp only [fieldsReread, putFields, find?_toSlot hnames hm, if_neg hnew, hput, hrest]
      · intro m' hm' hmem
        rcases List.mem_cons.mp hmem with hname | hmem
        · rw [List.inj_on_of_nodup_map hnames hm' hm hname]
          refine ⟨hresult.seen _ List.mem_cons_self, ?_⟩
          rw [hresult.others m hm hlater, hcontent]
        · exact hresult.given m' hm' hmem
      · intro m' hm' hnot
        obtain ⟨hname, hnot⟩ := not_or.mp (mt List.mem_cons.mpr hnot)
        rw [hresult.others m' hm' hnot, hkept m' hm' hname]
      · exact fun name hmem => hresult.seen name (List.mem_cons_of_mem _ hmem)
    · rw [List.filter_cons_of_neg (by simpa using hkey)] at honce
      obtain ⟨seen', b', hrest, hresult⟩ := ih hgives' honce seen b hseen.2
      have hother : ∀ m ∈ members, m.name ≠ key := fun m hm heq =>
        hkey (List.mem_map.mpr ⟨m, hm, heq⟩)
      refine ⟨seen', b', ?_, ⟨?_, ?_, hresult.seen⟩⟩
      · simp only [fieldsReread, putFields, find?_toSlot_of_not_mem hkey, skipFault?_reread, hrest]
      · intro m hm hmem
        exact hresult.given m hm ((List.mem_cons.mp hmem).resolve_left (hother m hm))
      · intro m hm hnot
        exact hresult.others m hm fun hmem => hnot (List.mem_cons_of_mem _ hmem)

namespace IsLossless

/-- **Every form of a record is decoded to the record.** -/
theorem decode_form (h : IsLossless members nested levels) (type : String)
    (hr : r.Fits (levels + 1)) (hform : Form members blank nested a v) :
    (Codec.record type members blank).decode r v.reread = .ok a := by
  obtain ⟨fs, rfl, hfs⟩ := hform.standsFor h.names
  obtain ⟨seen, b, hput, hresult⟩ := putFields_result h.names
    (fun m hm v => h.takes m hm r.inside a v hr.inside) hfs.gives hfs.once [] blank
    fun _ _ _ => List.not_mem_nil
  -- what is not given is as in the blank record, and that is as in `a`
  have hb : b = a := by
    refine h.ext b a fun m hm => ?_
    by_cases hmem : m.name ∈ fs.map Prod.fst
    · exact (hresult.given m hm hmem).2
    · rw [hresult.others m hm hmem, (hfs.missing m hm hmem).2]
  have hcheck : checkSeen (members.map Member.toSlot) seen = .ok () := by
    rw [checkSeen, List.find?_eq_none.mpr]
    intro s hs hmissing
    obtain ⟨m, hm, rfl⟩ := List.mem_map.mp hs
    simp only [Bool.and_eq_true, beq_iff_eq, Bool.not_eq_true', List.contains_eq_mem,
      decide_eq_false_iff_not] at hmissing
    by_cases hmem : m.name ∈ fs.map Prod.fst
    · exact hmissing.2 (hresult.given m hm hmem).1
    · rw [(hfs.missing m hm hmem).1] at hmissing
      cases hmissing.1
  show recordOf type (members.map Member.toSlot) blank r (.record (fieldsReread fs) .closed) = .ok a
  rw [recordOf, hput, hb]
  simp only [bind, Except.bind, Ending.fault?, checkNone, hcheck]

/-- **Every text of every form of a record is decoded to the record.** -/
theorem decodeText_form (h : IsLossless members nested levels) (type : String)
    (hlevels : levels + 1 ≤ depthLimit) (hform : Form members blank nested a v) {text : String}
    (htext : text ∈ v.texts) : decodeText (Codec.record type members blank).decode text = .ok a :=
  (decodeText_of_mem_texts _ htext).trans (h.decode_form type (Reading.fits_stream hlevels) hform)

/-- A record is read back from what is stored. -/
theorem lawful (h : IsLossless members nested levels) (type : String) :
    (Codec.record type members blank).Lawful (levels + 1) :=
  fun _ _ hr => h.decode_form type hr .stored

end IsLossless

/-! ## Members -/

variable {name : String} {presence : Presence} {c : Codec α} {get : ρ → α} {set : α → ρ → ρ}

@[simp] theorem Member.name_of : (Member.of name presence c get set).name = name := rfl

@[simp] theorem Member.content_of (b : ρ) :
    (Member.of name presence c get set).content b = c.encode (get b) := rfl

/-- A member takes what is decoded to its part of the record, if it sets that part and no other. -/
theorem Member.takes_of (hdecode : c.decode r v.reread = .ok (get a))
    (hget : ∀ x b, get (set x b) = x)
    (hothers : ∀ m ∈ members, m.name ≠ name → ∀ x b, m.content (set x b) = m.content b) :
    (Member.of name presence c get set).Takes members r a v := by
  intro b
  refine ⟨set (get a) b, ?_, ?_, fun m hm hname => hothers m hm hname _ b⟩
  · show (c.decode r v.reread).map (fun x => set x b) = _
    rw [hdecode]
    rfl
  · rw [content_of, content_of, hget]

/-- A member of a flat record takes what is stored for it, if its codec is lawful. -/
theorem Member.takes_flat (hc : c.Lawful levels) (hget : ∀ x b, get (set x b) = x)
    (hothers : ∀ m ∈ members, m.name ≠ name → ∀ x b, m.content (set x b) = m.content b) :
    ∀ r a v, r.Fits levels → (Member.of name presence c get set).Gives Flat a v →
      (Member.of name presence c get set).Takes members r a v := by
  intro r a v hr hgives
  rcases hgives with rfl | hnested
  · exact takes_of (hc r (get a) hr) hget hothers
  · cases hnested

end

end ValidatorGen.Json
