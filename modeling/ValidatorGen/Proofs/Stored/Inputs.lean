/-
Stored inputs survive: **rows, filters, selections, configurations and requests are read back from
what is stored of them**, on one line or with one item a line, and rows, selections, configurations
and requests also from every form of it (`stored_inputs_read_back`). Each of these records is
lossless: a field of it is stored by a lawful codec, and setting it sets no other.
-/
import ValidatorGen.Proofs.Json.Forms
import ValidatorGen.Source
import ValidatorGen.Stored.Request

namespace ValidatorGen

open Json

/-! ## Codecs -/

theorem TableKind.lawful_codec : TableKind.codec.Lawful 0 :=
  Codec.lawful_named fun k => by cases k <;> decide

theorem Dialect.lawful_codec : Dialect.codec.Lawful 0 :=
  Codec.lawful_choice fun d => by cases d <;> decide

theorem Casing.lawful_codec : Casing.codec.Lawful 0 :=
  Codec.lawful_choice fun c => by cases c <;> decide

theorem TypeFallback.lawful_codec : TypeFallback.codec.Lawful 0 :=
  Codec.lawful_choice fun f => by cases f <;> decide

theorem TableFilter.text?_list (names : List String) :
    (itemsReread (names.map .text)).mapM text? = some names := by
  induction names with
  | nil => rfl
  | cons name names ih =>
    rw [List.map_cons, itemsReread, List.mapM_cons, ih]
    rfl

theorem TableFilter.itemsFault?_list (room : Nat) (names : List String) :
    itemsFault? room (itemsReread (names.map .text)) = none := by
  induction names with
  | nil => rfl
  | cons name names ih =>
    rw [List.map_cons, itemsReread, itemsFault?, ih]
    rfl

/-- A filter is read back with room for the list that it may be. -/
theorem TableFilter.lawful_codec : TableFilter.codec.Lawful 1 := by
  intro r f hr
  cases f with
  | pattern text => rfl
  | names list =>
    obtain ⟨room, hroom⟩ : ∃ n, r.room = n + 1 := ⟨r.room - 1, by
      simp only [Reading.room, Reading.Fits] at hr ⊢
      omega⟩
    have hfault : (Document.list (itemsReread (list.map .text)) .closed).fault? r.room = none := by
      rw [hroom, Document.fault?, itemsFault?_list]
      rfl
    have hread : ofDocument? (.list (itemsReread (list.map .text)) .closed)
        = some (.names list) := by
      rw [ofDocument?, text?_list]
      rfl
    show TableFilter.codec.decode r (.list (itemsReread (list.map .text)) .closed) = _
    simp only [TableFilter.codec, hfault, hread]

theorem TypeFallback.lawful_nullable_codec : TypeFallback.codec.nullable.Lawful 0 :=
  lawful_codec.nullable fun _ => nofun

theorem TableFilter.lawful_nullable_codec : TableFilter.codec.nullable.Lawful 1 :=
  lawful_codec.nullable fun f => by cases f <;> exact nofun

/-! ## Rows -/

namespace RawColumn

theorem isLossless : IsLossless fields Flat 1 where
  names := by decide
  takes := by
    have htext := Codec.lawful_text.mono (Nat.zero_le 1)
    have hbool := Codec.lawful_bool.mono (Nat.zero_le 1)
    have hoptional := Codec.lawful_nullable_text.mono (Nat.zero_le 1)
    have hlength := Codec.lawful_nullable_uint32.mono (Nat.zero_le 1)
    have hkind := TableKind.lawful_codec.mono (Nat.zero_le 1)
    simp only [fields, List.forall_mem_cons]
    exact ⟨Member.takes_flat htext (fun _ _ => rfl) (by simp),
      Member.takes_flat htext (fun _ _ => rfl) (by simp),
      Member.takes_flat htext (fun _ _ => rfl) (by simp),
      Member.takes_flat hbool (fun _ _ => rfl) (by simp),
      Member.takes_flat hoptional (fun _ _ => rfl) (by simp),
      Member.takes_flat hlength (fun _ _ => rfl) (by simp),
      Member.takes_flat hoptional (fun _ _ => rfl) (by simp),
      Member.takes_flat Codec.lawful_text.list (fun _ _ => rfl) (by simp),
      Member.takes_flat hkind (fun _ _ => rfl) (by simp),
      Member.takes_flat hbool (fun _ _ => rfl) (by simp),
      Member.takes_flat hoptional (fun _ _ => rfl) (by simp), nofun⟩
  ext := by
    intro a b h
    simp only [fields, List.forall_mem_cons, Member.content_of,
      Codec.lawful_text.encode_inj (by decide), Codec.lawful_bool.encode_inj (by decide),
      Codec.lawful_nullable_text.encode_inj (by decide),
      Codec.lawful_nullable_uint32.encode_inj (by decide),
      Codec.lawful_text.list.encode_inj (by decide),
      TableKind.lawful_codec.encode_inj (by decide)] at h
    cases a
    simp_all

/-- What a reported column may be stored as. -/
def StoredAs : RawColumn → Value → Prop := Form fields blank Flat

end RawColumn

/-! ## Options -/

namespace Configuration

theorem isLossless : IsLossless fields Flat 0 where
  names := by decide
  takes := by
    have hbool := Codec.lawful_bool
    simp only [fields, List.forall_mem_cons]
    exact ⟨Member.takes_flat Dialect.lawful_codec (fun _ _ => rfl) (by simp),
      Member.takes_flat Casing.lawful_codec (fun _ _ => rfl) (by simp),
      Member.takes_flat Casing.lawful_codec (fun _ _ => rfl) (by simp),
      Member.takes_flat hbool (fun _ _ => rfl) (by simp),
      Member.takes_flat hbool (fun _ _ => rfl) (by simp),
      Member.takes_flat hbool (fun _ _ => rfl) (by simp),
      Member.takes_flat hbool (fun _ _ => rfl) (by simp),
      Member.takes_flat hbool (fun _ _ => rfl) (by simp),
      Member.takes_flat hbool (fun _ _ => rfl) (by simp),
      Member.takes_flat hbool (fun _ _ => rfl) (by simp),
      Member.takes_flat TypeFallback.lawful_nullable_codec (fun _ _ => rfl) (by simp),
      Member.takes_flat Codec.lawful_nullable_text (fun _ _ => rfl) (by simp), nofun⟩
  ext := by
    intro a b h
    simp only [fields, List.forall_mem_cons, Member.content_of,
      Dialect.lawful_codec.encode_inj (by decide), Casing.lawful_codec.encode_inj (by decide),
      Codec.lawful_bool.encode_inj (by decide),
      TypeFallback.lawful_nullable_codec.encode_inj (by decide),
      Codec.lawful_nullable_text.encode_inj (by decide)] at h
    cases a
    simp_all

/-- What a configuration may be stored as. -/
def StoredAs : Configuration → Value → Prop := Form fields {} Flat

end Configuration

namespace Selection

theorem isLossless : IsLossless fields Flat 1 where
  names := by decide
  takes := by
    have hname := Codec.lawful_text.mono (Nat.zero_le 1)
    simp only [fields, List.forall_mem_cons]
    exact ⟨Member.takes_flat hname (fun _ _ => rfl) (by simp),
      Member.takes_flat TableFilter.lawful_nullable_codec (fun _ _ => rfl) (by simp),
      Member.takes_flat TableFilter.lawful_nullable_codec (fun _ _ => rfl) (by simp), nofun⟩
  ext := by
    intro a b h
    simp only [fields, List.forall_mem_cons, Member.content_of,
      Codec.lawful_text.encode_inj (by decide),
      TableFilter.lawful_nullable_codec.encode_inj (by decide)] at h
    cases a
    simp_all

/-- What a selection may be stored as. -/
def StoredAs : Selection → Value → Prop := Form fields {} Flat

end Selection

namespace Request

/-- What the two parts of a request may be stored as. -/
def Nested (request : Request) (name : String) (v : Value) : Prop :=
  name = "options" ∧ request.selection.StoredAs v ∨ name = "config" ∧ request.config.StoredAs v

theorem isLossless : IsLossless fields Nested 2 where
  names := by decide
  takes := by
    simp only [fields, List.forall_mem_cons]
    refine ⟨fun r a v hr hgives => ?_, fun r a v hr hgives => ?_, nofun⟩
    · have hform : a.selection.StoredAs v := by
        rcases hgives with rfl | ⟨-, h⟩ | ⟨hname, -⟩
        · exact .stored
        · exact h
        · exact absurd hname (by decide)
      exact Member.takes_of (Selection.isLossless.decode_form _ hr hform) (fun _ _ => rfl) (by simp)
    · have hform : a.config.StoredAs v := by
        rcases hgives with rfl | ⟨hname, -⟩ | ⟨-, h⟩
        · exact .stored
        · exact absurd hname (by decide)
        · exact h
      have hr : r.Fits 1 := by
        simp only [Reading.Fits] at hr ⊢
        omega
      exact Member.takes_of (Configuration.isLossless.decode_form _ hr hform) (fun _ _ => rfl)
        (by simp)
  ext := by
    intro a b h
    have hselection : Selection.codec.Lawful 2 := Selection.isLossless.lawful _
    have hconfig : Configuration.codec.Lawful 1 := Configuration.isLossless.lawful _
    simp only [fields, List.forall_mem_cons, Member.content_of,
      hselection.encode_inj (by decide), hconfig.encode_inj (by decide)] at h
    cases a
    simp_all

/-- What a request may be stored as. -/
def StoredAs : Request → Value → Prop := Form fields {} Nested

end Request

/-! ## Texts -/

/-- Rows are read from every text of what they may be stored as. -/
theorem Source.parseRows_storedAs {columns : List RawColumn} {vs : List Value}
    (h : List.Forall₂ RawColumn.StoredAs columns vs) {text : String}
    (htext : text ∈ (Value.list vs).texts) : parseRows text = .ok columns := by
  have hroom : Reading.stream.inside.Fits 2 :=
    (Reading.fits_stream (by decide : 3 ≤ depthLimit)).inside
  have hdecode : (Codec.list RawColumn.codec).decode .stream (Value.list vs).reread
      = .ok columns :=
    listOf_reread (h.imp fun _ _ hform => RawColumn.isLossless.decode_form _ hroom hform)
  rw [parseRows, decodeText_of_mem_texts _ htext, hdecode]
  rfl

/-- **Stored inputs survive.** Rows, filters, selections, configurations and requests are read back
from either text of what is stored of them; rows, selections, configurations and requests also if
the fields of any of their records are put in another order, if fields that have their default are
left out, and if fields of other names are added, whatever these hold. -/
theorem stored_inputs_read_back :
    (∀ columns : List RawColumn, ∀ text ∈ ((Codec.list RawColumn.codec).encode columns).texts,
      Source.parseRows text = .ok columns) ∧
    (∀ filter : TableFilter, ∀ text ∈ (TableFilter.codec.encode filter).texts,
      decodeText TableFilter.codec.decode text = .ok filter) ∧
    (∀ selection : Selection, ∀ text ∈ (Selection.codec.encode selection).texts,
      decodeText Selection.codec.decode text = .ok selection) ∧
    (∀ config : Configuration, ∀ text ∈ (Configuration.codec.encode config).texts,
      decodeText Configuration.codec.decode text = .ok config) ∧
    (∀ request : Request, ∀ text ∈ (Request.codec.encode request).texts,
      decodeText Request.codec.decode text = .ok request) ∧
    (∀ (columns : List RawColumn) (vs : List Value), List.Forall₂ RawColumn.StoredAs columns vs →
      ∀ text ∈ (Value.list vs).texts, Source.parseRows text = .ok columns) ∧
    (∀ (selection : Selection) (v : Value), selection.StoredAs v → ∀ text ∈ v.texts,
      decodeText Selection.codec.decode text = .ok selection) ∧
    (∀ (config : Configuration) (v : Value), config.StoredAs v → ∀ text ∈ v.texts,
      decodeText Configuration.codec.decode text = .ok config) ∧
    (∀ (request : Request) (v : Value), request.StoredAs v → ∀ text ∈ v.texts,
      decodeText Request.codec.decode text = .ok request) := by
  have hselection : ∀ (selection : Selection) (v : Value), selection.StoredAs v →
      ∀ text ∈ v.texts, decodeText Selection.codec.decode text = .ok selection :=
    fun _ _ h _ => Selection.isLossless.decodeText_form _ (by decide) h
  have hconfig : ∀ (config : Configuration) (v : Value), config.StoredAs v →
      ∀ text ∈ v.texts, decodeText Configuration.codec.decode text = .ok config :=
    fun _ _ h _ => Configuration.isLossless.decodeText_form _ (by decide) h
  have hrequest : ∀ (request : Request) (v : Value), request.StoredAs v →
      ∀ text ∈ v.texts, decodeText Request.codec.decode text = .ok request :=
    fun _ _ h _ => Request.isLossless.decodeText_form _ (by decide) h
  refine ⟨fun columns text htext => ?_, fun filter text htext => ?_,
    fun s => hselection s _ .stored, fun c => hconfig c _ .stored, fun r => hrequest r _ .stored,
    fun _ _ h _ htext => Source.parseRows_storedAs h htext, hselection, hconfig, hrequest⟩
  · refine Source.parseRows_storedAs ?_ htext
    rw [List.forall₂_map_right_iff]
    exact List.forall₂_same.mpr fun c _ => .stored
  · exact TableFilter.lawful_codec.decodeText (by decide) htext

/-- A request for one table, all else as it is when nothing is set. -/
def appRequest : Request :=
  { selection := { schemaName := "app", included := some (.names ["users"]) } }

/-- The request without its configuration and its last filter, the other two options in another
order, and with fields that neither a request nor a selection has. -/
def appForm : Value := .record [("note", .list [.int 1, .null]), ("options",
  .record [("include", .list [.text "users"]), ("limit", .int 5), ("schema_name", .text "app")])]

theorem appRequest_storedAs : appRequest.StoredAs appForm := by
  have hshort : appRequest.selection.StoredAs (.record (
      [("schema_name", .text "app"), ("include", .list [.text "users"])] ++ [])) :=
    Form.leftOut (m := Selection.fields[2]) .stored (by simp [Selection.fields]) rfl rfl
  have hturned : appRequest.selection.StoredAs (.record (
      [("include", .list [.text "users"])] ++ [("schema_name", .text "app")])) :=
    hshort.permuted (.swap _ _ _)
  have hselection := hturned.added (.int 5) (by decide : "limit" ∉ _)
  have hsmall : appRequest.StoredAs (.record (
      [("options", Selection.codec.encode appRequest.selection)] ++ [])) :=
    Form.leftOut (m := Request.fields[1]) .stored (by simp [Request.fields]) rfl rfl
  have hwithin : appRequest.StoredAs (.record ([] ++ [("options", _)])) :=
    Form.within hsmall (.inl ⟨rfl, hselection⟩)
  exact hwithin.added _ (by decide)

theorem stored_inputs_read_back_appRequest : appRequest.StoredAs appForm ∧
    appForm.compact = "\x7b\"note\":[1,null],\"options\":\x7b\"include\":[\"users\"],"
      ++ "\"limit\":5,\"schema_name\":\"app\"\x7d\x7d" ∧
    decodeText Request.codec.decode appForm.compact = .ok appRequest :=
  ⟨appRequest_storedAs, by decide, stored_inputs_read_back.2.2.2.2.2.2.2.2 appRequest
    appForm appRequest_storedAs _ List.mem_cons_self⟩

end ValidatorGen
