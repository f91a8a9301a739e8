/-
Codecs that lose nothing. A codec is lawful if every value is read back from what is stored of it,
wherever few enough lists and records are around it (`Codec.Lawful`). Scalars and choices are
lawful, and so are optional values and lists of what is lawful. A lawful codec stores different
values differently (`Codec.Lawful.encode_inj`).
-/
import Mathlib.Data.List.Forall2
import ValidatorGen.Json.Codec
import ValidatorGen.Proofs.Json.Reread

namespace ValidatorGen.Json

section

variable {α : Type} {c : Codec α} {dec : Decoder α} {levels : Nat}

/-- There is room for so many more levels. -/
def Reading.Fits (r : Reading) (levels : Nat) : Prop := r.depth + levels ≤ depthLimit

theorem Reading.Fits.inside {r : Reading} (h : r.Fits (levels + 1)) : r.inside.Fits levels := by
  simp only [Reading.Fits, Reading.inside] at h ⊢
  omega

theorem Reading.fits_stream (h : levels ≤ depthLimit) : Reading.stream.Fits levels := by
  simpa [Reading.Fits, Reading.stream] using h

/-- Every value is read back from what is stored, with room for so many levels. -/
def Codec.Lawful (c : Codec α) (levels : Nat) : Prop :=
  ∀ r a, r.Fits levels → c.decode r (c.encode a).reread = .ok a

namespace Codec.Lawful

/-- Different values are stored differently. -/
theorem encode_inj (h : c.Lawful levels) (hlevels : levels ≤ depthLimit) {a b : α} :
    c.encode a = c.encode b ↔ a = b := by
  refine ⟨fun heq => ?_, congrArg c.encode⟩
  have ha := h .stream a (Reading.fits_stream hlevels)
  have hb := h .stream b (Reading.fits_stream hlevels)
  rw [heq, hb] at ha
  exact (Except.ok.inj ha).symm

/-- Every value is read back from either text of what is stored. -/
theorem decodeText (h : c.Lawful levels) (hlevels : levels ≤ depthLimit) {a : α} {text : String}
    (htext : text ∈ (c.encode a).texts) : Json.decodeText c.decode text = .ok a :=
  (decodeText_of_mem_texts c.decode htext).trans (h .stream a (Reading.fits_stream hlevels))

/-- Room that is not used does no harm. -/
theorem mono (h : c.Lawful levels) {more : Nat} (hle : levels ≤ more) : c.Lawful more :=
  fun r a hr => h r a (Nat.le_trans (Nat.add_le_add_left hle r.depth) hr)

end Codec.Lawful

/-! ## Scalars and choices -/

theorem Codec.lawful_text : Codec.text.Lawful 0 := fun _ _ _ => rfl

theorem Codec.lawful_bool : Codec.bool.Lawful 0 := fun _ _ _ => rfl

theorem worth?_intChars {n : Nat} (h : n < UInt64.size) :
    worth? (Decimal.intChars n) = some (.natural n) := by
  rw [← Literal.chars_ofInt, worth?_of_reads (Literal.isValid_ofInt n).reads]
  exact value?_ofInt h

theorem Codec.lawful_uint32 : Codec.uint32.Lawful 0 := by
  intro r n _
  have hsmall : n.toNat < UInt32.size := n.toNat_lt_size
  have hworth := worth?_intChars (Nat.lt_trans hsmall (by decide : UInt32.size < UInt64.size))
  have hdecode : Json.uint32 r (.number (some (.natural n.toNat)))
      = if n.toNat < UInt32.size then .ok (UInt32.ofNat n.toNat)
        else .error (.wrongValue (.integer n.toNat) "u32") := rfl
  simp only [Codec.uint32, Value.reread, hworth, hdecode, if_pos hsmall, UInt32.ofNat_toNat]

/-- A choice is lawful if each of its members is known by its label. -/
theorem Codec.lawful_choice {label : α → String} {known : List (String × α)}
    (h : ∀ a, known.lookup (label a) = some a) : (Codec.choice label known).Lawful 0 := by
  intro r a _
  show variantNamed known (label a) = .ok a
  rw [variantNamed, h a]

/-- A choice where every text stands for a member is lawful if each stands for itself. -/
theorem Codec.lawful_named {label : α → String} {ofLabel : String → α}
    (h : ∀ a, ofLabel (label a) = a) : (Codec.named label ofLabel).Lawful 0 := by
  intro r a _
  show Except.ok (ofLabel (label a)) = .ok a
  rw [h a]

/-! ## Optional values and lists -/

/-- Optional values are lawful if no value is stored as `null`. -/
theorem Codec.Lawful.nullable (h : c.Lawful levels) (hnull : ∀ a, (c.encode a).reread ≠ .null) :
    c.nullable.Lawful levels := by
  intro r a hr
  cases a with
  | none => rfl
  | some a =>
    show Json.nullable c.decode r (c.encode a).reread = .ok (some a)
    rw [Json.nullable, h r a hr]
    · rfl
    · exact hnull a

theorem Codec.lawful_nullable_text : Codec.text.nullable.Lawful 0 :=
  Codec.lawful_text.nullable fun _ => nofun

theorem Codec.lawful_nullable_uint32 : Codec.uint32.nullable.Lawful 0 :=
  Codec.lawful_uint32.nullable fun _ => nofun

/-- Items that are decoded each to its value are decoded to the list of the values. -/
theorem listOf_reread {r : Reading} {as : List α} {vs : List Value}
    (h : List.Forall₂ (fun a v => dec r.inside v.reread = .ok a) as vs) :
    listOf dec r (Value.list vs).reread = .ok as := by
  have hitems : decodeItems (dec r.inside) (itemsReread vs) = .ok as := by
    induction h with
    | nil => rfl
    | cons hv _ ih =>
      rw [itemsReread, decodeItems, hv, ih]
      rfl
  rw [Value.reread, listOf, hitems]
  rfl

theorem Codec.Lawful.list (h : c.Lawful levels) : c.list.Lawful (levels + 1) := by
  intro r as hr
  refine listOf_reread ?_
  rw [List.forall₂_map_right_iff]
  exact List.forall₂_same.mpr fun a _ => h r.inside a hr.inside

end

end ValidatorGen.Json
