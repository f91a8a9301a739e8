/-
Codecs: how values of a type are stored, and how they are read back. A record is stored
field by field in a fixed order, and each field says at once how it is written and how it
is read, so the two cannot come apart.
-/
import ValidatorGen.Json.Decoding

namespace ValidatorGen.Json

/-- How values of type `α` are stored and read back. -/
structure Codec (α : Type) where
  encode : α → Value
  decode : Decoder α

namespace Codec

/-- Strings. -/
def text : Codec String := ⟨.text, Json.string⟩

/-- Truth values. -/
def bool : Codec Bool := ⟨.bool, Json.boolean⟩

/-- Natural numbers of 32 bits. -/
def uint32 : Codec UInt32 := ⟨fun n => .int n.toNat, Json.uint32⟩

/-- Numbers. -/
def float : Codec Float := ⟨.float, Json.float⟩

/-- A value, or `null` for an absent one. -/
def nullable (c : Codec α) : Codec (Option α) := ⟨Value.ofOption c.encode, Json.nullable c.decode⟩

/-- Lists. -/
def list (c : Codec α) : Codec (List α) := ⟨fun as => .list (as.map c.encode), Json.listOf c.decode⟩

/-- A closed choice by name. -/
def choice (label : α → String) (known : List (String × α)) : Codec α :=
  ⟨fun a => .text (label a), Json.variant known⟩

/-- A choice by name where every text stands for some member. -/
def named (label : α → String) (ofLabel : String → α) : Codec α :=
  ⟨fun a => .text (label a), fun r d => (Json.string r d).map ofLabel⟩

end Codec

/-- A member of a stored record. -/
structure Member (ρ : Type) extends Slot ρ where
  content : ρ → Value

/-- The member of a name, by the codec of its content and the way to get and to set it. -/
def Member.of (name : String) (presence : Presence) (codec : Codec α) (get : ρ → α)
    (set : α → ρ → ρ) : Member ρ :=
  ⟨Slot.of name presence codec.decode set, fun record => codec.encode (get record)⟩

/-- Records of the given fields; `blank` has the values of fields that are missing. -/
def Codec.record (type : String) (fields : List (Member ρ)) (blank : ρ) : Codec ρ where
  encode record := .record (fields.map fun f => (f.name, f.content record))
  decode := recordOf type (fields.map Member.toSlot) blank

end ValidatorGen.Json
