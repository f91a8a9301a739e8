/-
The first dialect writes chains too, but not from the same heads: whole numbers and the formats of
texts are a plain head and one more token (`refinement?`), and documents are a union that it spells
out. **Its reader finds the reading all the same** (`readRefined?_chain`), for no check and no layer
is taken for such a token. So every dialect writes a reading in its own way (`Reading.text`), and
has a reader that finds it in the text alone (`Dialect.read?_text`).
-/
import ValidatorGen.Proofs.Validator.Readers

namespace ValidatorGen

namespace Expression

open Validator

/-! ## Heads -/

/-- What a document may be, in the first dialect. -/
def documentTypes : String :=
  "[z.string(), z.number(), z.boolean(), z.null(), z.record(z.string(), z.unknown()), " ++
    "z.array(z.unknown())]"

namespace Head

/-- The tokens of what is checked first, in the first dialect. -/
def refined : Head → List Token
  | .leaf .int => member "number" "" ++ [⟨"int", some ""⟩]
  | .leaf .uuid => member "string" "" ++ [⟨"uuid", some ""⟩]
  | .leaf .email => member "string" "" ++ [⟨"email", some ""⟩]
  | .leaf .url => member "string" "" ++ [⟨"url", some ""⟩]
  | .leaf .json => member "union" documentTypes
  | head => head.tokens

/-- The type that a head and the token after it stand for, in the first dialect. A union is read as
a member of what is named like the namespace. -/
def refinement? : Head → Token → Option SemanticType
  | .leaf .number, ⟨"int", some ""⟩ => some .int
  | .leaf .string, ⟨"uuid", some ""⟩ => some .uuid
  | .leaf .string, ⟨"email", some ""⟩ => some .email
  | .leaf .string, ⟨"url", some ""⟩ => some .url
  | .reference "z", ⟨"union", some argument⟩ => if argument = documentTypes then some .json else none
  | _, _ => none

theorem refined_ne_nil (head : Head) : head.refined ≠ [] := by
  cases head with
  | leaf type => cases type <;> exact List.cons_ne_nil _ _
  | coercedDate | enumeration members | reference name => exact List.cons_ne_nil _ _

theorem isClean_refined {head : Head} (h : head.IsNamed) : ∀ t ∈ head.refined, t.IsClean := by
  have hempty : Balanced "".toList := by decide
  have hformat : ∀ {plain format : String}, Token.IsWord plain → Token.IsWord format →
      ∀ t ∈ member plain "" ++ [⟨format, some ""⟩], t.IsClean := by
    intro plain format hplain hword t ht
    rcases List.mem_append.mp ht with ht | ht
    · exact isClean_member hplain hempty t ht
    · exact List.mem_singleton.mp ht ▸ Token.isClean_call hword hempty
  have hplain := isClean_tokens h
  cases head with
  | leaf type =>
    cases type with
    | int | uuid | email | url => exact hformat (by decide) (by decide)
    | json => exact isClean_member (by decide) (by decide +kernel)
    | string | number | boolean | date | unknown | any => exact hplain
  | coercedDate | enumeration members | reference name => exact hplain

end Head

/-- Reads what is checked first, in the first dialect. -/
def readRefinedHead? (tokens : List Token) : Option (Head × List Token) :=
  match readHead? tokens with
  | some (head, t :: tokens) =>
    match head.refinement? t with
    | some type => some (.leaf type, tokens)
    | none => some (head, t :: tokens)
  | read => read

/-- Neither checks nor layers refine a type. -/
theorem refinement?_links (head : Head) {r : Reading} {t : Token} {tokens : List Token}
    (h : r.links = t :: tokens) : head.refinement? t = none := by
  have hnames : t.name ∉ ["int", "uuid", "email", "url", "union"] := by
    have hmem : t ∈ r.links := h ▸ List.mem_cons_self
    rcases List.mem_append.mp hmem with ht | ht
    · obtain ⟨check, -, rfl⟩ := List.mem_map.mp ht
      obtain ⟨kind, argument⟩ := check
      show kind.chained ∉ _
      cases kind <;> decide
    · obtain ⟨layer, -, rfl⟩ := List.mem_map.mp ht
      show layer.method ∉ _
      cases layer <;> simp [Layer.method]
  unfold Head.refinement?
  split <;> simp_all

/-- **What is checked first is read back in the first dialect as well.** -/
theorem readRefinedHead?_refined {r : Reading} (h : r.head.IsNamed) :
    readRefinedHead? (r.head.refined ++ r.links) = some (r.head, r.links) := by
  have hplain : readRefinedHead? (r.head.tokens ++ r.links) = some (r.head, r.links) := by
    rw [readRefinedHead?, readHead?_tokens h (readLeaf?_links r)]
    cases hlinks : r.links with
    | nil => rfl
    | cons t tokens =>
      show (match r.head.refinement? t with | some type => _ | none => _) = _
      rw [refinement?_links r.head hlinks]
  generalize r.links = links at hplain
  generalize r.head = head at hplain
  cases head with
  | leaf type =>
    cases type with
    | int | uuid | email | url | json => rfl
    | string | number | boolean | date | unknown | any => exact hplain
  | coercedDate | enumeration members | reference name => exact hplain

/-! ## Readings -/

/-- The chain of a reading in the first dialect. -/
def Reading.refined (r : Reading) : List Token := r.head.refined ++ r.links

/-- **The reader of the first dialect.** -/
def readRefined? : String → Option Reading := readChain? readRefinedHead?

/-- **A chain of the first dialect says what it was written for.** -/
theorem readRefined?_chain {r : Reading} (h : r.IsProper) :
    readRefined? (chain r.refined) = some r :=
  readChain?_chain h r.head.refined_ne_nil (Head.isClean_refined h.head)
    (readRefinedHead?_refined h.head)

/-- A reading written out in a dialect. -/
def Reading.text (r : Reading) : Dialect → String
  | .v1 => chain r.refined
  | .v2 => chain r.chained
  | .v2Lite => chain r.composed

end Expression

open Expression

namespace Dialect

/-- The reader of a dialect. -/
def read? : Dialect → String → Option Reading
  | .v1 => readRefined?
  | .v2 => readChained?
  | .v2Lite => readComposed?

/-- **The reader of a dialect finds what was written out in it.** -/
theorem read?_text (d : Dialect) {r : Reading} (h : r.IsProper) : d.read? (r.text d) = some r := by
  cases d with
  | v1 => exact readRefined?_chain h
  | v2 => exact readChained?_chain h
  | v2Lite => exact readComposed?_chain h

end Dialect

end ValidatorGen
