/-
Decoding documents into values of fixed types, and what is said when that fails.

A record is decoded by its slots: each names a field, says when it may be missing, and
says how its value is put into the record. The fields of an object are put in the order of
the document, so the first fault of the document is the one reported; an array gives the
slots their values in order. Names without a slot are passed over.

A document may be decoded while it streams in, or when it is at hand as a whole; the
second reader knows more about what it refuses. The tables of a settings file are at hand
as well, and are read with somewhat more leave.
-/
import ValidatorGen.Json.Document
import ValidatorGen.Text.Visible

namespace ValidatorGen.Json

/-- Why a document is not a value of the wanted type. -/
inductive DecodeFault
  | text (fault : Fault)
  | wrongType (found : Shape) (expected : String)
  | wrongValue (found : Shape) (expected : String)
  | wrongLength (length : Nat) (expected : String)
  | missingField (name : String)
  | duplicateField (name : String)
  | unknownVariant (given : String) (known : List String)
  | noVariant (type : String)

/-- A shape as messages name it. -/
def Shape.message : Shape → String
  | .null => "null"
  | .bool true => "boolean `true`"
  | .bool false => "boolean `false`"
  | .integer n => "integer `" ++ String.ofList (Decimal.intChars n) ++ "`"
  | .float f => "floating point `" ++ String.ofList (floatLiteral f) ++ "`"
  | .text s => "string " ++ Text.quoted s
  | .sequence => "sequence"
  | .map => "map"

/-- The known names of a choice: two are joined by "or", more are listed. -/
def oneOf : List String → String
  | [] => "there are no variants"
  | [a] => "expected `" ++ a ++ "`"
  | [a, b] => "expected `" ++ a ++ "` or `" ++ b ++ "`"
  | names => "expected one of " ++ ", ".intercalate (names.map fun a => "`" ++ a ++ "`")

/-- What is said about a fault; a text that is no document is not described further. -/
def DecodeFault.message : DecodeFault → Option String
  | .text _ => none
  | .wrongType found expected => some ("invalid type: " ++ found.message ++ ", expected " ++ expected)
  | .wrongValue found expected =>
    some ("invalid value: " ++ found.message ++ ", expected " ++ expected)
  | .wrongLength n expected =>
    some ("invalid length " ++ toString n ++ ", expected " ++ expected)
  | .missingField name => some ("missing field `" ++ name ++ "`")
  | .duplicateField name => some ("duplicate field `" ++ name ++ "`")
  | .unknownVariant given known =>
    some ("unknown variant `" ++ given ++ "`, " ++ oneOf known)
  | .noVariant type => some ("data did not match any variant of untagged enum " ++ type)

/-- How a document comes in. -/
inductive Manner
  /-- It streams in. -/
  | stream
  /-- It is at hand as a whole. -/
  | whole
  /-- It is at hand as tables: items that are left over are passed over, and a choice that
  has no content may be given an empty table. -/
  | tables
  deriving DecidableEq, Repr

/-- Where in a document a reader is. -/
structure Reading where
  manner : Manner
  /-- How many lists and records are around the value. -/
  depth : Nat

/-- A document that streams in. -/
def Reading.stream : Reading := ⟨.stream, 0⟩

/-- A document that is at hand. -/
def Reading.atHand : Reading := ⟨.whole, 0⟩

/-- The tables of a settings file. -/
def Reading.tables : Reading := ⟨.tables, 0⟩

/-- Reading the parts of a list or a record. -/
def Reading.inside (r : Reading) : Reading := ⟨r.manner, r.depth + 1⟩

/-- The deepest nesting of a document that streams in. -/
def depthLimit : Nat := 127

/-- How many more levels fit. -/
def Reading.room (r : Reading) : Nat := depthLimit - r.depth

/-- A decoder of values of type `α`. -/
abbrev Decoder (α : Type) := Reading → Document → Except DecodeFault α

/-- Refuses a value that has the wrong type. -/
def refuse (expected : String) (d : Document) : Except DecodeFault α :=
  match d.shape with
  | .ok found => .error (.wrongType found expected)
  | .error f => .error (.text f)

/-- Passes on a fault, if there is one. -/
def checkNone : Option Fault → Except DecodeFault Unit
  | none => .ok ()
  | some f => .error (.text f)

/-! ## Scalars -/

/-- A string. -/
def string : Decoder String
  | _, .text (some s) => .ok s
  | _, d => refuse "a string" d

/-- A truth value. -/
def boolean : Decoder Bool
  | _, .bool b => .ok b
  | _, d => refuse "a boolean" d

/-- A natural number of 32 bits. -/
def uint32 : Decoder UInt32
  | _, .number (some (.natural k)) =>
    if k < UInt32.size then .ok (UInt32.ofNat k) else .error (.wrongValue (.integer k) "u32")
  | _, .number (some (.negative k)) => .error (.wrongValue (.integer k) "u32")
  | _, d => refuse "u32" d

/-- A number. -/
def float : Decoder Float
  | _, .number (some (.natural k)) => .ok k.toUInt64.toFloat
  | _, .number (some (.negative k)) => .ok (-(k.natAbs.toUInt64.toFloat))
  | _, .number (some (.float f)) => .ok f
  | _, d => refuse "f64" d

/-- A value or `null`. -/
def nullable (dec : Decoder α) : Decoder (Option α)
  | _, .null => .ok none
  | r, d => (dec r d).map some

/-! ## Lists and maps -/

/-- Decodes items in order. -/
def decodeItems (dec : Document → Except DecodeFault α) : List Document → Except DecodeFault (List α)
  | [] => .ok []
  | d :: ds =>
    match dec d with
    | .error e => .error e
    | .ok a => (decodeItems dec ds).map (a :: ·)

/-- A list. -/
def listOf (dec : Decoder α) : Decoder (List α)
  | r, .list items ending => do
    let as ← decodeItems (dec r.inside) items
    checkNone ending.fault?
    .ok as
  | _, d => refuse "a sequence" d

/-- Decodes the entries of a map in order. -/
def decodeEntries (dec : Document → Except DecodeFault α) :
    List (Option String × Document) → Except DecodeFault (List (String × α))
  | [] => .ok []
  | (none, _) :: _ => .error (.text .malformed)
  | (some k, d) :: ds =>
    match dec d with
    | .error e => .error e
    | .ok a => (decodeEntries dec ds).map ((k, a) :: ·)

/-- A map from names, as its entries in order. -/
def entriesOf (dec : Decoder α) : Decoder (List (String × α))
  | r, .record fields ending => do
    let entries ← decodeEntries (dec r.inside) fields
    checkNone ending.fault?
    .ok entries
  | _, d => refuse "a map" d

/-! ## Choices by name -/

/-- The member of a closed choice that has the name. -/
def variantNamed (known : List (String × α)) (name : String) : Except DecodeFault α :=
  match known.lookup name with
  | some a => .ok a
  | none => .error (.unknownVariant name (known.map (·.1)))

/-- The content of a named choice that has none: `null`. -/
def unit : Decoder Unit
  | _, .null => .ok ()
  | _, d => refuse "unit" d

/-- A list or a record with nothing in it. -/
def Document.isEmptyTable : Document → Bool
  | .list [] _ => true
  | .record [] _ => true
  | _ => false

/-- A member of a closed choice as a record of one field, whose name it is and whose value
says nothing more; the record streams in. -/
def variantInStream (known : List (String × α)) (r : Reading) :
    List (Option String × Document) → Ending → Except DecodeFault α
  | [], .oddKey (.ok found) => .error (.wrongType found "variant identifier")
  | [], .oddKey (.error f) => .error (.text f)
  | [], .cut c => .error (.text c.label)
  | [], .closed => .error (.text .malformed)
  | (none, _) :: _, _ => .error (.text .malformed)
  | (some key, content) :: more, ending => do
    let a ← variantNamed known key
    let _ ← unit r.inside content
    match more, ending.fault? with
    | _ :: _, _ => .error (.text .malformed)
    | [], some f => .error (.text f)
    | [], none => .ok a

/-- The variant that a record at hand holds. -/
def variantAtHand (known : List (String × α)) (r : Reading) :
    List (Option String × Document) → Except DecodeFault α
  | [(some key, content)] => do
    let a ← variantNamed known key
    if r.manner = .tables && content.isEmptyTable then .ok a
    else
      let _ ← unit r.inside content
      .ok a
  | _ => .error (.wrongValue .map "map with a single key")

/-- A member of a closed choice: its name alone, or a record of one field, whose name it is
and whose value says nothing more. -/
def variant (known : List (String × α)) : Decoder α
  | _, .text (some s) => variantNamed known s
  | _, .text none => .error (.text .malformed)
  | r, .record fields ending =>
    if r.manner = .stream then variantInStream known r fields ending
    else variantAtHand known r fields
  | _, .cut c => .error (.text c.label)
  | r, d => if r.manner = .stream then .error (.text .malformed) else refuse "string or map" d

/-! ## Records -/

/-- When a field may be missing. -/
inductive Presence
  /-- Never. -/
  | required
  /-- From an object. -/
  | nullable
  /-- From an object and from an array. -/
  | defaulted
  deriving DecidableEq, Repr

/-- A field of a record of type `ρ`. -/
structure Slot (ρ : Type) where
  name : String
  presence : Presence
  put : Reading → Document → ρ → Except DecodeFault ρ

/-- The slot of a field, by the decoder of its values and the way they are set. -/
def Slot.of (name : String) (presence : Presence) (dec : Decoder α) (set : α → ρ → ρ) : Slot ρ :=
  ⟨name, presence, fun r d record => (dec r d).map fun a => set a record⟩

/-- Puts the fields of an object in order; `seen` holds the names that were put. -/
def putFields (slots : List (Slot ρ)) (r : Reading) :
    List (Option String × Document) → List String → ρ → Except DecodeFault (List String × ρ)
  | [], seen, record => .ok (seen, record)
  | (none, _) :: _, _, _ => .error (.text .malformed)
  | (some key, d) :: fields, seen, record =>
    match slots.find? (·.name == key) with
    | none =>
      match d.skipFault? with
      | some f => .error (.text f)
      | none => putFields slots r fields seen record
    | some slot =>
      if seen.contains key then .error (.duplicateField key)
      else
        match slot.put r d record with
        | .error e => .error e
        | .ok record => putFields slots r fields (key :: seen) record

/-- The first required field that was not seen is missing. -/
def checkSeen (slots : List (Slot ρ)) (seen : List String) : Except DecodeFault Unit :=
  match slots.find? fun s => s.presence == .required && !seen.contains s.name with
  | some s => .error (.missingField s.name)
  | none => .ok ()

/-- How a record of so many fields is described. -/
def fieldCount (type : String) (n : Nat) : String :=
  "struct " ++ type ++ " with " ++ toString n ++ (if n = 1 then " element" else " elements")

/-- Puts the items of an array into the slots in order; `index` items came before, of the
`total` that the array has. -/
def putItems (type : String) (r : Reading) (count total : Nat) (ending : Ending) :
    Nat → List (Slot ρ) → List Document → ρ → Except DecodeFault ρ
  | _, [], [], record =>
    match ending.fault? with
    | some f => .error (.text f)
    | none => .ok record
  | _, [], _ :: _, record =>
    match r.manner with
    | .stream => .error (.text .malformed)
    | .whole => .error (.wrongLength total "fewer elements in array")
    | .tables => .ok record
  | index, slot :: slots, [], record =>
    match ending.fault? with
    | some f => .error (.text f)
    | none =>
      if slot.presence == .defaulted then
        putItems type r count total ending (index + 1) slots [] record
      else .error (.wrongLength index (fieldCount type count))
  | index, slot :: slots, d :: ds, record =>
    match slot.put r d record with
    | .error e => .error e
    | .ok record => putItems type r count total ending (index + 1) slots ds record

/-- A record. `blank` holds the values of the fields that may be missing. -/
def recordOf (type : String) (slots : List (Slot ρ)) (blank : ρ) : Decoder ρ
  | r, .record fields ending => do
    let (seen, record) ← putFields slots r.inside fields [] blank
    checkNone ending.fault?
    checkSeen slots seen
    .ok record
  | r, .list items ending =>
    putItems type r.inside slots.length items.length ending 0 slots items blank
  | _, d => refuse ("struct " ++ type) d

/-! ## Texts -/

/-- Decodes a text that holds one document and nothing else. -/
def decodeText (dec : Decoder α) (text : String) : Except DecodeFault α :=
  match Document.read text.toList with
  | (d, clean) =>
    match dec .stream d with
    | .error e => .error e
    | .ok a => if clean then .ok a else .error (.text .malformed)

end ValidatorGen.Json
