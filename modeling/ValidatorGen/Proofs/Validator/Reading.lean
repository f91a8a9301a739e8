/-
What an expression says in either of two dialects: what is checked first, the checks on the
value, and the layers around them (`Reading`). In the chained dialect all of it is one chain of
tokens. In the composed dialect every layer is a call with all that is inside of it as its
argument, and the checks are the arguments of one call. **Each dialect has a reader that finds
the reading in the text alone** (`readChained?_chain`, `readComposed?_chain`).
-/
import ValidatorGen.Proofs.Json.Strings
import ValidatorGen.Proofs.Validator.Tokens

namespace ValidatorGen.Expression

open Validator

/-! ## Readings -/

/-- What an expression checks first. -/
inductive Head
  | leaf (type : SemanticType)
  | coercedDate
  | enumeration (members : Members)
  | reference (name : String)

/-- What a check asks for. -/
inductive CheckKind
  | trim
  | lowerCase
  | upperCase
  | normalize
  | nonnegative
  | minLength
  | maxLength
  | minimum
  | maximum
  deriving DecidableEq, Repr

/-- A check, with its argument as it is written. -/
structure Refinement where
  kind : CheckKind
  argument : String
  deriving DecidableEq, Repr

/-- What is put around an expression. -/
inductive Layer
  | array
  | nullable
  | optional
  | transform (t : Transform)
  deriving DecidableEq, Repr

/-- What an expression says. -/
structure Reading where
  head : Head
  checks : List Refinement := []
  /-- The innermost first. -/
  layers : List Layer := []

/-! ## Names -/

/-- A name holds nothing that expressions are cut at, and does not look like a list. Every
identifier is such a name. -/
def IsName (name : String) : Prop := ∀ c ∈ name.toList, IsPlain ['.', ',', '['] c

instance : DecidablePred IsName := fun name =>
  List.decidableBAll (IsPlain ['.', ',', '[']) name.toList

theorem IsName.isWord {name : String} (h : IsName name) : Token.IsWord name := by
  intro c hc
  have hplain := h c hc
  simp only [IsPlain, List.mem_cons, not_or] at hplain ⊢
  simp [hplain]

/-- Where the expressions of all validators come from. -/
def namespaceToken : Token := ⟨"z", none⟩

/-- A call of one of the namespace's functions. -/
def member (name argument : String) : List Token := [namespaceToken, ⟨name, some argument⟩]

theorem isClean_namespaceToken : namespaceToken.IsClean := Token.isClean_word (by decide)

theorem isClean_member {name argument : String} (h : Token.IsWord name)
    (hargument : Balanced argument.toList) : ∀ t ∈ member name argument, t.IsClean :=
  List.forall_mem_cons.mpr ⟨isClean_namespaceToken,
    List.forall_mem_singleton.mpr (Token.isClean_call h hargument)⟩

/-- Reads a call of one of the namespace's functions: its name and its argument. -/
def readMember? (text : String) : Option (String × String) :=
  match readTokens? text with
  | some [t, ⟨name, some argument⟩] => if t = namespaceToken then some (name, argument) else none
  | _ => none

theorem readMember?_chain {name argument : String} (h : Token.IsWord name)
    (hargument : Balanced argument.toList) :
    readMember? (chain (member name argument)) = some (name, argument) := by
  have hne : member name argument ≠ [] := List.cons_ne_nil _ _
  rw [readMember?, readTokens?_chain hne (isClean_member h hargument)]
  rfl

theorem length_lt_of_readMember? {text name argument : String}
    (h : readMember? text = some (name, argument)) : argument.length < text.length := by
  rw [readMember?] at h
  split at h
  · next t name argument htokens =>
    split at h
    · cases h
      exact length_lt_of_readTokens? htokens (List.mem_cons_of_mem _ List.mem_cons_self) rfl
    · cases h
  · cases h

namespace Head

/-- The tokens of what is checked first. -/
def tokens : Head → List Token
  | .leaf type => member type.label ""
  | .coercedDate => [namespaceToken, ⟨"coerce", none⟩, ⟨"date", some ""⟩]
  | .enumeration members => member "enum" members.text
  | .reference name => [⟨name, none⟩]

/-- Whether the values are texts. -/
def isTextual : Head → Bool
  | .leaf type => type.isTextual
  | .coercedDate | .enumeration _ | .reference _ => false

/-- The names that are referred to are names. -/
def IsNamed : Head → Prop
  | .leaf _ | .coercedDate | .enumeration (.inline _) => True
  | .enumeration (.constant name) | .reference name => IsName name

end Head

namespace CheckKind

/-- All checks. -/
def all : List CheckKind :=
  [.trim, .lowerCase, .upperCase, .normalize, .nonnegative, .minLength, .maxLength, .minimum,
    .maximum]

/-- The name of a check in a chain; what kind of bound is meant depends on the values. -/
def chained : CheckKind → String
  | .trim => "trim"
  | .lowerCase => "toLowerCase"
  | .upperCase => "toUpperCase"
  | .normalize => "normalize"
  | .nonnegative => "nonnegative"
  | .minLength | .minimum => "min"
  | .maxLength | .maximum => "max"

/-- The name of a check as a function. -/
def composed : CheckKind → String
  | .minLength => "minLength"
  | .maxLength => "maxLength"
  | .minimum => "minimum"
  | .maximum => "maximum"
  | other => other.chained

/-- Lengths are bounded for texts, and only for them. -/
def fits (textual : Bool) : CheckKind → Bool
  | .minLength | .maxLength => textual
  | .minimum | .maximum => !textual
  | .trim | .lowerCase | .upperCase | .normalize | .nonnegative => true

end CheckKind

/-- A reading that both dialects can express. -/
structure Reading.IsProper (r : Reading) : Prop where
  head : r.head.IsNamed
  fits : ∀ check ∈ r.checks, check.kind.fits r.head.isTextual = true
  balanced : ∀ check ∈ r.checks, Balanced check.argument.toList

/-! ## Enumerations -/

/-- Reads a string with its quotes. -/
def readValue? : List Char → Option String
  | '"' :: text =>
    match Json.readString text with
    | .ok (value, []) => value
    | _ => none
  | _ => none

/-- Reads the members of an enumeration: values in square brackets, or else a name. -/
def readMembers? (text : String) : Option Members :=
  match text.toList with
  | '[' :: inner =>
    (Token.closed? ']' inner).bind fun values =>
      if values = [] then some (.inline [])
      else ((pieces ',' (.code 0) values).mapM readValue?).map .inline
  | _ => some (.constant text)

theorem readValue?_stringChars (s : String) : readValue? (Json.stringChars s) = some s := by
  rw [Json.stringChars, readValue?, Json.readString_escaped]

/-- No escape ends the string that it is in. -/
theorem leads_escapedChar (mark : Char) (depth : Nat) (c : Char) :
    Leads mark (.quoted depth) (Json.escapedChar c) (.quoted depth) := by
  have hdigit : ∀ n < 16, Json.hexDigit n ≠ '"' ∧ Json.hexDigit n ≠ '\\' := by decide
  unfold Json.escapedChar
  by_cases hquote : c = '"'
  · simp [hquote, Leads, Place.next]
  by_cases hback : c = '\\'
  · simp [hback, Leads, Place.next]
  simp only [beq_iff_eq, hquote, hback, if_false]
  split
  · simp [Leads, Place.next]
  split
  · simp [Leads, Place.next]
  split
  · simp [Leads, Place.next]
  split
  · simp [Leads, Place.next]
  split
  · simp [Leads, Place.next]
  split
  · next hcontrol =>
    have hhigh := hdigit (c.toNat / 16) (by omega)
    have hlow := hdigit (c.toNat % 16) (by omega)
    simp [Leads, Place.next, hhigh, hlow]
  · simp [Leads, Place.next, hquote, hback]

/-- A string leads back to where it starts, whatever it holds. -/
theorem leads_stringChars {mark : Char} (hmark : mark ≠ '"') (depth : Nat) (s : String) :
    Leads mark (.code depth) (Json.stringChars s) (.code depth) := by
  have hinner : Leads mark (.quoted depth) (s.toList.flatMap Json.escapedChar) (.quoted depth) :=
    leads_flatMap fun c _ => leads_escapedChar mark depth c
  refine ⟨fun hp => hmark hp.2.symm, ?_⟩
  refine Leads.append (q := .quoted depth) hinner ⟨?_, rfl⟩
  rintro ⟨hp, -⟩
  cases hp

theorem itemsChars_text (depth : Nat) (values : List String) :
    Json.itemsChars .compact depth (values.map .text)
      = (values.map Json.stringChars).flatMap (',' :: ·) := by
  induction values with
  | nil => rfl
  | cons s values ih =>
    rw [List.map_cons, Json.itemsChars, ih]
    simp [Json.Layout.compact, Json.Value.chars]

theorem toList_text_inline_cons (s : String) (values : List String) :
    (Members.inline (s :: values)).text.toList
      = '[' :: ((Json.stringChars s ++ (values.map Json.stringChars).flatMap (',' :: ·))
          ++ [']']) := by
  rw [Members.text, Json.Value.compact, String.toList_ofList, List.map_cons, Json.Value.chars,
    itemsChars_text]
  simp [Json.Layout.compact, Json.Value.chars]

/-- **The members of an enumeration are read back.** -/
theorem readMembers?_text {members : Members} (h : (Head.enumeration members).IsNamed) :
    readMembers? members.text = some members := by
  cases members with
  | constant name =>
    have hname : ∀ inner, name.toList ≠ '[' :: inner := fun inner hinner => by
      have hplain := h '[' (hinner ▸ List.mem_cons_self)
      simp [IsPlain] at hplain
    rw [Members.text, readMembers?]
    split
    · next inner hinner => exact absurd hinner (hname inner)
    · rfl
  | inline values =>
    cases values with
    | nil => rfl
    | cons s values =>
      have hcomma : ∀ s, Leads ',' (.code 0) (Json.stringChars s) (.code 0) :=
        leads_stringChars (by decide) 0
      have hne : Json.stringChars s ++ (values.map Json.stringChars).flatMap (',' :: ·) ≠ [] := by
        simp [Json.stringChars]
      have hread : ((s :: values).map Json.stringChars).mapM readValue? = some (s :: values) :=
        mapM_map fun s _ => readValue?_stringChars s
      rw [readMembers?, toList_text_inline_cons]
      simp only [Token.closed?_concat, Option.bind_some, if_neg hne]
      rw [pieces_join (hcomma s) (by simp [hcomma]), ← List.map_cons, hread]
      rfl

/-- The members of an enumeration can stand in brackets. -/
theorem balanced_text {members : Members} (h : (Head.enumeration members).IsNamed) :
    Balanced members.text.toList := by
  cases members with
  | constant name => exact leads_of_isPlain h (by decide)
  | inline values =>
    cases values with
    | nil => decide
    | cons s values =>
      have hclose : ∀ s, Leads ')' (.code 0) (Json.stringChars s) (.code 0) :=
        leads_stringChars (by decide) 0
      have hothers : Leads ')' (.code 0) ((values.map Json.stringChars).flatMap (',' :: ·))
          (.code 0) := by
        rw [List.flatMap_map]
        exact leads_flatMap fun s _ => ⟨by decide, hclose s⟩
      rw [toList_text_inline_cons]
      exact ⟨by decide, ((hclose s).append hothers).append ⟨by decide, rfl⟩⟩

/-! ## Heads -/

theorem Head.tokens_ne_nil (head : Head) : head.tokens ≠ [] := by
  cases head <;> exact List.cons_ne_nil _ _

theorem Head.isClean_tokens {head : Head} (h : head.IsNamed) : ∀ t ∈ head.tokens, t.IsClean := by
  have hempty : Balanced "".toList := by decide
  cases head with
  | leaf type =>
    have hlabel : Token.IsWord type.label := by cases type <;> decide
    exact isClean_member hlabel hempty
  | coercedDate =>
    simp only [tokens, List.forall_mem_cons]
    exact ⟨isClean_namespaceToken, Token.isClean_word (by decide),
      Token.isClean_call (by decide) hempty, List.forall_mem_nil _⟩
  | enumeration members => exact isClean_member (by decide) (balanced_text h)
  | reference name => exact List.forall_mem_singleton.mpr (Token.isClean_word h.isWord)

/-- Reads what follows the namespace: a leaf or an enumeration. -/
def readLeaf? : List Token → Option (Head × List Token)
  | ⟨name, some argument⟩ :: tokens =>
    if name = "enum" then (readMembers? argument).map fun members => (.enumeration members, tokens)
    else if argument = "" then
      (SemanticType.labels.lookup name).map fun type => (.leaf type, tokens)
    else none
  | ⟨name, none⟩ :: ⟨leaf, some argument⟩ :: tokens =>
    if name = "coerce" ∧ leaf = "date" ∧ argument = "" then some (.coercedDate, tokens) else none
  | _ => none

/-- Reads what is checked first. A schema may be named like the namespace; then what follows is
none of its members. -/
def readHead? : List Token → Option (Head × List Token)
  | [] => none
  | t :: tokens =>
    if t = namespaceToken then (readLeaf? tokens).or (some (.reference t.name, tokens))
    else if t.argument = none then some (.reference t.name, tokens)
    else none

/-- **What is checked first is read back**, if nothing after it could be mistaken for a part
of it. -/
theorem readHead?_tokens {head : Head} (h : head.IsNamed) {tokens : List Token}
    (hrest : readLeaf? tokens = none) : readHead? (head.tokens ++ tokens) = some (head, tokens) := by
  cases head with
  | leaf type => cases type <;> rfl
  | coercedDate => rfl
  | enumeration members =>
    simp [Head.tokens, member, readHead?, readLeaf?, readMembers?_text h]
  | reference name =>
    simp only [Head.tokens, List.singleton_append, readHead?, hrest, Option.none_or, if_true,
      ite_self]

end ValidatorGen.Expression
