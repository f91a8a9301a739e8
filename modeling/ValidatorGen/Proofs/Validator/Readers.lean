/-
The two spellings of a reading, and their readers. **What is read in a chain is what was
written** (`readChained?_chain`): a check is told by its name and by what it checks. **What is
read in a composition is what was written** (`readComposed?_chain`): the reader takes off one
layer after the other, by induction on the layers, until the call of the checks is left.
-/
import ValidatorGen.Proofs.Validator.Reading

namespace ValidatorGen.Expression

open Validator

/-- All functions of transforms. -/
def transforms : List Transform :=
  [.emptyArrayDefault, .undefinedDefault]
    ++ [true, false].flatMap fun guarded =>
      [Stringify.json, .date, .dates].map (.stringify guarded)

/-- Reads the function of a transform. -/
def readTransform? (body : String) : Option Transform := transforms.find? (·.text == body)

theorem readTransform?_text (t : Transform) : readTransform? t.text = some t := by
  rcases t with _ | _ | ⟨_ | _, _ | _ | _⟩ <;> rfl

theorem balanced_transform (t : Transform) : Balanced t.text.toList := by
  cases t with
  | emptyArrayDefault => decide
  | undefinedDefault => decide
  | stringify guarded how =>
    have hhow : Balanced how.text.toList := by cases how <;> decide
    have hplain : Balanced "(value) => ".toList := by decide
    have hguarded : Balanced "(value) => value == null ? value : ".toList := by decide
    cases guarded with
    | false =>
      show Balanced ("(value) => " ++ how.text).toList
      rw [String.toList_append]
      exact hplain.append hhow
    | true =>
      show Balanced ("(value) => value == null ? value : " ++ how.text).toList
      rw [String.toList_append]
      exact hguarded.append hhow

theorem isWord_transform : Token.IsWord "transform" := by decide

theorem CheckKind.isWord_chained (kind : CheckKind) : Token.IsWord kind.chained := by
  cases kind <;> decide

theorem CheckKind.isWord_composed (kind : CheckKind) : Token.IsWord kind.composed := by
  cases kind <;> decide

/-! ## Chains -/

namespace Refinement

/-- A check in a chain. -/
def chained (check : Refinement) : Token := ⟨check.kind.chained, some check.argument⟩

/-- Reads a check of a chain, given whether it checks texts. -/
def ofChained? (textual : Bool) (t : Token) : Option Refinement :=
  match t.argument with
  | none => none
  | some argument =>
    (CheckKind.all.find? fun kind => kind.chained == t.name && kind.fits textual).map (⟨·, argument⟩)

theorem ofChained?_chained {textual : Bool} {check : Refinement}
    (h : check.kind.fits textual = true) : ofChained? textual check.chained = some check := by
  obtain ⟨kind, argument⟩ := check
  cases kind <;> cases textual <;> first | rfl | cases h

end Refinement

namespace Layer

/-- The name of a layer in a chain. -/
def method : Layer → String
  | .array => "array"
  | .nullable => "nullable"
  | .optional => "optional"
  | .transform _ => "transform"

/-- The argument of a layer in a chain. -/
def function : Layer → String
  | .array | .nullable | .optional => ""
  | .transform t => t.text

/-- A layer in a chain. -/
def chained (layer : Layer) : Token := ⟨layer.method, some layer.function⟩

/-- Reads a layer of a chain. -/
def ofChained? : Token → Option Layer
  | ⟨"array", some ""⟩ => some .array
  | ⟨"nullable", some ""⟩ => some .nullable
  | ⟨"optional", some ""⟩ => some .optional
  | ⟨"transform", some body⟩ => (readTransform? body).map .transform
  | _ => none

theorem isClean_chained (layer : Layer) : layer.chained.IsClean := by
  have hempty : Balanced "".toList := by decide
  cases layer with
  | array => exact Token.isClean_call (by decide) hempty
  | nullable => exact Token.isClean_call (by decide) hempty
  | optional => exact Token.isClean_call (by decide) hempty
  | transform t => exact Token.isClean_call isWord_transform (balanced_transform t)

theorem ofChained?_chained (layer : Layer) : ofChained? layer.chained = some layer := by
  cases layer with
  | transform t =>
    show (readTransform? t.text).map Layer.transform = _
    rw [readTransform?_text]
    rfl
  | array | nullable | optional => rfl

/-- No layer is taken for a check. -/
theorem not_refinement (textual : Bool) (layer : Layer) :
    Refinement.ofChained? textual layer.chained = none := by
  cases layer <;> rfl

end Layer

/-- What a chain holds after its head. -/
def Reading.links (r : Reading) : List Token :=
  r.checks.map Refinement.chained ++ r.layers.map Layer.chained

/-- The chain of a reading. -/
def Reading.chained (r : Reading) : List Token := r.head.tokens ++ r.links

/-- Reads checks as far as there are any. -/
def readChecks (textual : Bool) : List Token → List Refinement × List Token
  | [] => ([], [])
  | t :: tokens =>
    match Refinement.ofChained? textual t with
    | none => ([], t :: tokens)
    | some check =>
      let (checks, rest) := readChecks textual tokens
      (check :: checks, rest)

/-- Reads a chain, given how its head is read. -/
def readChain? (readHead : List Token → Option (Head × List Token)) (text : String) :
    Option Reading := do
  let tokens ← readTokens? text
  let (head, tokens) ← readHead tokens
  let (checks, tokens) := readChecks head.isTextual tokens
  let layers ← tokens.mapM Layer.ofChained?
  return ⟨head, checks, layers⟩

/-- **The reader of the chained dialect.** -/
def readChained? : String → Option Reading := readChain? readHead?

theorem readChecks_layers (textual : Bool) (layers : List Layer) :
    readChecks textual (layers.map Layer.chained) = ([], layers.map Layer.chained) := by
  cases layers with
  | nil => rfl
  | cons layer layers => rw [List.map_cons, readChecks, Layer.not_refinement]

theorem readChecks_chained {textual : Bool} {checks : List Refinement}
    (h : ∀ check ∈ checks, check.kind.fits textual = true) (layers : List Layer) :
    readChecks textual (checks.map Refinement.chained ++ layers.map Layer.chained)
      = (checks, layers.map Layer.chained) := by
  induction checks with
  | nil => exact readChecks_layers textual layers
  | cons check checks ih =>
    rw [List.map_cons, List.cons_append, readChecks,
      Refinement.ofChained?_chained (h check List.mem_cons_self),
      ih fun check hcheck => h check (List.mem_cons_of_mem _ hcheck)]

section

variable {r : Reading}

/-- Neither checks nor layers are named like a leaf. -/
theorem readLeaf?_links (r : Reading) : readLeaf? r.links = none := by
  obtain ⟨head, checks, layers⟩ := r
  show readLeaf? (checks.map Refinement.chained ++ layers.map Layer.chained) = none
  cases checks with
  | nil =>
    cases layers with
    | nil => rfl
    | cons layer layers =>
      cases layer <;> simp [Layer.chained, Layer.method, readLeaf?, SemanticType.labels]
  | cons check checks =>
    obtain ⟨kind, argument⟩ := check
    cases kind <;> simp [Refinement.chained, CheckKind.chained, readLeaf?, SemanticType.labels]

theorem isClean_links (h : r.IsProper) : ∀ t ∈ r.links, t.IsClean := by
  intro t ht
  rcases List.mem_append.mp ht with ht | ht
  · obtain ⟨check, hcheck, rfl⟩ := List.mem_map.mp ht
    exact Token.isClean_call check.kind.isWord_chained (h.balanced check hcheck)
  · obtain ⟨layer, -, rfl⟩ := List.mem_map.mp ht
    exact layer.isClean_chained

/-- A chain is read link by link once its head is. -/
theorem readChain?_chain (h : r.IsProper) {readHead : List Token → Option (Head × List Token)}
    {tokens : List Token} (hne : tokens ≠ []) (hclean : ∀ t ∈ tokens, t.IsClean)
    (hhead : readHead (tokens ++ r.links) = some (r.head, r.links)) :
    readChain? readHead (chain (tokens ++ r.links)) = some r := by
  have htokens : readTokens? (chain (tokens ++ r.links)) = some (tokens ++ r.links) := by
    refine readTokens?_chain (List.append_ne_nil_of_left_ne_nil hne _) fun t ht => ?_
    exact (List.mem_append.mp ht).elim (hclean t) (isClean_links h t)
  have hchecks : readChecks r.head.isTextual r.links = (r.checks, r.layers.map Layer.chained) :=
    readChecks_chained h.fits r.layers
  have hlayers : (r.layers.map Layer.chained).mapM Layer.ofChained? = some r.layers :=
    mapM_map fun layer _ => layer.ofChained?_chained
  simp [readChain?, htokens, hhead, hchecks, hlayers]

/-- **A chain says what it was written for.** -/
theorem readChained?_chain (h : r.IsProper) : readChained? (chain r.chained) = some r :=
  readChain?_chain h r.head.tokens_ne_nil (Head.isClean_tokens h.head)
    (readHead?_tokens h.head (readLeaf?_links r))

end

/-! ## Compositions -/

namespace Refinement

/-- A check as a function. -/
def composed (check : Refinement) : List Token := member check.kind.composed check.argument

/-- Reads a check that is a function. -/
def ofComposed? (text : String) : Option Refinement :=
  match readMember? text with
  | none => none
  | some (name, argument) => (CheckKind.all.find? (·.composed == name)).map (⟨·, argument⟩)

theorem isClean_composed {check : Refinement} (h : Balanced check.argument.toList) :
    ∀ t ∈ check.composed, t.IsClean := isClean_member check.kind.isWord_composed h

theorem ofComposed?_chain {check : Refinement} (h : Balanced check.argument.toList) :
    ofComposed? (chain check.composed) = some check := by
  rw [ofComposed?, composed, readMember?_chain check.kind.isWord_composed h]
  obtain ⟨kind, argument⟩ := check
  cases kind <;> rfl

end Refinement

namespace Layer

/-- The function that puts a layer around an expression. -/
def wrapper : Layer → String
  | .array => "array"
  | .nullable => "nullable"
  | .optional => "optional"
  | .transform _ => "pipe"

/-- The arguments of that function. -/
def wrapped (inner : String) : Layer → String
  | .array | .nullable | .optional => inner
  | .transform t => ", ".intercalate [inner, chain (member "transform" t.text)]

/-- A layer around an expression. -/
def composed (inner : String) (layer : Layer) : List Token :=
  member layer.wrapper (layer.wrapped inner)

/-- The expression and the layer around it, given the function that is called. -/
def ofCall? (name argument : String) : Option (String × Layer) :=
  match name with
  | "array" => some (argument, .array)
  | "nullable" => some (argument, .nullable)
  | "optional" => some (argument, .optional)
  | "pipe" =>
    match readArguments argument with
    | [inner, second] =>
      match readMember? second with
      | some ("transform", body) => (readTransform? body).map fun t => (inner, .transform t)
      | _ => none
    | _ => none
  | _ => none

/-- Takes the outermost layer off an expression. -/
def takeOff? (text : String) : Option (String × Layer) :=
  match readMember? text with
  | none => none
  | some (name, argument) => ofCall? name argument

theorem length_le_of_ofCall? {name argument inner : String} {layer : Layer}
    (h : ofCall? name argument = some (inner, layer)) : inner.length ≤ argument.length := by
  unfold ofCall? at h
  split at h
  · cases h; exact Nat.le_refl _
  · cases h; exact Nat.le_refl _
  · cases h; exact Nat.le_refl _
  · split at h
    · next first second harguments =>
      split at h
      · rw [Option.map_eq_some_iff] at h
        obtain ⟨t, -, h⟩ := h
        cases h
        exact length_le_of_mem_readArguments (harguments ▸ List.mem_cons_self)
      · cases h
    · cases h
  · cases h

/-- What is inside of a layer is shorter. -/
theorem length_lt_of_takeOff? {text inner : String} {layer : Layer}
    (h : takeOff? text = some (inner, layer)) : inner.length < text.length := by
  rw [takeOff?] at h
  split at h
  · cases h
  · next name argument hmember =>
    have hle := length_le_of_ofCall? h
    have hlt := length_lt_of_readMember? hmember
    omega

variable {tokens : List Token}

theorem isWord_wrapper (layer : Layer) : Token.IsWord layer.wrapper := by
  have hpipe : Token.IsWord "pipe" := by decide
  cases layer with
  | transform t => exact hpipe
  | array | nullable | optional => decide

theorem balanced_wrapped (h : ∀ t ∈ tokens, t.IsClean) (layer : Layer) :
    Balanced (layer.wrapped (chain tokens)).toList := by
  cases layer with
  | transform t =>
    have hfunction := isClean_member isWord_transform (balanced_transform t)
    refine balanced_intercalate ?_
    simp only [List.forall_mem_cons]
    exact ⟨balanced_chain h, balanced_chain hfunction, List.forall_mem_nil _⟩
  | array | nullable | optional => exact balanced_chain h

theorem isClean_composed (h : ∀ t ∈ tokens, t.IsClean) (layer : Layer) :
    ∀ t ∈ layer.composed (chain tokens), t.IsClean :=
  isClean_member layer.isWord_wrapper (balanced_wrapped h layer)

/-- The layer that was put on last is the one that is taken off. -/
theorem takeOff?_composed (h : ∀ t ∈ tokens, t.IsClean) (layer : Layer) :
    takeOff? (chain (layer.composed (chain tokens))) = some (chain tokens, layer) := by
  rw [takeOff?, composed, readMember?_chain layer.isWord_wrapper (balanced_wrapped h layer)]
  cases layer with
  | transform t =>
    have hfunction := isClean_member isWord_transform (balanced_transform t)
    have harguments : readArguments (", ".intercalate
        [chain tokens, chain (member "transform" t.text)])
        = [chain tokens, chain (member "transform" t.text)] := by
      refine readArguments_intercalate (List.cons_ne_nil _ _) ?_
      simp only [List.forall_mem_cons]
      exact ⟨leads_chain h (by simp), leads_chain hfunction (by simp), List.forall_mem_nil _⟩
    have hread := readMember?_chain isWord_transform (balanced_transform t)
    simp only [wrapper, wrapped, ofCall?, harguments, hread, readTransform?_text, Option.map_some]
  | array | nullable | optional => rfl

end Layer

/-- The call of the checks, if there are any. -/
def checkCall (checks : List Refinement) : List Token :=
  if checks = [] then []
  else [⟨"check", some (", ".intercalate (checks.map fun check => chain check.composed))⟩]

/-- The tokens of what is checked, with the checks. -/
def Reading.checked (r : Reading) : List Token := r.head.tokens ++ checkCall r.checks

/-- The composition of a reading. -/
def Reading.composed (r : Reading) : List Token :=
  r.layers.foldl (fun tokens layer => layer.composed (chain tokens)) r.checked

/-- Reads an expression without layers. -/
def readChecked? (text : String) : Option Reading := do
  let tokens ← readTokens? text
  let (head, tokens) ← readHead? tokens
  match tokens with
  | [] => return ⟨head, [], []⟩
  | [⟨"check", some list⟩] =>
    let checks ← (readArguments list).mapM Refinement.ofComposed?
    return ⟨head, checks, []⟩
  | _ => none

/-- **The reader of the composed dialect.** -/
def readComposed? (text : String) : Option Reading :=
  match _ : Layer.takeOff? text with
  | some (inner, layer) =>
    (readComposed? inner).map fun r => { r with layers := r.layers ++ [layer] }
  | none => readChecked? text
termination_by text.length
decreasing_by exact Layer.length_lt_of_takeOff? ‹_›

section

variable {r : Reading}

theorem checkCall_cases (checks : List Refinement) :
    checks = [] ∧ checkCall checks = [] ∨
      checks ≠ [] ∧ checkCall checks
        = [⟨"check", some (", ".intercalate (checks.map fun check => chain check.composed))⟩] := by
  by_cases hchecks : checks = []
  · exact .inl ⟨hchecks, if_pos hchecks⟩
  · exact .inr ⟨hchecks, if_neg hchecks⟩

theorem isClean_checked (h : r.IsProper) : ∀ t ∈ r.checked, t.IsClean := by
  intro t ht
  rcases List.mem_append.mp ht with ht | ht
  · exact Head.isClean_tokens h.head t ht
  rcases checkCall_cases r.checks with ⟨-, hcall⟩ | ⟨-, hcall⟩
  · rw [hcall] at ht
    cases ht
  · rw [hcall] at ht
    obtain rfl := List.mem_singleton.mp ht
    refine Token.isClean_call (by decide) (balanced_intercalate fun s hs => ?_)
    obtain ⟨check, hcheck, rfl⟩ := List.mem_map.mp hs
    exact balanced_chain (Refinement.isClean_composed (h.balanced check hcheck))

theorem readTokens?_checked (h : r.IsProper) : readTokens? (chain r.checked) = some r.checked :=
  readTokens?_chain (List.append_ne_nil_of_left_ne_nil r.head.tokens_ne_nil _) (isClean_checked h)

/-- What is checked is not taken for a layer. -/
theorem takeOff?_checked (h : r.IsProper) : Layer.takeOff? (chain r.checked) = none := by
  rw [Layer.takeOff?, readMember?, readTokens?_checked h, Reading.checked]
  rcases checkCall_cases r.checks with ⟨-, hcall⟩ | ⟨-, hcall⟩
  · rw [hcall]
    cases r.head with
    | leaf type => cases type <;> rfl
    | coercedDate | enumeration members | reference name => rfl
  · rw [hcall]
    cases r.head with
    | leaf type | coercedDate | enumeration members => rfl
    | reference name =>
      -- a schema named like the namespace: its checks are no function that puts a layer on
      by_cases hname : name = "z"
      · rw [hname]
        rfl
      · simp [Head.tokens, namespaceToken, hname]

theorem readChecked?_checked (h : r.IsProper) :
    readChecked? (chain r.checked) = some ⟨r.head, r.checks, []⟩ := by
  have hcall : readLeaf? (checkCall r.checks) = none := by
    rcases checkCall_cases r.checks with ⟨-, hcall⟩ | ⟨-, hcall⟩
    · rw [hcall]
      rfl
    · simp [hcall, readLeaf?, SemanticType.labels]
  have hhead : readHead? r.checked = some (r.head, checkCall r.checks) :=
    readHead?_tokens h.head hcall
  rw [readChecked?, readTokens?_checked h]
  rcases checkCall_cases r.checks with ⟨hnone, hcall⟩ | ⟨hsome, hcall⟩
  · rw [hcall] at hhead
    simp [hhead, hnone]
  · have hcomma : ∀ s ∈ r.checks.map fun check => chain check.composed,
        Leads ',' (.code 0) s.toList (.code 0) := by
      intro s hs
      obtain ⟨check, hcheck, rfl⟩ := List.mem_map.mp hs
      exact leads_chain (Refinement.isClean_composed (h.balanced check hcheck)) (by simp)
    have hlist := readArguments_intercalate (by simpa using hsome) hcomma
    have hchecks : (r.checks.map fun check => chain check.composed).mapM Refinement.ofComposed?
        = some r.checks :=
      mapM_map fun check hcheck => Refinement.ofComposed?_chain (h.balanced check hcheck)
    simp [hhead, hcall, hlist, hchecks]

/-- What is around an expression is read after it. -/
theorem readComposed?_composed {tokens : List Token} (h : ∀ t ∈ tokens, t.IsClean)
    (hread : readComposed? (chain tokens) = some r) (layer : Layer) :
    readComposed? (chain (layer.composed (chain tokens)))
      = some { r with layers := r.layers ++ [layer] } := by
  rw [readComposed?]
  split
  · next inner layer' hoff =>
    rw [Layer.takeOff?_composed h] at hoff
    cases hoff
    rw [hread]
    rfl
  · next hoff =>
    rw [Layer.takeOff?_composed h] at hoff
    cases hoff

/-- The layer that is put on last is read first, so what is inside is any expression. -/
theorem readComposed?_foldl {tokens : List Token} (h : ∀ t ∈ tokens, t.IsClean)
    (hread : readComposed? (chain tokens) = some r) (layers : List Layer) :
    readComposed? (chain (layers.foldl (fun tokens layer => layer.composed (chain tokens)) tokens))
      = some { r with layers := r.layers ++ layers } := by
  induction layers generalizing tokens r with
  | nil => simpa using hread
  | cons layer layers ih =>
    rw [List.foldl_cons, ih (Layer.isClean_composed h layer) (readComposed?_composed h hread layer)]
    simp

/-- **A composition says what it was written for.** -/
theorem readComposed?_chain (h : r.IsProper) : readComposed? (chain r.composed) = some r := by
  have hchecked : readComposed? (chain r.checked) = some ⟨r.head, r.checks, []⟩ := by
    rw [readComposed?]
    split
    · next hoff =>
      rw [takeOff?_checked h] at hoff
      cases hoff
    · exact readChecked?_checked h
  exact readComposed?_foldl (isClean_checked h) hchecked r.layers

end

end ValidatorGen.Expression
