/-
Texts in which parentheses and square brackets outside of literals close in order
(`Nested`). Inside a pair such a text changes nothing: a pair of parentheses around it is
the outer one and is taken off (`stripOuterParens_inParens`), and a separator in it does
not count (`Uncut.parens`). A text that goes on after its first pair keeps that pair
(`stripOuterParens_group`).
-/
import ValidatorGen.Proofs.Check.Literal
import ValidatorGen.Proofs.Text.Blank

namespace ValidatorGen.Check

open Text

/-- A character that is neither a quote nor a bracket. -/
def isPlain (c : Char) : Bool :=
  c != quote && c != '(' && c != ')' && c != '[' && c != ']'

theorem isPlain_iff {c : Char} :
    isPlain c = true ↔ c ≠ quote ∧ c ≠ '(' ∧ c ≠ ')' ∧ c ≠ '[' ∧ c ≠ ']' := by
  simp [isPlain, and_assoc]

/-- Brackets outside of literals close in order, and every literal ends. -/
inductive Nested : List Char → Prop
  | nil : Nested []
  | plain {c : Char} {t : List Char} : isPlain c = true → Nested t → Nested (c :: t)
  | literal (v : List Char) {t : List Char} : Nested t → Nested (quoted v ++ t)
  | parens {s t : List Char} : Nested s → Nested t → Nested ('(' :: (s ++ ')' :: t))
  | brackets {s t : List Char} : Nested s → Nested t → Nested ('[' :: (s ++ ']' :: t))

namespace Nested

theorem append {s t : List Char} (hs : Nested s) (ht : Nested t) : Nested (s ++ t) := by
  induction hs with
  | nil => exact ht
  | plain hc _ ih => exact .plain hc ih
  | literal v _ ih =>
    rw [List.append_assoc]
    exact .literal v ih
  | parens h _ _ ih =>
    rw [List.cons_append, List.append_assoc, List.cons_append]
    exact .parens h ih
  | brackets h _ _ ih =>
    rw [List.cons_append, List.append_assoc, List.cons_append]
    exact .brackets h ih

theorem of_all_plain {t : List Char} (h : t.all isPlain = true) : Nested t := by
  induction t with
  | nil => exact .nil
  | cons c t ih =>
    rw [List.all_cons, Bool.and_eq_true] at h
    exact .plain h.1 (ih h.2)

theorem quoted (v : List Char) : Nested (quoted v) := by
  simpa using Nested.literal v .nil

theorem inPair {s : List Char} (h : Nested s) : Nested ('(' :: (s ++ [')'])) := .parens h .nil

end Nested

/-- So many pairs of parentheses around a text. -/
def inParens : Nat → List Char → List Char
  | 0, t => t
  | n + 1, t => '(' :: (inParens n t ++ [')'])

theorem inParens_succ (n : Nat) (t : List Char) :
    inParens (n + 1) t = '(' :: (inParens n t ++ [')']) := rfl

theorem inParens_eq (n : Nat) (t : List Char) :
    inParens n t = List.replicate n '(' ++ (t ++ List.replicate n ')') := by
  induction n with
  | zero => simp [inParens]
  | succ n ih =>
    rw [inParens, ih, List.replicate_succ, List.replicate_succ']
    simp

theorem Nested.inParens {t : List Char} (h : Nested t) (n : Nat) : Nested (inParens n t) := by
  induction n with
  | zero => exact h
  | succ n ih => exact ih.inPair

/-! ## Which parenthesis closes last -/

theorem closesLast_escape (depth : Int) (v rest : List Char) :
    closesLast depth true (escape v ++ quote :: rest) = closesLast depth false rest := by
  induction v with
  | nil => simp [escape, closesLast]
  | cons c v ih =>
    by_cases h : c = quote
    · subst h
      simpa [escape_cons_quote, closesLast] using ih
    · simpa [escape_cons_of_ne h, closesLast, h] using ih

theorem closesLast_quoted (depth : Int) (v rest : List Char) :
    closesLast depth false (quoted v ++ rest) = closesLast depth false rest := by
  have h := closesLast_escape depth v rest
  simpa [quoted, closesLast] using h

theorem closesLast_cons_of_ne {c : Char} (hq : c ≠ quote) (ho : c ≠ '(') (hc : c ≠ ')')
    (depth : Int) (rest : List Char) :
    closesLast depth false (c :: rest) = closesLast depth false rest := by
  simp [closesLast, hq, ho, hc]

theorem closesLast_open (depth : Int) (rest : List Char) :
    closesLast depth false ('(' :: rest) = closesLast (depth + 1) false rest := by
  simp [closesLast, show ('(' : Char) ≠ quote by decide]

theorem closesLast_close {depth : Int} (rest : List Char) (h : depth ≠ 1 ∨ rest = []) :
    closesLast depth false (')' :: rest) = closesLast (depth - 1) false rest := by
  have hne : ¬(depth - 1 = 0 ∧ rest ≠ []) := by
    rintro ⟨hd, hr⟩
    rcases h with h | h
    · omega
    · exact hr h
  simp only [closesLast, show (')' : Char) ≠ quote by decide, if_false, Bool.false_eq_true]
  rw [if_neg (by decide), if_pos trivial, if_neg (by simpa using hne)]

/-- Below the first parenthesis, a nested text is passed over. -/
theorem Nested.closesLast_append {t : List Char} (h : Nested t) (rest : List Char) {depth : Int}
    (hd : 0 < depth) : closesLast depth false (t ++ rest) = closesLast depth false rest := by
  induction h generalizing depth rest with
  | nil => rfl
  | plain hc _ ih =>
    obtain ⟨hq, ho, hp, -, -⟩ := isPlain_iff.mp hc
    rw [List.cons_append, closesLast_cons_of_ne hq ho hp, ih rest hd]
  | literal v _ ih => rw [List.append_assoc, closesLast_quoted, ih rest hd]
  | parens _ _ ihs iht =>
    rw [List.cons_append, List.append_assoc, List.cons_append, closesLast_open,
      ihs _ (by omega), closesLast_close _ (.inl (by omega)), Int.add_sub_cancel, iht rest hd]
  | brackets _ _ ihs iht =>
    rw [List.cons_append, List.append_assoc, List.cons_append,
      closesLast_cons_of_ne (by decide) (by decide) (by decide), ihs _ hd,
      closesLast_cons_of_ne (by decide) (by decide) (by decide), iht rest hd]

theorem Nested.closesLast_inPair {t : List Char} (h : Nested t) :
    closesLast 0 false ('(' :: (t ++ [')'])) = true := by
  rw [closesLast_open, h.closesLast_append _ (by decide), closesLast_close _ (.inr rfl)]
  rfl

theorem Nested.closesLast_group {t rest : List Char} (h : Nested t) (hr : rest ≠ []) :
    closesLast 0 false ('(' :: (t ++ ')' :: rest)) = false := by
  rw [closesLast_open, h.closesLast_append _ (by decide)]
  simp [closesLast, hr, show (')' : Char) ≠ quote by decide]

/-! ## Pairs around the whole text -/

theorem outerParens?_inPair {t : List Char} (h : Nested t) :
    outerParens? ('(' :: (t ++ [')'])) = some (trim t) := by
  simp [outerParens?, h.closesLast_inPair]

theorem outerParens?_group {t rest : List Char} (h : Nested t) (hr : rest ≠ []) :
    outerParens? ('(' :: (t ++ ')' :: rest)) = none := by
  simp [outerParens?, h.closesLast_group hr]

theorem outerParens?_of_head {t : List Char} (h : t.head? ≠ some '(') : outerParens? t = none := by
  unfold outerParens?
  split
  · simp at h
  · rfl

theorem length_outerParens? {t u : List Char} (h : outerParens? t = some u) :
    u.length < t.length := by
  unfold outerParens? at h
  split at h
  next rest =>
    split at h
    · simp only [Option.some.injEq] at h
      subst h
      have h₁ := length_trim_le rest.dropLast
      simp only [List.length_dropLast, List.length_cons] at h₁ ⊢
      omega
    · simp at h
  · simp at h

/-- The length of a text is enough rounds for it. -/
theorem stripPairs_of_length_le {n m : Nat} {t : List Char} (hn : t.length ≤ n)
    (hm : t.length ≤ m) : stripPairs n t = stripPairs m t := by
  induction n generalizing m t with
  | zero =>
    have ht : t = [] := List.length_eq_zero_iff.mp (Nat.le_zero.mp hn)
    subst ht
    cases m <;> rfl
  | succ n ih =>
    cases m with
    | zero =>
      have ht : t = [] := List.length_eq_zero_iff.mp (Nat.le_zero.mp hm)
      subst ht
      rfl
    | succ m =>
      unfold stripPairs
      split
      · next inside h =>
        have hlt := length_outerParens? h
        exact ih (by omega) (by omega)
      · rfl

theorem stripOuterParens_cons_blank {c : Char} (h : isBlank c = true) (t : List Char) :
    stripOuterParens (c :: t) = stripOuterParens t := by
  unfold stripOuterParens
  rw [trim_cons h]
  exact stripPairs_of_length_le (Nat.le_trans (length_trim_le t) (by simp)) (length_trim_le t)

theorem stripOuterParens_concat_blank {c : Char} (h : isBlank c = true) (t : List Char) :
    stripOuterParens (t ++ [c]) = stripOuterParens t := by
  unfold stripOuterParens
  rw [trim_concat h]
  exact stripPairs_of_length_le (Nat.le_trans (length_trim_le t) (by simp)) (length_trim_le t)

theorem tight_inPair (t : List Char) : Tight ('(' :: (t ++ [')'])) where
  head c h := by
    obtain rfl : '(' = c := by simpa using h
    rfl
  last c h := by
    rw [← List.cons_append, List.getLast?_concat] at h
    cases h
    rfl

theorem tight_brackets (t : List Char) : Tight ('[' :: (t ++ [']'])) where
  head c h := by
    obtain rfl : '[' = c := by simpa using h
    rfl
  last c h := by
    rw [← List.cons_append, List.getLast?_concat] at h
    cases h
    rfl

theorem stripOuterParens_inPair {t : List Char} (h : Nested t) :
    stripOuterParens ('(' :: (t ++ [')'])) = stripOuterParens t := by
  unfold stripOuterParens
  rw [(tight_inPair t).trim_eq, List.length_cons, stripPairs, outerParens?_inPair h]
  exact stripPairs_of_length_le (Nat.le_trans (length_trim_le t) (by simp)) (length_trim_le t)

/-- Pairs around a nested text are taken off, however many they are. -/
theorem stripOuterParens_inParens {t : List Char} (h : Nested t) (n : Nat) :
    stripOuterParens (inParens n t) = stripOuterParens t := by
  induction n with
  | zero => rfl
  | succ n ih => rw [inParens, stripOuterParens_inPair (h.inParens n), ih]

/-- A text in no pair of parentheses is only trimmed. -/
theorem stripOuterParens_of_trim {t : List Char} (h : outerParens? (trim t) = none) :
    stripOuterParens t = trim t := by
  unfold stripOuterParens
  cases t with
  | nil => rfl
  | cons c t => rw [List.length_cons, stripPairs, h]

theorem stripOuterParens_of_tight {t : List Char} (ht : Tight t) (h : outerParens? t = none) :
    stripOuterParens t = t := by
  rw [stripOuterParens_of_trim (by rwa [ht.trim_eq]), ht.trim_eq]

theorem stripOuterParens_trimStart (t : List Char) :
    stripOuterParens (trimStart t) = stripOuterParens t := by
  induction t with
  | nil => rfl
  | cons c t ih =>
    cases hc : isBlank c with
    | true => rw [trimStart_cons hc, ih, stripOuterParens_cons_blank hc]
    | false => rw [trimStart_cons_of_not hc]

/-- A text that starts with neither white space nor a parenthesis is only trimmed at its end. -/
theorem stripOuterParens_of_start {c : Char} (hb : isBlank c = false) (hc : c ≠ '(')
    (t : List Char) : stripOuterParens (c :: t) = c :: trimEnd t := by
  have htrim : trim (c :: t) = c :: trimEnd t := by
    have hstart : ∀ d, (c :: t).head? = some d → isBlank d = false := fun d hd =>
      Option.some.inj hd ▸ hb
    rw [trim_of_head hstart, trimEnd_cons_of_not hb]
  have hnone : outerParens? (c :: trimEnd t) = none := outerParens?_of_head (by simpa using hc)
  rw [stripOuterParens, htrim, List.length_cons, stripPairs, hnone]

/-- What is inside of a pair of parentheses, and what is around it. -/
theorem exists_append_of_outerParens? {t u : List Char} (h : outerParens? t = some u) :
    ∃ a b, t = a ++ (u ++ b) ∧ (∀ c ∈ a, isBlank c = true ∨ c = '(')
      ∧ ∀ c ∈ b, isBlank c = true ∨ c = ')' := by
  unfold outerParens? at h
  split at h
  next rest =>
    obtain ⟨hcond, h⟩ := Option.ite_none_right_eq_some.mp h
    obtain rfl := Option.some.inj h
    rw [Bool.and_eq_true, decide_eq_true_eq] at hcond
    obtain ⟨a, b, hab, ha, hb⟩ := exists_append_stripWhile isBlank rest.dropLast
    refine ⟨'(' :: a, b ++ [')'], ?_, ?_, ?_⟩
    · obtain ⟨init, rfl⟩ := List.getLast?_eq_some_iff.mp hcond.1
      rw [List.dropLast_concat] at hab ⊢
      rw [trim, List.cons_append, ← List.append_assoc _ b, ← List.append_assoc a, ← hab]
    · intro c hc
      rcases List.mem_cons.mp hc with rfl | hc
      · exact .inr rfl
      · exact .inl (ha c hc)
    · intro c hc
      rcases List.mem_append.mp hc with hc | hc
      · exact .inl (hb c hc)
      · exact .inr (List.mem_singleton.mp hc)
  · cases h

/-- Only white space and parentheses are taken off a text. -/
theorem exists_append_stripOuterParens (t : List Char) :
    ∃ a b, t = a ++ (stripOuterParens t ++ b) ∧ (∀ c ∈ a, isBlank c = true ∨ c = '(')
      ∧ ∀ c ∈ b, isBlank c = true ∨ c = ')' := by
  have pairs : ∀ n u, ∃ a b, u = a ++ (stripPairs n u ++ b)
      ∧ (∀ c ∈ a, isBlank c = true ∨ c = '(') ∧ ∀ c ∈ b, isBlank c = true ∨ c = ')' := by
    intro n
    induction n with
    | zero => exact fun u => ⟨[], [], by simp [stripPairs], by simp, by simp⟩
    | succ n ih =>
      intro u
      rw [stripPairs]
      split
      · next v hv =>
        obtain ⟨a, b, hab, ha, hb⟩ := exists_append_of_outerParens? hv
        obtain ⟨a', b', hab', ha', hb'⟩ := ih v
        refine ⟨a ++ a', b' ++ b, ?_, ?_, ?_⟩
        · generalize stripPairs n v = w at hab'
          subst hab'
          rw [hab]
          simp only [List.append_assoc]
        · exact fun c hc => (List.mem_append.mp hc).elim (ha c) (ha' c)
        · exact fun c hc => (List.mem_append.mp hc).elim (hb' c) (hb c)
      · exact ⟨[], [], by simp, by simp, by simp⟩
  obtain ⟨a, b, hab, ha, hb⟩ := exists_append_stripWhile isBlank t
  obtain ⟨a', b', hab', ha', hb'⟩ := pairs t.length (trim t)
  refine ⟨a ++ a', b' ++ b, ?_, ?_, ?_⟩
  · rw [List.append_assoc, stripOuterParens, ← List.append_assoc _ b', ← List.append_assoc a',
      ← hab', trim, ← hab]
  · exact fun c hc => (List.mem_append.mp hc).elim (fun hc => .inl (ha c hc)) (ha' c)
  · exact fun c hc => (List.mem_append.mp hc).elim (hb' c) fun hc => .inl (hb c hc)

/-- A text that does not start with a parenthesis is only trimmed. -/
theorem stripOuterParens_of_head {t : List Char} (ht : Tight t) (h : t.head? ≠ some '(') :
    stripOuterParens t = t :=
  stripOuterParens_of_tight ht (outerParens?_of_head h)

/-- A pair with text after it stays. -/
theorem stripOuterParens_group {t rest : List Char} (h : Nested t) (hr : rest ≠ [])
    (ht : Tight ('(' :: (t ++ ')' :: rest))) :
    stripOuterParens ('(' :: (t ++ ')' :: rest)) = '(' :: (t ++ ')' :: rest) :=
  stripOuterParens_of_tight ht (outerParens?_group h hr)

/-! ## Texts that start with no parenthesis -/

/-- A text that closes its brackets and starts with neither a parenthesis nor white space. -/
structure Solid (t : List Char) : Prop where
  nested : Nested t
  tight : Tight t
  head : t.head? ≠ some '('
  ne_nil : t ≠ []

namespace Solid

variable {t : List Char}

/-- Pairs around a solid text are taken off and nothing else. -/
theorem stripOuterParens_eq (h : Solid t) (n : Nat) : stripOuterParens (inParens n t) = t := by
  rw [stripOuterParens_inParens h.nested, stripOuterParens_of_head h.tight h.head]

theorem tight_inParens (h : Solid t) (n : Nat) : Tight (inParens n t) := by
  cases n with
  | zero => exact h.tight
  | succ n => exact tight_inPair _

theorem inParens_ne_nil (h : Solid t) (n : Nat) : inParens n t ≠ [] := by
  cases n with
  | zero => exact h.ne_nil
  | succ n => simp [inParens]

/-- Pairs around the first part of a text stay. -/
theorem stripOuterParens_append (h : Solid t) (n : Nat) {rest : List Char} (hr : rest ≠ [])
    (ht : Tight (inParens n t ++ rest)) :
    stripOuterParens (inParens n t ++ rest) = inParens n t ++ rest := by
  cases n with
  | zero =>
    refine stripOuterParens_of_head ht ?_
    have hh := h.head
    obtain ⟨c, t, rfl⟩ := List.exists_cons_of_ne_nil h.ne_nil
    exact hh
  | succ n =>
    have hform : inParens (n + 1) t ++ rest = '(' :: (inParens n t ++ ')' :: rest) := by
      simp [inParens]
    rw [hform] at ht ⊢
    exact stripOuterParens_group (h.nested.inParens n) hr ht

/-- A solid text goes on to another one that closes its brackets. -/
theorem append (h : Solid t) {m u : List Char} (hm : Nested m) (hu : Nested u) (ht : Tight u)
    (hne : u ≠ []) : Solid (t ++ (m ++ u)) where
  nested := h.nested.append (hm.append hu)
  tight := h.tight.between h.ne_nil ht hne m
  head := by
    have hh := h.head
    obtain ⟨c, t, rfl⟩ := List.exists_cons_of_ne_nil h.ne_nil
    exact hh
  ne_nil := by simp [h.ne_nil]

end Solid

/-! ## Separators inside of brackets and literals -/

theorem foldr_consHead (t p : List Char) (ps : List (List Char)) :
    t.foldr consHead (p :: ps) = (t ++ p) :: ps := by
  induction t with
  | nil => rfl
  | cons c t ih => rw [List.foldr_cons, ih]; rfl

theorem splitFrom_escape (sep : Separator) (depth : Int) (before : Option Char)
    (v rest : List Char) :
    splitFrom sep 0 depth true before (escape v ++ quote :: rest)
      = (escape v ++ [quote]).foldr consHead (splitFrom sep 0 depth false (some quote) rest) := by
  induction v generalizing before with
  | nil => simp [escape, splitFrom]
  | cons c v ih =>
    by_cases h : c = quote
    · subst h
      simpa [escape_cons_quote, splitFrom] using congrArg _ (congrArg _ (ih _))
    · simpa [escape_cons_of_ne h, splitFrom, h] using congrArg _ (ih _)

theorem splitFrom_quoted (sep : Separator) (depth : Int) (before : Option Char)
    (v rest : List Char) :
    splitFrom sep 0 depth false before (quoted v ++ rest)
      = (quoted v).foldr consHead (splitFrom sep 0 depth false (some quote) rest) := by
  have h := splitFrom_escape sep depth (some quote) v rest
  simpa [quoted, splitFrom] using congrArg _ h

/-- A character that no separator starts with. -/
theorem splitFrom_cons (sep : Separator) {c : Char} (hq : c ≠ quote) (depth : Int)
    (before : Option Char) (rest : List Char)
    (h : depth + bracketStep c = 0 → sep.length? before (c :: rest) = none) :
    splitFrom sep 0 depth false before (c :: rest)
      = consHead c (splitFrom sep 0 (depth + bracketStep c) false (some c) rest) := by
  have hn : (if depth + bracketStep c = 0 then sep.length? before (c :: rest) else none)
      = none := by
    split
    · next hd => exact h hd
    · rfl
  rw [splitFrom, if_neg hq, if_neg Bool.false_ne_true, hn]

theorem length?_of_ne (sep : Separator) {c : Char} (hc : c ≠ ',') (ho : c ≠ 'o') (hO : c ≠ 'O')
    (before : Option Char) (rest : List Char) : sep.length? before (c :: rest) = none := by
  cases sep with
  | comma => simp [Separator.length?, hc]
  | orWord => cases rest <;> simp [Separator.length?, startsWithOr, ho, hO]

/-- How deep in brackets a text ends that starts at `depth`. -/
def depthFrom (depth : Int) (t : List Char) : Int := t.foldl (fun d c => d + bracketStep c) depth

@[simp] theorem depthFrom_nil (depth : Int) : depthFrom depth [] = depth := rfl

theorem depthFrom_cons (depth : Int) (c : Char) (t : List Char) :
    depthFrom depth (c :: t) = depthFrom (depth + bracketStep c) t := rfl

theorem bracketStep_of_plain {c : Char} (h : isPlain c = true) : bracketStep c = 0 := by
  obtain ⟨-, h₁, h₂, h₃, h₄⟩ := isPlain_iff.mp h
  simp [bracketStep, h₁, h₂, h₃, h₄]

/-- Below a bracket, what comes before does not matter. -/
theorem splitFrom_before (sep : Separator) {depth : Int} (hd : 0 < depth)
    (b b' : Option Char) (t : List Char) :
    splitFrom sep 0 depth false b t = splitFrom sep 0 depth false b' t := by
  cases t with
  | nil => rfl
  | cons c t =>
    by_cases hq : c = quote
    · subst hq
      simp [splitFrom]
    · have hn : ∀ b : Option Char, depth + bracketStep c = 0 → sep.length? b (c :: t) = none := by
        intro b h
        have hs : bracketStep c ≠ 0 := by omega
        have hc : ∀ d : Char, bracketStep d = 0 → c ≠ d := fun d h₁ h₂ => hs (h₂ ▸ h₁)
        exact length?_of_ne sep (hc _ rfl) (hc _ rfl) (hc _ rfl) b t
      rw [splitFrom_cons sep hq depth b t (hn b), splitFrom_cons sep hq depth b' t (hn b')]

/-- Below a bracket, a nested text is passed over. -/
theorem Nested.splitFrom_append {t : List Char} (h : Nested t) (sep : Separator)
    (rest : List Char) {depth : Int} (hd : 0 < depth) (b b' : Option Char) :
    splitFrom sep 0 depth false b (t ++ rest)
      = t.foldr consHead (splitFrom sep 0 depth false b' rest) := by
  have bracket : ∀ {c : Char} (_ : bracketStep c ≠ 0) (_ : c ≠ quote) (d : Int)
      (b : Option Char) (rest : List Char), splitFrom sep 0 d false b (c :: rest)
        = consHead c (splitFrom sep 0 (d + bracketStep c) false (some c) rest) := by
    intro c hc hq d b rest
    have hne : ∀ d : Char, bracketStep d = 0 → c ≠ d := fun d h₁ h₂ => hc (h₂ ▸ h₁)
    exact splitFrom_cons sep hq d b rest fun _ =>
      length?_of_ne sep (hne _ rfl) (hne _ rfl) (hne _ rfl) b rest
  -- inside brackets no separator counts, so the character before one may be any
  induction h generalizing depth rest b b' with
  | nil => exact splitFrom_before sep hd b b' rest
  | plain hc _ ih =>
    have hs := bracketStep_of_plain hc
    rw [List.cons_append, splitFrom_cons sep (isPlain_iff.mp hc).1 depth b _ (by omega), hs,
      Int.add_zero, ih rest hd _ b', List.foldr_cons]
  | literal v _ ih =>
    rw [List.append_assoc, splitFrom_quoted, ih rest hd _ b', List.foldr_append]
  | parens _ _ ihs iht =>
    have hs : depth + bracketStep '(' + bracketStep ')' = depth := Int.add_sub_cancel depth 1
    rw [List.cons_append, List.append_assoc, List.cons_append, bracket (by decide) (by decide),
      ihs _ (Int.add_pos hd (by decide)) _ none, bracket (by decide) (by decide), hs,
      iht rest hd _ b', List.foldr_cons, List.foldr_append, List.foldr_cons]
  | brackets _ _ ihs iht =>
    have hs : depth + bracketStep '[' + bracketStep ']' = depth := Int.add_sub_cancel depth 1
    rw [List.cons_append, List.append_assoc, List.cons_append, bracket (by decide) (by decide),
      ihs _ (Int.add_pos hd (by decide)) _ none, bracket (by decide) (by decide), hs,
      iht rest hd _ b', List.foldr_cons, List.foldr_append, List.foldr_cons]

end ValidatorGen.Check
