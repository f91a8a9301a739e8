/-
Cutting expressions up. A mark counts where it stands outside of all brackets and strings; the
texts between such marks are the pieces (`pieces`). An expression is a chain of tokens between
dots, a token a name with or without an argument in brackets, and an argument may again hold
anything whose brackets match. **A chain is read back token by token** (`readTokens?_chain`),
and so is a list of arguments (`readArguments_intercalate`), whatever brackets, commas and
quotes stand inside of arguments and strings.
-/
import Mathlib.Data.List.TakeWhile
import ValidatorGen.Validator.Spelling

namespace ValidatorGen.Expression

open Validator

/-! ## Places -/

/-- Where a place in an expression is: so many brackets deep, and whether in a string. -/
inductive Place
  | code (depth : Nat)
  | quoted (depth : Nat)
  /-- In a string, after a backslash. -/
  | escaped (depth : Nat)
  deriving DecidableEq, Repr

namespace Place

/-- The place after a character. -/
def next : Place → Char → Place
  | .code depth, c =>
    if c = '(' then .code (depth + 1) else if c = ')' then .code (depth - 1)
    else if c = '"' then .quoted depth else .code depth
  | .quoted depth, c =>
    if c = '"' then .code depth else if c = '\\' then .escaped depth else .quoted depth
  | .escaped depth, _ => .quoted depth

/-- The same place with one more pair of brackets around. -/
def deeper : Place → Place
  | .code depth => .code (depth + 1)
  | .quoted depth => .quoted (depth + 1)
  | .escaped depth => .escaped (depth + 1)

/-- Only a bracket that closes none of the text's own notices the brackets around. -/
theorem next_deeper {p : Place} {c : Char} (h : ¬ (p = .code 0 ∧ c = ')')) :
    p.deeper.next c = (p.next c).deeper := by
  cases p with
  | code depth =>
    simp only [deeper, next]
    split
    · rfl
    split
    · next hclose =>
      have hdepth : depth ≠ 0 := fun h0 => h ⟨by rw [h0], hclose⟩
      have : depth + 1 - 1 = depth - 1 + 1 := by omega
      rw [this]
    split <;> rfl
  | quoted depth =>
    simp only [deeper, next]
    split
    · rfl
    split <;> rfl
  | escaped depth => rfl

theorem deeper_ne_code_zero (p : Place) : p.deeper ≠ .code 0 := by
  cases p <;> simp [deeper]

end Place

/-- A text leads from one place to another, and no mark in it stands outside of all brackets
and strings. -/
def Leads (mark : Char) : Place → List Char → Place → Prop
  | p, [], q => p = q
  | p, c :: text, q => ¬ (p = .code 0 ∧ c = mark) ∧ Leads mark (p.next c) text q

instance Leads.instDecidable (mark : Char) : ∀ p text q, Decidable (Leads mark p text q)
  | p, [], q => inferInstanceAs (Decidable (p = q))
  | p, c :: text, q =>
    have := instDecidable mark (p.next c) text q
    inferInstanceAs (Decidable (_ ∧ _))

/-- The brackets and the strings of a text are complete. -/
def Balanced (text : List Char) : Prop := Leads ')' (.code 0) text (.code 0)

instance : DecidablePred Balanced := fun _ => Leads.instDecidable ..

section

variable {mark : Char} {p q r : Place} {u v : List Char}

theorem Leads.append (hu : Leads mark p u q) (hv : Leads mark q v r) : Leads mark p (u ++ v) r := by
  induction u generalizing p with
  | nil =>
    obtain rfl : p = q := hu
    exact hv
  | cons c u ih => exact ⟨hu.1, ih hu.2⟩

theorem Balanced.append (hu : Balanced u) (hv : Balanced v) : Balanced (u ++ v) :=
  Leads.append hu hv

/-- Texts that each lead back lead back together. -/
theorem leads_flatMap {α : Type} {write : α → List Char} {list : List α}
    (h : ∀ a ∈ list, Leads mark p (write a) p) : Leads mark p (list.flatMap write) p := by
  induction list with
  | nil => rfl
  | cons a list ih =>
    rw [List.flatMap_cons]
    exact (h a List.mem_cons_self).append (ih fun a ha => h a (List.mem_cons_of_mem _ ha))

/-- In brackets no mark is noticed. -/
theorem Leads.deeper (h : Leads ')' p u q) : Leads mark p.deeper u q.deeper := by
  induction u generalizing p with
  | nil => exact congrArg Place.deeper h
  | cons c u ih =>
    refine ⟨fun hp => p.deeper_ne_code_zero hp.1, ?_⟩
    -- a bracket of the text that closed the one around would be a mark of `h`
    rw [Place.next_deeper h.1]
    exact ih h.2

/-- A character that is neither bracket, quote nor mark. -/
def IsPlain (marks : List Char) (c : Char) : Prop := c ∉ '(' :: ')' :: '"' :: marks

instance (marks : List Char) : DecidablePred (IsPlain marks) := fun _ =>
  inferInstanceAs (Decidable (¬ _))

/-- Plain characters lead nowhere else. -/
theorem leads_of_isPlain {marks : List Char} {depth : Nat} (h : ∀ c ∈ u, IsPlain marks c)
    (hmark : mark ∈ ')' :: marks) : Leads mark (.code depth) u (.code depth) := by
  induction u with
  | nil => rfl
  | cons c u ih =>
    have hc := h c List.mem_cons_self
    simp only [IsPlain, List.mem_cons, not_or] at hc
    obtain ⟨hopen, hclose, hquote, hmarks⟩ := hc
    have hne : c ≠ mark := by
      rintro rfl
      rcases List.mem_cons.mp hmark with rfl | hc
      · exact hclose rfl
      · exact hmarks hc
    have hnext : (Place.code depth).next c = .code depth := by
      simp only [Place.next, hopen, hclose, hquote, if_false]
    refine ⟨fun hp => hne hp.2, ?_⟩
    rw [hnext]
    exact ih fun c hc => h c (List.mem_cons_of_mem _ hc)

/-- A text in brackets leads back to where it started. -/
theorem Balanced.leads_brackets (h : Balanced u) (hopen : mark ≠ '(') :
    Leads mark (.code 0) ('(' :: (u ++ [')'])) (.code 0) := by
  refine ⟨fun hp => hopen hp.2.symm, ?_⟩
  refine Leads.append (q := .code 1) h.deeper ⟨?_, rfl⟩
  rintro ⟨hp, -⟩
  cases hp

end

/-! ## Pieces -/

/-- The pieces of a text between the marks outside of all brackets and strings. -/
def pieces (mark : Char) : Place → List Char → List (List Char)
  | _, [] => [[]]
  | p, c :: text =>
    if p = .code 0 ∧ c = mark then [] :: pieces mark p text
    else (pieces mark (p.next c) text).modifyHead (c :: ·)

section

variable {mark : Char} {p q : Place} {u v : List Char}

theorem pieces_append (h : Leads mark p u q) (v : List Char) :
    pieces mark p (u ++ v) = (pieces mark q v).modifyHead (u ++ ·) := by
  induction u generalizing p with
  | nil =>
    obtain rfl : p = q := h
    exact (congrFun List.modifyHead_id _).symm
  | cons c u ih =>
    rw [List.cons_append, pieces, if_neg h.1, ih h.2, List.modifyHead_modifyHead]
    rfl

/-- **Texts that are put together with marks come apart again.** -/
theorem pieces_join {w : List Char} {ws : List (List Char)}
    (hw : Leads mark (.code 0) w (.code 0)) (hws : ∀ v ∈ ws, Leads mark (.code 0) v (.code 0)) :
    pieces mark (.code 0) (w ++ ws.flatMap (mark :: ·)) = w :: ws := by
  induction ws generalizing w with
  | nil => rw [pieces_append hw]; simp [pieces]
  | cons v ws ih =>
    rw [pieces_append hw, List.flatMap_cons, List.cons_append, pieces, if_pos ⟨rfl, rfl⟩,
      ih (hws v List.mem_cons_self) fun v hv => hws v (List.mem_cons_of_mem _ hv)]
    simp

/-- A piece is no longer than the text. -/
theorem length_le_of_mem_pieces (h : u ∈ pieces mark p v) : u.length ≤ v.length := by
  induction v generalizing p u with
  | nil =>
    obtain rfl : u = [] := List.mem_singleton.mp h
    exact Nat.le_refl _
  | cons c v ih =>
    rw [pieces] at h
    split at h
    · rcases List.mem_cons.mp h with rfl | h
      · simp
      · have := ih h
        simp only [List.length_cons]
        omega
    · cases hv : pieces mark (p.next c) v with
      | nil =>
        rw [hv] at h
        cases h
      | cons w ws =>
        rw [hv, List.modifyHead_cons] at h
        rcases List.mem_cons.mp h with rfl | h
        · have := ih (hv ▸ List.mem_cons_self)
          simp only [List.length_cons]
          omega
        · have := ih (hv ▸ List.mem_cons_of_mem _ h)
          simp only [List.length_cons]
          omega

end

/-! ## Tokens -/

/-- A name, and what stands in brackets after it, if anything does. -/
structure Token where
  name : String
  argument : Option String := none
  deriving DecidableEq, Repr

namespace Token

/-- How a token is written. -/
def text (t : Token) : String :=
  match t.argument with
  | none => t.name
  | some argument => call t.name argument

/-- A text that can be the name of a token. -/
def IsWord (name : String) : Prop := ∀ c ∈ name.toList, IsPlain ['.', ','] c

instance : DecidablePred IsWord := fun name =>
  List.decidableBAll (IsPlain ['.', ',']) name.toList

/-- A token can be told apart from what is around it. -/
structure IsClean (t : Token) : Prop where
  name : IsWord t.name
  argument : ∀ argument ∈ t.argument, Balanced argument.toList

theorem isClean_word {name : String} (h : IsWord name) : IsClean ⟨name, none⟩ :=
  ⟨h, nofun⟩

theorem isClean_call {name argument : String} (h : IsWord name) (hargument : Balanced argument.toList) :
    IsClean ⟨name, some argument⟩ :=
  ⟨h, fun _ ha => Option.some.inj ha ▸ hargument⟩

/-- The text without the closing character that it has to end in. -/
def closed? (close : Char) (text : List Char) : Option (List Char) :=
  if text.getLast? = some close then some text.dropLast else none

theorem closed?_concat (close : Char) (text : List Char) :
    closed? close (text ++ [close]) = some text := by
  simp [closed?]

/-- Reads a token. -/
def read? (text : List Char) : Option Token :=
  match text.dropWhile (· ≠ '(') with
  | [] => some ⟨String.ofList text, none⟩
  | _ :: inner =>
    (closed? ')' inner).map fun argument =>
      ⟨String.ofList (text.takeWhile (· ≠ '(')), some (String.ofList argument)⟩

theorem toList_call (name argument : String) :
    (call name argument).toList = name.toList ++ '(' :: (argument.toList ++ [')']) := by
  simp [call]

variable {t : Token}

theorem IsClean.leads (h : t.IsClean) {mark : Char} (hmark : mark ∈ [')', '.', ',']) :
    Leads mark (.code 0) t.text.toList (.code 0) := by
  obtain ⟨name, argument⟩ := t
  have hname : Leads mark (.code 0) name.toList (.code 0) := leads_of_isPlain h.name hmark
  cases argument with
  | none => exact hname
  | some argument =>
    have hopen : mark ≠ '(' := by
      rintro rfl
      simp at hmark
    rw [text, toList_call]
    exact hname.append ((h.argument argument rfl).leads_brackets hopen)

theorem read?_text (h : t.IsClean) : read? t.text.toList = some t := by
  obtain ⟨name, argument⟩ := t
  have hname : ∀ c ∈ name.toList, (decide (c ≠ '(')) = true := fun c hc => by
    have hplain := h.name c hc
    simp only [IsPlain, List.mem_cons, not_or] at hplain
    simpa using hplain.1
  cases argument with
  | none =>
    have hdrop : name.toList.dropWhile (· ≠ '(') = [] := List.dropWhile_eq_nil_iff.mpr hname
    simp only [text, read?, hdrop, String.ofList_toList]
  | some argument =>
    rw [text, toList_call, read?, List.dropWhile_append_of_pos hname,
      List.takeWhile_append_of_pos hname]
    simp [closed?_concat]

/-- An argument is shorter than its token. -/
theorem length_lt_of_read? {text : List Char} {argument : String} (h : read? text = some t)
    (hargument : t.argument = some argument) : argument.length < text.length := by
  rw [read?] at h
  split at h
  · cases h
    cases hargument
  · next c inner hdrop =>
    have hsuffix := (List.dropWhile_suffix (l := text) fun x => decide (x ≠ '(')).length_le
    rw [Option.map_eq_some_iff] at h
    obtain ⟨w, hw, rfl⟩ := h
    obtain rfl := Option.some.inj hargument
    rw [closed?] at hw
    split at hw
    · cases hw
      rw [hdrop] at hsuffix
      simp only [String.length_ofList, List.length_dropLast, List.length_cons] at hsuffix ⊢
      omega
    · cases hw

end Token

/-- A chain of tokens, with a dot before each but the first. -/
def chain (tokens : List Token) : String := ".".intercalate (tokens.map Token.text)

/-- Reads a chain. -/
def readTokens? (text : String) : Option (List Token) :=
  (pieces '.' (.code 0) text.toList).mapM Token.read?

/-- What is written and read back one by one is read back as a whole. -/
theorem mapM_map {α β : Type} {write : α → β} {read : β → Option α} {list : List α}
    (h : ∀ a ∈ list, read (write a) = some a) : (list.map write).mapM read = some list := by
  induction list with
  | nil => rfl
  | cons a list ih =>
    rw [List.map_cons, List.mapM_cons, h a List.mem_cons_self,
      ih fun a ha => h a (List.mem_cons_of_mem _ ha)]
    rfl

/-- Texts that are put together are the first of them, and each of the others after a separator. -/
theorem toList_intercalate_cons (separator s : String) (list : List String) :
    (separator.intercalate (s :: list)).toList
      = s.toList ++ list.flatMap fun s => separator.toList ++ s.toList := by
  induction list generalizing s with
  | nil => simp
  | cons s' list ih =>
    rw [String.intercalate_cons_cons, String.toList_append, ih, String.toList_append]
    simp

section

variable {t : Token} {tokens : List Token}

theorem toList_chain_cons (t : Token) (tokens : List Token) :
    (chain (t :: tokens)).toList
      = t.text.toList ++ (tokens.map fun t => t.text.toList).flatMap ('.' :: ·) := by
  rw [chain, List.map_cons, toList_intercalate_cons, List.flatMap_map, List.flatMap_map]
  rfl

/-- **A chain is read back.** -/
theorem readTokens?_chain (hne : tokens ≠ []) (h : ∀ t ∈ tokens, t.IsClean) :
    readTokens? (chain tokens) = some tokens := by
  obtain ⟨t, tokens, rfl⟩ := List.exists_cons_of_ne_nil hne
  have hdot : ∀ t' ∈ t :: tokens, Leads '.' (.code 0) t'.text.toList (.code 0) :=
    fun t' ht' => (h t' ht').leads (by simp)
  have hothers : ∀ v ∈ tokens.map fun t => t.text.toList, Leads '.' (.code 0) v (.code 0) := by
    intro v hv
    obtain ⟨t', ht', rfl⟩ := List.mem_map.mp hv
    exact hdot t' (List.mem_cons_of_mem _ ht')
  have hread : ((t :: tokens).map fun t => t.text.toList).mapM Token.read? = some (t :: tokens) :=
    mapM_map fun t' ht' => Token.read?_text (h t' ht')
  rw [readTokens?, toList_chain_cons, pieces_join (hdot t List.mem_cons_self) hothers]
  exact hread

/-- A chain can stand among arguments and in brackets. -/
theorem leads_chain (h : ∀ t ∈ tokens, t.IsClean) {mark : Char} (hmark : mark ∈ [')', ',']) :
    Leads mark (.code 0) (chain tokens).toList (.code 0) := by
  have hmark' : mark ∈ [')', '.', ','] := by
    simp only [List.mem_cons] at hmark ⊢
    rcases hmark with rfl | rfl | hmark <;> simp_all
  have hdot : mark ≠ '.' := by
    rintro rfl
    simp at hmark
  cases tokens with
  | nil => rfl
  | cons t tokens =>
    rw [toList_chain_cons, List.flatMap_map]
    refine ((h t List.mem_cons_self).leads hmark').append (leads_flatMap fun t' ht' => ?_)
    exact ⟨fun hp => hdot hp.2.symm, (h t' (List.mem_cons_of_mem _ ht')).leads hmark'⟩

theorem balanced_chain (h : ∀ t ∈ tokens, t.IsClean) : Balanced (chain tokens).toList :=
  leads_chain h (by simp)

/-- An argument is shorter than the chain that it is read from. -/
theorem length_lt_of_readTokens? {text argument : String} (h : readTokens? text = some tokens)
    (ht : t ∈ tokens) (hargument : t.argument = some argument) : argument.length < text.length := by
  rw [readTokens?] at h
  have hread : ∃ piece ∈ pieces '.' (.code 0) text.toList, Token.read? piece = some t := by
    generalize pieces '.' (.code 0) text.toList = list at h
    induction list generalizing tokens with
    | nil =>
      cases h
      cases ht
    | cons piece list ih =>
      simp only [List.mapM_cons, Option.bind_eq_bind, Option.bind_eq_some_iff] at h
      obtain ⟨t', ht', tokens', htokens, h⟩ := h
      cases h
      rcases List.mem_cons.mp ht with rfl | ht
      · exact ⟨piece, List.mem_cons_self, ht'⟩
      · obtain ⟨piece', hpiece, hread⟩ := ih ht htokens
        exact ⟨piece', List.mem_cons_of_mem _ hpiece, hread⟩
  obtain ⟨piece, hpiece, hread⟩ := hread
  have hlt := Token.length_lt_of_read? hread hargument
  have hle := length_le_of_mem_pieces hpiece
  rw [String.length_toList] at hle
  omega

end

/-! ## Arguments -/

/-- The arguments between commas, each but the first after a space. -/
def readArguments (text : String) : List String :=
  match pieces ',' (.code 0) text.toList with
  | [] => []
  | first :: others => String.ofList first :: others.map fun w => String.ofList (w.drop 1)

section

variable {text : String} {list : List String}

/-- **A list of arguments is read back.** -/
theorem readArguments_intercalate (hne : list ≠ [])
    (h : ∀ s ∈ list, Leads ',' (.code 0) s.toList (.code 0)) :
    readArguments (", ".intercalate list) = list := by
  obtain ⟨s, list, rfl⟩ := List.exists_cons_of_ne_nil hne
  have htext : (", ".intercalate (s :: list)).toList
      = s.toList ++ (list.map fun s => ' ' :: s.toList).flatMap (',' :: ·) := by
    rw [toList_intercalate_cons, List.flatMap_map]
    rfl
  have hothers : ∀ v ∈ list.map fun s => ' ' :: s.toList, Leads ',' (.code 0) v (.code 0) := by
    intro v hv
    obtain ⟨s', hs', rfl⟩ := List.mem_map.mp hv
    exact ⟨by decide, h s' (List.mem_cons_of_mem _ hs')⟩
  rw [readArguments, htext, pieces_join (h s List.mem_cons_self) hothers]
  simp [Function.comp_def]

/-- Arguments with commas between them are balanced if each one is. -/
theorem balanced_intercalate (h : ∀ s ∈ list, Balanced s.toList) :
    Balanced (", ".intercalate list).toList := by
  cases list with
  | nil => decide
  | cons s list =>
    rw [toList_intercalate_cons]
    have hseparator : Leads ')' (.code 0) ", ".toList (.code 0) := by decide
    refine Leads.append (h s List.mem_cons_self) (leads_flatMap fun s' hs' => ?_)
    exact hseparator.append (h s' (List.mem_cons_of_mem _ hs'))

theorem length_le_of_mem_readArguments {argument : String} (h : argument ∈ readArguments text) :
    argument.length ≤ text.length := by
  rw [readArguments] at h
  split at h
  · cases h
  · next first others hpieces =>
    have hle : ∀ w ∈ first :: others, w.length ≤ text.length := fun w hw => by
      have := length_le_of_mem_pieces (hpieces ▸ hw)
      rwa [String.length_toList] at this
    rcases List.mem_cons.mp h with rfl | h
    · simpa using hle first List.mem_cons_self
    · obtain ⟨w, hw, rfl⟩ := List.mem_map.mp h
      have := hle w (List.mem_cons_of_mem _ hw)
      simp only [String.length_ofList, List.length_drop]
      omega

end

end ValidatorGen.Expression
