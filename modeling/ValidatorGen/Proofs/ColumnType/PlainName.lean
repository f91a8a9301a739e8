/-
The plain name of a declared type, step by step. The name that a text in lower case has is
`bareName`: double quotes, what stands in parentheses, and what comes before the last dot are
dropped (`outsideParens_append`, `afterLastDot_append`), and white space only counts for ending a
word. So what is kept for the name is not changed by quotes (`kept_quote`), by groups in
parentheses (`kept_group`) or by a qualifier (`kept_qualifier`), its words are not changed by more
white space (`nameWords_gap`, `nameWords_margins`), and **brackets at the end of a text are at the
end of its name** (`exists_bareName_dimensions`).
-/
import ValidatorGen.ColumnType
import ValidatorGen.Proofs.Text.Words

namespace ValidatorGen.ColumnType

open Text

variable {s t u : List Char}

/-! ## Parentheses -/

/-- How many parentheses are open after a text, if so many are open before it. -/
def openAfter : Nat → List Char → Nat
  | depth, [] => depth
  | depth, c :: rest =>
    if c = '(' then openAfter (depth + 1) rest
    else if c = ')' then openAfter (depth - 1) rest
    else openAfter depth rest

theorem openAfter_append (depth : Nat) (s t : List Char) :
    openAfter depth (s ++ t) = openAfter (openAfter depth s) t := by
  induction s generalizing depth with
  | nil => rfl
  | cons c s ih =>
    simp only [List.cons_append, openAfter, ih]
    split
    · rfl
    · split <;> rfl

theorem outsideParens_append (depth : Nat) (s t : List Char) : outsideParens depth (s ++ t)
    = outsideParens depth s ++ outsideParens (openAfter depth s) t := by
  induction s generalizing depth with
  | nil => rfl
  | cons c s ih =>
    by_cases hopen : c = '('
    · simp [outsideParens, openAfter, hopen, ih]
    · by_cases hclose : c = ')'
      · simp [outsideParens, openAfter, hclose, ih]
      · by_cases hdepth : depth = 0
        · simp [outsideParens, openAfter, hopen, hclose, hdepth, ih]
        · simp [outsideParens, openAfter, hopen, hclose, hdepth, ih]

/-- No parenthesis is in the text. -/
def HasNoParens (t : List Char) : Prop := '(' ∉ t ∧ ')' ∉ t

theorem HasNoParens.openAfter (h : HasNoParens t) (depth : Nat) : openAfter depth t = depth := by
  induction t with
  | nil => rfl
  | cons c t ih =>
    obtain ⟨hopen, hclose⟩ := h
    rw [List.mem_cons, not_or] at hopen hclose
    rw [ColumnType.openAfter, if_neg (Ne.symm hopen.1), if_neg (Ne.symm hclose.1)]
    exact ih ⟨hopen.2, hclose.2⟩

theorem HasNoParens.outsideParens (h : HasNoParens t) (depth : Nat) :
    outsideParens depth t = if depth = 0 then t else [] := by
  induction t with
  | nil => simp [ColumnType.outsideParens]
  | cons c t ih =>
    obtain ⟨hopen, hclose⟩ := h
    rw [List.mem_cons, not_or] at hopen hclose
    have ih := ih ⟨hopen.2, hclose.2⟩
    rw [ColumnType.outsideParens, if_neg (Ne.symm hopen.1), if_neg (Ne.symm hclose.1)]
    by_cases hdepth : depth = 0
    · subst hdepth
      simpa using ih
    · simpa [hdepth] using ih

/-- Parentheses close in order, whatever else there is. -/
inductive Balanced : List Char → Prop
  | nil : Balanced []
  | other {c : Char} {t : List Char} : c ≠ '(' → c ≠ ')' → Balanced t → Balanced (c :: t)
  | pair {s t : List Char} : Balanced s → Balanced t → Balanced ('(' :: (s ++ ')' :: t))

namespace Balanced

variable (h : Balanced t)
include h

theorem openAfter (depth : Nat) : openAfter depth t = depth := by
  induction h generalizing depth with
  | nil => rfl
  | other ho hc _ ih => simpa [ColumnType.openAfter, ho, hc] using ih depth
  | pair _ _ ihs iht => simp [ColumnType.openAfter, openAfter_append, ihs, iht]

/-- Inside of a pair a balanced text is passed over. -/
theorem outsideParens (depth : Nat) : outsideParens (depth + 1) t = [] := by
  induction h generalizing depth with
  | nil => rfl
  | other ho hc _ ih => simpa [ColumnType.outsideParens, ho, hc] using ih depth
  | pair hs _ ihs iht =>
    simp [ColumnType.outsideParens, outsideParens_append, hs.openAfter, ihs, iht]

end Balanced

theorem HasNoParens.append_balanced (hs : HasNoParens s) (ht : Balanced t) :
    Balanced (s ++ t) := by
  induction s with
  | nil => exact ht
  | cons c s ih =>
    obtain ⟨hopen, hclose⟩ := hs
    rw [List.mem_cons, not_or] at hopen hclose
    exact .other (Ne.symm hopen.1) (Ne.symm hclose.1) (ih ⟨hopen.2, hclose.2⟩)

/-- Every parenthesis that opens is closed. -/
def AllClosed (t : List Char) : Prop :=
  ∀ before after, t = before ++ '(' :: after →
    ∃ inner rest, Balanced inner ∧ after = inner ++ ')' :: rest

theorem AllClosed.of_append (h : AllClosed (s ++ t)) : AllClosed t := fun before after heq =>
  h (s ++ before) after (by rw [heq, List.append_assoc])

/-- No parenthesis is open at the end if each one is closed. -/
theorem AllClosed.openAfter (h : AllClosed t) : openAfter 0 t = 0 := by
  induction hn : t.length using Nat.strongRecOn generalizing t with
  | ind n ih =>
    cases t with
    | nil => rfl
    | cons c t =>
      have htail : AllClosed t := h.of_append (s := [c])
      rw [List.length_cons] at hn
      by_cases hopen : c = '('
      · subst hopen
        obtain ⟨inner, rest, hinner, rfl⟩ := h [] t rfl
        have hrest : AllClosed rest := (htail.of_append (s := inner)).of_append (s := [')'])
        have hshort : rest.length < n := by
          simp only [List.length_append, List.length_cons] at hn
          omega
        rw [ColumnType.openAfter, if_pos rfl, openAfter_append, hinner.openAfter,
          ColumnType.openAfter, if_neg (by decide), if_pos rfl]
        exact ih rest.length hshort hrest rfl
      · rw [ColumnType.openAfter, if_neg hopen]
        split <;> exact ih t.length (by omega) htail rfl

/-- A parenthesis that is open, but not at the end, has been closed. -/
theorem exists_balanced_of_openAfter {depth : Nat} (h : openAfter (depth + 1) t = 0) :
    ∃ inner rest, Balanced inner ∧ t = inner ++ ')' :: rest ∧ openAfter depth rest = 0 := by
  induction hn : t.length using Nat.strongRecOn generalizing depth t with
  | ind n ih =>
    cases t with
    | nil => exact absurd h (Nat.succ_ne_zero depth)
    | cons c t =>
      rw [List.length_cons] at hn
      rw [openAfter] at h
      by_cases hopen : c = '('
      · -- a pair that is closed first, and what comes before the end of the one around it
        subst hopen
        rw [if_pos rfl] at h
        obtain ⟨inner, rest, hinner, rfl, hrest⟩ := ih t.length (by omega) h rfl
        rw [List.length_append, List.length_cons] at hn
        obtain ⟨inner', rest', hinner', rfl, hrest'⟩ := ih rest.length (by omega) hrest rfl
        exact ⟨'(' :: (inner ++ ')' :: inner'), rest', .pair hinner hinner', by simp, hrest'⟩
      · rw [if_neg hopen] at h
        by_cases hclose : c = ')'
        · subst hclose
          exact ⟨[], t, .nil, rfl, h⟩
        · rw [if_neg hclose] at h
          obtain ⟨inner, rest, hinner, rfl, hrest⟩ := ih t.length (by omega) h rfl
          exact ⟨c :: inner, rest, .other hopen hclose hinner, rfl, hrest⟩

/-- **Every parenthesis is closed just if none is open at the end.** -/
theorem allClosed_iff : AllClosed t ↔ openAfter 0 t = 0 := by
  refine ⟨AllClosed.openAfter, fun h before after heq => ?_⟩
  rw [heq, openAfter_append, openAfter, if_pos rfl] at h
  obtain ⟨inner, rest, hinner, hafter, -⟩ := exists_balanced_of_openAfter h
  exact ⟨inner, rest, hinner, hafter⟩

instance : DecidablePred AllClosed := fun _ => decidable_of_iff _ allClosed_iff.symm

/-! ## Double quotes -/

/-- The text without double quotes. -/
def unquoted (t : List Char) : List Char := t.filter (· ≠ '"')

theorem unquoted_append (s t : List Char) : unquoted (s ++ t) = unquoted s ++ unquoted t :=
  List.filter_append s t

theorem unquoted_quote (t : List Char) : unquoted ('"' :: t) = unquoted t := rfl

theorem unquoted_cons {c : Char} (h : c ≠ '"') (t : List Char) :
    unquoted (c :: t) = c :: unquoted t := List.filter_cons_of_pos (by simpa using h)

theorem mem_of_mem_unquoted {c : Char} (h : c ∈ unquoted t) : c ∈ t := (List.mem_filter.mp h).1

theorem unquoted_of_not_mem (h : '"' ∉ t) : unquoted t = t :=
  List.filter_eq_self.mpr fun c hc => by
    rw [decide_eq_true_eq]
    rintro rfl
    exact h hc

theorem HasNoParens.unquoted (h : HasNoParens t) : HasNoParens (unquoted t) :=
  h.imp (mt mem_of_mem_unquoted) (mt mem_of_mem_unquoted)

theorem Balanced.unquoted (h : Balanced t) : Balanced (unquoted t) := by
  induction h with
  | nil => exact .nil
  | @other c t ho hc _ ih =>
    by_cases hquote : c = '"'
    · subst hquote
      exact ih
    · rw [unquoted_cons hquote]
      exact .other ho hc ih
  | pair _ _ ihs iht =>
    rw [unquoted_cons (by decide), unquoted_append, unquoted_cons (by decide)]
    exact .pair ihs iht

theorem openAfter_unquoted (depth : Nat) (t : List Char) :
    openAfter depth (unquoted t) = openAfter depth t := by
  induction t generalizing depth with
  | nil => rfl
  | cons c t ih =>
    by_cases hquote : c = '"'
    · subst hquote
      exact ih depth
    · rw [unquoted_cons hquote]
      simp only [openAfter, ih]

/-! ## The last dot -/

theorem takeWhile_dotless {s : List Char} (h : '.' ∉ s) (t : List Char) :
    (s ++ t).takeWhile (· ≠ '.') = s ++ t.takeWhile (· ≠ '.') :=
  List.takeWhile_append_of_pos fun c hc => by
    rw [decide_eq_true_eq]
    rintro rfl
    exact h hc

theorem afterLastDot_append (s t : List Char) :
    afterLastDot (s ++ t) = if '.' ∈ t then afterLastDot t else afterLastDot s ++ t := by
  rw [afterLastDot, List.reverse_append]
  split
  · next hdot =>
    obtain ⟨after, before, heq, hafter⟩ :=
      List.eq_append_cons_of_mem (List.mem_reverse.mpr hdot)
    rw [afterLastDot, heq, List.append_assoc, takeWhile_dotless hafter, takeWhile_dotless hafter]
    simp
  · next hdot =>
    rw [takeWhile_dotless (by simpa using hdot), List.reverse_append, List.reverse_reverse]
    rfl

theorem afterLastDot_of_not_mem (h : '.' ∉ t) : afterLastDot t = t := by
  have happend := afterLastDot_append [] t
  rw [List.nil_append, if_neg h] at happend
  exact happend

/-- What comes before the last dot does not count. -/
theorem afterLastDot_dot (s t : List Char) : afterLastDot (s ++ '.' :: t) = afterLastDot t := by
  rw [afterLastDot_append, if_pos List.mem_cons_self]
  have hcons := afterLastDot_append ['.'] t
  rw [List.singleton_append] at hcons
  rw [hcons]
  split
  · rfl
  · next hdot => rw [afterLastDot_of_not_mem hdot]; rfl

/-! ## Names -/

/-- What is left of a text for its name: no quotes, nothing in parentheses, no qualifiers. -/
def kept (t : List Char) : List Char := afterLastDot (outsideParens 0 (unquoted t))

/-- The words of a name. -/
def nameWords (t : List Char) : List (List Char) := blankWords (kept t)

/-- The name of a text in lower case. -/
def bareName (t : List Char) : List Char := [' '].intercalate (nameWords t)

theorem plainName_eq (declared : List Char) :
    plainName declared = bareName (lowercase (trim declared)) := rfl

theorem tight_bareName (t : List Char) : Tight (bareName t) :=
  tight_intercalate (fun _ hw => ⟨(isWord_of_mem_blankWords hw).tight,
    (isWord_of_mem_blankWords hw).1⟩) [' ']

/-- What a text adds to the one before it. -/
def added (before t : List Char) : List Char := outsideParens (openAfter 0 before) (unquoted t)

theorem kept_append (s t : List Char) :
    kept (s ++ t) = if '.' ∈ added s t then afterLastDot (added s t) else kept s ++ added s t := by
  rw [kept, unquoted_append, outsideParens_append, afterLastDot_append, openAfter_unquoted]
  rfl

theorem kept_quote (s t : List Char) : kept (s ++ '"' :: t) = kept (s ++ t) := by
  rw [kept, unquoted_append, unquoted_quote, ← unquoted_append, kept]

theorem kept_group (s : List Char) {inner : List Char} (h : Balanced inner) (t : List Char) :
    kept (s ++ '(' :: (inner ++ ')' :: t)) = kept (s ++ t) := by
  have hadded : added s ('(' :: (inner ++ ')' :: t)) = added s t := by
    have hinner := h.unquoted
    rw [added, unquoted_cons (by decide), unquoted_append, unquoted_cons (by decide)]
    simp [outsideParens, outsideParens_append, hinner.outsideParens, hinner.openAfter, added]
  rw [kept_append, kept_append, hadded]

theorem kept_qualifier {qualifier : List Char} (h : HasNoParens qualifier) (t : List Char) :
    kept (qualifier ++ '.' :: t) = kept t := by
  have hq := h.unquoted
  rw [kept, unquoted_append, unquoted_cons (by decide), outsideParens_append, hq.openAfter,
    hq.outsideParens]
  exact afterLastDot_dot _ _

/-! ## White space -/

/-- A stretch of white space. -/
def IsGap (t : List Char) : Prop := ∀ c ∈ t, isBlank c = true

namespace IsGap

variable {gap : List Char} (h : IsGap gap)
include h

theorem not_mem {c : Char} (hc : isBlank c = false) : c ∉ gap := fun hmem =>
  Bool.false_ne_true (hc.symm.trans (h c hmem))

theorem hasNoParens : HasNoParens gap := ⟨h.not_mem (by decide), h.not_mem (by decide)⟩

theorem openAfter_append (s : List Char) : openAfter 0 (s ++ gap) = openAfter 0 s := by
  rw [ColumnType.openAfter_append, h.hasNoParens.openAfter]

theorem added_eq (s : List Char) : added s gap = if openAfter 0 s = 0 then gap else [] := by
  rw [added, unquoted_of_not_mem (h.not_mem (by decide)), h.hasNoParens.outsideParens]

theorem added (s : List Char) : IsGap (added s gap) := by
  rw [h.added_eq]
  split
  · exact h
  · exact fun _ => nofun

theorem kept_append (s : List Char) : kept (s ++ gap) = kept s ++ ColumnType.added s gap := by
  rw [ColumnType.kept_append, if_neg ((h.added s).not_mem (by decide))]

theorem blankWords_append (s : List Char) : blankWords (s ++ gap) = blankWords s := by
  have hstarts : StartsBlank gap := fun c hc => h c (List.mem_of_mem_head? hc)
  rw [Text.blankWords_append (.inr hstarts), blankWords_gap h, List.append_nil]

theorem append_blankWords (t : List Char) : blankWords (gap ++ t) = blankWords t := by
  have hends : EndsBlank gap := fun c hc => h c (List.mem_of_mem_getLast? hc)
  rw [Text.blankWords_append (.inl hends), blankWords_gap h, List.nil_append]

/-- A gap parts words, however long it is. -/
theorem blankWords_between (hne : gap ≠ []) (s t : List Char) :
    blankWords (s ++ gap ++ t) = blankWords s ++ blankWords t := by
  obtain ⟨c, gap, rfl⟩ := List.exists_cons_of_ne_nil hne
  have hstarts : StartsBlank (c :: gap ++ t) := fun d hd => by
    obtain rfl : c = d := Option.some.inj hd
    exact h c List.mem_cons_self
  rw [List.append_assoc, Text.blankWords_append (.inr hstarts), h.append_blankWords]

end IsGap

/-- **A gap between words may be of any length.** -/
theorem nameWords_gap {gap gap' : List Char} (h : IsGap gap) (h' : IsGap gap') (hne : gap ≠ [])
    (hne' : gap' ≠ []) (s t : List Char) :
    nameWords (s ++ gap ++ t) = nameWords (s ++ gap' ++ t) := by
  have hadded : ∀ {g}, IsGap g → added (s ++ g) t = added s t := fun hg => by
    rw [added, hg.openAfter_append, added]
  rw [nameWords, nameWords, kept_append (s ++ gap), kept_append (s ++ gap'), hadded h, hadded h',
    h.kept_append, h'.kept_append, h.added_eq, h'.added_eq]
  split
  · rfl
  · split
    · rw [h.blankWords_between hne, h'.blankWords_between hne']
    · rfl

/-- **There may be white space on either side of a name.** -/
theorem nameWords_margins {before after : List Char} (hbefore : IsGap before)
    (hafter : IsGap after) (t : List Char) : nameWords (before ++ t ++ after) = nameWords t := by
  have hadded : added before t = outsideParens 0 (unquoted t) := by
    rw [added, hbefore.hasNoParens.openAfter]
  rw [nameWords, nameWords, hafter.kept_append, (hafter.added _).blankWords_append, kept_append,
    hadded]
  split
  · rfl
  · next hdot =>
    have hkept : kept before = [] ++ added [] before := hbefore.kept_append []
    rw [hkept, List.nil_append, (hbefore.added []).append_blankWords, kept,
      afterLastDot_of_not_mem hdot]

/-! ## Brackets at the end -/

/-- So many pairs of brackets. -/
def dimensions (n : Nat) : List Char := (List.replicate n ['[', ']']).flatten

theorem dimensions_succ (n : Nat) : dimensions (n + 1) = dimensions n ++ ['[', ']'] := by
  rw [dimensions, List.replicate_succ', List.flatten_append]
  rfl

theorem mem_dimensions {n : Nat} {c : Char} (h : c ∈ dimensions n) : c = '[' ∨ c = ']' := by
  obtain ⟨pair, hpair, hc⟩ := List.mem_flatten.mp h
  rw [(List.mem_replicate.mp hpair).2] at hc
  simpa using hc

theorem not_mem_dimensions {c : Char} (hopen : c ≠ '[') (hclose : c ≠ ']') (n : Nat) :
    c ∉ dimensions n := fun h => (mem_dimensions h).elim hopen hclose

theorem kept_dimensions (h : openAfter 0 t = 0) (n : Nat) :
    kept (t ++ dimensions n) = kept t ++ dimensions n := by
  have hnone : HasNoParens (dimensions n) :=
    ⟨not_mem_dimensions (by decide) (by decide) n, not_mem_dimensions (by decide) (by decide) n⟩
  have hadded : added t (dimensions n) = dimensions n := by
    rw [added, unquoted_of_not_mem (not_mem_dimensions (by decide) (by decide) n),
      hnone.outsideParens, h, if_pos rfl]
  rw [kept_append, hadded, if_neg (not_mem_dimensions (by decide) (by decide) n)]

theorem intercalate_concat {ws : List (List Char)} (h : ws ≠ []) (w : List Char) :
    [' '].intercalate (ws ++ [w]) = [' '].intercalate ws ++ ' ' :: w := by
  induction ws with
  | nil => exact absurd rfl h
  | cons v ws ih =>
    cases ws with
    | nil => simp [List.intercalate_cons_cons]
    | cons u ws =>
      have ih := ih (List.cons_ne_nil u ws)
      rw [List.cons_append] at ih
      rw [List.cons_append, List.cons_append, List.intercalate_cons_cons, ih,
        List.intercalate_cons_cons]
      simp

/-- A word at the end of a text is at the end of its words. -/
theorem exists_intercalate_blankWords {w : List Char} (hw : IsWord w) (t : List Char) :
    ∃ gap, IsGap gap ∧ [' '].intercalate (blankWords (t ++ w))
      = [' '].intercalate (blankWords t) ++ gap ++ w := by
  rcases List.eq_nil_or_concat t with rfl | ⟨t, x, rfl⟩
  · exact ⟨[], nofun, by rw [List.nil_append, blankWords_word hw, List.intercalate_singleton]; rfl⟩
  rw [List.concat_eq_append]
  cases hx : isBlank x with
  | true =>
    -- the word stands alone, after a space unless it is the first
    have hends : EndsBlank (t ++ [x]) := fun c hc => by
      obtain rfl : x = c := by simpa using hc
      exact hx
    rw [Text.blankWords_append (.inl hends), blankWords_word hw]
    by_cases hnone : blankWords (t ++ [x]) = []
    · exact ⟨[], nofun, by simp [hnone]⟩
    · refine ⟨[' '], by simp [IsGap]; decide, ?_⟩
      rw [intercalate_concat hnone]
      simp
  | false =>
    -- the word goes on with the last word of the text
    obtain ⟨init, last, hfields⟩ := exists_last_fields isBlank t
    have hone : fields isBlank [x] = [[x]] := fields_of_all_not isBlank (by simpa using hx)
    have hword : fields isBlank w = [w] := fields_of_all_not isBlank hw.2
    have hconcat := fields_append isBlank hfields hone
    have hboth := fields_append isBlank hconcat hword
    have hfilter : ∀ v : List Char, v ≠ [] →
        (init ++ [v]).filter (· ≠ []) = init.filter (· ≠ []) ++ [v] := fun v hv => by
      rw [List.filter_append, List.filter_cons_of_pos (by simpa using hv), List.filter_nil]
    refine ⟨[], nofun, ?_⟩
    rw [blankWords, hboth, blankWords, hconcat, hfilter _ (by simp), hfilter _ (by simp)]
    cases init.filter (· ≠ []) with
    | nil => simp
    | cons u ws =>
      rw [intercalate_concat (List.cons_ne_nil u ws), intercalate_concat (List.cons_ne_nil u ws)]
      simp

/-- **Brackets at the end of a text are at the end of its name.** -/
theorem exists_bareName_dimensions (h : openAfter 0 t = 0) {n : Nat} (hn : 0 < n) :
    ∃ gap, IsGap gap ∧ bareName (t ++ dimensions n) = bareName t ++ gap ++ dimensions n := by
  have hword : IsWord (dimensions n) := by
    obtain ⟨n, rfl⟩ := Nat.exists_eq_succ_of_ne_zero (Nat.ne_of_gt hn)
    refine ⟨by simp [dimensions_succ], fun c hc => ?_⟩
    rcases mem_dimensions hc with rfl | rfl <;> decide
  rw [bareName, nameWords, kept_dimensions h]
  exact exists_intercalate_blankWords hword (kept t)

end ValidatorGen.ColumnType
