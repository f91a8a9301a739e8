/-
Trimming: white space at either end of a text does not count (`trim_cons`, `trim_concat`),
and a text with none there is left as it is (`Tight.trim_eq`). A text that is put together from
pieces is cut into them at its separators (`fields_intercalate`).
-/
import ValidatorGen.Text.Blank

namespace ValidatorGen.Text

/-- No white space stands at either end. -/
structure Tight (t : List Char) : Prop where
  head : ∀ c, t.head? = some c → isBlank c = false
  last : ∀ c, t.getLast? = some c → isBlank c = false

theorem trimStart_of_head {t : List Char} (h : ∀ c, t.head? = some c → isBlank c = false) :
    trimStart t = t := by
  cases t with
  | nil => rfl
  | cons c t => simp [trimStart, h c rfl]

theorem trimStart_cons_of_not {c : Char} (h : isBlank c = false) (t : List Char) :
    trimStart (c :: t) = c :: t :=
  trimStart_of_head fun d hd => by
    obtain rfl : c = d := by simpa using hd
    exact h

theorem trimStart_cons {c : Char} (h : isBlank c = true) (t : List Char) :
    trimStart (c :: t) = trimStart t := by
  simp [trimStart, h]

theorem takeWhile_append_of_stop {p : Char → Bool} {s t : List Char} (hs : ∀ c ∈ s, p c = true)
    (ht : ∀ c, t.head? = some c → p c = false) : (s ++ t).takeWhile p = s := by
  rw [List.takeWhile_append_of_pos hs]
  cases t with
  | nil => simp
  | cons c t => simp [ht c rfl]

theorem dropWhile_append_of_stop {p : Char → Bool} {s t : List Char} (hs : ∀ c ∈ s, p c = true)
    (ht : ∀ c, t.head? = some c → p c = false) : (s ++ t).dropWhile p = t := by
  rw [List.dropWhile_append_of_pos hs]
  cases t with
  | nil => simp
  | cons c t => simp [ht c rfl]

theorem dropEndWhile_concat_of_pos {p : Char → Bool} {c : Char} (h : p c = true) (t : List Char) :
    dropEndWhile p (t ++ [c]) = dropEndWhile p t := by
  simp [dropEndWhile, h]

theorem dropEndWhile_of_last {p : Char → Bool} {t : List Char}
    (h : ∀ c, t.getLast? = some c → p c = false) : dropEndWhile p t = t := by
  rcases List.eq_nil_or_concat t with rfl | ⟨s, c, rfl⟩
  · rfl
  · have hc : p c = false := h c (by simp)
    simp [dropEndWhile, hc]

theorem dropEndWhile_append_of_stop {p : Char → Bool} {s t : List Char}
    (hs : ∀ c, s.getLast? = some c → p c = false) (ht : ∀ c ∈ t, p c = true) :
    dropEndWhile p (s ++ t) = s := by
  have hrev : (t.reverse ++ s.reverse).dropWhile p = s.reverse := by
    refine dropWhile_append_of_stop (fun c hc => ht c (List.mem_reverse.mp hc)) fun c hc => ?_
    exact hs c (by rwa [List.head?_reverse] at hc)
  rw [dropEndWhile, List.reverse_append, hrev, List.reverse_reverse]

theorem exists_append_dropEndWhile (p : Char → Bool) (t : List Char) :
    ∃ b, t = dropEndWhile p t ++ b ∧ ∀ c ∈ b, p c = true := by
  refine ⟨(t.reverse.takeWhile p).reverse, ?_, fun c hc => ?_⟩
  · rw [dropEndWhile, ← List.reverse_append, List.takeWhile_append_dropWhile, List.reverse_reverse]
  · exact List.all_eq_true.mp List.all_takeWhile c (List.mem_reverse.mp hc)

/-- What is stripped off a text stood at its ends. -/
theorem exists_append_stripWhile (p : Char → Bool) (t : List Char) :
    ∃ a b, t = a ++ (stripWhile p t ++ b) ∧ (∀ c ∈ a, p c = true) ∧ ∀ c ∈ b, p c = true := by
  obtain ⟨b, hb, hall⟩ := exists_append_dropEndWhile p (t.dropWhile p)
  refine ⟨t.takeWhile p, b, ?_, List.all_eq_true.mp List.all_takeWhile, hall⟩
  rw [stripWhile, ← hb, List.takeWhile_append_dropWhile]

theorem length_dropEndWhile_le (p : Char → Bool) (t : List Char) :
    (dropEndWhile p t).length ≤ t.length := by
  have h := (List.dropWhile_sublist p (l := t.reverse)).length_le
  simpa [dropEndWhile] using h

theorem length_trim_le (t : List Char) : (trim t).length ≤ t.length :=
  Nat.le_trans (length_dropEndWhile_le _ _) (List.dropWhile_sublist _).length_le

theorem trim_cons {c : Char} (h : isBlank c = true) (t : List Char) : trim (c :: t) = trim t := by
  simp [trim, stripWhile, h]

theorem trim_concat {c : Char} (h : isBlank c = true) (t : List Char) :
    trim (t ++ [c]) = trim t := by
  unfold trim stripWhile
  rw [List.dropWhile_append]
  split
  · next he =>
    rw [List.isEmpty_iff.mp he]
    simp [h]
  · exact dropEndWhile_concat_of_pos h _

theorem trimEnd_cons_of_not {c : Char} (h : isBlank c = false) (t : List Char) :
    trimEnd (c :: t) = c :: trimEnd t := by
  unfold trimEnd dropEndWhile
  rw [List.reverse_cons, List.dropWhile_append]
  split
  · next hnil => simp [List.isEmpty_iff.mp hnil, h]
  · simp

theorem trim_of_head {t : List Char} (h : ∀ c, t.head? = some c → isBlank c = false) :
    trim t = trimEnd t := by
  rw [trim, stripWhile, ← trimStart, trimStart_of_head h, trimEnd]

theorem Tight.trim_eq {t : List Char} (h : Tight t) : trim t = t := by
  have hs : t.dropWhile isBlank = t := trimStart_of_head h.head
  rw [trim, stripWhile, hs]
  exact dropEndWhile_of_last h.last

theorem tight_trim (t : List Char) : Tight (trim t) where
  head c h := by
    obtain ⟨b, hb, -⟩ := exists_append_dropEndWhile isBlank (t.dropWhile isBlank)
    have hstop := List.head?_dropWhile_not isBlank t
    rw [hb, List.head?_append, ← stripWhile, ← trim, h, Option.some_or] at hstop
    simpa using hstop
  last c h := by
    have hstop := List.head?_dropWhile_not isBlank (t.dropWhile isBlank).reverse
    rw [trim, stripWhile, dropEndWhile, List.getLast?_reverse] at h
    rw [h] at hstop
    simpa using hstop

/-- The ends of a text are those of its first and its last part. -/
theorem Tight.between {s u : List Char} (hs : Tight s) (hne : s ≠ []) (hu : Tight u)
    (hue : u ≠ []) (m : List Char) : Tight (s ++ (m ++ u)) where
  head c h := by
    obtain ⟨d, s, rfl⟩ := List.exists_cons_of_ne_nil hne
    exact hs.head c h
  last c h := by
    obtain ⟨d, hd⟩ := Option.isSome_iff_exists.mp (List.getLast?_isSome.mpr hue)
    rw [← List.append_assoc, List.getLast?_append, hd, Option.some_or] at h
    exact hu.last c (hd.trans h)

/-- Text that is put together with a separator is cut into its pieces again. -/
theorem fields_intercalate {x : Char} {pieces : List (List Char)} (hne : pieces ≠ [])
    (h : ∀ w ∈ pieces, x ∉ w) : fields (· == x) ([x].intercalate pieces) = pieces := by
  induction pieces with
  | nil => exact absurd rfl hne
  | cons w pieces ih =>
    have hw : ∀ c ∈ w, (c == x) = false := fun c hc => by
      rw [beq_eq_false_iff_ne]
      rintro rfl
      exact h w List.mem_cons_self hc
    cases pieces with
    | nil =>
      rw [List.intercalate_singleton]
      exact fields_of_all_not (· == x) hw
    | cons v pieces =>
      rw [List.intercalate_cons_cons, List.append_assoc, List.singleton_append,
        fields_append_sep (· == x) (beq_self_eq_true x), fields_of_all_not (· == x) hw,
        ih (List.cons_ne_nil v pieces) fun w hw => h w (List.mem_cons_of_mem _ hw)]
      rfl

theorem tight_intercalate {pieces : List (List Char)}
    (h : ∀ w ∈ pieces, Tight w ∧ w ≠ []) (sep : List Char) :
    Tight (sep.intercalate pieces) := by
  induction pieces with
  | nil => exact ⟨nofun, nofun⟩
  | cons w pieces ih =>
    obtain ⟨hw, hne⟩ := h w List.mem_cons_self
    cases pieces with
    | nil => rwa [List.intercalate_singleton]
    | cons v pieces =>
      have hrest := ih fun w hw => h w (List.mem_cons_of_mem _ hw)
      have hv : v ≠ [] := (h v (List.mem_cons_of_mem _ List.mem_cons_self)).2
      have hrest_ne : sep.intercalate (v :: pieces) ≠ [] := by
        cases pieces with
        | nil => rwa [List.intercalate_singleton]
        | cons u pieces =>
          rw [List.intercalate_cons_cons, List.append_assoc]
          exact List.append_ne_nil_of_left_ne_nil hv _
      rw [List.intercalate_cons_cons, List.append_assoc]
      exact hw.between hne hrest hrest_ne sep

end ValidatorGen.Text
