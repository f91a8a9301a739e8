/-
The two passes over a clause, whatever the text. A cast starts with two colons and a type name
(`isSome_stripCast?`). Both passes only leave characters out (`dropCasts_sublist`,
`unwrapNames_sublist`), and taking names out of their parentheses leaves nothing of no text but
the empty one (`eq_nil_of_unwrapNames`).
-/
import ValidatorGen.Proofs.Check.Exclusive
import ValidatorGen.Proofs.Check.Outside
import ValidatorGen.Proofs.Check.Unwrap
import ValidatorGen.Proofs.Text.Case

namespace ValidatorGen.Check

open Text

/-! ## Where a cast starts -/

/-- Whether a text starts with a type name, with or without a double quote before it. -/
def beginsTypeName : List Char → Bool
  | [] => false
  | c :: t => isFoldedNameStart c || (c == '"' && t.head?.any isFoldedNameStart)

/-- Whether a text starts with a cast. -/
def beginsCast (t : List Char) : Bool :=
  t.take 2 == [':', ':'] && beginsTypeName (trimStart (t.drop 2))

/-- The letters that the phrases for types start with are letters in any case. -/
theorem isFoldedNameStart_of_sameLetter {w c : Char} (hw : w ∈ ['b', 'c', 'd', 't'])
    (h : sameLetter w c = true) : isFoldedNameStart c = true := by
  have hletters : ∀ w ∈ ['b', 'c', 'd', 't'], isAscii w = true
      ∧ Avoids w.toUpper.toNat [] FoldTable.fold.tail
      ∧ ∀ n, n < 128 → w.toUpper = (Char.ofNat n).toUpper →
        isFoldedNameStart (Char.ofNat n) = true := by
    intro w hw
    simp only [List.mem_cons, List.not_mem_nil, or_false] at hw
    rcases hw with rfl | rfl | rfl | rfl <;>
    exact ⟨rfl, ⟨by simp, by decide +kernel⟩, by decide +kernel⟩
  obtain ⟨ha, havoid, hall⟩ := hletters w hw
  have hc := isAscii_of_sameLetter ha havoid h
  rw [sameLetter_ascii ha hc, beq_iff_eq] at h
  exact forall_ascii (P := fun c => w.toUpper = c.toUpper → isFoldedNameStart c = true) hall hc h

theorem eq_of_sameLetter_doubleQuote {c : Char} (h : sameLetter '"' c = true) : c = '"' := by
  have hc := isAscii_of_sameLetter rfl ⟨by simp, by decide +kernel⟩ h
  rw [sameLetter_ascii rfl hc, beq_iff_eq] at h
  exact forall_ascii (P := fun c => '"'.toUpper = c.toUpper → c = '"') (by decide) hc h

theorem stripOptional_doubleQuote (t : List Char) : stripOptional ['"'] ('"' :: t) = t := by
  simp [stripOptional, stripWord?, sameLetter]

theorem stripOptional_of_ne {c : Char} (h : c ≠ '"') (t : List Char) :
    stripOptional ['"'] (c :: t) = c :: t := by
  have hs : sameLetter '"' c = false := Bool.eq_false_iff.mpr fun hs =>
    h (eq_of_sameLetter_doubleQuote hs)
  simp [stripOptional, stripWord?, hs]

theorem isSome_stripTypeWord? (t : List Char) : (stripTypeWord? t).isSome = beginsTypeName t := by
  have word : ∀ {s : List Char} {c t}, stripOptional ['"'] s = c :: t →
      (stripTypeWord? s).isSome = isFoldedNameStart c := by
    intro s c t h
    rw [stripTypeWord?, h]
    cases hc : isFoldedNameStart c <;> simp [hc]
  cases t with
  | nil => rfl
  | cons c t =>
    by_cases hc : c = '"'
    · subst hc
      have hq : isFoldedNameStart '"' = false := by decide +kernel
      cases t with
      | nil => simp [stripTypeWord?, stripOptional_doubleQuote, beginsTypeName, hq]
      | cons d t => simp [word (stripOptional_doubleQuote (d :: t)), beginsTypeName, hq]
    · simp [word (stripOptional_of_ne hc t), beginsTypeName, hc]

/-- A text that starts with no word starts with no phrase. -/
theorem stripTypeName?_of_not {c : Char} (h : isFoldedNameStart c = false) (t : List Char) :
    stripTypeName? (c :: t) = stripTypeWord? (c :: t) := by
  have hne : ∀ w ∈ ['b', 'c', 'd', 't'], sameLetter w c = false := fun w hw =>
    Bool.eq_false_iff.mpr fun hs => by simp [isFoldedNameStart_of_sameLetter hw hs] at h
  have htime : stripTimePhrase? (c :: t) = none := by
    simp [stripTimePhrase?, stripWord?, hne 't' (by decide)]
  rw [stripTypeName?, stripPhrase?_of_ne (hne 'c' (by decide)),
    stripPhrase?_of_ne (hne 'd' (by decide)), stripPhrase?_of_ne (hne 'b' (by decide)), htime]
  rfl

theorem isSome_stripTypeName? (t : List Char) : (stripTypeName? t).isSome = beginsTypeName t := by
  cases t with
  | nil => rfl
  | cons c t =>
    cases hc : isFoldedNameStart c with
    | true =>
      have hword : (stripTypeWord? (c :: t)).isSome = true := by
        rw [isSome_stripTypeWord?, beginsTypeName, hc, Bool.true_or]
      have last : ∀ {a b : Option (List Char)}, b.isSome = true → (a <|> b).isSome = true := by
        intro a b hb
        cases a with
        | none => exact hb
        | some => rfl
      rw [beginsTypeName, hc, Bool.true_or]
      exact last (last (last (last hword)))
    | false => rw [stripTypeName?_of_not hc, isSome_stripTypeWord?]

theorem isSome_stripCast? (t : List Char) : (stripCast? t).isSome = beginsCast t := by
  unfold stripCast?
  split
  · rw [Option.isSome_map, isSome_stripTypeName?]
    rfl
  · next hne =>
    match t with
    | [] | [_] => simp [beginsCast]
    | c :: d :: t =>
      have h : ¬ (c = ':' ∧ d = ':') := fun ⟨hc, hd⟩ => hne t (by rw [hc, hd])
      simpa [beginsCast] using fun hc hd => absurd ⟨hc, hd⟩ h

/-! ## Dropping casts -/

theorem dropCastsFrom_sublist (skip : Nat) (t : List Char) : (dropCastsFrom skip t).Sublist t := by
  induction t generalizing skip with
  | nil => cases skip <;> exact List.Sublist.slnil
  | cons c t ih =>
    cases skip with
    | succ skip => exact (ih skip).cons c
    | zero =>
      rw [dropCastsFrom]
      split
      · exact (ih _).cons c
      · exact (ih 0).cons_cons c

theorem dropCasts_sublist (t : List Char) : (dropCasts t).Sublist t := dropCastsFrom_sublist 0 t

theorem quoteless_dropCasts : Quoteless dropCasts where
  nil := rfl
  quote hp hmem := hp ((dropCasts_sublist _).subset hmem)

/-! ## Taking names out of their parentheses -/

/-- A name in parentheses and what comes after it are left of a text. -/
theorem sublist_of_wrappedName? {t name after left : List Char}
    (h : wrappedName? t = some (name, after)) (hl : left.Sublist after) :
    (name ++ left).Sublist t.tail := by
  obtain ⟨a, b, rfl, -⟩ := exists_of_wrappedName? h
  have hafter : left.Sublist (b ++ ')' :: after) :=
    (hl.cons ')').trans (List.sublist_append_right b _)
  exact (hafter.append_left name).trans (List.sublist_append_right a _)

/-- What comes after the parentheses of a name at the start of a text. -/
theorem drop_of_wrappedName? {c : Char} {t name after : List Char}
    (h : wrappedName? (c :: t) = some (name, after)) :
    after.length ≤ t.length ∧ t.drop (t.length - after.length) = after := by
  obtain ⟨a, b, htext, -⟩ := exists_of_wrappedName? h
  have hform : t = (a ++ (name ++ (b ++ [')']))) ++ after := by
    rw [(List.cons.inj htext).2]
    simp
  rw [hform, List.length_append, Nat.add_sub_cancel, List.drop_left]
  exact ⟨Nat.le_add_left _ _, rfl⟩

theorem trimStart_append_of_nil {t : List Char} (h : trimStart t = []) (z : List Char) :
    trimStart (t ++ z) = trimStart z := by
  unfold trimStart at h ⊢
  rw [List.dropWhile_append, if_pos (by simp [h])]

/-- A name in parentheses is found as well when the text goes on. -/
theorem wrappedName?_append {t name after : List Char} (h : wrappedName? t = some (name, after))
    (z : List Char) : wrappedName? (t ++ z) = some (name, after ++ z) := by
  obtain ⟨text, rest, rfl, hscan, hclose⟩ := wrappedName?_eq_some.mp h
  have hrest : rest ≠ [] := by
    rintro rfl
    cases hclose
  have htext : trimStart text ≠ [] := by
    intro hnil
    rw [hnil] at hscan
    cases hscan
  refine wrappedName?_eq_some.mpr ⟨text ++ z, rest ++ z, rfl, ?_, ?_⟩
  · rw [trimStart_append htext]
    exact scanName?_append_right hscan hrest z
  · rw [trimStart_append (by simp [hclose]), hclose, List.cons_append]

/-- The first of two texts goes on to a character that the second does not have. -/
theorem exists_of_append_cons {α : Type} {d : α} {u z x y : List α} (hd : d ∉ z)
    (h : u ++ z = x ++ d :: y) : ∃ y', u = x ++ d :: y' ∧ y = y' ++ z := by
  obtain ⟨m, -, hz⟩ | ⟨m, rfl, hy⟩ := List.append_eq_append_iff.mp h
  · exact absurd (by simp [hz]) hd
  · cases m with
    | nil => exact absurd (List.mem_of_mem_head? (by simp [← show d :: y = z from hy])) hd
    | cons e m =>
      obtain ⟨rfl, rfl⟩ := List.cons.inj hy
      exact ⟨m, rfl, rfl⟩

/-- Text in which no parenthesis closes does not end the pair around a name. -/
theorem wrappedName?_append_eq_none {t z : List Char} (hz : ')' ∉ z)
    (h : wrappedName? t = none) : wrappedName? (t ++ z) = none := by
  refine Option.eq_none_iff_forall_ne_some.mpr fun (name, after) hsome => ?_
  obtain ⟨text, rest, htext, hscan, hclose⟩ := wrappedName?_eq_some.mp hsome
  cases t with
  | nil =>
    obtain rfl : z = '(' :: text := htext
    rw [List.nil_append, wrappedName?_of_not_mem hz] at hsome
    cases hsome
  | cons c t =>
    rw [List.cons_append] at htext
    obtain ⟨rfl, rfl⟩ := List.cons.inj htext
    have hrest : rest = rest.takeWhile isBlank ++ ')' :: after := by
      rw [← hclose, trimStart, List.takeWhile_append_dropWhile]
    have hwhole : trimStart (t ++ z) = (name ++ rest.takeWhile isBlank) ++ ')' :: after := by
      rw [scanName?_eq_append hscan, List.append_assoc, ← hrest]
    have hne : trimStart t ≠ [] := by
      intro hnil
      rw [trimStart_append_of_nil hnil] at hwhole
      exact hz ((List.dropWhile_suffix isBlank).subset (by rw [← trimStart, hwhole]; simp))
    rw [trimStart_append hne] at hscan hwhole
    obtain ⟨after, htail, rfl⟩ := exists_of_append_cons hz hwhole
    rw [hrest, ← List.cons_append, ← List.append_assoc] at hscan
    have hstart : trimStart (rest.takeWhile isBlank ++ ')' :: after) = ')' :: after := by
      refine dropWhile_append_of_stop (List.all_eq_true.mp List.all_takeWhile) fun c hc => ?_
      obtain rfl : ')' = c := by simpa using hc
      rfl
    have hsome := wrappedName?_eq_some.mpr ⟨t, _, rfl, scanName?_of_append hscan, hstart⟩
    rw [h] at hsome
    cases hsome

/-- One step of a pass: a name is taken out of its parentheses, or a character stays, and a name
after it is looked for unless it goes on with a name itself. -/
theorem unwrapFrom_cons (atStart : Bool) (c : Char) (t : List Char) :
    unwrapFrom atStart 0 (c :: t) = match if atStart then wrappedName? (c :: t) else none with
      | some (name, after) => name ++ unwrapFrom false (t.length - after.length) t
      | none => c :: unwrapFrom (!isNameChar c) 0 t := by
  rw [unwrapFrom]
  cases hs : (if atStart = true then wrappedName? (c :: t) else none) with
  | some found => rfl
  | none =>
    cases isNameChar c with
    | true => rfl
    | false =>
      simp only [Bool.false_eq_true, if_false, Bool.not_false]
      cases t with
      | nil => rfl
      | cons d t =>
        rw [unwrapFrom.eq_3 true, if_pos rfl]
        cases hw : wrappedName? (d :: t) with
        | none =>
          simp only
          rw [unwrapFrom.eq_3 false]
          rfl
        | some found =>
          obtain ⟨name, after⟩ := found
          have hlen := (drop_of_wrappedName? hw).1
          simp only [List.length_cons, Nat.succ_sub hlen, unwrapFrom]

theorem unwrapFrom_sublist (atStart : Bool) (skip : Nat) (t : List Char) :
    (unwrapFrom atStart skip t).Sublist (t.drop skip) := by
  induction t generalizing atStart skip with
  | nil => cases skip <;> exact List.Sublist.slnil
  | cons c t ih =>
    cases skip with
    | succ skip => exact ih false skip
    | zero =>
      rw [unwrapFrom_cons, List.drop_zero]
      split
      next name after h =>
        have h := (Option.ite_none_right_eq_some.mp h).2
        have hleft := ih false (t.length - after.length)
        rw [(drop_of_wrappedName? h).2] at hleft
        exact (sublist_of_wrappedName? h hleft).cons c
      · exact (ih _ 0).cons_cons c

theorem unwrapPass_sublist (t : List Char) : (unwrapPass t).Sublist t := unwrapFrom_sublist true 0 t

/-- What holds of a text and is kept by a pass holds of what passes leave. -/
theorem settle_induct {P : List Char → Prop} {f : List Char → List Char}
    (hf : ∀ u, P u → P (f u)) (n : Nat) {t : List Char} (ht : P t) : P (settle f n t) := by
  induction n generalizing t with
  | zero => exact ht
  | succ n ih =>
    rw [settle]
    split
    · exact ht
    · exact ih (hf t ht)

theorem unwrapNames_sublist (t : List Char) : (unwrapNames t).Sublist t :=
  settle_induct (P := (List.Sublist · t)) (fun u hu => (unwrapPass_sublist u).trans hu) _
    (List.Sublist.refl t)

theorem quoteless_unwrapNames : Quoteless unwrapNames where
  nil := rfl
  quote hp hmem := hp ((unwrapNames_sublist _).subset hmem)

theorem unwrapPass_ne_nil {t : List Char} (h : t ≠ []) : unwrapPass t ≠ [] := by
  obtain ⟨c, t, rfl⟩ := List.exists_cons_of_ne_nil h
  rw [unwrapPass, unwrapFrom_cons]
  split
  next name after hname =>
    obtain ⟨-, -, -, hne⟩ := exists_of_wrappedName? (Option.ite_none_right_eq_some.mp hname).2
    exact List.append_ne_nil_of_left_ne_nil hne _
  · exact List.cons_ne_nil _ _

/-- Some text is left of every text but the empty one. -/
theorem eq_nil_of_unwrapNames {t : List Char} (h : unwrapNames t = []) : t = [] := by
  by_contra hne
  exact settle_induct (P := (· ≠ [])) (fun _ => unwrapPass_ne_nil) t.length hne h

end ValidatorGen.Check
