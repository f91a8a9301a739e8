/-
What the case of a letter does not change. No character is lost when the case of a text is changed
(`upper_ne_nil`, `lower_ne_nil`), so that a text of which some is left out has another lower case
(`eq_of_sublist_of_lowercase`), and **no underscore comes up that was not there**
(`underscore_mem_uppercase`, `underscore_mem_lowercase`): beyond ASCII the counterparts are those
of tables, and a table is checked row by row (`Avoids`).
-/
import Mathlib.Data.List.Basic
import ValidatorGen.Proofs.Text.Ascii

namespace ValidatorGen.Text

/-- The counterpart of a character beyond ASCII, by the tables of several and of single code
points. -/
def beyondAscii (expansions : List (Nat × List Nat)) (map : List (Nat × Nat × Nat × Nat))
    (c : Char) : List Char :=
  match expansions.lookup c.toNat with
  | some points => points.map Char.ofNat
  | none => [(mapped? map c.toNat).elim c Char.ofNat]

/-- No row of the tables leads to the code point `k`, nor to nothing. -/
structure Avoids (k : Nat) (expansions : List (Nat × List Nat))
    (map : List (Nat × Nat × Nat × Nat)) : Prop where
  expansions : ∀ row ∈ expansions, row.2 ≠ [] ∧ k ∉ row.2
  map : ∀ row ∈ map, row.2.2.2 + (row.2.1 - row.1) < k ∨ k < row.2.2.2

theorem avoids_upper : Avoids '_'.toNat CaseTable.upperExpansions CaseTable.toUpper :=
  ⟨by decide +kernel, by decide +kernel⟩

theorem avoids_lower : Avoids '_'.toNat CaseTable.lowerExpansions CaseTable.toLower :=
  ⟨by decide +kernel, by decide +kernel⟩

theorem upper_of_ascii {c : Char} (h : isAscii c = true) : upper c = [c.toUpper] := if_pos h

theorem lower_of_ascii {c : Char} (h : isAscii c = true) : lower c = [c.toLower] := if_pos h

theorem upper_of_not_ascii {c : Char} (h : isAscii c = false) :
    upper c = beyondAscii CaseTable.upperExpansions CaseTable.toUpper c :=
  if_neg (by simp [h])

theorem lower_of_not_ascii {c : Char} (h : isAscii c = false) :
    lower c = beyondAscii CaseTable.lowerExpansions CaseTable.toLower c :=
  if_neg (by simp [h])

/-- A code point that makes a character other than the first one is that of the character. -/
theorem toNat_eq_of_ofNat {n : Nat} {c : Char} (h : Char.ofNat n = c) (hc : c.toNat ≠ 0) :
    n = c.toNat := by
  subst h
  by_cases hn : n.isValidChar
  · have hof : Char.ofNat n = Char.ofNatAux n hn := dif_pos hn
    rw [hof]
    rfl
  · have hof : Char.ofNat n = '\x00' := dif_neg hn
    rw [hof] at hc
    exact absurd rfl hc

namespace Avoids

variable {k : Nat} {expansions : List (Nat × List Nat)} {map : List (Nat × Nat × Nat × Nat)}
  {c d : Char}

theorem mapped?_ne (h : Avoids k expansions map) (n : Nat) : mapped? map n ≠ some k := by
  intro hk
  obtain ⟨⟨first, last, step, target⟩, hrow, hmap⟩ := List.exists_of_findSome?_eq_some hk
  have havoid : target + (last - first) < k ∨ k < target := h.map _ hrow
  obtain ⟨hin, hto⟩ := Option.ite_none_right_eq_some.mp hmap
  simp only [Bool.and_eq_true, decide_eq_true_eq] at hin
  have hto := Option.some.inj hto
  omega

theorem mem_of_lookup (h : Avoids k expansions map) {n : Nat} {points : List Nat}
    (hlookup : expansions.lookup n = some points) : points ≠ [] ∧ k ∉ points := by
  obtain ⟨before, after, rfl, -⟩ := List.lookup_eq_some_iff.mp hlookup
  exact h.expansions (n, points) (by simp)

theorem beyondAscii_ne_nil (h : Avoids k expansions map) : beyondAscii expansions map c ≠ [] := by
  unfold beyondAscii
  split
  · next points hlookup => simpa using (h.mem_of_lookup hlookup).1
  · exact List.cons_ne_nil _ _

/-- A character that the tables avoid has no other counterpart than itself. -/
theorem eq_of_mem_beyondAscii (h : Avoids d.toNat expansions map) (hd : d.toNat ≠ 0)
    (hmem : d ∈ beyondAscii expansions map c) : c = d := by
  unfold beyondAscii at hmem
  split at hmem
  · next points hlookup =>
    obtain ⟨n, hn, heq⟩ := List.mem_map.mp hmem
    have hpoint := toNat_eq_of_ofNat heq hd
    exact absurd (hpoint ▸ hn) (h.mem_of_lookup hlookup).2
  · have heq := (List.mem_singleton.mp hmem).symm
    cases hmap : mapped? map c.toNat with
    | none =>
      rw [hmap] at heq
      exact heq
    | some n =>
      rw [hmap] at heq
      have hpoint : n = d.toNat := toNat_eq_of_ofNat heq hd
      exact absurd (hpoint ▸ hmap) (h.mapped?_ne _)

end Avoids

/-! ## Characters -/

theorem upper_ne_nil (c : Char) : upper c ≠ [] := by
  cases h : isAscii c with
  | true =>
    rw [upper_of_ascii h]
    exact List.cons_ne_nil _ _
  | false =>
    rw [upper_of_not_ascii h]
    exact avoids_upper.beyondAscii_ne_nil

theorem lower_ne_nil (c : Char) : lower c ≠ [] := by
  cases h : isAscii c with
  | true =>
    rw [lower_of_ascii h]
    exact List.cons_ne_nil _ _
  | false =>
    rw [lower_of_not_ascii h]
    exact avoids_lower.beyondAscii_ne_nil

theorem underscore_mem_upper {c : Char} (h : '_' ∈ upper c) : c = '_' := by
  cases hc : isAscii c with
  | true =>
    rw [upper_of_ascii hc, List.mem_singleton] at h
    exact forall_ascii (P := fun c => '_' = c.toUpper → c = '_') (by decide) hc h
  | false =>
    rw [upper_of_not_ascii hc] at h
    exact avoids_upper.eq_of_mem_beyondAscii (by decide) h

/-- A character with no case: it is its own lower-case form and that of no other. -/
structure Caseless (d : Char) : Prop where
  ascii : isAscii d = true
  self : d.toLower = d
  toLower : ∀ n, n < 128 → d = (Char.ofNat n).toLower → Char.ofNat n = d
  pos : d.toNat ≠ 0
  avoids : Avoids d.toNat CaseTable.lowerExpansions CaseTable.toLower

theorem caseless_underscore : Caseless '_' :=
  ⟨rfl, rfl, by decide, by decide, ⟨by decide +kernel, by decide +kernel⟩⟩

theorem caseless_apostrophe : Caseless '\x27' :=
  ⟨rfl, rfl, by decide, by decide, ⟨by decide +kernel, by decide +kernel⟩⟩

namespace Caseless

variable {c d : Char} (h : Caseless d)
include h

theorem eq_of_mem_lower (hmem : d ∈ lower c) : c = d := by
  cases hc : isAscii c with
  | true =>
    rw [lower_of_ascii hc, List.mem_singleton] at hmem
    exact forall_ascii (P := fun c => d = c.toLower → c = d) h.toLower hc hmem
  | false =>
    rw [lower_of_not_ascii hc] at hmem
    exact h.avoids.eq_of_mem_beyondAscii h.pos hmem

theorem ne_of_not_ascii (hc : isAscii c = false) : d ≠ c := by
  rintro rfl
  exact absurd h.ascii (by simp [hc])

theorem count_lower (c : Char) : (lower c).count d = if c = d then 1 else 0 := by
  split
  · next heq =>
    subst heq
    rw [lower_of_ascii h.ascii, h.self, List.count_singleton_self]
  · next hne => exact List.count_eq_zero.mpr fun hmem => hne (h.eq_of_mem_lower hmem)

end Caseless

/-! ## Texts -/

theorem uppercase_ne_nil {t : List Char} (h : t ≠ []) : uppercase t ≠ [] := by
  obtain ⟨c, t, rfl⟩ := List.exists_cons_of_ne_nil h
  simp [uppercase, upper_ne_nil]

/-- **An underscore in upper case is one of the text.** -/
theorem underscore_mem_uppercase {t : List Char} (h : '_' ∈ uppercase t) : '_' ∈ t := by
  obtain ⟨c, hc, hmem⟩ := List.mem_flatMap.mp h
  exact underscore_mem_upper hmem ▸ hc

theorem lowercase_ne_nil {t : List Char} (h : t ≠ []) : lowercase t ≠ [] := by
  obtain ⟨c, t, rfl⟩ := List.exists_cons_of_ne_nil h
  rw [lowercase, lowercaseAfter]
  split
  · exact List.cons_ne_nil _ _
  · simp [lower_ne_nil]

/-- **A character with no case is as often in a text as in its lower case.** -/
theorem Caseless.count_lowercase {d : Char} (h : Caseless d) (t : List Char) :
    (lowercase t).count d = t.count d := by
  have after : ∀ before, (lowercaseAfter before t).count d = t.count d := by
    induction t with
    | nil => exact fun _ => rfl
    | cons c t ih =>
      intro before
      have hfirst : (if c == 'Σ' then [lowerSigma before t] else lower c).count d
          = if c = d then 1 else 0 := by
        split
        · next hc =>
          -- neither form of a small sigma is ASCII, and so is no capital one
          have hsigma : d ≠ lowerSigma before t := by
            rw [lowerSigma]
            split <;> exact h.ne_of_not_ascii rfl
          have hne : d ≠ c := beq_iff_eq.mp hc ▸ h.ne_of_not_ascii rfl
          rw [if_neg hne.symm, List.count_singleton, beq_eq_false_iff_ne.mpr hsigma.symm]
          rfl
        · exact h.count_lower c
      rw [lowercaseAfter, List.count_append, hfirst, ih, List.count_cons, Nat.add_comm]
      simp only [beq_iff_eq]
  exact after []

/-- Lower case is as long wherever a text stands. -/
theorem length_lowercaseAfter (before t : List Char) :
    (lowercaseAfter before t).length = (t.flatMap lower).length := by
  induction t generalizing before with
  | nil => rfl
  | cons c t ih =>
    have hsigma : (lower 'Σ').length = 1 := by decide +kernel
    have hfirst : (if c == 'Σ' then [lowerSigma before t] else lower c).length
        = (lower c).length := by
      split
      · next hc => rw [beq_iff_eq.mp hc, hsigma, List.length_singleton]
      · rfl
    rw [lowercaseAfter, List.length_append, hfirst, ih, List.flatMap_cons, List.length_append]

/-- **A text of which some is left out has another lower case.** -/
theorem eq_of_sublist_of_lowercase {s t : List Char} (h : s.Sublist t)
    (hlower : lowercase s = lowercase t) : s = t := by
  have hsum : (s.flatMap lower).length + t.length ≤ (t.flatMap lower).length + s.length := by
    clear hlower
    induction h with
    | slnil => exact Nat.le_refl _
    | cons c _ ih =>
      have hpos := List.length_pos_iff.mpr (lower_ne_nil c)
      simp only [List.flatMap_cons, List.length_append, List.length_cons]
      omega
    | cons_cons c _ ih =>
      simp only [List.flatMap_cons, List.length_append, List.length_cons]
      omega
  have hlen := congrArg List.length hlower
  rw [lowercase, lowercase, length_lowercaseAfter, length_lowercaseAfter] at hlen
  exact h.eq_of_length_le (by omega)

/-- **An underscore in lower case is one of the text.** -/
theorem underscore_mem_lowercase {t : List Char} (h : '_' ∈ lowercase t) : '_' ∈ t := by
  rw [← List.count_pos_iff, caseless_underscore.count_lowercase] at h
  exact List.count_pos_iff.mp h

theorem uppercase_of_ascii {t : List Char} (h : ∀ c ∈ t, isAscii c = true) :
    uppercase t = t.map Char.toUpper := by
  rw [uppercase, List.map_eq_flatMap]
  exact List.flatMap_congr fun c hc => upper_of_ascii (h c hc)

/-! ## Letters that differ in case only -/

/-- An ASCII character to which the table of folds leads from ASCII only is the same letter as
ASCII characters only. -/
theorem isAscii_of_sameLetter {w c : Char} (hw : isAscii w = true)
    (h : Avoids w.toUpper.toNat [] FoldTable.fold.tail) (hs : sameLetter w c = true) :
    isAscii c = true := by
  by_contra hc
  have hn : 128 ≤ c.toNat := by simpa [isAscii] using hc
  have hfold : foldPoint c.toNat = w.toUpper.toNat := by
    rw [sameLetter, foldPoint_ascii hw, beq_iff_eq] at hs
    exact hs.symm
  have hsmall : w.toUpper.toNat < 128 :=
    forall_ascii (P := fun w => w.toUpper.toNat < 128) (by decide) hw
  have hfirst : (decide (97 ≤ c.toNat) && decide (c.toNat ≤ 122)) = false := by
    rw [Bool.and_eq_false_iff]
    exact .inr (decide_eq_false (by omega))
  have hcons : FoldTable.fold = (97, 122, 1, 65) :: FoldTable.fold.tail := rfl
  have htail : mapped? FoldTable.fold c.toNat = mapped? FoldTable.fold.tail c.toNat := by
    rw [hcons, mapped?, List.findSome?_cons, ← mapped?]
    simp only [hfirst, Bool.false_and]
    rfl
  rw [foldPoint, htail] at hfold
  cases hmap : mapped? FoldTable.fold.tail c.toNat with
  | none =>
    rw [hmap, Option.getD_none] at hfold
    omega
  | some k =>
    rw [hmap, Option.getD_some] at hfold
    exact h.mapped?_ne _ (hfold ▸ hmap)

end ValidatorGen.Text
