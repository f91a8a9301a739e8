/-
The element type of an array. Brackets are taken off a name one pair at a time, the last pair first
(`dropBrackets?_eq_some_iff`), and no name has more pairs than characters (`dropDimensions_of_le`).
So **brackets after a name make it that of an array, and its element type is what it was**
(`mapName_dimensions`).
-/
import ValidatorGen.Proofs.ColumnType.PlainName

namespace ValidatorGen.ColumnType

open Text

variable {s t name gap : List Char}

/-! ## Taking brackets off -/

theorem dropBrackets?_eq_some_iff : dropBrackets? t = some s ↔ t = s ++ ['[', ']'] := by
  constructor
  · intro h
    unfold dropBrackets? at h
    split at h
    · next rest hrev =>
      obtain rfl : rest.reverse = s := Option.some.inj h
      rw [← List.reverse_reverse t, hrev]
      simp
    · cases h
  · rintro rfl
    simp [dropBrackets?]

theorem dropDimensions_concat (n : Nat) (t : List Char) :
    dropDimensions (n + 1) (t ++ ['[', ']']) = dropDimensions n (trimEnd t) := by
  rw [dropDimensions, dropBrackets?_eq_some_iff.mpr rfl]

/-- A name has no more pairs of brackets than characters. -/
theorem dropDimensions_of_le {m n : Nat} (hm : t.length ≤ m) (hn : t.length ≤ n) :
    dropDimensions m t = dropDimensions n t := by
  induction m generalizing n t with
  | zero =>
    obtain rfl : t = [] := List.eq_nil_of_length_eq_zero (by omega)
    cases n <;> rfl
  | succ m ih =>
    cases n with
    | zero =>
      obtain rfl : t = [] := List.eq_nil_of_length_eq_zero (by omega)
      rfl
    | succ n =>
      cases h : dropBrackets? t with
      | none => rw [dropDimensions, dropDimensions, h]
      | some rest =>
        obtain rfl := dropBrackets?_eq_some_iff.mp h
        have hshort := length_dropEndWhile_le isBlank rest
        rw [List.length_append] at hm hn
        rw [dropDimensions_concat, dropDimensions_concat]
        exact ih (Nat.le_trans hshort (by simp at hm; omega))
          (Nat.le_trans hshort (by simp at hn; omega))

/-- Pairs at the end go with the white space before them. -/
theorem dropDimensions_dimensions (h : ∀ c, name.getLast? = some c → isBlank c = false)
    (hgap : IsGap gap) (m n : Nat) :
    dropDimensions (m + (n + 1)) (name ++ gap ++ dimensions (n + 1)) = dropDimensions m name := by
  induction n with
  | zero =>
    rw [dimensions_succ, dimensions, List.replicate_zero, List.flatten_nil, List.nil_append,
      dropDimensions_concat, trimEnd, dropEndWhile_append_of_stop h hgap]
  | succ n ih =>
    have htight : trimEnd (name ++ gap ++ dimensions (n + 1))
        = name ++ gap ++ dimensions (n + 1) := by
      refine dropEndWhile_of_last fun c hc => ?_
      rw [dimensions_succ] at hc
      obtain rfl : ']' = c := by simpa using hc
      decide
    rw [dimensions_succ, ← List.append_assoc, ← Nat.add_assoc m, dropDimensions_concat, htight, ih]

/-! ## Arrays -/

theorem element_of_head (h : name.head? ≠ some '_') :
    element name = if dropDimensions name.length name = ['a', 'r', 'r', 'a', 'y'] then ([], true)
      else (dropDimensions name.length name, (dropBrackets? name).isSome) := by
  unfold element
  split
  · exact absurd rfl h
  · rfl

theorem element_dimensions (h : name.head? ≠ some '_')
    (hlast : ∀ c, name.getLast? = some c → isBlank c = false) (hgap : IsGap gap) (n : Nat) :
    element (name ++ gap ++ dimensions (n + 1)) = ((element name).1, true) := by
  have hhead : (name ++ gap ++ dimensions (n + 1)).head? ≠ some '_' := by
    intro hc
    rw [List.append_assoc, List.head?_append] at hc
    cases hname : name.head? with
    | some c =>
      rw [hname, Option.some_or] at hc
      exact h (hname.trans hc)
    | none =>
      rw [hname, Option.none_or] at hc
      have hmem := List.mem_of_mem_head? (Option.mem_def.mpr hc)
      rcases List.mem_append.mp hmem with hmem | hmem
      · exact hgap.not_mem (by decide) hmem
      · exact not_mem_dimensions (by decide) (by decide) _ hmem
  have hsome : (dropBrackets? (name ++ gap ++ dimensions (n + 1))).isSome = true := by
    rw [dimensions_succ, ← List.append_assoc, dropBrackets?_eq_some_iff.mpr rfl]
    rfl
  have hlength : (name ++ gap ++ dimensions (n + 1)).length
      = (name.length + gap.length + (n + 1)) + (n + 1) := by
    simp [dimensions]
    omega
  have hbase : dropDimensions (name ++ gap ++ dimensions (n + 1)).length
      (name ++ gap ++ dimensions (n + 1)) = dropDimensions name.length name := by
    rw [hlength, dropDimensions_dimensions hlast hgap]
    exact dropDimensions_of_le (by omega) (Nat.le_refl _)
  rw [element_of_head hhead, element_of_head h, hbase, hsome]
  split <;> rfl

/-- **Brackets after a name make it that of an array of the same element type.** -/
theorem mapName_dimensions (fallback : Option TypeFallback) (h : name.head? ≠ some '_')
    (hlast : ∀ c, name.getLast? = some c → isBlank c = false) (hgap : IsGap gap) {n : Nat}
    (hn : 0 < n) : mapName fallback (name ++ gap ++ dimensions n)
      = { mapName fallback name with isArray := true } := by
  obtain ⟨n, rfl⟩ := Nat.exists_eq_succ_of_ne_zero (Nat.ne_of_gt hn)
  simp only [mapName, element_dimensions h hlast hgap]

end ValidatorGen.ColumnType
