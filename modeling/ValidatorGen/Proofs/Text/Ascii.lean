/-
ASCII letters and letter case. A fact about ASCII characters is checked on all of them
(`forall_ascii`); a word in any letter case is dropped from the start of a text
(`stripWord?_append`), and ASCII text is put in lower case letter by letter
(`lowercase_of_ascii`).
-/
import ValidatorGen.Text.Case
import ValidatorGen.Text.Fold
import ValidatorGen.Text.WordChar

namespace ValidatorGen.Text

/-- A word in some letter case. -/
structure Spelling (word : String) where
  text : List Char
  lower : text.map Char.toLower = word.toList

/-- What holds of the first 128 code points holds of every ASCII character. -/
theorem forall_ascii {P : Char → Prop} (h : ∀ n, n < 128 → P (Char.ofNat n)) {c : Char}
    (hc : isAscii c = true) : P c := by
  have hp := h c.toNat (by simpa [isAscii] using hc)
  rwa [Char.ofNat_toNat] at hp

/-- What holds of the members of a list is decided for them, and not for all characters. -/
theorem forall_mem_of_all {P : Char → Prop} [DecidablePred P] {t : List Char}
    (h : t.all (P ·) = true) : ∀ c ∈ t, P c := fun c hc =>
  of_decide_eq_true (List.all_eq_true.mp h c hc)

theorem toLower_of_not_ascii {c : Char} (h : isAscii c = false) : c.toLower = c := by
  have hn : 128 ≤ c.val.toNat := by simpa [isAscii] using h
  have hv : ¬(c.val ≥ 'A'.val ∧ c.val ≤ 'Z'.val) := by
    rintro ⟨-, h₂⟩
    have : c.val.toNat ≤ 90 := h₂
    omega
  unfold Char.toLower
  rw [dif_neg hv]

theorem isAscii_of_toLower {c : Char} (h : isAscii c.toLower = true) : isAscii c = true := by
  by_cases hc : isAscii c = true
  · exact hc
  · rw [toLower_of_not_ascii (by simpa using hc)] at h
    exact h

theorem isAscii_toLower {c : Char} (h : isAscii c = true) : isAscii c.toLower = true :=
  forall_ascii (P := fun c => isAscii c.toLower = true) (by decide) h

theorem toUpper_toLower {c : Char} (h : isAscii c = true) : c.toLower.toUpper = c.toUpper :=
  forall_ascii (P := fun c => c.toLower.toUpper = c.toUpper) (by decide) h

/-- A character is its lower-case form or that form's upper case. -/
theorem eq_or_eq_of_toLower {c d : Char} (h : c.toLower = d) : c = d ∨ c = d.toUpper := by
  subst h
  by_cases hc : isAscii c = true
  · exact forall_ascii (P := fun c => c = c.toLower ∨ c = c.toLower.toUpper) (by decide) hc
  · exact .inl (toLower_of_not_ascii (by simpa using hc)).symm

theorem mapped?_eq_none {rows : List (Nat × Nat × Nat × Nat)} {n : Nat}
    (h : ∀ row ∈ rows, n < row.1) : mapped? rows n = none := by
  rw [mapped?, List.findSome?_eq_none_iff]
  intro row hrow
  have hlt := h row hrow
  have hle : decide (row.1 ≤ n) = false := by simpa using hlt
  simp [hle]

/-- Below 128 only the small letters have another fold point, their capital. -/
theorem mapped?_fold {n : Nat} (h : n < 128) :
    mapped? FoldTable.fold n = if 97 ≤ n && n ≤ 122 then some (65 + (n - 97)) else none := by
  have htail : ∀ row ∈ FoldTable.fold.tail, 128 ≤ row.1 := by decide +kernel
  have hnone : mapped? FoldTable.fold.tail n = none :=
    mapped?_eq_none fun row hrow => Nat.lt_of_lt_of_le h (htail row hrow)
  have hcons : FoldTable.fold = (97, 122, 1, 65) :: FoldTable.fold.tail := rfl
  rw [hcons, mapped?, List.findSome?_cons, ← mapped?, hnone]
  simp only [Nat.mod_one, beq_self_eq_true, Bool.and_true]
  cases decide (97 ≤ n) && decide (n ≤ 122) <;> rfl

theorem foldPoint_ascii {c : Char} (h : isAscii c = true) :
    foldPoint c.toNat = c.toUpper.toNat := by
  rw [foldPoint, mapped?_fold (by simpa [isAscii] using h)]
  exact forall_ascii (P := fun c => (if 97 ≤ c.toNat && c.toNat ≤ 122 then
    some (65 + (c.toNat - 97)) else none).getD c.toNat = c.toUpper.toNat) (by decide) h

theorem sameLetter_ascii {a b : Char} (ha : isAscii a = true) (hb : isAscii b = true) :
    sameLetter a b = (a.toUpper == b.toUpper) := by
  rw [sameLetter, foldPoint_ascii ha, foldPoint_ascii hb, Bool.eq_iff_iff, beq_iff_eq, beq_iff_eq]
  exact ⟨fun h => Char.toNat_inj.mp h, fun h => h ▸ rfl⟩

theorem sameLetter_toLower {c : Char} (h : isAscii c = true) : sameLetter c.toLower c = true := by
  rw [sameLetter_ascii (isAscii_toLower h) h, toUpper_toLower h, beq_self_eq_true]

theorem sameLetter_eq_false {w c d : Char} (hc : c.toLower = d) (hw : isAscii w = true)
    (hd : isAscii d = true) (hne : w.toLower ≠ d) : sameLetter w c = false := by
  subst hc
  have hc := isAscii_of_toLower hd
  have hback : ∀ {a : Char}, isAscii a = true → a.toUpper.toLower = a.toLower :=
    forall_ascii (P := fun a => a.toUpper.toLower = a.toLower) (by decide)
  rw [sameLetter_ascii hw hc, beq_eq_false_iff_ne]
  intro h
  exact hne (by rw [← hback hw, h, hback hc])

/-- A word of ASCII letters is dropped from the start of a text in whatever case it is. -/
theorem stripWord?_append {word text : List Char} (h : text.map Char.toLower = word)
    (hw : word.all isAscii = true) (rest : List Char) :
    stripWord? word (text ++ rest) = some rest := by
  subst h
  induction text with
  | nil => rfl
  | cons c text ih =>
    rw [List.map_cons, List.all_cons, Bool.and_eq_true] at hw
    have hc : isAscii c = true := isAscii_of_toLower hw.1
    rw [List.map_cons, List.cons_append, stripWord?, if_pos (sameLetter_toLower hc)]
    exact ih hw.2

theorem toList_toLower (s : String) : s.toLower.toList = s.toList.map Char.toLower :=
  String.toList_map

theorem isAscii_of_isAlphanum {c : Char} (h : c.isAlphanum = true) : isAscii c = true := by
  unfold Char.isAlphanum Char.isAlpha Char.isUpper Char.isLower Char.isDigit at h
  simp only [Bool.or_eq_true, Bool.and_eq_true, decide_eq_true_eq, UInt32.le_iff_toNat_le] at h
  have hn : c.val.toNat < 128 := by
    rcases h with (⟨-, h⟩ | ⟨-, h⟩) | ⟨-, h⟩
    · change c.val.toNat ≤ 90 at h
      omega
    · change c.val.toNat ≤ 122 at h
      omega
    · change c.val.toNat ≤ 57 at h
      omega
  simpa [isAscii] using hn

theorem lowercase_of_ascii {t : List Char} (h : ∀ c ∈ t, isAscii c = true) :
    lowercase t = t.map Char.toLower := by
  have after : ∀ before, lowercaseAfter before t = t.map Char.toLower := by
    induction t with
    | nil => exact fun _ => rfl
    | cons c t ih =>
      intro before
      have hc := h c (by simp)
      have hs : (c == 'Σ') = false :=
        forall_ascii (P := fun c => (c == 'Σ') = false) (by decide) hc
      rw [lowercaseAfter, hs, if_neg Bool.false_ne_true, lower, if_pos hc,
        ih (fun d hd => h d (by simp [hd])), List.map_cons, List.singleton_append]
  exact after []

end ValidatorGen.Text
