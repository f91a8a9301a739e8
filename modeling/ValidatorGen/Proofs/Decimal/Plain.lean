/-
The characters of numbers inside expressions: digits, a point, a sign, and the letters of the
names for what is not finite (`isNumeral_plainText`).
-/
import ValidatorGen.Decimal.Layout

namespace ValidatorGen.Decimal

/-- A character that numbers are written with. -/
def IsNumeral (c : Char) : Prop := c.isDigit = true ∨ c ∈ ['.', '-', 'i', 'n', 'f', 'N', 'a']

instance : DecidablePred IsNumeral := fun _ => inferInstanceAs (Decidable (_ ∨ _))

theorem isNumeral_toDigits (n : Nat) : ∀ c ∈ Nat.toDigits 10 n, IsNumeral c := fun _ hc =>
  .inl (Nat.isDigit_of_mem_toDigits (by decide) (by decide) hc)

theorem isNumeral_zeros (n : Nat) : ∀ c ∈ List.replicate n '0', IsNumeral c := fun c hc => by
  rw [List.eq_of_mem_replicate hc]
  decide

theorem isNumeral_point : IsNumeral '.' := by decide

/-- Digits that are written out around the point make a numeral. -/
theorem isNumeral_positionalChars {digits : List Char} (h : ∀ c ∈ digits, IsNumeral c) (e : Int) :
    ∀ c ∈ positionalChars [] digits e, IsNumeral c := by
  intro c hc
  unfold positionalChars at hc
  split at hc
  · simp only [List.mem_append, List.mem_cons, List.not_mem_nil, or_false] at hc
    rcases hc with ((rfl | rfl) | hc) | hc
    · decide
    · exact isNumeral_point
    · exact isNumeral_zeros _ c hc
    · exact h c hc
  split at hc
  · simp only [List.mem_append, List.not_mem_nil, or_false] at hc
    rcases hc with hc | hc
    · exact h c hc
    · exact isNumeral_zeros _ c hc
  · simp only [List.mem_append, List.mem_singleton] at hc
    rcases hc with (hc | rfl) | hc
    · exact h c (List.mem_of_mem_take hc)
    · exact isNumeral_point
    · exact h c (List.mem_of_mem_drop hc)

theorem isNumeral_scientific (d : Scientific) : ∀ c ∈ d.chars .plain, IsNumeral c :=
  isNumeral_positionalChars (isNumeral_toDigits d.significand) _

/-- **A number inside an expression is made of nothing else.** -/
theorem isNumeral_plainText (f : Float) : ∀ c ∈ (plainText f).toList, IsNumeral c := by
  intro c hc
  rw [plainText, String.toList_ofList, floatChars] at hc
  generalize fields f.toBits = parts at hc
  obtain ⟨negative, exponent, fraction⟩ := parts
  have hsign : ∀ c ∈ if negative then ['-'] else [], IsNumeral c := by
    cases negative <;> simp [IsNumeral]
  have hinf : ∀ c ∈ ['i', 'n', 'f'], IsNumeral c := by simp [IsNumeral]
  have hnan : ∀ c ∈ ['N', 'a', 'N'], IsNumeral c := by simp [IsNumeral]
  simp only at hc
  split at hc
  · split at hc
    · exact (List.mem_append.mp hc).elim (hsign c) (hinf c)
    · exact hnan c hc
  split at hc
  · exact (List.mem_append.mp hc).elim (hsign c) (isNumeral_scientific _ c)
  · exact (List.mem_append.mp hc).elim (hsign c) (isNumeral_scientific _ c)

end ValidatorGen.Decimal
