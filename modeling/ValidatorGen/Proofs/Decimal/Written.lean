/-
Which bounds are written as numbers: **a float is written as a decimal numeral just if it is
finite** (`isDecimal_plainText_iff`); the others are written by their names. A length is always one.
-/
import ValidatorGen.Proofs.Decimal.Rounding
import ValidatorGen.Proofs.Json.Floats

namespace ValidatorGen.Decimal

open Json (IsDigits isDigits_toDigits isDigit_zeros)
open Json.Literal (fractionChars)

/-- Digits without an exponent, with a point among them or not. -/
def IsPositional (text : List Char) : Prop :=
  ∃ whole fraction, IsDigits whole ∧ (∀ digits ∈ fraction, IsDigits digits) ∧
    whole ++ fractionChars fraction = text

/-- **A decimal numeral**: digits, with a minus sign before them or not. -/
def IsDecimal (text : List Char) : Prop :=
  ∃ (negative : Bool) (digits : List Char), IsPositional digits ∧
    (if negative then ['-'] else []) ++ digits = text

variable {digits text : List Char} {f : Float}

theorem isPositional_positionalChars (h : IsDigits digits) (e : Int) :
    IsPositional (positionalChars [] digits e) := by
  have hzero : IsDigits ['0'] := ⟨nofun, List.forall_mem_singleton.mpr rfl⟩
  unfold positionalChars
  split
  · refine ⟨['0'], some (List.replicate ((-e).toNat - 1) '0' ++ digits), hzero, ?_, rfl⟩
    intro ds hds
    cases hds
    exact ⟨by simp [h.1], fun c hc => (List.mem_append.mp hc).elim (isDigit_zeros _ c) (h.2 c)⟩
  split
  · refine ⟨digits ++ List.replicate (e.toNat + 1 - digits.length) '0', none, ?_, nofun, rfl⟩
    exact ⟨by simp [h.1], fun c hc => (List.mem_append.mp hc).elim (h.2 c) (isDigit_zeros _ c)⟩
  · next hshort =>
    refine ⟨digits.take (e.toNat + 1), some (digits.drop (e.toNat + 1)), ?_, ?_, ?_⟩
    · exact ⟨by simp [h.1], fun c hc => h.2 c (List.mem_of_mem_take hc)⟩
    · intro ds hds
      cases hds
      refine ⟨fun hnil => ?_, fun c hc => h.2 c (List.mem_of_mem_drop hc)⟩
      have := List.drop_eq_nil_iff.mp hnil
      omega
    · simp [fractionChars]

/-- What a decimal numeral is made of. -/
theorem mem_of_isDecimal (h : IsDecimal text) {c : Char} (hc : c ∈ text) :
    c.isDigit = true ∨ c = '-' ∨ c = '.' := by
  obtain ⟨negative, _, ⟨whole, fraction, hwhole, hfraction, rfl⟩, rfl⟩ := h
  rcases List.mem_append.mp hc with hc | hc
  · cases negative
    · cases hc
    · exact .inr (.inl (List.mem_singleton.mp hc))
  rcases List.mem_append.mp hc with hc | hc
  · exact .inl (hwhole.2 c hc)
  cases fraction with
  | none => cases hc
  | some ds =>
    rcases List.mem_cons.mp hc with rfl | hc
    · exact .inr (.inr rfl)
    · exact .inl ((hfraction ds rfl).2 c hc)

/-- A float is finite just if its exponent is not the greatest one. -/
theorem isFinite_iff : f.isFinite = true ↔ (fields f.toBits).2.1 ≠ 2047 := by
  constructor
  · exact Json.exponent_ne_of_isFinite
  · intro h
    refine isFinite_unpack.mpr fun hones => h ?_
    rw [← Json.toNat_exponentBits]
    exact congrArg BitVec.toNat hones

/-- **A float is written as a decimal numeral just if it is finite.** -/
theorem isDecimal_plainText_iff : IsDecimal (plainText f).toList ↔ f.isFinite = true := by
  rw [isFinite_iff, plainText, String.toList_ofList, floatChars]
  generalize fields f.toBits = parts
  obtain ⟨negative, exponent, fraction⟩ := parts
  have hsmall : ¬ (Char.isDigit 'n' = true ∨ 'n' = '-' ∨ 'n' = '.') := by decide
  have hgreat : ¬ (Char.isDigit 'N' = true ∨ 'N' = '-' ∨ 'N' = '.') := by decide
  have hscientific : ∀ d : Scientific, IsPositional (d.chars .plain) := fun d =>
    isPositional_positionalChars (isDigits_toDigits d.significand) _
  simp only
  split
  · next hexponent =>
    refine iff_of_false (fun h => ?_) (not_not_intro hexponent)
    split at h
    · exact hsmall (mem_of_isDecimal h (by simp))
    · exact hgreat (mem_of_isDecimal h (by simp))
  · next hexponent =>
    refine iff_of_true ?_ hexponent
    split <;> exact ⟨negative, _, hscientific _, rfl⟩

/-- A natural number is written as a decimal numeral. -/
theorem isDecimal_toString (n : Nat) : IsDecimal (toString n).toList := by
  refine ⟨false, _, ⟨Nat.toDigits 10 n, none, isDigits_toDigits n, nofun, rfl⟩, ?_⟩
  simp [fractionChars]

end ValidatorGen.Decimal
