/-
Floats of documents are numbers: **what a finite float is written as follows the rules for numbers**
(`exists_literal_floatChars`). The digits of a float start with a zero only if the float is zero
(`isTidy_shortest`), so wherever the point stands among them, no number starts with a zero too many.
-/
import Mathlib.Data.List.Basic
import ValidatorGen.Proofs.Json.Numerals

namespace ValidatorGen.Json

open Decimal

/-! ## The fields of finite floats -/

/-- The bits of the exponent. -/
abbrev exponentBits (bits : UInt64) : BitVec 11 :=
  @Float.Model.UnpackedFloat.unpackExponent .binary64 bits.toBitVec

theorem toNat_exponentBits (bits : UInt64) : (exponentBits bits).toNat = (fields bits).2.1 := by
  simp [exponentBits, Float.Model.UnpackedFloat.unpackExponent, fields]

/-- The greatest exponent is that of infinities and of what is no number. -/
theorem exponent_ne_of_isFinite {f : Float} (h : f.isFinite = true) :
    (fields f.toBits).2.1 ≠ 2047 := by
  intro hexp
  let bits := f.toModel.toBits.toBitVec
  let sign := Float.Model.UnpackedFloat.Sign.ofBitVec
    (@Float.Model.UnpackedFloat.unpackSign .binary64 bits)
  have hones : exponentBits f.toModel.toBits = -1#11 :=
    BitVec.eq_of_toNat_eq ((toNat_exponentBits f.toBits).trans hexp)
  have hunpack : f.toModel.unpack
      = if @Float.Model.UnpackedFloat.unpackMantissa .binary64 bits = 0#52
        then .infinity sign else .notANumber := if_pos hones
  change f.toModel.unpack.isFinite = true at h
  rw [hunpack] at h
  split at h <;> cases h

theorem low_ofFields_pos {exponent fraction : Nat} (h : ¬ (exponent = 0 ∧ fraction = 0)) :
    0 < (Binary.ofFields exponent fraction).low := by
  have hshift : 1 <<< 52 = 2 ^ 52 := by decide
  simp only [Binary.ofFields]
  split <;> split <;> omega

/-! ## Digits -/

/-- A decimal has a significand, or is plain zero. -/
def IsTidy (d : Scientific) : Prop := d.significand = 0 → d = ⟨0, 0⟩

section

variable {d : Scientific} {b : Binary} {tie : Tie}

theorem ofPower_zero_num (base : Nat) (e : Int) : (Quotient.ofPower 0 base e).num = 0 := by
  cases e <;> simp [Quotient.ofPower]

theorem ofPower_num_pos {n base : Nat} (hn : 0 < n) (hbase : 0 < base) (e : Int) :
    0 < (Quotient.ofPower n base e).num := by
  cases e with
  | ofNat e => exact Nat.mul_pos hn (Nat.pow_pos hbase)
  | negSucc e => exact hn

theorem ofPower_den_pos {base : Nat} (n : Nat) (hbase : 0 < base) (e : Int) :
    0 < (Quotient.ofPower n base e).den := by
  cases e with
  | ofNat e => exact Nat.one_pos
  | negSucc e => exact Nat.pow_pos hbase

/-- Zero does not read back as a float that is not zero. -/
theorem significand_ne_of_holds (hlow : 0 < b.low) (h : b.holds d = true) :
    d.significand ≠ 0 := by
  intro hzero
  have hnum := ofPower_zero_num 10 d.scale
  have hlow := ofPower_num_pos hlow Nat.two_pos b.power
  have hpos := Nat.mul_pos hlow (ofPower_den_pos 0 (Nat.succ_pos 9) d.scale)
  unfold Binary.holds at h
  rw [hzero] at h
  split at h <;> simp_all [Quotient.lt]

theorem holds_of_onGrid {scale : Int} (h : b.onGrid? tie scale = some d) : b.holds d = true := by
  simp only [Binary.onGrid?] at h
  split at h
  case h_1 => split at h <;> cases h <;> assumption
  case h_4 => cases h
  all_goals
    cases h
    assumption

theorem isTidy_stripZeros (h : IsTidy d) (fuel : Nat) : IsTidy (stripZeros fuel d) := by
  fun_induction stripZeros fuel d
  case case1 => exact h
  case case2 fuel d hdrop ih =>
    simp only [Bool.and_eq_true, decide_eq_true_eq] at hdrop
    refine ih fun hzero => ?_
    have : d.significand / 10 = 0 := hzero
    omega
  case case3 => exact h

theorem isTidy_shortest (hlow : 0 < b.low) : IsTidy (b.shortest tie) := by
  refine isTidy_stripZeros ?_ 20
  intro hzero
  cases hfound : (List.range 17).findSome? fun n : Nat => b.onGrid? tie
      (leadingExponent (Quotient.ofPower b.value 2 b.power) - n) with
  | none => rfl
  | some d =>
    rw [hfound] at hzero
    obtain ⟨n, -, hgrid⟩ := List.exists_of_findSome?_eq_some hfound
    exact absurd hzero (significand_ne_of_holds hlow (holds_of_onGrid hgrid))

/-! ## Characters -/

/-- A text spells a number without a sign. -/
def IsMagnitude (chars : List Char) : Prop :=
  ∃ l : Literal, l.IsValid ∧ l.negative = false ∧ l.chars = chars

variable {digits chars : List Char}

theorem isDigit_zeros (n : Nat) : ∀ c ∈ List.replicate n '0', c.isDigit = true := fun c hc => by
  rw [List.eq_of_mem_replicate hc]
  decide

theorem IsMagnitude.signed (h : IsMagnitude chars) (negative : Bool) :
    ∃ l : Literal, l.IsValid ∧ l.chars = (if negative then ['-'] else []) ++ chars := by
  obtain ⟨l, hvalid, hsign, rfl⟩ := h
  refine ⟨{ l with negative }, ⟨hvalid.whole, hvalid.start, hvalid.fraction, hvalid.exponent⟩, ?_⟩
  simp [Literal.chars, hsign]

theorem isMagnitude_point {whole fraction : List Char} (hwhole : IsDigits whole)
    (hstart : whole.head? = some '0' → whole = ['0']) (hfraction : IsDigits fraction) :
    IsMagnitude (whole ++ '.' :: fraction) := by
  refine ⟨⟨false, whole, some fraction, none⟩, ⟨hwhole, hstart, fun ds hds => ?_, nofun⟩, rfl, ?_⟩
  · cases hds
    exact hfraction
  · simp [Literal.chars, Literal.fractionChars, Literal.exponentChars]

/-- Digits around a point are a number, if just the digits of zero start with a zero. -/
theorem isMagnitude_positionalChars (h : IsDigits digits) {e : Int}
    (hstart : digits.head? = some '0' → digits = ['0'] ∧ e = 0) :
    IsMagnitude (positionalChars ['.', '0'] digits e) := by
  have hzero : IsDigits ['0'] := ⟨nofun, List.forall_mem_singleton.mpr rfl⟩
  unfold positionalChars
  split
  · rw [List.append_assoc]
    change IsMagnitude (['0'] ++ '.' :: (List.replicate _ '0' ++ digits))
    refine isMagnitude_point hzero (fun _ => rfl) ⟨by simp [h.1], fun c hc => ?_⟩
    exact (List.mem_append.mp hc).elim (isDigit_zeros _ c) (h.2 c)
  split
  · refine isMagnitude_point ⟨by simp [h.1], fun c hc => ?_⟩ (fun hhead => ?_) hzero
    · exact (List.mem_append.mp hc).elim (h.2 c) (isDigit_zeros _ c)
    · rw [List.head?_append_of_ne_nil _ h.1] at hhead
      obtain ⟨hdigits, rfl⟩ := hstart hhead
      simp [hdigits]
  · next hshort =>
    rw [List.append_assoc]
    refine isMagnitude_point ⟨by simp [h.1], fun c hc => h.2 c (List.mem_of_mem_take hc)⟩
      (fun hhead => ?_) ⟨fun hnil => ?_, fun c hc => h.2 c (List.mem_of_mem_drop hc)⟩
    · rw [List.head?_take, if_neg (by omega)] at hhead
      simp [(hstart hhead).1] at hshort
    · have := List.drop_eq_nil_iff.mp hnil
      omega

/-- One digit before the point, and an exponent with its sign, are a number. -/
theorem isMagnitude_exponentChars (h : IsDigits digits) (e : Int) :
    IsMagnitude (exponentChars ['+'] digits e) := by
  obtain ⟨d, more, rfl, hd⟩ := h.exists_cons
  have hmore : ∀ ds ∈ (if more = [] then none else some more), IsDigits ds := by
    intro ds hds
    split at hds
    · cases hds
    · next hne =>
      cases hds
      exact ⟨hne, fun c hc => h.2 c (List.mem_cons_of_mem _ hc)⟩
  refine ⟨⟨false, [d], if more = [] then none else some more,
    some (some (decide (e < 0)), Nat.toDigits 10 e.natAbs)⟩,
    ⟨⟨nofun, by simp [hd]⟩, by simp, hmore, fun e he => ?_⟩, rfl, ?_⟩
  · cases he
    exact isDigits_toDigits _
  · cases e with
    | ofNat n =>
      have hneg : ¬ ((n : Int) < 0) := by omega
      cases more <;>
        simp [Literal.chars, Literal.fractionChars, Literal.exponentChars, Literal.signChars,
          exponentChars, intChars, hneg]
    | negSucc n =>
      cases more <;>
        simp [Literal.chars, Literal.fractionChars, Literal.exponentChars, Literal.signChars,
          exponentChars, intChars]

theorem isMagnitude_stored (h : IsTidy d) : IsMagnitude (d.chars .stored) := by
  have hdigits := isDigits_toDigits d.significand
  simp only [Scientific.chars, Style.stored]
  split
  · refine isMagnitude_positionalChars hdigits fun hzero => ?_
    rw [h (eq_zero_of_head_toDigits hzero)]
    exact ⟨Nat.toDigits_zero 10, by simp⟩
  · exact isMagnitude_exponentChars hdigits _

/-- **A finite float is written by the rules for numbers.** -/
theorem exists_literal_floatChars {f : Float} (h : f.isFinite = true) :
    ∃ l : Literal, l.IsValid ∧ l.chars = floatChars .stored f := by
  have hfinite := exponent_ne_of_isFinite h
  unfold floatChars
  generalize fields f.toBits = parts at hfinite
  obtain ⟨negative, exponent, fraction⟩ := parts
  simp only [if_neg hfinite]
  split
  · exact (isMagnitude_stored fun _ => rfl).signed negative
  · next hzero =>
    have hlow : 0 < (Binary.ofFields exponent fraction).low :=
      low_ofFields_pos (by simpa using hzero)
    exact (isMagnitude_stored (isTidy_shortest hlow)).signed negative

end

end ValidatorGen.Json
