/-
The numbers that floats stand for, and the floats that are whole numbers of 32 bits: **a float is
read as a length just if it stands for one** (`wholeUInt32?_eq_some_iff`), zero with a minus sign
included. There is one mantissa and one exponent for each number (`mantissa_unique`), so the float
of a whole number is the only one that stands for it, the sign of zero aside.
-/
import ValidatorGen.Decimal.Reading
import ValidatorGen.Proofs.Decimal.Rounding

namespace ValidatorGen.Decimal

open Float.Model UnpackedFloat

/-- The number that a float stands for, taken apart. -/
def unpackedValue? : UnpackedFloat → Option ℚ
  | .zero _ => some 0
  | .finite s m e _ => some (s.apply m * 2 ^ e)
  | .infinity _ | .notANumber => none

/-- The number that a float stands for, if it is one. -/
def value? (f : Float) : Option ℚ := unpackedValue? f.toModel.unpack

variable {f : Float} {m m' : Nat} {e e' : Int} {n : UInt32}

/-! ## Numbers and floats -/

/-- Floats that are equal stand for the same number. -/
theorem unpackedValue?_of_beq {a b : UnpackedFloat} (h : a.beq b = true) :
    unpackedValue? a = unpackedValue? b := by
  obtain ⟨-, -, rfl | ⟨rfl, rfl⟩ | ⟨rfl, rfl⟩⟩ := (beq_iff_ne_notANumber_and_eq a b).mp h <;> rfl

theorem unpack_toFloat (hpos : 0 < n.toNat) :
    n.toFloat.toModel.unpack
      = .finite .positive (n.toNat * 2 ^ room n.toNat) (-(room n.toNat : Int))
          (Nat.mul_pos hpos (Nat.two_pow_pos _)) :=
  unpack_ofNat hpos (Nat.lt_of_lt_of_le n.toNat_lt (by decide))

theorem value?_toFloat (n : UInt32) : value? n.toFloat = some (n.toNat : ℚ) := by
  rcases Nat.eq_zero_or_pos n.toNat with hzero | hpos
  · obtain rfl : n = 0 := UInt32.toNat_inj.mp hzero
    rfl
  rw [value?, unpack_toFloat hpos, unpackedValue?]
  have hcancel : (2 : ℚ) ^ room n.toNat * 2 ^ (-(room n.toNat : Int)) = 1 := by
    rw [zpow_neg, zpow_natCast, mul_inv_cancel₀ (by positivity)]
  simp only [Sign.apply]
  push_cast
  rw [mul_assoc, hcancel, mul_one]

/-- A mantissa has all its bits unless the exponent is the least one. -/
theorem mantissa_of_unpack {b : BitVec 64} {s : Sign} {hm : 0 < m}
    (h : UnpackedFloat.unpack .binary64 b = .finite s m e hm) :
    m < 2 ^ 53 ∧ (2 ^ 52 ≤ m ∨ e = -1074) := by
  rw [UnpackedFloat.unpack.eq_1] at h
  split at h
  · split at h <;> cases h
  split at h
  · split at h
    · cases h
    · next hexp _ =>
      injection h with _ hmantissa hexponent
      have hbias : (Format.binary64.exponentBias : Int) = 1023 := by decide
      have hlt : (@unpackMantissa .binary64 b).toNat < 2 ^ 52 := BitVec.isLt _
      rw [hexp, hbias] at hexponent
      exact ⟨by omega, .inr (by simpa using hexponent.symm)⟩
  · injection h with _ hmantissa hexponent
    have hlt : (@unpackMantissa .binary64 b).toNat < 2 ^ 52 := BitVec.isLt _
    rw [BitVec.toNat_append, ← Nat.shiftLeft_add_eq_or_of_lt hlt] at hmantissa
    simp [Nat.shiftLeft_eq] at hmantissa hlt
    omega

theorem exponent_le_of_eq (hm' : 2 ^ 52 ≤ m') (hlt : m < 2 ^ 53)
    (h : (m : ℚ) * 2 ^ e = m' * 2 ^ e') : e' ≤ e := by
  by_contra hlow
  obtain ⟨d, hd⟩ : ∃ d : Nat, e' = e + 1 + d := ⟨(e' - e - 1).toNat, by omega⟩
  have heq : (m : ℚ) = m' * 2 * 2 ^ d := by
    have hpos : (2 : ℚ) ^ e ≠ 0 := by positivity
    rw [hd, zpow_add₀ two_ne_zero, zpow_add₀ two_ne_zero, zpow_one, zpow_natCast] at h
    refine mul_right_cancel₀ hpos (h.trans ?_)
    ring
  have hnat : m = m' * 2 * 2 ^ d := by exact_mod_cast heq
  have hone := Nat.one_le_two_pow (n := d)
  have : m' * 2 ≤ m' * 2 * 2 ^ d := Nat.le_mul_of_pos_right _ hone
  omega

/-- **One number has one mantissa of 53 bits.** -/
theorem mantissa_unique (hm : 2 ^ 52 ≤ m) (hm' : 2 ^ 52 ≤ m') (hlt : m < 2 ^ 53)
    (hlt' : m' < 2 ^ 53) (h : (m : ℚ) * 2 ^ e = m' * 2 ^ e') : m = m' ∧ e = e' := by
  obtain rfl : e = e' :=
    le_antisymm (exponent_le_of_eq hm hlt' h.symm) (exponent_le_of_eq hm' hlt h)
  have hpos : (2 : ℚ) ^ e ≠ 0 := by positivity
  exact ⟨by exact_mod_cast mul_right_cancel₀ hpos h, rfl⟩

/-! ## Whole numbers -/

/-- A mantissa with no digits behind the point is left whole. -/
theorem roundToInt_of_nonneg (he : 0 ≤ e) (s : Sign) :
    roundToInt s m e = s.apply ((m * 2 ^ e.toNat : Nat) : Int) := by
  have hshift : (0 - (e - (e.toNat : Int))).toNat = 0 := by omega
  simp only [roundToInt, decreaseExponent, shiftToExponent, Int.sub_zero, hshift, shiftRight_zero,
    ExtendedMantissa.ofMantissaAndAccuracy, Nat.shiftLeft_eq]

theorem roundToInt_of_neg (he : e < 0) (s : Sign) :
    roundToInt s m e = s.apply ((m / 2 ^ (-e).toNat : Nat) : Int) := by
  have hkeep : e.toNat = 0 := by omega
  have hmantissa : ((ExtendedMantissa.ofMantissaAndAccuracy m .exact) >>> (-e).toNat).mantissa
      = m / 2 ^ (-e).toNat := by
    rw [mantissa_eq, halves_shiftRight, Nat.div_div_eq_div_mul, Nat.mul_comm,
      ← Nat.div_div_eq_div_mul]
    simp [halves, ExtendedMantissa.ofMantissaAndAccuracy]
  simp only [roundToInt, decreaseExponent, shiftToExponent, Int.sub_zero, hkeep, Nat.shiftLeft_zero,
    Int.zero_sub, Nat.cast_zero, hmantissa]

/-- A mantissa that stands for a whole number is cut down to that number. -/
theorem roundToInt_eq {k : Nat} (h : (m : ℚ) * 2 ^ e = k) : roundToInt .positive m e = k := by
  rcases lt_or_ge e 0 with he | he
  · rw [roundToInt_of_neg he]
    obtain ⟨d, rfl⟩ : ∃ d : Nat, e = -d := ⟨(-e).toNat, by omega⟩
    have hm : (m : ℚ) = k * 2 ^ d := by
      rw [← h, zpow_neg, zpow_natCast, mul_assoc, inv_mul_cancel₀ (by positivity), mul_one]
    have hm : m = k * 2 ^ d := by exact_mod_cast hm
    simp [hm, Sign.apply]
  · rw [roundToInt_of_nonneg he]
    obtain ⟨d, rfl⟩ := Int.eq_ofNat_of_zero_le he
    rw [zpow_natCast] at h
    simp only [Sign.apply, Int.toNat_natCast]
    exact_mod_cast h

/-- A float that stands for a natural number is a zero or has no minus sign. -/
theorem unpack_of_value? {k : Nat} (h : value? f = some (k : ℚ)) :
    (k = 0 ∧ ∃ s, f.toModel.unpack = .zero s) ∨
      (0 < k ∧ ∃ m e, ∃ hm : 0 < m,
        f.toModel.unpack = .finite .positive m e hm ∧ (m : ℚ) * 2 ^ e = k) := by
  rw [value?] at h
  cases hf : f.toModel.unpack with
  | notANumber | infinity s =>
    rw [hf] at h
    cases h
  | zero s =>
    rw [hf] at h
    exact .inl ⟨by exact_mod_cast (Option.some.inj h).symm, s, rfl⟩
  | finite s m e hm =>
    rw [hf] at h
    have hvalue : (s.apply m : ℚ) * 2 ^ e = k := Option.some.inj h
    have hpos : (0 : ℚ) < m * 2 ^ e := by positivity
    cases s with
    | positive =>
      have hvalue : (m : ℚ) * 2 ^ e = k := by simpa [Sign.apply] using hvalue
      exact .inr ⟨by exact_mod_cast hvalue ▸ hpos, m, e, hm, rfl, hvalue⟩
    | negative =>
      have hvalue : -((m : ℚ) * 2 ^ e) = k := by simpa [Sign.apply] using hvalue
      have hk : (0 : ℚ) ≤ k := Nat.cast_nonneg k
      linarith

/-- A number that is not less than one is not among those of the least exponent. -/
theorem mantissa_full {k : Nat} (hm : m < 2 ^ 53) (hfull : 2 ^ 52 ≤ m ∨ e = -1074) (hk : 0 < k)
    (h : (m : ℚ) * 2 ^ e = k) : 2 ^ 52 ≤ m := by
  refine hfull.resolve_right ?_
  rintro rfl
  have hone : (1 : ℚ) ≤ k := by exact_mod_cast hk
  have hlt : (m : ℚ) < 2 ^ 53 := by exact_mod_cast hm
  have hle : (m : ℚ) * 2 ^ (-1074 : Int) ≤ 2 ^ 53 * 2 ^ (-1074 : Int) := by gcongr
  have hless : (2 : ℚ) ^ 53 * 2 ^ (-1074 : Int) < 1 := by
    rw [← zpow_natCast, ← zpow_add₀ two_ne_zero]
    exact zpow_lt_one_of_neg₀ one_lt_two (by norm_num)
  linarith

/-- A float that stands for a whole number of 32 bits is cut down to that number. -/
theorem toUInt32_of_value? (h : value? f = some (n.toNat : ℚ)) : f.toUInt32 = n := by
  have hclamp : UInt32.ofNatClamp n.toNat = n := by
    rw [UInt32.ofNatClamp_eq_ofNat _ n.toNat_lt, UInt32.ofNat_toNat]
  have hint : f.toModel.unpack.toInt 0 (UInt32.size - 1) = n.toNat := by
    rcases unpack_of_value? h with ⟨hzero, s, hf⟩ | ⟨-, m, e, hm, hf, hvalue⟩
    · rw [hf, hzero]
      rfl
    · rw [hf]
      exact roundToInt_eq hvalue
  show UInt32.ofNatClamp (f.toModel.unpack.toInt 0 (UInt32.size - 1)).toNat = n
  rw [hint, Int.toNat_natCast, hclamp]

/-- A float that stands for a whole number of 32 bits is equal to the float of that number. -/
theorem toFloat_beq_of_value? (h : value? f = some (n.toNat : ℚ)) : (n.toFloat == f) = true := by
  show n.toFloat.toModel.unpack.beq f.toModel.unpack = true
  rw [beq_iff_ne_notANumber_and_eq]
  rcases unpack_of_value? h with ⟨hzero, s, hf⟩ | ⟨hpos, m, e, hm, hf, hvalue⟩
  · obtain rfl : n = 0 := UInt32.toNat_inj.mp hzero
    have hunpack : (0 : UInt32).toFloat.toModel.unpack = .zero .positive := rfl
    rw [hf, hunpack]
    cases s <;> simp
  · have hlt : n.toNat < 2 ^ 53 := Nat.lt_of_lt_of_le n.toNat_lt (by decide)
    have hfull := log2_mul_room hpos hlt
    rw [Nat.log2_eq_iff (Nat.pos_iff_ne_zero.mp (Nat.mul_pos hpos (Nat.two_pow_pos _)))] at hfull
    obtain ⟨hbits, hnormal⟩ := mantissa_of_unpack hf
    have hsame : ((n.toNat * 2 ^ room n.toNat : Nat) : ℚ) * 2 ^ (-(room n.toNat : Int))
        = n.toNat := by simp
    obtain ⟨rfl, rfl⟩ := mantissa_unique (mantissa_full hbits hnormal hpos hvalue) hfull.1 hbits
      hfull.2 (hvalue.trans hsame.symm)
    rw [hf, unpack_toFloat hpos]
    exact ⟨nofun, nofun, .inl rfl⟩

/-- **A float is read as a length just if it stands for that number.** -/
theorem wholeUInt32?_eq_some_iff : wholeUInt32? f = some n ↔ value? f = some (n.toNat : ℚ) := by
  rw [wholeUInt32?, Option.ite_none_right_eq_some, Option.some_inj]
  constructor
  · rintro ⟨hbeq, rfl⟩
    exact (unpackedValue?_of_beq hbeq).symm.trans (value?_toFloat _)
  · intro h
    have hn := toUInt32_of_value? h
    exact ⟨hn ▸ toFloat_beq_of_value? h, hn⟩

end ValidatorGen.Decimal
