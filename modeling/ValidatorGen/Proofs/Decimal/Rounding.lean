/-
Rounding to 64 bits, as far as bounds need it: which results are finite and which whole numbers are
exact. A mantissa that is cut off keeps the bit behind it, and shifting it on is division of both
together (`halves_shiftRight`). **Rounding overflows just from half a unit above the greatest float
on** (`isFinite_round`), and **whole numbers of up to 53 bits stay as they are** (`ofNat_eq`).
-/
import Mathlib

namespace ValidatorGen.Decimal

open Float.Model UnpackedFloat

/-! ## Packing -/

section

variable {s : Sign} {m : Nat} {e : Int} {hm : 0 < m}

theorem isFinite_unpack {b : BitVec 64} :
    (UnpackedFloat.unpack .binary64 b).isFinite = true ↔
      @unpackExponent .binary64 b ≠ -1#11 := by
  rw [UnpackedFloat.unpack.eq_1]
  by_cases hones : @unpackExponent .binary64 b = -1#11
  · rw [if_pos hones]
    refine iff_of_false ?_ (not_not_intro hones)
    split <;> exact Bool.false_ne_true
  · rw [if_neg hones]
    refine iff_of_true ?_ hones
    split
    · split <;> rfl
    · rfl

/-- A mantissa is packed as infinity just if its exponent is too great. -/
theorem isFinite_pack : (Float.Model.pack (.finite s m e hm)).isFinite = true ↔ e ≤ 971 := by
  show (UnpackedFloat.unpack .binary64 (UnpackedFloat.pack .binary64 (.finite s m e hm))).isFinite
    = true ↔ _
  rw [isFinite_unpack, UnpackedFloat.pack.eq_4]
  have hbias : (Format.binary64.exponentBias : Int) = 1023 := by decide
  have hpow : 2 ^ Format.binary64.exponentBits = 2048 := by decide
  simp only [hbias, hpow]
  split
  · next hbig =>
    simp only [packedInfinity, unpackExponent_packComponents]
    simp
    omega
  split
  · next hsmall _ =>
    simp only [unpackExponent_packComponents]
    rw [ne_eq, ← BitVec.toNat_inj]
    simp
    omega
  · simp only [unpackExponent_packComponents]
    simp
    omega

theorem isFinite_pack_zero : (Float.Model.pack (.zero s)).isFinite = true := by
  cases s <;> rfl

/-- A mantissa of just 53 bits is packed and unpacked as it is. -/
theorem unpack_pack_normal (hlog : m.log2 = 52) (hlow : -1074 ≤ e) (hhigh : e ≤ 971) :
    (Float.Model.pack (.finite s m e hm)).unpack = .finite s m e hm := by
  show UnpackedFloat.unpack .binary64 (UnpackedFloat.pack .binary64 (.finite s m e hm)) = _
  have hbias : (Format.binary64.exponentBias : Int) = 1023 := by decide
  have hpow : 2 ^ Format.binary64.exponentBits = 2048 := by decide
  have hbits : Format.binary64.mantissaBits = 53 := by decide
  obtain ⟨hge, hlt⟩ := (Nat.log2_eq_iff (Nat.pos_iff_ne_zero.mp hm)).mp hlog
  have hexp : (BitVec.ofNat 11 (e + 1023 + 52).toNat).toNat = (e + 1023 + 52).toNat := by
    rw [BitVec.toNat_ofNat, Nat.mod_eq_of_lt (by omega)]
  have hne : ∀ x : BitVec 11, x.toNat ≠ (e + 1023 + 52).toNat →
      BitVec.ofNat 11 (e + 1023 + 52).toNat ≠ x := fun x hx heq => hx (heq ▸ hexp)
  have hmantissa : (1#1 ++ BitVec.ofNat 52 m).toNat = m := by
    rw [BitVec.toNat_append, BitVec.toNat_ofNat, ← Nat.shiftLeft_add_eq_or_of_lt (by omega)]
    simp [Nat.shiftLeft_eq]
    omega
  rw [UnpackedFloat.pack.eq_4]
  simp only [hbias, hpow, hlog, hbits]
  rw [if_neg (by omega), if_pos trivial, UnpackedFloat.unpack.eq_1]
  simp only [unpackExponent_packComponents, unpackMantissa_packComponents,
    unpackSign_packComponents, Sign.ofBitVec_toBitVec, Nat.cast_ofNat, hbias]
  rw [if_neg (hne _ (by simp; omega)), if_neg (hne _ (by simp; omega))]
  simp only [hmantissa, hexp]
  congr 1
  omega

end

/-! ## Shifting -/

/-- The units of a mantissa, and the bit behind them, as half units. -/
def halves (em : ExtendedMantissa) : Nat := 2 * em.mantissa + em.roundBit.toNat

theorem halves_shiftRightOne (em : ExtendedMantissa) :
    halves em.shiftRightOne = halves em / 2 := by
  have hbit : (em.mantissa % 2 != 0).toNat = em.mantissa % 2 := by
    rcases Nat.mod_two_eq_zero_or_one em.mantissa with h | h <;> simp [h]
  have hround := em.roundBit.toNat_le
  simp only [halves, ExtendedMantissa.shiftRightOne, hbit]
  omega

/-- **Shifting is division, the bit behind included.** -/
theorem halves_shiftRight (em : ExtendedMantissa) (k : Nat) :
    halves (em >>> k) = halves em / 2 ^ k := by
  induction k with
  | zero => simp [HShiftRight.hShiftRight, Nat.repeat]
  | succ k ih =>
    show halves (em >>> k).shiftRightOne = _
    rw [halves_shiftRightOne, ih, Nat.div_div_eq_div_mul, Nat.pow_succ]

theorem roundedMantissa_cases (em : ExtendedMantissa) :
    em.roundedMantissa = halves em / 2 ∨
      em.roundedMantissa = halves em / 2 + 1 ∧ halves em % 2 = 1 := by
  obtain ⟨m, _ | _, _ | _⟩ := em <;>
    simp [ExtendedMantissa.roundedMantissa, ExtendedMantissa.accuracy, Accuracy.roundToNearestEven,
      halves] <;> omega

/-- An odd mantissa goes up from the half on. -/
theorem roundedMantissa_of_odd {em : ExtendedMantissa} (h : halves em % 4 = 3) :
    em.roundedMantissa = halves em / 2 + 1 := by
  obtain ⟨m, _ | _, _ | _⟩ := em <;>
    simp [ExtendedMantissa.roundedMantissa, ExtendedMantissa.accuracy, Accuracy.roundToNearestEven,
      halves] at h ⊢ <;> omega

theorem targetExponent_eq (m : Nat) (e : Int) :
    Format.binary64.targetExponent (totalExponent m e) = max (m.log2 + e - 52) (-1074) := by
  have hbits : Format.binary64.mantissaBits = 53 := by decide
  have hmin : Format.binary64.minExponent = -1074 := by decide
  simp only [Format.targetExponent, totalExponent, hbits, hmin]
  omega

theorem mantissa_eq (em : ExtendedMantissa) : em.mantissa = halves em / 2 := by
  have hround := em.roundBit.toNat_le
  simp only [halves]
  omega

theorem shiftRight_zero (em : ExtendedMantissa) : em >>> 0 = em := rfl

/-! ## Rounding -/

/-- How many bits of a mantissa are cut off. -/
def cut (m : Nat) (e : Int) : Nat := (max (m.log2 + e - 52) (-1074) - e).toNat

theorem shiftToTargetExponent_eq (m : Nat) (e : Int) (acc : Accuracy) :
    shiftToTargetExponent .binary64 m e acc
      = ((ExtendedMantissa.ofMantissaAndAccuracy m acc) >>> cut m e, e + cut m e) := by
  rw [shiftToTargetExponent, shiftToExponent, targetExponent_eq, cut]

variable {m : Nat} {e : Int} {acc : Accuracy}

theorem halves_ofMantissaAndAccuracy (m : Nat) (acc : Accuracy) :
    2 * m ≤ halves (.ofMantissaAndAccuracy m acc) ∧
      halves (.ofMantissaAndAccuracy m acc) ≤ 2 * m + 1 := by
  rcases acc with _ | _ | _ | _ <;> simp [ExtendedMantissa.ofMantissaAndAccuracy, halves]

theorem lt_two_pow_cut (m : Nat) (e : Int) : m < 2 ^ (53 + cut m e) := by
  refine Nat.lt_log2_self.trans_le (Nat.pow_le_pow_right Nat.two_pos ?_)
  simp only [cut]
  omega

theorem log2_le (h : m < 2 ^ 53) : m.log2 ≤ 52 := by
  rcases Nat.eq_zero_or_pos m with rfl | hpos
  · simp
  · have := (Nat.log2_lt (Nat.pos_iff_ne_zero.mp hpos)).mpr h
    omega

theorem shiftToTargetExponent_exact (hm : m < 2 ^ 53) (he : -1074 ≤ e) :
    shiftToTargetExponent .binary64 m e .exact = (⟨m, false, false⟩, e) := by
  have hcut : cut m e = 0 := by
    have hlog := log2_le hm
    simp only [cut]
    omega
  rw [shiftToTargetExponent_eq, hcut, shiftRight_zero]
  simp [ExtendedMantissa.ofMantissaAndAccuracy]

/-- A mantissa that got one bit too long becomes the shortest one of the next exponent. -/
theorem shiftToTargetExponent_carry (he : -1074 ≤ e) :
    shiftToTargetExponent .binary64 (2 ^ 53) e .exact = (⟨2 ^ 52, false, false⟩, e + 1) := by
  have hcut : cut (2 ^ 53) e = 1 := by
    simp only [cut, Nat.log2_two_pow]
    omega
  rw [shiftToTargetExponent_eq, hcut]
  rfl

/-- The mantissa that is left after bits were cut off, with the half of a unit behind it. -/
def cutHalves (m : Nat) (e : Int) (acc : Accuracy) : Nat :=
  halves (.ofMantissaAndAccuracy m acc) / 2 ^ cut m e

/-- What is left of a mantissa, rounded. -/
def rounded (m : Nat) (e : Int) (acc : Accuracy) : Nat :=
  ((ExtendedMantissa.ofMantissaAndAccuracy m acc) >>> cut m e).roundedMantissa

theorem cutHalves_lt (m : Nat) (e : Int) (acc : Accuracy) : cutHalves m e acc < 2 ^ 54 := by
  have hlt := lt_two_pow_cut m e
  have hhalves := halves_ofMantissaAndAccuracy m acc
  rw [cutHalves, Nat.div_lt_iff_lt_mul (Nat.two_pow_pos _), ← Nat.pow_add]
  have hpow : 2 ^ (54 + cut m e) = 2 * 2 ^ (53 + cut m e) := by ring
  omega

theorem rounded_cases (m : Nat) (e : Int) (acc : Accuracy) :
    rounded m e acc = cutHalves m e acc / 2 ∨
      rounded m e acc = cutHalves m e acc / 2 + 1 ∧ cutHalves m e acc % 2 = 1 := by
  rw [cutHalves, ← halves_shiftRight]
  exact roundedMantissa_cases _

theorem rounded_of_odd (h : cutHalves m e acc % 4 = 3) :
    rounded m e acc = cutHalves m e acc / 2 + 1 := by
  rw [cutHalves, ← halves_shiftRight] at h ⊢
  exact roundedMantissa_of_odd h

/-- **Rounding: the mantissa is cut to 53 bits, rounded, and carried on if that made it one bit
longer.** -/
theorem roundWithAccuracy_eq (s : Sign) (m : Nat) (e : Int) (acc : Accuracy) :
    roundWithAccuracy .binary64 s m e acc
      = if h : rounded m e acc = 0 then .zero s
        else if rounded m e acc < 2 ^ 53 then
          .finite s (rounded m e acc) (e + cut m e) (Nat.pos_of_ne_zero h)
        else .finite s (2 ^ 52) (e + cut m e + 1) (by decide) := by
  have he : -1074 ≤ e + cut m e := by
    simp only [cut]
    omega
  have hr : rounded m e acc ≤ 2 ^ 53 := by
    have hlt := cutHalves_lt m e acc
    have hcases := rounded_cases m e acc
    omega
  rw [roundWithAccuracy, shiftToTargetExponent_eq]
  change (let (em, e₁) := shiftToTargetExponent .binary64 (rounded m e acc) (e + cut m e) .exact
    if h : em.mantissa = 0 then UnpackedFloat.zero s
    else .finite s em.mantissa e₁ (Nat.pos_of_ne_zero h)) = _
  generalize rounded m e acc = r at hr ⊢
  rcases Nat.lt_or_eq_of_le hr with hr | rfl
  · rw [shiftToTargetExponent_exact hr he]
    simp only [if_pos hr]
  · rw [shiftToTargetExponent_carry he]
    rfl

/-- The result is finite unless the exponent, carry included, is too great. -/
theorem isFinite_roundWithAccuracy (s : Sign) (m : Nat) (e : Int) (acc : Accuracy) :
    (Float.Model.pack (roundWithAccuracy .binary64 s m e acc)).isFinite = true ↔
      rounded m e acc = 0 ∨
        if rounded m e acc < 2 ^ 53 then e + cut m e ≤ 971 else e + cut m e ≤ 970 := by
  rw [roundWithAccuracy_eq]
  generalize rounded m e acc = r
  by_cases hzero : r = 0
  · rw [dif_pos hzero]
    exact iff_of_true isFinite_pack_zero (.inl hzero)
  rw [dif_neg hzero, or_iff_right hzero]
  split
  · exact isFinite_pack
  · rw [isFinite_pack]
    omega

/-- **Rounding overflows just from half a unit above the greatest float on.** The greatest float
is odd, so what is half a unit above it goes up. -/
theorem isFinite_round (he : e ≤ 971) (s : Sign) :
    (Float.Model.pack (roundWithAccuracy .binary64 s m e acc)).isFinite = true ↔
      halves (.ofMantissaAndAccuracy m acc) < (2 ^ 54 - 1) * 2 ^ (971 - e).toNat := by
  rw [isFinite_roundWithAccuracy]
  have hlt := cutHalves_lt m e acc
  have hcases := rounded_cases m e acc
  have hpos := Nat.two_pow_pos (cut m e)
  rcases lt_trichotomy (e + cut m e) 971 with hlow | htop | hhigh
  · -- there is room for a carry
    refine iff_of_true (.inr (by split <;> omega)) ?_
    obtain ⟨d, hd⟩ : ∃ d, (971 - e).toNat = cut m e + 1 + d := Nat.exists_eq_add_of_le (by omega)
    have hone := Nat.one_le_two_pow (n := d)
    calc halves (.ofMantissaAndAccuracy m acc)
        < 2 ^ 54 * 2 ^ cut m e := (Nat.div_lt_iff_lt_mul hpos).mp hlt
      _ ≤ (2 ^ 54 - 1) * (2 * 2 ^ cut m e) := by omega
      _ ≤ (2 ^ 54 - 1) * (2 * 2 ^ cut m e * 2 ^ d) :=
        Nat.mul_le_mul_left _ (Nat.le_mul_of_pos_right _ hone)
      _ = (2 ^ 54 - 1) * 2 ^ (971 - e).toNat := by rw [hd]; ring
  · -- a carry overflows
    have hexp : (971 - e).toNat = cut m e := by omega
    have hodd := @rounded_of_odd m e acc
    rw [hexp, ← Nat.div_lt_iff_lt_mul hpos]
    change _ ↔ cutHalves m e acc < 2 ^ 54 - 1
    split <;> omega
  · -- so great an exponent comes with a mantissa that has all its bits
    have hlog : m.log2 = 52 + cut m e := by
      simp only [cut] at hhigh ⊢
      omega
    have hm : 2 ^ (52 + cut m e) ≤ m := hlog ▸ Nat.log2_self_le fun hzero => by
      rw [hzero, Nat.log2_zero] at hlog
      omega
    have hhalves := (halves_ofMantissaAndAccuracy m acc).1
    have hcut : 2 ^ 53 ≤ cutHalves m e acc := by
      rw [cutHalves, Nat.le_div_iff_mul_le hpos, ← Nat.pow_add]
      have hpow : 2 ^ (53 + cut m e) = 2 * 2 ^ (52 + cut m e) := by ring
      omega
    refine iff_of_false ?_ ?_
    · split <;> omega
    obtain ⟨d, hd⟩ : ∃ d, cut m e = (971 - e).toNat + 1 + d := Nat.exists_eq_add_of_le (by omega)
    have hone := Nat.one_le_two_pow (n := d)
    rw [not_lt]
    calc (2 ^ 54 - 1) * 2 ^ (971 - e).toNat
        ≤ 2 ^ 54 * 2 ^ (971 - e).toNat := Nat.mul_le_mul_right _ (by decide)
      _ ≤ 2 ^ 54 * 2 ^ (971 - e).toNat * 2 ^ d := Nat.le_mul_of_pos_right _ hone
      _ = 2 * 2 ^ (52 + cut m e) := by rw [hd]; ring
      _ ≤ halves (.ofMantissaAndAccuracy m acc) := by omega

/-! ## Whole numbers -/

variable {n : Nat}

/-- How many bits a number is short of 53. -/
def room (n : Nat) : Nat := 52 - n.log2

theorem log2_mul_room (hpos : 0 < n) (h : n < 2 ^ 53) : (n * 2 ^ room n).log2 = 52 := by
  have hlog := log2_le h
  have hne := Nat.pos_iff_ne_zero.mp hpos
  have hsum : n.log2 + room n = 52 := by
    simp only [room]
    omega
  rw [Nat.log2_eq_iff (Nat.pos_iff_ne_zero.mp (Nat.mul_pos hpos (Nat.two_pow_pos _)))]
  constructor
  · rw [← hsum, Nat.pow_add]
    exact Nat.mul_le_mul_right _ (Nat.log2_self_le hne)
  · rw [← hsum, Nat.add_right_comm, Nat.pow_add]
    exact Nat.mul_lt_mul_of_pos_right Nat.lt_log2_self (Nat.two_pow_pos _)

/-- Rounding leaves a mantissa of just 53 bits as it is. -/
theorem roundWithAccuracy_full (hpos : 0 < m) (hlog : m.log2 = 52) (he : -1074 ≤ e) (s : Sign) :
    roundWithAccuracy .binary64 s m e .exact = .finite s m e hpos := by
  have hcut : cut m e = 0 := by
    simp only [cut]
    omega
  have hrounded : rounded m e .exact = m := by
    rw [rounded, hcut]
    rfl
  have hlt : m < 2 ^ 53 := by
    have := @Nat.lt_log2_self m
    rwa [hlog] at this
  rw [roundWithAccuracy_eq]
  simp only [hrounded, hcut]
  rw [dif_neg (Nat.pos_iff_ne_zero.mp hpos), if_pos hlt]
  simp

/-- **A whole number of at most 53 bits is exact**, its mantissa filled up with zeros. -/
theorem ofNat_eq (hpos : 0 < n) (h : n < 2 ^ 53) :
    UnpackedFloat.ofNat .binary64 n
      = .finite .positive (n * 2 ^ room n) (-(room n : Int))
          (Nat.mul_pos hpos (Nat.two_pow_pos _)) := by
  have hlog := log2_le h
  have hdecrease : decreaseExponent n 0 (max (n.log2 + 0 - 52) (-1074))
      = (n * 2 ^ room n, -(room n : Int)) := by
    have hamount : (0 - max ((n.log2 : Int) + 0 - 52) (-1074)).toNat = room n := by
      simp only [room]
      omega
    rw [decreaseExponent, hamount, Nat.shiftLeft_eq, Int.zero_sub]
  have hcompare : compare (n : Int) 0 = .gt := by
    rw [compare_gt_iff_gt]
    exact_mod_cast hpos
  rw [UnpackedFloat.ofNat, UnpackedFloat.ofInt, UnpackedFloat.normalize, hcompare]
  simp only [Int.toNat_natCast]
  rw [UnpackedFloat.round, targetExponent_eq, hdecrease]
  exact roundWithAccuracy_full _ (log2_mul_room hpos h) (by simp only [room]; omega) _

theorem unpack_ofNat (hpos : 0 < n) (h : n < 2 ^ 53) :
    (Float.Model.ofNat n).unpack
      = .finite .positive (n * 2 ^ room n) (-(room n : Int))
          (Nat.mul_pos hpos (Nat.two_pow_pos _)) := by
  rw [Float.Model.ofNat, ofNat_eq hpos h]
  exact unpack_pack_normal (log2_mul_room hpos h) (by simp only [room]; omega) (by omega)

end ValidatorGen.Decimal
