/-
Which decimals are too great for a float: **the nearest float of a decimal is finite just if the
decimal is less than `2^1024 - 2^970`** (`isFinite_nearestFloat`). A product and a quotient of
mantissas are exact up to the half units that rounding looks at (`halves_quotient`), so what holds
of rounding holds of them.
-/
import ValidatorGen.Decimal.Reading
import ValidatorGen.Proofs.Decimal.Rounding

namespace ValidatorGen.Decimal

open Float.Model UnpackedFloat

/-- Half a unit above the greatest float. -/
def overflowBound : ℚ := 2 ^ 1024 - 2 ^ 970

theorem overflowBound_eq : overflowBound = (2 ^ 54 - 1) * 2 ^ 970 := by
  rw [overflowBound, sub_mul, one_mul, ← pow_add]

variable {m n k d : Nat} {e e' : Int}

/-! ## Products and quotients -/

/-- The half units of a quotient are those of its division. -/
theorem halves_quotient (hn : 0 < n) :
    halves (.ofMantissaAndAccuracy (m / n) (accuracyOfFraction (m % n) n)) = 2 * m / n := by
  have hlt := Nat.mod_lt m hn
  have hdiv : 2 * m / n = 2 * (m / n) + 2 * (m % n) / n := by
    conv_lhs => rw [← Nat.div_add_mod m n, Nat.mul_add, ← Nat.mul_assoc, Nat.mul_comm 2 n,
      Nat.mul_assoc, Nat.add_comm, Nat.add_mul_div_left _ _ hn]
    exact Nat.add_comm _ _
  rw [hdiv, accuracyOfFraction]
  split
  · next hzero => simp [hzero, ExtendedMantissa.ofMantissaAndAccuracy, halves]
  · rcases lt_trichotomy (2 * (m % n)) n with hless | hsame | hmore
    · rw [compare_lt_iff_lt.mpr hless, Nat.div_eq_of_lt hless]
      rfl
    · rw [compare_eq_iff_eq.mpr hsame, hsame, Nat.div_self hn]
      rfl
    · have hone : 2 * (m % n) / n = 1 := Nat.div_eq_of_lt_le (by omega) (by omega)
      rw [compare_gt_iff_gt.mpr hmore, hone]
      rfl

/-- Division makes the mantissa longer first. -/
theorem divCore_eq (m n : Nat) (e e' : Int) : ∃ k : Nat, divCore .binary64 m e n e'
    = (m * 2 ^ k / n, e - e' - k, accuracyOfFraction (m * 2 ^ k % n) n) := by
  generalize htarget : min (e - e') (Format.binary64.targetExponent
    (totalExponent m e - totalExponent n e')) = target
  have hle : target ≤ e - e' := htarget ▸ min_le_left _ _
  have hk : e - e' - ((e - e' - target).toNat : Int) = target := by omega
  refine ⟨(e - e' - target).toNat, ?_⟩
  simp only [divCore, htarget, Nat.shiftLeft_eq, hk]

theorem isFinite_div {hm : 0 < m} {hn : 0 < n} (he : e - e' ≤ 971) (s s' : Sign) :
    (Float.Model.pack
        (UnpackedFloat.div .binary64 (.finite s m e hm) (.finite s' n e' hn))).isFinite = true ↔
      2 * m < (2 ^ 54 - 1) * 2 ^ (971 - (e - e')).toNat * n := by
  obtain ⟨k, hk⟩ := divCore_eq m n e e'
  have hpow : 2 ^ (971 - (e - e' - k)).toNat = 2 ^ (971 - (e - e')).toNat * 2 ^ k := by
    rw [← Nat.pow_add]
    congr 1
    omega
  rw [UnpackedFloat.div, hk]
  show (Float.Model.pack (roundWithAccuracy .binary64 _ _ _ _)).isFinite = true ↔ _
  rw [isFinite_round (by omega), halves_quotient hn, Nat.div_lt_iff_lt_mul hn, hpow,
    ← Nat.mul_assoc, ← Nat.mul_assoc, Nat.mul_right_comm _ (2 ^ k) n]
  exact Nat.mul_lt_mul_right (Nat.two_pow_pos k)

theorem isFinite_mul {hm : 0 < m} {hn : 0 < n} (he : e + e' ≤ 971) (s s' : Sign) :
    (Float.Model.pack
        (UnpackedFloat.mul .binary64 (.finite s m e hm) (.finite s' n e' hn))).isFinite = true ↔
      2 * (m * n) < (2 ^ 54 - 1) * 2 ^ (971 - (e + e')).toNat := by
  rw [UnpackedFloat.mul, isFinite_round he]
  simp [halves, ExtendedMantissa.ofMantissaAndAccuracy]

/-! ## Decimals -/

/-- A quotient of natural numbers is compared with a bound of this kind in half units. -/
theorem div_lt_iff_halves (hd : 0 < d) (k : Nat) :
    (m : ℚ) / d < (2 ^ 54 - 1) * 2 ^ k ↔ 2 * m < (2 ^ 54 - 1) * 2 ^ (k + 1) * d := by
  have hpos : (0 : ℚ) < d := by exact_mod_cast hd
  have htwo : (0 : ℚ) < 2 := two_pos
  have hdouble : (2 : ℚ) * ((2 ^ 54 - 1) * 2 ^ k * d) = ((2 ^ 54 - 1) * 2 ^ (k + 1) * d : Nat) := by
    push_cast
    ring
  rw [div_lt_iff₀ hpos, ← mul_lt_mul_iff_right₀ htwo, hdouble]
  exact_mod_cast Iff.rfl

theorem overflowBound_lt : overflowBound < 10 ^ 400 := by
  have hpow : (2 : ℚ) ^ 1024 ≤ 10 ^ 400 :=
    calc (2 : ℚ) ^ 1024 ≤ 2 ^ (3 * 400) := pow_le_pow_right₀ one_le_two (by norm_num)
      _ = 8 ^ 400 := by rw [pow_mul]; norm_num
      _ ≤ 10 ^ 400 := pow_le_pow_left₀ (by norm_num) (by norm_num) 400
  have hpos : (0 : ℚ) < 2 ^ 970 := by positivity
  exact (sub_lt_self _ hpos).trans_le hpow

theorem lt_overflowBound : 2 ^ 53 * 10 ^ 22 < overflowBound := by
  have hpow : (10 : ℚ) ^ 22 ≤ 2 ^ 970 :=
    calc (10 : ℚ) ^ 22 ≤ (2 ^ 4) ^ 22 := pow_le_pow_left₀ (by norm_num) (by norm_num) 22
      _ = 2 ^ (4 * 22) := (pow_mul _ _ _).symm
      _ ≤ 2 ^ 970 := pow_le_pow_right₀ one_le_two (by norm_num)
  have hpos : (0 : ℚ) < 2 ^ 970 := by positivity
  rw [overflowBound_eq]
  exact mul_lt_mul (by norm_num) hpow (by positivity) (by norm_num)

theorem one_lt_overflowBound : 1 < overflowBound := lt_trans (by norm_num) lt_overflowBound

/-- A decimal with too many digits before the point is not below the bound. -/
theorem overflowBound_le_of_digits (hm : 10 ^ k ≤ m) (he : 400 ≤ (k : Int) + e) :
    overflowBound ≤ (m : ℚ) * 10 ^ e := by
  have hcast : (10 : ℚ) ^ k ≤ m := by exact_mod_cast hm
  calc overflowBound ≤ 10 ^ (400 : Int) := overflowBound_lt.le
    _ ≤ 10 ^ ((k : Int) + e) := zpow_le_zpow_right₀ (by norm_num) he
    _ = 10 ^ k * 10 ^ e := by rw [zpow_add₀ (by norm_num : (10 : ℚ) ≠ 0), zpow_natCast]
    _ ≤ m * 10 ^ e := by gcongr

/-- A decimal with no digits before the point is below the bound. -/
theorem lt_overflowBound_of_digits (hm : m ≤ 10 ^ k) (he : (k : Int) + e ≤ 0) :
    (m : ℚ) * 10 ^ e < overflowBound := by
  have hcast : (m : ℚ) ≤ 10 ^ k := by exact_mod_cast hm
  calc (m : ℚ) * 10 ^ e ≤ 10 ^ k * 10 ^ e := by gcongr
    _ = 10 ^ ((k : Int) + e) := by rw [zpow_add₀ (by norm_num : (10 : ℚ) ≠ 0), zpow_natCast]
    _ ≤ 1 := zpow_le_one_of_nonpos₀ (by norm_num) he
    _ < overflowBound := one_lt_overflowBound

/-- The model's nearest float of a decimal is finite just if the decimal is less than the bound. -/
theorem isFinite_ofScientific (m : Nat) (e : Int) :
    (Float.Model.ofScientific m e).isFinite = true ↔ (m : ℚ) * 10 ^ e < overflowBound := by
  have hbits : (2 : Int) ^ Format.binary64.exponentBits = 2048 := by decide
  rw [Float.Model.ofScientific, UnpackedFloat.ofScientific]
  simp only [hbits]
  by_cases hzero : m = 0
  · rw [dif_pos hzero, hzero]
    refine iff_of_true isFinite_pack_zero ?_
    rw [Nat.cast_zero, zero_mul]
    exact one_pos.trans one_lt_overflowBound
  rw [dif_neg hzero]
  split
  · next hgreat =>
    have hone : 10 ^ 0 ≤ m := Nat.pos_of_ne_zero hzero
    exact iff_of_false (by decide) (not_lt.mpr (overflowBound_le_of_digits hone (by omega)))
  split
  · next hsmall =>
    have hlog : m ≤ 10 ^ (m.log2 + 1) :=
      Nat.lt_log2_self.le.trans (Nat.pow_le_pow_left (by decide) _)
    exact iff_of_true isFinite_pack_zero (lt_overflowBound_of_digits hlog (by omega))
  rw [overflowBound_eq]
  -- kept apart from its value, lest the powers are evaluated
  obtain ⟨j, hj⟩ : ∃ j : Nat, j = 970 := ⟨_, rfl⟩
  rw [← hj]
  split
  · next hnonneg =>
    obtain ⟨k, rfl⟩ := Int.eq_ofNat_of_zero_le hnonneg
    have hbound := div_lt_iff_halves (m := m * 10 ^ k) one_pos j
    have hexp : (971 - (-(Format.binary64.mantissaBits : Int) + 0)).toNat = j + 1 + 53 := by
      rw [hj]
      decide
    have hshift : 2 * (m <<< Format.binary64.mantissaBits * 10 ^ k)
        = 2 * (m * 10 ^ k) * 2 ^ 53 := by
      rw [Nat.shiftLeft_eq, show Format.binary64.mantissaBits = 53 from rfl]
      ring
    have hpow : (2 ^ 54 - 1) * 2 ^ (j + 1 + 53) = (2 ^ 54 - 1) * 2 ^ (j + 1) * 2 ^ 53 := by
      rw [Nat.pow_add 2 (j + 1), ← Nat.mul_assoc]
    rw [Nat.cast_one, div_one, Nat.mul_one] at hbound
    rw [isFinite_mul (by decide), Int.toNat_natCast, hexp, hshift, hpow,
      Nat.mul_lt_mul_right (Nat.two_pow_pos 53), ← hbound, zpow_natCast]
    push_cast
    rfl
  · next hneg =>
    obtain ⟨k, rfl⟩ : ∃ k : Nat, e = -k := ⟨(-e).toNat, by omega⟩
    have hbound := div_lt_iff_halves (m := m) (Nat.pow_pos (n := k) (by decide : 0 < 10)) j
    have hexp : (971 - ((0 : Int) - 0)).toNat = j + 1 := by
      rw [hj]
      decide
    rw [isFinite_div (by decide), hexp, neg_neg, Int.toNat_natCast, ← hbound, zpow_neg,
      zpow_natCast, ← div_eq_mul_inv]
    push_cast
    rfl

/-! ## The short way -/

/-- A mantissa and an exponent that are exact, and far from overflow. -/
def isShort : UnpackedFloat → Bool
  | .finite _ m e _ => decide (m < 2 ^ 53) && decide (-52 ≤ e) && decide (e ≤ 52)
  | _ => false

/-- Zero, or a short one. -/
def IsSmall (u : UnpackedFloat) : Prop := (∃ s, u = .zero s) ∨ isShort u = true

theorem isSmall_ofNat (h : m < 2 ^ 53) : IsSmall (Float.Model.ofNat m).unpack := by
  rcases Nat.eq_zero_or_pos m with rfl | hpos
  · exact .inl ⟨.positive, rfl⟩
  · have hlt : m * 2 ^ room m < 2 ^ 53 := by
      have := @Nat.lt_log2_self (m * 2 ^ room m)
      rwa [log2_mul_room hpos h] at this
    have hroom : room m ≤ 52 := Nat.sub_le _ _
    refine .inr ?_
    rw [unpack_ofNat hpos h, isShort, decide_eq_true hlt, decide_eq_true (by omega),
      decide_eq_true (by omega)]
    rfl

/-- The powers of ten that are looked up are short. -/
theorem isShort_power : ∀ i : Fin Float.exactlyRepresentablePowersOfTen.size,
    isShort Float.exactlyRepresentablePowersOfTen[i].toModel.unpack = true := by
  decide

variable {u v : UnpackedFloat}

theorem exists_of_isShort (h : isShort u = true) :
    ∃ s m e hm, u = .finite s m e hm ∧ m < 2 ^ 53 ∧ -52 ≤ e ∧ e ≤ 52 := by
  cases u with
  | infinity s | notANumber | zero s => cases h
  | finite s m e hm =>
    simp only [isShort, Bool.and_eq_true, decide_eq_true_eq] at h
    exact ⟨s, m, e, hm, rfl, h.1.1, h.1.2, h.2⟩

theorem isFinite_mul_short (hu : IsSmall u) (hv : isShort v = true) :
    (Float.Model.pack (UnpackedFloat.mul .binary64 u v)).isFinite = true := by
  obtain ⟨s', n, e', hn, rfl, hn', -, hhigh'⟩ := exists_of_isShort hv
  rcases hu with ⟨s, rfl⟩ | hu
  · exact isFinite_pack_zero
  obtain ⟨s, m, e, hm, rfl, hm', -, hhigh⟩ := exists_of_isShort hu
  rw [isFinite_mul (by omega)]
  have hexp : 2 ^ 54 ≤ 2 ^ (971 - (e + e')).toNat := Nat.pow_le_pow_right Nat.two_pos (by omega)
  calc 2 * (m * n) ≤ 2 * (2 ^ 53 * 2 ^ 53) :=
        Nat.mul_le_mul_left 2 (Nat.mul_le_mul hm'.le hn'.le)
    _ < (2 ^ 54 - 1) * 2 ^ 54 := by norm_num
    _ ≤ (2 ^ 54 - 1) * 2 ^ (971 - (e + e')).toNat := Nat.mul_le_mul_left _ hexp

theorem isFinite_div_short (hu : IsSmall u) (hv : isShort v = true) :
    (Float.Model.pack (UnpackedFloat.div .binary64 u v)).isFinite = true := by
  obtain ⟨s', n, e', hn, rfl, -, hlow', -⟩ := exists_of_isShort hv
  rcases hu with ⟨s, rfl⟩ | hu
  · exact isFinite_pack_zero
  obtain ⟨s, m, e, hm, rfl, hm', -, hhigh⟩ := exists_of_isShort hu
  rw [isFinite_div (by omega)]
  have hone : 0 < 2 ^ (971 - (e - e')).toNat := Nat.two_pow_pos _
  calc 2 * m < 2 ^ 54 - 1 := by omega
    _ ≤ (2 ^ 54 - 1) * 2 ^ (971 - (e - e')).toNat := Nat.le_mul_of_pos_right _ hone
    _ ≤ (2 ^ 54 - 1) * 2 ^ (971 - (e - e')).toNat * n := Nat.le_mul_of_pos_right _ hn

/-- A short decimal is less than the bound. -/
theorem short_lt_overflowBound (hm : m < 2 ^ 53) (he : e.natAbs ≤ 22) :
    (m : ℚ) * 10 ^ e < overflowBound := by
  have hcast : (m : ℚ) ≤ 2 ^ 53 := by exact_mod_cast hm.le
  calc (m : ℚ) * 10 ^ e ≤ 2 ^ 53 * 10 ^ (22 : Int) := by
        gcongr
        · norm_num
        · omega
    _ < overflowBound := lt_overflowBound

theorem isFinite_floatOfScientific (m : Nat) (e : Int) :
    (Float.ofScientific m (e < 0) e.natAbs).isFinite = true ↔ (m : ℚ) * 10 ^ e < overflowBound := by
  rw [Float.ofScientific]
  split
  · next hshort =>
    refine iff_of_true ?_ (short_lt_overflowBound hshort.1 hshort.2)
    have hmod : m.toUInt64.toNat = m := by
      rw [Nat.toUInt64_eq, UInt64.toNat_ofNat', Nat.mod_eq_of_lt (by omega)]
    have hnumber : IsSmall m.toUInt64.toFloat.toModel.unpack := by
      show IsSmall (Float.Model.ofNat m.toUInt64.toNat).unpack
      rw [hmod]
      exact isSmall_ofNat hshort.1
    have hpower := isShort_power ⟨e.natAbs, Nat.lt_succ_of_le hshort.2⟩
    split
    · exact isFinite_div_short hnumber hpower
    · exact isFinite_mul_short hnumber hpower
  · have hsign : (if decide (e < 0) = true then Int.negOfNat e.natAbs
        else Int.ofNat e.natAbs) = e := by
      have hneg : Int.negOfNat e.natAbs = -(e.natAbs : Int) := Int.negOfNat_eq
      simp only [decide_eq_true_iff, hneg, Int.ofNat_eq_natCast]
      split <;> omega
    rw [hsign]
    exact isFinite_ofScientific m e

/-! ## All decimals -/

theorem lt_ten_pow (m : Nat) : m < 10 ^ (Nat.toDigits 10 m).length :=
  (Nat.length_toDigits_le_iff (by decide) Nat.length_toDigits_pos).mp le_rfl

theorem ten_pow_le (hm : m ≠ 0) : 10 ^ ((Nat.toDigits 10 m).length - 1) ≤ m := by
  have hpos : 0 < (Nat.toDigits 10 m).length := Nat.length_toDigits_pos
  by_cases hone : (Nat.toDigits 10 m).length - 1 = 0
  · rw [hone]
    omega
  · have hlonger := mt (Nat.length_toDigits_le_iff (n := m) (by decide : 1 < 10)
      (Nat.pos_of_ne_zero hone)).mpr (by omega)
    omega

/-- **The nearest float of a decimal is finite just if the decimal is less than the bound.** -/
theorem isFinite_nearestFloat (m : Nat) (e : Int) :
    (nearestFloat m e).isFinite = true ↔ (m : ℚ) * 10 ^ e < overflowBound := by
  have hpos : 0 < (Nat.toDigits 10 m).length := Nat.length_toDigits_pos
  rw [nearestFloat]
  split
  · next hsmall =>
    refine iff_of_true (by decide) ?_
    rw [Bool.or_eq_true, decide_eq_true_iff, decide_eq_true_iff] at hsmall
    rcases hsmall with rfl | hsmall
    · rw [Nat.cast_zero, zero_mul]
      exact one_pos.trans one_lt_overflowBound
    · exact lt_overflowBound_of_digits (lt_ten_pow m).le (by omega)
  · next hlow =>
    rw [Bool.or_eq_true, decide_eq_true_iff, not_or] at hlow
    split
    · next hgreat =>
      refine iff_of_false (by decide) (not_lt.mpr ?_)
      exact overflowBound_le_of_digits (ten_pow_le hlow.1) (by omega)
    · exact isFinite_floatOfScientific m e

end ValidatorGen.Decimal
