/-
The words that are read as floats. A word is a sign, if it has one, before a name for what is not
finite or before a figure: digits, perhaps with a point among them, and perhaps an exponent
(`Figure`). **Figures are just what is read as numbers** (`readUnsignedFloat?_eq_some_iff`), and **a
word is read as what is not finite just if it is such a name or its figure is too great**
(`exists_readFloat?_iff`).
-/
import ValidatorGen.Proofs.Decimal.Overflow
import ValidatorGen.Proofs.Json.Numerals

namespace ValidatorGen.Decimal

open Json (IsDigits)
open Json.Literal (fractionChars signChars exponentValue)
open Float.Model UnpackedFloat

/-! ## Figures -/

/-- A number without a sign, spelled out. -/
structure Figure where
  whole : List Char
  /-- The digits after the point, if there is one. -/
  fraction : Option (List Char) := none
  /-- The mark of the exponent, its sign, and its digits. -/
  exponent : Option (Char × Option Bool × List Char) := none

namespace Figure

/-- There is a digit, digits stand where they are due, and the exponent is marked. -/
structure IsValid (n : Figure) : Prop where
  some : n.whole ++ n.fraction.getD [] ≠ []
  whole : ∀ c ∈ n.whole, c.isDigit = true
  fraction : ∀ digits ∈ n.fraction, ∀ c ∈ digits, c.isDigit = true
  exponent : ∀ e ∈ n.exponent, (e.1 = 'e' ∨ e.1 = 'E') ∧ IsDigits e.2.2

/-- The characters of an exponent. -/
def exponentChars : Option (Char × Option Bool × List Char) → List Char
  | none => []
  | some (mark, sign, digits) => mark :: (signChars sign ++ digits)

/-- The characters of a figure. -/
def chars (n : Figure) : List Char :=
  n.whole ++ (fractionChars n.fraction ++ exponentChars n.exponent)

/-- All digits as one number. -/
def significand (n : Figure) : Nat := digitsValue (n.whole ++ n.fraction.getD [])

/-- The value of an exponent, if there is one. -/
def tailValue (x : Option (Char × Option Bool × List Char)) : Int :=
  x.elim 0 fun e => exponentValue e.2

/-- The power of ten of the last digit. -/
def scale (n : Figure) : Int := tailValue n.exponent - (n.fraction.getD []).length

/-- The number that is spelled out. -/
def value (n : Figure) : ℚ := n.significand * 10 ^ n.scale

end Figure

variable {word digits rest : List Char} {n : Figure} {f : Float}

/-! ## Reading figures -/

/-- Reads what comes after the digits. -/
def readTail? : List Char → Option Int
  | [] => some 0
  | 'e' :: more => readExponent? more
  | 'E' :: more => readExponent? more
  | _ => none

/-- The digits after a point, and what comes after them. -/
def spanFraction (rest : List Char) : List Char × List Char :=
  match rest with
  | '.' :: more => spanDigits more
  | _ => ([], rest)

theorem readUnsignedFloat?_eq (word : List Char) :
    readUnsignedFloat? word
      = let whole := (spanDigits word).1
        let fraction := (spanFraction (spanDigits word).2).1
        if whole = [] ∧ fraction = [] then none
        else (readTail? (spanFraction (spanDigits word).2).2).map fun e =>
          nearestFloat (digitsValue (whole ++ fraction)) (e - fraction.length) := by
  rw [readUnsignedFloat?]
  generalize spanDigits word = parts
  obtain ⟨whole, rest⟩ := parts
  simp only [spanFraction, readTail?, Bool.and_eq_true, decide_eq_true_eq]
  rfl

theorem readExponent?_eq_some_iff {e : Int} : readExponent? word = some e ↔
    ∃ sign digits, IsDigits digits ∧ signChars sign ++ digits = word ∧
      e = exponentValue (sign, digits) := by
  have hdigits : ∀ digits : List Char,
      (digits ≠ [] && digits.all Char.isDigit) = true ↔ IsDigits digits := fun digits => by
    rw [Bool.and_eq_true, decide_eq_true_iff, List.all_eq_true]
    rfl
  constructor
  · intro h
    unfold readExponent? at h
    split at h
    · next more =>
      rw [Option.ite_none_right_eq_some, hdigits] at h
      exact ⟨some false, more, h.1, rfl, (Option.some.inj h.2).symm⟩
    · next more =>
      rw [Option.map_eq_some_iff] at h
      obtain ⟨v, h, rfl⟩ := h
      rw [Option.ite_none_right_eq_some, hdigits] at h
      exact ⟨some true, more, h.1, rfl, congrArg _ (Option.some.inj h.2).symm⟩
    · rw [Option.ite_none_right_eq_some, hdigits] at h
      exact ⟨none, word, h.1, rfl, (Option.some.inj h.2).symm⟩
  · rintro ⟨sign, digits, h, rfl, rfl⟩
    have hall := (hdigits digits).mpr h
    obtain ⟨c, more, rfl, hc⟩ := h.exists_cons
    have hplus : c ≠ '+' := fun h => absurd (h ▸ hc) (by decide)
    have hminus : c ≠ '-' := fun h => absurd (h ▸ hc) (by decide)
    rcases sign with _ | _ | _ <;>
      simp_all [readExponent?, signChars, exponentValue]

theorem readTail?_eq_some_iff {e : Int} : readTail? word = some e ↔
    ∃ x, (∀ y ∈ x, (y.1 = 'e' ∨ y.1 = 'E') ∧ IsDigits y.2.2) ∧ Figure.exponentChars x = word ∧
      e = Figure.tailValue x := by
  constructor
  · intro h
    unfold readTail? at h
    split at h
    · exact ⟨none, nofun, rfl, (Option.some.inj h).symm⟩
    · obtain ⟨sign, digits, hdigits, rfl, rfl⟩ := readExponent?_eq_some_iff.mp h
      exact ⟨some ('e', sign, digits), fun _ hy => Option.some.inj hy ▸ ⟨.inl rfl, hdigits⟩,
        rfl, rfl⟩
    · obtain ⟨sign, digits, hdigits, rfl, rfl⟩ := readExponent?_eq_some_iff.mp h
      exact ⟨some ('E', sign, digits), fun _ hy => Option.some.inj hy ▸ ⟨.inr rfl, hdigits⟩,
        rfl, rfl⟩
    · cases h
  · rintro ⟨x, hx, rfl, rfl⟩
    cases x with
    | none => rfl
    | some y =>
      obtain ⟨mark, sign, digits⟩ := y
      obtain ⟨hmark, hdigits⟩ := hx _ rfl
      have hread := readExponent?_eq_some_iff.mpr ⟨sign, digits, hdigits, rfl, rfl⟩
      rcases hmark with rfl | rfl <;> exact hread

/-- An exponent does not start with a digit or a point. -/
theorem head_exponentChars {x : Option (Char × Option Bool × List Char)}
    (hx : ∀ y ∈ x, (y.1 = 'e' ∨ y.1 = 'E') ∧ IsDigits y.2.2) {c : Char}
    (hc : (Figure.exponentChars x).head? = some c) : c.isDigit = false ∧ c ≠ '.' := by
  cases x with
  | none => cases hc
  | some y =>
    cases hc
    rcases (hx y rfl).1 with h | h <;> rw [h] <;> decide

theorem spanDigits_spec (word : List Char) :
    word = (spanDigits word).1 ++ (spanDigits word).2 ∧
      ∀ c ∈ (spanDigits word).1, c.isDigit = true :=
  ⟨List.takeWhile_append_dropWhile.symm, fun _ => List.mem_takeWhile_imp⟩

theorem spanFraction_spec (rest : List Char) : ∃ fraction : Option (List Char),
    rest = fractionChars fraction ++ (spanFraction rest).2 ∧
      (spanFraction rest).1 = fraction.getD [] ∧
      ∀ digits ∈ fraction, ∀ c ∈ digits, c.isDigit = true := by
  unfold spanFraction
  split
  · next more =>
    obtain ⟨hmore, hdigits⟩ := spanDigits_spec more
    refine ⟨some (spanDigits more).1, congrArg ('.' :: ·) hmore, rfl, fun digits h => ?_⟩
    cases h
    exact hdigits
  · exact ⟨none, rfl, rfl, nofun⟩

/-- **A figure is read as the float that is nearest to it.** -/
theorem readUnsignedFloat?_chars (h : n.IsValid) :
    readUnsignedFloat? n.chars = some (nearestFloat n.significand n.scale) := by
  obtain ⟨whole, fraction, exponent⟩ := n
  obtain ⟨hsome, hwhole, hfraction, hexponent⟩ := h
  have htail := readTail?_eq_some_iff.mpr ⟨exponent, hexponent, rfl, rfl⟩
  have hstop : ∀ c, (Figure.exponentChars exponent).head? = some c → c.isDigit = false :=
    fun c hc => (head_exponentChars hexponent hc).1
  have hfractionStop : ∀ c,
      (fractionChars fraction ++ Figure.exponentChars exponent).head? = some c →
        c.isDigit = false := by
    intro c hc
    cases fraction with
    | none => exact hstop c hc
    | some digits =>
      cases hc
      decide
  have hspan : spanFraction (fractionChars fraction ++ Figure.exponentChars exponent)
      = (fraction.getD [], Figure.exponentChars exponent) := by
    cases fraction with
    | none =>
      unfold spanFraction
      split
      · next more hmore => exact absurd rfl (head_exponentChars hexponent (c := '.') (by
          rw [← List.nil_append (Figure.exponentChars exponent)]
          exact congrArg List.head? hmore)).2
      · rfl
    | some digits => exact Json.spanDigits_append (hfraction digits rfl) hstop
  rw [readUnsignedFloat?_eq, Figure.chars, Json.spanDigits_append hwhole hfractionStop]
  simp only [hspan, htail]
  rw [if_neg (by simpa using hsome)]
  rfl

/-- Nothing but figures is read so. -/
theorem exists_of_readUnsignedFloat? (h : readUnsignedFloat? word = some f) :
    ∃ n : Figure, n.IsValid ∧ n.chars = word := by
  rw [readUnsignedFloat?_eq] at h
  simp only [Option.ite_none_left_eq_some, Option.map_eq_some_iff] at h
  obtain ⟨hsome, e, htail, -⟩ := h
  obtain ⟨x, hx, hchars, -⟩ := readTail?_eq_some_iff.mp htail
  obtain ⟨hword, hwhole⟩ := spanDigits_spec word
  obtain ⟨fraction, hrest, hfraction, hdigits⟩ := spanFraction_spec (spanDigits word).2
  refine ⟨⟨(spanDigits word).1, fraction, x⟩, ⟨?_, hwhole, hdigits, hx⟩, ?_⟩
  · rw [hfraction] at hsome
    simpa using hsome
  · rw [Figure.chars, hchars, ← hrest, ← hword]

/-- **A word that is a figure, and no other, is read as a float, and as the nearest one.** -/
theorem readUnsignedFloat?_eq_some_iff : readUnsignedFloat? word = some f ↔
    ∃ n : Figure, n.IsValid ∧ n.chars = word ∧ f = nearestFloat n.significand n.scale := by
  constructor
  · intro h
    obtain ⟨n, hvalid, rfl⟩ := exists_of_readUnsignedFloat? h
    rw [readUnsignedFloat?_chars hvalid] at h
    exact ⟨n, hvalid, rfl, (Option.some.inj h).symm⟩
  · rintro ⟨n, hvalid, rfl, rfl⟩
    exact readUnsignedFloat?_chars hvalid

/-! ## Words -/

/-- A name for what is not finite, in any letter case. -/
def IsBoundlessName (word : List Char) : Prop :=
  word.map Char.toLower ∈ ["inf".toList, "infinity".toList, "nan".toList]

instance : DecidablePred IsBoundlessName := fun word =>
  inferInstanceAs (Decidable (word.map Char.toLower ∈ _))

/-- A word without its sign. -/
def unsigned : List Char → List Char
  | '+' :: rest => rest
  | '-' :: rest => rest
  | word => word

/-- **A word that is not finite as a float**: a name for that, or a figure that is too great,
perhaps with a sign. -/
def IsBoundless (word : List Char) : Prop :=
  IsBoundlessName (unsigned word) ∨
    ∃ n : Figure, n.IsValid ∧ n.chars = unsigned word ∧ overflowBound ≤ n.value

/-- A figure is read as what is not finite just if it is too great. -/
theorem exists_readUnsignedFloat?_iff :
    (∃ f, readUnsignedFloat? word = some f ∧ f.isFinite = false) ↔
      ∃ n : Figure, n.IsValid ∧ n.chars = word ∧ overflowBound ≤ n.value := by
  have hgreat : ∀ n : Figure, (nearestFloat n.significand n.scale).isFinite = false ↔
      overflowBound ≤ n.value := fun n => by
    rw [← Bool.not_eq_true, isFinite_nearestFloat, not_lt]
    rfl
  constructor
  · rintro ⟨f, hread, hf⟩
    obtain ⟨n, hvalid, hchars, rfl⟩ := readUnsignedFloat?_eq_some_iff.mp hread
    exact ⟨n, hvalid, hchars, (hgreat n).mp hf⟩
  · rintro ⟨n, hvalid, hchars, hvalue⟩
    exact ⟨_, readUnsignedFloat?_eq_some_iff.mpr ⟨n, hvalid, hchars, rfl⟩, (hgreat n).mpr hvalue⟩

/-- A name is read as what it stands for, and every other word as a figure. -/
theorem readMagnitude?_cases (word : List Char) :
    IsBoundlessName word ∧ (∃ f, readMagnitude? word = some f ∧ f.isFinite = false) ∨
      ¬ IsBoundlessName word ∧ readMagnitude? word = readUnsignedFloat? word := by
  have hinf : (1.0 / 0.0 : Float).isFinite = false := by decide
  have hnan : (0.0 / 0.0 : Float).isFinite = false := by decide
  have hname : IsBoundlessName word ↔ word.map Char.toLower = ['i', 'n', 'f'] ∨
      word.map Char.toLower = ['i', 'n', 'f', 'i', 'n', 'i', 't', 'y'] ∨
        word.map Char.toLower = ['n', 'a', 'n'] := by
    simp [IsBoundlessName]
  rw [hname, readMagnitude?]
  by_cases h : word.map Char.toLower = ['i', 'n', 'f'] ∨
      word.map Char.toLower = ['i', 'n', 'f', 'i', 'n', 'i', 't', 'y']
  · exact .inl ⟨by tauto, _, if_pos (by simpa using h), hinf⟩
  · rw [if_neg (by simpa using h)]
    by_cases h' : word.map Char.toLower = ['n', 'a', 'n']
    · exact .inl ⟨by tauto, _, if_pos h', hnan⟩
    · exact .inr ⟨by tauto, if_neg h'⟩

theorem exists_readMagnitude?_iff : (∃ f, readMagnitude? word = some f ∧ f.isFinite = false) ↔
    IsBoundlessName word ∨
      ∃ n : Figure, n.IsValid ∧ n.chars = word ∧ overflowBound ≤ n.value := by
  rcases readMagnitude?_cases word with ⟨hname, hread⟩ | ⟨hname, hread⟩
  · exact iff_of_true hread (.inl hname)
  · rw [or_iff_right hname, hread]
    exact exists_readUnsignedFloat?_iff

/-- A sign does not change whether a float is finite. -/
theorem isFinite_neg (f : Float) : (-f).isFinite = f.isFinite := by
  show (Float.Model.pack f.toModel.unpack.neg).isFinite = f.toModel.unpack.isFinite
  cases hf : f.toModel.unpack with
  | infinity s => cases s <;> rfl
  | zero s => cases s <;> rfl
  | notANumber => rfl
  | finite s m e hm =>
    have hpack : UnpackedFloat.pack .binary64 (.finite s m e hm) = f.toModel.toBits.toBitVec :=
      hf ▸ pack_unpack_of_valid f.toModel.valid
    have hfinite : (Float.Model.pack (.finite s m e hm)).isFinite = true := by
      show (UnpackedFloat.unpack .binary64 (UnpackedFloat.pack .binary64 _)).isFinite = true
      rw [hpack]
      exact congrArg UnpackedFloat.isFinite hf
    exact isFinite_pack.mpr (isFinite_pack.mp hfinite)

/-- A sign is read, and what is left is read without it. -/
theorem readFloat?_cases (word : List Char) :
    readFloat? word = readMagnitude? (unsigned word) ∨
      readFloat? word = (readMagnitude? (unsigned word)).map (- ·) := by
  unfold readFloat?
  split
  · exact .inl rfl
  · exact .inr rfl
  · next hplus hminus =>
    refine .inl ?_
    rw [unsigned]
    · exact hplus
    · exact hminus

/-- **A word is read as what is not finite just if it is boundless.** -/
theorem exists_readFloat?_iff :
    (∃ f, readFloat? word = some f ∧ f.isFinite = false) ↔ IsBoundless word := by
  rw [IsBoundless, ← exists_readMagnitude?_iff]
  rcases readFloat?_cases word with h | h
  · rw [h]
  rw [h]
  constructor
  · rintro ⟨f, hread, hf⟩
    obtain ⟨g, hmagnitude, rfl⟩ := Option.map_eq_some_iff.mp hread
    exact ⟨g, hmagnitude, isFinite_neg g ▸ hf⟩
  · rintro ⟨f, hread, hf⟩
    exact ⟨-f, Option.map_eq_some_iff.mpr ⟨f, hread, rfl⟩, (isFinite_neg f).trans hf⟩

end ValidatorGen.Decimal
