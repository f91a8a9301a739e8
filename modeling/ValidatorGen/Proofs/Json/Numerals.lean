/-
Numbers of documents are read as far as they go. A numeral is made of digits without a zero before
them, a fraction, if it has one, and an exponent, if it has one (`Literal`); where no more of it can
follow (`Ends`), **it is read whole, and nothing after it** (`Literal.reads`). An integer is such a
numeral, and a natural number that fits 64 bits is read back (`value?_intChars`).
-/
import ValidatorGen.Decimal.Layout
import ValidatorGen.Json.Document
import ValidatorGen.Proofs.Text.Blank

namespace ValidatorGen.Json

open Decimal

/-- Nothing here could belong to a number before it. -/
def Ends (rest : List Char) : Prop :=
  ∀ c, rest.head? = some c → c.isDigit = false ∧ c ≠ '.' ∧ c ≠ 'e' ∧ c ≠ 'E'

/-- Some digits. -/
def IsDigits (digits : List Char) : Prop := digits ≠ [] ∧ ∀ c ∈ digits, c.isDigit = true

/-- A text is read as a numeral, wherever it stands. -/
def Reads (chars : List Char) (n : Numeral) : Prop :=
  ∀ rest, Ends rest → scanNumeral (chars ++ rest) = .ok (n, rest)

/-- A number, spelled out. -/
structure Literal where
  negative : Bool
  whole : List Char
  fraction : Option (List Char)
  /-- The sign of the exponent, and its digits. -/
  exponent : Option (Option Bool × List Char)

namespace Literal

/-- The parts of a number follow the rules. -/
structure IsValid (l : Literal) : Prop where
  whole : IsDigits l.whole
  start : l.whole.head? = some '0' → l.whole = ['0']
  fraction : ∀ digits ∈ l.fraction, IsDigits digits
  exponent : ∀ e ∈ l.exponent, IsDigits e.2

/-- The characters of a fraction. -/
def fractionChars : Option (List Char) → List Char
  | none => []
  | some digits => '.' :: digits

/-- The sign of an exponent. -/
def signChars : Option Bool → List Char
  | none => []
  | some false => ['+']
  | some true => ['-']

/-- The characters of an exponent. -/
def exponentChars : Option (Option Bool × List Char) → List Char
  | none => []
  | some (sign, digits) => 'e' :: (signChars sign ++ digits)

/-- The characters of a number. -/
def chars (l : Literal) : List Char :=
  (if l.negative then ['-'] else []) ++ (l.whole ++ (fractionChars l.fraction
    ++ exponentChars l.exponent))

/-- The value of an exponent. -/
def exponentValue (e : Option Bool × List Char) : Int :=
  if e.1 = some true then -(digitsValue e.2 : Int) else digitsValue e.2

/-- What the characters are read as. -/
def numeral (l : Literal) : Numeral :=
  ⟨l.negative, l.whole, l.fraction, l.exponent.map exponentValue⟩

end Literal

section

variable {digits rest : List Char}

/-! ## Reading -/

theorem spanDigits_append (hdigits : ∀ c ∈ digits, c.isDigit = true)
    (hrest : ∀ c, rest.head? = some c → c.isDigit = false) :
    spanDigits (digits ++ rest) = (digits, rest) := by
  rw [spanDigits, Text.takeWhile_append_of_stop hdigits hrest,
    Text.dropWhile_append_of_stop hdigits hrest]

theorem IsDigits.exists_cons (h : IsDigits digits) :
    ∃ c more, digits = c :: more ∧ c.isDigit = true := by
  obtain ⟨c, more, rfl⟩ := List.exists_cons_of_ne_nil h.1
  exact ⟨c, more, rfl, h.2 c List.mem_cons_self⟩

theorem scanExponent_append {sign : Option Bool} (h : IsDigits digits) (hrest : Ends rest) :
    scanExponent (Literal.signChars sign ++ (digits ++ rest))
      = .ok (Literal.exponentValue (sign, digits), rest) := by
  have hspan := spanDigits_append h.2 fun d hd => (hrest d hd).1
  obtain ⟨c, more, rfl, hc⟩ := h.exists_cons
  have hplus : c ≠ '+' := fun h => absurd (h ▸ hc) (by decide)
  have hminus : c ≠ '-' := fun h => absurd (h ▸ hc) (by decide)
  rcases sign with _ | _ | _ <;>
    simp_all [scanExponent, Literal.signChars, Literal.exponentValue]

theorem scanTail_append {negative : Bool} {whole : List Char} {fraction : Option (List Char)}
    {exponent : Option (Option Bool × List Char)} (hfraction : ∀ ds ∈ fraction, IsDigits ds)
    (hexponent : ∀ e ∈ exponent, IsDigits e.2) (hrest : Ends rest) :
    scanTail negative whole (Literal.fractionChars fraction
        ++ (Literal.exponentChars exponent ++ rest))
      = .ok (⟨negative, whole, fraction, exponent.map Literal.exponentValue⟩, rest) := by
  have hexp : ∀ e ∈ exponent, scanExponent (Literal.signChars e.1 ++ (e.2 ++ rest))
      = .ok (Literal.exponentValue e, rest) := fun e he =>
    scanExponent_append (hexponent e he) hrest
  -- what comes after the fraction is no part of it
  have htail : ∀ c, (Literal.exponentChars exponent ++ rest).head? = some c →
      c.isDigit = false := by
    intro c hc
    cases exponent with
    | none => exact (hrest c hc).1
    | some e =>
      cases hc
      decide
  have hspan : ∀ ds ∈ fraction, spanDigits (ds ++ (Literal.exponentChars exponent ++ rest))
      = (ds, Literal.exponentChars exponent ++ rest) := fun ds hds =>
    spanDigits_append (hfraction ds hds).2 htail
  unfold scanTail
  cases fraction with
  | none =>
    cases exponent with
    | some e => simp [Literal.fractionChars, Literal.exponentChars, bind, Except.bind, hexp e rfl]
    | none =>
      cases rest with
      | nil => rfl
      | cons c rest =>
        obtain ⟨-, hpoint, he, hE⟩ := hrest c rfl
        simp only [Literal.fractionChars, Literal.exponentChars, List.nil_append, bind,
          Except.bind]
        split <;> simp_all
  | some ds =>
    obtain ⟨d, ds, rfl, -⟩ := (hfraction ds rfl).exists_cons
    have hspan := hspan _ rfl
    simp only [Literal.fractionChars, List.cons_append, bind, Except.bind] at hspan ⊢
    rw [hspan]
    cases exponent with
    | some e => simp [Literal.exponentChars, hexp e rfl]
    | none =>
      cases rest with
      | nil => rfl
      | cons c rest =>
        obtain ⟨-, -, he, hE⟩ := hrest c rfl
        simp only [Literal.exponentChars, List.nil_append]
        split <;> simp_all

/-- **A number is read whole, and nothing after it.** -/
theorem Literal.IsValid.reads {l : Literal} (h : l.IsValid) : Reads l.chars l.numeral := by
  intro rest hrest
  obtain ⟨negative, whole, fraction, exponent⟩ := l
  have hstop : ∀ c, (fractionChars fraction ++ (exponentChars exponent ++ rest)).head? = some c →
      c.isDigit = false := by
    intro c hc
    cases fraction with
    | some ds =>
      cases hc
      decide
    | none =>
      cases exponent with
      | some e =>
        cases hc
        decide
      | none => exact (hrest c hc).1
  have hspan := spanDigits_append h.whole.2 hstop
  have htail : scanTail negative whole _ = _ := scanTail_append h.fraction h.exponent hrest
  have hstart := h.start
  obtain ⟨d, ds, rfl, hd⟩ := h.whole.exists_cons
  have hminus : d ≠ '-' := fun h => absurd (h ▸ hd) (by decide)
  have hzero : d = '0' → ds = [] := fun hd => by simpa [hd] using hstart
  simp only [List.cons_append] at hspan
  cases negative
  case false =>
    simp only [scanNumeral, chars, Bool.false_eq_true, if_false, List.cons_append,
      List.nil_append, List.append_assoc, List.cons.injEq, hminus, false_and, imp_self,
      implies_true, hspan]
    split <;> simp_all [numeral]
  case true =>
    simp only [scanNumeral, chars, if_true, List.cons_append, List.nil_append, List.append_assoc,
      hspan]
    split <;> simp_all [numeral]

/-! ## Integers -/

/-- The integer of a sign and a natural number, spelled out. -/
def Literal.ofInt : Int → Literal
  | .ofNat n => ⟨false, Nat.toDigits 10 n, none, none⟩
  | .negSucc n => ⟨true, Nat.toDigits 10 (n + 1), none, none⟩

theorem isDigits_toDigits (n : Nat) : IsDigits (Nat.toDigits 10 n) :=
  ⟨Nat.toDigits_ne_nil, fun _ hc => Nat.isDigit_of_mem_toDigits (by decide) (by decide) hc⟩

/-- Only zero is spelled with a zero before its other digits, and it has none. -/
theorem eq_zero_of_head_toDigits {n : Nat} (h : (Nat.toDigits 10 n).head? = some '0') : n = 0 := by
  induction n using Nat.strongRecOn with
  | ind n ih =>
    by_cases hn : n < 10
    · rw [Nat.toDigits_of_lt_base hn] at h
      have hsmall : ∀ n < 10, n.digitChar = '0' → n = 0 := by decide
      exact hsmall n hn (Option.some.inj h)
    · have hdigits : (Nat.toDigits 10 (n / 10)).head?.isSome := by simp
      rw [Nat.toDigits_of_base_le (by decide) (Nat.le_of_not_lt hn), List.head?_append,
        Option.or_of_isSome hdigits] at h
      have hzero := ih (n / 10) (by omega) h
      omega

theorem start_toDigits {n : Nat} (h : (Nat.toDigits 10 n).head? = some '0') :
    Nat.toDigits 10 n = ['0'] := by
  rw [eq_zero_of_head_toDigits h, Nat.toDigits_zero]

theorem Literal.isValid_ofInt (n : Int) : (ofInt n).IsValid := by
  cases n <;> exact ⟨isDigits_toDigits _, start_toDigits, nofun, nofun⟩

theorem Literal.chars_ofInt (n : Int) : (ofInt n).chars = intChars n := by
  cases n <;> simp [ofInt, chars, fractionChars, exponentChars, intChars]

theorem le_ofDigitChars (digits : List Char) (n : Nat) : n ≤ Nat.ofDigitChars 10 digits n := by
  rw [Nat.ofDigitChars_eq_ofDigitChars_zero]
  have hpow : n ≤ 10 ^ digits.length * n := Nat.le_mul_of_pos_left n (Nat.pow_pos (by decide))
  omega

/-- Digits are all taken if the number that they make fits 64 bits. -/
theorem takeDigits_eq {n : Nat} (h : Nat.ofDigitChars 10 digits n < UInt64.size) :
    takeDigits n digits = (Nat.ofDigitChars 10 digits n, 0) := by
  induction digits generalizing n with
  | nil => simp [takeDigits]
  | cons d ds ih =>
    rw [Nat.ofDigitChars_cons] at h ⊢
    have hnext := Nat.lt_of_le_of_lt (le_ofDigitChars ds _) h
    rw [takeDigits, if_pos hnext, ih h]

/-- **A natural number that fits 64 bits is read back.** -/
theorem value?_ofInt {n : Nat} (h : n < UInt64.size) :
    (Literal.ofInt n).numeral.value? = some (.natural n) := by
  have htake : takeDigits 0 (Nat.toDigits 10 n) = (n, 0) := by
    rw [takeDigits_eq] <;> simp [h]
  simp [Literal.ofInt, Literal.numeral, Numeral.value?, htake]

end

end ValidatorGen.Json
