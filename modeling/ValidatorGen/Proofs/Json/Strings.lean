/-
Strings of documents are read as they were written: **whatever a string holds, what its quotes
enclose is read back, and nothing after the closing quote** (`readString_escaped`). One escape
stands for one character (`scanString_escapedChar`); the rest is induction on the string.
-/
import ValidatorGen.Json.Document

namespace ValidatorGen.Json

theorem hexValue?_hexDigit : ∀ n < 16, hexValue? (hexDigit n) = some n := by decide

/-- A character is told by the two hexadecimal digits of its code, if they are enough. -/
theorem scanHex4_hexDigits {n : Nat} (h : n < 256) (rest : List Char) :
    scanHex4 ('0' :: '0' :: hexDigit (n / 16) :: hexDigit (n % 16) :: rest) = .ok (n, rest) := by
  have hzero : hexValue? '0' = some 0 := by decide
  have hhigh := hexValue?_hexDigit (n / 16) (by omega)
  have hlow := hexValue?_hexDigit (n % 16) (by omega)
  have hsum : (0 * 16 + 0) * 16 + n / 16 = n / 16 := by omega
  rw [scanHex4, hzero, hhigh, hlow]
  simp only [hsum, Nat.div_add_mod']

/-- What an escape stands for is read, and the string goes on after it. -/
theorem scanString_escapedChar (fuel : Nat) (c : Char) (text : List Char) :
    scanString (fuel + 1) (escapedChar c ++ text)
      = (scanString fuel text).map fun (s, rest) => (s.map (c :: ·), rest) := by
  unfold escapedChar
  by_cases hquote : c = '"'
  · subst hquote
    rfl
  by_cases hback : c = '\\'
  · subst hback
    rfl
  simp only [beq_iff_eq, hquote, hback, if_false]
  split
  · next h => subst h; rfl
  split
  · next h => subst h; rfl
  split
  · next h => subst h; rfl
  split
  · next h => subst h; rfl
  split
  · next h => subst h; rfl
  split
  · next hcontrol =>
    have hhex := scanHex4_hexDigits (n := c.toNat) (by omega) text
    have hhigh : ¬ 0xD800 ≤ c.toNat := by omega
    have hlow : ¬ 0xDC00 ≤ c.toNat := by omega
    simp only [List.cons_append, List.nil_append, scanString, hhex, hhigh, hlow, decide_false,
      Bool.false_and, Bool.false_eq_true, if_false, Char.ofNat_toNat]
  · next hplain =>
    simp only [List.cons_append, List.nil_append]
    rw [scanString]
    · simp [hplain]
    · exact hquote
    · exact fun h _ => hback h
    · exact fun _ h _ => hback h
    · exact fun _ _ h _ => hback h

/-- What stands for some characters is read, up to the closing quote. -/
theorem scanString_escaped {fuel : Nat} {cs : List Char} (h : cs.length < fuel)
    (rest : List Char) :
    scanString fuel (cs.flatMap escapedChar ++ '"' :: rest) = .ok (some cs, rest) := by
  induction cs generalizing fuel with
  | nil =>
    obtain ⟨fuel, rfl⟩ := Nat.exists_eq_add_of_lt h
    rfl
  | cons c cs ih =>
    obtain ⟨fuel, rfl⟩ := Nat.exists_eq_add_of_lt h
    rw [List.flatMap_cons, List.append_assoc]
    rw [scanString_escapedChar, ih (by simp only [List.length_cons]; omega)]
    rfl

theorem length_le_flatMap_escapedChar (cs : List Char) :
    cs.length ≤ (cs.flatMap escapedChar).length := by
  have hone : ∀ c, 1 ≤ (escapedChar c).length := fun c => by
    unfold escapedChar
    repeat' split
    all_goals simp
  induction cs with
  | nil => simp
  | cons c cs ih =>
    have := hone c
    simp only [List.flatMap_cons, List.length_append, List.length_cons]
    omega

/-- **A string is read back from its quotes.** -/
theorem readString_escaped (s : String) (rest : List Char) :
    readString (s.toList.flatMap escapedChar ++ '"' :: rest) = .ok (some s, rest) := by
  have hfuel := length_le_flatMap_escapedChar s.toList
  rw [readString, scanString_escaped (by simp only [List.length_append]; omega)]
  simp [Except.map]

end ValidatorGen.Json
