/-
What stands in a text outside of quotes (`StandsIn`), or after so many of them (`StandsAfter`). The
first piece of a text that is cut at its separators starts the text
(`exists_prefix_splitTopLevel`), and every piece stands in it outside of quotes
(`standsIn_of_mem_splitTopLevel`): no text is cut inside of them.
-/
import ValidatorGen.Proofs.Check.TopLevel

namespace ValidatorGen.Check

open Text

/-! ## Outside of quotes -/

/-- `u` stands in `t` outside of quotes: the quotes before it come in pairs. -/
def StandsIn (u t : List Char) : Prop := ∃ a b, t = a ++ (u ++ b) ∧ Even (a.count quote)

namespace StandsIn

variable {s t u : List Char}

theorem refl (t : List Char) : StandsIn t t := ⟨[], [], by simp, by simp⟩

theorem trans (hs : StandsIn s t) (ht : StandsIn t u) : StandsIn s u := by
  obtain ⟨a, b, rfl, hab⟩ := hs
  obtain ⟨c, d, rfl, hcd⟩ := ht
  exact ⟨c ++ a, b ++ d, by simp, by rw [List.count_append]; exact hcd.add hab⟩

theorem of_isPrefix (h : s <+: t) : StandsIn s t := by
  obtain ⟨b, rfl⟩ := h
  exact ⟨[], b, rfl, by simp⟩

/-- What comes after text without quotes stands outside of quotes. -/
theorem append {a : List Char} (ha : quote ∉ a) (t : List Char) : StandsIn t (a ++ t) :=
  ⟨a, [], by simp, by simp [List.count_eq_zero_of_not_mem ha]⟩

theorem isInfix (h : StandsIn s t) : s <:+: t := by
  obtain ⟨a, b, rfl, -⟩ := h
  exact ⟨a, b, by simp⟩

end StandsIn

/-- `u` stands in `t` after quotes that come in pairs, or all but one of them do, as in `n`. -/
def StandsAfter (n : Nat) (u t : List Char) : Prop :=
  ∃ a b, t = a ++ (u ++ b) ∧ (Odd (a.count quote) ↔ Odd n)

namespace StandsAfter

variable {n : Nat} {s t u : List Char}

theorem append (s t : List Char) : StandsAfter (s.count quote) t (s ++ t) :=
  ⟨s, [], by simp, .rfl⟩

theorem standsIn (h : StandsAfter n s t) (hn : Even n) : StandsIn s t := by
  obtain ⟨a, b, hab, hodd⟩ := h
  refine ⟨a, b, hab, Nat.not_odd_iff_even.mp fun ha => ?_⟩
  exact Nat.not_odd_iff_even.mpr hn (hodd.mp ha)

theorem within (h : StandsAfter n s t) (ht : StandsIn t u) : StandsAfter n s u := by
  obtain ⟨a, b, rfl, hodd⟩ := h
  obtain ⟨c, d, rfl, hc⟩ := ht
  refine ⟨c ++ a, b ++ d, by simp, ?_⟩
  rw [List.count_append, Nat.odd_add', iff_true_right hc, hodd]

theorem part (h : StandsAfter n t u) (hs : StandsIn s t) : StandsAfter n s u := by
  obtain ⟨a, b, rfl, hodd⟩ := h
  obtain ⟨c, d, rfl, hc⟩ := hs
  refine ⟨a ++ c, d ++ b, by simp, ?_⟩
  rw [List.count_append, Nat.odd_add, iff_true_right hc, hodd]

theorem isInfix (h : StandsAfter n s t) : s <:+: t := by
  obtain ⟨a, b, rfl, -⟩ := h
  exact ⟨a, b, by simp⟩

end StandsAfter

/-! ## All pieces -/

/-- The first piece starts the text. -/
theorem exists_prefix_splitTopLevel (sep : Separator) (t : List Char) :
    ∃ p ps, splitTopLevel sep t = p :: ps ∧ p <+: t := by
  obtain ⟨first, others, hsplit, rfl, -⟩ := exists_isSplit sep [] t
  exact ⟨first, others.map Prod.snd, hsplit, List.prefix_append first _⟩

/-- **No text is cut inside of quotes**: every piece stands outside of them. -/
theorem standsIn_of_mem_splitTopLevel {sep : Separator} {t p : List Char}
    (hp : p ∈ splitTopLevel sep t) : StandsIn p t := by
  obtain ⟨first, others, hsplit, rfl, hparts⟩ := exists_isSplit sep [] t
  rw [← splitAfter_nil, hsplit, List.mem_cons, List.mem_map] at hp
  rcases hp with rfl | ⟨⟨s, p⟩, hmem, rfl⟩
  · exact .of_isPrefix (List.prefix_append _ _)
  · obtain ⟨ws, zs, rfl⟩ := List.append_of_mem hmem
    refine ⟨first ++ joinedParts ws ++ s, joinedParts zs, by simp [joinedParts], ?_⟩
    exact (hparts.cut rfl).topLevel_append.outside

end ValidatorGen.Check
