/-
A text may be cut byte by byte: quotes, brackets and separators are ASCII, and no byte of another
character is (`byteChars_cases`). So the places that cut the bytes of a text are those that cut the
text (`cutAt_byteChars`, `exists_of_cutAt_byteChars`), and the parts of its bytes are the bytes of
its parts (`splitTopLevel_byteChars`). Main statement: `splitTopLevel_lossless`.
-/
import Mathlib.Data.List.Induction
import ValidatorGen.Proofs.Check.TopLevel

namespace ValidatorGen.Check

open Text

/-! ## Bytes -/

/-- The bytes of a text in UTF-8, each as the character of that number. -/
def byteChars (t : List Char) : List Char :=
  t.flatMap fun c => (String.utf8EncodeChar c).map Char.ofUInt8

theorem byteChars_append (s t : List Char) : byteChars (s ++ t) = byteChars s ++ byteChars t :=
  List.flatMap_append

theorem byteChars_cons (c : Char) (t : List Char) :
    byteChars (c :: t) = byteChars [c] ++ byteChars t :=
  byteChars_append [c] t

theorem length_byteChars (text : String) : (byteChars text.toList).length = text.utf8ByteSize := by
  have hsize : text.toList.utf8Encode.size = text.utf8ByteSize := by
    rw [String.utf8Encode_toList]
    rfl
  rw [← hsize, List.utf8Encode, List.size_toByteArray, byteChars, List.length_flatMap,
    List.length_flatMap]
  simp only [List.length_map]

theorem isAscii_ofUInt8_ofNat {n : Nat} (hlow : 128 ≤ n) (hhigh : n < 256) :
    isAscii (Char.ofUInt8 (UInt8.ofNat n)) = false := by
  have hn : (Char.ofUInt8 (UInt8.ofNat n)).toNat = n := Nat.mod_eq_of_lt hhigh
  rw [isAscii, hn, decide_eq_false_iff_not]
  omega

theorem isAscii_of_mem_utf8EncodeChar {c : Char} (h : isAscii c = false) :
    ∀ b ∈ String.utf8EncodeChar c, isAscii (Char.ofUInt8 b) = false := by
  have hn : 128 ≤ c.val.toNat := by simpa [isAscii] using h
  intro b hb
  unfold String.utf8EncodeChar at hb
  dsimp only at hb
  rw [if_neg (by omega)] at hb
  -- the leading byte says how many follow, and each of those starts with the bits 10
  split at hb
  · simp only [List.mem_cons, List.not_mem_nil, or_false] at hb
    rcases hb with rfl | rfl <;> exact isAscii_ofUInt8_ofNat (by omega) (by omega)
  split at hb
  · simp only [List.mem_cons, List.not_mem_nil, or_false] at hb
    rcases hb with rfl | rfl | rfl <;> exact isAscii_ofUInt8_ofNat (by omega) (by omega)
  · simp only [List.mem_cons, List.not_mem_nil, or_false] at hb
    rcases hb with rfl | rfl | rfl | rfl <;> exact isAscii_ofUInt8_ofNat (by omega) (by omega)

/-- An ASCII character is its only byte, and no byte of another character is ASCII. -/
theorem byteChars_cases (c : Char) :
    (isAscii c = true ∧ byteChars [c] = [c]) ∨
      (isAscii c = false ∧ byteChars [c] ≠ [] ∧ ∀ d ∈ byteChars [c], isAscii d = false) := by
  have hform : byteChars [c] = (String.utf8EncodeChar c).map Char.ofUInt8 := by simp [byteChars]
  rw [hform]
  cases hc : isAscii c with
  | true =>
    exact .inl ⟨rfl, forall_ascii (P := fun c => (String.utf8EncodeChar c).map Char.ofUInt8 = [c])
      (by decide) hc⟩
  | false =>
    refine .inr ⟨rfl, ?_, fun d hd => ?_⟩
    · have hpos : 0 < (String.utf8EncodeChar c).length := by
        rw [String.length_utf8EncodeChar]
        exact c.utf8Size_pos
      exact mt List.map_eq_nil_iff.mp (List.length_pos_iff.mp hpos)
    · obtain ⟨b, hb, rfl⟩ := List.mem_map.mp hd
      exact isAscii_of_mem_utf8EncodeChar hc b hb

/-! ## What is ASCII -/

theorem isPlain_of_not_ascii {c : Char} (h : isAscii c = false) : isPlain c = true := by
  have hne : ∀ d : Char, isAscii d = true → c ≠ d := by
    rintro d hd rfl
    rw [h] at hd
    cases hd
  exact isPlain_iff.mpr ⟨hne _ rfl, hne _ rfl, hne _ rfl, hne _ rfl, hne _ rfl⟩

theorem isAscii_of_bordersWord {c : Char} (h : bordersWord c = true) : isAscii c = true := by
  simp only [bordersWord, isAsciiBlank, Bool.or_eq_true, beq_iff_eq] at h
  rcases h with (((((rfl | rfl) | rfl) | rfl) | rfl) | rfl) | rfl <;> rfl

theorem Separates.isAscii {sep : Separator} {before after : Option Char} {s : List Char}
    (h : Separates sep before s after) : ∀ c ∈ s, Text.isAscii c = true := by
  cases h with
  | comma => exact forall_mem_of_all (by decide)
  | orWord hw =>
    intro c hc
    have hlower : c.toLower ∈ ['o', 'r'] := hw ▸ List.mem_map_of_mem hc
    refine isAscii_of_toLower ?_
    exact forall_mem_of_all (P := fun c => Text.isAscii c = true) (by decide) _ hlower

theorem byteChars_of_ascii {s : List Char} (h : ∀ c ∈ s, isAscii c = true) : byteChars s = s := by
  induction s with
  | nil => rfl
  | cons c s ih =>
    rcases byteChars_cases c with ⟨-, hc⟩ | ⟨hc, -⟩
    · rw [byteChars_cons, hc, ih fun d hd => h d (List.mem_cons_of_mem c hd)]
      rfl
    · rw [h c List.mem_cons_self] at hc
      cases hc

/-- ASCII text that the bytes of a text start with is at the start of the text. -/
theorem exists_of_byteChars_eq_append {s : List Char} (hs : ∀ c ∈ s, isAscii c = true)
    {t rest : List Char} (h : byteChars t = s ++ rest) : ∃ b, t = s ++ b ∧ rest = byteChars b := by
  induction s generalizing t with
  | nil => exact ⟨t, rfl, h.symm⟩
  | cons d s ih =>
    cases t with
    | nil => cases h
    | cons c t =>
      rw [byteChars_cons] at h
      rcases byteChars_cases c with ⟨-, hc⟩ | ⟨-, hne, hall⟩
      · rw [hc] at h
        obtain ⟨rfl, htail⟩ := List.cons.inj h
        obtain ⟨b, rfl, hrest⟩ := ih (fun e he => hs e (List.mem_cons_of_mem c he)) htail
        exact ⟨b, rfl, hrest⟩
      · obtain ⟨e, more, he⟩ := List.exists_cons_of_ne_nil hne
        rw [he] at h hall
        obtain rfl : e = d := (List.cons.inj h).1
        have hboth := hall e List.mem_cons_self
        rw [hs e List.mem_cons_self] at hboth
        cases hboth

theorem head?_byteChars {c : Char} (hc : isAscii c = true) {t : List Char} :
    (byteChars t).head? = some c ↔ t.head? = some c := by
  cases t with
  | nil => exact .rfl
  | cons d t =>
    rw [byteChars_cons, List.head?_append, List.head?_cons]
    rcases byteChars_cases d with ⟨-, hd⟩ | ⟨hd, hne, hall⟩
    · rw [hd, List.head?_cons, Option.some_or]
    · obtain ⟨e, more, he⟩ := List.exists_cons_of_ne_nil hne
      have hfalse := hall e (by rw [he]; exact List.mem_cons_self)
      rw [he, List.head?_cons, Option.some_or, Option.some.injEq, Option.some.injEq]
      exact iff_of_false (fun h => by simp [← h, hfalse] at hc) fun h => by simp [← h, hd] at hc

theorem getLast?_byteChars {c : Char} (hc : isAscii c = true) {t : List Char} :
    (byteChars t).getLast? = some c ↔ t.getLast? = some c := by
  rcases List.eq_nil_or_concat t with rfl | ⟨t, d, rfl⟩
  · exact .rfl
  · rw [List.concat_eq_append, byteChars_append, List.getLast?_append, List.getLast?_concat]
    rcases byteChars_cases d with ⟨-, hd⟩ | ⟨hd, hne, hall⟩
    · rw [hd, List.getLast?_singleton, Option.some_or]
    · have hfalse := hall _ (List.getLast_mem hne)
      rw [List.getLast?_eq_some_getLast hne, Option.some_or, Option.some.injEq, Option.some.injEq]
      exact iff_of_false (fun h => by simp [← h, hfalse] at hc) fun h => by simp [← h, hd] at hc

/-! ## The top level of bytes -/

theorem quoteOpen_byteChars (t : List Char) : quoteOpen (byteChars t) = quoteOpen t := by
  induction t with
  | nil => rfl
  | cons c t ih =>
    rw [byteChars_cons, quoteOpen_append, ih, quoteOpen_cons, ← quoteOpen_singleton]
    rcases byteChars_cases c with ⟨-, hc⟩ | ⟨hc, -, hall⟩
    · rw [hc]
    · have hplain : ∀ d ∈ [c], isPlain d = true := by simpa using isPlain_of_not_ascii hc
      rw [quoteOpen_of_plain fun d hd => isPlain_of_not_ascii (hall d hd),
        quoteOpen_of_plain hplain]

theorem bracketDepth_byteChars (t : List Char) : bracketDepth (byteChars t) = bracketDepth t := by
  induction t using List.reverseRecOn with
  | nil => rfl
  | append_singleton t c ih =>
    rw [byteChars_append]
    rcases byteChars_cases c with ⟨-, hc⟩ | ⟨hc, -, hall⟩
    · rw [hc, bracketDepth_concat, bracketDepth_concat, ih, quoteOpen_byteChars]
    · have hplain : ∀ d ∈ [c], isPlain d = true := by simpa using isPlain_of_not_ascii hc
      rw [bracketDepth_append_of_plain fun d hd => isPlain_of_not_ascii (hall d hd), ih,
        bracketDepth_append_of_plain hplain]

theorem atTopLevel_byteChars {t : List Char} : AtTopLevel (byteChars t) ↔ AtTopLevel t := by
  have hiff : ∀ {s : List Char}, AtTopLevel s ↔ quoteOpen s = false ∧ bracketDepth s = 0 :=
    ⟨fun h => ⟨quoteOpen_eq_false_iff.mpr h.outside, h.depth⟩,
      fun h => ⟨quoteOpen_eq_false_iff.mp h.1, h.2⟩⟩
  rw [hiff, hiff, quoteOpen_byteChars, bracketDepth_byteChars]

section

variable {sep : Separator} {a s b : List Char}

theorem separates_byteChars :
    Separates sep (byteChars a).getLast? s (byteChars b).head?
      ↔ Separates sep a.getLast? s b.head? :=
  ⟨fun h => h.of_borders (fun _ hc => (getLast?_byteChars (isAscii_of_bordersWord hc)).mp)
      fun _ hc => (head?_byteChars (isAscii_of_bordersWord hc)).mp,
    fun h => h.of_borders (fun _ hc => (getLast?_byteChars (isAscii_of_bordersWord hc)).mpr)
      fun _ hc => (head?_byteChars (isAscii_of_bordersWord hc)).mpr⟩

/-- A place cuts the bytes of a text just if it cuts the text. -/
theorem cutAt_byteChars : CutAt sep (byteChars a) s (byteChars b) ↔ CutAt sep a s b :=
  ⟨fun h => ⟨atTopLevel_byteChars.mp h.topLevel, separates_byteChars.mp h.separates⟩,
    fun h => ⟨atTopLevel_byteChars.mpr h.topLevel, separates_byteChars.mpr h.separates⟩⟩

/-- Wherever the bytes of a text are cut, the text is cut. -/
theorem exists_of_cutAt_byteChars {t rest : List Char} (hform : byteChars t = s ++ rest)
    (h : CutAt sep (byteChars a) s rest) : ∃ b, t = s ++ b ∧ CutAt sep a s b := by
  obtain ⟨b, rfl, rfl⟩ := exists_of_byteChars_eq_append h.separates.isAscii hform
  exact ⟨b, rfl, cutAt_byteChars.mp h⟩

end

/-! ## Parts of bytes -/

/-- What no separator starts in is passed over. -/
theorem splitAfter_keep_all {sep : Separator} {a s rest : List Char}
    (h : ∀ x y w b, s = x ++ y → y ≠ [] → y ++ rest = w ++ b → ¬ CutAt sep (a ++ x) w b) :
    splitAfter sep a (s ++ rest) = s.foldr consHead (splitAfter sep (a ++ s) rest) := by
  induction s generalizing a with
  | nil => rw [List.append_nil, List.nil_append, List.foldr_nil]
  | cons c s ih =>
    have hfirst : ∀ w b, c :: (s ++ rest) = w ++ b → ¬ CutAt sep a w b := fun w b hform hcut =>
      h [] (c :: s) w b rfl (by simp) hform (by rwa [List.append_nil])
    have hrest := ih (a := a ++ [c]) fun x y w b hform hne hwhole hcut =>
      h (c :: x) y w b (by rw [hform, List.cons_append]) hne hwhole
        (by rwa [List.append_assoc] at hcut)
    rw [List.cons_append, splitAfter_keep hfirst, hrest, List.foldr_cons, List.append_assoc]
    rfl

/-- The bytes of a character that no separator starts with stay in their part. -/
theorem splitAfter_byteChars_keep {sep : Separator} {a t : List Char} {c : Char}
    (h : ∀ s b, c :: t = s ++ b → ¬ CutAt sep a s b) :
    splitAfter sep (byteChars a) (byteChars (c :: t))
      = (byteChars [c]).foldr consHead (splitAfter sep (byteChars (a ++ [c])) (byteChars t)) := by
  rw [byteChars_cons, byteChars_append]
  refine splitAfter_keep_all fun x y w b hform hne hwhole hcut => ?_
  rcases byteChars_cases c with ⟨-, hc⟩ | ⟨-, -, hall⟩
  · have hx : x = [] := by
      rw [hc] at hform
      cases x with
      | nil => rfl
      | cons d x => exact absurd (List.append_eq_nil_iff.mp (List.cons.inj hform).2.symm).2 hne
    subst hx
    rw [List.append_nil] at hcut
    rw [List.nil_append] at hform
    rw [← hform, ← byteChars_cons] at hwhole
    obtain ⟨b, hb, hcut⟩ := exists_of_cutAt_byteChars hwhole hcut
    exact h w b hb hcut
  · obtain ⟨d, y, rfl⟩ := List.exists_cons_of_ne_nil hne
    obtain ⟨e, w, rfl⟩ := List.exists_cons_of_ne_nil hcut.separates.ne_nil
    obtain rfl := (List.cons.inj hwhole).1
    have hfalse := hall d (by rw [hform]; simp)
    rw [hcut.separates.isAscii d List.mem_cons_self] at hfalse
    cases hfalse

theorem splitAfter_byteChars (sep : Separator) (a t : List Char) :
    splitAfter sep (byteChars a) (byteChars t) = (splitAfter sep a t).map byteChars := by
  induction hlen : t.length using Nat.strongRecOn generalizing a t with
  | ind n ih =>
    subst hlen
    by_cases hcut : ∃ s b, t = s ++ b ∧ CutAt sep a s b
    · obtain ⟨s, b, rfl, hcut⟩ := hcut
      have hpos := List.length_pos_iff.mpr hcut.separates.ne_nil
      have hs := byteChars_of_ascii hcut.separates.isAscii
      have hrest := ih b.length (by rw [List.length_append]; omega) (a ++ s) b rfl
      rw [byteChars_append, hs] at hrest
      rw [byteChars_append, hs, splitAfter_cut hcut, splitAfter_cut (cutAt_byteChars.mpr hcut),
        hrest]
      rfl
    · have hnone : ∀ s b, t = s ++ b → ¬ CutAt sep a s b := fun s b hform h =>
        hcut ⟨s, b, hform, h⟩
      cases t with
      | nil => rfl
      | cons c t =>
        obtain ⟨first, others, hsplit, -⟩ := exists_isSplit sep (a ++ [c]) t
        rw [splitAfter_byteChars_keep hnone, ih t.length (by simp) (a ++ [c]) t rfl,
          splitAfter_keep hnone, hsplit, consHead, List.map_cons, List.map_cons, foldr_consHead,
          ← byteChars_cons]

/-- **The parts of the bytes of a text are the bytes of its parts**: no text is cut inside of a
character. -/
theorem splitTopLevel_byteChars (sep : Separator) (t : List Char) :
    splitTopLevel sep (byteChars t) = (splitTopLevel sep t).map byteChars :=
  splitAfter_byteChars sep [] t

/-- **Cutting loses nothing and leaves nothing to cut.** A text is cut into parts, at least one,
which make it up with the separators between them; every cut is outside of quotes and of brackets,
as counted from the start of the text; and no part is cut any further. It is the same byte by byte:
no cut is inside of a character, and in a text of less than 2^31 bytes the depth in brackets stays
among the numbers of 32 bits. -/
theorem splitTopLevel_lossless (sep : Separator) (text : String)
    (h : text.utf8ByteSize < 2 ^ 31) :
    (∃ first others, splitTopLevel sep text.toList = first :: others.map Prod.snd ∧
      text.toList = first ++ joinedParts others ∧ IsSplit sep [] first others) ∧
    (∀ p ∈ splitTopLevel sep text.toList, splitTopLevel sep p = [p]) ∧
    splitTopLevel sep (byteChars text.toList) = (splitTopLevel sep text.toList).map byteChars ∧
    ∀ u, u <+: byteChars text.toList → -2 ^ 31 ≤ bracketDepth u ∧ bracketDepth u < 2 ^ 31 := by
  obtain ⟨first, others, hsplit, hform, hparts⟩ := exists_isSplit sep [] text.toList
  rw [splitAfter_nil] at hsplit
  refine ⟨⟨first, others, hsplit, hform, hparts⟩, fun p hp => ?_,
    splitTopLevel_byteChars sep text.toList, fun u hu => ?_⟩
  · rw [splitTopLevel_eq_singleton_iff]
    rw [hsplit, List.mem_cons, List.mem_map] at hp
    rcases hp with rfl | ⟨⟨s, p⟩, hmem, rfl⟩
    · exact hparts.first_noCut.alone .nil
    · exact hparts.others_noCut hmem
  · have hdepth := natAbs_surplus_unquoted_le ['(', '['] [')', ']'] false u
    have hlength := hu.length_le
    rw [← bracketDepth] at hdepth
    rw [length_byteChars] at hlength
    omega

theorem splitTopLevel_lossless_accents :
    "kind = 'é or ü' OR (kind IN ('b', 'ö'))".utf8ByteSize < 2 ^ 31 ∧
    splitTopLevel .orWord "kind = 'é or ü' OR (kind IN ('b', 'ö'))".toList
      = ["kind = 'é or ü' ".toList, " (kind IN ('b', 'ö'))".toList] ∧
    ∀ p ∈ splitTopLevel .orWord "kind = 'é or ü' OR (kind IN ('b', 'ö'))".toList,
      splitTopLevel .orWord p = [p] :=
  ⟨by decide, by decide, (splitTopLevel_lossless .orWord _ (by decide)).2.1⟩

end ValidatorGen.Check
