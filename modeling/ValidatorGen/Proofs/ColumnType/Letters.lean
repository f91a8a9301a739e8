/-
What letters do to the name of a declared type. Changing letters, each into one or more, does not
change how a text is taken apart (`bareName_flatMap`), so it does not matter that this is done in
lower case. Lower case looks around each capital sigma, and what stands around it is a matter of
decoration; but no known name has a sigma, so that **either form of it is as good as the other**
(`mapName_oneSigma`), and a declared type may be put in lower case letter by letter
(`map_eq`).
-/
import Mathlib.Data.List.Find
import ValidatorGen.Proofs.ColumnType.Element
import ValidatorGen.Proofs.Text.Case

namespace ValidatorGen.ColumnType

open Text

variable {s t : List Char} {c d : Char} {f : Char → List Char}

/-! ## Marks -/

/-- A character that has a meaning of its own in a declared type. -/
def isMark (c : Char) : Bool := c == '"' || c == '(' || c == ')' || c == '.' || isBlank c

/-- Letters are replaced by letters, and marks stay. -/
structure KeepsMarks (f : Char → List Char) : Prop where
  mark : ∀ {c}, isMark c = true → f c = [c]
  ne_nil : ∀ c, f c ≠ []
  letter : ∀ {c d}, isMark d = true → d ∈ f c → c = d

namespace KeepsMarks

variable (h : KeepsMarks f)
include h

theorem not_mem (hd : isMark d = true) (hne : c ≠ d) : d ∉ f c := mt (h.letter hd) hne

theorem mem_flatMap (hd : isMark d = true) : d ∈ t.flatMap f ↔ d ∈ t := by
  refine ⟨fun hmem => ?_, fun hmem => List.mem_flatMap.mpr ⟨d, hmem, by simp [h.mark hd]⟩⟩
  obtain ⟨c, hc, hcd⟩ := List.mem_flatMap.mp hmem
  exact h.letter hd hcd ▸ hc

theorem hasNoParens_letter (hopen : c ≠ '(') (hclose : c ≠ ')') : HasNoParens (f c) :=
  ⟨h.not_mem (by decide) hopen, h.not_mem (by decide) hclose⟩

theorem hasNoParens (ht : HasNoParens t) : HasNoParens (t.flatMap f) :=
  ht.imp (mt (h.mem_flatMap (by decide)).mp) (mt (h.mem_flatMap (by decide)).mp)

theorem balanced (ht : Balanced t) : Balanced (t.flatMap f) := by
  induction ht with
  | nil => exact .nil
  | other ho hc _ ih =>
    rw [List.flatMap_cons]
    exact (h.hasNoParens_letter ho hc).append_balanced ih
  | pair _ _ ihs iht =>
    rw [List.flatMap_cons, List.flatMap_append, List.flatMap_cons, h.mark (by decide),
      h.mark (by decide)]
    exact .pair ihs iht

theorem openAfter_flatMap (depth : Nat) (t : List Char) :
    openAfter depth (t.flatMap f) = openAfter depth t := by
  induction t generalizing depth with
  | nil => rfl
  | cons c t ih =>
    rw [List.flatMap_cons, openAfter_append, ih, openAfter]
    by_cases hopen : c = '('
    · subst hopen
      rw [h.mark (by decide)]
      rfl
    · by_cases hclose : c = ')'
      · subst hclose
        rw [h.mark (by decide)]
        rfl
      · rw [(h.hasNoParens_letter hopen hclose).openAfter, if_neg hopen, if_neg hclose]

theorem unquoted_flatMap (t : List Char) : unquoted (t.flatMap f) = (unquoted t).flatMap f := by
  induction t with
  | nil => rfl
  | cons c t ih =>
    rw [List.flatMap_cons, unquoted_append, ih]
    by_cases hc : c = '"'
    · subst hc
      rw [h.mark (by decide), unquoted_quote]
      rfl
    · rw [unquoted_of_not_mem (h.not_mem (by decide) hc), unquoted_cons hc, List.flatMap_cons]

theorem outsideParens_flatMap (depth : Nat) (t : List Char) :
    outsideParens depth (t.flatMap f) = (outsideParens depth t).flatMap f := by
  induction t generalizing depth with
  | nil => rfl
  | cons c t ih =>
    rw [List.flatMap_cons, outsideParens_append]
    by_cases hopen : c = '('
    · subst hopen
      simpa [h.mark (c := '(') (by decide), outsideParens, openAfter] using ih (depth + 1)
    · by_cases hclose : c = ')'
      · subst hclose
        simpa [h.mark (c := ')') (by decide), outsideParens, openAfter] using ih (depth - 1)
      · have hnone := h.hasNoParens_letter hopen hclose
        rw [hnone.outsideParens, hnone.openAfter, ih, outsideParens, if_neg hopen, if_neg hclose]
        by_cases hdepth : depth = 0
        · simp [hdepth]
        · simp [hdepth]

theorem afterLastDot_flatMap (t : List Char) :
    afterLastDot (t.flatMap f) = (afterLastDot t).flatMap f := by
  induction t with
  | nil => rfl
  | cons c t ih =>
    have hcons := afterLastDot_append [c] t
    rw [List.singleton_append] at hcons
    have hfirst : afterLastDot (f c) = (afterLastDot [c]).flatMap f := by
      by_cases hdot : c = '.'
      · subst hdot
        rw [h.mark (by decide)]
        rfl
      · rw [afterLastDot_of_not_mem (h.not_mem (by decide) hdot),
          afterLastDot_of_not_mem (by simpa using Ne.symm hdot), List.flatMap_singleton]
    rw [List.flatMap_cons, afterLastDot_append, hcons, ih, hfirst, if_congr
      (h.mem_flatMap (by decide)) rfl rfl]
    split
    · rfl
    · rw [List.flatMap_append]

theorem isBlank_of_mem (hc : isBlank c = false) : ∀ d ∈ f c, isBlank d = false := fun d hd => by
  by_contra hblank
  have hblank : isBlank d = true := by simpa using hblank
  have hmark : isMark d = true := by simp [isMark, hblank]
  rw [h.letter hmark hd, hblank] at hc
  exact Bool.noConfusion hc

theorem fields_flatMap (t : List Char) :
    fields isBlank (t.flatMap f) = (fields isBlank t).map (·.flatMap f) := by
  induction t with
  | nil => rfl
  | cons c t ih =>
    rw [List.flatMap_cons, fields]
    cases hc : isBlank c with
    | true =>
      rw [h.mark (by simp [isMark, hc]), List.singleton_append, fields, hc, if_pos rfl, ih]
      rfl
    | false =>
      obtain ⟨piece, pieces, hpieces⟩ := List.exists_cons_of_ne_nil (fields_ne_nil isBlank t)
      have hone : fields isBlank (f c) = [] ++ [f c] :=
        fields_of_all_not isBlank (h.isBlank_of_mem hc)
      rw [hpieces, List.map_cons] at ih
      rw [fields_append isBlank hone ih, if_neg Bool.false_ne_true, hpieces]
      rfl

theorem blankWords_flatMap (t : List Char) :
    blankWords (t.flatMap f) = (blankWords t).map (·.flatMap f) := by
  have hempty : ∀ w : List Char, w.flatMap f = [] ↔ w = [] := fun w => by
    cases w with
    | nil => simp
    | cons c w => simp [h.ne_nil c]
  rw [blankWords, h.fields_flatMap, List.filter_map, blankWords]
  refine congrArg _ (List.filter_congr fun w _ => ?_)
  simp [hempty]

theorem bareName_flatMap (t : List Char) : bareName (t.flatMap f) = (bareName t).flatMap f := by
  have hspace : f ' ' = [' '] := h.mark (by decide)
  have hjoin : ∀ ws : List (List Char), [' '].intercalate (ws.map (·.flatMap f))
      = ([' '].intercalate ws).flatMap f := fun ws => by
    induction ws with
    | nil => rfl
    | cons w ws ih =>
      cases ws with
      | nil => simp
      | cons v ws =>
        rw [List.map_cons, List.map_cons, List.intercalate_cons_cons, List.intercalate_cons_cons,
          ← List.map_cons, ih]
        simp [hspace]
  rw [bareName, nameWords, kept, h.unquoted_flatMap, h.outsideParens_flatMap,
    h.afterLastDot_flatMap, h.blankWords_flatMap, hjoin]
  rfl

end KeepsMarks

/-! ## Lower case, letter by letter -/

/-- The code points of the marks. -/
def markPoints : List Nat :=
  [0x9, 0xA, 0xB, 0xC, 0xD, 0x20, 0x22, 0x28, 0x29, 0x2E, 0x85, 0xA0, 0x1680, 0x2000, 0x2001,
    0x2002, 0x2003, 0x2004, 0x2005, 0x2006, 0x2007, 0x2008, 0x2009, 0x200A, 0x2028, 0x2029, 0x202F,
    0x205F, 0x3000]

theorem mem_markPoints (h : isMark c = true) : c.toNat ∈ markPoints := by
  simp only [isMark, isBlank, Bool.or_eq_true, Bool.and_eq_true, beq_iff_eq,
    decide_eq_true_eq] at h
  simp only [markPoints, List.mem_cons, List.not_mem_nil, or_false]
  rcases h with (((rfl | rfl) | rfl) | rfl) | h
  · decide
  · decide
  · decide
  · decide
  · omega

theorem avoids_mark (h : isMark d = true) :
    Avoids d.toNat CaseTable.lowerExpansions CaseTable.toLower := by
  have hall : ∀ k ∈ markPoints, (∀ row ∈ CaseTable.lowerExpansions, row.2 ≠ [] ∧ k ∉ row.2)
      ∧ ∀ row ∈ CaseTable.toLower, row.2.2.2 + (row.2.1 - row.1) < k ∨ k < row.2.2.2 := by
    decide +kernel
  exact ⟨(hall _ (mem_markPoints h)).1, (hall _ (mem_markPoints h)).2⟩

theorem lower_mark (h : isMark c = true) : lower c = [c] := by
  have hall : ∀ k ∈ markPoints, lower (Char.ofNat k) = [Char.ofNat k] := by decide +kernel
  simpa using hall _ (mem_markPoints h)

theorem eq_of_mem_lower (h : isMark d = true) (hmem : d ∈ lower c) : c = d := by
  cases hc : isAscii c with
  | true =>
    rw [lower_of_ascii hc, List.mem_singleton] at hmem
    have hall : isMark c.toLower = true → c = c.toLower :=
      forall_ascii (P := fun c => isMark c.toLower = true → c = c.toLower) (by decide +kernel) hc
    exact (hall (hmem ▸ h)).trans hmem.symm
  | false =>
    rw [lower_of_not_ascii hc] at hmem
    refine (avoids_mark h).eq_of_mem_beyondAscii (fun hzero => ?_) hmem
    exact absurd (hzero ▸ mem_markPoints h) (by decide)

/-- One form for both small sigmas. -/
def oneSigma (c : Char) : Char := if c = 'ς' then 'σ' else c

theorem oneSigma_eq_iff (hd : d ≠ 'σ') (hd' : d ≠ 'ς') : oneSigma c = d ↔ c = d := by
  unfold oneSigma
  split
  · next hc =>
    subst hc
    exact ⟨fun h => absurd h.symm hd, fun h => absurd h.symm hd'⟩
  · rfl

theorem oneSigma_mark (h : isMark d = true) : oneSigma c = d ↔ c = d := by
  refine oneSigma_eq_iff ?_ ?_ <;> rintro rfl <;> exact absurd h (by decide)

/-- The small letters of one character, with one form of sigma. -/
def lowered (c : Char) : List Char := (lower c).map oneSigma

theorem keepsMarks_oneSigma : KeepsMarks fun c => [oneSigma c] where
  mark h := congrArg (fun c => [c]) ((oneSigma_mark h).mpr rfl)
  ne_nil _ := List.cons_ne_nil _ _
  letter h hmem := (oneSigma_mark h).mp (List.mem_singleton.mp hmem).symm

theorem keepsMarks_lowered : KeepsMarks lowered where
  mark h := by rw [lowered, lower_mark h, List.map_singleton, (oneSigma_mark h).mpr rfl]
  ne_nil c := by simpa [lowered] using lower_ne_nil c
  letter h hmem := by
    obtain ⟨d, hd, heq⟩ := List.mem_map.mp hmem
    exact eq_of_mem_lower h ((oneSigma_mark h).mp heq ▸ hd)

/-- Up to the form of sigma, a text is put in lower case letter by letter. -/
theorem lowercase_oneSigma (t : List Char) : (lowercase t).map oneSigma = t.flatMap lowered := by
  have after : ∀ before, (lowercaseAfter before t).map oneSigma = t.flatMap lowered := by
    induction t with
    | nil => exact fun _ => rfl
    | cons c t ih =>
      intro before
      have hfirst : (if c == 'Σ' then [lowerSigma before t] else lower c).map oneSigma
          = lowered c := by
        split
        · next hc =>
          have hsigma : lowered 'Σ' = ['σ'] := by decide +kernel
          rw [beq_iff_eq.mp hc, hsigma, lowerSigma]
          split <;> rfl
        · rfl
      rw [lowercaseAfter, List.map_append, hfirst, ih, List.flatMap_cons]
  exact after []

theorem lowered_toLower (c : Char) : lowered c.toLower = lowered c := by
  cases hc : isAscii c with
  | true =>
    have htwice : c.toLower.toLower = c.toLower :=
      forall_ascii (P := fun c => c.toLower.toLower = c.toLower) (by decide) hc
    rw [lowered, lowered, lower_of_ascii hc, lower_of_ascii (isAscii_toLower hc), htwice]
  | false => rw [toLower_of_not_ascii hc]

theorem flatMap_lowered_asciiLowercase (t : List Char) :
    (asciiLowercase t).flatMap lowered = t.flatMap lowered := by
  rw [asciiLowercase, List.flatMap_map]
  exact List.flatMap_congr fun c _ => lowered_toLower c

theorem flatMap_lowered_of_fixed (h : ∀ c ∈ t, lowered c = [c]) : t.flatMap lowered = t := by
  rw [List.flatMap_congr h, List.flatMap_singleton']

theorem IsGap.flatMap_lowered (h : IsGap t) : t.flatMap lowered = t :=
  flatMap_lowered_of_fixed fun c hc => keepsMarks_lowered.mark (by simp [isMark, h c hc])

/-- The plain name of a declared type, with one form of sigma. -/
def lookupName (declared : List Char) : List Char := bareName (declared.flatMap lowered)

theorem plainName_oneSigma (declared : List Char) :
    (plainName declared).map oneSigma = lookupName declared := by
  obtain ⟨before, after, hsplit, hbefore, hafter⟩ := exists_append_stripWhile isBlank declared
  have hbefore : IsGap before := hbefore
  have hafter : IsGap after := hafter
  -- what is trimmed off are gaps, and no letter of theirs changes
  rw [plainName_eq, List.map_eq_flatMap, ← keepsMarks_oneSigma.bareName_flatMap,
    ← List.map_eq_flatMap, lowercase_oneSigma]
  conv_rhs => rw [lookupName, hsplit]
  rw [List.flatMap_append, List.flatMap_append, hbefore.flatMap_lowered, hafter.flatMap_lowered,
    ← List.append_assoc, bareName, bareName, nameWords_margins hbefore hafter]
  rfl

/-! ## Known names -/

/-- No small sigma is in the text. -/
def HasNoSigma (t : List Char) : Prop := 'σ' ∉ t ∧ 'ς' ∉ t

instance : DecidablePred HasNoSigma := fun t => inferInstanceAs (Decidable ('σ' ∉ t ∧ 'ς' ∉ t))

theorem map_oneSigma_eq_iff {w : List Char} (h : HasNoSigma w) : t.map oneSigma = w ↔ t = w := by
  induction w generalizing t with
  | nil => exact List.map_eq_nil_iff
  | cons d w ih =>
    obtain ⟨hsigma, hfinal⟩ := h
    rw [List.mem_cons, not_or] at hsigma hfinal
    cases t with
    | nil => simp
    | cons c t =>
      rw [List.map_cons, List.cons.injEq, List.cons.injEq,
        oneSigma_eq_iff (Ne.symm hsigma.1) (Ne.symm hfinal.1), ih ⟨hsigma.2, hfinal.2⟩]

theorem dropBrackets?_oneSigma (t : List Char) :
    dropBrackets? (t.map oneSigma) = (dropBrackets? t).map (·.map oneSigma) := by
  have hpair : ∀ {r : List Char}, r.map oneSigma = ['[', ']'] ↔ r = ['[', ']'] :=
    map_oneSigma_eq_iff (by decide)
  cases h : dropBrackets? t with
  | some s =>
    rw [dropBrackets?_eq_some_iff] at h
    rw [h, List.map_append, hpair.mpr rfl, Option.map_some, dropBrackets?_eq_some_iff]
  | none =>
    rw [Option.map_none, Option.eq_none_iff_forall_ne_some]
    intro s hs
    rw [dropBrackets?_eq_some_iff, List.map_eq_append_iff] at hs
    obtain ⟨r, pair, rfl, rfl, heq⟩ := hs
    rw [hpair.mp heq, dropBrackets?_eq_some_iff.mpr rfl] at h
    cases h

theorem trimEnd_oneSigma (t : List Char) : trimEnd (t.map oneSigma) = (trimEnd t).map oneSigma := by
  have hblank : (isBlank ∘ oneSigma) = isBlank := by
    funext c
    unfold Function.comp oneSigma
    split
    · next hc =>
      rw [hc]
      rfl
    · rfl
  rw [trimEnd, dropEndWhile, ← List.map_reverse, List.dropWhile_map, hblank, ← List.map_reverse]
  rfl

theorem dropDimensions_oneSigma (n : Nat) (t : List Char) :
    dropDimensions n (t.map oneSigma) = (dropDimensions n t).map oneSigma := by
  induction n generalizing t with
  | zero => rfl
  | succ n ih =>
    rw [dropDimensions, dropDimensions, dropBrackets?_oneSigma]
    cases dropBrackets? t with
    | none => rfl
    | some rest =>
      rw [← ih, ← trimEnd_oneSigma]
      rfl

theorem head?_oneSigma (t : List Char) :
    (t.map oneSigma).head? = some '_' ↔ t.head? = some '_' := by
  cases t with
  | nil => rfl
  | cons c t =>
    simp only [List.map_cons, List.head?_cons, Option.some_inj]
    exact oneSigma_eq_iff (by decide) (by decide)

theorem element_oneSigma (name : List Char) :
    element (name.map oneSigma) = ((element name).1.map oneSigma, (element name).2) := by
  by_cases h : name.head? = some '_'
  · obtain ⟨rest, rfl⟩ := List.head?_eq_some_iff.mp h
    rfl
  · rw [element_of_head h, element_of_head (mt (head?_oneSigma name).mp h), List.length_map,
      dropDimensions_oneSigma, dropBrackets?_oneSigma, Option.isSome_map,
      if_congr (map_oneSigma_eq_iff (by decide)) rfl rfl]
    split <;> rfl

theorem ofList_eq_iff {w : String} : String.ofList t = w ↔ t = w.toList :=
  ⟨fun h => by rw [← h, String.toList_ofList], fun h => by rw [h, String.ofList_toList]⟩

theorem contains_oneSigma {names : List String} (h : ∀ w ∈ names, HasNoSigma w.toList)
    (t : List Char) :
    names.contains (String.ofList (t.map oneSigma)) = names.contains (String.ofList t) := by
  rw [Bool.eq_iff_iff, List.contains_iff_mem, List.contains_iff_mem]
  have hname : ∀ w ∈ names, (String.ofList (t.map oneSigma) = w ↔ String.ofList t = w) :=
    fun w hw => by rw [ofList_eq_iff, ofList_eq_iff, map_oneSigma_eq_iff (h w hw)]
  exact ⟨fun hmem => (hname _ hmem).mp rfl ▸ hmem, fun hmem => (hname _ hmem).mpr rfl ▸ hmem⟩

/-- **Either small sigma is as good as the other.** -/
theorem mapName_oneSigma (fallback : Option TypeFallback) (name : List Char) :
    mapName fallback (name.map oneSigma) = mapName fallback name := by
  have hserial : ∀ w ∈ serialNames, HasNoSigma w.toList := by decide +kernel
  have hknown : ∀ row ∈ knownNames, ∀ w ∈ row.1, HasNoSigma w.toList := by decide +kernel
  have hlookup : ∀ t : List Char, semanticType? (String.ofList (t.map oneSigma))
      = semanticType? (String.ofList t) := fun t => by
    unfold semanticType?
    rw [List.find?_congr fun row hrow => contains_oneSigma (hknown row hrow) t]
  simp only [mapName, element_oneSigma, hlookup, contains_oneSigma hserial]

/-- **A declared type may be put in lower case letter by letter.** -/
theorem map_eq (declared : String) (fallback : Option TypeFallback) :
    map declared fallback = mapName fallback (lookupName declared.toList) := by
  rw [map, ← mapName_oneSigma, plainName_oneSigma]

end ValidatorGen.ColumnType
