/-
What taking names out of their parentheses does to a text, whatever the text. One name is taken
out where it stands alone in a pair, enclosed or bare, with no name character before the pair
(`TakesOut`). A pass takes out names one after another (`takesOut_unwrapPass`), and it leaves a
text as it is just if there is no name to take out (`unwrapPass_eq_self_iff`); otherwise the text
gets shorter. All that a text loses in this way are parentheses and white space next to them
(`sheds_of_takesOut`).
-/
import Mathlib.Logic.Relation
import ValidatorGen.Proofs.Check.Passes

namespace ValidatorGen.Check

open Text

/-! ## Names alone in a pair -/

/-- A name: between marks, with something in it, or bare. -/
inductive IsName : List Char → Prop
  | enclosed {opening closing : Char} {body : List Char} : closingMark? opening = some closing →
    body ≠ [] → closing ∉ body → IsName (opening :: (body ++ [closing]))
  | bare {c : Char} {rest : List Char} : isNameStart c = true →
    (∀ d ∈ rest, isNameChar d = true) → IsName (c :: rest)

/-- `u` is `t` with one name taken out of the pair of parentheses that it stands in, alone but
for white space. A pair right after a name character is that of a call and stays. -/
def TakesOut (t u : List Char) : Prop :=
  ∃ a s name s' b, t = a ++ '(' :: (s ++ (name ++ (s' ++ ')' :: b))) ∧ u = a ++ (name ++ b)
    ∧ (∀ c, a.getLast? = some c → isNameChar c = false) ∧ (∀ c ∈ s, isBlank c = true)
    ∧ IsName name ∧ ∀ c ∈ s', isBlank c = true

theorem isNameChar_of_isBlank {c : Char} (h : isBlank c = true) : isNameChar c = false := by
  have hall : ∀ n ∈ blankPoints, isNameChar (Char.ofNat n) = false := by decide +kernel
  have hc := hall c.toNat (mem_blankPoints h)
  rwa [Char.ofNat_toNat] at hc

theorem closingMark?_of_isNameStart {c : Char} (h : isNameStart c = true) :
    closingMark? c = none := by
  have hc := nameCharFacts (isIdentifierChar_of_isNameStart h)
  rw [closingMark?, if_neg (hc.ne (by decide)), if_neg (hc.ne (by decide)),
    if_neg (hc.ne (by decide))]

theorem isBlank_of_closingMark? {c d : Char} (h : closingMark? c = some d) :
    isBlank c = false := by
  unfold closingMark? at h
  split at h
  · next hc => subst hc; rfl
  split at h
  · next hc => subst hc; rfl
  split at h
  · next hc => subst hc; rfl
  · cases h

theorem IsName.head {name : List Char} (h : IsName name) :
    ∃ c rest, name = c :: rest ∧ isBlank c = false := by
  cases h with
  | enclosed hmark => exact ⟨_, _, rfl, isBlank_of_closingMark? hmark⟩
  | bare hc => exact ⟨_, _, rfl, (nameCharFacts (isIdentifierChar_of_isNameStart hc)).blank⟩

/-- What is scanned as a name is a name. -/
theorem isName_of_scanName? {t name rest : List Char}
    (h : scanName? isNameStart t = some (name, rest)) : IsName name := by
  cases t with
  | nil => cases h
  | cons c t =>
    rw [scanName?_cons] at h
    cases hmark : closingMark? c with
    | some closing =>
      rw [hmark] at h
      obtain ⟨body, hne, hbody, rfl, -⟩ := exists_of_scanQuotedName? h
      exact .enclosed hmark hne hbody
    | none =>
      rw [hmark] at h
      obtain ⟨hc, h⟩ := Option.ite_none_right_eq_some.mp h
      obtain ⟨rfl, -⟩ := Prod.mk.inj (Option.some.inj h)
      exact .bare hc fun d hd => List.all_eq_true.mp List.all_takeWhile d hd

/-- A name is scanned whole before a character that it cannot go on with. -/
theorem IsName.scanName?_append {name : List Char} (h : IsName name) {rest : List Char}
    (hr : ∀ c, rest.head? = some c → isNameChar c = false) :
    scanName? isNameStart (name ++ rest) = some (name, rest) := by
  cases h with
  | enclosed hmark hne hbody =>
    rw [List.cons_append, scanName?_cons, hmark, List.append_assoc]
    exact scanQuotedName?_of_not_mem _ hne hbody rest
  | bare hc hall =>
    rw [List.cons_append, scanName?_cons, closingMark?_of_isNameStart hc]
    dsimp only
    rw [if_pos hc, takeWhile_append_of_stop hall hr, dropWhile_append_of_stop hall hr]

theorem wrappedName?_iff {t name after : List Char} :
    wrappedName? t = some (name, after) ↔
      ∃ s s', t = '(' :: (s ++ (name ++ (s' ++ ')' :: after))) ∧ (∀ c ∈ s, isBlank c = true)
        ∧ IsName name ∧ ∀ c ∈ s', isBlank c = true := by
  rw [wrappedName?_eq_some]
  constructor
  · rintro ⟨text, rest, rfl, hscan, hclose⟩
    refine ⟨text.takeWhile isBlank, rest.takeWhile isBlank, ?_,
      fun c hc => List.all_eq_true.mp List.all_takeWhile c hc, isName_of_scanName? hscan,
      fun c hc => List.all_eq_true.mp List.all_takeWhile c hc⟩
    rw [← hclose, trimStart, List.takeWhile_append_dropWhile, ← scanName?_eq_append hscan,
      trimStart, List.takeWhile_append_dropWhile]
  · rintro ⟨s, s', rfl, hs, hname, hs'⟩
    have hclose : ∀ c, (')' :: after).head? = some c → isBlank c = false := by
      intro c hc
      obtain rfl : ')' = c := Option.some.inj hc
      rfl
    have hstart : trimStart (s ++ (name ++ (s' ++ ')' :: after)))
        = name ++ (s' ++ ')' :: after) := by
      refine dropWhile_append_of_stop hs fun c hc => ?_
      obtain ⟨d, rest, rfl, hd⟩ := hname.head
      obtain rfl : d = c := Option.some.inj hc
      exact hd
    have hends : ∀ c, (s' ++ ')' :: after).head? = some c → isNameChar c = false := by
      intro c hc
      cases s' with
      | nil =>
        obtain rfl : ')' = c := Option.some.inj hc
        rfl
      | cons d s' =>
        obtain rfl : d = c := Option.some.inj hc
        exact isNameChar_of_isBlank (hs' d List.mem_cons_self)
    refine ⟨_, _, rfl, ?_, dropWhile_append_of_stop hs' hclose⟩
    rw [hstart]
    exact hname.scanName?_append hends

/-! ## One pass -/

/-- After a name that is taken out a pass goes on behind its pair. -/
theorem unwrapFrom_after {c : Char} {t name after : List Char}
    (h : wrappedName? (c :: t) = some (name, after)) :
    unwrapFrom false (t.length - after.length) t = unwrapFrom false 0 after := by
  obtain ⟨s, s', htext, -, -, -⟩ := wrappedName?_iff.mp h
  have hform : t = (s ++ (name ++ (s' ++ [')']))) ++ after := by
    rw [(List.cons.inj htext).2]
    simp
  rw [hform, List.length_append, Nat.add_sub_cancel]
  exact unwrapFrom_skip false _ after (by simp)

/-- From a place on a pass takes out one name after another, the first right there only if no name
character comes before. -/
theorem takesOut_unwrapFrom {atStart : Bool} {a : List Char} (t : List Char)
    (h : atStart = true → ∀ c, a.getLast? = some c → isNameChar c = false) :
    Relation.ReflTransGen TakesOut (a ++ t) (a ++ unwrapFrom atStart 0 t) := by
  induction hlen : t.length using Nat.strongRecOn generalizing atStart a t with
  | ind n ih =>
    subst hlen
    cases t with
    | nil => exact .refl
    | cons c t =>
      rw [unwrapFrom_cons]
      split
      next name after hfound =>
        obtain ⟨hstart, hname⟩ := Option.ite_none_right_eq_some.mp hfound
        obtain ⟨s, s', htext, hs, hisName, hs'⟩ := wrappedName?_iff.mp hname
        have hshort : after.length < (c :: t).length :=
          Nat.lt_succ_of_le (drop_of_wrappedName? hname).1
        have hrest : Relation.ReflTransGen TakesOut ((a ++ name) ++ after)
            ((a ++ name) ++ unwrapFrom false 0 after) :=
          ih after.length hshort after (absurd · Bool.false_ne_true) rfl
        rw [unwrapFrom_after hname]
        refine .head ⟨a, s, name, s', after, by rw [htext], rfl, h hstart, hs, hisName, hs'⟩ ?_
        simpa only [List.append_assoc] using hrest
      · have hlast : (!isNameChar c) = true →
            ∀ d, (a ++ [c]).getLast? = some d → isNameChar d = false := by
          intro hc d hd
          rw [List.getLast?_concat, Option.some.injEq] at hd
          subst hd
          simpa using hc
        have hrest := ih t.length (by simp) t hlast rfl
        simpa only [List.append_assoc, List.singleton_append] using hrest

theorem takesOut_unwrapPass (t : List Char) : Relation.ReflTransGen TakesOut t (unwrapPass t) :=
  takesOut_unwrapFrom (a := []) t fun _ _ hc => nomatch hc

/-- A pass that changes nothing has found no name in parentheses, neither at the start nor after a
character that is no name character. -/
theorem wrappedName?_of_unwrapFrom_eq_self {atStart : Bool} {t : List Char}
    (h : unwrapFrom atStart 0 t = t) :
    (atStart = true → wrappedName? t = none) ∧
      ∀ a c rest, t = a ++ c :: rest → isNameChar c = false → wrappedName? rest = none := by
  induction t generalizing atStart with
  | nil => exact ⟨fun _ => rfl, fun a c rest hnil => absurd hnil (by simp)⟩
  | cons d t ih =>
    rw [unwrapFrom_cons] at h
    split at h
    next name after hfound =>
      have hname := (Option.ite_none_right_eq_some.mp hfound).2
      have hleft := unwrapFrom_sublist false (t.length - after.length) t
      rw [(drop_of_wrappedName? hname).2] at hleft
      have hle := (sublist_of_wrappedName? hname hleft).length_le
      rw [h, List.tail_cons, List.length_cons] at hle
      omega
    next hnone =>
      obtain ⟨hfirst, hlater⟩ := ih (List.cons.inj h).2
      refine ⟨fun hstart => by simpa [hstart] using hnone, fun a c rest hform hc => ?_⟩
      cases a with
      | nil =>
        obtain ⟨rfl, rfl⟩ := List.cons.inj hform
        exact hfirst (by simp [hc])
      | cons e a => exact hlater a c rest (List.cons.inj hform).2 hc

/-- **A pass leaves a text as it is just if there is no name to take out.** -/
theorem unwrapPass_eq_self_iff {t : List Char} : unwrapPass t = t ↔ ∀ u, ¬ TakesOut t u := by
  constructor
  · rintro h u ⟨a, s, name, s', b, rfl, -, hborder, hs, hname, hs'⟩
    have hfound : wrappedName? ('(' :: (s ++ (name ++ (s' ++ ')' :: b)))) = some (name, b) :=
      wrappedName?_iff.mpr ⟨s, s', rfl, hs, hname, hs'⟩
    obtain ⟨hfirst, hlater⟩ := wrappedName?_of_unwrapFrom_eq_self h
    rcases List.eq_nil_or_concat a with rfl | ⟨a, c, rfl⟩
    · rw [List.nil_append] at hfirst
      rw [hfirst rfl] at hfound
      cases hfound
    · have hc : isNameChar c = false := hborder c (by simp)
      rw [hlater a c _ (by simp) hc] at hfound
      cases hfound
  · intro h
    rcases (takesOut_unwrapPass t).cases_head with heq | ⟨u, hu, -⟩
    · exact heq.symm
    · exact absurd hu (h u)

theorem length_unwrapPass_lt {t : List Char} (h : unwrapPass t ≠ t) :
    (unwrapPass t).length < t.length :=
  Nat.lt_of_le_of_ne (unwrapPass_sublist t).length_le fun hlen =>
    h ((unwrapPass_sublist t).eq_of_length hlen)

theorem takesOut_unwrapNames (t : List Char) :
    Relation.ReflTransGen TakesOut t (unwrapNames t) :=
  settle_induct (P := Relation.ReflTransGen TakesOut t)
    (fun u hu => hu.trans (takesOut_unwrapPass u)) _ .refl

/-! ## What is lost -/

/-- Parentheses, at least one, and white space next to them. -/
structure IsPadding (s : List Char) : Prop where
  all : ∀ c ∈ s, isBlank c = true ∨ c = '(' ∨ c = ')'
  paren : '(' ∈ s ∨ ')' ∈ s

/-- `u` is `t` without some padding. -/
inductive Sheds : List Char → List Char → Prop
  | nil : Sheds [] []
  | keep (c : Char) {t u : List Char} : Sheds t u → Sheds (c :: t) (c :: u)
  | shed {s t u : List Char} : IsPadding s → Sheds t u → Sheds (s ++ t) u

theorem Sheds.refl (t : List Char) : Sheds t t := by
  induction t with
  | nil => exact .nil
  | cons c t ih => exact .keep c ih

theorem isPadding_open {s : List Char} (hs : ∀ c ∈ s, isBlank c = true) : IsPadding ('(' :: s) where
  all c hc := (List.mem_cons.mp hc).elim (fun h => .inr (.inl h)) fun h => .inl (hs c h)
  paren := .inl List.mem_cons_self

theorem isPadding_close {s : List Char} (hs : ∀ c ∈ s, isBlank c = true) :
    IsPadding (s ++ [')']) where
  all c hc := (List.mem_append.mp hc).elim (fun h => .inl (hs c h))
    fun h => .inr (.inr (List.mem_singleton.mp h))
  paren := .inr (by simp)

/-- Padding in the middle of padding makes it longer. -/
theorem IsPadding.insert {x s y : List Char} (hs : IsPadding s) (h : IsPadding (x ++ y)) :
    IsPadding (x ++ (s ++ y)) where
  all c hc := by
    simp only [List.mem_append] at hc
    rcases hc with hc | hc | hc
    · exact h.all c (List.mem_append_left y hc)
    · exact hs.all c hc
    · exact h.all c (List.mem_append_right x hc)
  paren := hs.paren.imp (by simp +contextual) (by simp +contextual)

/-- Padding may stand anywhere, also in the middle of other padding. -/
theorem Sheds.insert {x y u s : List Char} (hs : IsPadding s) (h : Sheds (x ++ y) u) :
    Sheds (x ++ (s ++ y)) u := by
  generalize hform : x ++ y = t at h
  induction h generalizing x with
  | nil =>
    obtain ⟨rfl, rfl⟩ := List.append_eq_nil_iff.mp hform
    exact .shed (s := s) hs .nil
  | keep c h ih =>
    cases x with
    | nil =>
      obtain rfl : y = c :: _ := hform
      exact .shed (s := s) hs (.keep c h)
    | cons d x =>
      obtain ⟨rfl, htail⟩ := List.cons.inj hform
      exact .keep d (ih htail)
  | @shed p t u hp h ih =>
    rcases List.append_eq_append_iff.mp hform with ⟨m, rfl, rfl⟩ | ⟨m, rfl, rfl⟩
    · simpa only [List.append_assoc] using Sheds.shed (hs.insert hp) h
    · rw [List.append_assoc]
      exact .shed hp (ih rfl)

/-- **All that a text loses are parentheses and white space next to them.** -/
theorem sheds_of_takesOut {t u : List Char} (h : Relation.ReflTransGen TakesOut t u) :
    Sheds t u := by
  induction h using Relation.ReflTransGen.head_induction_on with
  | refl => exact .refl u
  | head hstep _ ih =>
    obtain ⟨a, s, name, s', b, rfl, rfl, -, hs, -, hs'⟩ := hstep
    have hclose : Sheds (a ++ (name ++ (s' ++ ')' :: b))) u := by
      have hpad := Sheds.insert (x := a ++ name) (y := b) (isPadding_close hs')
        (by rwa [List.append_assoc])
      simpa only [List.append_assoc, List.singleton_append] using hpad
    exact Sheds.insert (x := a) (isPadding_open hs) hclose

end ValidatorGen.Check
