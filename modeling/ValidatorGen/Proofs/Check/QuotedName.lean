/-
Names between double quotes, for which neither pass over a clause looks. Either a pass leaves
such a name as it is, just as it leaves the name by itself, or some of the name is lost
(`keepsOrLoses_dropCasts`, `keepsOrLoses_unwrapFrom`).
-/
import ValidatorGen.Proofs.Check.Passes

namespace ValidatorGen.Check

open Text

/-- A name that can stand between quotes of any kind. -/
structure Quotable (name : List Char) : Prop where
  ne_nil : name ≠ []
  tight : Tight name
  quote : quote ∉ name
  mark : ∀ c ∈ name, isNameQuote c = false

theorem quotable_iff {name : List Char} : Quotable name ↔
    name.head?.any (fun c => !isBlank c) = true ∧ name.getLast?.any (fun c => !isBlank c) = true
      ∧ name.all (fun c => c != quote && !isNameQuote c) = true := by
  constructor
  · intro h
    have hhead := h.tight.head _ (List.head?_eq_some_head h.ne_nil)
    have hlast := h.tight.last _ (List.getLast?_eq_some_getLast h.ne_nil)
    refine ⟨?_, ?_, List.all_eq_true.mpr fun c hc => ?_⟩
    · simp [List.head?_eq_some_head h.ne_nil, hhead]
    · simp [List.getLast?_eq_some_getLast h.ne_nil, hlast]
    · have hne : c ≠ quote := fun heq => h.quote (heq ▸ hc)
      simp [hne, h.mark c hc]
  · rintro ⟨hhead, hlast, hall⟩
    rw [Option.any_eq_true] at hhead hlast
    obtain ⟨a, ha, hblank⟩ := hhead
    obtain ⟨b, hb, hblank'⟩ := hlast
    constructor
    case ne_nil =>
      rintro rfl
      cases ha
    case tight =>
      constructor
      · intro c hc
        obtain rfl := Option.some.inj (ha.symm.trans hc)
        simpa using hblank
      · intro c hc
        obtain rfl := Option.some.inj (hb.symm.trans hc)
        simpa using hblank'
    case quote =>
      intro hmem
      simpa using List.all_eq_true.mp hall quote hmem
    case mark =>
      intro c hc
      have h := List.all_eq_true.mp hall c hc
      rw [Bool.and_eq_true, Bool.not_eq_true'] at h
      exact h.2

-- by `List.all`, since `∀ c ∈ name` may be decided over all characters there are
instance (name : List Char) : Decidable (Quotable name) := decidable_of_iff _ quotable_iff.symm

/-- Of `name` either nothing is changed, and no more before `rest`, or some of it is lost, and
more than that before `rest`. -/
def KeepsOrLoses (f : List Char → List Char) (name rest : List Char) : Prop :=
  (f name = name ∧ f (name ++ rest) = name ++ rest)
  ∨ (f name ≠ name ∧ ∃ left, left.Sublist name ∧ left.length < name.length
    ∧ (f (name ++ rest)).Sublist (left ++ rest))

/-- A name is kept or loses some as it did without its first character, if that one stays. -/
theorem KeepsOrLoses.cons {f g : List Char → List Char} {c : Char} {name rest : List Char}
    (h : KeepsOrLoses g name rest) (hone : f (c :: name) = c :: g name)
    (hboth : f (c :: name ++ rest) = c :: g (name ++ rest)) : KeepsOrLoses f (c :: name) rest := by
  rcases h with ⟨hkeep, hall⟩ | ⟨hlose, left, hsub, hlen, hall⟩
  · exact .inl ⟨by rw [hone, hkeep], by rw [hboth, hall]; rfl⟩
  · refine .inr ⟨fun heq => hlose ?_, c :: left, hsub.cons_cons c, by simpa using hlen, ?_⟩
    · rw [hone] at heq
      exact (List.cons.inj heq).2
    · rw [hboth]
      exact hall.cons_cons c

/-! ## Casts -/

/-- A double quote and a blank do not go on with a cast, nor start one. -/
theorem beginsCast_append {u : List Char} (hu : '"' ∉ u) (t : List Char) :
    beginsCast (u ++ '"' :: ' ' :: t) = beginsCast u := by
  match u with
  | [] => rfl
  | [c] => simp [beginsCast]
  | c :: d :: w =>
    have hw : '"' ∉ trimStart w := fun hmem =>
      hu (by simp [(List.dropWhile_suffix isBlank).subset hmem])
    have hbegin : beginsTypeName (trimStart (w ++ '"' :: ' ' :: t))
        = beginsTypeName (trimStart w) := by
      cases hs : trimStart w with
      | nil =>
        have hblank : trimStart (w ++ '"' :: ' ' :: t) = '"' :: ' ' :: t := by
          rw [trimStart_append_of_nil hs, trimStart_cons_of_not rfl]
        have hmark : isFoldedNameStart '"' = false ∧ isFoldedNameStart ' ' = false := by
          decide +kernel
        simp [hblank, beginsTypeName, hmark.1, hmark.2]
      | cons e w' =>
        have hne : e ≠ '"' := fun he => hw (by simp [hs, he])
        rw [trimStart_append (by simp [hs]), hs, List.cons_append, beginsTypeName, beginsTypeName,
          beq_eq_false_iff_ne.mpr hne, Bool.false_and, Bool.false_and]
    simp [beginsCast, hbegin]

theorem dropCasts_cons_sublist {c : Char} {t : List Char} (h : beginsCast (c :: t) = true) :
    (dropCasts (c :: t)).Sublist t := by
  rw [← isSome_stripCast?] at h
  obtain ⟨after, hafter⟩ := Option.isSome_iff_exists.mp h
  rw [dropCasts, dropCastsFrom, hafter]
  exact dropCastsFrom_sublist _ t

theorem dropCasts_cons_of_not {c : Char} {t : List Char} (h : beginsCast (c :: t) = false) :
    dropCasts (c :: t) = c :: dropCasts t := by
  rw [← isSome_stripCast?, Option.isSome_eq_false_iff, Option.isNone_iff_eq_none] at h
  rw [dropCasts, dropCastsFrom, h]
  rfl

theorem keepsOrLoses_dropCasts {name rest : List Char} (hn : '"' ∉ name) (hr : ':' ∉ rest) :
    KeepsOrLoses dropCasts name ('"' :: ' ' :: rest) := by
  induction name with
  | nil =>
    have hcolon : ':' ∉ '"' :: ' ' :: rest := by simp [hr]
    exact .inl ⟨rfl, by simpa using dropCasts_append hcolon []⟩
  | cons c name ih =>
    have hcast := beginsCast_append hn rest
    cases hc : beginsCast (c :: name) with
    | true =>
      rw [hc] at hcast
      refine .inr ⟨fun heq => ?_, name, List.sublist_cons_self c name, by simp,
        dropCasts_cons_sublist hcast⟩
      have hle := (dropCasts_cons_sublist hc).length_le
      rw [heq, List.length_cons] at hle
      omega
    | false =>
      rw [hc] at hcast
      have hboth : dropCasts (c :: name ++ '"' :: ' ' :: rest)
          = c :: dropCasts (name ++ '"' :: ' ' :: rest) := dropCasts_cons_of_not hcast
      exact (ih fun hmem => hn (List.mem_cons_of_mem c hmem)).cons (dropCasts_cons_of_not hc) hboth

/-! ## Names in parentheses -/

theorem keepsOrLoses_unwrapFrom {name rest : List Char} (hr : ')' ∉ rest) (atStart : Bool) :
    KeepsOrLoses (unwrapFrom atStart 0) name rest := by
  induction name generalizing atStart with
  | nil =>
    have hcalm : Calm rest := ⟨[], rest, rfl, by simp, hr⟩
    exact .inl ⟨rfl, unwrapFrom_of_calm hcalm atStart⟩
  | cons c name ih =>
    cases hw : (if atStart = true then wrappedName? (c :: name) else none) with
    | some found =>
      obtain ⟨inner, after⟩ := found
      obtain ⟨rfl, hname⟩ := Option.ite_none_right_eq_some.mp hw
      have hboth := wrappedName?_append hname rest
      have hsub := sublist_of_wrappedName? hname (List.Sublist.refl after)
      have hall : ∀ {t after : List Char}, wrappedName? (c :: t) = some (inner, after) →
          (unwrapFrom true 0 (c :: t)).Sublist (inner ++ after) := by
        intro t after hname
        have hleft := unwrapFrom_sublist false (t.length - after.length) t
        rw [(drop_of_wrappedName? hname).2] at hleft
        rw [unwrapFrom_cons, if_pos rfl, hname]
        exact hleft.append_left inner
      refine .inr ⟨fun heq => ?_, inner ++ after, hsub.cons c, ?_, ?_⟩
      · have hle := ((hall hname).trans hsub).length_le
        rw [heq, List.tail_cons, List.length_cons] at hle
        omega
      · exact Nat.lt_succ_of_le hsub.length_le
      · rw [List.append_assoc]
        exact hall hboth
    | none =>
      have hnone : (if atStart = true then wrappedName? (c :: name ++ rest) else none) = none := by
        cases atStart with
        | false => rfl
        | true => exact wrappedName?_append_eq_none hr hw
      have hone : unwrapFrom atStart 0 (c :: name) = c :: unwrapFrom (!isNameChar c) 0 name := by
        rw [unwrapFrom_cons, hw]
      have hboth : unwrapFrom atStart 0 (c :: name ++ rest)
          = c :: unwrapFrom (!isNameChar c) 0 (name ++ rest) := by
        rw [List.cons_append] at hnone ⊢
        rw [unwrapFrom_cons, hnone]
      exact (ih (!isNameChar c)).cons hone hboth

/-! ## What comes before the name -/

/-- After a character that a text has only once, there is no more than comes after it there. -/
theorem sublist_of_cons_sublist {α : Type} {d : α} {n s y : List α} (hn : d ∉ n)
    (h : (d :: y).Sublist (n ++ d :: s)) : y.Sublist s := by
  induction n with
  | nil => exact List.cons_sublist_cons.mp h
  | cons e n ih =>
    simp only [List.mem_cons, not_or] at hn
    exact ih hn.2 (h.of_cons_of_ne hn.1)

/-- Before a character that a text has only once, there is no more than comes before it there. -/
theorem sublist_of_sublist_concat {α : Type} {d : α} {n s y : List α} (hs : d ∉ s)
    (h : (y ++ [d]).Sublist (n ++ d :: s)) : y.Sublist n := by
  have hrev : (d :: y.reverse).Sublist (s.reverse ++ d :: n.reverse) := by
    simpa using List.reverse_sublist.mpr h
  exact List.reverse_sublist.mp (sublist_of_cons_sublist (by simpa using hs) hrev)

/-- A text without a character ends before the character. -/
theorem prefix_of_append_cons {α : Type} {d : α} {u z x y : List α} (hd : d ∉ u)
    (h : u ++ z = x ++ d :: y) : u <+: x := by
  obtain ⟨m, rfl, -⟩ | ⟨m, rfl, hy⟩ := List.append_eq_append_iff.mp h
  · exact List.prefix_append u m
  · cases m with
    | nil => simp
    | cons e m =>
      obtain ⟨rfl, -⟩ := List.cons.inj hy
      exact absurd (by simp) hd

/-- A name that is enclosed is in no parentheses if none closes after a double quote. -/
theorem wrappedName?_mark {t : List Char} (h : ¬ ['"', ')'].Sublist t) :
    wrappedName? ('(' :: '"' :: t) = none := by
  refine Option.eq_none_iff_forall_ne_some.mpr fun (name, after) hsome => h ?_
  obtain ⟨text, rest, htext, hscan, hclose⟩ := wrappedName?_eq_some.mp hsome
  obtain rfl := (List.cons.inj htext).2
  rw [trimStart_cons_of_not rfl] at hscan
  obtain ⟨body, -, -, -, rfl⟩ := exists_of_scanQuotedName? (hscan : scanQuotedName? '"' '"' t = _)
  have hmem : ')' ∈ rest :=
    (List.dropWhile_suffix isBlank).subset (by rw [← trimStart, hclose]; simp)
  exact ((List.singleton_sublist.mpr hmem).cons_cons '"').trans (List.sublist_append_right body _)

/-- What comes before an enclosed name, and opens parentheses at its end, is kept by a pass. -/
theorem unwrapFrom_before {s t : List Char} (hs : '(' ∉ s) (ht : ¬ ['"', ')'].Sublist t) (m : Nat)
    (atStart : Bool) : unwrapFrom atStart 0 (s ++ (List.replicate m '(' ++ '"' :: t))
      = s ++ (List.replicate m '(' ++ '"' :: unwrapFrom true 0 t) := by
  have keep : ∀ {c : Char} {u : List Char} (atStart : Bool), wrappedName? (c :: u) = none →
      unwrapFrom atStart 0 (c :: u) = c :: unwrapFrom (!isNameChar c) 0 u := by
    intro c u atStart hnone
    have hstart : (if atStart = true then wrappedName? (c :: u) else none) = none := by
      simp [hnone]
    rw [unwrapFrom_cons, hstart]
  have opens : ∀ atStart, unwrapFrom atStart 0 (List.replicate m '(' ++ '"' :: t)
      = List.replicate m '(' ++ '"' :: unwrapFrom true 0 t := by
    induction m with
    | zero => exact fun atStart => keep atStart (wrappedName?_of_head (by simp))
    | succ m ih =>
      intro atStart
      have hnone : wrappedName? ('(' :: (List.replicate m '(' ++ '"' :: t)) = none := by
        cases m with
        | zero => exact wrappedName?_mark ht
        | succ m => exact wrappedName?_open_open _
      rw [List.replicate_succ, List.cons_append, keep atStart hnone, ih, List.cons_append]
  induction s generalizing atStart with
  | nil => exact opens atStart
  | cons c s ih =>
    simp only [List.mem_cons, not_or] at hs
    have hnone : wrappedName? (c :: (s ++ (List.replicate m '(' ++ '"' :: t))) = none :=
      wrappedName?_of_head (by simpa using Ne.symm hs.1)
    rw [List.cons_append, keep atStart hnone, ih hs.2, List.cons_append]

theorem unwrapNames_of_unwrapPass {t : List Char} (h : unwrapPass t = t) : unwrapNames t = t :=
  settle_of_iterate (k := 0) rfl h (Nat.zero_le _)

/-- A pass that changes a text is followed by others. -/
theorem exists_settle_of_unwrapPass {t : List Char} (h : unwrapPass t ≠ t) :
    ∃ n, unwrapNames t = settle unwrapPass n (unwrapPass t) := by
  cases hlen : t.length with
  | zero =>
    rw [List.length_eq_zero_iff.mp hlen] at h
    exact absurd rfl h
  | succ n => exact ⟨n, by rw [unwrapNames, hlen, settle, if_neg h]⟩

/-- A text that a pass changes is changed by all of them. -/
theorem unwrapPass_of_unwrapNames {t : List Char} (h : unwrapNames t = t) : unwrapPass t = t := by
  by_contra hne
  obtain ⟨n, hn⟩ := exists_settle_of_unwrapPass hne
  have hsub : (settle unwrapPass n (unwrapPass t)).Sublist (unwrapPass t) :=
    settle_induct (P := (List.Sublist · (unwrapPass t)))
      (fun u hu => (unwrapPass_sublist u).trans hu) n (List.Sublist.refl _)
  rw [← hn, h] at hsub
  exact hne ((unwrapPass_sublist t).antisymm hsub)

section

variable {left s t : List Char}

/-- A pass over what is left of a clause up to its first literal keeps the start of the column. -/
theorem unwrapPass_mark (hn : '"' ∉ left) (hp : ')' ∉ s)
    (h : t.Sublist (left ++ '"' :: ' ' :: s)) :
    unwrapPass ('(' :: '"' :: t) = '(' :: '"' :: unwrapFrom true 0 t := by
  have hclosed : ¬ ['"', ')'].Sublist t := by
    intro hmark
    have hrest := sublist_of_cons_sublist hn (hmark.trans h)
    simpa [hp] using hrest.subset List.mem_cons_self
  exact unwrapFrom_before (s := []) (by simp) hclosed 1 true

/-- Every further pass leaves what the one before it has left, or less. -/
theorem settle_mark (hn : '"' ∉ left) (hp : ')' ∉ s) (h : t.Sublist (left ++ '"' :: ' ' :: s))
    (n : Nat) : ∃ u, settle unwrapPass n ('(' :: '"' :: t) = '(' :: '"' :: u
      ∧ u.Sublist (left ++ '"' :: ' ' :: s) := by
  refine settle_induct (P := fun v => ∃ u, v = '(' :: '"' :: u
    ∧ u.Sublist (left ++ '"' :: ' ' :: s)) (fun v hv => ?_) n ⟨t, rfl, h⟩
  obtain ⟨u, rfl, hu⟩ := hv
  exact ⟨unwrapFrom true 0 u, unwrapPass_mark hn hp hu, (unwrapFrom_sublist true 0 u).trans hu⟩

end

/-- Up to the first literal of a clause, either the passes leave the name of the column as it is,
and all the rest as well, or some of it is lost. -/
theorem unwrapNames_dropCasts {name s : List Char} (hn : '"' ∉ name) (hp : ')' ∉ s)
    (hc : ':' ∉ s) :
    (dropCasts name = name ∧ unwrapNames name = name
      ∧ unwrapNames (dropCasts ('(' :: '"' :: (name ++ '"' :: ' ' :: s)))
        = '(' :: '"' :: (name ++ '"' :: ' ' :: s))
    ∨ ∃ left t, left.Sublist name ∧ left.length < name.length
      ∧ unwrapNames (dropCasts ('(' :: '"' :: (name ++ '"' :: ' ' :: s))) = '(' :: '"' :: t
      ∧ t.Sublist (left ++ '"' :: ' ' :: s) := by
  have hmark : ∀ {left : List Char}, left.Sublist name → '"' ∉ left :=
    fun hleft hmem => hn (hleft.subset hmem)
  have hcasts : dropCasts ('(' :: '"' :: (name ++ '"' :: ' ' :: s))
      = '(' :: '"' :: dropCasts (name ++ '"' :: ' ' :: s) :=
    dropCasts_append (t := ['(', '"']) (by decide) _
  rw [hcasts]
  rcases keepsOrLoses_dropCasts hn hc with ⟨hkeep, hall⟩ | ⟨-, left, hleft, hlen, hall⟩
  · rw [hall]
    have hrest : ')' ∉ '"' :: ' ' :: s := by simp [hp]
    have hfirst := unwrapPass_mark hn hp (List.Sublist.refl (name ++ '"' :: ' ' :: s))
    have hwrapped : KeepsOrLoses (unwrapFrom true 0) name ('"' :: ' ' :: s) :=
      keepsOrLoses_unwrapFrom hrest true
    rcases hwrapped with ⟨hkeep', hall'⟩ | ⟨hlose, left, hleft, hlen, hall'⟩
    · rw [hall'] at hfirst
      exact .inl ⟨hkeep, unwrapNames_of_unwrapPass hkeep', unwrapNames_of_unwrapPass hfirst⟩
    · have hne : unwrapPass ('(' :: '"' :: (name ++ '"' :: ' ' :: s))
          ≠ '(' :: '"' :: (name ++ '"' :: ' ' :: s) := by
        intro heq
        have hle := hall'.length_le
        rw [hfirst, List.cons.injEq, List.cons.injEq] at heq
        rw [heq.2.2, List.length_append, List.length_append] at hle
        omega
      obtain ⟨n, hsettle⟩ := exists_settle_of_unwrapPass hne
      rw [hsettle, hfirst]
      obtain ⟨t, ht, hsub⟩ := settle_mark (hmark hleft) hp hall' n
      exact .inr ⟨left, t, hleft, hlen, ht, hsub⟩
  · obtain ⟨t, ht, hsub⟩ := settle_mark (hmark hleft) hp hall _
    exact .inr ⟨left, t, hleft, hlen, ht, hsub⟩

/-! ## The word `or` in a name -/

/-- Of the character before a text only matters whether it borders the word `or`. -/
theorem splitFrom_orWord_before {before before' : Option Char}
    (h : before.any bordersWord = before'.any bordersWord) (depth : Int) (t : List Char) :
    splitFrom .orWord 0 depth false before t = splitFrom .orWord 0 depth false before' t := by
  cases t with
  | nil => rfl
  | cons c t =>
    have hor : startsWithOr before (c :: t) = startsWithOr before' (c :: t) := by
      cases t <;> simp [startsWithOr, h]
    simp only [splitFrom, Separator.length?, hor]

/-- After a double quote a text is cut as by itself. -/
theorem splitFrom_mark (depth : Int) (before : Option Char) (rest : List Char) :
    splitFrom .orWord 0 depth false before ('"' :: rest)
      = consHead '"' (splitFrom .orWord 0 depth false none rest) := by
  have h := splitFrom_cons .orWord (c := '"') (by decide) depth before rest fun _ =>
    length?_of_ne .orWord (by decide) (by decide) (by decide) before rest
  have hborders : (some '"').any bordersWord = (none : Option Char).any bordersWord := rfl
  rwa [bracketStep_of_plain rfl, Int.add_zero, splitFrom_orWord_before hborders] at h

/-- Before a double quote, a text is passed over if it is not cut by itself, and otherwise the
first piece ends in it. -/
theorem splitFrom_append_mark {t : List Char} (hq : quote ∉ t) (depth : Int)
    (before : Option Char) (rest : List Char) :
    (splitFrom .orWord 0 depth false before t = [t]
      ∧ ∃ after, splitFrom .orWord 0 depth false before (t ++ '"' :: rest)
        = t.foldr consHead
          (splitFrom .orWord 0 (depthFrom depth t) false after ('"' :: rest)))
    ∨ (splitFrom .orWord 0 depth false before t ≠ [t]
      ∧ ∃ p ps, splitFrom .orWord 0 depth false before (t ++ '"' :: rest) = p :: ps ∧ p <+: t) := by
  induction t generalizing depth before with
  | nil => exact .inl ⟨rfl, before, by simp⟩
  | cons c t ih =>
    simp only [List.mem_cons, not_or] at hq
    have hor : Separator.orWord.length? before (c :: (t ++ '"' :: rest))
        = Separator.orWord.length? before (c :: t) := by
      rcases t with _ | ⟨d, _ | ⟨e, t⟩⟩
      · simp [Separator.length?, startsWithOr]
      · simp [Separator.length?, startsWithOr, show bordersWord '"' = false from rfl]
      · rfl
    rw [List.cons_append]
    cases hcut : (if depth + bracketStep c = 0 then Separator.orWord.length? before (c :: t)
      else none) with
    | none =>
      have hone := fun u (h : Separator.orWord.length? before (c :: u)
          = Separator.orWord.length? before (c :: t)) =>
        splitFrom_cons .orWord (Ne.symm hq.1) depth before u fun hd => by
          rw [h]
          rwa [if_pos hd] at hcut
      rw [hone _ hor, hone t rfl]
      rcases ih hq.2 (depth + bracketStep c) (some c) with
        ⟨hwhole, after, hall⟩ | ⟨hne, p, ps, hall, hp⟩
      · refine .inl ⟨by rw [hwhole, consHead], after, ?_⟩
        rw [hall, depthFrom_cons, List.foldr_cons]
      · refine .inr ⟨fun heq => hne ?_, c :: p, ps, by rw [hall, consHead], ?_⟩
        · obtain ⟨q, qs, hqs⟩ := List.exists_cons_of_ne_nil
            (splitFrom_ne_nil .orWord 0 (depth + bracketStep c) false (some c) t)
          rw [hqs, consHead] at heq
          rw [hqs]
          simpa using heq
        · exact List.cons_prefix_cons.mpr ⟨rfl, hp⟩
    | some n =>
      have hone : ∀ u, Separator.orWord.length? before (c :: u)
          = Separator.orWord.length? before (c :: t) → ∃ ps,
          splitFrom .orWord 0 depth false before (c :: u) = [] :: ps := by
        intro u h
        rw [← h] at hcut
        exact ⟨_, by rw [splitFrom, if_neg (Ne.symm hq.1), if_neg Bool.false_ne_true, hcut]⟩
      obtain ⟨ps, hps⟩ := hone _ hor
      obtain ⟨qs, hqs⟩ := hone t rfl
      exact .inr ⟨by simp [hqs], [], ps, hps, List.nil_prefix⟩

/-! ## The name of a column -/

theorem tight_doubleQuoted (t : List Char) : Tight (NameStyle.doubleQuoted.write t) where
  head c h := by
    obtain rfl : '"' = c := by simpa [NameStyle.write] using h
    rfl
  last c h := by
    rw [NameStyle.write, ← List.cons_append, List.getLast?_concat] at h
    cases h
    rfl

/-- A column between double quotes is known by what stands between them, in lower case. -/
theorem canonicalName_doubleQuoted {t : List Char} (hne : t ≠ [])
    (hm : ∀ c ∈ t, isNameQuote c = false) :
    canonicalName (NameStyle.doubleQuoted.write t) = lowercase t := by
  rw [canonicalName, (tight_doubleQuoted t).trim_eq, stripWhile_write hne hm]

theorem Quotable.canonicalName_eq {name : List Char} (h : Quotable name) :
    canonicalName name = lowercase name := by
  have hstrip := stripWhile_write h.ne_nil h.mark .bare
  rw [NameStyle.write] at hstrip
  rw [canonicalName, h.tight.trim_eq, hstrip]

theorem Quotable.doubleQuote {name : List Char} (h : Quotable name) : '"' ∉ name := fun hmem =>
  absurd (h.mark _ hmem) (by decide)

/-! ## The column of a clause -/

/-- Where the values of a clause are read, there is the column, and only white space and
parentheses that open come before it. -/
theorem exists_column_of_values? {target t : List Char} {g : Grammar} {vs : List (List Char)}
    (h : g.values? target (stripOuterParens t) = some vs) :
    ∃ a b u column rest, t = a ++ (u ++ b) ∧ (∀ c ∈ a, isBlank c = true ∨ c = '(')
      ∧ scanColumn? u = some (column, rest) ∧ canonicalName column = target := by
  obtain ⟨a, b, hab, ha, -⟩ := exists_append_stripOuterParens t
  cases g with
  | anyArray =>
    obtain ⟨column, list, hmatch, hname, -⟩ := exists_of_listValues? h
    obtain ⟨rest, more, after, hscan, -⟩ := exists_of_matchAnyArray? hmatch
    exact ⟨a, b, _, column, rest, hab, ha, hscan, hname⟩
  | inList =>
    obtain ⟨column, list, hmatch, hname, -⟩ := exists_of_listValues? h
    obtain ⟨rest, after, hscan, -⟩ := exists_of_matchInList? hmatch
    exact ⟨a, b, _, column, rest, hab, ha, hscan, hname⟩
  | orChain =>
    obtain ⟨first, v, ⟨z, hz⟩, hv⟩ := exists_first_of_orChain h
    obtain ⟨column, rest, more, hscan, -, hname, -⟩ := exists_of_equalityValue? hv
    obtain ⟨a', b', hab', ha', -⟩ := exists_append_stripOuterParens first
    refine ⟨a ++ a', b' ++ (z ++ b), _, column, rest, ?_, ?_, hscan, hname⟩
    · conv_lhs => rw [hab, ← hz, hab']
      simp only [List.append_assoc]
    · exact fun c hc => (List.mem_append.mp hc).elim (ha c) (ha' c)
  | containedIn =>
    obtain ⟨column, list, hmatch, hname, -⟩ := exists_of_listValues? h
    obtain ⟨rest, more, after, hscan, -⟩ := exists_of_matchContainedIn? hmatch
    exact ⟨a, b, _, column, rest, hab, ha, hscan, hname⟩

/-- White space after a character that is none is all that is trimmed of such a text. -/
theorem exists_trim_eq {s : List Char} {d : Char}
    (hs : ∀ c, (s ++ [d]).head? = some c → isBlank c = false) (hd : isBlank d = false)
    (rest : List Char) : ∃ w, trim (s ++ d :: rest) = s ++ d :: w := by
  obtain ⟨blanks, htrim, hblank⟩ := exists_append_dropEndWhile isBlank (s ++ d :: rest)
  have hmem : d ∉ blanks := fun hmem => absurd (hblank d hmem) (by simp [hd])
  obtain ⟨w, hw, -⟩ := exists_of_append_cons hmem (htrim.symm.trans rfl)
  have hstart : trim (s ++ d :: rest) = trimEnd (s ++ d :: rest) :=
    trim_of_head fun c hc => hs c (by cases s <;> exact hc)
  exact ⟨w, by rw [hstart, trimEnd, hw]⟩

/-- A column after a parenthesis and a double quote ends at the next double quote. -/
theorem exists_of_scanColumn?_mark {a b t u column rest : List Char}
    (h : '(' :: '"' :: t = a ++ (u ++ b)) (ha : ∀ c ∈ a, isBlank c = true ∨ c = '(')
    (hscan : scanColumn? u = some (column, rest)) :
    a = ['('] ∧ ∃ body, body ≠ [] ∧ '"' ∉ body ∧ column = NameStyle.doubleQuoted.write body
      ∧ t = body ++ '"' :: (rest ++ b) := by
  obtain ⟨c, u, rfl, hblank, hopen⟩ := head_of_scanColumn? hscan
  obtain rfl : a = ['('] := by
    match a with
    | [] => exact absurd (List.cons.inj h).1.symm hopen
    | [d] => rw [(List.cons.inj h).1]
    | d :: e :: a =>
      have he : '"' = e := (List.cons.inj (List.cons.inj h).2).1
      rcases ha e (by simp) with hb | hp
      · exact absurd hb (he ▸ by decide)
      · exact absurd hp (he ▸ by decide)
  obtain ⟨rfl, rfl⟩ := List.cons.inj (List.cons.inj h).2
  obtain ⟨body, hne, hbody, rfl, rfl⟩ :=
    exists_of_scanQuotedName? (hscan : scanQuotedName? '"' '"' u = _)
  exact ⟨rfl, body, hne, hbody, rfl, by simp⟩

end ValidatorGen.Check
