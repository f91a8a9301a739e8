/-
Options with their values joined to them, `--name=value`. Such a word is complete in itself, so the
reader goes on from it with nothing waiting (`step_joined`). **Words of this kind say, in their
order, what their options say** (`readOptions_joined`), if each is an option of the command with a
value that can be read, and no option is given again that may be given once.
-/
import Mathlib.Data.List.Basic
import ValidatorGen.CommandLine.Options

namespace ValidatorGen.CommandLine

/-- An option with its value as one word. -/
def joined (p : String × String) : String := "--" ++ (p.1 ++ ("=" ++ p.2))

/-- What an option with its value says, if it is one of the rules and can be read. -/
def says? {α : Type} (rules : List (OptionRule α)) (p : String × String) : Option α :=
  (rules.find? (·.name == p.1)).bind fun rule => (rule.read p.2).toOption

/-- The names of the rules can be told from a value that is joined to them, and from the request
for help. -/
def NamesOptions {α : Type} (rules : List (OptionRule α)) : Prop :=
  ∀ rule ∈ rules, '=' ∉ rule.name.toList ∧ rule.name ≠ "help"

/-- Two lists of the same options, with those of one name in one order. -/
structure Shuffled (words words' : List (String × String)) : Prop where
  perm : words.Perm words'
  within : ∀ name, words.filter (·.1 == name) = words'.filter (·.1 == name)

section

variable {α : Type} {rules : List (OptionRule α)} {given : Given α} {p : String × String} {a : α}

theorem ofText_joined (h : '=' ∉ p.1.toList) :
    Word.ofText (joined p) = .option p.1 (some p.2) := by
  have hname : ∀ c ∈ p.1.toList, decide (c ≠ '=') = true := fun c hc => by
    rw [decide_eq_true_iff]
    rintro rfl
    exact h hc
  have hchars : (joined p).toList = '-' :: '-' :: (p.1.toList ++ '=' :: p.2.toList) := by
    simp [joined]
  have hword : Word.ofText (joined p) = .ofOption (p.1.toList ++ '=' :: p.2.toList) := by
    -- it does not end after the hyphens, so it is no separator
    obtain ⟨c, text, htext⟩ := List.exists_cons_of_ne_nil
      (List.append_ne_nil_of_right_ne_nil p.1.toList (List.cons_ne_nil '=' p.2.toList))
    rw [Word.ofText, hchars, htext]
    rfl
  rw [hword, Word.ofOption, List.takeWhile_append_of_pos hname, List.dropWhile_append_of_pos hname]
  simp

theorem take_of_read {rule : OptionRule α} {value : String} (hread : rule.read value = .ok a)
    (honce : rule.repeatable = false → rule.name ∉ given.map Prod.fst) :
    rule.take (some value) given = .ok (given ++ [(rule.name, a)]) := by
  have hnot : (!rule.repeatable && given.any (·.1 == rule.name)) = false := by
    cases hrepeat : rule.repeatable with
    | true => rfl
    | false =>
      rw [Bool.not_false, Bool.true_and, List.any_eq_false]
      intro q hq heq
      exact honce hrepeat (by rw [← beq_iff_eq.mp heq]; exact List.mem_map_of_mem hq)
  rw [OptionRule.take]
  simp only [hnot, hread]
  rfl

/-- **A joined option leaves nothing waiting.** -/
theorem step_joined {command : String} (hrules : NamesOptions rules) (ha : says? rules p = some a)
    (honce : ∀ rule ∈ rules, rule.repeatable = false →
      (given.map Prod.fst ++ [p.1]).count rule.name ≤ 1) :
    Progress.step command rules ⟨given, none⟩ (joined p) = .ok ⟨given ++ [(p.1, a)], none⟩ := by
  obtain ⟨rule, hfind, hread⟩ := Option.bind_eq_some_iff.mp ha
  have hmem := List.mem_of_find?_eq_some hfind
  have hname : rule.name = p.1 := by simpa using List.find?_some hfind
  obtain ⟨hequals, hhelp⟩ := hrules rule hmem
  rw [hname] at hequals hhelp
  have hread : rule.read p.2 = .ok a := by
    cases h : rule.read p.2 with
    | error e =>
      rw [h] at hread
      cases hread
    | ok b =>
      rw [h] at hread
      cases hread
      rfl
  have htake : rule.take (some p.2) given = .ok (given ++ [(p.1, a)]) := by
    rw [take_of_read hread, hname]
    intro hrepeat
    have hcount := honce rule hmem hrepeat
    rw [List.count_append, hname, List.count_singleton_self] at hcount
    exact hname ▸ List.count_eq_zero.mp (by omega)
  rw [Progress.step, ofText_joined hequals]
  split
  case h_4 name value _ _ heq =>
    obtain ⟨rfl, rfl⟩ := Word.option.inj heq
    simp only [hfind, Progress.settle, htake]
    rfl
  case h_3 value heq => exact absurd (Word.option.inj heq).1 hhelp
  case h_6 _ hoption _ => exact (hoption _ _ rfl).elim
  all_goals next heq => simp at heq

theorem joined_ne_separator (hrules : NamesOptions rules) (hsay : (says? rules p).isSome) :
    Word.ofText (joined p) ≠ .separator := by
  obtain ⟨a, ha⟩ := Option.isSome_iff_exists.mp hsay
  obtain ⟨rule, hfind, -⟩ := Option.bind_eq_some_iff.mp ha
  have hname : rule.name = p.1 := by simpa using List.find?_some hfind
  rw [ofText_joined (hname ▸ (hrules rule (List.mem_of_find?_eq_some hfind)).1)]
  exact nofun

/-- **What joined options say is what each of them says, in their order.** -/
theorem readOptions_joined {command : String} (hrules : NamesOptions rules)
    (words : List (String × String)) (hsay : ∀ p ∈ words, (says? rules p).isSome)
    (honce : ∀ rule ∈ rules, rule.repeatable = false →
      (given.map Prod.fst ++ words.map Prod.fst).count rule.name ≤ 1) :
    readOptions command rules ⟨given, none⟩ (words.map joined)
      = .ok (given ++ words.filterMap fun p => (says? rules p).map (p.1, ·)) := by
  induction words generalizing given with
  | nil =>
    rw [List.filterMap_nil, List.append_nil]
    rfl
  | cons p words ih =>
    obtain ⟨a, ha⟩ := Option.isSome_iff_exists.mp (hsay p List.mem_cons_self)
    have hstep : Progress.step command rules ⟨given, none⟩ (joined p)
        = .ok ⟨given ++ [(p.1, a)], none⟩ := by
      refine step_joined hrules ha fun rule hrule hrepeat => ?_
      refine Nat.le_trans (List.Sublist.count_le _ ?_) (honce rule hrule hrepeat)
      exact List.Sublist.append_left (List.singleton_sublist.mpr List.mem_cons_self) _
    have hrest := @ih (given ++ [(p.1, a)]) (fun q hq => hsay q (List.mem_cons_of_mem _ hq))
      fun rule hrule hrepeat => by simpa using honce rule hrule hrepeat
    have hword := joined_ne_separator hrules (hsay p List.mem_cons_self)
    rw [List.map_cons, readOptions, hstep]
    · simp only [hrest, List.filterMap_cons, ha]
      simp
    · exact fun heq _ => hword heq
    · exact fun _ _ heq _ => hword heq

/-- Options of other names than those given are none in either order. -/
theorem Shuffled.of_names {words words' : List (String × String)} (hperm : words.Perm words')
    (h : ∀ name ∈ words.map Prod.fst, words.filter (·.1 == name) = words'.filter (·.1 == name)) :
    Shuffled words words' where
  perm := hperm
  within name := by
    by_cases hname : name ∈ words.map Prod.fst
    · exact h name hname
    · have hnone : ∀ p ∈ words, ¬ (p.1 == name) = true := fun p hp heq =>
        hname (beq_iff_eq.mp heq ▸ List.mem_map_of_mem hp)
      rw [List.filter_eq_nil_iff.mpr hnone,
        List.filter_eq_nil_iff.mpr fun p hp => hnone p (hperm.mem_iff.mpr hp)]

/-- What the options of one name alone say, they say in every order. -/
theorem Shuffled.filterMap_eq {words words' : List (String × String)} (h : Shuffled words words')
    {g : String × String → Option α} (name : String)
    (hg : ∀ p ∈ words, p.1 ≠ name → g p = none) : words'.filterMap g = words.filterMap g := by
  have hnamed : ∀ l : List (String × String), (∀ p ∈ l, p ∈ words) →
      l.filterMap g = (l.filter (·.1 == name)).filterMap g := fun l hl => by
    rw [List.filterMap_filter]
    refine List.filterMap_congr fun p hp => ?_
    split
    · rfl
    · next hname => exact hg p (hl p hp) (by simpa using hname)
  rw [hnamed words' fun p hp => h.perm.mem_iff.mpr hp, ← h.within name]
  exact (hnamed words fun p hp => hp).symm

end

end ValidatorGen.CommandLine
