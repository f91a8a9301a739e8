/-
Descriptions that say something on purpose: tags, each with what belongs to it, on any lines, in
any order, with any white space between the words and with other words in between. **Such a
description is read as just what its tags say** (`ofDescription_page`). A tag changes one part of
what is said (`Tag.set`), and different tags change different parts, so their order does not matter.
-/
import Mathlib.Data.List.Nodup
import Mathlib.Data.List.TakeWhile
import ValidatorGen.Proofs.Annotation.Reading

namespace ValidatorGen.Annotations

open Text Decimal

/-! ## Tags -/

/-- A tag with what belongs to it: the argument of a bound, the words of a reason. -/
inductive Tag
  | trim
  | lowercase
  | uppercase
  | normalize
  | nonnegative
  | minLength (argument : List Char)
  | maxLength (argument : List Char)
  | min (argument : List Char)
  | max (argument : List Char)
  | deprecated (reason : List (List Char))
  deriving DecidableEq, Repr

namespace Tag

/-- The name of a tag in lower case. -/
def name : Tag → String
  | trim => "trim"
  | lowercase => "lowercase"
  | uppercase => "uppercase"
  | normalize => "normalize"
  | nonnegative => "nonnegative"
  | minLength _ => "minlength"
  | maxLength _ => "maxlength"
  | min _ => "min"
  | max _ => "max"
  | deprecated _ => "deprecated"

/-- The words that belong to a tag. -/
def words : Tag → List (List Char)
  | minLength argument | maxLength argument | min argument | max argument => [argument]
  | deprecated reason => reason
  | _ => []

/-- Arguments are numbers of the kind that is asked for, and no word of a reason looks like a
tag. -/
def IsValid : Tag → Prop
  | minLength argument | maxLength argument => (readUInt32? argument).isSome = true
  | min argument | max argument => (readFloat? argument).isSome = true
  | deprecated reason => ∀ w ∈ reason, isTag w = false
  | _ => True

/-- All words up to the next tag belong to this one. -/
def isOpen : Tag → Bool
  | deprecated _ => true
  | _ => false

/-- What is said with one more tag. -/
def set (a : Annotations) : Tag → Annotations
  | trim => { a with hints := { a.hints with trim := true } }
  | lowercase => { a with hints := { a.hints with lowercase := true } }
  | uppercase => { a with hints := { a.hints with uppercase := true } }
  | normalize => { a with hints := { a.hints with normalize := true } }
  | nonnegative => { a with hints := { a.hints with nonnegative := true } }
  | minLength argument => { a with minLength := readUInt32? argument }
  | maxLength argument => { a with maxLength := readUInt32? argument }
  | min argument => { a with min := readFloat? argument }
  | max argument => { a with max := readFloat? argument }
  | deprecated reason => { a with deprecated := some (reason? reason) }

/-- The words of a reason between single spaces, unless there are none. -/
def reason? : Tag → Option (Option String)
  | deprecated [] => some none
  | deprecated (w :: reason) => some (some (String.ofList ([' '].intercalate (w :: reason))))
  | _ => none

/-- The numbers that tags give. -/
def minLength? : Tag → Option UInt32
  | minLength argument => readUInt32? argument
  | _ => none

def maxLength? : Tag → Option UInt32
  | maxLength argument => readUInt32? argument
  | _ => none

def min? : Tag → Option Float
  | min argument => readFloat? argument
  | _ => none

def max? : Tag → Option Float
  | max argument => readFloat? argument
  | _ => none

end Tag

/-- **What some tags say**: the flags that are among them, the numbers of the bounds, the reason
of the deprecation. -/
def said (tags : List Tag) : Annotations where
  deprecated := tags.findSome? Tag.reason?
  hints := {
    trim := tags.contains .trim
    lowercase := tags.contains .lowercase
    uppercase := tags.contains .uppercase
    normalize := tags.contains .normalize
    nonnegative := tags.contains .nonnegative }
  minLength := tags.findSome? Tag.minLength?
  maxLength := tags.findSome? Tag.maxLength?
  min := tags.findSome? Tag.min?
  max := tags.findSome? Tag.max?

/-! ## Pages -/

/-- A tag as it stands on a line: its name in any letter case, and the words after it that do not
belong to it. -/
structure Entry where
  tag : Tag
  name : List Char
  others : List (List Char) := []

namespace Entry

/-- The words of an entry. -/
def words (e : Entry) : List (List Char) := ('@' :: e.name) :: (e.tag.words ++ e.others)

/-- The name is that of the tag, the other words are no tags, and none follow a reason. -/
structure IsValid (e : Entry) : Prop where
  tag : e.tag.IsValid
  name : asciiLowercase e.name = e.tag.name.toList
  others : ∀ w ∈ e.others, isTag w = false
  closed : e.tag.isOpen = true → e.others = []

end Entry

/-- A line: words that are no tags, then tags. -/
structure Line where
  prose : List (List Char) := []
  entries : List Entry := []

namespace Line

/-- The words of a line. -/
def words (l : Line) : List (List Char) := l.prose ++ l.entries.flatMap Entry.words

/-- The tags of a line. -/
def tags (l : Line) : List Tag := l.entries.map Entry.tag

structure IsValid (l : Line) : Prop where
  prose : ∀ w ∈ l.prose, isTag w = false
  entries : ∀ e ∈ l.entries, e.IsValid

end Line

/-- White space that does not end a line. -/
def IsGap (gap : List Char) : Prop := ∀ c ∈ gap, isBlank c = true ∧ c ≠ '\n'

instance : DecidablePred IsGap := fun gap =>
  List.decidableBAll (fun c => isBlank c = true ∧ c ≠ '\n') gap

/-- A text is some words in order, with any white space before, between and after them. -/
inductive Spaced : List (List Char) → List Char → Prop
  | gap (gap : List Char) (h : IsGap gap) : Spaced [] gap
  | word (gap w : List Char) {text : List Char} {ws : List (List Char)} (hgap : IsGap gap)
      (hw : IsWord w) (hparted : StartsBlank text) (htext : Spaced ws text) :
      Spaced (w :: ws) (gap ++ w ++ text)

/-- A text is some lines in order; the line feed after the last one may be left out. -/
inductive Written : List Line → List Char → Prop
  | nothing : Written [] []
  | last {l : Line} {text : List Char} (h : Spaced l.words text) : Written [l] text
  | line {l : Line} {page : List Line} {text more : List Char} (h : Spaced l.words text)
      (hmore : Written page more) : Written (l :: page) (text ++ '\n' :: more)

/-! ## Reading -/

variable {w : List Char} {words : List (List Char)} {tag : Tag} {e : Entry} {l : Line}
  {a : Annotations}

theorem isTag_of_mem_words (h : tag.IsValid) (hw : w ∈ tag.words) : isTag w = false := by
  have harg : ∀ {β : Type} {read? : List Char → Option β}, (∀ w, isTag w = true → read? w = none) →
      (read? w).isSome = true → isTag w = false := fun hread hsome => by
    rw [← Bool.not_eq_true]
    intro htag
    rw [hread w htag] at hsome
    cases hsome
  cases tag with
  | deprecated reason => exact h w hw
  | minLength argument | maxLength argument =>
    obtain rfl := List.mem_singleton.mp hw
    exact harg (fun _ => readUInt32?_of_isTag) h
  | min argument | max argument =>
    obtain rfl := List.mem_singleton.mp hw
    exact harg (fun _ => readFloat?_of_isTag) h
  | trim | lowercase | uppercase | normalize | nonnegative => cases hw

/-- A tag sets what it says, and nothing else. -/
theorem apply_tag (h : e.IsValid) (a : Annotations) :
    apply e.name (e.tag.words ++ e.others) a = e.tag.set a := by
  obtain ⟨tag, name, others⟩ := e
  obtain ⟨htag, hname, hothers, hclosed⟩ := h
  have hname : String.ofList (asciiLowercase name) = tag.name := by
    rw [hname, String.ofList_toList]
  simp only [apply, hname]
  cases tag with
  | deprecated reason =>
    obtain rfl : others = [] := hclosed rfl
    have hreason : reasonWords (reason ++ []) = reason := by
      rw [List.append_nil]
      exact List.takeWhile_eq_self_iff.mpr fun w hw => by simp [htag w hw]
    simp only [Tag.name, Tag.words, hreason]
    rfl
  | minLength argument => rfl
  | maxLength argument => rfl
  | min argument => rfl
  | max argument => rfl
  | trim | lowercase | uppercase | normalize | nonnegative => rfl

theorem readWords_entry (h : e.IsValid) (a : Annotations) :
    readWords e.words a = e.tag.set a := by
  rw [Entry.words, readWords_tag, apply_tag h]
  refine readWords_prose (fun w hw => ?_) _
  rcases List.mem_append.mp hw with hw | hw
  · exact isTag_of_mem_words h.tag hw
  · exact h.others w hw

theorem startsTag_entries (entries : List Entry) : StartsTag (entries.flatMap Entry.words) := by
  cases entries with
  | nil => exact nofun
  | cons e entries =>
    intro w hw
    obtain rfl : '@' :: e.name = w := by simpa [Entry.words] using hw
    rfl

/-- **A line says what its tags say, one after the other.** -/
theorem readWords_line (h : l.IsValid) (a : Annotations) :
    readWords l.words a = l.tags.foldl Tag.set a := by
  obtain ⟨prose, entries⟩ := l
  obtain ⟨hprose, hentries⟩ := h
  rw [Line.words, readWords_append (startsTag_entries entries), readWords_prose hprose, Line.tags]
  clear hprose
  induction entries generalizing a with
  | nil => rfl
  | cons e entries ih =>
    rw [List.flatMap_cons, readWords_append (startsTag_entries entries),
      readWords_entry (hentries e List.mem_cons_self), List.map_cons, List.foldl_cons]
    exact ih _ fun e he => hentries e (List.mem_cons_of_mem _ he)

theorem blankWords_spaced {ws : List (List Char)} {text : List Char} (h : Spaced ws text) :
    blankWords text = ws := by
  induction h with
  | gap gap h => exact blankWords_gap fun c hc => (h c hc).1
  | @word gap w text ws hgap hw hparted htext ih =>
    have hlead : Parted gap w := .inl fun c hc => (hgap c (List.mem_of_getLast? hc)).1
    rw [blankWords_append (.inr hparted), blankWords_append hlead, blankWords_word hw, ih,
      blankWords_gap fun c hc => (hgap c hc).1]
    rfl

/-- Words and gaps stay on one line. -/
theorem lines_spaced {ws : List (List Char)} {text : List Char} (h : Spaced ws text) :
    lines text = [text] := by
  refine fields_of_all_not _ ?_
  have hgap : ∀ {gap : List Char}, IsGap gap → ∀ c ∈ gap, (c == '\n') = false :=
    fun h c hc => beq_eq_false_iff_ne.mpr (h c hc).2
  induction h with
  | gap gap h => exact hgap h
  | @word gap w text ws h hw hparted htext ih =>
    intro c hc
    rcases List.mem_append.mp hc with hc | hc
    · rcases List.mem_append.mp hc with hc | hc
      · exact hgap h c hc
      · rw [beq_eq_false_iff_ne]
        rintro rfl
        exact absurd (hw.2 _ hc) (by decide)
    · exact ih c hc

theorem readLines_line {text : List Char} (h : Spaced l.words text) (hvalid : l.IsValid)
    (a : Annotations) : readLines text a = l.tags.foldl Tag.set a := by
  rw [readLines, lines_spaced h, List.foldl_cons, blankWords_spaced h, readWords_line hvalid]
  rfl

/-- **A page says what its tags say, one after the other.** -/
theorem readLines_written {page : List Line} {text : List Char} (h : Written page text)
    (hvalid : ∀ l ∈ page, l.IsValid) (a : Annotations) :
    readLines text a = (page.flatMap Line.tags).foldl Tag.set a := by
  induction h generalizing a with
  | nothing => rfl
  | @last l text h =>
    rw [readLines_line h (hvalid l List.mem_cons_self)]
    simp
  | @line l page text more h hmore ih =>
    have hlines : lines (text ++ '\n' :: more) = lines text ++ lines more :=
      fields_append_sep _ rfl text more
    rw [readLines, hlines, List.foldl_append, ← readLines, ← readLines,
      readLines_line h (hvalid l List.mem_cons_self),
      ih fun l hl => hvalid l (List.mem_cons_of_mem _ hl), List.flatMap_cons, List.foldl_append]

/-! ## Order -/

/-- Tags of different names change different parts of what is said. -/
theorem set_comm {s t : Tag} (h : s.name ≠ t.name) (a : Annotations) :
    s.set (t.set a) = t.set (s.set a) := by
  cases s <;> cases t <;> first | rfl | exact absurd rfl h

/-- The order of tags of different names does not matter. -/
theorem foldl_set_perm {tags tags' : List Tag} (h : tags.Perm tags')
    (honce : (tags.map Tag.name).Nodup) (a : Annotations) :
    tags.foldl Tag.set a = tags'.foldl Tag.set a := by
  refine h.foldl_eq' (fun s hs t ht a => ?_) a
  by_cases hname : s.name = t.name
  · rw [List.inj_on_of_nodup_map honce hs ht hname]
  · exact set_comm (Ne.symm hname) a

section

variable {α β : Type} {get : Annotations → Option β} {value? : Tag → Option β}

/-- A part that one name of tags changes is what the tag of that name says. -/
theorem get_foldl {name : String} (hname : ∀ t, t.name ≠ name → value? t = none)
    (hset : ∀ t a, t.IsValid → get (t.set a) = (value? t).or (get a)) {tags : List Tag}
    (hvalid : ∀ t ∈ tags, t.IsValid) (honce : (tags.map Tag.name).Nodup) (a : Annotations) :
    get (tags.foldl Tag.set a) = (tags.findSome? value?).or (get a) := by
  induction tags generalizing a with
  | nil => rfl
  | cons t tags ih =>
    rw [List.map_cons, List.nodup_cons] at honce
    rw [List.foldl_cons, ih (fun t ht => hvalid t (List.mem_cons_of_mem _ ht)) honce.2,
      hset t a (hvalid t List.mem_cons_self), List.findSome?_cons]
    cases hvalue : value? t with
    | none => rfl
    | some b =>
      have hother : tags.findSome? value? = none := by
        refine List.findSome?_eq_none_iff.mpr fun s hs => hname s ?_
        intro hsame
        have : t.name = name := by
          by_contra hne
          rw [hname t hne] at hvalue
          cases hvalue
        exact honce.1 (List.mem_map.mpr ⟨s, hs, hsame.trans this.symm⟩)
      rw [hother]
      rfl

end

/-- A flag is set just if its tag is there. -/
theorem flag_foldl {get : Annotations → Bool} {flag : Tag}
    (hset : ∀ t a, get (t.set a) = (flag == t || get a)) (tags : List Tag) (a : Annotations) :
    get (tags.foldl Tag.set a) = (tags.contains flag || get a) := by
  induction tags generalizing a with
  | nil => rfl
  | cons t tags ih =>
    rw [List.foldl_cons, ih, hset, List.contains_cons, Bool.or_left_comm, Bool.or_assoc]

/-- **Tags of different names say what each of them says.** -/
theorem foldl_set {tags : List Tag} (hvalid : ∀ t ∈ tags, t.IsValid)
    (honce : (tags.map Tag.name).Nodup) : tags.foldl Tag.set {} = said tags := by
  have hflag : ∀ (get : Annotations → Bool) (flag : Tag),
      (∀ t a, get (t.set a) = (flag == t || get a)) → get {} = false →
        get (tags.foldl Tag.set {}) = tags.contains flag := fun get flag hset hnone => by
    rw [flag_foldl hset, hnone, Bool.or_false]
  have hpart : ∀ {β : Type} (get : Annotations → Option β) (value? : Tag → Option β)
      (name : String), (∀ t, t.name ≠ name → value? t = none) →
      (∀ t a, t.IsValid → get (t.set a) = (value? t).or (get a)) → get {} = none →
        get (tags.foldl Tag.set {}) = tags.findSome? value? :=
    fun get value? name hname hset hnone => by
      rw [get_foldl hname hset hvalid honce, hnone, Option.or_none]
  have hhints : (tags.foldl Tag.set {}).hints = (said tags).hints := by
    ext1
    case trim => exact hflag (·.hints.trim) .trim (fun t _ => by cases t <;> rfl) rfl
    case lowercase => exact hflag (·.hints.lowercase) .lowercase (fun t _ => by cases t <;> rfl) rfl
    case uppercase => exact hflag (·.hints.uppercase) .uppercase (fun t _ => by cases t <;> rfl) rfl
    case normalize => exact hflag (·.hints.normalize) .normalize (fun t _ => by cases t <;> rfl) rfl
    case nonnegative =>
      exact hflag (·.hints.nonnegative) .nonnegative (fun t _ => by cases t <;> rfl) rfl
  ext1
  case hints => exact hhints
  case deprecated =>
    refine hpart Annotations.deprecated Tag.reason? "deprecated" (fun t ht => ?_)
      (fun t a h => ?_) rfl
    · cases t <;> first | rfl | exact absurd rfl ht
    · rcases t with _ | _ | _ | _ | _ | _ | _ | _ | _ | ⟨_ | _⟩ <;> rfl
  case minLength =>
    refine hpart Annotations.minLength Tag.minLength? "minlength" (fun t ht => ?_)
      (fun t a h => ?_) rfl
    · cases t <;> first | rfl | exact absurd rfl ht
    · cases t <;> first | rfl | exact (Option.or_of_isSome h).symm
  case maxLength =>
    refine hpart Annotations.maxLength Tag.maxLength? "maxlength" (fun t ht => ?_)
      (fun t a h => ?_) rfl
    · cases t <;> first | rfl | exact absurd rfl ht
    · cases t <;> first | rfl | exact (Option.or_of_isSome h).symm
  case min =>
    refine hpart Annotations.min Tag.min? "min" (fun t ht => ?_) (fun t a h => ?_) rfl
    · cases t <;> first | rfl | exact absurd rfl ht
    · cases t <;> first | rfl | exact (Option.or_of_isSome h).symm
  case max =>
    refine hpart Annotations.max Tag.max? "max" (fun t ht => ?_) (fun t a h => ?_) rfl
    · cases t <;> first | rfl | exact absurd rfl ht
    · cases t <;> first | rfl | exact (Option.or_of_isSome h).symm

/-- **A description with some tags, each used once, says what they say**, wherever they stand in
it and whatever is written between them. -/
theorem ofDescription_page {tags : List Tag} {page : List Line} {text : String}
    (hvalid : ∀ l ∈ page, l.IsValid) (honce : (tags.map Tag.name).Nodup)
    (htags : (page.flatMap Line.tags).Perm tags) (htext : Written page text.toList) :
    ofDescription text = said tags := by
  have hsaid : ∀ t ∈ page.flatMap Line.tags, t.IsValid := fun t ht => by
    obtain ⟨l, hl, ht⟩ := List.mem_flatMap.mp ht
    obtain ⟨e, he, rfl⟩ := List.mem_map.mp ht
    exact ((hvalid l hl).entries e he).tag
  rw [ofDescription, ofChars_eq, readLines_written htext hvalid,
    foldl_set_perm htags ((htags.map Tag.name).nodup_iff.mpr honce),
    foldl_set (fun t ht => hsaid t (htags.mem_iff.mpr ht)) honce]

/-- A page of three lines, the second of them empty. -/
def pricePage : List Line :=
  [{ prose := ["Net".toList, "price".toList]
     entries := [⟨.min "0.5".toList, "MIN".toList, ["euros".toList]⟩, ⟨.trim, "Trim".toList, []⟩] },
    {},
    { entries := [⟨.deprecated ["use".toList, "net_price".toList], "deprecated".toList, []⟩,
        ⟨.maxLength "+20".toList, "maxLength".toList, []⟩] }]

theorem written_pricePage : Written pricePage
    "Net price @MIN 0.5 euros\t@Trim\r\n\n @deprecated use  net_price @maxLength +20".toList := by
  have hfirst : Spaced ["Net".toList, "price".toList, "@MIN".toList, "0.5".toList, "euros".toList,
      "@Trim".toList] "Net price @MIN 0.5 euros\t@Trim\r".toList :=
    .word [] "Net".toList (by decide) (by decide) (by decide) <|
    .word [' '] "price".toList (by decide) (by decide) (by decide) <|
    .word [' '] "@MIN".toList (by decide) (by decide) (by decide) <|
    .word [' '] "0.5".toList (by decide) (by decide) (by decide) <|
    .word [' '] "euros".toList (by decide) (by decide) (by decide) <|
    .word ['\t'] "@Trim".toList (by decide) (by decide) (by decide) <|
    .gap ['\r'] (by decide)
  have hlast : Spaced ["@deprecated".toList, "use".toList, "net_price".toList, "@maxLength".toList,
      "+20".toList] " @deprecated use  net_price @maxLength +20".toList :=
    .word [' '] "@deprecated".toList (by decide) (by decide) (by decide) <|
    .word [' '] "use".toList (by decide) (by decide) (by decide) <|
    .word [' ', ' '] "net_price".toList (by decide) (by decide) (by decide) <|
    .word [' '] "@maxLength".toList (by decide) (by decide) (by decide) <|
    .word [' '] "+20".toList (by decide) (by decide) (by decide) <|
    .gap [] (by decide)
  have hpage : Written pricePage ("Net price @MIN 0.5 euros\t@Trim\r".toList
      ++ '\n' :: ([] ++ '\n' :: " @deprecated use  net_price @maxLength +20".toList)) :=
    .line hfirst (.line (.gap [] (by decide)) (.last hlast))
  exact hpage

theorem isValid_pricePage : ∀ l ∈ pricePage, l.IsValid := by
  have hmin : Entry.IsValid ⟨.min "0.5".toList, "MIN".toList, ["euros".toList]⟩ :=
    ⟨rfl, rfl, by decide, nofun⟩
  have htrim : Entry.IsValid ⟨.trim, "Trim".toList, []⟩ := ⟨trivial, rfl, by decide, nofun⟩
  have hdeprecated : Entry.IsValid
      ⟨.deprecated ["use".toList, "net_price".toList], "deprecated".toList, []⟩ := by
    refine ⟨?_, rfl, by decide, fun _ => rfl⟩
    show ∀ w ∈ ["use".toList, "net_price".toList], isTag w = false
    decide
  have hmaxLength : Entry.IsValid ⟨.maxLength "+20".toList, "maxLength".toList, []⟩ :=
    ⟨rfl, rfl, by decide, nofun⟩
  simp only [pricePage, List.forall_mem_cons]
  exact ⟨⟨by decide, List.forall_mem_cons.mpr ⟨hmin, List.forall_mem_singleton.mpr htrim⟩⟩,
    ⟨nofun, nofun⟩,
    ⟨nofun, List.forall_mem_cons.mpr ⟨hdeprecated, List.forall_mem_singleton.mpr hmaxLength⟩⟩,
    List.forall_mem_nil _⟩

theorem ofDescription_page_pricePage :
    (∀ l ∈ pricePage, l.IsValid) ∧
      Written pricePage
        "Net price @MIN 0.5 euros\t@Trim\r\n\n @deprecated use  net_price @maxLength +20".toList ∧
      ofDescription
          "Net price @MIN 0.5 euros\t@Trim\r\n\n @deprecated use  net_price @maxLength +20"
        = { deprecated := some (some "use net_price"), hints := { trim := true },
            maxLength := some 20, min := some 0.5 } := by
  have htags : (pricePage.flatMap Line.tags).Perm
      [.trim, .min "0.5".toList, .maxLength "+20".toList,
        .deprecated ["use".toList, "net_price".toList]] := by decide
  have h := ofDescription_page isValid_pricePage (by decide) htags written_pricePage
  exact ⟨isValid_pricePage, written_pricePage, h⟩

end ValidatorGen.Annotations
