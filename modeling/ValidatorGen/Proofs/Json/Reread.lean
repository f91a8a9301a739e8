/-
Documents are read as they were written: **the text of a value, compact or with one item a line, is
read as the value, and to its end** (`read_chars`). What comes back is the tree of the value
(`Value.reread`); only its numbers are read anew, and only they can be out of range. The induction
is on the value, over a text that goes on after it; its fuel is the length of the text, since each
list and each record that is opened takes two characters.
-/
import ValidatorGen.Json.Decoding
import ValidatorGen.Proofs.Json.Floats
import ValidatorGen.Proofs.Json.Strings

namespace ValidatorGen.Json

open Decimal

/-! ## The tree that is read -/

/-- What a spelling is worth as a number, if it is in range. -/
def worth? (chars : List Char) : Option Number :=
  match scanNumeral chars with
  | .ok (n, _) => n.value?
  | .error _ => none

mutual

/-- What the text of a value is read as. -/
def Value.reread : Value → Document
  | .null => .null
  | .bool b => .bool b
  | .int n => .number (worth? (intChars n))
  | .float f => if f.isFinite then .number (worth? (floatChars .stored f)) else .null
  | .text s => .text (some s)
  | .list items => .list (itemsReread items) .closed
  | .record fields => .record (fieldsReread fields) .closed

/-- What the texts of some values are read as. -/
def itemsReread : List Value → List Document
  | [] => []
  | v :: vs => v.reread :: itemsReread vs

/-- What the texts of some fields are read as. -/
def fieldsReread : List (String × Value) → List (Option String × Document)
  | [] => []
  | (k, v) :: fs => (some k, v.reread) :: fieldsReread fs

end

theorem reread_ne_cut (v : Value) (c : Cut) : v.reread ≠ .cut c := by
  cases v <;> simp only [Value.reread, ne_eq, reduceCtorEq, not_false_eq_true]
  split <;> simp

mutual

/-- Whoever passes over a value meets no fault. -/
theorem skipFault?_reread : ∀ v : Value, v.reread.skipFault? = none
  | .null | .bool _ | .int _ | .text _ => rfl
  | .float f => by
    rw [Value.reread]
    split <;> rfl
  | .list items => by
    rw [Value.reread, Document.skipFault?, itemsSkipFault?_reread items]
    rfl
  | .record fields => by
    rw [Value.reread, Document.skipFault?, fieldsSkipFault?_reread fields]
    rfl

theorem itemsSkipFault?_reread : ∀ vs : List Value, itemsSkipFault? (itemsReread vs) = none
  | [] => rfl
  | v :: vs => by
    rw [itemsReread, itemsSkipFault?, skipFault?_reread v, itemsSkipFault?_reread vs]
    rfl

theorem fieldsSkipFault?_reread :
    ∀ fs : List (String × Value), fieldsSkipFault? (fieldsReread fs) = none
  | [] => rfl
  | (k, v) :: fs => by
    rw [fieldsReread, fieldsSkipFault?, skipFault?_reread v, fieldsSkipFault?_reread fs]
    rfl

end

section

variable {fuel : Nat} {blank chars rest : List Char}

/-! ## Between the tokens -/

/-- A layout puts nothing but spaces between the tokens. -/
structure Layout.IsBlank (layout : Layout) : Prop where
  gap : ∀ depth, ∀ c ∈ layout.gap depth, isSpace c = true
  afterColon : ∀ c ∈ layout.afterColon, isSpace c = true

theorem Layout.isBlank_compact : Layout.compact.IsBlank := ⟨fun _ => nofun, nofun⟩

theorem Layout.isBlank_pretty : Layout.pretty.IsBlank where
  gap depth c hc := by
    rcases List.mem_cons.mp hc with rfl | hc
    · decide
    · rw [List.eq_of_mem_replicate hc]
      decide
  afterColon := List.forall_mem_singleton.mpr rfl

theorem skipSpace_append (h : ∀ c ∈ blank, isSpace c = true) (rest : List Char) :
    skipSpace (blank ++ rest) = skipSpace rest := by
  rw [skipSpace, List.dropWhile_append_of_pos h]
  rfl

theorem skipSpace_cons {c : Char} (h : isSpace c = false) (rest : List Char) :
    skipSpace (c :: rest) = c :: rest := by
  rw [skipSpace, List.dropWhile_cons_of_neg (by simp [h])]

theorem readValue_blank (h : ∀ c ∈ blank, isSpace c = true) (fuel : Nat) (rest : List Char) :
    readValue fuel (blank ++ rest) = readValue fuel rest := by
  cases fuel with
  | zero => rfl
  | succ fuel => simp only [readValue, skipSpace_append h]

theorem readItems_blank (h : ∀ c ∈ blank, isSpace c = true) (fuel : Nat) (first : Bool)
    (rest : List Char) : readItems fuel first (blank ++ rest) = readItems fuel first rest := by
  cases fuel with
  | zero => rfl
  | succ fuel => simp only [readItems, skipSpace_append h]

theorem readFields_blank (h : ∀ c ∈ blank, isSpace c = true) (fuel : Nat) (first : Bool)
    (rest : List Char) : readFields fuel first (blank ++ rest) = readFields fuel first rest := by
  cases fuel with
  | zero => rfl
  | succ fuel => simp only [readFields, skipSpace_append h]

/-- No number goes on over spaces and a character of the document around it. -/
theorem ends_blank (h : ∀ c ∈ blank, isSpace c = true) {mark : Char}
    (hmark : mark ∈ [',', ']', '\x7d']) (rest : List Char) : Ends (blank ++ mark :: rest) := by
  have hspace : ∀ c, isSpace c = true → c.isDigit = false ∧ c ≠ '.' ∧ c ≠ 'e' ∧ c ≠ 'E' := by
    intro c hc
    simp only [isSpace, Bool.or_eq_true, beq_iff_eq] at hc
    rcases hc with ((rfl | rfl) | rfl) | rfl <;> decide
  have hmarks : ∀ c ∈ [',', ']', '\x7d'], c.isDigit = false ∧ c ≠ '.' ∧ c ≠ 'e' ∧ c ≠ 'E' := by
    simp only [List.forall_mem_cons]
    exact ⟨by decide, by decide, by decide, nofun⟩
  intro c hc
  cases blank with
  | nil =>
    cases hc
    exact hmarks _ hmark
  | cons b blank =>
    cases hc
    exact hspace _ (h _ List.mem_cons_self)

theorem ends_mark {mark : Char} (hmark : mark ∈ [',', ']', '\x7d']) (rest : List Char) :
    Ends (mark :: rest) :=
  ends_blank (List.forall_mem_nil _) hmark rest

/-! ## Leaves -/

theorem worth?_of_reads {n : Numeral} (h : Reads chars n) : worth? chars = n.value? := by
  have hread := h [] nofun
  rw [List.append_nil] at hread
  rw [worth?, hread]

/-- The text of a number starts like one. -/
theorem Literal.IsValid.exists_cons {l : Literal} (h : l.IsValid) :
    ∃ c more, l.chars = c :: more ∧ (c == '-' || c.isDigit) = true := by
  obtain ⟨c, more, hwhole, hc⟩ := h.whole.exists_cons
  cases hsign : l.negative with
  | true => exact ⟨'-', _, by rw [chars, hsign]; rfl, rfl⟩
  | false => exact ⟨c, _, by rw [chars, hsign, hwhole]; rfl, by simp [hc]⟩

/-- A character that a value can start with. -/
def Opens (c : Char) : Prop :=
  c ∈ ['n', 't', 'f', '"', '[', '\x7b'] ∨ (c == '-' || c.isDigit) = true

theorem Opens.ne {c : Char} (h : Opens c) {d : Char}
    (hd : d ∉ ['n', 't', 'f', '"', '[', '\x7b'] ∧ (d == '-' || d.isDigit) = false) : c ≠ d := by
  rintro rfl
  rcases h with h | h
  · exact hd.1 h
  · rw [hd.2] at h
    cases h

theorem Opens.isSpace {c : Char} (h : Opens c) : isSpace c = false := by
  have hne : ∀ d ∈ [' ', '\n', '\t', '\r'], c ≠ d := by
    simp only [List.forall_mem_cons]
    exact ⟨h.ne (by decide), h.ne (by decide), h.ne (by decide), h.ne (by decide), nofun⟩
  simp only [List.mem_cons, List.not_mem_nil, or_false, forall_eq_or_imp, forall_eq] at hne
  simp [Json.isSpace, hne]

theorem readValue_literal {l : Literal} (h : l.IsValid) (fuel : Nat) (hrest : Ends rest) :
    readValue (fuel + 1) (l.chars ++ rest) = (.number (worth? l.chars), rest) := by
  have hread := h.reads rest hrest
  have hworth := worth?_of_reads h.reads
  obtain ⟨c, more, hchars, hc⟩ := h.exists_cons
  have hopens : Opens c := .inr hc
  have hnumber : readNumber (l.chars ++ rest) = (.number (worth? l.chars), rest) := by
    rw [readNumber, hread, hworth]
  rw [hchars, List.cons_append] at hnumber ⊢
  rw [readValue, skipSpace_cons hopens.isSpace]
  split
  case h_8 hcons =>
    cases hcons
    rw [if_pos hc, hnumber]
  all_goals
    next hcons =>
    cases hcons
    try cases hc

theorem readValue_text (s : String) (fuel : Nat) (rest : List Char) :
    readValue (fuel + 1) (stringChars s ++ rest) = (.text (some s), rest) := by
  have hread := readString_escaped s rest
  rw [stringChars, List.cons_append, List.append_assoc, List.singleton_append]
  simp only [readValue, skipSpace_cons (c := '"') (by decide), hread]

/-! ## Lists and records -/

variable {item : Document} {c : Char} {first : Bool} {text : List Char}

theorem readItems_item (hspace : isSpace c = false) (hclose : c ≠ ']')
    (hfirst : first = true ∨ c = ',')
    (hitem : readValue fuel (if first then c :: text else text) = (item, rest))
    (hcut : ∀ cut, item ≠ .cut cut) :
    readItems (fuel + 1) first (c :: text)
      = (item :: (readItems fuel false rest).1, (readItems fuel false rest).2) := by
  rw [readItems, skipSpace_cons hspace]
  split
  · next heq => cases heq
  · next heq =>
    cases heq
    exact absurd rfl hclose
  · next d rest' _ heq =>
    cases heq
    rw [if_pos (by simpa using hfirst), hitem]
    split
    · next heq =>
      cases heq
      exact absurd rfl (hcut _)
    · next heq =>
      cases heq
      rfl

theorem readFields_field {k : String} {value : List Char} (hspace : isSpace c = false)
    (hclose : c ≠ '\x7d') (hfirst : first = true ∨ c = ',')
    (hkey : skipSpace (if first then c :: text else text) = stringChars k ++ ':' :: value)
    (hitem : readValue fuel value = (item, rest)) (hcut : ∀ cut, item ≠ .cut cut) :
    readFields (fuel + 1) first (c :: text)
      = ((some k, item) :: (readFields fuel false rest).1, (readFields fuel false rest).2) := by
  have hread := readString_escaped k (':' :: value)
  rw [stringChars, List.cons_append, List.append_assoc, List.singleton_append] at hkey
  rw [readFields, skipSpace_cons hspace]
  split
  · next heq => cases heq
  · next heq =>
    cases heq
    exact absurd rfl hclose
  · next d rest' _ heq =>
    cases heq
    have hcolon : skipSpace (':' :: value) = ':' :: value := skipSpace_cons (by decide) value
    rw [if_pos (by simpa using hfirst), hkey]
    simp only [hread, hcolon, hitem]

theorem readValue_list {items : List Document}
    (h : readItems fuel true text = (items, .closed, rest)) :
    readValue (fuel + 1) ('[' :: text) = (.list items .closed, rest) := by
  have hspace : skipSpace ('[' :: text) = '[' :: text := skipSpace_cons (by decide) text
  simp only [readValue, hspace, h]

theorem readValue_record {fields : List (Option String × Document)}
    (h : readFields fuel true text = (fields, .closed, rest)) :
    readValue (fuel + 1) ('\x7b' :: text) = (.record fields .closed, rest) := by
  have hspace : skipSpace ('\x7b' :: text) = '\x7b' :: text := skipSpace_cons (by decide) text
  simp only [readValue, hspace, h]

theorem ends_itemsChars {layout : Layout} (h : layout.IsBlank) (depth depth' : Nat)
    (vs : List Value) (rest : List Char) :
    Ends (itemsChars layout depth vs ++ (layout.gap depth' ++ ']' :: rest)) := by
  cases vs with
  | nil => exact ends_blank (h.gap depth') (by decide) rest
  | cons v vs => exact ends_mark (by decide) _

theorem ends_fieldsChars {layout : Layout} (h : layout.IsBlank) (depth depth' : Nat)
    (fs : List (String × Value)) (rest : List Char) :
    Ends (fieldsChars layout depth fs ++ (layout.gap depth' ++ '\x7d' :: rest)) := by
  cases fs with
  | nil => exact ends_blank (h.gap depth') (by decide) rest
  | cons f fs => exact ends_mark (by decide) _

theorem exists_opens_chars (layout : Layout) (depth : Nat) (v : Value) :
    ∃ c more, v.chars layout depth = c :: more ∧ Opens c := by
  cases v with
  | null => exact ⟨'n', _, rfl, .inl (by decide)⟩
  | bool b => cases b <;> exact ⟨_, _, rfl, .inl (by decide)⟩
  | int n =>
    obtain ⟨c, more, hchars, hc⟩ := (Literal.isValid_ofInt n).exists_cons
    exact ⟨c, more, by rw [Value.chars, ← Literal.chars_ofInt, hchars], .inr hc⟩
  | float f =>
    rw [Value.chars, floatLiteral]
    split
    · next hfinite =>
      obtain ⟨l, hvalid, hl⟩ := exists_literal_floatChars hfinite
      obtain ⟨c, more, hchars, hc⟩ := hvalid.exists_cons
      exact ⟨c, more, by rw [← hl, hchars], .inr hc⟩
    · exact ⟨'n', _, rfl, .inl (by decide)⟩
  | text s => exact ⟨'"', _, rfl, .inl (by decide)⟩
  | list items => cases items <;> exact ⟨'[', _, rfl, .inl (by decide)⟩
  | record fields => cases fields <;> exact ⟨'\x7b', _, rfl, .inl (by decide)⟩

mutual

/-- **The text of a value is read as the value**, wherever it stands. -/
theorem read_chars {layout : Layout} (h : layout.IsBlank) : ∀ (v : Value) (depth fuel : Nat)
    (rest : List Char), (v.chars layout depth).length ≤ fuel → Ends rest →
    readValue fuel (v.chars layout depth ++ rest) = (v.reread, rest)
  | v, depth, 0, rest, hfuel, _ => by
    obtain ⟨c, more, hchars, -⟩ := exists_opens_chars layout depth v
    rw [hchars] at hfuel
    cases hfuel
  | .null, _, fuel + 1, rest, _, _ => rfl
  | .bool true, _, fuel + 1, rest, _, _ => rfl
  | .bool false, _, fuel + 1, rest, _, _ => rfl
  | .int n, _, fuel + 1, rest, _, hrest => by
    rw [Value.chars, Value.reread, ← Literal.chars_ofInt]
    exact readValue_literal (Literal.isValid_ofInt n) fuel hrest
  | .float f, _, fuel + 1, rest, _, hrest => by
    rw [Value.chars, Value.reread, floatLiteral]
    split
    · next hfinite =>
      obtain ⟨l, hvalid, hl⟩ := exists_literal_floatChars hfinite
      rw [← hl]
      exact readValue_literal hvalid fuel hrest
    · rfl
  | .text s, _, fuel + 1, rest, _, _ => readValue_text s fuel rest
  | .list [], _, 1, rest, hfuel, _ | .record [], _, 1, rest, hfuel, _ => by
    simp [Value.chars] at hfuel
  | .list [], _, fuel + 2, rest, _, _ | .record [], _, fuel + 2, rest, _, _ => rfl
  | .list (v :: vs), depth, fuel + 1, rest, hfuel, _ => by
    obtain ⟨c, more, hchars, hc⟩ := exists_opens_chars layout (depth + 1) v
    have hlen : 0 < (v.chars layout (depth + 1)).length := by simp [hchars]
    simp only [Value.chars, List.length_cons, List.length_append, List.length_nil] at hfuel
    obtain ⟨fuel, rfl⟩ : ∃ n, fuel = n + 1 := ⟨fuel - 1, by omega⟩
    have hv := read_chars h v (depth + 1) fuel (itemsChars layout (depth + 1) vs
      ++ (layout.gap depth ++ ']' :: rest)) (by omega) (ends_itemsChars h _ _ vs rest)
    have hvs := readItems_chars h vs (depth + 1) depth fuel rest (by omega)
    simp only [Value.chars, List.cons_append, List.append_assoc, Value.reread, itemsReread]
    refine readValue_list ?_
    rw [readItems_blank (h.gap _)]
    rw [hchars, List.cons_append] at hv ⊢
    rw [List.nil_append, readItems_item hc.isSpace (hc.ne (by decide)) (.inl rfl) hv
      (reread_ne_cut v), hvs]
  | .record ((k, v) :: fs), depth, fuel + 1, rest, hfuel, _ => by
    simp only [Value.chars, List.length_cons, List.length_append, List.length_nil] at hfuel
    obtain ⟨fuel, rfl⟩ : ∃ n, fuel = n + 1 := ⟨fuel - 1, by omega⟩
    have hv := read_chars h v (depth + 1) fuel (fieldsChars layout (depth + 1) fs
      ++ (layout.gap depth ++ '\x7d' :: rest)) (by omega) (ends_fieldsChars h _ _ fs rest)
    have hfs := readFields_chars h fs (depth + 1) depth fuel rest (by omega)
    rw [← readValue_blank h.afterColon] at hv
    simp only [Value.chars, List.cons_append, List.append_assoc, Value.reread, fieldsReread]
    refine readValue_record ?_
    rw [readFields_blank (h.gap _), List.nil_append]
    refine Eq.trans (readFields_field (by decide) (by decide) (.inl rfl)
      (skipSpace_cons (by decide) _) hv (reread_ne_cut v)) ?_
    rw [hfs]

/-- The items after the first are read up to the bracket. -/
theorem readItems_chars {layout : Layout} (h : layout.IsBlank) : ∀ (vs : List Value)
    (depth depth' fuel : Nat) (rest : List Char),
    (itemsChars layout depth vs).length + (layout.gap depth').length + 1 ≤ fuel →
    readItems fuel false (itemsChars layout depth vs ++ (layout.gap depth' ++ ']' :: rest))
      = (itemsReread vs, .closed, rest)
  | [], depth, depth', fuel, rest, hfuel => by
    obtain ⟨fuel, rfl⟩ : ∃ n, fuel = n + 1 := ⟨fuel - 1, by omega⟩
    rw [itemsChars, List.nil_append, readItems_blank (h.gap depth')]
    rfl
  | v :: vs, depth, depth', fuel, rest, hfuel => by
    obtain ⟨fuel, rfl⟩ : ∃ n, fuel = n + 1 := ⟨fuel - 1, by omega⟩
    simp only [itemsChars, List.length_cons, List.length_append] at hfuel
    have hv := read_chars h v depth fuel (itemsChars layout depth vs
      ++ (layout.gap depth' ++ ']' :: rest)) (by omega) (ends_itemsChars h _ _ vs rest)
    have hvs := readItems_chars h vs depth depth' fuel rest (by omega)
    rw [← readValue_blank (h.gap depth)] at hv
    simp only [itemsChars, List.cons_append, List.append_assoc]
    rw [readItems_item (by decide) (by decide) (.inr rfl) hv (reread_ne_cut v), hvs, itemsReread]

/-- The fields after the first are read up to the brace. -/
theorem readFields_chars {layout : Layout} (h : layout.IsBlank) : ∀ (fs : List (String × Value))
    (depth depth' fuel : Nat) (rest : List Char),
    (fieldsChars layout depth fs).length + (layout.gap depth').length + 1 ≤ fuel →
    readFields fuel false (fieldsChars layout depth fs ++ (layout.gap depth' ++ '\x7d' :: rest))
      = (fieldsReread fs, .closed, rest)
  | [], depth, depth', fuel, rest, hfuel => by
    obtain ⟨fuel, rfl⟩ : ∃ n, fuel = n + 1 := ⟨fuel - 1, by omega⟩
    rw [fieldsChars, List.nil_append, readFields_blank (h.gap depth')]
    rfl
  | (k, v) :: fs, depth, depth', fuel, rest, hfuel => by
    obtain ⟨fuel, rfl⟩ : ∃ n, fuel = n + 1 := ⟨fuel - 1, by omega⟩
    simp only [fieldsChars, List.length_cons, List.length_append] at hfuel
    have hv := read_chars h v depth fuel (fieldsChars layout depth fs
      ++ (layout.gap depth' ++ '\x7d' :: rest)) (by omega) (ends_fieldsChars h _ _ fs rest)
    have hfs := readFields_chars h fs depth depth' fuel rest (by omega)
    rw [← readValue_blank h.afterColon] at hv
    have hkey : skipSpace (layout.gap depth ++ (stringChars k ++ ':' :: (layout.afterColon
        ++ (v.chars layout depth ++ (fieldsChars layout depth fs
        ++ (layout.gap depth' ++ '\x7d' :: rest)))))) = stringChars k ++ ':' ::
        (layout.afterColon ++ (v.chars layout depth ++ (fieldsChars layout depth fs
        ++ (layout.gap depth' ++ '\x7d' :: rest)))) := by
      rw [skipSpace_append (h.gap depth)]
      exact skipSpace_cons (by decide) _
    simp only [fieldsChars, List.cons_append, List.append_assoc]
    refine Eq.trans (readFields_field (by decide) (by decide) (.inr rfl) hkey hv
      (reread_ne_cut v)) ?_
    rw [hfs, fieldsReread]

end

/-! ## Whole texts -/

/-- **The text of a value is read as the value, and to its end.** -/
theorem Document.read_chars {layout : Layout} (h : layout.IsBlank) (v : Value) :
    Document.read (v.chars layout 0) = (v.reread, true) := by
  have hread := Json.read_chars h v 0 (2 * (v.chars layout 0).length + 2) [] (by omega) nofun
  rw [List.append_nil] at hread
  rw [Document.read, hread]
  rfl

/-- The two texts of a value: on one line, and with one item a line. -/
def Value.texts (v : Value) : List String := [v.compact, v.pretty]

/-- **A text of a value is decoded as its tree is.** -/
theorem decodeText_of_mem_texts {α : Type} (dec : Decoder α) {v : Value} {text : String}
    (h : text ∈ v.texts) : decodeText dec text = dec .stream v.reread := by
  obtain ⟨layout, hblank, rfl⟩ : ∃ layout : Layout, layout.IsBlank ∧
      text = String.ofList (v.chars layout 0) := by
    rcases List.mem_pair.mp h with rfl | rfl
    · exact ⟨_, Layout.isBlank_compact, rfl⟩
    · exact ⟨_, Layout.isBlank_pretty, rfl⟩
  rw [decodeText, String.toList_ofList, Document.read_chars hblank]
  cases hdec : dec .stream v.reread <;> simp only [hdec, if_true]

end

end ValidatorGen.Json
