/-
What casing sees of an identifier. Cutting a text into words loses its separators and nothing else
(`flatten_splitWords`), and a word is not cut any further (`splitWords_of_mem`). A casing other than
the source spelling reads nothing but the words (`Casing.apply_congr`), so that **an identifier that
is composed of parts goes by their words, however these are shared out among the parts**
(`words_compose`).
-/
import ValidatorGen.Proofs.Identifier.Humps

namespace ValidatorGen

open Identifier Text

namespace Identifier

variable {s t w : List Char} {c d : Char}

/-! ## Words -/

/-- **Cutting a text into words loses its separators and nothing else.** -/
theorem flatten_splitWords (t : List Char) :
    (splitWords t).flatten = t.filter fun c => !isSeparator c := by
  have hpieces : (fields isSeparator t).flatMap (fun piece => (humps piece).flatten)
      = (fields isSeparator t).flatten := by
    simp only [flatten_humps, List.flatMap_id']
  rw [← flatten_fields, ← hpieces, splitWords, List.flatten_eq_flatMap, List.flatMap_assoc]
  simp only [List.flatten_eq_flatMap]

/-- **A word is not cut any further.** -/
theorem splitWords_of_mem (h : w ∈ splitWords t) : splitWords w = [w] := by
  have hsep : ∀ c ∈ w, isSeparator c = false := fun c hc => (mem_of_mem_splitWords h hc).2
  obtain ⟨piece, -, hw⟩ := List.mem_flatMap.mp h
  rw [splitWords, fields_of_all_not isSeparator hsep, List.flatMap_singleton, humps_of_mem hw]

/-- A text of separators has no words. -/
theorem splitWords_of_separators (h : ∀ c ∈ t, isSeparator c = true) : splitWords t = [] := by
  induction t with
  | nil => rfl
  | cons c t ih =>
    have hcut := splitWords_append_sep (h c List.mem_cons_self) [] t
    rw [List.nil_append] at hcut
    rw [hcut, ih fun d hd => h d (List.mem_cons_of_mem c hd)]
    rfl

end Identifier

/-- A casing other than the source spelling reads nothing but the words. -/
theorem Casing.apply_congr {casing : Casing} (hcasing : casing ≠ .passthrough) {s t : List Char}
    (h : splitWords s = splitWords t) : casing.apply s = casing.apply t := by
  cases casing with
  | camelCase => simp only [Casing.apply, camel, h]
  | snakeCase => simp only [Casing.apply, snake, h]
  | pascalCase => simp only [Casing.apply, pascal, h]
  | passthrough => exact absurd rfl hcasing

namespace Identifier

/-! ## Identifiers in parts -/

/-- The words of a text are all of it but the separators, and none can be cut. -/
structure IsCut (text : String) : Prop where
  join : String.join (words text) = String.ofList (text.toList.filter fun c => !isSeparator c)
  ne_empty : ∀ w ∈ words text, w ≠ ""
  no_separator : ∀ w ∈ words text, ∀ c ∈ w.toList, isSeparator c = false
  whole : ∀ w ∈ words text, words w = [w]

/-- What is made of parts goes by their words alone. In particular parts may be joined to larger
ones by a separator, and parts without words may be added. -/
structure GoesByWords (f : List String → String) : Prop where
  congr : ∀ parts parts', parts.flatMap words = parts'.flatMap words → f parts = f parts'
  regroup : ∀ (groups : List (List String)) x, isSeparator x = true →
    f (groups.map (String.singleton x).intercalate) = f groups.flatten
  insert : ∀ before part after, (∀ c ∈ part.toList, isSeparator c = true) →
    f (before ++ part :: after) = f (before ++ after)

theorem exists_of_mem_words {text w : String} (h : w ∈ words text) :
    ∃ v ∈ splitWords text.toList, String.ofList v = w := List.mem_map.mp h

theorem isCut (text : String) : IsCut text where
  join := by
    rw [← String.toList_inj, String.toList_join, String.toList_ofList, words, List.flatMap_map]
    simp only [String.toList_ofList]
    rw [List.flatMap_id', flatten_splitWords]
  ne_empty w hw := by
    obtain ⟨v, hv, rfl⟩ := exists_of_mem_words hw
    exact fun hnil => ne_nil_of_mem_splitWords hv (String.ofList_inj.mp hnil)
  no_separator w hw c hc := by
    obtain ⟨v, hv, rfl⟩ := exists_of_mem_words hw
    rw [String.toList_ofList] at hc
    exact (mem_of_mem_splitWords hv hc).2
  whole w hw := by
    obtain ⟨v, hv, rfl⟩ := exists_of_mem_words hw
    rw [words, String.toList_ofList, splitWords_of_mem hv]
    rfl

theorem words_append_singleton {x : Char} (hx : isSeparator x = true) (a b : String) :
    words (a ++ String.singleton x ++ b) = words a ++ words b := by
  rw [words, String.toList_append, String.toList_append, String.toList_singleton, List.append_assoc,
    List.singleton_append, splitWords_append_sep hx, List.map_append]
  rfl

theorem words_intercalate {x : Char} (hx : isSeparator x = true) (group : List String) :
    words ((String.singleton x).intercalate group) = group.flatMap words := by
  rw [words, String.toList_intercalate, String.toList_singleton, splitWords_intercalate_sep hx,
    List.flatMap_map, List.map_flatMap]
  rfl

/-- The words of an identifier are those of its parts, whether these are empty or not. -/
theorem splitWords_parts (parts : List String) :
    splitWords (joined (parts.map String.toList)) = (parts.flatMap words).map String.toList := by
  rw [splitWords_joined, List.flatMap_map, List.map_flatMap]
  simp [words, Function.comp_def]

theorem goesByWords {casing : Casing} (h : casing ≠ .passthrough) :
    GoesByWords (compose · casing) := by
  have congr : ∀ parts parts', parts.flatMap words = parts'.flatMap words →
      compose parts casing = compose parts' casing := by
    intro parts parts' hwords
    refine congrArg String.ofList (Casing.apply_congr h ?_)
    show splitWords (joined _) = splitWords (joined _)
    rw [splitWords_parts, splitWords_parts, hwords]
  refine ⟨congr, fun groups x hx => congr _ _ ?_, fun before part after hpart => congr _ _ ?_⟩
  · rw [List.flatMap_map, List.flatMap_congr fun group _ => words_intercalate hx group,
      List.flatten_eq_flatMap, List.flatMap_assoc]
    rfl
  · have hnone : words part = [] := by rw [words, splitWords_of_separators hpart, List.map_nil]
    rw [List.flatMap_append, List.flatMap_append, List.flatMap_cons, hnone, List.nil_append]

/-- **A text is cut into words without loss, on either side of a separator on its own, and for good;
but in the source spelling, an identifier goes by the words of its parts.** -/
theorem words_compose : (∀ text, IsCut text) ∧
    (∀ a b x, isSeparator x = true → words (a ++ String.singleton x ++ b) = words a ++ words b) ∧
    ∀ casing : Casing, casing ≠ .passthrough → GoesByWords (compose · casing) :=
  ⟨isCut, fun a b _ hx => words_append_singleton hx a b, fun _ => goesByWords⟩

theorem words_compose_accountLink :
    words ("HTTPServer" ++ String.singleton '-' ++ "v2Id") = words "HTTPServer" ++ words "v2Id" ∧
    compose ["accountLink", "HTTP Server"] .camelCase
      = compose ["account", "Link-HTTP", "Server"] .camelCase ∧
    compose ["user accounts", "insert schema"] .snakeCase
      = compose ["user", "accounts", "insert", "schema"] .snakeCase ∧
    compose ["table", " _", "user"] .pascalCase = compose ["table", "user"] .pascalCase := by
  obtain ⟨-, happend, hgoes⟩ := words_compose
  refine ⟨happend _ _ '-' (by decide), ?_, ?_, ?_⟩
  · exact (hgoes .camelCase (by decide)).congr _ _ (by decide)
  · exact (hgoes .snakeCase (by decide)).regroup [["user", "accounts"], ["insert", "schema"]] ' '
      (by decide)
  · exact (hgoes .pascalCase (by decide)).insert ["table"] " _" ["user"]
      (forall_mem_of_all (by decide))

end Identifier

end ValidatorGen
