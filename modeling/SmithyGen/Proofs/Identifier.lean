import SmithyGen.Proofs.Attribute
import SmithyGen.Text.IdentChar

namespace SmithyGen

namespace Text

theorem isIdentifier_append_underscore {cs : List Char} (h : cs ≠ []) :
    isIdentifier (cs ++ ['_']) = isIdentifier cs := by
  have hmark : isIdentContinue '_' = true := by decide
  cases cs with
  | nil => exact absurd rfl h
  | cons c cs => simp [isIdentifier, hmark]

theorem isIdentContinue_eq_isWord {c : Char} (h : c.toNat < 128) : isIdentContinue c = isWord c := by
  rw [isIdentContinue, isWord, if_pos h, if_pos h]

end Text

namespace Naming

/-- The word characters of a name may stand in an identifier, each at its place. A digit in front
comes to stand after an underscore. -/
def FitsIdentifier : List Char → Prop
  | [] => True
  | c :: cs =>
    (Text.isWord c = true →
      (if Text.isDigitLike c then Text.isIdentContinue c else Text.isIdentStart c) = true)
      ∧ ∀ d ∈ cs, Text.isWord d = true → Text.isIdentContinue d = true

instance : (cs : List Char) → Decidable (FitsIdentifier cs)
  | [] => .isTrue trivial
  | _ :: _ => inferInstanceAs (Decidable (_ ∧ _))

section Identifier

def cleaned (c : Char) : Char := if Text.isWord c then c else '_'

theorem isIdentContinue_cleaned_iff (c : Char) :
    Text.isIdentContinue (cleaned c) = true
      ↔ (Text.isWord c = true → Text.isIdentContinue c = true) := by
  have hmark : Text.isIdentContinue '_' = true := by decide
  unfold cleaned
  split_ifs with h <;> simp [h, hmark]

theorem all_map_cleaned_iff (cs : List Char) :
    (cs.map cleaned).all Text.isIdentContinue = true
      ↔ ∀ c ∈ cs, Text.isWord c = true → Text.isIdentContinue c = true := by
  simp only [List.all_map, List.all_eq_true, Function.comp_apply, isIdentContinue_cleaned_iff]

def started : List Char → List Char
  | [] => ['_']
  | c :: cs => if Text.isDigitLike c then '_' :: c :: cs else c :: cs

theorem started_ne_nil (cs : List Char) : started cs ≠ [] := by
  unfold started
  split
  · simp
  · split_ifs <;> simp

theorem isIdentifier_started_iff (cs : List Char) :
    Text.isIdentifier (started (cs.map cleaned)) = true ↔ FitsIdentifier cs := by
  cases cs with
  | nil => exact iff_of_true (by decide) trivial
  | cons c cs =>
    have hmark : Text.isDigitLike '_' = false ∧ Text.isIdentStart '_' = true := by decide
    have hrest := all_map_cleaned_iff cs
    by_cases hword : Text.isWord c = true
    · have hclean : cleaned c = c := if_pos hword
      rw [List.map_cons, hclean, started]
      split_ifs with hdigit
      · simp [Text.isIdentifier, FitsIdentifier, hmark.2, hword, hdigit, ← hrest]
      · simp [Text.isIdentifier, FitsIdentifier, hword, hdigit, ← hrest]
    · have hclean : cleaned c = '_' := if_neg hword
      rw [List.map_cons, hclean, started, if_neg (by simp [hmark.1])]
      simp [Text.isIdentifier, FitsIdentifier, hmark.2, hword, ← hrest]

theorem identifier_eq (s : String) :
    identifier s = if keywords.contains (String.ofList (started (s.toList.map cleaned)))
      then String.ofList (started (s.toList.map cleaned)) ++ "_"
      else String.ofList (started (s.toList.map cleaned)) := by
  have hcleaned : s.toList.map (fun c => if Text.isWord c then c else '_')
      = s.toList.map cleaned := rfl
  rw [identifier, hcleaned]
  cases s.toList.map cleaned <;> rfl

/-- Where a name is moved aside, it stays what it was. -/
theorem isIdentifier_moved {s : String} (h : s ≠ "") (b : Bool) :
    Text.isIdentifier (if b then s ++ "_" else s).toList = Text.isIdentifier s.toList := by
  cases b with
  | false => rfl
  | true =>
    have hne : s.toList ≠ [] := fun hnil => h (String.toList_inj.mp hnil)
    rw [if_pos rfl, String.toList_append]
    exact Text.isIdentifier_append_underscore hne

theorem isIdentifier_identifier_iff (s : String) :
    Text.isIdentifier (identifier s).toList = true ↔ FitsIdentifier s.toList := by
  have hne : String.ofList (started (s.toList.map cleaned)) ≠ "" := by
    intro hempty
    have hnil := congrArg String.toList hempty
    rw [String.toList_ofList] at hnil
    exact started_ne_nil _ hnil
  rw [identifier_eq, isIdentifier_moved hne, String.toList_ofList, isIdentifier_started_iff]

theorem identifier_ne_empty (s : String) : identifier s ≠ "" := by
  obtain ⟨c, cs, hcs, -⟩ := Code.Symbol.word_head (isSound_identifier s)
  intro hempty
  rw [hempty] at hcs
  cases hcs

theorem not_mem_keywords_identifier (s : String) : identifier s ∉ keywords := by
  have hmoved : ∀ k ∈ keywords, k ++ "_" ∉ keywords := by decide
  rw [identifier_eq]
  split_ifs with h
  · exact hmoved _ (List.contains_iff_mem.mp h)
  · exact fun hmem => h (List.contains_iff_mem.mpr hmem)

end Identifier

section Attribute

theorem fieldAttribute_eq (name : String) :
    fieldAttribute name = if boundNames.contains (attributeName name)
      then attributeName name ++ "_" else attributeName name := rfl

theorem isIdentifier_fieldAttribute (name : String) :
    Text.isIdentifier (fieldAttribute name).toList
      = Text.isIdentifier (attributeName name).toList := by
  have hne : attributeName name ≠ "" := by
    rw [attributeName]
    exact identifier_ne_empty _
  rw [fieldAttribute_eq, isIdentifier_moved hne]

/-- An attribute is neither reserved nor bound by its class. -/
theorem fieldAttribute_free (name : String) :
    fieldAttribute name ∉ keywords ∧ fieldAttribute name ∉ boundNames := by
  have hmoved : ∀ a ∈ boundNames, a ++ "_" ∉ keywords ∧ a ++ "_" ∉ boundNames := by
    decide +kernel
  have hfree : attributeName name ∉ keywords := by
    rw [attributeName]
    exact not_mem_keywords_identifier _
  rw [fieldAttribute_eq]
  generalize attributeName name = a at hfree
  split_ifs with h
  · exact hmoved a (List.contains_iff_mem.mp h)
  · exact ⟨hfree, fun hmem => h (List.contains_iff_mem.mpr hmem)⟩

/-- The names with a word are those with a letter or digit of ASCII. -/
theorem snake_ne_empty_iff (name : String) :
    snake name ≠ "" ↔ ∃ c ∈ name.toList, c.isAlphanum = true := by
  constructor
  · intro h
    by_contra hnone
    have hplain : ∀ c ∈ name.toList, c.isAlphanum = false := by simpa using hnone
    have hwords : words name.toList = [] := by
      have hpasses : Matcher.Passes (fun _ => word?) none name.toList [] :=
        Matcher.passes_of_forall (fun _ c hc rest => word?_eq_none (hplain c hc) rest) none []
      have hall := Matcher.allFrom_of_passes hpasses
      rwa [List.append_nil] at hall
    rw [snake, hwords] at h
    exact h rfl
  · rintro ⟨c, hc, halnum⟩ hempty
    rw [not_isAlphanum_of_snake_eq_empty hempty hc] at halnum
    cases halnum

/-- Snake case fits: only its digits may not come first, and they get an underscore. -/
theorem fitsIdentifier_snake (name : String) : FitsIdentifier (snake name).toList := by
  have hsnake : ∀ c ∈ (snake name).toList, Text.isIdentContinue c = true := by
    intro c hc
    have hchar := isSnakeChar_of_mem_snake hc
    rw [Text.isIdentContinue_eq_isWord (toNat_lt_of_isSnakeChar hchar)]
    exact isWord_of_isSnakeChar hchar
  cases hs : (snake name).toList with
  | nil => trivial
  | cons c cs =>
    rw [hs] at hsnake
    refine ⟨fun _ => ?_, fun d hd _ => hsnake d (List.mem_cons_of_mem _ hd)⟩
    split_ifs with hdigit
    · exact hsnake c List.mem_cons_self
    · have hlow : c.toNat < 128 :=
        toNat_lt_of_isSnakeChar (isSnakeChar_of_mem_snake (by rw [hs]; exact List.mem_cons_self))
      have halnum : c.isAlphanum = true := isAlphanum_head_snake (by rw [hs]; rfl)
      rw [Text.isDigitLike, if_pos hlow] at hdigit
      have halpha : c.isAlpha = true := by simpa [Char.isAlphanum, hdigit] using halnum
      rw [Text.isIdentStart, if_pos hlow, halpha, Bool.true_or]

/-- The attribute of every name is free to use, and it is an identifier where the name has a letter
or digit of ASCII, or word characters that fit. -/
theorem fieldAttribute_isIdentifier_iff (name : String) :
    (Text.isIdentifier (fieldAttribute name).toList = true
        ↔ (∃ c ∈ name.toList, c.isAlphanum = true) ∨ FitsIdentifier name.toList)
      ∧ fieldAttribute name ∉ keywords ∧ fieldAttribute name ∉ boundNames := by
  refine ⟨?_, fieldAttribute_free name⟩
  rw [isIdentifier_fieldAttribute, attributeName, isIdentifier_identifier_iff, ← snake_ne_empty_iff]
  by_cases h : snake name = ""
  · simp [h]
  · simp [h, fitsIdentifier_snake]

/-- A fraction is a word character and stands in no identifier. -/
theorem fieldAttribute_fraction :
    fieldAttribute "é½" = "é½" ∧ Text.isIdentifier "é½".toList = false := by
  decide +kernel

end Attribute

end Naming

end SmithyGen
