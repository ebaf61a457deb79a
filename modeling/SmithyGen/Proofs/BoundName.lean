import SmithyGen.Code.Expression
import SmithyGen.Proofs.Identifier
import SmithyGen.Text.Normal

namespace SmithyGen

theorem Text.normal_eq_self {s : String} (h : ∀ c ∈ s.toList, c.toNat < 128) :
    Text.normal s = s := by
  have hall : s.toList.all (·.toNat < 128) = true := by simpa using h
  rw [normal, if_pos hall]

namespace Code

/-- A word that may name something: an identifier that is not reserved as it is written. What its
normal form is does not matter, but for the one constant that is no keyword. -/
def isFreeName (word : String) : Bool :=
  Text.isIdentifier word.toList && isName word && Text.normal word != "__debug__"

/-- Two underscores in front, and not two at the end. -/
def isPrivate (name : String) : Bool :=
  "__".toList.isPrefixOf name.toList && !"__".toList.isSuffixOf name.toList

/-- A word that names the same inside and outside of classes. -/
def isSharedName (word : String) : Bool := isFreeName word && !isPrivate (Text.normal word)

/-- A type that a module can import, if the module uses some names itself. -/
def isImportable (used : List String) (type : String) : Bool :=
  isSharedName type && !used.contains (Text.normal type)

/-- A private name takes that of its class in front, unless the class has underscores only. -/
def mangled (className name : String) : String :=
  match className.toList.dropWhile (· == '_') with
  | [] => name
  | cs => if isPrivate name then String.ofList ('_' :: cs ++ name.toList) else name

/-- What a word names in the text of a class. Names are compared in their normal form, so that this
is not always the word itself. -/
def boundName? (className word : String) : Option String :=
  if isFreeName word then some (mangled (Text.normal className) (Text.normal word)) else none

/-- A word that names the same in every class, and that under which it can be asked for. -/
structure IsPlainName (word : String) : Prop where
  isFree : isFreeName word = true
  normal_eq : Text.normal word = word
  isShared : isPrivate word = false

instance (word : String) : Decidable (IsPlainName word) :=
  decidable_of_iff (isFreeName word = true ∧ Text.normal word = word ∧ isPrivate word = false)
    ⟨fun ⟨hfree, hnormal, hshared⟩ => ⟨hfree, hnormal, hshared⟩,
      fun ⟨hfree, hnormal, hshared⟩ => ⟨hfree, hnormal, hshared⟩⟩

theorem isSharedName_of_isImportable {used : List String} {type : String}
    (h : isImportable used type = true) : isSharedName type = true := by
  rw [isImportable, Bool.and_eq_true] at h
  exact h.1

theorem mangled_of_not_isPrivate {name : String} (h : isPrivate name = false)
    (className : String) : mangled className name = name := by
  unfold mangled
  split
  · rfl
  · rw [h, if_neg Bool.false_ne_true]

theorem IsPlainName.boundName? {word : String} (h : IsPlainName word) (className : String) :
    boundName? className word = some word := by
  rw [Code.boundName?, if_pos h.isFree, h.normal_eq, mangled_of_not_isPrivate h.isShared]

theorem isDigit_of_isAlpha {c : Char} (h : c.isAlpha = true) : c.isDigit = false := by
  rw [Naming.isAlpha_eq, Bool.or_eq_true] at h
  rcases h with hupper | hlower
  · exact (Naming.isDigit_isLower_of_isUpper hupper).1
  · exact (Naming.isDigit_isUpper_of_isLower hlower).1

theorem toNat_lt_of_isDigit {c : Char} (h : c.isDigit = true) : c.toNat < 128 := by
  have hnine := (Naming.isDigit_iff.mp h).2
  omega

theorem isSound_of_isFreeName {word : String} (h : isFreeName word = true) :
    (Symbol.word word).isSound = true := by
  have hidentifier : Text.isIdentifier word.toList = true := by
    simp only [isFreeName, Bool.and_eq_true] at h
    exact h.1.1
  have hword : ∀ c, Text.isIdentContinue c = true → isWordChar c = true := by
    intro c hc
    by_cases hlow : c.toNat < 128
    · rw [Text.isIdentContinue, if_pos hlow] at hc
      rw [isWordChar, hc, Bool.true_or]
    · simp [isWordChar, Nat.le_of_not_lt hlow]
  cases hcs : word.toList with
  | nil => simp [hcs, Text.isIdentifier] at hidentifier
  | cons c cs =>
    rw [hcs, Text.isIdentifier, Bool.and_eq_true, List.all_eq_true] at hidentifier
    obtain ⟨hstart, hrest⟩ := hidentifier
    obtain ⟨hfirst, hdigit⟩ : isWordChar c = true ∧ c.isDigit = false := by
      by_cases hlow : c.toNat < 128
      · rw [Text.isIdentStart, if_pos hlow, Bool.or_eq_true, beq_iff_eq] at hstart
        rcases hstart with halpha | rfl
        · exact ⟨by simp [isWordChar, Char.isAlphanum, halpha], isDigit_of_isAlpha halpha⟩
        · exact ⟨rfl, rfl⟩
      · refine ⟨by simp [isWordChar, Nat.le_of_not_lt hlow], ?_⟩
        rw [Bool.eq_false_iff]
        intro hdigit
        exact hlow (toNat_lt_of_isDigit hdigit)
    simp only [Symbol.isSound, hcs, List.head?_cons, Option.any_some, hdigit, Bool.not_false,
      List.all_cons, hfirst, Bool.true_and, List.all_eq_true]
    exact fun d hd => hword d (hrest d hd)

theorem isSome_boundName? (className word : String) :
    (boundName? className word).isSome = isFreeName word := by
  unfold boundName?
  split_ifs with h <;> simp [h]

end Code

namespace Naming

open Code

theorem identifier_snake_cases (name : String) (h : snake name ≠ "") :
    ∃ c cs, (snake name).toList = c :: cs ∧ c.isAlphanum = true
      ∧ ∃ front back, (front = [] ∨ front = ['_']) ∧ (back = [] ∨ back = ['_'])
        ∧ (identifier (snake name)).toList = front ++ (c :: cs) ++ back := by
  have hcleaned : (snake name).toList.map cleaned = (snake name).toList := by
    refine List.map_congr_left (fun c hc => ?_) |>.trans (List.map_id _)
    exact if_pos (isWord_of_isSnakeChar (isSnakeChar_of_mem_snake hc))
  cases hs : (snake name).toList with
  | nil => exact absurd (String.toList_inj.mp hs) h
  | cons c cs =>
    refine ⟨c, cs, rfl, isAlphanum_head_snake (by rw [hs]; rfl), ?_⟩
    obtain ⟨front, hfront, hstarted⟩ : ∃ front, (front = [] ∨ front = ['_'])
        ∧ started (c :: cs) = front ++ c :: cs := by
      rw [started]
      split_ifs
      · exact ⟨['_'], Or.inr rfl, rfl⟩
      · exact ⟨[], Or.inl rfl, rfl⟩
    rw [identifier_eq, hcleaned, hs, hstarted]
    split_ifs
    · exact ⟨front, ['_'], hfront, Or.inr rfl, by simp [String.toList_append]⟩
    · exact ⟨front, [], hfront, Or.inl rfl, by simp⟩

theorem isPrefixOf_of_head {c : Char} {front cs : List Char} {s : String}
    (hfront : front = [] ∨ front = ['_']) (hc : c.isAlphanum = true)
    (hs : s.toList = front ++ c :: cs) : "__".toList.isPrefixOf s.toList = false := by
  have hne : c ≠ '_' := by
    rintro rfl
    exact absurd hc (by decide)
  have hmark : "__".toList = ['_', '_'] := by decide
  rw [hmark, hs]
  rcases hfront with rfl | rfl
  · simp [List.isPrefixOf, Ne.symm hne]
  · simp [List.isPrefixOf, Ne.symm hne]

/-- A name with a letter or digit of ASCII gives a plain name. -/
theorem isPlainName_attributeName {name : String} (h : ∃ c ∈ name.toList, c.isAlphanum = true) :
    IsPlainName (attributeName name) := by
  have hsnake := (snake_ne_empty_iff name).mpr h
  have hname : attributeName name = identifier (snake name) := by simp [attributeName, hsnake]
  obtain ⟨c, cs, hcs, hc, front, back, hfront, hback, hlist⟩ := identifier_snake_cases name hsnake
  have hlow : ∀ d ∈ (identifier (snake name)).toList, d.toNat < 128 := by
    intro d hd
    rw [hlist, ← hcs] at hd
    rcases List.mem_append.mp hd with hd | hd
    · rcases List.mem_append.mp hd with hd | hd
      · rcases hfront with rfl | rfl
        · cases hd
        · obtain rfl := List.mem_singleton.mp hd
          decide
      · exact toNat_lt_of_isSnakeChar (isSnakeChar_of_mem_snake hd)
    · rcases hback with rfl | rfl
      · cases hd
      · obtain rfl := List.mem_singleton.mp hd
        decide
  have hnormal := Text.normal_eq_self hlow
  have hidentifier : Text.isIdentifier (identifier (snake name)).toList = true :=
    (isIdentifier_identifier_iff _).mpr (fitsIdentifier_snake name)
  have hreserved : isName (identifier (snake name)) = true := by
    have hfree : identifier (snake name) ∉ keywords := not_mem_keywords_identifier _
    simp [isName, hfree]
  rw [List.append_assoc, List.cons_append] at hlist
  have hstart := isPrefixOf_of_head hfront hc hlist
  have hconstant : identifier (snake name) ≠ "__debug__" := by
    intro hdebug
    rw [hdebug] at hstart
    exact absurd hstart (by decide)
  have hshared : isPrivate (identifier (snake name)) = false := by
    rw [isPrivate, hstart, Bool.false_and]
  rw [hname]
  exact ⟨by simp [isFreeName, hnormal, hidentifier, hreserved, hconstant], hnormal, hshared⟩

end Naming

end SmithyGen
