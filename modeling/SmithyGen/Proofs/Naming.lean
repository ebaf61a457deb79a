import Mathlib.Data.List.Basic
import Mathlib.Tactic.SplitIfs
import SmithyGen.Naming
import SmithyGen.Proofs.Search
import SmithyGen.Proofs.Text

namespace SmithyGen

namespace Naming

/-- The characters `a` and `b`, with `back` right after them, belong to two words. -/
def Breaks (a b : Char) (back : List Char) : Prop :=
  (a.isDigit ∧ b.isAlpha ∨ a.isAlpha ∧ b.isDigit) ∨ (a.isLower ∧ b.isUpper)
    ∨ (a.isUpper ∧ b.isUpper ∧ back.head?.any Char.isLower)

instance (a b : Char) (back : List Char) : Decidable (Breaks a b back) :=
  inferInstanceAs (Decidable (_ ∨ _))

/-- A word ends with `last` where `cs` comes after it. -/
def Ends (last : Char) : List Char → Prop
  | [] => True
  | c :: cs => c.isAlphanum = false ∨ Breaks last c cs

section Kinds

variable {c : Char}

theorem isUpper_iff : c.isUpper = true ↔ 65 ≤ c.toNat ∧ c.toNat ≤ 90 :=
  decide_eq_true_iff

theorem isLower_iff : c.isLower = true ↔ 97 ≤ c.toNat ∧ c.toNat ≤ 122 :=
  Bool.and_eq_true_iff.trans (and_congr decide_eq_true_iff decide_eq_true_iff)

theorem isDigit_iff : c.isDigit = true ↔ 48 ≤ c.toNat ∧ c.toNat ≤ 57 :=
  Bool.and_eq_true_iff.trans (and_congr decide_eq_true_iff decide_eq_true_iff)

theorem isAlpha_eq (c : Char) : c.isAlpha = (c.isUpper || c.isLower) := rfl

theorem isAlphanum_eq (c : Char) : c.isAlphanum = (c.isUpper || c.isLower || c.isDigit) := rfl

theorem isUpper_isLower_of_isDigit (h : c.isDigit = true) :
    c.isUpper = false ∧ c.isLower = false := by
  rw [isDigit_iff] at h
  rw [← Bool.not_eq_true, ← Bool.not_eq_true, isUpper_iff, isLower_iff]
  omega

theorem isDigit_isLower_of_isUpper (h : c.isUpper = true) :
    c.isDigit = false ∧ c.isLower = false := by
  rw [isUpper_iff] at h
  rw [← Bool.not_eq_true, ← Bool.not_eq_true, isDigit_iff, isLower_iff]
  omega

theorem isDigit_isUpper_of_isLower (h : c.isLower = true) :
    c.isDigit = false ∧ c.isUpper = false := by
  rw [isLower_iff] at h
  rw [← Bool.not_eq_true, ← Bool.not_eq_true, isDigit_iff, isUpper_iff]
  omega

theorem isAlphanum_cases (h : c.isAlphanum = true) :
    c.isUpper = true ∨ c.isLower = true ∨ c.isDigit = true := by
  simpa [isAlphanum_eq, or_assoc] using h

end Kinds

section FirstWord

variable {c : Char} (cs : List Char)

theorem word?_of_digit (h : c.isDigit = true) :
    word? (c :: cs) = some (c :: cs.takeWhile Char.isDigit, cs.dropWhile Char.isDigit) := by
  obtain ⟨hupper, hlower⟩ := isUpper_isLower_of_isDigit h
  simp [word?, h, hupper, hlower]

theorem word?_of_lower (h : c.isLower = true) :
    word? (c :: cs) = some (c :: cs.takeWhile Char.isLower, cs.dropWhile Char.isLower) := by
  simp [word?, h, (isDigit_isUpper_of_isLower h).2]

theorem word?_of_upper (h : c.isUpper = true) (hnext : cs.head?.any Char.isUpper = false) :
    word? (c :: cs) = some (c :: cs.takeWhile Char.isLower, cs.dropWhile Char.isLower) := by
  cases cs with
  | nil => simp [word?, h]
  | cons d ds =>
    have hd : d.isUpper = false := by simpa using hnext
    simp [word?, h, hd]

theorem word?_of_upper_upper {d : Char} {ds : List Char} (h : c.isUpper = true)
    (hd : d.isUpper = true) (hnext : ds.head?.any Char.isLower = true) :
    word? (c :: d :: ds) = some ([c], d :: ds) := by
  cases ds with
  | nil => cases hnext
  | cons e es =>
    have he : e.isLower = true := by simpa using hnext
    simp [word?, h, hd, he, (isDigit_isUpper_of_isLower he).2]

theorem word?_of_upper_run {d : Char} {ds : List Char} (h : c.isUpper = true)
    (hd : d.isUpper = true) (hnext : ds.head?.any Char.isLower = false) :
    ∃ w rest, word? (d :: ds) = some (w, rest) ∧ word? (c :: d :: ds) = some (c :: w, rest) := by
  cases ds with
  | nil => exact ⟨[d], [], by simp [word?, hd], by simp [word?, h, hd]⟩
  | cons e es =>
    have he : e.isLower = false := by simpa using hnext
    by_cases hu : e.isUpper = true
    · simp only [word?, List.takeWhile_cons_of_pos h, List.takeWhile_cons_of_pos hd,
        List.takeWhile_cons_of_pos hu, List.dropWhile_cons_of_pos h, List.dropWhile_cons_of_pos hd,
        List.dropWhile_cons_of_pos hu, List.getLast?_cons_cons, List.dropLast_cons_cons]
      split_ifs <;> exact ⟨_, _, rfl, rfl⟩
    · exact ⟨[d], e :: es, by simp [word?, hd, he, hu], by simp [word?, h, hd, he, hu]⟩

end FirstWord

section Ends

variable {c d : Char} {ds : List Char}

theorem ends_digit_iff (h : c.isDigit = true) : Ends c (d :: ds) ↔ d.isDigit = false := by
  have hkind := isUpper_isLower_of_isDigit h
  simp only [Ends, Breaks, isAlphanum_eq, isAlpha_eq, h, hkind]
  grind [isUpper_isLower_of_isDigit]

theorem ends_lower_iff (h : c.isLower = true) : Ends c (d :: ds) ↔ d.isLower = false := by
  have hkind := isDigit_isUpper_of_isLower h
  simp only [Ends, Breaks, isAlphanum_eq, isAlpha_eq, h, hkind]
  grind [isDigit_isUpper_of_isLower]

theorem ends_upper_iff (h : c.isUpper = true) :
    Ends c (d :: ds)
      ↔ d.isLower = false ∧ (d.isUpper = true → ds.head?.any Char.isLower = true) := by
  have hkind := isDigit_isLower_of_isUpper h
  simp only [Ends, Breaks, isAlphanum_eq, isAlpha_eq, h, hkind]
  grind [isDigit_isUpper_of_isLower, isDigit_isLower_of_isUpper]

end Ends

/-- The first word is one character long where it ends right after it. -/
theorem word?_of_ends {c : Char} {cs : List Char} (hc : c.isAlphanum = true) (h : Ends c cs) :
    word? (c :: cs) = some ([c], cs) := by
  rcases isAlphanum_cases hc with hu | hl | hd
  · cases cs with
    | nil => exact word?_of_upper [] hu rfl
    | cons d ds =>
      obtain ⟨hlower, hnext⟩ := (ends_upper_iff hu).mp h
      by_cases hd : d.isUpper = true
      · exact word?_of_upper_upper hu hd (hnext hd)
      · rw [word?_of_upper _ hu (by simpa using hd)]
        simp [hlower]
  · cases cs with
    | nil => exact word?_of_lower [] hl
    | cons d ds =>
      rw [word?_of_lower _ hl]
      simp [(ends_lower_iff hl).mp h]
  · cases cs with
    | nil => exact word?_of_digit [] hd
    | cons d ds =>
      rw [word?_of_digit _ hd]
      simp [(ends_digit_iff hd).mp h]

/-- A word that does not end goes on with the first word of what follows. -/
theorem word?_of_not_ends {c : Char} {cs : List Char} (hc : c.isAlphanum = true)
    (h : ¬ Ends c cs) :
    ∃ w rest, word? cs = some (w, rest) ∧ word? (c :: cs) = some (c :: w, rest) := by
  cases cs with
  | nil => exact absurd trivial h
  | cons d ds =>
    rcases isAlphanum_cases hc with hu | hl | hd
    · rw [ends_upper_iff hu, not_and, Classical.not_imp] at h
      by_cases hlower : d.isLower = true
      · refine ⟨_, _, word?_of_lower ds hlower, ?_⟩
        rw [word?_of_upper _ hu (by simp [(isDigit_isUpper_of_isLower hlower).2])]
        simp [hlower]
      · obtain ⟨hupper, hnext⟩ := h (by simpa using hlower)
        exact word?_of_upper_run hu hupper (by simpa using hnext)
    · have hd : d.isLower = true := by simpa [ends_lower_iff hl] using h
      refine ⟨_, _, word?_of_lower ds hd, ?_⟩
      rw [word?_of_lower _ hl]
      simp [hd]
    · have hdigit : d.isDigit = true := by simpa [ends_digit_iff hd] using h
      refine ⟨_, _, word?_of_digit ds hdigit, ?_⟩
      rw [word?_of_digit _ hd]
      simp [hdigit]

theorem word?_eq_none {c : Char} (h : c.isAlphanum = false) (cs : List Char) :
    word? (c :: cs) = none := by
  simp only [isAlphanum_eq, Bool.or_eq_false_iff] at h
  obtain ⟨⟨hupper, hlower⟩, hdigit⟩ := h
  simp [word?, hupper, hlower, hdigit]

/-- What the first word of a text may be: it ends with its first character, or goes on with the
first word of what follows. -/
theorem word?_cases {c : Char} {cs w rest : List Char} (h : word? (c :: cs) = some (w, rest)) :
    c.isAlphanum = true
      ∧ ((Ends c cs ∧ w = [c] ∧ rest = cs)
        ∨ (¬ Ends c cs ∧ ∃ w', w = c :: w' ∧ word? cs = some (w', rest))) := by
  by_cases hc : c.isAlphanum = true
  · refine ⟨hc, ?_⟩
    by_cases hends : Ends c cs
    · obtain ⟨rfl, rfl⟩ : w = [c] ∧ rest = cs := by simpa [word?_of_ends hc hends, eq_comm] using h
      exact .inl ⟨hends, rfl, rfl⟩
    · obtain ⟨w', rest', hnext, hword⟩ := word?_of_not_ends hc hends
      obtain ⟨rfl, rfl⟩ : w = c :: w' ∧ rest = rest' := by simpa [hword, eq_comm] using h
      exact .inr ⟨hends, w', rfl, hnext⟩
  · rw [word?_eq_none (by simpa using hc)] at h
    cases h

theorem isSome_word? {c : Char} (h : c.isAlphanum = true) (cs : List Char) :
    (word? (c :: cs)).isSome = true := by
  by_cases hends : Ends c cs
  · rw [word?_of_ends h hends]
    rfl
  · obtain ⟨_, _, -, hword⟩ := word?_of_not_ends h hends
    rw [hword]
    rfl

theorem word?_ne_nil {cs w rest : List Char} (h : word? cs = some (w, rest)) : w ≠ [] := by
  cases cs with
  | nil => cases h
  | cons c cs =>
    obtain ⟨-, ⟨-, rfl, -⟩ | ⟨-, w', rfl, -⟩⟩ := word?_cases h <;> simp

theorem word?_isAlphanum {cs w rest : List Char} (h : word? cs = some (w, rest)) {c : Char}
    (hc : c ∈ w) : c.isAlphanum := by
  induction cs generalizing w rest with
  | nil => cases h
  | cons d cs ih =>
    obtain ⟨hd, ⟨-, rfl, -⟩ | ⟨-, w', rfl, hnext⟩⟩ := word?_cases h
    · rwa [List.mem_singleton.mp hc]
    · rcases List.mem_cons.mp hc with rfl | hc
      · exact hd
      · exact ih hnext hc

theorem words_isAlphanum {cs w : List Char} (hw : w ∈ words cs) {c : Char} (hc : c ∈ w) :
    c.isAlphanum := by
  obtain ⟨_, _, _, -, h⟩ := Matcher.exists_match_of_mem_allFrom hw
  exact word?_isAlphanum h hc

section Separators

def blanked (c : Char) : Char := if c = '_' ∨ c = '-' ∨ c = '.' then ' ' else c

theorem kind_blanked (c : Char) : (blanked c).isUpper = c.isUpper
    ∧ (blanked c).isLower = c.isLower ∧ (blanked c).isDigit = c.isDigit := by
  unfold blanked
  split_ifs with h
  · rcases h with rfl | rfl | rfl <;> decide
  · exact ⟨rfl, rfl, rfl⟩

theorem isAlphanum_blanked (c : Char) : (blanked c).isAlphanum = c.isAlphanum := by
  obtain ⟨hupper, hlower, hdigit⟩ := kind_blanked c
  rw [isAlphanum_eq, hupper, hlower, hdigit, isAlphanum_eq]

theorem blanked_of_isAlphanum {c : Char} (h : c.isAlphanum = true) : blanked c = c := by
  refine if_neg ?_
  rintro (rfl | rfl | rfl) <;> exact absurd h (by decide)

theorem ends_blanked_iff {c : Char} (cs : List Char) : Ends c (cs.map blanked) ↔ Ends c cs := by
  cases cs with
  | nil => rfl
  | cons d ds =>
    obtain ⟨hupper, hlower, hdigit⟩ := kind_blanked d
    have hnext : (ds.map blanked).head?.any Char.isLower = ds.head?.any Char.isLower := by
      cases ds with
      | nil => rfl
      | cons e es => exact (kind_blanked e).2.1
    rw [List.map_cons, Ends, Ends, Breaks, Breaks, isAlphanum_blanked, isAlpha_eq, isAlpha_eq,
      hupper, hlower, hdigit, hnext]
    rfl

theorem word?_blanked (cs : List Char) :
    word? (cs.map blanked) = (word? cs).map fun (w, rest) => (w, rest.map blanked) := by
  induction cs with
  | nil => rfl
  | cons c cs ih =>
    by_cases hc : c.isAlphanum = true
    · rw [List.map_cons, blanked_of_isAlphanum hc]
      by_cases hends : Ends c cs
      · rw [word?_of_ends hc ((ends_blanked_iff cs).mpr hends), word?_of_ends hc hends]
        rfl
      · obtain ⟨w, rest, hnext, hword⟩ := word?_of_not_ends hc hends
        obtain ⟨w', rest', hnext', hword'⟩ :=
          word?_of_not_ends hc (mt (ends_blanked_iff cs).mp hends)
        rw [ih, hnext] at hnext'
        cases hnext'
        rw [hword, hword']
        rfl
    · rw [Bool.not_eq_true] at hc
      rw [List.map_cons, word?_eq_none (by rw [isAlphanum_blanked, hc]), word?_eq_none hc]
      rfl

theorem words_blanked (cs : List Char) : words (cs.map blanked) = words cs := by
  have hfrom : ∀ (skip : Nat) (before before' : Option Char),
      Matcher.allFrom (fun _ => word?) skip before (cs.map blanked)
        = Matcher.allFrom (fun _ => word?) skip before' cs := by
    induction cs with
    | nil => intros; rfl
    | cons c cs ih =>
      intro skip before before'
      cases skip with
      | succ skip => exact ih skip _ _
      | zero =>
        have hword := word?_blanked (c :: cs)
        rw [List.map_cons] at hword ⊢
        rw [Matcher.allFrom, Matcher.allFrom, hword]
        cases word? (c :: cs) with
        | none => exact ih 0 _ _
        | some p =>
          simp only [Option.map_some, List.length_map]
          rw [ih]
  exact hfrom 0 none none

/-- A name is the same in snake case whether or not its separators are made blanks first. -/
theorem snake_blanked (s : String) : snake (String.ofList (s.toList.map blanked)) = snake s := by
  rw [snake, String.toList_ofList, words_blanked, snake]

end Separators

def isSnakeChar (c : Char) : Bool := c.isLower || c.isDigit || c == '_'

theorem isLower_toLower {c : Char} (h : c.isUpper = true) : c.toLower.isLower = true := by
  have hcode : 65 ≤ c.val.toNat ∧ c.val.toNat ≤ 90 := isUpper_iff.mp h
  have hlow : c.toLower = ⟨c.val + ('a'.val - 'A'.val), _⟩ := dif_pos (of_decide_eq_true h)
  have hsum : (c.val + ('a'.val - 'A'.val)).toNat = c.val.toNat + 32 := by
    rw [UInt32.toNat_add]
    exact Nat.mod_eq_of_lt (by change c.val.toNat + 32 < _; omega)
  have hlower : 97 ≤ (c.val + ('a'.val - 'A'.val)).toNat
      ∧ (c.val + ('a'.val - 'A'.val)).toNat ≤ 122 := by omega
  rw [hlow, isLower_iff]
  exact hlower

theorem toLower_of_not_isUpper {c : Char} (h : c.isUpper = false) : c.toLower = c := by
  exact dif_neg fun hrange => Bool.eq_false_iff.mp h (decide_eq_true hrange)

theorem isSnakeChar_toLower {c : Char} (h : c.isAlphanum) : isSnakeChar c.toLower := by
  cases hu : c.isUpper with
  | true => simp [isSnakeChar, isLower_toLower hu]
  | false =>
    rw [toLower_of_not_isUpper hu]
    simpa [isSnakeChar, isAlphanum_eq, hu] using Or.inl h

theorem isSnakeChar_of_mem_snake {s : String} {c : Char} (h : c ∈ (snake s).toList) :
    isSnakeChar c := by
  rw [snake, String.toList_ofList] at h
  rcases Text.mem_joinWith h with h | ⟨part, hp, hc⟩
  · rw [List.mem_singleton.mp h]
    rfl
  · obtain ⟨w, hw, rfl⟩ := List.mem_map.mp hp
    obtain ⟨d, hd, rfl⟩ := List.mem_map.mp hc
    exact isSnakeChar_toLower (words_isAlphanum hw hd)

open Code

theorem isWordChar_of_isWord {c : Char} (h : Text.isWord c = true) : isWordChar c = true := by
  unfold Text.isWord at h
  split_ifs at h with hc
  · simp only [isWordChar, h, Bool.true_or]
  · have hn : 128 ≤ c.toNat := by omega
    simp [isWordChar, hn]

theorem isDigitLike_of_isDigit {c : Char} (h : c.isDigit = true) : Text.isDigitLike c = true := by
  have hc : c.toNat < 128 := by
    have hd : c.toNat ≤ 57 := (Char.isDigit_iff_toNat.mp h).2
    omega
  rw [Text.isDigitLike, if_pos hc]
  exact h

theorem isSound_append_underscore {s : String} (h : (Symbol.word s).isSound = true) :
    (Symbol.word (s ++ "_")).isSound = true := by
  obtain ⟨c, cs, hcs, -, hd⟩ := Symbol.word_head h
  simp only [Symbol.isSound, Bool.and_eq_true] at h ⊢
  rw [String.toList_append, List.all_append, h.2, hcs]
  refine ⟨?_, rfl⟩
  simp [hd]

theorem isSound_unreserved {s : String} (h : (Symbol.word s).isSound = true) :
    (Symbol.word (if keywords.contains s then s ++ "_" else s)).isSound = true := by
  split_ifs
  · exact isSound_append_underscore h
  · exact h

theorem isSound_identifier (name : String) :
    (Symbol.word (identifier name)).isSound = true := by
  have hclean : ∀ c ∈ name.toList.map (fun c => if Text.isWord c then c else '_'),
      isWordChar c = true := by
    intro c hc
    obtain ⟨d, -, rfl⟩ := List.mem_map.mp hc
    split_ifs with hd
    · exact isWordChar_of_isWord hd
    · rfl
  unfold identifier
  refine isSound_unreserved ?_
  generalize name.toList.map (fun c => if Text.isWord c then c else '_') = cleaned at hclean
  cases cleaned with
  | nil => decide
  | cons c cs =>
    have hcs : (c :: cs).all isWordChar = true := List.all_eq_true.mpr hclean
    dsimp only
    split_ifs with hd
    · simp only [Symbol.isSound, String.toList_ofList, List.all_cons (a := '_'), hcs]
      rfl
    · have hdigit : c.isDigit = false := by
        by_contra hc
        exact hd (isDigitLike_of_isDigit (by simpa using hc))
      simp only [Symbol.isSound, String.toList_ofList, hcs, List.head?_cons, Option.any_some,
        hdigit]
      rfl

theorem isSound_attributeName (name : String) :
    (Symbol.word (attributeName name)).isSound = true := by
  unfold attributeName
  exact isSound_identifier _

theorem isSound_fieldAttribute (name : String) :
    (Symbol.word (fieldAttribute name)).isSound = true := by
  unfold fieldAttribute
  dsimp only
  split_ifs
  · exact isSound_append_underscore (isSound_attributeName name)
  · exact isSound_attributeName name

end Naming

end SmithyGen
