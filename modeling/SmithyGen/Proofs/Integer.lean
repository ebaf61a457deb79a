import SmithyGen.Number.Reading
import SmithyGen.Proofs.Text
import Mathlib.Data.List.Basic
import Mathlib.Tactic.SplitIfs

namespace SmithyGen.Number

theorem trimmed_of_forall {cs : List Char} (h : ∀ c ∈ cs, isOuterBlank cs c = false) :
    trimmed cs = cs := by
  have hfirst := Text.dropWhile_of_head? fun c hc => h c (List.mem_of_mem_head? hc)
  have hlast := Text.dropWhileEnd_of_getLast? fun c hc => h c (List.mem_of_mem_getLast? hc)
  rw [trimmed, hfirst, hlast]

theorem digitRun_of_isDigit {cs : List Char} (h : ∀ c ∈ cs, c.isDigit = true) :
    digitRun cs = (cs.map (·.toNat - 48), []) := by
  induction cs with
  | nil => rfl
  | cons c cs ih =>
    have hc := h c (by simp)
    have hvalue : Text.digitValue? c = some (c.toNat - 48) := by simp [Text.digitValue?, hc]
    rw [digitRun, hvalue, ih fun d hd => h d (List.mem_cons_of_mem c hd)]
    · rfl
    · rintro _ _ rfl -
      exact absurd hc (by decide)

theorem ofDigits_map_toDigits (n : Nat) :
    ofDigits ((Nat.toDigits 10 n).map (·.toNat - 48)) = n := by
  rw [ofDigits, List.foldl_map]
  exact Nat.ofDigitChars_ten_toDigits

theorem digits_toDigits (n : Nat) :
    digits (Nat.toDigits 10 n) = ((Nat.toDigits 10 n).map (·.toNat - 48), []) := by
  have hdigits : ∀ c ∈ Nat.toDigits 10 n, c.isDigit = true := fun c hc =>
    Nat.isDigit_of_mem_toDigits (by decide) (by decide) hc
  rw [digits, digitRun_of_isDigit hdigits]
  intro cs hcs
  have hunderscore := hdigits '_' (by rw [hcs]; simp)
  cases hunderscore

theorem int?_eq_some {text cs : List Char} {negative : Bool} {ds : List Nat}
    (hsign : sign (trimmed text) = (negative, cs)) (hdigits : digits cs = (ds, [])) (hne : ds ≠ [])
    (hlimit : ds.length ≤ digitLimit) :
    int? text = some (if negative then -(ofDigits ds : Int) else ofDigits ds) := by
  cases ds with
  | nil => exact absurd rfl hne
  | cons d ds => simp only [int?, hsign, hdigits, if_neg (Nat.not_lt.mpr hlimit)]

theorem toDigits_head (n : Nat) : ∃ c cs, Nat.toDigits 10 n = c :: cs ∧ c.isDigit = true := by
  cases h : Nat.toDigits 10 n with
  | nil => exact absurd h Nat.toDigits_ne_nil
  | cons c cs =>
    have hc : c ∈ Nat.toDigits 10 n := by simp [h]
    exact ⟨c, cs, rfl, Nat.isDigit_of_mem_toDigits (by decide) (by decide) hc⟩

variable (n : Int)

/-- A number is written in digits, after a minus where it is negative. -/
theorem toList_toString_cases : (toString n).toList = Nat.toDigits 10 n.natAbs ∧ 0 ≤ n
    ∨ (toString n).toList = '-' :: Nat.toDigits 10 n.natAbs ∧ n < 0 := by
  cases n with
  | ofNat n =>
    refine Or.inl ⟨?_, Int.natCast_nonneg n⟩
    exact Nat.toList_repr
  | negSucc n =>
    refine Or.inr ⟨?_, Int.negSucc_lt_zero n⟩
    have h : toString (Int.negSucc n) = "-" ++ (n + 1).repr := rfl
    rw [h, String.toList_append, Nat.toList_repr]
    rfl

theorem sign_toString : sign (toString n).toList = (decide (n < 0), Nat.toDigits 10 n.natAbs) := by
  rcases toList_toString_cases n with ⟨hchars, hn⟩ | ⟨hchars, hn⟩
  · obtain ⟨c, cs, hdigits, hc⟩ := toDigits_head n.natAbs
    rw [hchars, hdigits, sign, decide_eq_false (Int.not_lt.mpr hn)]
    all_goals
      rintro _ he
      obtain ⟨rfl, -⟩ := List.cons.inj he
      exact absurd hc (by decide)
  · rw [hchars, sign, decide_eq_true hn]

theorem toNat_of_mem_toString {c : Char} (h : c ∈ (toString n).toList) :
    45 ≤ c.toNat ∧ c.toNat < 58 := by
  have hdigit (hc : c ∈ Nat.toDigits 10 n.natAbs) : 45 ≤ c.toNat ∧ c.toNat < 58 := by
    have hrange := Nat.isDigit_of_mem_toDigits (by decide) (by decide) hc
    simp only [Char.isDigit, Bool.and_eq_true, decide_eq_true_eq] at hrange
    have hlow : 48 ≤ c.toNat := hrange.1
    have hhigh : c.toNat ≤ 57 := hrange.2
    omega
  rcases toList_toString_cases n with ⟨hchars, -⟩ | ⟨hchars, -⟩ <;> rw [hchars] at h
  · exact hdigit h
  · rcases List.mem_cons.mp h with rfl | h
    · decide
    · exact hdigit h

theorem trimmed_toString : trimmed (toString n).toList = (toString n).toList := by
  refine trimmed_of_forall fun c hc => ?_
  have hrange := toNat_of_mem_toString n hc
  have hspace : c ≠ ' ' := by
    rintro rfl
    exact absurd hrange (by decide)
  rw [isOuterBlank]
  split_ifs
  · simp only [Bool.or_eq_false_iff, Bool.and_eq_false_iff, beq_eq_false_iff_ne,
      decide_eq_false_iff_not]
    exact ⟨hspace, by omega⟩
  · simp only [Text.isBlank, Bool.or_eq_false_iff, Bool.and_eq_false_iff, beq_eq_false_iff_ne,
      decide_eq_false_iff_not]
    omega

theorem int?_toString (h : (Nat.toDigits 10 n.natAbs).length ≤ digitLimit) :
    int? (toString n).toList = some n := by
  have hsign : sign (trimmed (toString n).toList) = (decide (n < 0), Nat.toDigits 10 n.natAbs) := by
    rw [trimmed_toString, sign_toString]
  have hne : (Nat.toDigits 10 n.natAbs).map (·.toNat - 48) ≠ [] := by simp [Nat.toDigits_ne_nil]
  rw [int?_eq_some hsign (digits_toDigits n.natAbs) hne (by rwa [List.length_map]),
    ofDigits_map_toDigits]
  split_ifs with hn <;> simp only [decide_eq_true_eq] at hn <;> congr 1 <;> omega

end SmithyGen.Number
