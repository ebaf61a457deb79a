import SmithyGen.Proofs.Symbol

namespace SmithyGen.Matcher

variable {α : Type}

/-- The character before a text that follows `xs`. -/
def lastOf (before : Option Char) (xs : List Char) : Option Char := xs.getLast?.or before

@[simp] theorem lastOf_nil (before : Option Char) : lastOf before [] = before := rfl

@[simp] theorem lastOf_cons (before : Option Char) (c : Char) (xs : List Char) :
    lastOf before (c :: xs) = lastOf (some c) xs := by
  cases xs with
  | nil => rfl
  | cons d xs => simp [lastOf, List.getLast?_cons]

theorem lastOf_append (before : Option Char) (xs ys : List Char) :
    lastOf before (xs ++ ys) = lastOf (lastOf before xs) ys := by
  induction xs generalizing before with
  | nil => rfl
  | cons c xs ih => simp only [List.cons_append, lastOf_cons, ih]

@[simp] theorem lastOf_concat (before : Option Char) (xs : List Char) (c : Char) :
    lastOf before (xs ++ [c]) = some c := by
  simp [lastOf_append]

theorem lastBefore_append (before : Option Char) (xs rest : List Char) :
    lastBefore before (xs ++ rest) rest = lastOf before xs := by
  have hlength : (xs ++ rest).length - rest.length = xs.length := by
    rw [List.length_append]
    omega
  rw [lastBefore, hlength, List.take_left, lastOf]

/-- At no place of `xs`, which `ys` follows, does the matcher answer. -/
def Passes (m : Matcher α) : Option Char → List Char → List Char → Prop
  | _, [], _ => True
  | before, c :: xs, ys => m before (c :: xs ++ ys) = none ∧ Passes m (some c) xs ys

theorem Passes.append {m : Matcher α} {before : Option Char} {xs xs' ys : List Char}
    (h : Passes m before xs (xs' ++ ys)) (h' : Passes m (lastOf before xs) xs' ys) :
    Passes m before (xs ++ xs') ys := by
  induction xs generalizing before with
  | nil => exact h'
  | cons c xs ih =>
    obtain ⟨hnone, hrest⟩ := h
    rw [lastOf_cons] at h'
    have hassoc : c :: xs ++ (xs' ++ ys) = c :: (xs ++ xs') ++ ys := by simp
    rw [hassoc] at hnone
    exact ⟨hnone, ih hrest h'⟩

theorem passes_of_forall {m : Matcher α} {xs : List Char}
    (h : ∀ before, ∀ c ∈ xs, ∀ rest, m before (c :: rest) = none) (before : Option Char)
    (ys : List Char) : Passes m before xs ys := by
  induction xs generalizing before with
  | nil => trivial
  | cons c xs ih =>
    exact ⟨h before c (by simp) _, ih (fun b d hd => h b d (List.mem_cons_of_mem _ hd)) (some c)⟩

theorem passes_iff {m : Matcher α} {before : Option Char} {xs ys : List Char} :
    Passes m before xs ys
      ↔ ∀ front c back, xs = front ++ c :: back → m (lastOf before front) (c :: back ++ ys) = none := by
  induction xs generalizing before with
  | nil => simp [Passes]
  | cons x xs ih =>
    rw [Passes, ih]
    constructor
    · rintro ⟨hnone, hrest⟩ (_ | ⟨y, front⟩) c back heq
      · obtain ⟨rfl, rfl⟩ := List.cons.inj heq
        exact hnone
      · obtain ⟨rfl, hxs⟩ := List.cons.inj heq
        rw [lastOf_cons]
        exact hrest front c back hxs
    · intro h
      refine ⟨h [] x xs rfl, fun front c back heq => ?_⟩
      rw [← lastOf_cons before]
      exact h (x :: front) c back (by rw [heq, List.cons_append])

theorem allFrom_cons_of_none {m : Matcher α} {before : Option Char} {c : Char} {cs : List Char}
    (h : m before (c :: cs) = none) : allFrom m 0 before (c :: cs) = allFrom m 0 (some c) cs := by
  simp only [allFrom, h]

theorem firstFrom_cons_of_none {m : Matcher α} {before : Option Char} {c : Char} {cs : List Char}
    (h : m before (c :: cs) = none) : firstFrom m before (c :: cs) = firstFrom m (some c) cs := by
  simp only [firstFrom, h]

theorem allFrom_of_passes {m : Matcher α} {before : Option Char} {xs ys : List Char}
    (h : Passes m before xs ys) :
    allFrom m 0 before (xs ++ ys) = allFrom m 0 (lastOf before xs) ys := by
  induction xs generalizing before with
  | nil => rfl
  | cons c xs ih =>
    obtain ⟨hnone, hrest⟩ := h
    rw [List.cons_append] at hnone ⊢
    rw [allFrom_cons_of_none hnone, ih hrest, lastOf_cons]

theorem allFrom_skip (m : Matcher α) (before : Option Char) (xs ys : List Char) :
    allFrom m xs.length before (xs ++ ys) = allFrom m 0 (lastOf before xs) ys := by
  induction xs generalizing before with
  | nil => rfl
  | cons c xs ih =>
    rw [List.length_cons, List.cons_append, allFrom, ih, lastOf_cons]

theorem allFrom_of_match {m : Matcher α} {before : Option Char} {a : α} {xs ys : List Char}
    (hxs : xs ≠ []) (h : m before (xs ++ ys) = some (a, ys)) :
    allFrom m 0 before (xs ++ ys) = a :: allFrom m 0 (lastOf before xs) ys := by
  cases xs with
  | nil => exact absurd rfl hxs
  | cons c xs =>
    have hlength : (xs ++ ys).length - ys.length = xs.length := by
      rw [List.length_append]
      omega
    rw [List.cons_append] at h ⊢
    simp only [allFrom, h, hlength, allFrom_skip, lastOf_cons]

theorem firstFrom_of_passes {m : Matcher α} {before : Option Char} {xs ys : List Char}
    (h : Passes m before xs ys) :
    firstFrom m before (xs ++ ys) = firstFrom m (lastOf before xs) ys := by
  induction xs generalizing before with
  | nil => rfl
  | cons c xs ih =>
    obtain ⟨hnone, hrest⟩ := h
    rw [List.cons_append] at hnone ⊢
    rw [firstFrom_cons_of_none hnone, ih hrest, lastOf_cons]

theorem firstFrom_of_match {m : Matcher α} {before : Option Char} {a : α} {cs rest : List Char}
    (hcs : cs ≠ []) (h : m before cs = some (a, rest)) : firstFrom m before cs = some a := by
  cases cs with
  | nil => exact absurd rfl hcs
  | cons c cs => simp only [firstFrom, h]

/-- Whatever is found was answered at some place of the text. -/
theorem exists_match_of_mem_allFrom {m : Matcher α} {skip : Nat} {before : Option Char}
    {cs : List Char} {a : α} (h : a ∈ allFrom m skip before cs) :
    ∃ before' cs' rest, cs' <:+ cs ∧ m before' cs' = some (a, rest) := by
  induction cs generalizing skip before with
  | nil => cases skip <;> cases h
  | cons c cs ih =>
    have later : ∀ {skip : Nat}, a ∈ allFrom m skip (some c) cs →
        ∃ before' cs' rest, cs' <:+ c :: cs ∧ m before' cs' = some (a, rest) := by
      intro skip h
      obtain ⟨before', cs', rest, hsuffix, hmatch⟩ := ih h
      exact ⟨before', cs', rest, hsuffix.trans (List.suffix_cons c cs), hmatch⟩
    cases skip with
    | succ skip => exact later h
    | zero =>
      rw [allFrom] at h
      split at h
      next b rest hmatch =>
        rcases List.mem_cons.mp h with rfl | h
        · exact ⟨before, c :: cs, rest, List.suffix_refl _, hmatch⟩
        · exact later h
      next => exact later h

theorem exists_match_of_firstFrom {m : Matcher α} {before : Option Char} {cs : List Char} {a : α}
    (h : firstFrom m before cs = some a) :
    ∃ before' cs' rest, cs' <:+ cs ∧ m before' cs' = some (a, rest) := by
  induction cs generalizing before with
  | nil => cases h
  | cons c cs ih =>
    rw [firstFrom] at h
    split at h
    next b rest hmatch =>
      obtain rfl := Option.some.inj h
      exact ⟨before, c :: cs, rest, List.suffix_refl _, hmatch⟩
    next =>
      obtain ⟨before', cs', rest, hsuffix, hmatch⟩ := ih h
      exact ⟨before', cs', rest, hsuffix.trans (List.suffix_cons c cs), hmatch⟩

theorem runFrom_suffix (m : List Char → Option (α × List Char)) (skip : Nat) (cs : List Char) :
    (runFrom m skip cs).2 <:+ cs := by
  induction cs generalizing skip with
  | nil => cases skip <;> exact List.suffix_refl _
  | cons c cs ih =>
    cases skip with
    | succ skip => exact (ih skip).trans (List.suffix_cons c cs)
    | zero =>
      rw [runFrom]
      split
      · exact (ih _).trans (List.suffix_cons c cs)
      · exact List.suffix_refl _

/-- Every match puts a shorter text in place of what it takes up. -/
def Shrinks (m : Matcher (List Char)) : Prop :=
  ∀ before taken new rest, m before taken = some (new, rest) → new.length + rest.length < taken.length

section Shrinks

variable {m : Matcher (List Char)} {before : Option Char} {cs : List Char}

theorem substituteFrom_of_passes (h : Passes m before cs []) : substituteFrom m 0 before cs = cs := by
  induction cs generalizing before with
  | nil => rfl
  | cons c cs ih =>
    obtain ⟨hnone, hrest⟩ := h
    rw [List.append_nil] at hnone
    simp only [substituteFrom, hnone, ih hrest]

theorem Shrinks.length_substituteFrom_le (hm : Shrinks m) (skip : Nat) (before : Option Char)
    (cs : List Char) : (substituteFrom m skip before cs).length ≤ cs.length - skip := by
  -- What is skipped is the rest of a match, whose replacement has been counted already.
  induction cs generalizing skip before with
  | nil => simp [substituteFrom]
  | cons c cs ih =>
    cases skip with
    | succ skip =>
      have hrest := ih skip (some c)
      rw [substituteFrom, List.length_cons]
      omega
    | zero =>
      rw [substituteFrom]
      split
      next new rest hmatch =>
        have hshorter := hm _ _ _ _ hmatch
        have hrest := ih (cs.length - rest.length) (some c)
        rw [List.length_append]
        rw [List.length_cons] at hshorter ⊢
        omega
      next =>
        have hrest := ih 0 (some c)
        simp only [List.length_cons]
        omega

/-- A text with a match in it gets shorter. -/
theorem Shrinks.length_substituteFrom_lt (hm : Shrinks m) (h : ¬Passes m before cs []) :
    (substituteFrom m 0 before cs).length < cs.length := by
  induction cs generalizing before with
  | nil => exact absurd trivial h
  | cons c cs ih =>
    rw [substituteFrom]
    split
    next new rest hmatch =>
      have hshorter := hm _ _ _ _ hmatch
      have hrest := hm.length_substituteFrom_le (cs.length - rest.length) (some c) cs
      rw [List.length_append]
      rw [List.length_cons] at hshorter ⊢
      omega
    next hnone =>
      have hlater : ¬Passes m (some c) cs [] := fun hrest =>
        h ⟨by rw [List.append_nil]; exact hnone, hrest⟩
      have hrest := ih hlater
      simp only [List.length_cons]
      omega

/-- What a search that shrinks leaves as it is. -/
theorem Shrinks.substitute_eq_self_iff (hm : Shrinks m) :
    m.substitute cs = cs ↔ Passes m none cs [] := by
  refine ⟨fun heq => ?_, substituteFrom_of_passes⟩
  by_contra hmatch
  have hlt := hm.length_substituteFrom_lt hmatch
  rw [substitute] at heq
  rw [heq] at hlt
  exact Nat.lt_irrefl _ hlt

/-- One search after another leaves a text as it is only where each does. -/
theorem Shrinks.substitute_substitute_eq_self_iff {m' : Matcher (List Char)} (hm : Shrinks m)
    (hm' : Shrinks m') :
    m'.substitute (m.substitute cs) = cs ↔ Passes m none cs [] ∧ Passes m' none cs [] := by
  constructor
  · intro heq
    have hfirst : Passes m none cs [] := by
      -- Neither search makes a text longer, so what the first one takes away is missed at the end.
      by_contra hmatch
      have hlt := hm.length_substituteFrom_lt hmatch
      have hle := hm'.length_substituteFrom_le 0 none (m.substitute cs)
      rw [← substitute, heq, substitute] at hle
      omega
    rw [hm.substitute_eq_self_iff.mpr hfirst] at heq
    exact ⟨hfirst, hm'.substitute_eq_self_iff.mp heq⟩
  · rintro ⟨hfirst, hsecond⟩
    rw [hm.substitute_eq_self_iff.mpr hfirst, hm'.substitute_eq_self_iff.mpr hsecond]

end Shrinks

end SmithyGen.Matcher
