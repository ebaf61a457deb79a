import Mathlib.Data.List.Basic
import Mathlib.Tactic.SplitIfs
import SmithyGen.Text.Basic

namespace SmithyGen.Text

theorem mem_joinWith {sep : List Char} {parts : List (List Char)} {c : Char}
    (h : c ∈ joinWith sep parts) : c ∈ sep ∨ ∃ part ∈ parts, c ∈ part := by
  induction parts with
  | nil => simp [joinWith] at h
  | cons part parts ih =>
    cases parts with
    | nil => exact Or.inr ⟨part, by simp, h⟩
    | cons next parts =>
      rw [joinWith, List.mem_append, List.mem_append] at h
      · rcases h with (h | h) | h
        · exact Or.inr ⟨part, by simp, h⟩
        · exact Or.inl h
        · rcases ih h with h | ⟨p, hp, hc⟩
          · exact Or.inl h
          · exact Or.inr ⟨p, List.mem_cons_of_mem _ hp, hc⟩
      · simp

theorem joinWith_cons_cons (sep part next : List Char) (parts : List (List Char)) :
    joinWith sep (part :: next :: parts) = part ++ sep ++ joinWith sep (next :: parts) := by
  simp [joinWith]

theorem joinWith_ne_nil {sep : List Char} {parts : List (List Char)} (hne : parts ≠ [])
    (hparts : ∀ part ∈ parts, part ≠ []) :
    joinWith sep parts ≠ [] := by
  cases parts with
  | nil => exact absurd rfl hne
  | cons part parts =>
    have hpart := hparts part (by simp)
    cases parts with
    | nil => exact hpart
    | cons next parts =>
      rw [joinWith_cons_cons]
      simp [hpart]

theorem exists_head?_of_joinWith {sep : List Char} {parts : List (List Char)}
    (hparts : ∀ part ∈ parts, part ≠ []) {c : Char}
    (h : (joinWith sep parts).head? = some c) : ∃ part ∈ parts, part.head? = some c := by
  cases parts with
  | nil => cases h
  | cons part parts =>
    refine ⟨part, by simp, ?_⟩
    have hne := hparts part (by simp)
    cases parts with
    | nil => exact h
    | cons next parts =>
      rw [joinWith_cons_cons, List.append_assoc, List.head?_append_of_ne_nil _ hne] at h
      exact h

theorem exists_getLast?_of_joinWith {sep : List Char} {parts : List (List Char)}
    (hparts : ∀ part ∈ parts, part ≠ []) {c : Char}
    (h : (joinWith sep parts).getLast? = some c) : ∃ part ∈ parts, part.getLast? = some c := by
  induction parts with
  | nil => cases h
  | cons part parts ih =>
    cases parts with
    | nil => exact ⟨part, by simp, h⟩
    | cons next parts =>
      have hrest : ∀ p ∈ next :: parts, p ≠ [] := fun p hp => hparts p (List.mem_cons_of_mem _ hp)
      rw [joinWith_cons_cons, List.getLast?_append_of_ne_nil _ (joinWith_ne_nil (by simp) hrest)]
        at h
      obtain ⟨p, hp, hc⟩ := ih hrest h
      exact ⟨p, List.mem_cons_of_mem _ hp, hc⟩

theorem joinWith_append_head (sep start line : List Char) (lines : List (List Char)) :
    joinWith sep ((start ++ line) :: lines) = start ++ joinWith sep (line :: lines) := by
  cases lines with
  | nil => rfl
  | cons next lines => simp [joinWith]

theorem joinWith_append_last (sep last ending : List Char) (lines : List (List Char)) :
    joinWith sep (lines ++ [last ++ ending])
      = joinWith sep (lines ++ [last]) ++ ending := by
  induction lines with
  | nil => rfl
  | cons line lines ih =>
    cases lines with
    | nil => simp [joinWith]
    | cons next lines =>
      rw [List.cons_append, List.cons_append] at ih ⊢
      simp only [List.cons_append, joinWith, ih, List.append_assoc]

theorem joinWith_concat {sep : List Char} {parts : List (List Char)} (h : parts ≠ [])
    (last : List Char) : joinWith sep (parts ++ [last]) = joinWith sep parts ++ sep ++ last := by
  induction parts with
  | nil => exact absurd rfl h
  | cons part parts ih =>
    cases parts with
    | nil => simp [joinWith]
    | cons next parts =>
      have hrest := ih (by simp)
      rw [List.cons_append] at hrest
      rw [List.cons_append, List.cons_append, joinWith_cons_cons, joinWith_cons_cons, hrest]
      simp only [List.append_assoc]

theorem splitWhere_ne_nil (p : Char → Bool) (cs : List Char) : splitWhere p cs ≠ [] := by
  induction cs with
  | nil => simp [splitWhere]
  | cons c cs ih =>
    rw [splitWhere]
    split_ifs
    · simp
    · split <;> simp

theorem splitWhere_of_none {p : Char → Bool} {cs : List Char} (h : ∀ c ∈ cs, p c = false) :
    splitWhere p cs = [cs] := by
  induction cs with
  | nil => rfl
  | cons c cs ih =>
    have hc : p c = false := h c (by simp)
    rw [splitWhere, ih fun d hd => h d (List.mem_cons_of_mem _ hd)]
    simp [hc]

theorem splitWhere_append_cons {p : Char → Bool} {c : Char} (hc : p c = true)
    (xs ys : List Char) :
    splitWhere p (xs ++ c :: ys) = splitWhere p xs ++ splitWhere p ys := by
  induction xs with
  | nil => simp [splitWhere, hc]
  | cons x xs ih =>
    rw [List.cons_append, splitWhere, splitWhere, ih]
    split_ifs
    · rfl
    · cases h : splitWhere p xs with
      | nil => exact absurd h (splitWhere_ne_nil p xs)
      | cons part parts => rfl

theorem eq_false_of_mem_splitWhere {p : Char → Bool} {cs part : List Char}
    (h : part ∈ splitWhere p cs) {c : Char} (hc : c ∈ part) : p c = false := by
  induction cs generalizing part with
  | nil =>
    obtain rfl := List.mem_singleton.mp h
    simp at hc
  | cons d cs ih =>
    rw [splitWhere] at h
    split_ifs at h with hd
    · rcases List.mem_cons.mp h with rfl | h
      · simp at hc
      · exact ih h hc
    · cases hs : splitWhere p cs with
      | nil => exact absurd hs (splitWhere_ne_nil p cs)
      | cons first parts =>
        rw [hs] at h ih
        rcases List.mem_cons.mp h with rfl | h
        · rcases List.mem_cons.mp hc with rfl | hc
          · simpa using hd
          · exact ih (by simp) hc
        · exact ih (List.mem_cons_of_mem _ h) hc

/-- Parts without the separator are found again. -/
theorem splitWhere_joinWith_singleton {p : Char → Bool} {sep : Char} {parts : List (List Char)}
    (hsep : p sep = true) (hne : parts ≠ []) (hparts : ∀ part ∈ parts, ∀ c ∈ part, p c = false) :
    splitWhere p (joinWith [sep] parts) = parts := by
  induction parts with
  | nil => exact absurd rfl hne
  | cons part parts ih =>
    have hpart := splitWhere_of_none (hparts part (by simp))
    cases parts with
    | nil => exact hpart
    | cons next parts =>
      have hrest := ih (by simp) fun q hq => hparts q (List.mem_cons_of_mem _ hq)
      rw [joinWith_cons_cons, List.append_assoc, List.singleton_append,
        splitWhere_append_cons hsep, hpart, hrest]
      rfl

theorem joinWith_splitWhere (sep : Char) (cs : List Char) :
    joinWith [sep] (splitWhere (· == sep) cs) = cs := by
  induction cs with
  | nil => rfl
  | cons c cs ih =>
    rw [splitWhere]
    cases hparts : splitWhere (· == sep) cs with
    | nil => exact absurd hparts (splitWhere_ne_nil _ cs)
    | cons part parts =>
      rw [hparts] at ih
      split_ifs with hc
      · obtain rfl : c = sep := by simpa using hc
        rw [joinWith_cons_cons, ih]
        rfl
      · exact (joinWith_append_head [sep] [c] part parts).trans (congrArg (c :: ·) ih)

theorem strip?_append (part rest : List Char) : strip? part (part ++ rest) = some rest := by
  induction part with
  | nil => rfl
  | cons c part ih => simpa [strip?] using ih

theorem eq_append_of_strip? {part cs rest : List Char} (h : strip? part cs = some rest) :
    cs = part ++ rest := by
  induction part generalizing cs with
  | nil => exact Option.some.inj h
  | cons p part ih =>
    cases cs with
    | nil => cases h
    | cons c cs =>
      rw [strip?] at h
      split_ifs at h with hc
      rw [ih h, hc]
      rfl

theorem isSome_strip?_iff {part cs : List Char} : (strip? part cs).isSome = true ↔ part <+: cs := by
  constructor
  · intro h
    obtain ⟨rest, hrest⟩ := Option.isSome_iff_exists.mp h
    exact ⟨rest, (eq_append_of_strip? hrest).symm⟩
  · rintro ⟨rest, rfl⟩
    rw [strip?_append]
    rfl

theorem occursIn_iff_infix {part cs : List Char} : occursIn part cs = true ↔ part <:+: cs := by
  induction cs with
  | nil => rw [occursIn, List.isEmpty_iff, List.infix_nil]
  | cons c cs ih =>
    rw [occursIn, Bool.or_eq_true, isSome_strip?_iff, ih, List.infix_cons_iff]

section Replace

variable {old : List Char}

theorem replaceFrom_skip (old new xs ys : List Char) :
    replaceFrom old new xs.length (xs ++ ys) = replace old new ys := by
  induction xs with
  | nil => rfl
  | cons c xs ih => exact ih

theorem replace_cons {c : Char} {cs : List Char} (h : ¬ old <+: c :: cs) (new : List Char) :
    replace old new (c :: cs) = c :: replace old new cs := by
  rw [← isSome_strip?_iff, Bool.not_eq_true] at h
  simp only [replace, replaceFrom, h, Bool.false_eq_true, if_false]

theorem replace_append (h : old ≠ []) (new cs : List Char) :
    replace old new (old ++ cs) = new ++ replace old new cs := by
  cases old with
  | nil => exact absurd rfl h
  | cons c old =>
    have hstrip : (strip? (c :: old) (c :: (old ++ cs))).isSome = true :=
      isSome_strip?_iff.mpr ⟨cs, rfl⟩
    simp only [List.cons_append, replace, replaceFrom, hstrip, if_true, List.length_cons,
      Nat.add_sub_cancel, replaceFrom_skip]

theorem replace_append_of_forall {xs ys : List Char}
    (h : ∀ c back, c :: back <:+ xs → ¬ old <+: c :: (back ++ ys)) (new : List Char) :
    replace old new (xs ++ ys) = xs ++ replace old new ys := by
  induction xs with
  | nil => rfl
  | cons c xs ih =>
    have hrest := ih fun d back hsuffix => h d back (hsuffix.trans (List.suffix_cons c xs))
    rw [List.cons_append, replace_cons (h c xs (List.suffix_refl _)), hrest, List.cons_append]

end Replace

/-- Parts without separators are found again after a comma and a blank are put between them. -/
theorem splitWhere_joinWith {p : Char → Bool} {parts : List (List Char)} (hcomma : p ',' = true)
    (hblank : p ' ' = true) (hparts : ∀ part ∈ parts, part ≠ [] ∧ ∀ c ∈ part, p c = false) :
    (splitWhere p (joinWith [',', ' '] parts)).filter (· != []) = parts := by
  induction parts with
  | nil => rfl
  | cons part parts ih =>
    obtain ⟨hne, hpart⟩ := hparts part (by simp)
    have hkeep : (part != []) = true := by simpa using hne
    have hrest := ih fun q hq => hparts q (List.mem_cons_of_mem _ hq)
    cases parts with
    | nil => simp [joinWith, splitWhere_of_none hpart, hkeep]
    | cons next parts =>
      have hjoin : joinWith [',', ' '] (part :: next :: parts)
          = part ++ ',' :: ' ' :: joinWith [',', ' '] (next :: parts) := by simp [joinWith]
      have hsplit : splitWhere p (' ' :: joinWith [',', ' '] (next :: parts))
          = [] :: splitWhere p (joinWith [',', ' '] (next :: parts)) := by
        rw [splitWhere, if_pos hblank]
      rw [hjoin, splitWhere_append_cons hcomma, splitWhere_of_none hpart, hsplit]
      simp [hkeep, hrest]

/-- A text is cut before and after a line break, or inside of one that takes two characters. -/
theorem lines_cons_of_isLineBreak {c : Char} (hc : isLineBreak c = true) (cs : List Char) :
    ∃ rest, lines (c :: cs) = [] :: rest
      ∧ (rest = lines cs ∨ lines cs = [] :: rest) := by
  by_cases htwo : c = '\r' ∧ ∃ ds, cs = '\n' :: ds
  · obtain ⟨rfl, ds, rfl⟩ := htwo
    exact ⟨lines ds, rfl, Or.inr rfl⟩
  · refine ⟨lines cs, ?_, Or.inl rfl⟩
    rw [lines, if_pos hc]
    intro ds he hds
    exact htwo ⟨he, ds, hds⟩

theorem lines_cons_of_not_isLineBreak {c : Char} (hc : isLineBreak c = false)
    (cs : List Char) :
    lines (c :: cs) = (c :: (lines cs).headD []) :: (lines cs).tail := by
  rw [lines, if_neg (by simp [hc])]
  · cases lines cs <;> rfl
  · rintro _ rfl -
    exact absurd hc (by decide)

theorem lines_eq_nil_iff {cs : List Char} : lines cs = [] ↔ cs = [] := by
  cases cs with
  | nil => simp [lines]
  | cons c cs =>
    by_cases hc : isLineBreak c = true
    · obtain ⟨rest, hlines, -⟩ := lines_cons_of_isLineBreak hc cs
      simp [hlines]
    · simp [lines_cons_of_not_isLineBreak (by simpa using hc)]

theorem lines_of_not_isLineBreak {cs : List Char} (hne : cs ≠ [])
    (h : cs.any isLineBreak = false) : lines cs = [cs] := by
  induction cs with
  | nil => exact absurd rfl hne
  | cons c cs ih =>
    obtain ⟨hc, hcs⟩ : isLineBreak c = false ∧ cs.any isLineBreak = false := by
      simpa using h
    rw [lines_cons_of_not_isLineBreak hc]
    cases cs with
    | nil => rfl
    | cons d cs => rw [ih (by simp) hcs]; rfl

theorem eq_of_lines_eq_singleton {cs line : List Char} (h : lines cs = [line])
    (hlast : ∀ c ∈ cs.getLast?, isLineBreak c = false) :
    cs = line ∧ cs.any isLineBreak = false := by
  induction cs generalizing line with
  | nil => cases h
  | cons c cs ih =>
    have hlast' : ∀ d ∈ cs.getLast?, isLineBreak d = false := by
      intro d hd
      refine hlast d ?_
      rw [List.getLast?_cons, hd]
      rfl
    by_cases hc : isLineBreak c = true
    · exfalso
      obtain ⟨rest, hlines, hrest⟩ := lines_cons_of_isLineBreak hc cs
      obtain rfl : rest = [] := (List.cons.inj (hlines.symm.trans h)).2
      rcases hrest with hrest | hrest
      · obtain rfl := lines_eq_nil_iff.mp hrest.symm
        rw [hlast c rfl] at hc
        cases hc
      · obtain ⟨rfl, -⟩ := ih hrest hlast'
        cases hrest
    · have hc : isLineBreak c = false := by simpa using hc
      rw [lines_cons_of_not_isLineBreak hc] at h
      obtain ⟨rfl, htail⟩ := List.cons.inj h
      cases hcs : lines cs with
      | nil =>
        obtain rfl := lines_eq_nil_iff.mp hcs
        exact ⟨rfl, by simp [hc]⟩
      | cons first others =>
        rw [hcs] at htail
        obtain rfl : others = [] := htail
        obtain ⟨rfl, hany⟩ := ih hcs hlast'
        exact ⟨rfl, by simp [hc, hany]⟩

theorem mem_dropWhileEnd {p : Char → Bool} {cs : List Char} {c : Char}
    (h : c ∈ dropWhileEnd p cs) : c ∈ cs := by
  rw [dropWhileEnd, List.mem_reverse] at h
  exact List.mem_reverse.mp ((List.dropWhile_sublist p).subset h)

theorem dropWhile_of_head? {α : Type} {p : α → Bool} {xs : List α}
    (h : ∀ x ∈ xs.head?, p x = false) : xs.dropWhile p = xs := by
  cases xs with
  | nil => rfl
  | cons x xs => simp [h x rfl]

theorem takeWhile_dropWhile_append {α : Type} {p : α → Bool} {xs rest : List α}
    (hxs : ∀ x ∈ xs, p x = true) (hrest : ∀ x ∈ rest.head?, p x = false) :
    (xs ++ rest).takeWhile p = xs ∧ (xs ++ rest).dropWhile p = rest := by
  rw [List.takeWhile_append_of_pos hxs, List.dropWhile_append_of_pos hxs]
  cases rest with
  | nil => simp
  | cons x rest =>
    have hx := hrest x rfl
    simp [hx]

theorem dropWhileEnd_of_getLast? {p : Char → Bool} {cs : List Char}
    (h : ∀ c ∈ cs.getLast?, p c = false) : dropWhileEnd p cs = cs := by
  rw [dropWhileEnd, dropWhile_of_head? (by rwa [List.head?_reverse]), List.reverse_reverse]

theorem trim_of_ends {cs : List Char} (hhead : ∀ c ∈ cs.head?, isBlank c = false)
    (hlast : ∀ c ∈ cs.getLast?, isBlank c = false) : trim cs = cs := by
  rw [trim, trimEnd, dropWhile_of_head? hhead, dropWhileEnd_of_getLast? hlast]

theorem not_isBlank_last_trimEnd {text : List Char} {c : Char}
    (h : (trimEnd text).getLast? = some c) : isBlank c = false := by
  rw [trimEnd, dropWhileEnd, List.getLast?_reverse] at h
  have hhead := List.head?_dropWhile_not isBlank text.reverse
  rw [h] at hhead
  exact hhead

theorem not_isBlank_last_trim {text : List Char} {c : Char}
    (h : (trim text).getLast? = some c) : isBlank c = false :=
  not_isBlank_last_trimEnd h

theorem isBlank_of_isLineBreak {c : Char} (h : isLineBreak c = true) :
    isBlank c = true := by
  simp only [isLineBreak, isBlank, Bool.or_eq_true, Bool.and_eq_true, decide_eq_true_eq,
    beq_iff_eq] at h ⊢
  omega

end SmithyGen.Text
