import SmithyGen.Proofs.Idl.Source
import SmithyGen.Proofs.Search

namespace SmithyGen.Idl

def isRefChar (c : Char) : Bool := isNameChar c || c == '.' || c == '#'

theorem isNameChar_of_isNameStart {c : Char} (h : isNameStart c = true) : isNameChar c = true := by
  simp only [isNameStart, isNameChar, Char.isAlphanum, Bool.or_eq_true] at h ⊢
  tauto

theorem isRefChar_of_isNameChar {c : Char} (h : isNameChar c = true) : isRefChar c = true := by
  simp [isRefChar, h]

theorem toNat_of_isNameChar {c : Char} (h : isNameChar c = true) :
    48 ≤ c.toNat ∧ c.toNat < 128 := by
  simp only [isNameChar, Bool.or_eq_true, beq_iff_eq] at h
  rcases h with h | rfl
  · have hrange : ((decide (65 ≤ c.toNat ∧ c.toNat ≤ 90)
        || decide (97 ≤ c.toNat) && decide (c.toNat ≤ 122))
        || decide (48 ≤ c.toNat) && decide (c.toNat ≤ 57)) = true := h
    simp only [Bool.or_eq_true, Bool.and_eq_true, decide_eq_true_eq] at hrange
    omega
  · decide

theorem toNat_of_isRefChar {c : Char} (h : isRefChar c = true) : 35 ≤ c.toNat ∧ c.toNat < 128 := by
  simp only [isRefChar, Bool.or_eq_true, beq_iff_eq] at h
  rcases h with (h | rfl) | rfl
  · have := toNat_of_isNameChar h
    omega
  · decide
  · decide

theorem isWord_of_isNameChar {c : Char} (h : isNameChar c = true) : Text.isWord c = true := by
  have hascii := (toNat_of_isNameChar h).2
  simpa [Text.isWord, hascii, isNameChar] using h

theorem isIdChar_of_isRefChar {c : Char} (h : isRefChar c = true) : isIdChar c = true := by
  simp only [isRefChar, isIdChar, Bool.or_eq_true] at h ⊢
  rcases h with (h | h) | h
  · exact Or.inl (Or.inl (isWord_of_isNameChar h))
  · exact Or.inl (Or.inr h)
  · exact Or.inr h

theorem isBlank_of_isRefChar {c : Char} (h : isRefChar c = true) : Text.isBlank c = false := by
  have hrange := toNat_of_isRefChar h
  simp only [Text.isBlank, Bool.or_eq_false_iff, Bool.and_eq_false_iff, beq_eq_false_iff_ne,
    decide_eq_false_iff_not]
  omega

theorem isInlineBlank_of_isRefChar {c : Char} (h : isRefChar c = true) :
    Text.isInlineBlank c = false := by
  have hrange := toNat_of_isRefChar h
  simp only [Text.isInlineBlank, Bool.or_eq_false_iff, beq_eq_false_iff_ne]
  constructor <;> rintro rfl <;> revert hrange <;> decide

theorem ne_of_isRefChar {c d : Char} (h : isRefChar c = true) (hd : isRefChar d = false) :
    c ≠ d := by
  rintro rfl
  rw [h] at hd
  cases hd

theorem Ident.isNameChar_of_mem {i : Ident} {c : Char} (h : c ∈ i.chars) : isNameChar c = true := by
  rcases List.mem_cons.mp h with rfl | h
  · exact isNameChar_of_isNameStart i.isNameStart_first
  · exact i.isNameChar_more c h

theorem Path.isNameChar_of_mem {p : Path} {c : Char} (h : c ∈ p.chars) :
    isNameChar c = true ∨ c = '.' := by
  rcases List.mem_append.mp h with h | h
  · exact Or.inl (Ident.isNameChar_of_mem h)
  · obtain ⟨i, -, h⟩ := List.mem_flatMap.mp h
    rcases List.mem_cons.mp h with rfl | h
    · exact Or.inr rfl
    · exact Or.inl (Ident.isNameChar_of_mem h)

theorem Path.isRefChar_of_mem {p : Path} {c : Char} (h : c ∈ p.chars) : isRefChar c = true := by
  rcases Path.isNameChar_of_mem h with h | rfl
  · exact isRefChar_of_isNameChar h
  · decide

theorem Ref.isRefChar_of_mem {r : Ref} {c : Char} (h : c ∈ r.chars) : isRefChar c = true := by
  cases r with
  | bare name => exact isRefChar_of_isNameChar (Ident.isNameChar_of_mem h)
  | absolute ns name =>
    rcases List.mem_append.mp h with h | h
    · exact Path.isRefChar_of_mem h
    · rcases List.mem_cons.mp h with rfl | h
      · decide
      · exact isRefChar_of_isNameChar (Ident.isNameChar_of_mem h)

theorem Ref.exists_cons (r : Ref) : ∃ c cs, r.chars = c :: cs ∧ isNameStart c = true := by
  cases r with
  | bare name => exact ⟨name.first, name.more, rfl, name.isNameStart_first⟩
  | absolute ns name =>
    exact ⟨ns.first.first, _, rfl, ns.first.isNameStart_first⟩

theorem Ref.isRefChar_head {r : Ref} {rest : List Char} {c : Char}
    (h : c ∈ (r.chars ++ rest).head?) : isRefChar c = true := by
  obtain ⟨d, cs, hchars, hd⟩ := r.exists_cons
  rw [hchars] at h
  obtain rfl : d = c := Option.some.inj h
  exact isRefChar_of_isNameChar (isNameChar_of_isNameStart hd)

theorem Ident.isRefChar_head {i : Ident} {rest : List Char} {c : Char}
    (h : c ∈ (i.chars ++ rest).head?) : isRefChar c = true :=
  Ref.isRefChar_head (r := .bare i) h

theorem nameOf?_append {more : Char → Bool} {c : Char} {cs rest : List Char}
    (hc : isNameStart c = true) (hcs : ∀ d ∈ cs, more d = true)
    (hrest : ∀ d ∈ rest.head?, more d = false) :
    nameOf? more (c :: cs ++ rest) = some (String.ofList (c :: cs), rest) := by
  obtain ⟨htake, hdrop⟩ := Text.takeWhile_dropWhile_append hcs hrest
  simp only [List.cons_append, nameOf?, hc, if_true, htake, hdrop]

theorem name?_append (i : Ident) {rest : List Char}
    (hrest : ∀ c ∈ rest.head?, Text.isWord c = false) :
    name? (i.chars ++ rest) = some (i.text, rest) :=
  nameOf?_append i.isNameStart_first
    (fun c hc => isWord_of_isNameChar (i.isNameChar_more c hc)) hrest

theorem target?_append (r : Ref) {rest : List Char}
    (hrest : ∀ c ∈ rest.head?, isIdChar c = false) :
    target? (r.chars ++ rest) = some (r.text, rest) := by
  obtain ⟨c, cs, hchars, hc⟩ := r.exists_cons
  have hcs : ∀ d ∈ cs, isIdChar d = true := by
    intro d hd
    have hmem : d ∈ r.chars := by
      rw [hchars]
      exact List.mem_cons_of_mem c hd
    exact isIdChar_of_isRefChar (Ref.isRefChar_of_mem hmem)
  rw [Ref.text, hchars]
  exact nameOf?_append hc hcs hrest

section Meaning

variable (ns : Path)

theorem Path.id_eq_ofList (name : Ident) :
    ns.id name = String.ofList (ns.chars ++ '#' :: name.chars) := by
  rw [Path.id, Path.text, Ident.text, ← String.toList_inj]
  simp

theorem Ident.hash_not_mem (i : Ident) : '#' ∉ i.chars := fun h =>
  absurd (Ident.isNameChar_of_mem h) (by decide)

theorem resolve_text (r : Ref) : resolve ns.text r.text = r.shapeId ns := by
  cases r with
  | bare name =>
    simp [resolve, Ref.text, Ref.chars, Ref.shapeId, name.hash_not_mem, Ident.text, Path.id]
  | absolute other name =>
    rw [Ref.shapeId, Path.id_eq_ofList]
    simp [resolve, Ref.text, Ref.chars]

theorem traitId_text (r : Ref) : traitId r.text = r.traitId := by
  cases r with
  | bare name =>
    simp [traitId, Ref.text, Ref.chars, Ref.traitId, name.hash_not_mem, Ident.text]
  | absolute other name =>
    rw [Ref.traitId, Path.id_eq_ofList]
    simp [traitId, Ref.text, Ref.chars]

end Meaning

theorem docs_eq_nil {cs : List Char} (h : ∀ c ∈ cs.head?, c ≠ '/') : docs cs = ([], cs) := by
  cases cs with
  | nil => rfl
  | cons c cs =>
    have hc : '/' ≠ c := fun he => h c rfl he.symm
    simp [docs, Matcher.run, Matcher.runFrom, docLine?, Text.strip?, hc]

theorem skipBlank_append {pad rest : List Char} (hpad : ∀ c ∈ pad, c = ' ')
    (hrest : ∀ c ∈ rest.head?, Text.isBlank c = false) : skipBlank (pad ++ rest) = rest := by
  have hblank : ∀ c ∈ pad, Text.isBlank c = true := by
    intro c hc
    rw [hpad c hc]
    decide
  exact (Text.takeWhile_dropWhile_append hblank hrest).2

theorem skipBlank_space {rest : List Char} (hrest : ∀ c ∈ rest.head?, Text.isBlank c = false) :
    skipBlank (' ' :: rest) = rest :=
  skipBlank_append (show ∀ c ∈ [' '], c = ' ' by simp) hrest

theorem applications_eq_nil {cs : List Char} (h : ∀ c ∈ cs.head?, c ≠ '@') :
    applications cs = ([], cs) := by
  cases cs with
  | nil => rfl
  | cons c cs =>
    have hnone : application? (c :: cs) = none := by
      unfold application?
      split
      · next heq => exact absurd (List.cons.inj heq).1 (h c rfl)
      · rfl
    simp [applications, Matcher.run, Matcher.runFrom, hnone]

theorem application?_bare (t : Ref) (rest : List Char) :
    application? ('@' :: (t.chars ++ '\n' :: rest)) = some (⟨t.text, none⟩, '\n' :: rest) := by
  have hids : ∀ c ∈ t.chars, isIdChar c = true := fun c hc =>
    isIdChar_of_isRefChar (Ref.isRefChar_of_mem hc)
  obtain ⟨htake, hdrop⟩ := Text.takeWhile_dropWhile_append hids
    (show ∀ c ∈ ('\n' :: rest).head?, isIdChar c = false by simp; decide)
  obtain ⟨c, cs, hchars, -⟩ := t.exists_cons
  have hne : t.chars.isEmpty = false := by simp [hchars]
  simp [application?, htake, hdrop, hne, Ref.text]

namespace Source

theorem lastOf_line (before : Option Char) (margin : Nat) (cs : List Char) :
    Matcher.lastOf before (line margin cs) = some '\n' := Matcher.lastOf_concat before _ '\n'

/-- The lines of bare traits from the first one on, each with the margin of the line after it. -/
def traitRun (pad : List Char) (applied : List Ref) : List Char :=
  applied.flatMap fun t => '@' :: (t.chars ++ '\n' :: pad)

theorem traitLines_append (margin : Nat) (applied : List Ref) :
    traitLines margin applied ++ List.replicate margin ' '
      = List.replicate margin ' ' ++ traitRun (List.replicate margin ' ') applied := by
  induction applied with
  | nil => simp [traitLines, traitRun]
  | cons t applied ih =>
    simp only [traitLines, traitRun, List.flatMap_cons, line, List.append_assoc,
      List.cons_append, List.nil_append] at ih ⊢
    rw [ih]

theorem lastOf_pad {pad : List Char} (hpad : ∀ c ∈ pad, c = ' ') (before : Option Char) :
    Matcher.lastOf before pad = before ∨ Matcher.lastOf before pad = some ' ' := by
  induction pad generalizing before with
  | nil => exact Or.inl rfl
  | cons c pad ih =>
    obtain rfl : c = ' ' := hpad c (by simp)
    right
    rw [Matcher.lastOf_cons]
    rcases ih (fun d hd => hpad d (List.mem_cons_of_mem _ hd)) (some ' ') with h | h
    · exact h
    · exact h

theorem mayStartAfter_lastOf_pad {pad : List Char} (hpad : ∀ c ∈ pad, c = ' ')
    {before : Option Char} (h : mayStartAfter before = true) :
    mayStartAfter (Matcher.lastOf before pad) = true := by
  rcases lastOf_pad hpad before with hlast | hlast
  · rw [hlast]
    exact h
  · rw [hlast]
    decide

/-- What traits are applied to may start after them. -/
theorem mayStartAfter_lastOf_traitRun {pad : List Char} (hpad : ∀ c ∈ pad, c = ' ')
    {before : Option Char} (h : mayStartAfter before = true) (applied : List Ref) :
    mayStartAfter (Matcher.lastOf before (traitRun pad applied)) = true := by
  induction applied generalizing before with
  | nil => exact h
  | cons t applied ih =>
    have hlast : Matcher.lastOf before ('@' :: (t.chars ++ '\n' :: pad))
        = Matcher.lastOf (some '\n') pad := by
      simp only [Matcher.lastOf_cons, Matcher.lastOf_append]
    rw [traitRun, List.flatMap_cons, Matcher.lastOf_append, hlast]
    exact ih (mayStartAfter_lastOf_pad hpad (by decide))

end Source

open Source in
/-- Bare traits, each on a line of its own, in the margin of what they are applied to. -/
theorem applications_traitRun (applied : List Ref) {pad rest : List Char}
    (hpad : ∀ c ∈ pad, c = ' ') (hrest : ∀ c ∈ rest.head?, isRefChar c = true) :
    applications (traitRun pad applied ++ rest) = (applied.map fun t => ⟨t.text, none⟩, rest) := by
  induction applied with
  | nil => exact applications_eq_nil fun c hc => ne_of_isRefChar (hrest c hc) (by decide)
  | cons t applied ih =>
    have hnext : ∀ c ∈ (traitRun pad applied ++ rest).head?, Text.isBlank c = false := by
      cases applied with
      | nil => exact fun c hc => isBlank_of_isRefChar (hrest c hc)
      | cons t' applied =>
        intro c hc
        obtain rfl : '@' = c := Option.some.inj hc
        decide
    have hskip : skipBlank ('\n' :: (pad ++ (traitRun pad applied ++ rest)))
        = traitRun pad applied ++ rest := skipBlank_append hpad hnext
    have hmatch : (application? ('@' :: (t.chars ++ '\n' :: pad)
          ++ (traitRun pad applied ++ rest))).map (fun p => (p.1, skipBlank p.2))
        = some (⟨t.text, none⟩, traitRun pad applied ++ rest) := by
      rw [List.cons_append, List.append_assoc, List.cons_append, application?_bare,
        Option.map_some]
      exact congrArg (fun cs => some (_, cs)) hskip
    unfold applications at ih ⊢
    rw [traitRun, List.flatMap_cons, List.append_assoc]
    rw [← traitRun, Matcher.run_append (List.cons_ne_nil _ _) hmatch, ih]
    rfl

theorem traitEntries_bare (applied : List Ref) :
    traitEntries [] (applied.map fun t => ⟨t.text, none⟩) = Source.traitsOf applied := by
  have hdocs : documentation? [] = none := by decide
  have hpairs : (applied.map fun t => (⟨t.text, none⟩ : Application)).map
      (fun a => (traitId a.name, a.value)) = applied.map fun t => (t.traitId, .map []) := by
    simp [Application.value, traitId_text]
  simp only [traitEntries, hdocs, hpairs, Source.traitsOf]

open Source in
theorem start_traitRun (applied : List Ref) {pad rest : List Char} (hpad : ∀ c ∈ pad, c = ' ')
    (hrest : ∀ c ∈ rest.head?, isRefChar c = true) {before : Option Char}
    (hbefore : mayStartAfter before = true) :
    docs (traitRun pad applied ++ rest) = ([], traitRun pad applied ++ rest)
      ∧ applications (traitRun pad applied ++ rest) = (applied.map fun t => ⟨t.text, none⟩, rest)
      ∧ mayStartAfter (Matcher.lastBefore before (traitRun pad applied ++ rest) rest) = true := by
  refine ⟨docs_eq_nil ?_, applications_traitRun applied hpad hrest, ?_⟩
  · cases applied with
    | nil => exact fun c hc => ne_of_isRefChar (hrest c hc) (by decide)
    | cons t applied =>
      intro c hc
      obtain rfl : '@' = c := Option.some.inj hc
      decide
  · rw [Matcher.lastBefore_append]
    exact mayStartAfter_lastOf_traitRun hpad hbefore applied

end SmithyGen.Idl
