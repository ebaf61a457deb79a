import Mathlib.Data.List.DropRight
import SmithyGen.Document.Render
import SmithyGen.Proofs.Text

namespace SmithyGen

namespace Text

/-- What stands between the line feeds of a text. -/
def rows (cs : List Char) : List (List Char) := splitWhere (· == '\n') cs

theorem feed_not_mem_of_mem_rows {cs row : List Char} (h : row ∈ rows cs) : '\n' ∉ row :=
  fun hc => by simpa using eq_false_of_mem_splitWhere h hc

theorem rows_append_feed (xs ys : List Char) : rows (xs ++ '\n' :: ys) = rows xs ++ rows ys :=
  splitWhere_append_cons rfl xs ys

theorem rows_joinWith {parts : List (List Char)} (hne : parts ≠ [])
    (h : ∀ part ∈ parts, '\n' ∉ part) : rows (joinWith ['\n'] parts) = parts := by
  refine splitWhere_joinWith_singleton rfl hne fun part hpart c hc => ?_
  simpa using fun he : c = '\n' => h part hpart (he ▸ hc)

theorem joinWith_rows (cs : List Char) : joinWith ['\n'] (rows cs) = cs :=
  joinWith_splitWhere '\n' cs

theorem head?_rows_eq_nil_iff {cs : List Char} :
    (rows cs).head? = some [] ↔ cs = [] ∨ cs.head? = some '\n' := by
  constructor
  · intro h
    obtain ⟨others, hrows⟩ := List.head?_eq_some_iff.mp h
    have hcs := joinWith_rows cs
    rw [hrows] at hcs
    cases others with
    | nil => exact .inl hcs.symm
    | cons next others =>
      rw [joinWith_cons_cons] at hcs
      exact .inr (by rw [← hcs]; rfl)
  · rintro (rfl | h)
    · rfl
    · obtain ⟨ys, rfl⟩ := List.head?_eq_some_iff.mp h
      exact congrArg List.head? (rows_append_feed [] ys)

theorem getLast?_rows_eq_nil_iff {cs : List Char} :
    (rows cs).getLast? = some [] ↔ cs = [] ∨ cs.getLast? = some '\n' := by
  constructor
  · intro h
    obtain ⟨others, hrows⟩ := List.getLast?_eq_some_iff.mp h
    have hcs := joinWith_rows cs
    rw [hrows] at hcs
    by_cases hothers : others = []
    · rw [hothers] at hcs
      exact .inl hcs.symm
    · rw [joinWith_concat hothers, List.append_nil] at hcs
      exact .inr (by rw [← hcs, List.getLast?_concat])
  · rintro (rfl | h)
    · rfl
    · obtain ⟨xs, rfl⟩ := List.getLast?_eq_some_iff.mp h
      rw [rows_append_feed]
      exact List.getLast?_concat

end Text

namespace Document

open Text

/-- Rows of a text in normal form: neither the first nor the last is empty, no three empty ones
stand together, and none ends with a blank. -/
structure IsClean (parts : List (List Char)) : Prop where
  no_feed : ∀ row ∈ parts, '\n' ∉ row
  no_blank_last : ∀ row ∈ parts, ∀ c ∈ row.getLast?, isBlank c = false
  head : parts.head? ≠ some []
  last : parts.getLast? ≠ some []
  no_gap : ¬ [[], [], []] <:+: parts

/-- The text of rows, each with a line feed after it. -/
def written (parts : List (List Char)) : List Char := joinWith ['\n'] parts ++ ['\n']

/-- The rows that clean-up leaves of a text. -/
def cleaned (cs : List Char) : List (List Char) :=
  capBlank 0 (dropBlankEnds ((rows cs).map trimEnd))

theorem tidy_eq_written (cs : List Char) : tidy cs = written (cleaned cs) := rfl

theorem rows_written_nil : rows (written []) = [[], []] := rfl

theorem rows_written {parts : List (List Char)} (hne : parts ≠ [])
    (h : ∀ row ∈ parts, '\n' ∉ row) : rows (written parts) = parts ++ [[]] := by
  rw [written, rows_append_feed, rows_joinWith hne h]
  rfl

section CapBlank

theorem capBlank_sublist (run : Nat) (parts : List (List Char)) :
    (capBlank run parts).Sublist parts := by
  induction parts generalizing run with
  | nil => exact List.Sublist.refl _
  | cons row parts ih =>
    rw [capBlank]
    split_ifs
    · exact (ih _).cons_cons row
    · exact (ih _).cons row
    · exact (ih _).cons_cons row

/-- A row with characters is kept, and what follows it does not depend on what stands before. -/
theorem capBlank_append_cons {row : List Char} (h : row ≠ []) (run : Nat)
    (front back : List (List Char)) :
    capBlank run (front ++ row :: back) = capBlank run front ++ row :: capBlank 0 back := by
  induction front generalizing run with
  | nil => simp [capBlank, h]
  | cons first front ih =>
    rw [List.cons_append, capBlank, capBlank]
    split_ifs <;> simp [ih]

theorem head?_capBlank {run : Nat} {parts : List (List Char)} (h : parts.head? ≠ some []) :
    (capBlank run parts).head? ≠ some [] := by
  cases parts with
  | nil => exact h
  | cons row parts =>
    have hrow : row ≠ [] := by simpa using h
    simp [capBlank, hrow]

theorem getLast?_capBlank {run : Nat} {parts : List (List Char)} (h : parts.getLast? ≠ some []) :
    (capBlank run parts).getLast? ≠ some [] := by
  rcases List.eq_nil_or_concat' parts with rfl | ⟨front, row, rfl⟩
  · exact h
  · have hrow : row ≠ [] := by simpa using h
    simp [capBlank_append_cons hrow, capBlank, hrow]

theorem filter_capBlank (run : Nat) (parts : List (List Char)) :
    (capBlank run parts).filter (· != []) = parts.filter (· != []) := by
  induction parts generalizing run with
  | nil => rfl
  | cons row parts ih =>
    rw [capBlank]
    split_ifs with hrow hrun
    · rw [List.filter_cons, List.filter_cons, ih]
    · obtain rfl : row = [] := by simpa using hrow
      exact ih run
    · rw [List.filter_cons, List.filter_cons, ih]

/-- Empty rows kept right before count among the two that may stand together. -/
theorem no_gap_capBlank {run : Nat} (hrun : run ≤ 2) (parts : List (List Char)) :
    ¬ [[], [], []] <:+: List.replicate run [] ++ capBlank run parts := by
  induction parts generalizing run with
  | nil =>
    intro h
    have hlength := h.length_le
    simp only [capBlank, List.append_nil, List.length_replicate, List.length_cons,
      List.length_nil] at hlength
    omega
  | cons row parts ih =>
    rw [capBlank]
    split_ifs with hrow hlt
    · obtain rfl : row = [] := by simpa using hrow
      have hnext := ih (show run + 1 ≤ 2 by omega)
      rwa [List.replicate_succ', List.append_assoc] at hnext
    · exact ih hrun
    · have hnext := ih (show 0 ≤ 2 by omega)
      have hne : [] ≠ row := by simpa using Ne.symm hrow
      obtain rfl | rfl | rfl : run = 0 ∨ run = 1 ∨ run = 2 := by omega
      all_goals simpa [List.replicate, List.infix_cons_iff, List.cons_prefix_cons, hne] using hnext

theorem capBlank_of_no_gap {run : Nat} {parts : List (List Char)} (hrun : run ≤ 2)
    (h : ¬ [[], [], []] <:+: List.replicate run [] ++ parts) : capBlank run parts = parts := by
  induction parts generalizing run with
  | nil => rfl
  | cons row parts ih =>
    rw [capBlank]
    split_ifs with hrow hlt
    · obtain rfl : row = [] := by simpa using hrow
      rw [ih (show run + 1 ≤ 2 by omega)]
      rwa [List.replicate_succ', List.append_assoc]
    · obtain rfl : row = [] := by simpa using hrow
      obtain rfl : run = 2 := by omega
      exact absurd ⟨[], parts, rfl⟩ h
    · rw [ih (Nat.zero_le 2)]
      intro hgap
      exact h (hgap.trans (List.suffix_append_of_suffix (List.suffix_cons row parts)).isInfix)

end CapBlank

section BlankEnds

theorem dropBlankEnds_prefix_dropWhile (parts : List (List Char)) :
    dropBlankEnds parts <+: parts.dropWhile List.isEmpty :=
  List.rdropWhile_prefix List.isEmpty _

theorem dropBlankEnds_sublist (parts : List (List Char)) :
    (dropBlankEnds parts).Sublist parts :=
  (dropBlankEnds_prefix_dropWhile parts).sublist.trans (List.dropWhile_sublist _)

theorem getLast?_dropBlankEnds (parts : List (List Char)) :
    (dropBlankEnds parts).getLast? ≠ some [] := by
  intro h
  rw [dropBlankEnds, List.getLast?_reverse] at h
  have hhead := List.head?_dropWhile_not List.isEmpty (parts.dropWhile List.isEmpty).reverse
  rw [h] at hhead
  cases hhead

theorem head?_dropBlankEnds (parts : List (List Char)) :
    (dropBlankEnds parts).head? ≠ some [] := by
  intro h
  obtain ⟨others, hparts⟩ := List.head?_eq_some_iff.mp h
  obtain ⟨back, hback⟩ := dropBlankEnds_prefix_dropWhile parts
  have hhead := List.head?_dropWhile_not List.isEmpty parts
  rw [← hback, hparts] at hhead
  cases hhead

theorem filter_dropWhile_isEmpty (parts : List (List Char)) :
    (parts.dropWhile List.isEmpty).filter (· != []) = parts.filter (· != []) := by
  induction parts with
  | nil => rfl
  | cons row parts ih =>
    by_cases hrow : row = []
    · rw [hrow, List.dropWhile_cons_of_pos rfl, ih]
      rfl
    · rw [List.dropWhile_cons_of_neg (by simpa using hrow)]

theorem filter_dropBlankEnds (parts : List (List Char)) :
    (dropBlankEnds parts).filter (· != []) = parts.filter (· != []) := by
  rw [dropBlankEnds, List.filter_reverse, filter_dropWhile_isEmpty, List.filter_reverse,
    List.reverse_reverse, filter_dropWhile_isEmpty]

end BlankEnds

theorem isClean_cleaned (cs : List Char) : IsClean (cleaned cs) := by
  have hsublist := (capBlank_sublist 0 _).trans (dropBlankEnds_sublist ((rows cs).map trimEnd))
  have hrow : ∀ row ∈ cleaned cs, ∃ line ∈ rows cs, trimEnd line = row := fun row h =>
    List.mem_map.mp (hsublist.subset h)
  refine ⟨?_, ?_, head?_capBlank (head?_dropBlankEnds _),
    getLast?_capBlank (getLast?_dropBlankEnds _), no_gap_capBlank (Nat.zero_le 2) _⟩
  · intro row h hfeed
    obtain ⟨line, hline, rfl⟩ := hrow row h
    exact feed_not_mem_of_mem_rows hline (mem_dropWhileEnd hfeed)
  · intro row h c hc
    obtain ⟨line, -, rfl⟩ := hrow row h
    exact not_isBlank_last_trimEnd hc

theorem IsClean.dropBlankEnds_concat {parts : List (List Char)} (h : IsClean parts) :
    dropBlankEnds (parts ++ [[]]) = parts := by
  cases hparts : parts with
  | nil => rfl
  | cons first others =>
    have hhead : ∀ row ∈ (parts ++ [[]]).head?, row.isEmpty = false := by
      simpa [hparts] using h.head
    have hlast : ∀ row ∈ parts.reverse.head?, row.isEmpty = false := by
      intro row hrow
      rw [List.head?_reverse] at hrow
      simpa using fun he : row = [] => h.last (he ▸ hrow)
    rw [← hparts, dropBlankEnds, dropWhile_of_head? hhead, List.reverse_append]
    change (List.dropWhile List.isEmpty ([] :: parts.reverse)).reverse = parts
    rw [List.dropWhile_cons_of_pos rfl, dropWhile_of_head? hlast, List.reverse_reverse]

theorem IsClean.no_gap_concat {parts : List (List Char)} (h : IsClean parts) :
    ¬ [[], [], []] <:+: parts ++ [[]] := by
  rw [List.infix_concat_iff, List.suffix_concat_iff]
  rintro ((hnil | ⟨front, hfront, hsuffix⟩) | hgap)
  · cases hnil
  · obtain rfl : front = [[], []] := (List.append_inj_left' hfront rfl).symm
    obtain ⟨others, hparts⟩ := hsuffix
    exact h.last (by rw [← hparts]; simp)
  · exact h.no_gap hgap

/-- Clean-up finds rows in normal form again. -/
theorem IsClean.cleaned_written {parts : List (List Char)} (h : IsClean parts) :
    cleaned (written parts) = parts := by
  by_cases hne : parts = []
  · rw [hne]
    rfl
  · have hkeep : ∀ row ∈ parts ++ [[]], trimEnd row = row := by
      intro row hrow
      rcases List.mem_append.mp hrow with hrow | hrow
      · exact dropWhileEnd_of_getLast? (h.no_blank_last row hrow)
      · rw [List.mem_singleton.mp hrow]
        rfl
    have htrim : (parts ++ [[]]).map trimEnd = parts ++ [[]] :=
      (List.map_congr_left hkeep).trans (List.map_id _)
    rw [cleaned, rows_written hne h.no_feed, htrim, h.dropBlankEnds_concat,
      capBlank_of_no_gap (Nat.zero_le 2) h.no_gap]

/-- A text in normal form. One line feed ends it and, unless it is all of the text, none starts it;
no row ends with a blank, and there are no three empty rows together. -/
structure IsTidy (cs : List Char) : Prop where
  ends : ∃ body, cs = body ++ ['\n'] ∧ body.getLast? ≠ some '\n'
  starts : cs.head? = some '\n' → cs = ['\n']
  no_blank_last : ∀ row ∈ rows cs, ∀ c ∈ row.getLast?, isBlank c = false
  no_gap : ¬ [[], [], []] <:+: rows cs

theorem IsClean.isTidy_written {parts : List (List Char)} (h : IsClean parts) :
    IsTidy (written parts) := by
  by_cases hne : parts = []
  · subst hne
    exact ⟨⟨[], rfl, by simp⟩, fun _ => rfl, by rw [rows_written_nil]; simp, by
      rw [rows_written_nil]; decide⟩
  · have hrows := rows_joinWith hne h.no_feed
    have hbody : joinWith ['\n'] parts ≠ [] := by
      intro hnil
      rw [hnil] at hrows
      exact h.head (by rw [← hrows]; rfl)
    refine ⟨⟨joinWith ['\n'] parts, rfl, ?_⟩, ?_, ?_, ?_⟩
    · intro hlast
      exact h.last (hrows ▸ getLast?_rows_eq_nil_iff.mpr (.inr hlast))
    · intro hhead
      rw [written, List.head?_append_of_ne_nil _ hbody] at hhead
      exact absurd (hrows ▸ head?_rows_eq_nil_iff.mpr (.inr hhead)) h.head
    · rw [rows_written hne h.no_feed]
      simpa [or_imp, forall_and] using h.no_blank_last
    · rw [rows_written hne h.no_feed]
      exact h.no_gap_concat

theorem IsTidy.exists_written {cs : List Char} (h : IsTidy cs) :
    ∃ parts, IsClean parts ∧ cs = written parts := by
  obtain ⟨body, hcs, hlast⟩ := h.ends
  by_cases hbody : body = []
  · refine ⟨[], ⟨by simp, by simp, by simp, by simp, by decide⟩, ?_⟩
    rw [hcs, hbody]
    rfl
  · have hrows : rows cs = rows body ++ [[]] := by rw [hcs, rows_append_feed]; rfl
    have hfirst : body.head? ≠ some '\n' := by
      intro hhead
      have hall := h.starts (by rw [hcs, List.head?_append_of_ne_nil _ hbody, hhead])
      rw [hcs] at hall
      exact hbody (by simpa using hall)
    refine ⟨rows body, ⟨fun _ => feed_not_mem_of_mem_rows, ?_, ?_, ?_, ?_⟩, ?_⟩
    · exact fun row hrow => h.no_blank_last row (by rw [hrows]; exact List.mem_append_left _ hrow)
    · simp [head?_rows_eq_nil_iff, hbody, hfirst]
    · simp [getLast?_rows_eq_nil_iff, hbody, hlast]
    · exact fun hgap => h.no_gap (by
        rw [hrows]
        exact hgap.trans (List.prefix_append _ _).isInfix)
    · rw [written, joinWith_rows, hcs]

/-- Clean-up leaves a text as it is exactly where it is in normal form. -/
theorem tidy_eq_self_iff (cs : List Char) : tidy cs = cs ↔ IsTidy cs := by
  constructor
  · intro h
    rw [← h, tidy_eq_written]
    exact (isClean_cleaned cs).isTidy_written
  · intro h
    obtain ⟨parts, hparts, rfl⟩ := h.exists_written
    rw [tidy_eq_written, hparts.cleaned_written]

/-- Clean-up gives the normal form of a text. Of its rows, less the blanks at their ends, it keeps
all that are not empty, in their order and with nothing added, and a second clean-up changes
nothing. -/
theorem tidy_normal_form (cs : List Char) :
    IsTidy (tidy cs)
      ∧ (rows (tidy cs)).filter (· != []) = ((rows cs).map trimEnd).filter (· != [])
      ∧ tidy (tidy cs) = tidy cs := by
  have hclean := isClean_cleaned cs
  have htidy : IsTidy (tidy cs) := hclean.isTidy_written
  refine ⟨htidy, ?_, (tidy_eq_self_iff _).mpr htidy⟩
  have hkept : (cleaned cs).filter (· != []) = ((rows cs).map trimEnd).filter (· != []) := by
    rw [cleaned, filter_capBlank, filter_dropBlankEnds]
  rw [tidy_eq_written, ← hkept]
  by_cases hne : cleaned cs = []
  · rw [hne, rows_written_nil]
    rfl
  · rw [rows_written hne hclean.no_feed, List.filter_append]
    exact List.append_nil _

example : String.ofList (tidy "\nimport os  \n\n \n\n\nHOST = 1\n".toList)
    = "import os\n\n\nHOST = 1\n" := by
  decide

end Document

end SmithyGen
