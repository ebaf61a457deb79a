import SmithyGen.Proofs.Entries
import SmithyGen.Proofs.Idl.Words

namespace SmithyGen.Idl

open Matcher Source

theorem member_blank {c : Char} (hc : c = ' ' ∨ c = '\n') (before : Option Char)
    (cs : List Char) : member before (c :: cs) = none := by
  have hdocs : docs (c :: cs) = ([], c :: cs) := docs_eq_nil (by
    rintro d hd rfl
    obtain rfl : c = '/' := Option.some.inj hd
    revert hc
    decide)
  have happlied : applications (c :: cs) = ([], c :: cs) := applications_eq_nil (by
    rintro d hd rfl
    obtain rfl : c = '@' := Option.some.inj hd
    revert hc
    decide)
  have hname : name? (c :: cs) = none := by
    rcases hc with rfl | rfl <;> rfl
  simp only [member, hdocs, happlied, hname]
  split_ifs <;> rfl

def memberText (pad : List Char) (m : Source.Member) : List Char :=
  traitRun pad m.traits ++ (m.name.chars ++ ':' :: ' ' :: m.target.chars)

theorem lines_eq (margin : Nat) (m : Source.Member) :
    m.lines margin = List.replicate margin ' '
      ++ (memberText (List.replicate margin ' ') m ++ ['\n']) := by
  rw [Source.Member.lines, fieldLine, line, memberText, List.append_assoc, ← List.append_assoc,
    traitLines_append]
  simp

theorem member_match (m : Source.Member) {pad : List Char} (hpad : ∀ c ∈ pad, c = ' ')
    {before : Option Char} (hbefore : mayStartAfter before = true) (rest : List Char) :
    member before (memberText pad m ++ '\n' :: rest)
      = some (⟨m.name.text, m.target.text, traitsOf m.traits⟩, '\n' :: rest) := by
  have htext : memberText pad m ++ '\n' :: rest = traitRun pad m.traits
      ++ (m.name.chars ++ ':' :: ' ' :: (m.target.chars ++ '\n' :: rest)) := by
    simp [memberText]
  have hhead : ∀ c ∈ (m.name.chars ++ ':' :: ' ' :: (m.target.chars ++ '\n' :: rest)).head?,
      isRefChar c = true := fun c => Ident.isRefChar_head
  obtain ⟨hdocs, happlied, hstart⟩ := start_traitRun m.traits hpad hhead hbefore
  have hname : name? (m.name.chars ++ ':' :: ' ' :: (m.target.chars ++ '\n' :: rest))
      = some (m.name.text, ':' :: ' ' :: (m.target.chars ++ '\n' :: rest)) :=
    name?_append m.name (by simp; decide)
  have hcolon : skipBlank (':' :: ' ' :: (m.target.chars ++ '\n' :: rest))
      = ':' :: ' ' :: (m.target.chars ++ '\n' :: rest) := rfl
  have hblank : skipBlank (' ' :: (m.target.chars ++ '\n' :: rest))
      = m.target.chars ++ '\n' :: rest :=
    skipBlank_space fun c hc => isBlank_of_isRefChar (Ref.isRefChar_head hc)
  have htarget : target? (m.target.chars ++ '\n' :: rest) = some (m.target.text, '\n' :: rest) :=
    target?_append m.target (by simp; decide)
  rw [htext]
  simp only [member, hdocs, happlied, hstart, if_true, hname, hcolon, hblank, htarget,
    traitEntries_bare, Option.bind_eq_bind, Option.bind_some]
  rfl

/-- Where the text of members ends, the next thing may start. -/
theorem allFrom_members (margin : Nat) (ms : List Source.Member) {before : Option Char}
    (hbefore : mayStartAfter before = true) :
    allFrom member 0 before (ms.flatMap (·.lines margin))
      = ms.map fun m => ⟨m.name.text, m.target.text, traitsOf m.traits⟩ := by
  have hpad : ∀ c ∈ List.replicate margin ' ', c = ' ' := fun c hc => List.eq_of_mem_replicate hc
  induction ms generalizing before with
  | nil => rfl
  | cons m ms ih =>
    have hne : memberText (List.replicate margin ' ') m ≠ [] := by
      simp [memberText, Ident.chars]
    have hstart := mayStartAfter_lastOf_pad hpad hbefore
    -- The margin is passed over, the member is taken up and the line break is passed over.
    rw [List.flatMap_cons, lines_eq, List.append_assoc, List.append_assoc, List.cons_append,
      List.nil_append]
    rw [allFrom_of_passes (passes_of_forall (fun b c hc rest =>
      member_blank (Or.inl (hpad c hc)) b rest) _ _)]
    rw [allFrom_of_match hne (member_match m hpad hstart _)]
    rw [allFrom_cons_of_none (member_blank (Or.inr rfl) _ _), ih (by decide), List.map_cons]

/-- The members of a block are read as they were written. -/
theorem members_lines (ns : Path) (margin : Nat) {ms : List Source.Member}
    (hnodup : (ms.map (·.name.text)).Nodup) :
    members ns.text ('\n' :: ms.flatMap (·.lines margin)) = ms.map (·.entry ns) := by
  have hall : member.all ('\n' :: ms.flatMap (·.lines margin))
      = ms.map fun m => ⟨m.name.text, m.target.text, traitsOf m.traits⟩ := by
    rw [Matcher.all, allFrom_cons_of_none (member_blank (Or.inr rfl) _ _)]
    exact allFrom_members margin ms (by decide)
  rw [members, hall, List.map_map, Entries.ofList_of_nodup]
  · exact List.map_congr_left fun m _ => by simp [Source.Member.entry, resolve_text]
  · simpa [Function.comp_def] using hnodup

end SmithyGen.Idl
