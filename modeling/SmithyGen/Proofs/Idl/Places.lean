import Mathlib.Data.List.TakeWhile
import SmithyGen.Proofs.Idl.Declared
import SmithyGen.Proofs.Search

namespace SmithyGen.Idl

open Matcher

theorem docs_suffix (cs : List Char) : (docs cs).2 <:+ cs := runFrom_suffix docLine? 0 cs

theorem applications_suffix (cs : List Char) : (applications cs).2 <:+ cs := runFrom_suffix _ 0 cs

theorem applications_docs_suffix (cs : List Char) : (applications (docs cs).2).2 <:+ cs :=
  (applications_suffix _).trans (docs_suffix cs)

def IsNameOf (more : Char → Bool) (s : String) : Prop :=
  ∃ c cs, s.toList = c :: cs ∧ isNameStart c = true ∧ ∀ d ∈ cs, more d = true

theorem nameOf?_cases {more : Char → Bool} {cs rest : List Char} {s : String}
    (h : nameOf? more cs = some (s, rest)) : IsNameOf more s ∧ cs = s.toList ++ rest := by
  cases cs with
  | nil => cases h
  | cons c cs =>
    rw [nameOf?] at h
    split_ifs at h with hstart
    obtain ⟨rfl, rfl⟩ := Prod.mk.inj (Option.some.inj h)
    refine ⟨⟨c, cs.takeWhile more, by simp, hstart, fun d hd => List.mem_takeWhile_imp hd⟩, ?_⟩
    simp [List.takeWhile_append_dropWhile]

section Members

theorem member_cases {before : Option Char} {cs rest : List Char} {w : WrittenMember}
    (h : member before cs = some (w, rest)) :
    IsNameOf Text.isWord w.name ∧ IsNameOf isIdChar w.target ∧ w.name.toList <:+: cs := by
  simp only [member] at h
  split_ifs at h
  obtain ⟨⟨name, after⟩, hname, h⟩ := Option.bind_eq_some_iff.mp h
  obtain ⟨hisName, hplace⟩ := nameOf?_cases hname
  split at h
  next rest' hcolon =>
    obtain ⟨⟨target, last⟩, htarget, h⟩ := Option.bind_eq_some_iff.mp h
    obtain ⟨rfl, -⟩ := Prod.mk.inj (Option.some.inj h)
    refine ⟨hisName, (nameOf?_cases htarget).1, ?_⟩
    obtain ⟨start, hstart⟩ := applications_docs_suffix cs
    exact ⟨start, after, by rw [List.append_assoc, ← hplace, hstart]⟩
  next => cases h

/-- The members of a block are named where they stand, and a target is written as a name or an
id. -/
theorem mem_members {ns : String} {body : List Char} {k : String} {m : Member}
    (h : (k, m) ∈ members ns body) :
    k.toList <:+: body ∧ ∃ target, IsNameOf isIdChar target ∧ m.target = resolve ns target := by
  obtain ⟨w, hw, heq⟩ := List.mem_map.mp (Entries.mem_of_mem_ofList h)
  obtain ⟨rfl, rfl⟩ := Prod.mk.inj heq
  obtain ⟨before, cs, rest, hsuffix, hmatch⟩ := exists_match_of_mem_allFrom hw
  obtain ⟨-, htarget, hname⟩ := member_cases hmatch
  exact ⟨hname.trans hsuffix.isInfix, w.target, htarget, rfl⟩

end Members

section Declarations

theorem named?_cases {κ : Type} {keywords : List (String × κ)} {cs rest : List Char} {kind : κ}
    {name : String} (h : named? keywords cs = some ((kind, name), rest)) :
    IsNameOf Text.isWord name ∧ ∃ word, (word, kind) ∈ keywords := by
  obtain ⟨⟨word, kind'⟩, hmem, h⟩ := List.exists_of_findSome?_eq_some h
  obtain ⟨after, -, h⟩ := Option.bind_eq_some_iff.mp h
  simp only at h
  split_ifs at h
  · cases h
  obtain ⟨⟨name', last⟩, hname, h⟩ := Option.bind_eq_some_iff.mp h
  obtain ⟨heq, -⟩ := Prod.mk.inj (Option.some.inj h)
  obtain ⟨rfl, rfl⟩ := Prod.mk.inj heq
  exact ⟨(nameOf?_cases hname).1, word, hmem⟩

theorem block?_cases {cs rest : List Char} {written : Written}
    (h : block? cs = some (written, rest)) :
    ∃ kind name body, written = .block kind name body ∧ IsNameOf Text.isWord name := by
  obtain ⟨⟨⟨kind, name⟩, after⟩, hnamed, h⟩ := Option.bind_eq_some_iff.mp h
  simp only at h
  split at h
  next inner hstart =>
    obtain ⟨⟨body, last⟩, -, h⟩ := Option.bind_eq_some_iff.mp h
    obtain ⟨rfl, -⟩ := Prod.mk.inj (Option.some.inj h)
    exact ⟨kind, name, body, rfl, (named?_cases hnamed).1⟩
  next => cases h

theorem simple?_cases {cs rest : List Char} {written : Written}
    (h : simple? cs = some (written, rest)) :
    ∃ kind name, written = .simple kind name ∧ (kind, kind) ∈ simpleKeywords
      ∧ IsNameOf Text.isWord name := by
  obtain ⟨⟨⟨kind, name⟩, after⟩, hnamed, h⟩ := Option.bind_eq_some_iff.mp h
  obtain ⟨hname, word, hword⟩ := named?_cases hnamed
  obtain ⟨k, hk, heq⟩ := List.mem_map.mp hword
  obtain ⟨rfl, rfl⟩ := Prod.mk.inj heq
  have hwritten : written = .simple k name := by
    simp only at h
    split at h
    next => exact (Prod.mk.inj (Option.some.inj h)).1.symm
    next => exact (Prod.mk.inj (Option.some.inj h)).1.symm
    next => cases h
  exact ⟨k, name, hwritten, hword, hname⟩

theorem mem_declarations {text : String} {d : Declaration} (h : d ∈ declarations text) :
    IsNameOf Text.isWord d.name
      ∧ ∀ kind name, d.written = .simple kind name → (kind, kind) ∈ simpleKeywords := by
  obtain ⟨before, cs, rest, -, hmatch⟩ := exists_match_of_mem_allFrom h
  simp only [declaration] at hmatch
  split_ifs at hmatch
  obtain ⟨⟨written, after⟩, hwritten, heq⟩ := Option.map_eq_some_iff.mp hmatch
  obtain ⟨rfl, -⟩ := Prod.mk.inj heq
  rcases Option.or_eq_some_iff.mp hwritten with hblock | ⟨-, hsimple⟩
  · obtain ⟨kind, name, body, rfl, hname⟩ := block?_cases hblock
    exact ⟨hname, fun _ _ h => by cases h⟩
  · obtain ⟨kind, name, rfl, hkind, hname⟩ := simple?_cases hsimple
    refine ⟨hname, fun kind' name' h => ?_⟩
    obtain ⟨rfl, -⟩ := Written.simple.inj h
    exact hkind

theorem mem_of_mem_taken {seen : Bool} {ds : List Declaration} {d : Declaration}
    (h : d ∈ taken seen ds) : d ∈ ds := by
  induction ds generalizing seen with
  | nil => exact h
  | cons first ds ih =>
    rw [taken] at h
    split_ifs at h
    · exact List.mem_cons_of_mem _ (ih h)
    · rcases List.mem_cons.mp h with rfl | h
      · simp
      · exact List.mem_cons_of_mem _ (ih h)

/-- What is in force under an id is declared in the text and has that id. -/
theorem mem_inForce {text id : String} {d : Declaration} (h : (id, d) ∈ inForce text) :
    d ∈ taken false (declarations text) ∧ id = d.id (namespaceIn text) := by
  obtain ⟨d', hd', heq⟩ := List.mem_map.mp (Entries.mem_of_mem_ofList h)
  obtain ⟨rfl, rfl⟩ := Prod.mk.inj heq
  exact ⟨hd', rfl⟩

end Declarations

end SmithyGen.Idl
