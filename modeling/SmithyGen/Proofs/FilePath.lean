import Mathlib.Data.String.Basic
import Mathlib.Tactic.FinCases
import SmithyGen.Proofs.ArtifactPaths

namespace SmithyGen

namespace FilePath

theorem isComponent_of_mem_parts {s part : String} (h : part ∈ (ofString s).parts) :
    IsComponent part := by
  obtain ⟨cs, hcs, rfl⟩ := List.mem_map.mp h
  obtain ⟨hmem, hkeep⟩ := List.mem_filter.mp hcs
  simp only [Bool.and_eq_true, bne_iff_ne, ne_eq] at hkeep
  refine ⟨?_, ?_, ?_⟩
  · intro he
    exact hkeep.1 (String.ofList_eq.mp he)
  · intro he
    exact hkeep.2 (String.ofList_eq.mp he)
  · intro hc
    rw [String.toList_ofList] at hc
    simpa using Text.eq_false_of_mem_splitWhere hmem hc

theorem root_ofString (s : String) : (ofString s).root ∈ ["", "/", "//"] := by
  change rootOf s.toList ∈ _
  unfold rootOf
  split <;> simp

theorem intercalate_concat (names : List String) (last : String) :
    ("/".intercalate (names ++ [last])).toList
      = names.flatMap (fun name => name.toList ++ ['/']) ++ last.toList := by
  rw [String.toList_intercalate]
  induction names with
  | nil => simp
  | cons name names ih =>
    cases names with
    | nil => simp [List.intercalate_cons_cons]
    | cons next names =>
      rw [List.cons_append, List.cons_append, List.map_cons, List.map_cons,
        List.intercalate_cons_cons, ← List.map_cons, ← List.cons_append, ih]
      simp

theorem splitWhere_slash {names : List String} (h : ∀ name ∈ names, IsComponent name)
    {last : List Char} (hlast : '/' ∉ last) :
    Text.splitWhere (· == '/') (names.flatMap (fun name => name.toList ++ ['/']) ++ last)
      = names.map String.toList ++ [last] := by
  have hplain : ∀ cs : List Char, '/' ∉ cs → Text.splitWhere (· == '/') cs = [cs] :=
    fun cs hcs => Text.splitWhere_of_none fun c hc => by
      simpa using fun he : c = '/' => hcs (he ▸ hc)
  induction names with
  | nil => simpa using hplain last hlast
  | cons name names ih =>
    have hsplit := Text.splitWhere_append_cons (p := (· == '/')) (c := '/') rfl name.toList
      (names.flatMap (fun name => name.toList ++ ['/']) ++ last)
    rw [ih fun n hn => h n (List.mem_cons_of_mem _ hn),
      hplain _ (h name (by simp)).no_slash] at hsplit
    simpa using hsplit

theorem IsComponent.append {s suffix : String} (h : IsComponent s) (hslash : '/' ∉ suffix.toList)
    (hne : suffix ≠ "") : IsComponent (s ++ suffix) where
  ne_empty he := h.ne_empty (String.append_eq_empty_iff.mp he).1
  ne_dot he := by
    have hlength := congrArg String.length he
    have hs : s.length ≠ 0 := fun h0 => h.ne_empty (String.length_eq_zero_iff.mp h0)
    have hsuffix : suffix.length ≠ 0 := fun h0 => hne (String.length_eq_zero_iff.mp h0)
    rw [String.length_append] at hlength
    have hdot : ".".length = 1 := rfl
    omega
  no_slash := by simp [String.toList_append, h.no_slash, hslash]

theorem IsComponent.takeWhile_slash {s : String} (h : IsComponent s) (rest : List Char) :
    (s.toList ++ rest).takeWhile (· == '/') = [] := by
  cases hs : s.toList with
  | nil => exact absurd (String.toList_eq_nil_iff.mp hs) h.ne_empty
  | cons c cs =>
    have hc : c ≠ '/' := by
      rintro rfl
      exact h.no_slash (by simp [hs])
    simp [hc]

theorem rootOf_append {root : String} (h : root ∈ ["", "/", "//"]) {rest : List Char}
    (hrest : rest.takeWhile (· == '/') = []) : rootOf (root.toList ++ rest) = root := by
  have hslashes : (root.toList ++ rest).takeWhile (· == '/') = root.toList := by
    rw [List.takeWhile_append_of_pos, hrest, List.append_nil]
    fin_cases h <;> simp
  rw [rootOf, hslashes]
  fin_cases h <;> rfl

theorem filter_splitWhere_root {root : String} (h : root ∈ ["", "/", "//"]) (rest : List Char) :
    (Text.splitWhere (· == '/') (root.toList ++ rest)).filter (fun p => p != [] && p != ['.'])
      = (Text.splitWhere (· == '/') rest).filter fun p => p != [] && p != ['.'] := by
  fin_cases h <;> simp [Text.splitWhere]

/-- A path of components, written and read again, is the same path. -/
theorem ofString_toString {root : String} {parts : List String} (hroot : root ∈ ["", "/", "//"])
    (hparts : ∀ part ∈ parts, IsComponent part) (hne : parts ≠ []) :
    ofString (toString ⟨root, parts⟩) = ⟨root, parts⟩ := by
  obtain ⟨names, last, rfl⟩ : ∃ names last, parts = names ++ [last] :=
    ⟨_, _, (List.dropLast_append_getLast hne).symm⟩
  have hlast : IsComponent last := hparts last (by simp)
  have hnames : ∀ name ∈ names, IsComponent name := fun name hname => hparts name (by simp [hname])
  -- the text after the root
  let rest := names.flatMap (fun name => name.toList ++ ['/']) ++ last.toList
  have htext : (FilePath.toString ⟨root, names ++ [last]⟩).toList = root.toList ++ rest := by
    have hshow : FilePath.toString ⟨root, names ++ [last]⟩
        = root ++ "/".intercalate (names ++ [last]) := by simp [FilePath.toString]
    rw [hshow, String.toList_append, intercalate_concat]
  have hhead : rest.takeWhile (· == '/') = [] := by
    cases names with
    | nil =>
      have h := hlast.takeWhile_slash []
      rwa [List.append_nil] at h
    | cons name names =>
      have h := (hnames name (by simp)).takeWhile_slash
      simp only [rest, List.flatMap_cons, List.append_assoc, h]
  have hkeep : ((names ++ [last]).map String.toList).filter (fun p => p != [] && p != ['.'])
      = (names ++ [last]).map String.toList := by
    rw [List.filter_eq_self]
    intro part hpart
    obtain ⟨name, hname, rfl⟩ := List.mem_map.mp hpart
    have h := hparts name hname
    have hempty : name.toList ≠ [] := fun he => h.ne_empty (String.toList_eq_nil_iff.mp he)
    have hdot : name.toList ≠ ['.'] := fun he => h.ne_dot (String.toList_inj.mp he)
    simp [hempty, hdot]
  have hsplit : Text.splitWhere (· == '/') rest = (names ++ [last]).map String.toList := by
    rw [splitWhere_slash hnames hlast.no_slash]
    simp
  rw [ofString, htext, rootOf_append hroot hhead, filter_splitWhere_root hroot, hsplit, hkeep,
    List.map_map]
  simp [Function.comp_def]

theorem toString_append (root : String) (names : List String) (last suffix : String) :
    toString ⟨root, names ++ [last]⟩ ++ suffix = toString ⟨root, names ++ [last ++ suffix]⟩ := by
  have hshow : ∀ part, toString ⟨root, names ++ [part]⟩
      = root ++ "/".intercalate (names ++ [part]) := by simp [FilePath.toString]
  rw [hshow, hshow, ← String.toList_inj]
  simp only [String.toList_append, intercalate_concat, List.append_assoc]

theorem ofString_toString_append {s suffix last : String} {names : List String}
    (hparts : (ofString s).parts = names ++ [last]) (hslash : '/' ∉ suffix.toList)
    (hne : suffix ≠ "") :
    ofString ((ofString s).toString ++ suffix)
      = ⟨(ofString s).root, names ++ [last ++ suffix]⟩ := by
  have hcomponent : ∀ part ∈ names ++ [last], IsComponent part := fun part hpart =>
    isComponent_of_mem_parts (hparts ▸ hpart)
  have hroot := root_ofString s
  generalize ofString s = p at hparts hroot ⊢
  obtain ⟨root, parts⟩ := p
  subst hparts
  rw [toString_append]
  refine ofString_toString hroot ?_ (by simp)
  intro part hpart
  rcases List.mem_append.mp hpart with hpart | hpart
  · exact hcomponent part (by simp [hpart])
  · rw [List.mem_singleton.mp hpart]
    exact (hcomponent last (by simp)).append hslash hne

end FilePath

end SmithyGen
