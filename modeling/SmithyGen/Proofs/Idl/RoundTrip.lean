import SmithyGen.Proofs.Idl.Comment
import SmithyGen.Proofs.Idl.Declared
import SmithyGen.Proofs.Idl.Headings

namespace SmithyGen.Idl

open Matcher Source

theorem chars_eq (margin : Nat) (s : Source) :
    s.chars margin = "namespace".toList ++ ' ' :: (s.ns.chars
      ++ '\n' :: s.declarations.flatMap fun d => '\n' :: d.lines margin) := by
  simp [Source.chars, line]

theorem passes_namespace (ns : Path) (ys : List Char) :
    Passes declaration none ("namespace".toList ++ ([' '] ++ (ns.chars ++ ['\n']))) ys := by
  have hkey : IsKey "namespace" := by decide
  have hblock : ∀ entry ∈ blockKeywords, entry.1 ≠ "namespace" := by decide
  have hsimple : ∀ entry ∈ simpleKeywords, entry.1 ≠ "namespace" := by decide
  -- The word, the space, the path and the line break are passed over one by one. A path may be a
  -- keyword, but no name follows it on its line.
  refine .append ?_ (.append ?_ (.append ?_ ?_))
  · refine passes_declaration_word (fun c hc => isRefChar_of_isNameChar (hkey.2 c hc)) ⟨?_, ?_⟩ none
    · exact named?_other isKey_blockKeywords hkey hblock _
    · exact named?_other isKey_simpleKeywords hkey hsimple _
  · exact ⟨declaration_sign (by decide) (by decide) (by decide) _ _, trivial⟩
  · refine passes_declaration_word (fun c => Path.isRefChar_of_mem) ⟨?_, ?_⟩ _
    · exact named?_line isKey_blockKeywords (fun c => Path.isRefChar_of_mem) ys
    · exact named?_line isKey_simpleKeywords (fun c => Path.isRefChar_of_mem) ys
  · exact ⟨declaration_sign (by decide) (by decide) (by decide) _ _, trivial⟩

theorem declaration_all (margin : Nat) (s : Source) :
    declaration.all (s.chars margin) = s.declarations.map (·.written margin) := by
  have htext : s.chars margin = "namespace".toList ++ ([' '] ++ (s.ns.chars ++ ['\n']))
      ++ s.declarations.flatMap fun d => '\n' :: d.lines margin := by
    simp [chars_eq]
  rw [Matcher.all, htext, allFrom_of_passes (passes_namespace s.ns _), allFrom_declarations]

theorem namespaceLine_first? (margin : Nat) (s : Source) :
    namespaceLine.first? (s.chars margin) = some s.ns.text := by
  have hpart : ∀ c ∈ s.ns.chars, (Text.isWord c || c == '.') = true := by
    intro c hc
    rcases Path.isNameChar_of_mem hc with hname | rfl
    · simp [isWord_of_isNameChar hname]
    · decide
  rw [chars_eq]
  generalize s.declarations.flatMap (fun d => '\n' :: d.lines margin) = rest
  obtain ⟨htake, hdrop⟩ := Text.takeWhile_dropWhile_append hpart
    (show ∀ c ∈ ('\n' :: rest).head?, (Text.isWord c || c == '.') = false by simp; decide)
  have hmatch : namespaceLine none ("namespace".toList ++ ' ' :: (s.ns.chars ++ '\n' :: rest))
      = some (s.ns.text, '\n' :: rest) := by
    have hfirst := isRefChar_of_isNameChar (isNameChar_of_isNameStart s.ns.first.isNameStart_first)
    have hskip : skipBlank ("namespace".toList ++ ' ' :: (s.ns.chars ++ '\n' :: rest))
        = "namespace".toList ++ ' ' :: (s.ns.chars ++ '\n' :: rest) := rfl
    have hinner : skipBlank (' ' :: (s.ns.chars ++ '\n' :: rest)) = s.ns.chars ++ '\n' :: rest := by
      refine skipBlank_space fun c hc => ?_
      obtain rfl : s.ns.first.first = c := Option.some.inj hc
      exact isBlank_of_isRefChar hfirst
    have hname : s.ns.chars.isEmpty = false := rfl
    have hlength : ((s.ns.chars ++ '\n' :: rest).length
        == (' ' :: (s.ns.chars ++ '\n' :: rest)).length) = false := by simp
    simp only [namespaceLine, hskip, Text.strip?_append, Option.bind_eq_bind, Option.bind_some,
      hinner, htake, hdrop, hname, hlength]
    rfl
  rw [first?, firstFrom_of_match (by simp) hmatch]

theorem Inert.heading {word : String} (h : IsKey word) (name : Ident) :
    Inert (heading word name) :=
  h.inert.append (.cons (by decide) (.ident name))

theorem slash_not_mem_lines (margin : Nat) (d : Source.Declaration) : '/' ∉ d.lines margin := by
  obtain ⟨traits, name, content⟩ := d
  intro h
  rcases List.mem_append.mp h with h | h
  · exact (Inert.traitLines 0 traits).slash h
  · cases content with
    | simple kind known =>
      exact (Inert.line (.heading (isKey_simpleKeywords _ known) name) 0).slash h
    | block b =>
      have hkey : IsKey (keyword b.kind) := by cases b.kind <;> decide
      have hheading := (Inert.heading hkey name).slash
      have hlines := (b.inert_lines margin).slash
      simp [line, hheading, hlines] at h

theorem slash_not_mem_chars (margin : Nat) (s : Source) : '/' ∉ s.chars margin := by
  intro h
  rcases List.mem_append.mp h with h | h
  · have hns : '/' ∉ s.ns.chars := fun hmem => absurd (Path.isRefChar_of_mem hmem) (by decide)
    simp [line, hns] at h
  · obtain ⟨d, -, h⟩ := List.mem_flatMap.mp h
    rcases List.mem_cons.mp h with h | h
    · exact absurd h (by decide)
    · exact slash_not_mem_lines margin d h

theorem isService_written (margin : Nat) (d : Source.Declaration) :
    (d.written margin).isService = d.content.isService := by
  obtain ⟨traits, name, content⟩ := d
  cases content with
  | simple kind known => rfl
  | block b => cases b <;> rfl

theorem id_written (ns : Path) (margin : Nat) (d : Source.Declaration) :
    (d.written margin).id ns.text = ns.id d.name := by
  obtain ⟨traits, name, content⟩ := d
  cases content <;> rfl

theorem declared_written (ns : Path) (margin : Nat) (d : Source.Declaration) :
    (d.written margin).declared .exact ns.text = .ok (d.entry ns).2 := by
  obtain ⟨traits, name, content⟩ := d
  cases content with
  | simple kind known => rfl
  | block b => exact Outcome.map_eq_ok.mpr ⟨_, blockShape_lines ns margin b, rfl⟩

section Rendered

variable (margin : Nat) (s : Source)

theorem stripComments_render : stripComments (s.render margin).toList = s.chars margin := by
  rw [Source.render, String.toList_ofList, stripComments_eq_self (slash_not_mem_chars margin s)]

theorem namespaceIn_render : namespaceIn (s.render margin) = s.ns.text := by
  rw [namespaceIn, stripComments_render, namespaceLine_first?, Option.getD_some]

theorem declarations_render :
    declarations (s.render margin) = s.declarations.map (·.written margin) := by
  rw [declarations, stripComments_render, declaration_all]

theorem countP_isService_render :
    (declarations (s.render margin)).countP (·.isService) ≤ 1 := by
  rw [declarations_render, List.countP_map, List.countP_eq_length_filter]
  simpa only [Function.comp_def, isService_written] using s.single

/-- All declarations are in force, in the order of the text. -/
theorem inForce_render :
    inForce (s.render margin) = s.declarations.map fun d => (s.ns.id d.name, d.written margin) := by
  have hids : (s.declarations.map (s.ns.id ·.name)).Nodup := by
    have hinj : Function.Injective fun name => s.ns.text ++ "#" ++ name := by
      intro a b h
      rw [← String.toList_inj] at h ⊢
      simpa using h
    have hmap := s.nodup.map hinj
    rwa [List.map_map] at hmap
  rw [inForce, taken_eq_self (countP_isService_render margin s), declarations_render,
    namespaceIn_render, List.map_map]
  simp only [Function.comp_def, id_written]
  exact Entries.ofList_of_nodup (by simpa [List.map_map, Function.comp_def] using hids)

theorem readNotices_render (file : String) :
    readNotices file (s.render margin) = [.parsed s.declarations.length file] := by
  have hpassed : passedOver file s.ns.text none (declarations (s.render margin)) = [] :=
    passedOver_eq_nil (countP_isService_render margin s)
  simp [readNotices, stripComments_render, namespaceLine_first?, namespaceIn_render, hpassed,
    inForce_render]

end Rendered

/-- A text is read as the tree that it was written for: every declaration is found, with its traits,
members and properties in the order of the text, and nothing else. -/
theorem read_render (file : String) (margin : Nat) (s : Source) :
    read .exact file (s.render margin) = ⟨[.parsed s.declarations.length file], .ok s.ast⟩ := by
  have hexact : ∀ typeName, RequiredPolicy.exact ≠ .unset typeName := by simp
  choose f hf using declared_isOk hexact s.ns.text
  have hwritten : ∀ d : Source.Declaration, f (d.written margin) = (d.entry s.ns).2 := fun d =>
    Except.ok.inj ((hf _).symm.trans (declared_written s.ns margin d))
  rw [read_eq (namespaceIn_render margin s ▸ hf), readNotices_render, namespaceIn_render,
    inForce_render, List.map_map]
  simp only [Function.comp_def, hwritten]
  rfl

example : Source.render 2
    ⟨⟨⟨'b', "log".toList, by decide, List.all_eq_true.mp (by decide)⟩, []⟩,
      [⟨[.bare ⟨'s', "ealed".toList, by decide, List.all_eq_true.mp (by decide)⟩],
        ⟨'P', "osts".toList, by decide, List.all_eq_true.mp (by decide)⟩,
        .block (.list [] (.bare ⟨'P', "ost".toList, by decide, List.all_eq_true.mp (by decide)⟩))⟩],
      by decide, by decide⟩
    = "namespace blog\n\n@sealed\nlist Posts \x7b\n  member: Post\n\x7d\n" := by decide

end SmithyGen.Idl
