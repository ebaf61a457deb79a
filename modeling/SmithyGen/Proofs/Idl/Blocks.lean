import SmithyGen.Proofs.Idl.Enclosed
import SmithyGen.Proofs.Idl.Members
import SmithyGen.Proofs.Idl.Properties

namespace SmithyGen.Idl

open Source

theorem body?_of_continues {xs : List Char} (h : Continues '\x7d' (fun _ => false) xs)
    (rest : List Char) : body? (xs ++ '\x7d' :: rest) = some (xs, rest) :=
  h.enclosedFrom_close rest

/-- Text that neither starts a comment nor ends a body. -/
structure Inert (xs : List Char) : Prop where
  slash : '/' ∉ xs
  continues : Continues '\x7d' (fun _ => false) xs

def isPlain (c : Char) : Bool := isRefChar c || [' ', '\n', '@', ':', ',', '[', ']'].contains c

namespace Inert

theorem append {xs xs' : List Char} (h : Inert xs) (h' : Inert xs') : Inert (xs ++ xs') := by
  refine ⟨fun hmem => ?_, h.continues.append h'.continues⟩
  rcases List.mem_append.mp hmem with hmem | hmem
  · exact h.slash hmem
  · exact h'.slash hmem

theorem flatMap {β : Type} {f : β → List Char} {bs : List β} (h : ∀ b ∈ bs, Inert (f b)) :
    Inert (bs.flatMap f) := by
  refine ⟨fun hmem => ?_, .flatMap fun b hb => (h b hb).continues⟩
  obtain ⟨b, hb, hmem⟩ := List.mem_flatMap.mp hmem
  exact (h b hb).slash hmem

theorem of_forall {xs : List Char} (h : ∀ c ∈ xs, isPlain c = true) : Inert xs := by
  have hne {d : Char} (hd : isPlain d = false) : ∀ c ∈ xs, c ≠ d := by
    rintro c hc rfl
    rw [h c hc] at hd
    cases hd
  refine ⟨fun hmem => hne (by decide) '/' hmem rfl, .of_forall fun c hc => ⟨?_, ?_, rfl⟩⟩
  · exact hne (by decide) c hc
  · exact hne (by decide) c hc

theorem cons {c : Char} (hc : isPlain c = true) {xs : List Char} (h : Inert xs) :
    Inert (c :: xs) :=
  append (of_forall (show ∀ d ∈ [c], isPlain d = true by simpa using hc)) h

theorem ref (r : Ref) : Inert r.chars :=
  of_forall fun c hc => by simp [isPlain, Ref.isRefChar_of_mem hc]

theorem ident (i : Ident) : Inert i.chars := ref (.bare i)

theorem quoted (v : Version) : Inert (quoted v) := by
  have hchars : ∀ c ∈ v.chars, c ≠ '"' ∧ c ≠ '\\' := fun c hc =>
    ⟨ne_of_isVersionChar (v.isVersionChar_chars c hc) (by decide),
      ne_of_isVersionChar (v.isVersionChar_chars c hc) (by decide)⟩
  refine ⟨fun hmem => ?_, .literal (by decide) rfl (.of_forall hchars)⟩
  have hslash : '/' ∈ v.chars := by simpa [Source.quoted] using hmem
  exact absurd (v.isVersionChar_chars _ hslash) (by decide)

theorem bracketed (refs : List Ref) : Inert (bracketed refs) := by
  refine of_forall fun c hc => ?_
  simp only [Source.bracketed, List.cons_append, List.mem_cons, List.mem_append, List.not_mem_nil,
    or_false] at hc
  rcases hc with rfl | hc | rfl
  · decide
  · have hinside := mem_joinWith_refs hc
    simp only [Bool.or_eq_true, beq_iff_eq] at hinside
    rcases hinside with (href | rfl) | rfl
    · simp [isPlain, href]
    · decide
    · decide
  · decide

theorem line {cs : List Char} (h : Inert cs) (margin : Nat) : Inert (line margin cs) := by
  refine append (append (of_forall fun c hc => ?_) h) (of_forall fun c hc => ?_)
  · rw [List.eq_of_mem_replicate hc]
    decide
  · rw [List.mem_singleton.mp hc]
    decide

theorem traitLines (margin : Nat) (applied : List Ref) : Inert (traitLines margin applied) :=
  flatMap fun t _ => line (cons (by decide) (ref t)) margin

theorem fieldLine {name value : List Char} (hname : Inert name) (hvalue : Inert value)
    (margin : Nat) : Inert (fieldLine margin name value) :=
  line (hname.append (cons (by decide) (cons (by decide) hvalue))) margin

theorem memberLines (margin : Nat) (m : Source.Member) : Inert (m.lines margin) :=
  append (traitLines margin m.traits) (fieldLine (ident m.name) (ref m.target) margin)

end Inert

theorem Source.Block.property_cases {b : Block} {p : String × List Char} (h : p ∈ b.properties) :
    IsKey p.1 ∧ Inert p.2 ∧ ':' ∉ p.2 := by
  have hkey : ∀ key ∈ ["input", "output", "errors", "version", "operations"], IsKey key := by decide
  have href (r : Ref) : Inert r.chars ∧ ':' ∉ r.chars :=
    ⟨.ref r, fun hmem => absurd (Ref.isRefChar_of_mem hmem) (by decide)⟩
  have hrefs (rs : List Ref) : Inert (bracketed rs) ∧ ':' ∉ bracketed rs := by
    refine ⟨.bracketed rs, fun hmem => ?_⟩
    have hinside : ':' ∈ Text.joinWith [',', ' '] (rs.map Ref.chars) := by
      simpa [bracketed] using hmem
    exact absurd (mem_joinWith_refs hinside) (by decide)
  have hversion (v : Version) : Inert (quoted v) ∧ ':' ∉ quoted v := by
    refine ⟨.quoted v, fun hmem => ?_⟩
    have hinside : ':' ∈ v.chars := by simpa [quoted] using hmem
    exact absurd (v.isVersionChar_chars _ hinside) (by decide)
  cases b with
  | operation input output errors =>
    simp only [properties, List.mem_append, Option.mem_toList, Option.map_eq_some_iff] at h
    rcases h with (⟨r, -, rfl⟩ | ⟨r, -, rfl⟩) | ⟨rs, -, rfl⟩
    · exact ⟨hkey _ (by simp), href r⟩
    · exact ⟨hkey _ (by simp), href r⟩
    · exact ⟨hkey _ (by simp), hrefs rs⟩
  | service version operations errors =>
    simp only [properties, List.mem_append, Option.mem_toList, Option.map_eq_some_iff] at h
    rcases h with (⟨v, -, rfl⟩ | ⟨rs, -, rfl⟩) | ⟨rs, -, rfl⟩
    · exact ⟨hkey _ (by simp), hversion v⟩
    · exact ⟨hkey _ (by simp), hrefs rs⟩
    · exact ⟨hkey _ (by simp), hrefs rs⟩
  | _ => cases h

theorem IsKey.inert {key : String} (h : IsKey key) : Inert key.toList :=
  .of_forall fun c hc => by simp [isPlain, isRefChar_of_isNameChar (h.2 c hc)]

theorem Source.Block.inert_lines (b : Block) (margin : Nat) : Inert (b.lines margin) := by
  refine .append (.flatMap fun m _ => .memberLines margin m) (.flatMap fun p hp => ?_)
  obtain ⟨hkey, hvalue, -⟩ := property_cases hp
  exact .fieldLine hkey.inert hvalue margin

variable (ns : Path)

theorem map_resolve_text (refs : List Ref) :
    (refs.map Ref.text).map (resolve ns.text) = refs.map (·.shapeId ns) := by
  rw [List.map_map]
  exact List.map_congr_left fun r _ => resolve_text ns r

section Properties

variable {key : String} {properties : List (String × List Char)} (margin : Nat)

theorem shapeIn?_propertyLines (hkey : IsKey key)
    (hproperties : ∀ p ∈ properties, IsKey p.1 ∧ ':' ∉ p.2) {r : Option Ref}
    (hlookup : properties.lookup key = r.map Ref.chars) :
    shapeIn? key ns.text ('\n' :: propertyLines margin properties) = r.map (·.shapeId ns) := by
  rw [shapeIn?, first?_propertyLines (needs_shapeProperty key) hkey hproperties hlookup
    (fun r before rest hbefore => ⟨_, shapeProperty_ref key r hbefore rest⟩) margin, Option.map_map]
  exact Option.map_congr fun r _ => resolve_text ns r

theorem nameListIn_propertyLines (hkey : IsKey key)
    (hproperties : ∀ p ∈ properties, IsKey p.1 ∧ ':' ∉ p.2) {rs : Option (List Ref)}
    (hlookup : properties.lookup key = rs.map bracketed) :
    nameListIn key ns.text ('\n' :: propertyLines margin properties)
      = (rs.getD []).map (·.shapeId ns) := by
  rw [nameListIn, first?_propertyLines (needs_nameList key) hkey hproperties hlookup
    (fun rs before rest hbefore => ⟨_, nameList_bracketed key rs hbefore rest⟩) margin]
  cases rs with
  | none => rfl
  | some rs => exact map_resolve_text ns rs

theorem serviceVersion_propertyLines (hproperties : ∀ p ∈ properties, IsKey p.1 ∧ ':' ∉ p.2)
    {v : Option Version} (hlookup : properties.lookup "version" = v.map quoted) :
    serviceVersion ('\n' :: propertyLines margin properties)
      = v.elim "1.0" fun v => String.ofList v.chars := by
  rw [serviceVersion, first?_propertyLines needs_version (by decide) hproperties hlookup
    (fun v before rest hbefore => ⟨_, version_quoted v hbefore rest⟩) margin]
  cases v <;> rfl

end Properties

/-- A block is read as the shape that it stands for. -/
theorem blockShape_lines (margin : Nat) (b : Block) :
    blockShape .exact ns.text b.kind ('\n' :: b.lines margin) = .ok (b.shape ns) := by
  have hproperties : ∀ p ∈ b.properties, IsKey p.1 ∧ ':' ∉ p.2 := fun p hp =>
    ⟨(Block.property_cases hp).1, (Block.property_cases hp).2.2⟩
  have hmembers (hnone : b.properties = []) (hnodup : (b.members.map (·.name.text)).Nodup) :
      members ns.text ('\n' :: b.lines margin) = b.members.map (·.entry ns) := by
    rw [Block.lines, hnone, propertyLines, List.flatMap_nil, List.append_nil]
    exact members_lines ns margin hnodup
  cases b with
  | struct ms =>
    change Except.ok (Shape.struct (members ns.text _)) = _
    rw [hmembers rfl ms.nodup]
    rfl
  | union ms =>
    change Except.ok (Shape.union (members ns.text _)) = _
    rw [hmembers rfl ms.nodup]
    rfl
  | list traits member =>
    change Except.ok (Shape.list (members ns.text _)) = _
    rw [hmembers rfl (List.nodup_singleton _)]
    rfl
  | map keyTraits key valueTraits value =>
    have hnodup : [keyName.text, valueName.text].Nodup := by decide
    change Except.ok (Shape.map (members ns.text _)) = _
    rw [hmembers rfl hnodup]
    rfl
  | operation input output errors =>
    have hinput := shapeIn?_propertyLines ns margin (show IsKey "input" by decide) hproperties
      (show _ = input.map Ref.chars by simp [Block.properties])
    have houtput := shapeIn?_propertyLines ns margin (show IsKey "output" by decide) hproperties
      (show _ = output.map Ref.chars by simp [Block.properties])
    have herrors := nameListIn_propertyLines ns margin (show IsKey "errors" by decide) hproperties
      (show _ = errors.map bracketed by simp [Block.properties])
    change Except.ok (Shape.operation (shapeIn? "input" ns.text ('\n' :: propertyLines margin _))
      (shapeIn? "output" ns.text ('\n' :: propertyLines margin _))
      (nameListIn "errors" ns.text ('\n' :: propertyLines margin _))) = _
    rw [hinput, houtput, herrors]
    rfl
  | service version operations errors =>
    have hversion := serviceVersion_propertyLines margin hproperties
      (show _ = version.map quoted by simp [Block.properties])
    have hoperations := nameListIn_propertyLines ns margin (show IsKey "operations" by decide)
      hproperties (show _ = operations.map bracketed by simp [Block.properties])
    have herrors := nameListIn_propertyLines ns margin (show IsKey "errors" by decide) hproperties
      (show _ = errors.map bracketed by simp [Block.properties])
    change Except.ok (Shape.service (serviceVersion ('\n' :: propertyLines margin _))
      (nameListIn "operations" ns.text ('\n' :: propertyLines margin _))
      (nameListIn "errors" ns.text ('\n' :: propertyLines margin _))) = _
    rw [hversion, hoperations, herrors]
    rfl

end SmithyGen.Idl
